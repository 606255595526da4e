import LawFirmDigitalTwin.Mesh.Router

/-!
# What routing means

A request is routed exactly when it meets a list of guards, stated here without the router's loops
and dictionaries: `RoutingGuards`. Each of the four id lists of a request is a `Citation`, and every
id in it must resolve to a record of the ledger that is valid for the list. Who is sent the work is
not who checks it (`route_separated`).
-/

namespace LawFirmDigitalTwin

/-! ## The guards -/

/-- The four id lists of a request. -/
inductive Citation
  | sourceAdmission
  | reuseRelease
  | authority
  | prerequisite
  deriving DecidableEq

namespace Citation

/-- The ids that a request cites in a list. -/
def ids (request : OperationalWorkRequest) : Citation → List String
  | sourceAdmission => request.sourceAdmissionReceiptIds
  | reuseRelease => request.reuseReleaseReceiptIds
  | authority => request.authorityArtifactIds
  | prerequisite => request.prerequisiteReceiptIds

/-- The kind of record that a list is for, or what the kind starts with. -/
def expectedKind : Citation → String
  | sourceAdmission => "source_admission"
  | reuseRelease => "reuse_release"
  | authority => "authority:"
  | prerequisite => "prerequisite:"

/-- The kinds of a list share a beginning. -/
def isPrefix : Citation → Bool
  | sourceAdmission => false
  | reuseRelease => false
  | authority => true
  | prerequisite => true

/-- The record is of the kind of the list. -/
def KindMatches (record : VerifiedOperationalRecord) : Citation → Prop
  | sourceAdmission => record.recordKind = "source_admission"
  | reuseRelease => record.recordKind = "reuse_release"
  | authority => ∃ kind, record.recordKind = "authority:" ++ kind
  | prerequisite => ∃ kind, record.recordKind = "prerequisite:" ++ kind

/-- A record for every matter may be cited in the list. -/
def AllowsGlobal : Citation → Prop
  | sourceAdmission => True
  | reuseRelease => True
  | authority => False
  | prerequisite => False

/-- The class rule of the list. -/
def ClassRule (record : VerifiedOperationalRecord) : Citation → Prop
  | sourceAdmission => record.sourceClass = "synthetic" ∨ record.sourceClass = "public"
  | reuseRelease => record.sourceClass = "released_local_asset" ∧ record.issuerClass = "named_human"
  | authority => record.issuerClass = "named_human"
  | prerequisite => True

end Citation

/-- A record is valid for a list of a request that goes to a worker. -/
structure ValidFor (c : Citation) (request : OperationalWorkRequest) (worker : OperationalRole)
    (record : VerifiedOperationalRecord) : Prop where
  kind : c.KindMatches record
  subject : record.subjectMatterCommitment = request.matterCommitment ∨
    c.AllowsGlobal ∧ record.subjectMatterCommitment = "global"
  scope : request.capabilityId ∈ record.scopeCapabilityIds ∨ "*" ∈ record.scopeCapabilityIds
  validFrom : record.validFromRevision = operationalMeshRevision
  validThrough : record.validThroughRevision = operationalMeshRevision
  digestShape : ∃ hex : String, record.assetDigest = "sha256:" ++ hex ∧ hex.length = 64
  notRequester : record.issuerId ≠ request.requesterRoleId
  notWorker : record.issuerId ≠ worker.roleId
  notChecker : record.issuerId ≠ worker.checkerRoleId
  approved : record.approved = true
  classRule : c.ClassRule record

section
variable (request : OperationalWorkRequest) (ledger : OperationalAuthorityLedger)
  (registry : List OperationalRole) (worker : OperationalRole)

/-- A cited id resolves to a record of the ledger that is valid for the list. -/
def Resolves (c : Citation) (recordId : String) : Prop :=
  ∃ record ∈ ledger.records, record.recordId = recordId ∧ ValidFor c request worker record

/-- A required kind is covered by a record that a cited id of the list resolves to. -/
def Covered (c : Citation) (kind : String) : Prop :=
  ∃ recordId ∈ c.ids request, ∃ record ∈ ledger.records, record.recordId = recordId ∧
    ValidFor c request worker record ∧ record.recordKind = c.expectedKind ++ kind

/-- The capability is offered by exactly one role, the worker. -/
def OfferedBy : Prop :=
  (registry.filter fun role => request.capabilityId ∈ role.capabilityIds) = [worker]

/-- The guards of routing, but for the authority that the worker requires. -/
structure RoutingGuards : Prop where
  issuer : ledger.issuerId = kernelLedgerIssuer
  noDuplicates : (ledger.records.map (·.recordId)).Nodup
  knownMatter : request.matterCommitment ∈ ledger.knownMatterCommitments
  knownRequester : request.requesterRoleId ∈ ledger.knownRequesterRoleIds
  notHumanOnly : request.capabilityId ∉ humanOnlyCapabilities
  offered : OfferedBy request registry worker
  active : worker.active = true
  data : request.dataClass ∈ allowedDataClasses ∧ request.syntheticOnly = true
  effect : request.effectClass ∈ allowedEffects
  io : request.externalIo = false
  notChecker : request.requesterRoleId ≠ worker.checkerRoleId
  citations : ∀ c : Citation, ∀ recordId ∈ c.ids request, Resolves request ledger worker c recordId
  sourceAdmission : worker.requiresSourceAdmission = true →
    ∃ recordId ∈ request.sourceAdmissionReceiptIds,
      Resolves request ledger worker .sourceAdmission recordId
  reuseRelease : worker.requiresReuseRelease = true →
    ∃ recordId ∈ request.reuseReleaseReceiptIds,
      Resolves request ledger worker .reuseRelease recordId
  prerequisites : ∀ kind ∈ worker.requiredPrerequisiteKinds,
    Covered request ledger worker .prerequisite kind
  adapter : request.requestedAdapter = worker.adapterKind

/-- Every authority that the worker requires is covered. -/
def AuthorityCovered : Prop :=
  ∀ kind ∈ worker.requiredAuthorityKinds, Covered request ledger worker .authority kind

end

/-! ## The dictionary of the records -/

section
variable {request : OperationalWorkRequest} {ledger : OperationalAuthorityLedger}
  {registry : List OperationalRole} {worker : OperationalRole}

/-- `records_by_id`. -/
def recordsById (ledger : OperationalAuthorityLedger) : PyDict VerifiedOperationalRecord :=
  .ofEntries (ledger.records.map fun record => (record.recordId, record))

/-- The records of a ledger are keyed by their ids. -/
theorem map_fst_records (ledger : OperationalAuthorityLedger) :
    (ledger.records.map fun record => (record.recordId, record)).map (·.1) =
      ledger.records.map (·.recordId) := by
  rw [List.map_map]
  rfl

/-- The dictionary has as many keys as the ledger has records when no id is there twice. -/
theorem card_recordsById :
    (recordsById ledger).keys.card = ledger.records.length ↔
      (ledger.records.map (·.recordId)).Nodup := by
  rw [recordsById, PyDict.keys_ofEntries, map_fst_records]
  have hcard := Multiset.toFinset_card_eq_card_iff_nodup
    (m := ((ledger.records.map (·.recordId) : List String) : Multiset String))
  simpa using hcard

/-- Without duplicates, the dictionary finds the record with an id. -/
theorem get?_recordsById (hnd : (ledger.records.map (·.recordId)).Nodup) {recordId : String}
    {record : VerifiedOperationalRecord} :
    (recordsById ledger).get? recordId = some record ↔
      record ∈ ledger.records ∧ record.recordId = recordId := by
  constructor
  · exact PyDict.mem_of_get?_keyed
  · rintro ⟨hr, rfl⟩
    exact PyDict.get?_keyed_of_mem hnd hr

/-! ## Resolving the records of a list -/

/-- The check of `_resolve_records` on the record of a list. -/
def acceptedIn (c : Citation) (request : OperationalWorkRequest) (worker : OperationalRole)
    (ledger : OperationalAuthorityLedger) (record : VerifiedOperationalRecord) : Bool :=
  recordAccepted c.expectedKind request worker ledger (recordsById ledger) c.isPrefix record

/-- The record that a cited id resolves to. -/
def resolved? (c : Citation) (request : OperationalWorkRequest) (worker : OperationalRole)
    (ledger : OperationalAuthorityLedger) (recordId : String) : Option VerifiedOperationalRecord :=
  ((recordsById ledger).get? recordId).filter (acceptedIn c request worker ledger)

/-- The reason that a cited id gives. -/
def refusal? (c : Citation) (request : OperationalWorkRequest) (worker : OperationalRole)
    (ledger : OperationalAuthorityLedger) (recordId : String) : Option String :=
  match (recordsById ledger).get? recordId with
  | none => some ("unverified_record:" ++ recordId)
  | some record =>
    if acceptedIn c request worker ledger record then none
    else some ("invalid_record:" ++ recordId)

/-- What becomes of a cited id. -/
theorem cite_cases (c : Citation) (request : OperationalWorkRequest) (worker : OperationalRole)
    (ledger : OperationalAuthorityLedger) (recordId : String) :
    ((recordsById ledger).get? recordId = none ∧
        resolved? c request worker ledger recordId = none ∧
        refusal? c request worker ledger recordId = some ("unverified_record:" ++ recordId)) ∨
      ∃ record, (recordsById ledger).get? recordId = some record ∧
        (acceptedIn c request worker ledger record = true ∧
            resolved? c request worker ledger recordId = some record ∧
            refusal? c request worker ledger recordId = none ∨
          ¬ acceptedIn c request worker ledger record = true ∧
            resolved? c request worker ledger recordId = none ∧
            refusal? c request worker ledger recordId =
              some ("invalid_record:" ++ recordId)) := by
  unfold resolved? refusal?
  cases (recordsById ledger).get? recordId with
  | none => exact .inl ⟨rfl, rfl, rfl⟩
  | some record =>
    refine .inr ⟨record, rfl, ?_⟩
    by_cases haccepted : acceptedIn c request worker ledger record = true
    · exact .inl ⟨haccepted, by rw [Option.filter_some, if_pos haccepted], if_pos haccepted⟩
    · exact .inr ⟨haccepted, by rw [Option.filter_some, if_neg haccepted], if_neg haccepted⟩

/-- **The loop of `_resolve_records`**: every id resolves or gives a reason. -/
theorem resolveRecords_eq (c : Citation) (recordIds reasons : List String) :
    resolveRecords recordIds c.expectedKind request worker ledger (recordsById ledger) reasons
        c.isPrefix =
      (recordIds.filterMap (resolved? c request worker ledger),
        reasons ++ recordIds.filterMap (refusal? c request worker ledger)) := by
  induction recordIds generalizing reasons with
  | nil => simp [resolveRecords]
  | cons recordId rest ih =>
    rw [resolveRecords, List.filterMap_cons, List.filterMap_cons]
    rcases cite_cases c request worker ledger recordId with
      ⟨hget, hresolved, hrefusal⟩ | ⟨record, hget, ⟨haccepted, hresolved, hrefusal⟩ |
        ⟨haccepted, hresolved, hrefusal⟩⟩
    · simp only [hget, hresolved, hrefusal, ih, List.append_assoc, List.singleton_append]
    · unfold acceptedIn at haccepted
      simp only [hget, hresolved, hrefusal, haccepted, if_true, ih]
    · unfold acceptedIn at haccepted
      simp only [hget, hresolved, hrefusal, if_neg haccepted, ih, List.append_assoc,
        List.singleton_append]

/-- A citation is not refused just where it resolves. -/
theorem refusal?_eq_none {c : Citation} {recordId : String} :
    refusal? c request worker ledger recordId = none ↔
      ∃ record, resolved? c request worker ledger recordId = some record := by
  rcases cite_cases c request worker ledger recordId with
    ⟨-, hresolved, hrefusal⟩ | ⟨record, -, ⟨-, hresolved, hrefusal⟩ | ⟨-, hresolved, hrefusal⟩⟩
  all_goals simp [hresolved, hrefusal]

/-- The shape that the router asks of a digest. -/
theorem digestShape_iff {s : String} :
    (startsWith s "sha256:" && decide (s.length = "sha256:".length + 64)) = true ↔
      ∃ hex : String, s = "sha256:" ++ hex ∧ hex.length = 64 := by
  rw [Bool.and_eq_true, startsWith_iff, decide_eq_true_iff]
  constructor
  · rintro ⟨⟨hex, rfl⟩, hlen⟩
    rw [String.length_append] at hlen
    exact ⟨hex, rfl, by omega⟩
  · rintro ⟨hex, rfl, hlen⟩
    exact ⟨⟨hex, rfl⟩, by rw [String.length_append, hlen]⟩

/-- A record of the ledger is accepted for a list when it is valid for it. -/
theorem acceptedIn_iff {c : Citation} {record : VerifiedOperationalRecord}
    (hissuer : ledger.issuerId = kernelLedgerIssuer)
    (hrecord : ((recordsById ledger).get? record.recordId).isSome) :
    acceptedIn c request worker ledger record = true ↔ ValidFor c request worker record := by
  have hkind : (if c.isPrefix = true then startsWith record.recordKind c.expectedKind
      else decide (record.recordKind = c.expectedKind)) = true ↔ c.KindMatches record := by
    cases c with
    | sourceAdmission => exact decide_eq_true_iff
    | reuseRelease => exact decide_eq_true_iff
    | authority => exact startsWith_iff
    | prerequisite => exact startsWith_iff
  have hsubject : subjectMatches c.expectedKind request record ↔
      record.subjectMatterCommitment = request.matterCommitment ∨
        c.AllowsGlobal ∧ record.subjectMatterCommitment = "global" := by
    cases c <;> simp [subjectMatches, Citation.expectedKind, Citation.AllowsGlobal]
  have hclass : classValid c.expectedKind record = true ↔ c.ClassRule record := by
    cases c <;> simp [classValid, Citation.expectedKind, Citation.ClassRule]
  unfold acceptedIn recordAccepted
  simp only [Bool.and_eq_true (_ && _), Bool.and_eq_true (ite _ _ _), hkind, decide_eq_true_iff,
    hsubject, digestShape_iff, hclass, hrecord, hissuer, and_true, List.mem_cons, List.not_mem_nil,
    or_false, not_or]
  constructor
  · rintro ⟨⟨⟨⟨⟨⟨⟨hk, hs⟩, hscope⟩, hfrom, hthrough⟩, hdigest⟩, h₁, h₂, h₃⟩, happroved⟩, hc⟩
    exact ⟨hk, hs, hscope, hfrom, hthrough, hdigest, h₁, h₂, h₃, happroved, hc⟩
  · intro h
    exact ⟨⟨⟨⟨⟨⟨⟨h.kind, h.subject⟩, h.scope⟩, h.validFrom, h.validThrough⟩, h.digestShape⟩,
      h.notRequester, h.notWorker, h.notChecker⟩, h.approved⟩, h.classRule⟩

/-- In a ledger of the kernel without duplicates, an id resolves to the valid record that has it. -/
theorem resolved?_iff {c : Citation} {recordId : String} {record : VerifiedOperationalRecord}
    (hissuer : ledger.issuerId = kernelLedgerIssuer)
    (hnd : (ledger.records.map (·.recordId)).Nodup) :
    resolved? c request worker ledger recordId = some record ↔
      record ∈ ledger.records ∧ record.recordId = recordId ∧ ValidFor c request worker record := by
  unfold resolved?
  rw [Option.filter_eq_some_iff, get?_recordsById hnd, and_assoc]
  refine and_congr_right fun hmem => and_congr_right fun hid => acceptedIn_iff hissuer ?_
  rw [hid, (get?_recordsById hnd).2 ⟨hmem, hid⟩]
  rfl

/-! ## The reasons as one list -/

/-- The records that the ids of a list resolve to. -/
def resolvedOf (c : Citation) (request : OperationalWorkRequest) (worker : OperationalRole)
    (ledger : OperationalAuthorityLedger) : List VerifiedOperationalRecord :=
  (c.ids request).filterMap (resolved? c request worker ledger)

/-- The reasons that the ids of a list give. -/
def refusalsOf (c : Citation) (request : OperationalWorkRequest) (worker : OperationalRole)
    (ledger : OperationalAuthorityLedger) : List String :=
  (c.ids request).filterMap (refusal? c request worker ledger)

/-- The kinds that the resolved records of a list cover. -/
def coveredKinds (c : Citation) (request : OperationalWorkRequest) (worker : OperationalRole)
    (ledger : OperationalAuthorityLedger) : Finset String :=
  ((resolvedOf c request worker ledger).map fun record =>
    removePrefix record.recordKind c.expectedKind).toFinset

/-- The reason of the adapter check. -/
def adapterReasons (request : OperationalWorkRequest) (worker : OperationalRole) : List String :=
  match worker.adapterKind with
  | some adapter =>
    if request.requestedAdapter ≠ some adapter then ["adapter_mismatch_or_missing"] else []
  | none =>
    if request.requestedAdapter ≠ none then ["adapter_not_permitted_for_capability"] else []

/-- The reasons that the checks of a worker add. -/
def workerReasons (request : OperationalWorkRequest) (ledger : OperationalAuthorityLedger)
    (worker : OperationalRole) : List String :=
  (if ¬ worker.active then ["capability_inactive"] else []) ++
  (if request.requesterRoleId = worker.checkerRoleId then ["requester_checker_collision"] else []) ++
  refusalsOf .sourceAdmission request worker ledger ++
  refusalsOf .reuseRelease request worker ledger ++
  refusalsOf .authority request worker ledger ++
  refusalsOf .prerequisite request worker ledger ++
  (if worker.requiresSourceAdmission ∧ resolvedOf .sourceAdmission request worker ledger = [] then
    ["source_admission_receipt_missing"] else []) ++
  (if worker.requiresReuseRelease ∧ resolvedOf .reuseRelease request worker ledger = [] then
    ["reuse_release_receipt_missing"] else []) ++
  (sorted (worker.requiredPrerequisiteKinds.toFinset \
    coveredKinds .prerequisite request worker ledger)).map (fun item =>
      "missing_prerequisite:" ++ item) ++
  adapterReasons request worker

/-- The authority that is missing. -/
def missingAuthority (request : OperationalWorkRequest) (ledger : OperationalAuthorityLedger)
    (worker : OperationalRole) : List String :=
  sorted (worker.requiredAuthorityKinds.toFinset \ coveredKinds .authority request worker ledger)

/-- The checks of a worker add its reasons and what authority is missing. -/
theorem workerChecks_eq (reasons : List String) :
    workerChecks request ledger (recordsById ledger) worker reasons =
      (reasons ++ workerReasons request ledger worker, missingAuthority request ledger worker) := by
  have hsource (rs : List String) : resolveRecords request.sourceAdmissionReceiptIds
      "source_admission" request worker ledger (recordsById ledger) rs false =
        (resolvedOf .sourceAdmission request worker ledger,
          rs ++ refusalsOf .sourceAdmission request worker ledger) :=
    resolveRecords_eq .sourceAdmission _ rs
  have hreuse (rs : List String) : resolveRecords request.reuseReleaseReceiptIds
      "reuse_release" request worker ledger (recordsById ledger) rs false =
        (resolvedOf .reuseRelease request worker ledger,
          rs ++ refusalsOf .reuseRelease request worker ledger) :=
    resolveRecords_eq .reuseRelease _ rs
  have hauthority (rs : List String) : resolveRecords request.authorityArtifactIds
      "authority:" request worker ledger (recordsById ledger) rs true =
        (resolvedOf .authority request worker ledger,
          rs ++ refusalsOf .authority request worker ledger) :=
    resolveRecords_eq .authority _ rs
  have hprerequisite (rs : List String) : resolveRecords request.prerequisiteReceiptIds
      "prerequisite:" request worker ledger (recordsById ledger) rs true =
        (resolvedOf .prerequisite request worker ledger,
          rs ++ refusalsOf .prerequisite request worker ledger) :=
    resolveRecords_eq .prerequisite _ rs
  unfold workerChecks
  simp only [hsource, hreuse, hauthority, hprerequisite]
  unfold workerReasons missingAuthority adapterReasons coveredKinds
  simp only [List.append_assoc]
  rfl

/-- The reasons that block a request. -/
def hardReasons (request : OperationalWorkRequest) (ledger : OperationalAuthorityLedger)
    (registry : List OperationalRole) : List String :=
  ledgerReasons request ledger (recordsById ledger) ++ (selectWorker request registry).2 ++
    scopeReasons request ++
    ((selectWorker request registry).1.map (workerReasons request ledger)).getD []

/-- The authority that the worker of a request is missing. -/
def missingOf (request : OperationalWorkRequest) (ledger : OperationalAuthorityLedger)
    (registry : List OperationalRole) : List String :=
  ((selectWorker request registry).1.map (missingAuthority request ledger)).getD []

/-- No reasons are reported where there are none. -/
theorem sorted_toFinset_eq_nil {reasons : List String} :
    sorted reasons.toFinset = [] ↔ reasons = [] := by
  rw [List.eq_nil_iff_forall_not_mem, List.eq_nil_iff_forall_not_mem]
  simp only [mem_sorted, List.mem_toFinset]

/-- The status and the reason codes. A routed request has none. -/
theorem status_and_codes (reasons missing : List String) :
    (if sorted reasons.toFinset ≠ [] then (RouteStatus.blocked, sorted reasons.toFinset)
      else if missing ≠ [] then
        (.humanGateRequired, missing.map fun item => "missing_authority:" ++ item)
      else (.routed, sorted reasons.toFinset)) =
    (if reasons ≠ [] then .blocked else if missing ≠ [] then .humanGateRequired else .routed,
      if reasons ≠ [] then sorted reasons.toFinset
      else missing.map fun item => "missing_authority:" ++ item) := by
  have hempty : sorted (∅ : Finset String) = [] := rfl
  by_cases hreasons : reasons = []
  · by_cases hmissing : missing = []
    · simp [hreasons, hmissing, hempty]
    · simp [hreasons, hmissing, hempty]
  · simp [hreasons, sorted_toFinset_eq_nil]

/-- The decision, from the reasons and the missing authority. -/
theorem route_eq (request : OperationalWorkRequest) (ledger : OperationalAuthorityLedger)
    (registry : List OperationalRole) :
    routeWithAuthorityLedger request ledger registry =
      { requestId := request.requestId
        requestHash := request.requestHash
        status :=
          if hardReasons request ledger registry ≠ [] then .blocked
          else if missingOf request ledger registry ≠ [] then .humanGateRequired
          else .routed
        workerRoleId := (selectWorker request registry).1.map (·.roleId)
        checkerRoleId := (selectWorker request registry).1.map (·.checkerRoleId)
        reasonCodes :=
          if hardReasons request ledger registry ≠ [] then
            sorted (hardReasons request ledger registry).toFinset
          else (missingOf request ledger registry).map fun item => "missing_authority:" ++ item
        requiredHumanGates := ((selectWorker request registry).1.map (·.humanGateIds)).getD []
        registryCommitment := operationalRegistryCommitment registry
        authorityLedgerCommitment := ledger.ledgerHash } := by
  have hworker (worker : OperationalRole) (reasons : List String) :
      workerChecks request ledger
          (.ofEntries (ledger.records.map fun record => (record.recordId, record))) worker reasons =
        (reasons ++ workerReasons request ledger worker,
          missingAuthority request ledger worker) := workerChecks_eq reasons
  unfold routeWithAuthorityLedger hardReasons missingOf recordsById
  rcases selectWorker request registry with ⟨_ | worker, capabilityReasons⟩
  · simp only [status_and_codes, Option.map_none, Option.getD_none, List.append_nil]
  · simp only [hworker, status_and_codes, Option.map_some, Option.getD_some]

/-! ## The guards and the reasons -/

/-- A worker is selected without reasons, or none is and there is a reason. -/
theorem selectWorker_cases (request : OperationalWorkRequest) (registry : List OperationalRole) :
    (∃ worker, request.capabilityId ∉ humanOnlyCapabilities ∧ OfferedBy request registry worker ∧
        selectWorker request registry = (some worker, [])) ∨
      (request.capabilityId ∈ humanOnlyCapabilities ∨
          ∀ worker, ¬ OfferedBy request registry worker) ∧
        (selectWorker request registry).1 = none ∧ (selectWorker request registry).2 ≠ [] := by
  unfold selectWorker OfferedBy
  by_cases hhuman : request.capabilityId ∈ humanOnlyCapabilities
  · simp [hhuman]
  · simp only [if_neg hhuman]
    split
    · next worker hfilter => exact .inl ⟨worker, hhuman, hfilter, rfl⟩
    · next hmany => exact .inr ⟨.inr fun worker hfilter => hmany worker hfilter, rfl, by simp⟩

/-- A single reason is given where its condition holds. -/
theorem ite_singleton_eq_nil {P : Prop} [Decidable P] {s : String} :
    (if P then [s] else []) = [] ↔ ¬ P := by
  by_cases hP : P <;> simp [hP]

/-- The ledger gives no reason where it is the kernel's and knows the request's ids. -/
theorem ledgerReasons_eq_nil :
    ledgerReasons request ledger (recordsById ledger) = [] ↔
      (ledger.records.map (·.recordId)).Nodup ∧ ledger.issuerId = kernelLedgerIssuer ∧
        request.matterCommitment ∈ ledger.knownMatterCommitments ∧
        request.requesterRoleId ∈ ledger.knownRequesterRoleIds := by
  unfold ledgerReasons
  simp only [List.append_eq_nil_iff, ite_singleton_eq_nil, ne_eq, not_not, card_recordsById,
    and_assoc]

/-- The scope of a request gives no reason where every class of it is allowed. -/
theorem scopeReasons_eq_nil :
    scopeReasons request = [] ↔
      (request.dataClass ∈ allowedDataClasses ∧ request.syntheticOnly = true) ∧
        request.effectClass ∈ allowedEffects ∧ request.externalIo = false := by
  unfold scopeReasons
  simp only [List.append_eq_nil_iff, ite_singleton_eq_nil, not_or, not_not, and_assoc,
    Bool.not_eq_true, Bool.not_eq_false]

/-- The adapter gives no reason where it is the worker's. -/
theorem adapterReasons_eq_nil :
    adapterReasons request worker = [] ↔ request.requestedAdapter = worker.adapterKind := by
  unfold adapterReasons
  split
  · next adapter hadapter => rw [ite_singleton_eq_nil, hadapter, not_not]
  · next hadapter => rw [ite_singleton_eq_nil, hadapter, not_not]

/-- No citation of a kind is refused where each resolves. -/
theorem refusalsOf_eq_nil {c : Citation} (hissuer : ledger.issuerId = kernelLedgerIssuer)
    (hnd : (ledger.records.map (·.recordId)).Nodup) :
    refusalsOf c request worker ledger = [] ↔
      ∀ recordId ∈ c.ids request, Resolves request ledger worker c recordId := by
  unfold refusalsOf Resolves
  rw [List.filterMap_eq_nil_iff]
  refine forall₂_congr fun recordId _ => ?_
  rw [refusal?_eq_none]
  exact exists_congr fun record => resolved?_iff hissuer hnd

/-- Nothing resolves where no citation does. -/
theorem resolvedOf_eq_nil {c : Citation} (hissuer : ledger.issuerId = kernelLedgerIssuer)
    (hnd : (ledger.records.map (·.recordId)).Nodup) :
    resolvedOf c request worker ledger = [] ↔
      ¬ ∃ recordId ∈ c.ids request, Resolves request ledger worker c recordId := by
  unfold resolvedOf Resolves
  simp only [List.filterMap_eq_nil_iff, Option.eq_none_iff_forall_ne_some, ne_eq,
    resolved?_iff hissuer hnd]
  push Not
  rfl

/-- A kind is covered by the records that a list resolves to. -/
theorem mem_coveredKinds {c : Citation} (hc : c = .authority ∨ c = .prerequisite)
    (hissuer : ledger.issuerId = kernelLedgerIssuer)
    (hnd : (ledger.records.map (·.recordId)).Nodup) {kind : String} :
    kind ∈ coveredKinds c request worker ledger ↔ Covered request ledger worker c kind := by
  unfold coveredKinds resolvedOf Covered
  simp only [List.mem_toFinset, List.mem_map, List.mem_filterMap, resolved?_iff hissuer hnd]
  constructor
  · rintro ⟨record, ⟨recordId, hid, hmem, heq, hvalid⟩, rfl⟩
    refine ⟨recordId, hid, record, hmem, heq, hvalid, ?_⟩
    obtain ⟨kind, hkind⟩ : ∃ kind, record.recordKind = c.expectedKind ++ kind := by
      rcases hc with rfl | rfl
      · exact hvalid.kind
      · exact hvalid.kind
    rw [hkind, removePrefix_append]
  · rintro ⟨recordId, hid, record, hmem, heq, hvalid, hkind⟩
    refine ⟨record, ⟨recordId, hid, hmem, heq, hvalid⟩, ?_⟩
    rw [hkind, removePrefix_append]

/-- Nothing is missing where everything required is covered. -/
theorem sorted_sdiff_eq_nil {required : List String} {covered : Finset String} :
    sorted (required.toFinset \ covered) = [] ↔ ∀ kind ∈ required, kind ∈ covered := by
  rw [List.eq_nil_iff_forall_not_mem]
  simp only [mem_sorted, Finset.mem_sdiff, List.mem_toFinset, not_and, not_not]

/-- A worker gives no reason just where all its guards hold. -/
theorem workerReasons_eq_nil (hissuer : ledger.issuerId = kernelLedgerIssuer)
    (hnd : (ledger.records.map (·.recordId)).Nodup) :
    workerReasons request ledger worker = [] ↔
      worker.active = true ∧ request.requesterRoleId ≠ worker.checkerRoleId ∧
        (∀ c : Citation, ∀ recordId ∈ c.ids request,
          Resolves request ledger worker c recordId) ∧
        (worker.requiresSourceAdmission = true →
          ∃ recordId ∈ request.sourceAdmissionReceiptIds,
            Resolves request ledger worker .sourceAdmission recordId) ∧
        (worker.requiresReuseRelease = true →
          ∃ recordId ∈ request.reuseReleaseReceiptIds,
            Resolves request ledger worker .reuseRelease recordId) ∧
        (∀ kind ∈ worker.requiredPrerequisiteKinds,
          Covered request ledger worker .prerequisite kind) ∧
        request.requestedAdapter = worker.adapterKind := by
  have hcitations : (∀ c : Citation, refusalsOf c request worker ledger = []) ↔
      refusalsOf .sourceAdmission request worker ledger = [] ∧
        refusalsOf .reuseRelease request worker ledger = [] ∧
        refusalsOf .authority request worker ledger = [] ∧
        refusalsOf .prerequisite request worker ledger = [] := by
    constructor
    · exact fun h => ⟨h _, h _, h _, h _⟩
    · rintro ⟨h₁, h₂, h₃, h₄⟩ c
      cases c with
      | sourceAdmission => exact h₁
      | reuseRelease => exact h₂
      | authority => exact h₃
      | prerequisite => exact h₄
  have hrequired (required : Bool) (c : Citation) :
      ¬ (required = true ∧ resolvedOf c request worker ledger = []) ↔
        (required = true →
          ∃ recordId ∈ c.ids request, Resolves request ledger worker c recordId) := by
    rw [resolvedOf_eq_nil hissuer hnd, not_and, not_not]
  have hkinds : (sorted (worker.requiredPrerequisiteKinds.toFinset \
        coveredKinds .prerequisite request worker ledger)) = [] ↔
      ∀ kind ∈ worker.requiredPrerequisiteKinds,
        Covered request ledger worker .prerequisite kind := by
    rw [sorted_sdiff_eq_nil]
    simp only [mem_coveredKinds (.inr rfl) hissuer hnd]
  unfold workerReasons
  simp only [List.append_eq_nil_iff, ite_singleton_eq_nil, not_not, hrequired, List.map_eq_nil_iff,
    hkinds, adapterReasons_eq_nil]
  have hall : (∀ c : Citation, ∀ recordId ∈ c.ids request,
      Resolves request ledger worker c recordId) ↔
        refusalsOf .sourceAdmission request worker ledger = [] ∧
          refusalsOf .reuseRelease request worker ledger = [] ∧
          refusalsOf .authority request worker ledger = [] ∧
          refusalsOf .prerequisite request worker ledger = [] := by
    rw [← hcitations]
    exact forall_congr' fun c => (refusalsOf_eq_nil hissuer hnd).symm
  rw [hall]
  simp only [Citation.ids]
  constructor
  · rintro ⟨⟨⟨⟨⟨⟨⟨⟨⟨ha, hc⟩, h₁⟩, h₂⟩, h₃⟩, h₄⟩, hs⟩, hr⟩, hp⟩, hadapter⟩
    exact ⟨ha, hc, ⟨h₁, h₂, h₃, h₄⟩, hs, hr, hp, hadapter⟩
  · rintro ⟨ha, hc, ⟨h₁, h₂, h₃, h₄⟩, hs, hr, hp, hadapter⟩
    exact ⟨⟨⟨⟨⟨⟨⟨⟨⟨ha, hc⟩, h₁⟩, h₂⟩, h₃⟩, h₄⟩, hs⟩, hr⟩, hp⟩, hadapter⟩

/-- **A request has no reason against it exactly when it meets the guards.** -/
theorem hardReasons_eq_nil :
    hardReasons request ledger registry = [] ↔
      ∃ worker, selectWorker request registry = (some worker, []) ∧
        RoutingGuards request ledger registry worker := by
  unfold hardReasons
  simp only [List.append_eq_nil_iff, ledgerReasons_eq_nil, scopeReasons_eq_nil]
  rcases selectWorker_cases request registry with
    ⟨worker, hhuman, hoffered, hselect⟩ | ⟨hnone, hworker, hreason⟩
  · rw [hselect]
    simp only [Option.map_some, Option.getD_some, Prod.mk.injEq, Option.some.injEq]
    constructor
    · rintro ⟨⟨⟨⟨hnd, hissuer, hmatter, hrequester⟩, -⟩, hdata, heffect, hio⟩, hworker⟩
      obtain ⟨hactive, hchecker, hcitations, hsource, hreuse, hprerequisites, hadapter⟩ :=
        (workerReasons_eq_nil hissuer hnd).1 hworker
      exact ⟨worker, ⟨rfl, trivial⟩, ⟨hissuer, hnd, hmatter, hrequester, hhuman, hoffered, hactive,
        hdata, heffect, hio, hchecker, hcitations, hsource, hreuse, hprerequisites, hadapter⟩⟩
    · rintro ⟨_, ⟨rfl, -⟩, h⟩
      refine ⟨⟨⟨⟨h.noDuplicates, h.issuer, h.knownMatter, h.knownRequester⟩, trivial⟩, h.data,
        h.effect, h.io⟩, (workerReasons_eq_nil h.issuer h.noDuplicates).2 ?_⟩
      exact ⟨h.active, h.notChecker, h.citations, h.sourceAdmission, h.reuseRelease,
        h.prerequisites, h.adapter⟩
  · constructor
    · rintro ⟨⟨⟨-, hnil⟩, -⟩, -⟩
      exact absurd hnil hreason
    · rintro ⟨worker, hselect, -⟩
      rw [hselect] at hworker
      cases hworker

/-- The worker of a request is the one that meets the guards. -/
theorem RoutingGuards.select {worker : OperationalRole}
    (h : RoutingGuards request ledger registry worker) :
    selectWorker request registry = (some worker, []) := by
  rcases selectWorker_cases request registry with
    ⟨worker', -, hoffered, hselect⟩ | ⟨hhuman | hnone, -, -⟩
  · have heq : [worker'] = [worker] := hoffered.symm.trans h.offered
    rw [hselect, List.singleton_inj.1 heq]
  · exact absurd hhuman h.notHumanOnly
  · exact absurd h.offered (hnone worker)

/-- No two workers meet the guards of a request. -/
theorem RoutingGuards.unique {worker worker' : OperationalRole}
    (h : RoutingGuards request ledger registry worker)
    (h' : RoutingGuards request ledger registry worker') : worker' = worker :=
  List.singleton_inj.1 (h'.offered.symm.trans h.offered)

/-- Under the guards, no authority is missing when all of it is covered. -/
theorem RoutingGuards.missingOf_eq_nil {worker : OperationalRole}
    (h : RoutingGuards request ledger registry worker) :
    missingOf request ledger registry = [] ↔ AuthorityCovered request ledger worker := by
  unfold missingOf missingAuthority AuthorityCovered
  rw [h.select]
  simp only [Option.map_some, Option.getD_some, sorted_sdiff_eq_nil,
    mem_coveredKinds (.inl rfl) h.issuer h.noDuplicates]

end

/-- **Routing is the conjunction of its guards.** -/
theorem route_iff_guards (request : OperationalWorkRequest) (ledger : OperationalAuthorityLedger)
    (registry : List OperationalRole) :
    ((routeWithAuthorityLedger request ledger registry).status = .routed ↔
        ∃ worker, RoutingGuards request ledger registry worker ∧
          AuthorityCovered request ledger worker) ∧
      ((routeWithAuthorityLedger request ledger registry).status = .humanGateRequired ↔
        ∃ worker, RoutingGuards request ledger registry worker ∧
          ¬ AuthorityCovered request ledger worker) ∧
      ((routeWithAuthorityLedger request ledger registry).status = .blocked ↔
        ¬ ∃ worker, RoutingGuards request ledger registry worker) ∧
      ∀ c : Citation, ∀ recordId ∈ c.ids request,
        (∀ worker, OfferedBy request registry worker →
          ¬ Resolves request ledger worker c recordId) →
        (routeWithAuthorityLedger request ledger registry).status = .blocked := by
  have hguards : hardReasons request ledger registry = [] ↔
      ∃ worker, RoutingGuards request ledger registry worker := by
    rw [hardReasons_eq_nil]
    exact exists_congr fun worker => ⟨fun h => h.2, fun h => ⟨h.select, h⟩⟩
  have hstatus : (routeWithAuthorityLedger request ledger registry).status =
      if hardReasons request ledger registry ≠ [] then .blocked
      else if missingOf request ledger registry ≠ [] then .humanGateRequired
      else .routed := by
    rw [route_eq]
  by_cases hmet : ∃ worker, RoutingGuards request ledger registry worker
  · obtain ⟨worker, h⟩ := hmet
    have hcitations (c : Citation) (recordId : String) (hid : recordId ∈ c.ids request) :
        Resolves request ledger worker c recordId := h.citations c recordId hid
    rw [if_neg (not_not.2 (hguards.2 ⟨worker, h⟩))] at hstatus
    rw [hstatus]
    have hworker (P : OperationalRole → Prop) :
        (∃ worker', RoutingGuards request ledger registry worker' ∧ P worker') ↔ P worker :=
      ⟨fun ⟨_, h', hP⟩ => h.unique h' ▸ hP, fun hP => ⟨worker, h, hP⟩⟩
    rw [hworker (AuthorityCovered request ledger),
      hworker fun worker => ¬ AuthorityCovered request ledger worker, ← h.missingOf_eq_nil]
    refine ⟨?_, ?_, ?_, fun c recordId hid hrefused =>
      absurd (hcitations c recordId hid) (hrefused worker h.offered)⟩
    · split <;> simp_all
    · split <;> simp_all
    · refine iff_of_false ?_ (not_not.2 ⟨worker, h⟩)
      split <;> nofun
  · rw [if_pos fun hnil => hmet (hguards.1 hnil)] at hstatus
    rw [hstatus]
    refine ⟨iff_of_false nofun ?_, iff_of_false nofun ?_, iff_of_true rfl hmet, fun _ _ _ _ => rfl⟩
    · exact fun ⟨worker, h, _⟩ => hmet ⟨worker, h⟩
    · exact fun ⟨worker, h, _⟩ => hmet ⟨worker, h⟩

/-! ## Makers and checkers -/

section
variable {registry : List OperationalRole}

/-- **Whoever is sent the work is checked by another.** In a registry that passes its validation, a
request that is not blocked goes to a role that has the capability, and names a checker that is
neither the worker nor the requester and belongs to another separation group. -/
theorem route_separated (hregistry : validateRegistry registry = .ok ())
    (request : OperationalWorkRequest) (ledger : OperationalAuthorityLedger)
    (hstatus : (routeWithAuthorityLedger request ledger registry).status ≠ .blocked) :
    ∃ worker ∈ registry, ∃ checker ∈ registry, request.capabilityId ∈ worker.capabilityIds ∧
      (routeWithAuthorityLedger request ledger registry).workerRoleId = some worker.roleId ∧
      (routeWithAuthorityLedger request ledger registry).checkerRoleId = some checker.roleId ∧
      checker.roleId ≠ worker.roleId ∧ checker.roleId ≠ request.requesterRoleId ∧
      checker.separationGroup ≠ worker.separationGroup := by
  rw [route_eq] at hstatus ⊢
  have hreasons : hardReasons request ledger registry = [] := by
    by_contra hne
    exact hstatus (if_pos hne)
  obtain ⟨worker, hselect, hguards⟩ := hardReasons_eq_nil.1 hreasons
  have hoffered : worker ∈ registry.filter fun role => request.capabilityId ∈ role.capabilityIds := by
    rw [hguards.offered]
    exact .head _
  obtain ⟨hworker, hcapability⟩ := List.mem_filter.1 hoffered
  obtain ⟨checker, hchecker, hid, hself, hgroup⟩ := checker_of_validateRegistry hregistry hworker
  rw [hselect]
  refine ⟨worker, hworker, checker, hchecker, of_decide_eq_true hcapability, rfl, ?_, hself, ?_,
    hgroup⟩
  · exact congrArg some hid.symm
  · exact fun hsame => hguards.notChecker (hsame.symm.trans hid)

end

/-- A deadline calculation that cites one admitted source. -/
def docketRequest : OperationalWorkRequest where
  requestId := "OPREQ-1"
  matterCommitment := "matter-1"
  capabilityId := "ops.docket.calculate"
  requesterRoleId := "ops-legal-assistant-coordinator"
  sourceAdmissionReceiptIds := ["OPADM-1"]

/-- A source admitted for every matter. -/
def admittedSource (recordId : String) : VerifiedOperationalRecord where
  recordId := recordId
  recordKind := "source_admission"
  issuerId := "kernel.source-admission"
  issuerClass := "kernel"
  subjectMatterCommitment := "global"
  scopeCapabilityIds := ["*"]
  validFromRevision := operationalMeshRevision
  validThroughRevision := operationalMeshRevision
  assetDigest := "sha256:0000000000000000000000000000000000000000000000000000000000000000"
  sourceClass := "synthetic"
  approved := true

/-- The ledger of `docketRequest`, with these sources. -/
def docketLedger (recordIds : List String) : OperationalAuthorityLedger where
  ledgerId := "ledger-1"
  issuerId := kernelLedgerIssuer
  knownMatterCommitments := ["matter-1"]
  knownRequesterRoleIds := ["ops-legal-assistant-coordinator"]
  records := recordIds.map admittedSource

/-- The docket calculator of the registry is sent the calculation, and the independent reviewer
checks it. -/
theorem route_separated_docket :
    buildOperationalRoleRegistry = .ok operationalRoles ∧
      ∃ worker ∈ operationalRoles, ∃ checker ∈ operationalRoles,
        docketRequest.capabilityId ∈ worker.capabilityIds ∧
        (routeWithAuthorityLedger docketRequest (docketLedger ["OPADM-1"])
          operationalRoles).workerRoleId = some worker.roleId ∧
        (routeWithAuthorityLedger docketRequest (docketLedger ["OPADM-1"])
          operationalRoles).checkerRoleId = some checker.roleId ∧
        checker.roleId ≠ worker.roleId ∧ checker.roleId ≠ docketRequest.requesterRoleId ∧
        checker.separationGroup ≠ worker.separationGroup := by
  have hvalid : validateRegistry operationalRoles = .ok () := by decide +kernel
  refine ⟨?_, route_separated hvalid docketRequest (docketLedger ["OPADM-1"])
    (by decide +kernel)⟩
  rw [buildOperationalRoleRegistry, hvalid]
  rfl

end LawFirmDigitalTwin
