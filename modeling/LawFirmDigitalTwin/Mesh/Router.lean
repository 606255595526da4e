import LawFirmDigitalTwin.PyText
import LawFirmDigitalTwin.Mesh.Registry

/-!
# The operational router

`operational_mesh_router.py`: the decision of `_route_with_authority_ledger` on a request, an
authority ledger and a registry of roles. The list of reasons that `_resolve_records` appends to is
passed through it.
-/

namespace LawFirmDigitalTwin

/-- The issuer that a ledger must have. -/
def kernelLedgerIssuer : String := "kernel.operational_authority_registry.v1"

/-- `ALLOWED_EFFECTS`. -/
def allowedEffects : List String := ["advisory_only", "simulation_planning_only"]

/-- `ALLOWED_DATA_CLASSES`. -/
def allowedDataClasses : List String := ["synthetic", "public"]

/-- `HUMAN_ONLY_CAPABILITIES`. -/
def humanOnlyCapabilities : List String :=
  ["legal.conflict.clear", "legal.conflict.waive", "legal.privilege.determine", "legal.filing.sign",
    "legal.filing.submit", "legal.settlement.authorize", "legal.strategy.decide",
    "finance.money.move", "finance.writeoff.approve", "finance.trust.transact",
    "information.hold.release", "information.production.transmit",
    "information.disposition.execute"]

/-- `subject_matches`. -/
def subjectMatches (expectedKind : String) (request : OperationalWorkRequest)
    (record : VerifiedOperationalRecord) : Prop :=
  record.subjectMatterCommitment = request.matterCommitment ∨
    (expectedKind = "source_admission" ∨ expectedKind = "reuse_release") ∧
      record.subjectMatterCommitment = "global"

instance (expectedKind : String) (request : OperationalWorkRequest)
    (record : VerifiedOperationalRecord) :
    Decidable (subjectMatches expectedKind request record) :=
  inferInstanceAs (Decidable (_ ∨ (_ ∨ _) ∧ _))

/-- `class_valid`. -/
def classValid (expectedKind : String) (record : VerifiedOperationalRecord) : Bool :=
  if expectedKind = "source_admission" then
    record.sourceClass = "synthetic" ∨ record.sourceClass = "public"
  else if expectedKind = "reuse_release" then
    record.sourceClass = "released_local_asset" ∧ record.issuerClass = "named_human"
  else if expectedKind = "authority:" then record.issuerClass = "named_human"
  else true

/-- The `all` of `_resolve_records`. -/
def recordAccepted (expectedKind : String) (request : OperationalWorkRequest)
    (worker : OperationalRole) (ledger : OperationalAuthorityLedger)
    (recordsById : PyDict VerifiedOperationalRecord) (isPrefix : Bool)
    (record : VerifiedOperationalRecord) : Bool :=
  (if isPrefix then startsWith record.recordKind expectedKind
    else decide (record.recordKind = expectedKind)) &&
  decide (subjectMatches expectedKind request record) &&
  decide (request.capabilityId ∈ record.scopeCapabilityIds ∨ "*" ∈ record.scopeCapabilityIds) &&
  decide (record.validFromRevision = operationalMeshRevision ∧
    record.validThroughRevision = operationalMeshRevision) &&
  (startsWith record.assetDigest "sha256:" &&
    decide (record.assetDigest.length = "sha256:".length + 64)) &&
  decide (record.issuerId ∉ [request.requesterRoleId, worker.roleId, worker.checkerRoleId]) &&
  record.approved &&
  classValid expectedKind record &&
  (recordsById.get? record.recordId).isSome &&
  decide (ledger.issuerId = kernelLedgerIssuer)

/-- `_resolve_records`: the resolved records, and the reasons with those it appended. -/
def resolveRecords (recordIds : List String) (expectedKind : String)
    (request : OperationalWorkRequest) (worker : OperationalRole)
    (ledger : OperationalAuthorityLedger) (recordsById : PyDict VerifiedOperationalRecord)
    (reasons : List String) (isPrefix : Bool) :
    List VerifiedOperationalRecord × List String :=
  match recordIds with
  | [] => ([], reasons)
  | recordId :: rest =>
    match recordsById.get? recordId with
    | none => resolveRecords rest expectedKind request worker ledger recordsById
        (reasons ++ ["unverified_record:" ++ recordId]) isPrefix
    | some record =>
      if recordAccepted expectedKind request worker ledger recordsById isPrefix record then
        let (resolved, reasons) :=
          resolveRecords rest expectedKind request worker ledger recordsById reasons isPrefix
        (record :: resolved, reasons)
      else resolveRecords rest expectedKind request worker ledger recordsById
        (reasons ++ ["invalid_record:" ++ recordId]) isPrefix

/-- The reasons before the capability is looked up. -/
def ledgerReasons (request : OperationalWorkRequest) (ledger : OperationalAuthorityLedger)
    (recordsById : PyDict VerifiedOperationalRecord) : List String :=
  (if recordsById.keys.card ≠ ledger.records.length then ["authority_ledger_duplicate_record"]
    else []) ++
  (if ledger.issuerId ≠ kernelLedgerIssuer then ["authority_ledger_issuer_invalid"] else []) ++
  (if request.matterCommitment ∉ ledger.knownMatterCommitments then ["unknown_matter_commitment"]
    else []) ++
  (if request.requesterRoleId ∉ ledger.knownRequesterRoleIds then ["unknown_requester_role"]
    else [])

/-- The worker of the capability, or the reason why there is none. -/
def selectWorker (request : OperationalWorkRequest) (registry : List OperationalRole) :
    Option OperationalRole × List String :=
  let candidates := registry.filter fun role => request.capabilityId ∈ role.capabilityIds
  if request.capabilityId ∈ humanOnlyCapabilities then (none, ["human_only_effect"])
  else match candidates with
    | [worker] => (some worker, [])
    | _ => (none, ["unknown_or_ambiguous_capability"])

/-- The reasons that the request alone gives. -/
def scopeReasons (request : OperationalWorkRequest) : List String :=
  (if request.dataClass ∉ allowedDataClasses ∨ ¬ request.syntheticOnly then
    ["non_green_data_blocked"] else []) ++
  (if request.effectClass ∉ allowedEffects then ["effect_exceeds_proposal_scope"] else []) ++
  (if request.externalIo then ["external_io_blocked"] else [])

/-- The checks that need the worker: the reasons with those they add, and the missing authority. -/
def workerChecks (request : OperationalWorkRequest) (ledger : OperationalAuthorityLedger)
    (recordsById : PyDict VerifiedOperationalRecord) (worker : OperationalRole)
    (reasons : List String) : List String × List String :=
  let reasons := reasons ++ (if ¬ worker.active then ["capability_inactive"] else [])
  let reasons := reasons ++ (if request.requesterRoleId = worker.checkerRoleId then
    ["requester_checker_collision"] else [])
  let (resolvedSource, reasons) := resolveRecords request.sourceAdmissionReceiptIds
    "source_admission" request worker ledger recordsById reasons false
  let (resolvedReuse, reasons) := resolveRecords request.reuseReleaseReceiptIds
    "reuse_release" request worker ledger recordsById reasons false
  let (resolvedAuthority, reasons) := resolveRecords request.authorityArtifactIds
    "authority:" request worker ledger recordsById reasons true
  let (resolvedPrerequisites, reasons) := resolveRecords request.prerequisiteReceiptIds
    "prerequisite:" request worker ledger recordsById reasons true
  let reasons := reasons ++ (if worker.requiresSourceAdmission ∧ resolvedSource = [] then
    ["source_admission_receipt_missing"] else [])
  let reasons := reasons ++ (if worker.requiresReuseRelease ∧ resolvedReuse = [] then
    ["reuse_release_receipt_missing"] else [])
  let authorityKinds := (resolvedAuthority.map fun record =>
    removePrefix record.recordKind "authority:").toFinset
  let prerequisiteKinds := (resolvedPrerequisites.map fun record =>
    removePrefix record.recordKind "prerequisite:").toFinset
  let missingAuthority := sorted (worker.requiredAuthorityKinds.toFinset \ authorityKinds)
  let missingPrerequisites := sorted (worker.requiredPrerequisiteKinds.toFinset \ prerequisiteKinds)
  let reasons := reasons ++ missingPrerequisites.map fun item => "missing_prerequisite:" ++ item
  let reasons := reasons ++ (match worker.adapterKind with
    | some adapter =>
      if request.requestedAdapter ≠ some adapter then ["adapter_mismatch_or_missing"] else []
    | none =>
      if request.requestedAdapter ≠ none then ["adapter_not_permitted_for_capability"] else [])
  (reasons, missingAuthority)

/-- `_route_with_authority_ledger`, with the registry given. -/
def routeWithAuthorityLedger (request : OperationalWorkRequest)
    (ledger : OperationalAuthorityLedger) (registry : List OperationalRole) :
    OperationalRoutingDecision :=
  let recordsById :=
    PyDict.ofEntries (ledger.records.map fun record => (record.recordId, record))
  let (worker, capabilityReasons) := selectWorker request registry
  let reasons := ledgerReasons request ledger recordsById ++ capabilityReasons ++
    scopeReasons request
  let (reasons, missingAuthority) := match worker with
    | none => (reasons, [])
    | some worker => workerChecks request ledger recordsById worker reasons
  let hardReasons := sorted reasons.toFinset
  let (status, reasonCodes) :=
    if hardReasons ≠ [] then (RouteStatus.blocked, hardReasons)
    else if missingAuthority ≠ [] then
      (RouteStatus.humanGateRequired, missingAuthority.map fun item => "missing_authority:" ++ item)
    else (RouteStatus.routed, hardReasons)
  { requestId := request.requestId
    requestHash := request.requestHash
    status
    workerRoleId := worker.map (·.roleId)
    checkerRoleId := worker.map (·.checkerRoleId)
    reasonCodes
    requiredHumanGates := (worker.map (·.humanGateIds)).getD []
    registryCommitment := operationalRegistryCommitment registry
    authorityLedgerCommitment := ledger.ledgerHash }

end LawFirmDigitalTwin
