import LawFirmDigitalTwin.Mesh.Routing

/-!
# What routing depends on

Two decisions are the same, in their status, their reasons, their worker and their checker, where
the requests cite the same ids and every cited id finds the same record. Neither the other records
of a ledger nor the order or the repetition of ids, records and roles matters.
-/

namespace LawFirmDigitalTwin

/-- The decisions agree. -/
structure SameRouting (d d' : OperationalRoutingDecision) : Prop where
  status : d.status = d'.status
  reasonCodes : d.reasonCodes = d'.reasonCodes
  worker : d.workerRoleId = d'.workerRoleId
  checker : d.checkerRoleId = d'.checkerRoleId

/-- The requests differ at most in their own id, and in the order and the repetition of the ids that
they cite. -/
structure SameCitations (request request' : OperationalWorkRequest) : Prop where
  matter : request.matterCommitment = request'.matterCommitment
  capability : request.capabilityId = request'.capabilityId
  requester : request.requesterRoleId = request'.requesterRoleId
  dataClass : request.dataClass = request'.dataClass
  effectClass : request.effectClass = request'.effectClass
  adapter : request.requestedAdapter = request'.requestedAdapter
  syntheticOnly : request.syntheticOnly = request'.syntheticOnly
  externalIo : request.externalIo = request'.externalIo
  ids : ∀ c : Citation, ∀ recordId, recordId ∈ c.ids request ↔ recordId ∈ c.ids request'

/-- No two records of the ledger have the same id. -/
def OperationalAuthorityLedger.NoDuplicates (ledger : OperationalAuthorityLedger) : Prop :=
  (ledger.records.map (·.recordId)).Nodup

/-- The ledgers agree on what a request cites. -/
structure AgreeOn (request : OperationalWorkRequest) (ledger ledger' : OperationalAuthorityLedger) :
    Prop where
  issuer : ledger.issuerId = ledger'.issuerId
  matters : ∀ matter, matter ∈ ledger.knownMatterCommitments ↔
    matter ∈ ledger'.knownMatterCommitments
  requesters : ∀ requester, requester ∈ ledger.knownRequesterRoleIds ↔
    requester ∈ ledger'.knownRequesterRoleIds
  records : ∀ c : Citation, ∀ record, record.recordId ∈ c.ids request →
    (record ∈ ledger.records ↔ record ∈ ledger'.records)

section
variable {request request' : OperationalWorkRequest} {ledger ledger' : OperationalAuthorityLedger}
  {registry registry' : List OperationalRole}

/-- A request has the same citations as itself. -/
theorem SameCitations.refl (request : OperationalWorkRequest) : SameCitations request request :=
  ⟨rfl, rfl, rfl, rfl, rfl, rfl, rfl, rfl, fun _ _ => Iff.rfl⟩

/-! ## Cited ids -/

/-- What becomes of an id depends on the request's matter, capability and requester only. -/
theorem SameCitations.cite_eq (h : SameCitations request request') (c : Citation)
    (worker : OperationalRole) (ledger : OperationalAuthorityLedger) (recordId : String) :
    resolved? c request worker ledger recordId = resolved? c request' worker ledger recordId ∧
      refusal? c request worker ledger recordId = refusal? c request' worker ledger recordId := by
  have haccepted : acceptedIn c request worker ledger = acceptedIn c request' worker ledger := by
    obtain ⟨hmatter, hcapability, hrequester, -⟩ := h
    cases request
    cases request'
    simp only at hmatter hcapability hrequester
    subst hmatter hcapability hrequester
    rfl
  unfold resolved? refusal?
  rw [haccepted]
  exact ⟨rfl, rfl⟩

/-- The record that the dictionary finds under an id has this id. -/
theorem recordId_of_get? {recordId : String} {record : VerifiedOperationalRecord}
    (h : (recordsById ledger).get? recordId = some record) : record.recordId = recordId :=
  (PyDict.mem_of_get?_keyed h).2

/-- What becomes of an id depends on the record under it only. -/
theorem cite_eq_of_get? (hissuer : ledger.issuerId = ledger'.issuerId) {recordId : String}
    (hget : (recordsById ledger).get? recordId = (recordsById ledger').get? recordId)
    (c : Citation) (request : OperationalWorkRequest) (worker : OperationalRole) :
    resolved? c request worker ledger recordId = resolved? c request worker ledger' recordId ∧
      refusal? c request worker ledger recordId = refusal? c request worker ledger' recordId := by
  unfold resolved? refusal?
  rw [← hget]
  cases hrecord : (recordsById ledger).get? recordId with
  | none => exact ⟨rfl, rfl⟩
  | some record =>
    have haccepted : acceptedIn c request worker ledger record =
        acceptedIn c request worker ledger' record := by
      unfold acceptedIn recordAccepted
      rw [recordId_of_get? hrecord, ← hget, hissuer]
    simp only [Option.filter_some, haccepted, and_self]

/-- Where ledgers without duplicates agree, the dictionaries find the same record. -/
theorem AgreeOn.get?_eq (h : AgreeOn request ledger ledger') (hnd : ledger.NoDuplicates)
    (hnd' : ledger'.NoDuplicates) {c : Citation} {recordId : String}
    (hid : recordId ∈ c.ids request) :
    (recordsById ledger).get? recordId = (recordsById ledger').get? recordId := by
  refine Option.ext fun record => ?_
  rw [get?_recordsById hnd, get?_recordsById hnd']
  constructor
  · rintro ⟨hmem, rfl⟩
    exact ⟨(h.records c record hid).1 hmem, rfl⟩
  · rintro ⟨hmem, rfl⟩
    exact ⟨(h.records c record hid).2 hmem, rfl⟩

/-! ## Reasons -/

/-- The worker is the same whatever the order of the roles. -/
theorem selectWorker_perm (h : SameCitations request request') (hperm : registry.Perm registry') :
    selectWorker request registry = selectWorker request' registry' := by
  have hfilter := hperm.filter fun role => decide (request'.capabilityId ∈ role.capabilityIds)
  unfold selectWorker
  rw [h.capability]
  generalize registry.filter (fun role => decide (request'.capabilityId ∈ role.capabilityIds)) =
    candidates at hfilter ⊢
  generalize registry'.filter (fun role => decide (request'.capabilityId ∈ role.capabilityIds)) =
    candidates' at hfilter ⊢
  have hlength := hfilter.length_eq
  match candidates, candidates' with
  | [], [] => rfl
  | [worker], [worker'] => rw [List.singleton_perm_singleton.1 hfilter]
  | _ :: _ :: _, _ :: _ :: _ => rfl

/-- Two routings whose cited ids find the same records. -/
structure RoutedAlike (request request' : OperationalWorkRequest)
    (ledger ledger' : OperationalAuthorityLedger) : Prop where
  citations : SameCitations request request'
  ledgers : ledgerReasons request ledger (recordsById ledger) =
    ledgerReasons request' ledger' (recordsById ledger')
  cited : ∀ c : Citation, ∀ worker, ∀ recordId ∈ c.ids request,
    resolved? c request worker ledger recordId = resolved? c request' worker ledger' recordId ∧
      refusal? c request worker ledger recordId = refusal? c request' worker ledger' recordId

/-- The lists that cite the same ids give the same items. -/
theorem mem_filterMap_congr {α : Type} {ids ids' : List String} {f f' : String → Option α}
    (hids : ∀ recordId, recordId ∈ ids ↔ recordId ∈ ids')
    (hf : ∀ recordId ∈ ids, f recordId = f' recordId) (a : α) :
    a ∈ ids.filterMap f ↔ a ∈ ids'.filterMap f' := by
  rw [List.mem_filterMap, List.mem_filterMap]
  refine exists_congr fun recordId => ?_
  constructor
  · rintro ⟨hid, h⟩
    exact ⟨(hids _).1 hid, hf _ hid ▸ h⟩
  · rintro ⟨hid, h⟩
    exact ⟨(hids _).2 hid, (hf _ ((hids _).2 hid)).symm ▸ h⟩

/-- Requests routed alike resolve the same records. -/
theorem RoutedAlike.mem_resolvedOf (h : RoutedAlike request request' ledger ledger') (c : Citation)
    (worker : OperationalRole) (record : VerifiedOperationalRecord) :
    record ∈ resolvedOf c request worker ledger ↔ record ∈ resolvedOf c request' worker ledger' :=
  mem_filterMap_congr (h.citations.ids c) (fun recordId hid => (h.cited c worker recordId hid).1)
    record

/-- Requests routed alike are refused for the same reasons. -/
theorem RoutedAlike.mem_refusalsOf (h : RoutedAlike request request' ledger ledger') (c : Citation)
    (worker : OperationalRole) (reason : String) :
    reason ∈ refusalsOf c request worker ledger ↔ reason ∈ refusalsOf c request' worker ledger' :=
  mem_filterMap_congr (h.citations.ids c) (fun recordId hid => (h.cited c worker recordId hid).2)
    reason

/-- Requests routed alike resolve nothing together. -/
theorem RoutedAlike.resolvedOf_eq_nil (h : RoutedAlike request request' ledger ledger') (c : Citation)
    (worker : OperationalRole) :
    resolvedOf c request worker ledger = [] ↔ resolvedOf c request' worker ledger' = [] := by
  rw [List.eq_nil_iff_forall_not_mem, List.eq_nil_iff_forall_not_mem]
  simp only [h.mem_resolvedOf c worker]

/-- Requests routed alike cover the same kinds. -/
theorem RoutedAlike.coveredKinds_eq (h : RoutedAlike request request' ledger ledger') (c : Citation)
    (worker : OperationalRole) :
    coveredKinds c request worker ledger = coveredKinds c request' worker ledger' := by
  ext kind
  unfold coveredKinds
  simp only [List.mem_toFinset, List.mem_map, h.mem_resolvedOf c worker]

/-- A worker has the same reasons against requests routed alike. -/
theorem RoutedAlike.mem_workerReasons (h : RoutedAlike request request' ledger ledger')
    (worker : OperationalRole) (reason : String) :
    reason ∈ workerReasons request ledger worker ↔
      reason ∈ workerReasons request' ledger' worker := by
  unfold workerReasons adapterReasons
  simp only [List.mem_append, h.mem_refusalsOf _ worker, h.resolvedOf_eq_nil _ worker,
    h.coveredKinds_eq _ worker, h.citations.requester, h.citations.adapter]

/-- **The reasons and the missing authority of two routings that are alike are the same.** -/
theorem RoutedAlike.sameRouting (h : RoutedAlike request request' ledger ledger')
    (hselect : selectWorker request registry = selectWorker request' registry') :
    SameRouting (routeWithAuthorityLedger request ledger registry)
      (routeWithAuthorityLedger request' ledger' registry') := by
  have hscope : scopeReasons request = scopeReasons request' := by
    unfold scopeReasons
    rw [h.citations.dataClass, h.citations.effectClass, h.citations.syntheticOnly,
      h.citations.externalIo]
  have hmem (reason : String) : reason ∈ hardReasons request ledger registry ↔
      reason ∈ hardReasons request' ledger' registry' := by
    unfold hardReasons
    rw [h.ledgers, hselect, hscope]
    cases (selectWorker request' registry').1 with
    | none => exact Iff.rfl
    | some worker =>
      simp only [List.mem_append, Option.map_some, Option.getD_some, h.mem_workerReasons worker]
  have hreasons : (hardReasons request ledger registry).toFinset =
      (hardReasons request' ledger' registry').toFinset := by
    ext reason
    rw [List.mem_toFinset, List.mem_toFinset, hmem]
  have hnil : hardReasons request ledger registry = [] ↔
      hardReasons request' ledger' registry' = [] := by
    rw [List.eq_nil_iff_forall_not_mem, List.eq_nil_iff_forall_not_mem]
    simp only [hmem]
  have hmissing : missingOf request ledger registry = missingOf request' ledger' registry' := by
    unfold missingOf
    rw [hselect]
    congr 2
    funext worker
    unfold missingAuthority
    rw [h.coveredKinds_eq]
  rw [route_eq, route_eq]
  constructor
  · simp only [ne_eq, hnil, hmissing]
  · simp only [ne_eq, hnil, hmissing, hreasons]
  · simp only [hselect]
  · simp only [hselect]

/-- Routing with another ledger that agrees on what is cited. -/
theorem AgreeOn.alike (h : AgreeOn request ledger ledger') (hnd : ledger.NoDuplicates)
    (hnd' : ledger'.NoDuplicates) : RoutedAlike request request ledger ledger' where
  citations := .refl request
  ledgers := by
    have hcard := card_recordsById.2 hnd
    have hcard' := card_recordsById.2 hnd'
    unfold ledgerReasons
    rw [if_neg (not_not.2 hcard), if_neg (not_not.2 hcard'), h.issuer,
      if_congr (not_congr (h.matters _)) rfl rfl, if_congr (not_congr (h.requesters _)) rfl rfl]
  cited := by
    intro c worker recordId hid
    exact cite_eq_of_get? h.issuer (h.get?_eq hnd hnd' hid) c request worker

/-- Routing another request that cites the same ids. -/
theorem SameCitations.alike (h : SameCitations request request')
    (ledger : OperationalAuthorityLedger) : RoutedAlike request request' ledger ledger where
  citations := h
  ledgers := by
    unfold ledgerReasons
    rw [h.matter, h.requester]
  cited := fun c worker recordId _ => h.cite_eq c worker ledger recordId

end

/-- **Routing depends on what the request cites**: not on the other records of the ledger, and not
on the order or the repetition of the ids, the records and the roles. -/
theorem routing_depends_on_citations :
    (∀ request ledger ledger' registry, ledger.NoDuplicates → ledger'.NoDuplicates →
      AgreeOn request ledger ledger' →
        SameRouting (routeWithAuthorityLedger request ledger registry)
          (routeWithAuthorityLedger request ledger' registry)) ∧
    (∀ request request' ledger registry, SameCitations request request' →
      SameRouting (routeWithAuthorityLedger request ledger registry)
        (routeWithAuthorityLedger request' ledger registry)) ∧
    (∀ request ledger records registry, ledger.NoDuplicates → records.Perm ledger.records →
      SameRouting (routeWithAuthorityLedger request ledger registry)
        (routeWithAuthorityLedger request { ledger with records } registry)) ∧
    ∀ request ledger registry registry', registry.Perm registry' →
      SameRouting (routeWithAuthorityLedger request ledger registry)
        (routeWithAuthorityLedger request ledger registry') := by
  refine ⟨?_, ?_, ?_, ?_⟩
  · intro request ledger ledger' registry hnd hnd' h
    exact (h.alike hnd hnd').sameRouting rfl
  · intro request request' ledger registry h
    exact (h.alike ledger).sameRouting (selectWorker_perm h (.refl registry))
  · intro request ledger records registry hnd hperm
    have hnd' : OperationalAuthorityLedger.NoDuplicates { ledger with records } :=
      (hperm.map _).nodup_iff.2 hnd
    have hagree : AgreeOn request ledger { ledger with records } :=
      ⟨rfl, fun _ => Iff.rfl, fun _ => Iff.rfl, fun _ _ _ => hperm.mem_iff.symm⟩
    exact (hagree.alike hnd hnd').sameRouting rfl
  · intro request ledger registry registry' hperm
    exact ((SameCitations.refl request).alike ledger).sameRouting
      (selectWorker_perm (.refl request) hperm)

/-- A second source, cited nowhere, a repeated id and the reverse orders: the request is routed. -/
theorem routing_depends_on_citations_docket :
    (routeWithAuthorityLedger docketRequest (docketLedger ["OPADM-1"]) operationalRoles).status =
        .routed ∧
      SameRouting
        (routeWithAuthorityLedger docketRequest (docketLedger ["OPADM-1"]) operationalRoles)
        (routeWithAuthorityLedger docketRequest (docketLedger ["OPADM-1", "OPADM-2"])
          operationalRoles) ∧
      SameRouting
        (routeWithAuthorityLedger docketRequest (docketLedger ["OPADM-1"]) operationalRoles)
        (routeWithAuthorityLedger
          { docketRequest with sourceAdmissionReceiptIds := ["OPADM-1", "OPADM-1"] }
          (docketLedger ["OPADM-1"]) operationalRoles) ∧
      SameRouting
        (routeWithAuthorityLedger docketRequest (docketLedger ["OPADM-1", "OPADM-2"])
          operationalRoles)
        (routeWithAuthorityLedger docketRequest
          { docketLedger ["OPADM-1", "OPADM-2"] with
            records := (docketLedger ["OPADM-1", "OPADM-2"]).records.reverse } operationalRoles) ∧
      SameRouting
        (routeWithAuthorityLedger docketRequest (docketLedger ["OPADM-1"]) operationalRoles)
        (routeWithAuthorityLedger docketRequest (docketLedger ["OPADM-1"])
          operationalRoles.reverse) := by
  obtain ⟨hledgers, hids, hrecords, hroles⟩ := routing_depends_on_citations
  have hone : (docketLedger ["OPADM-1"]).NoDuplicates := List.nodup_singleton _
  have htwo : (docketLedger ["OPADM-1", "OPADM-2"]).NoDuplicates := by
    unfold OperationalAuthorityLedger.NoDuplicates
    decide
  have hagree :
      AgreeOn docketRequest (docketLedger ["OPADM-1"]) (docketLedger ["OPADM-1", "OPADM-2"]) := by
    refine ⟨rfl, fun _ => Iff.rfl, fun _ => Iff.rfl, fun c record hcited => ?_⟩
    -- the second source is cited by no list
    have hne : record ≠ admittedSource "OPADM-2" := by
      rintro rfl
      revert hcited
      cases c <;> decide
    simp [docketLedger, hne]
  have hrepeated : SameCitations docketRequest
      { docketRequest with sourceAdmissionReceiptIds := ["OPADM-1", "OPADM-1"] } := by
    refine ⟨rfl, rfl, rfl, rfl, rfl, rfl, rfl, rfl, fun c recordId => ?_⟩
    cases c <;> simp [Citation.ids, docketRequest]
  exact ⟨by decide +kernel, hledgers _ _ _ _ hone htwo hagree, hids _ _ _ _ hrepeated,
    hrecords _ _ _ _ htwo (List.reverse_perm _), hroles _ _ _ _ (List.reverse_perm _).symm⟩

end LawFirmDigitalTwin
