import Mathlib.Data.List.Infix
import LawFirmDigitalTwin.Lib.Occurs
import LawFirmDigitalTwin.PyText
import LawFirmDigitalTwin.Schedule.Contracts
import LawFirmDigitalTwin.Spelling

/-!
# Schedule manifests

`validate_schedule_manifest` of `simulation_schedule_core.py`, and what a manifest without errors
guarantees to the schedulers (`ValidManifest`). Ticks, capacities and priorities are integers by
their type, so that the checks of the type itself are left out.
-/

namespace LawFirmDigitalTwin

/-- `simulation_schedule_core.py` `RESOURCE_CLASSES`. -/
def resourceClasses : List String :=
  ["intake_operations", "conflicts_operations", "responsible_counsel", "docketing_operations",
   "independent_deadline_review", "litigation_support", "billing_operations", "carrier_review"]

/-- `simulation_schedule_core.py` `SERVICE_TICKS`. -/
def serviceTicksOf : List (String × Int) :=
  [("intake_work", 2), ("conflicts_work", 2), ("authority_review_work", 1),
   ("matter_opening_work", 1), ("deadline_calculation_work", 2),
   ("deadline_verification_work", 2), ("preservation_work", 2), ("collection_work", 4),
   ("evidence_review_work", 5), ("production_work", 3), ("deposition_support_work", 4),
   ("expert_coordination_work", 4), ("resolution_work", 3), ("timekeeping_work", 1),
   ("billing_submission_work", 1), ("carrier_audit_work", 1), ("billing_appeal_work", 1),
   ("payment_processing_work", 1), ("closeout_work", 1), ("closure_work", 1),
   ("boundary_probe_work", 1)]

/-- `simulation_schedule_core.py` `ALLOWED_SCHEDULING_CLASSES`. -/
def allowedSchedulingClasses : List String := serviceTicksOf.map (·.1)

/-- The texts that no manifest may contain. -/
def forbiddenSchedulerContent : List String :=
  ["early_settlement", "mediation_impasse", "trial_appeal", "target_posture", "resolution_outcome",
   "settlement_amount", "verdict", "evaluator_case_id", "world_namespace", "matter_namespace",
   "oracle_material"]

/-- `{item.resource_class: item for item in manifest.resources}`. -/
def SimulationScheduleManifest.resourceDict (m : SimulationScheduleManifest) :
    PyDict SchedulerResourceSpec :=
  .ofEntries (m.resources.map fun item => (item.resourceClass, item))

/-- The commitment that `manifest_id` starts from. -/
def SimulationScheduleManifest.expectedId (m : SimulationScheduleManifest) : String :=
  "SCHED-MANIFEST-" ++ firstChars 18 (digest (.dict
    [("cassette", .str m.sourceCassetteCommitment), ("matter", .str m.matterCommitment),
     ("resources", .list (m.resources.map SchedulerResourceSpec.toJson)),
     ("proposals", .list (m.proposals.map ScheduledCommandProposal.toJson)),
     ("max_wait", .int m.maxWaitTicks), ("max_finish", .int m.maxFinishTick),
     ("core", .str m.schedulerCoreRevision), ("normalization", .str m.normalizationRevision)]))

/-- An error, where the check fails. -/
def errorIf (bad : Bool) (error : String) : List String := if bad then [error] else []

/-- The checks of one resource. -/
def resourceErrors (item : SchedulerResourceSpec) : List String :=
  errorIf (item.capacity ≤ 0 ∨ item.capacity > 16 ∨ item.queuePolicy ≠ "deterministic_fifo" ∨
      ¬ item.nonPreemptive)
    ("SCH-008:" ++ item.resourceClass ++ ":resource_policy_invalid")

/-- The checks of one proposal. -/
def proposalErrors (m : SimulationScheduleManifest) (item : ScheduledCommandProposal) :
    List String :=
  errorIf (item.matterCommitment ≠ m.matterCommitment)
    ("SCH-014:" ++ item.proposalId ++ ":cross_matter_proposal") ++
  errorIf (item.sourceCassetteCommitment ≠ m.sourceCassetteCommitment)
    ("SCH-015:" ++ item.proposalId ++ ":cassette_binding_mismatch") ++
  errorIf (item.schedulingClass ∉ allowedSchedulingClasses)
    ("SCH-016:" ++ item.proposalId ++ ":scheduling_class_invalid") ++
  errorIf (m.resourceDict.get? item.resourceClass).isNone
    ("SCH-017:" ++ item.proposalId ++ ":resource_class_invalid") ++
  errorIf (item.readyTick < 0 ∨ item.serviceTicks ≤ 0 ∨ item.serviceTicks > m.maxFinishTick)
    ("SCH-018:" ++ item.proposalId ++ ":tick_value_invalid") ++
  errorIf (item.priority < 0 ∨ item.priority > 100)
    ("SCH-019:" ++ item.proposalId ++ ":priority_invalid") ++
  errorIf (item.payloadIncluded ∨ item.kernelAcceptanceClaimed)
    ("SCH-020:" ++ item.proposalId ++ ":proposal_authority_invalid") ++
  errorIf (item.expectedDisposition ∉ ["accepted", "denied_boundary_probe"])
    ("SCH-021:" ++ item.proposalId ++ ":disposition_invalid")

/-- `simulation_schedule_core.py` `validate_schedule_manifest`. -/
def validateScheduleManifest (m : SimulationScheduleManifest) : List String :=
  let ordinals := m.proposals.map (·.submissionOrdinal)
  errorIf (m.schedulerCoreRevision ≠ schedulerCoreRevision) "SCH-001:core_revision_mismatch" ++
  errorIf (m.normalizationRevision ≠ scheduleNormalizationRevision)
    "SCH-002:normalization_revision_mismatch" ++
  errorIf (¬ m.routeBlind ∨ m.sourceBodiesIncluded) "SCH-003:information_boundary_invalid" ++
  errorIf (m.externalIo ∨ m.canonicalTimeAuthority ∨ m.worldTruthWrite ∨ m.branchAuthority ∨
      m.outcomeAuthority)
    "SCH-004:authority_boundary_invalid" ++
  errorIf (m.sourceCassetteCommitment.length ≠ 64 ∨ m.matterCommitment.length ≠ 64)
    "SCH-005:commitment_shape_invalid" ++
  errorIf (¬ (m.resources.map (·.resourceClass)).Nodup) "SCH-006:duplicate_resource" ++
  errorIf (m.resourceDict.keys ≠ resourceClasses.toFinset) "SCH-007:resource_coverage_invalid" ++
  m.resources.flatMap resourceErrors ++
  errorIf (m.proposals = [] ∨ m.proposals.length > 1000) "SCH-009:proposal_count_invalid" ++
  errorIf (¬ (m.proposals.map (·.proposalId)).Nodup) "SCH-010:duplicate_proposal_id" ++
  errorIf (¬ ordinals.Nodup ∨
      ordinals.insertionSort (· ≤ ·) ≠ (List.range ordinals.length).map fun n => (n : Int) + 1)
    "SCH-011:submission_ordinal_invalid" ++
  errorIf (¬ (m.proposals.map (·.commandCommitment)).Nodup) "SCH-012:duplicate_command_commitment" ++
  errorIf (¬ (m.proposals.map (·.tieBreakKey)).Nodup) "SCH-013:duplicate_tie_break_key" ++
  m.proposals.flatMap (proposalErrors m) ++
  errorIf (m.maxWaitTicks ≤ 0 ∨ m.maxFinishTick ≤ 0) "SCH-022:liveness_ceiling_invalid" ++
  errorIf (m.manifestId ≠ m.expectedId) "SCH-023:manifest_id_invalid" ++
  (forbiddenSchedulerContent.filter (textContains (canonicalJson m.toJson).toLower)).map
    ("SCH-024:forbidden_scheduler_content:" ++ ·)

/-- No error is reported where the condition fails. -/
theorem errorIf_eq_nil {bad : Bool} {error : String} : errorIf bad error = [] ↔ bad = false := by
  cases bad <;> simp [errorIf]

/-! ## What a manifest without errors guarantees -/

/-- What the schedulers and the trace checker rely on. -/
structure ValidManifest (m : SimulationScheduleManifest) : Prop where
  coreRevision : m.schedulerCoreRevision = schedulerCoreRevision
  normalizationRevision : m.normalizationRevision = scheduleNormalizationRevision
  resourceNodup : (m.resources.map (·.resourceClass)).Nodup
  capacity : ∀ r ∈ m.resources, 0 < r.capacity
  idNodup : (m.proposals.map (·.proposalId)).Nodup
  ordinalNodup : (m.proposals.map (·.submissionOrdinal)).Nodup
  resource : ∀ p ∈ m.proposals, (m.resourceDict.get? p.resourceClass).isSome
  ready : ∀ p ∈ m.proposals, 0 ≤ p.readyTick
  service : ∀ p ∈ m.proposals, 0 < p.serviceTicks
  maxWait : 0 < m.maxWaitTicks
  maxFinish : 0 < m.maxFinishTick

/-- A manifest without errors is valid. -/
theorem validManifest_of_nil {m : SimulationScheduleManifest}
    (h : validateScheduleManifest m = []) : ValidManifest m := by
  simp only [validateScheduleManifest, List.append_eq_nil_iff, errorIf_eq_nil,
    List.flatMap_eq_nil_iff, resourceErrors, proposalErrors, decide_eq_false_iff_not, not_or,
    not_not, not_le, not_lt, Option.isNone_eq_false_iff] at h
  obtain ⟨⟨⟨⟨⟨⟨⟨⟨⟨⟨⟨⟨⟨⟨⟨⟨hcore, hnorm⟩, -⟩, -⟩, -⟩, hnodup⟩, -⟩, hresources⟩, -⟩, hids⟩, hords⟩, -⟩,
    -⟩, hproposals⟩, hceilings⟩, -⟩, -⟩ := h
  exact
    { coreRevision := hcore
      normalizationRevision := hnorm
      resourceNodup := hnodup
      capacity := fun r hr => (hresources r hr).1
      idNodup := hids
      ordinalNodup := hords.1
      resource := fun p hp => (hproposals p hp).1.1.1.1.2
      ready := fun p hp => (hproposals p hp).1.1.1.2.1
      service := fun p hp => (hproposals p hp).1.1.1.2.2.1
      maxWait := hceilings.1
      maxFinish := hceilings.2 }

/-! ## A manifest without errors -/

/-- One intake proposal, and a server for each class. -/
def intakeManifest : SimulationScheduleManifest where
  manifestId := "SCHED-MANIFEST-ca1462e7fc9f4a260c"
  schedulerCoreRevision := LawFirmDigitalTwin.schedulerCoreRevision
  normalizationRevision := scheduleNormalizationRevision
  sourceCassetteCommitment := "cccccccccccccccccccccccccccccccccccccccccccccccccccccccccccccccc"
  matterCommitment := "mmmmmmmmmmmmmmmmmmmmmmmmmmmmmmmmmmmmmmmmmmmmmmmmmmmmmmmmmmmmmmmm"
  resources := resourceClasses.map fun c => { resourceClass := c, capacity := 1 }
  proposals :=
    [{ proposalId := "p1"
       matterCommitment := "mmmmmmmmmmmmmmmmmmmmmmmmmmmmmmmmmmmmmmmmmmmmmmmmmmmmmmmmmmmmmmmm"
       commandCommitment := "p1"
       schedulingClass := "intake_work"
       readyTick := 0
       serviceTicks := 2
       resourceClass := "intake_operations"
       priority := 10
       submissionOrdinal := 1
       tieBreakKey := "p1"
       expectedDisposition := "accepted"
       sourceCassetteCommitment :=
         "cccccccccccccccccccccccccccccccccccccccccccccccccccccccccccccccc" }]
  maxWaitTicks := 100
  maxFinishTick := 1000
  routeBlind := true
  sourceBodiesIncluded := false
  externalIo := false
  canonicalTimeAuthority := false
  worldTruthWrite := false
  branchAuthority := false
  outcomeAuthority := false

/-- The intake manifest bears the id of its content. -/
theorem intakeManifest_id : intakeManifest.manifestId = intakeManifest.expectedId := by
  refine congrArg ("SCHED-MANIFEST-" ++ ·)
    (?_ : "ca1462e7fc9f4a260c" = firstChars 18 (digest _))
  exact (Json.firstChars_eq_of_spells (by repeat' constructor) (by decide +kernel)).symm

/-- A value that is not found among the code points of the lower-case text is not in it. -/
theorem not_textContains {v : Json} {t : Json.Spelling} {value : String} (h : Json.Spells v t)
    (hfound : Occurs.found (value.toList.map Char.toNat)
      (t.text.map fun c => c.toLower.toNat) = false) :
    textContains (canonicalJson v).toLower value = false := by
  have hlower (s : String) : s.toLower = s.map Char.toLower := rfl
  rw [textContains, Json.canonicalJson_eq_of_spells h, hlower, String.toList_map,
    String.toList_ofList]
  refine decide_eq_false fun hinfix => ?_
  have hcodes := hinfix.map Char.toNat
  rw [List.map_map] at hcodes
  exact Bool.false_ne_true (hfound.symm.trans (Occurs.found_of_infix hcodes))

/-- Nothing of the intake manifest is forbidden. -/
theorem intakeManifest_forbidden :
    forbiddenSchedulerContent.filter
      (textContains (canonicalJson intakeManifest.toJson).toLower) = [] := by
  refine List.filter_eq_nil_iff.2 fun value hvalue => Bool.eq_false_iff.1 ?_
  refine not_textContains (by repeat' constructor) ?_
  revert value
  decide +kernel

/-- The intake manifest has no errors. -/
theorem intakeManifest_valid : validateScheduleManifest intakeManifest = [] := by
  rw [validateScheduleManifest, intakeManifest_forbidden, ← intakeManifest_id]
  decide +kernel

end LawFirmDigitalTwin
