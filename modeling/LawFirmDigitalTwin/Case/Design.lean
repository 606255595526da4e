import LawFirmDigitalTwin.Case.Compilation
import LawFirmDigitalTwin.Evidence.Snapshots

/-!
# The design of a case

The first half of `compile_case_design`: a request is checked against the registry, the axes of its
blueprint are turned into sealed facts with one declared conflict, and the artifacts to be produced
are listed. Two of the axes choose values of facts; one of these also chooses which artifacts are
missing. Who learns what and when is the same in every design.
-/

namespace LawFirmDigitalTwin

/-- `d[key]`, where a missing key is reported as a contract's error. -/
def PyDict.item {α : Type} (d : PyDict α) (key : String) : Except ContractError α :=
  match d.get? key with
  | some v => .ok v
  | none => .error ⟨"KeyError", [key]⟩

/-- A key of a design is what the dictionary holds. -/
theorem PyDict.item_eq_ok {α : Type} {d : PyDict α} {key : String} {v : α} :
    d.item key = .ok v ↔ d.get? key = some v := by
  unfold PyDict.item
  cases d.get? key with
  | none => exact iff_of_false (fun h => by cases h) fun h => by cases h
  | some w => exact ⟨fun h => congrArg some (Except.ok.inj h), fun h => congrArg _ (Option.some.inj h)⟩

/-! ## The request -/

/-- `case_compiler.py` `CompileRequest`. -/
structure CompileRequest where
  blueprint : CaseDesignBlueprint
  registry : CapabilityRegistry
  rulePack : RulePack
  compilerRevision : String := caseCompilerRevision

/-- `{item.axis_id: item for item in registry.population_axes}`. -/
def CapabilityRegistry.axisById (registry : CapabilityRegistry) : PyDict PopulationAxis :=
  .ofEntries (registry.populationAxes.map fun item => (item.axisId, item))

namespace CompileRequest

variable (r : CompileRequest)

/-- `dict(blueprint.sealed_axis_labels)`. -/
def selected : PyDict String := .ofEntries r.blueprint.sealedAxisLabels

/-- One pass of the loop over the selected buckets. -/
def checkBucket (axisId : String) : Except ContractError Unit := do
  let bucketId ← r.selected.item axisId
  let axis ← r.registry.axisById.item axisId
  if bucketId ∉ axis.buckets.map (·.bucketId) then
    throw ⟨"unknown_population_bucket:" ++ axisId ++ ":" ++ bucketId, []⟩

/-- `case_compiler.py` `_validate_request`: the family it returns. -/
def validate : Except ContractError CaseFamilyManifest :=
  match r.registry.familyById.get? r.blueprint.caseFamilyId with
  | none => throw ⟨"unknown_case_family", []⟩
  | some family => do
    if family.readiness ≠ "active_g2" then throw ⟨"case_family_not_active", []⟩
    if family.syntheticOnly = false ∨ family.fidelityLevel ≠ "G2" then
      throw ⟨"family_boundary_invalid", []⟩
    if r.selected.keys ≠ r.registry.axisById.keys then throw ⟨"population_axis_set_mismatch", []⟩
    let _ ← (Groups.distinct (r.blueprint.sealedAxisLabels.map (·.1))).mapM r.checkBucket
    return family

end CompileRequest

/-! ## The facts -/

/-- What the identity of a claim is derived from. -/
def claimForm (factId value : String) (occursDay : Int) (knownBy : List (String × Int)) : Json :=
  .dict
    [("fact", .str factId), ("value", .str value), ("day", .int occursDay),
     ("known", .list (knownBy.map fun k => .list [.str k.1, .int k.2]))]

/-- `case_compiler.py` `_claim`. -/
def claim (factId value : String) (occursDay : Int) (domain : String)
    (knownBy : List (String × Int)) : CompiledFact where
  claimId := "CLAIM-" ++ firstChars 18 (digest (claimForm factId value occursDay knownBy))
  factId := factId
  value := value
  occursDay := occursDay
  domain := domain
  knownBy := knownBy.insertionSort fun a b => toLex a ≤ toLex b

/-- `merits_values`: what the attendance record supports, and whether policy was followed. -/
def meritsValues : PyDict (String × String) :=
  .ofEntries
    [("defense_favorable",
      ("four_exceptions_verified_with_prior_coaching",
        "documented_operational_exception_after_hr_consult")),
     ("claimant_favorable",
      ("mixed_exceptions_with_disputed_entries", "manager_acted_before_required_hr_consult")),
     ("balanced",
      ("two_excused_one_disputed_one_unverified",
        "consultation_started_but_final_sequence_is_disputed")),
     ("deeply_ambiguous",
      ("source_records_incomplete_and_partly_corrupted",
        "sequence_cannot_be_resolved_from_available_records"))]

/-- `status_values`: the decision as the manager and as human resources put it. -/
def statusValues : PyDict (String × String) :=
  .ofEntries
    [("directional_defense",
      ("recommendation_pending_on_day_38", "review_in_progress_on_day_40")),
     ("directional_claimant",
      ("decision_final_on_day_38", "manager_had_communicated_final_intent_by_day_40")),
     ("mixed_conflicting",
      ("decision_final_on_day_38", "no_final_recommendation_received_by_day_40")),
     ("sparse_or_corrupted",
      ("decision_language_appears_final_but_source_is_partial",
        "hr_record_fragment_does_not_resolve_finality")),
     ("noisy_redundant",
      ("decision_language_mixed_with_staffing_discussion",
        "review_request_remained_open_on_day_40"))]

/-- The actors who learn what there is to know. -/
def commonKnowledge : List (String × Int) :=
  [("responsible_lawyer", 50), ("litigation_paralegal", 50), ("independent_expert", 100)]

/-- The facts of a design with the values its axes choose. -/
def factsOf (merits status : String × String) (proceduralQuality : String) : List CompiledFact :=
  [claim "referral_summary" "synthetic_adverse_employment_referral" 0 "employment_action"
      ([("intake_coordinator", 0), ("claim_handler", 0)] ++ commonKnowledge),
    claim "policy_process" "consult_hr_before_discharge_with_documented_exception" 1 "policy"
      ([("hr_witness", 1), ("manager_witness", 1)] ++ commonKnowledge),
    claim "protected_activity" "employee_reported_wage_and_safety_concerns" 25 "protected_activity"
      ([("hr_witness", 25), ("manager_witness", 27)] ++ commonKnowledge),
    claim "attendance_support" merits.1 35 "attendance"
      ([("billing_specialist", 35), ("hr_witness", 35), ("manager_witness", 35)] ++ commonKnowledge),
    claim "hr_review_scheduled" "day_39_review_tentative" 37 "employment_action"
      ([("manager_witness", 37), ("hr_witness", 37)] ++ commonKnowledge),
    claim "decision_status" status.1 38 "employment_action"
      ([("manager_witness", 38)] ++ commonKnowledge),
    claim "decision_status" status.2 40 "employment_action"
      ([("hr_witness", 40)] ++ commonKnowledge),
    claim "termination_day" "44" 44 "employment_action"
      ([("manager_witness", 44), ("hr_witness", 44)] ++ commonKnowledge),
    claim "stated_reason" "attendance_and_performance" 44 "employment_action"
      ([("manager_witness", 44), ("hr_witness", 44)] ++ commonKnowledge),
    claim "policy_alignment" merits.2 44 "policy"
      ([("manager_witness", 44), ("hr_witness", 44)] ++ commonKnowledge),
    claim "procedural_posture" proceduralQuality 52 "procedure"
      [("responsible_lawyer", 52), ("litigation_paralegal", 52)]]

/-- The claims about the status of the decision. -/
def decisionClaims (facts : List CompiledFact) : List CompiledFact :=
  facts.filter (·.factId = "decision_status")

/-- The conflict that is declared where the status of the decision has two values. -/
def conflictsOf (facts : List CompiledFact) : List SealedConflictSpec :=
  let claimIds := (decisionClaims facts).map (·.claimId)
  if 1 < ((decisionClaims facts).map (·.value)).toFinset.card then
    [{ conflictId := "CONFLICT-" ++ firstChars 18 (digest (.strs claimIds))
       issueFactId := "decision_status"
       claimIds := claimIds
       purpose := "test independent detection of incompatible contemporaneous decision-timing " ++
        "accounts" }]
  else []

/-- `case_compiler.py` `_build_fact_design`. -/
def buildFactDesign (axis : PyDict String) :
    Except ContractError (List CompiledFact × List SealedConflictSpec) := do
  let meritsPosture ← axis.item "merits_posture"
  let evidenceShape ← axis.item "evidence_shape"
  let merits ← meritsValues.item meritsPosture
  let status ← statusValues.item evidenceShape
  let proceduralQuality ← axis.item "procedural_quality"
  let facts := factsOf merits status proceduralQuality
  return (facts, conflictsOf facts)

/-- `case_compiler.py` `_knowledge_for_actor`. -/
def knowledgeForActor (facts : List CompiledFact) (actorId : String) (asOfDay : Int) :
    List String :=
  sorted ((facts.filter (·.knownTo actorId asOfDay)).map (·.factId)).toFinset

/-! ## The artifacts -/

/-- What `spec` returns: an artifact that is to be produced. -/
structure PlanSpec where
  family : String
  logical : String
  author : String
  recipients : List String
  day : Int
  facts : List String
  availability : String
  responsive : Bool
  format : String
  deriving DecidableEq

/-- The keyword arguments of `spec` and their defaults. -/
structure SpecOptions where
  initial : Bool := false
  responsive : Bool := true
  missing : Bool := false
  format : String := "application/json"

/-- `spec` of `_plan_specs`, in a design that is noisy or not. -/
def planSpec (noisy : Bool) (family logical author : String) (recipients : List String) (day : Int)
    (facts : List String) (options : SpecOptions) : PlanSpec where
  family := family
  logical := logical
  author := author
  recipients := recipients
  day := day
  facts := facts
  availability :=
    if options.initial then "initial"
    else if options.missing then "missing_or_corrupted"
    else if options.responsive || noisy then "discoverable"
    else "withheld_nonresponsive"
  responsive := options.responsive
  format := options.format

/-- The artifacts of a design, by the shape of its evidence. -/
def planSpecsOf (evidenceShape : String) : List PlanSpec :=
  let sparse := evidenceShape == "sparse_or_corrupted"
  let spec := planSpec (evidenceShape == "noisy_redundant")
  [spec "employment_litigation" "referral" "intake_coordinator" ["responsible_lawyer"] 0
      ["referral_summary"] { initial := true },
    spec "employment_policy" "discipline-policy" "hr_witness" ["manager_witness"] 1
      ["policy_process"] { initial := true },
    spec "employment_payroll" "attendance-summary" "billing_specialist" [] 35
      ["attendance_support"] { missing := sparse, format := "text/csv" },
    spec "employment_noise" "benefits-reminder" "hr_witness" [] 36 [] { responsive := false },
    spec "employment_calendar" "manager-calendar" "manager_witness" ["hr_witness"] 37
      ["hr_review_scheduled"] { missing := sparse },
    spec "employment_email" "manager-decision-email" "manager_witness" ["hr_witness"] 38
      ["decision_status"] {},
    spec "employment_email" "hr-followup-email" "hr_witness" ["manager_witness"] 40
      ["decision_status"] { missing := sparse },
    spec "employment_hr_record" "termination-record" "manager_witness" [] 44
      ["termination_day", "stated_reason", "policy_alignment"] { initial := true },
    spec "employment_expert" "workplace-practices-analysis" "independent_expert"
      ["responsible_lawyer"] 120
      ["attendance_support", "decision_status", "decision_status", "policy_alignment"] {}]

/-- `case_compiler.py` `_plan_specs`. -/
def planSpecs (axis : PyDict String) : Except ContractError (List PlanSpec) := do
  let evidenceShape ← axis.item "evidence_shape"
  return planSpecsOf evidenceShape

end LawFirmDigitalTwin
