import LawFirmDigitalTwin.Kernel.Runs

/-!
# The scripted workflow

`_command` and `_workflow_commands` of `g2.py`: the commands of the walking skeleton, for a
treatment arm and a route.
-/

namespace LawFirmDigitalTwin

/-- `f"{n:03d}"`. -/
def threeDigits (n : Nat) : String :=
  String.ofList (List.replicate (3 - (Nat.toDigits 10 n).length) '0' ++ Nat.toDigits 10 n)

/-- `g2.py` `_command`. -/
def mkCommand (index : Nat) (verb : Verb) (bundle : WorldBundle) (actorId : String)
    (payload : List (String × PyValue)) (authority knowledge : List String)
    (suffix : String := "") : Except PyError Command := do
  let profile ← bundle.matter.actors.getItem actorId
  return {
    commandId := "CMD-" ++ threeDigits index ++ "-" ++ verb.name ++
      (if suffix = "" then "" else "-" ++ suffix)
    verb := verb.name
    actorId := actorId
    roleId := profile.roleId
    matterId := bundle.matter.matterId
    payload := .ofEntries payload
    requiresAuthority := authority
    requiresKnowledge := knowledge }

/-- The amounts of the two time entries of a workflow, and the carrier's reduction. -/
def Arm.amounts : Arm → Decimal × Decimal × Decimal
  | .traditional => (.finite false 60000 (-2), .finite false 30000 (-2), .finite false 9000 (-2))
  | .aiFirst => (.finite false 45000 (-2), .finite false 25000 (-2), .finite false 7000 (-2))

/-- `sum(time_values) - reduction + Decimal("20.00")`. -/
def Arm.payment (arm : Arm) : Except PyError Decimal := do
  let (first, second, reduction) := arm.amounts
  let total ← Decimal.add (← Decimal.add (.finite false 0 0) first) second
  Decimal.add (← Decimal.sub total reduction) (.finite false 2000 (-2))

/-- `g2.py` `_workflow_commands`. -/
def workflowCommands (b : WorldBundle) (arm : Arm) (route : Route) :
    Except PyError (List Command) := do
  let (first, second, reduction) := arm.amounts
  let payment ← arm.payment
  return [
    ← mkCommand 1 .receiveReferral b "intake_coordinator"
      [("referral_id", .str b.matter.referralId)] ["receive_referral"] ["referral_summary"],
    ← mkCommand 2 .submitConflictResult b "conflicts_analyst"
      [("conflict", .str "prior affiliate contact requires affected-client consent")]
      ["conflict_search"] ["party_names"],
    ← mkCommand 3 .recordLawyerGate b "responsible_lawyer"
      [("gate", .str "affected_client_consent"), ("grants", .str "matter_opening")]
      ["lawyer_conflict_determination"] ["conflict_result"],
    ← mkCommand 4 .openMatter b "responsible_lawyer"
      [("coverage", .str "reservation_of_rights"), ("guidelines", .str "synthetic_ocg_v0")]
      ["matter_opening"] ["referral_summary"],
    ← mkCommand 5 .calculateDeadlines b "docketing_specialist"
      [("complaint_filed_day", .int 0)] ["deadline_proposal"] ["rule_pack"],
    ← mkCommand 6 .verifyDeadlines b "deadline_reviewer"
      [("complaint_filed_day", .int 0)] ["deadline_verify"] ["rule_pack", "deadline_proposal"],
    ← mkCommand 7 .issuePreservation b "litigation_paralegal"
      [("scope", .str "synthetic_employment_sources")] ["preservation"]
      ["evidence_inventory_metadata"],
    ← mkCommand 8 .collectEvidence b "litigation_paralegal"
      [("method", .str "deterministic_synthetic_collection")] ["collection"]
      ["preservation_issued"],
    ← mkCommand 9 .reviewEvidence b "responsible_lawyer"
      [("protocol", .str "responsive_nonprivileged_g2")] ["legal_work"] ["collected_evidence"],
    ← mkCommand 10 .produceDiscovery b "litigation_paralegal"
      [("production", .str "G2-PROD-001")] ["production"] ["review_complete"],
    ← mkCommand 11 .takeDeposition b "responsible_lawyer"
      [("witness_id", .str "hr_witness")] ["legal_work"] ["produced_evidence"],
    ← mkCommand 12 .retainExpert b "responsible_lawyer"
      [("expert_id", .str "independent_expert")] ["retain_expert"] ["deposition_transcript"],
    ← mkCommand 13 route.resolutionVerb b "responsible_lawyer"
      [("route", .str route.value)] ["resolution"] ["expert_opinion"],
    ← mkCommand 14 .recordTime b "responsible_lawyer"
      [("amount", .str first.toText), ("task_code", .str "L120"),
       ("narrative", .str "Analyze synthetic evidence and resolution route.")]
      ["record_time"] ["initial_record"] "lawyer",
    ← mkCommand 15 .recordTime b "litigation_paralegal"
      [("amount", .str second.toText), ("task_code", .str "L320"),
       ("narrative", .str "Preserve, collect, and prepare synthetic production.")]
      ["record_time"] ["review_complete"] "paralegal",
    ← mkCommand 16 .submitInvoice b "billing_specialist" [] ["billing"] ["guidelines"],
    ← mkCommand 17 .carrierAudit b "claim_handler"
      [("reduction", .str reduction.toText), ("reason", .str "synthetic_guideline_adjustment")]
      ["carrier_audit"] ["guidelines"],
    ← mkCommand 18 .appealReduction b "billing_specialist"
      [("recovered", .str "20.00"), ("basis", .str "task_and_narrative_support")]
      ["billing"] ["guidelines"],
    ← mkCommand 19 .applyPayment b "billing_specialist"
      [("cash", .str payment.toText)] ["billing"] ["guidelines"],
    ← mkCommand 20 .finalizeCloseout b "responsible_lawyer"
      [("retention", .str "scheduled"), ("final_report", .str "delivered"),
       ("conflict_history", .str "updated")]
      ["matter_close"] ["expert_opinion"],
    ← mkCommand 21 .closeMatter b "responsible_lawyer" [] ["matter_close"] ["expert_opinion"]]

/-- A kernel over the employment world of the seed `alpha`. -/
def alphaKernel : Kernel where
  runId := "RUN-traditional-early_settlement-alpha-primary"
  bundle := buildEmploymentWorld "alpha" placeholderDataFirstRulePack
  arm := .traditional
  route := .earlySettlement

/-- The workflow on that kernel. -/
def alphaWorkflow : List Command :=
  match workflowCommands alphaKernel.bundle alphaKernel.arm alphaKernel.route with
  | .ok cs => cs
  | .error _ => []

/-- The bundle of the kernel is an employment bundle. -/
theorem alphaKernel_employment : alphaKernel.bundle.Employment :=
  ⟨"alpha", placeholderDataFirstRulePack, rfl⟩

/-- The payloads of the workflow, and the deadlines that they lead to, can be written. -/
theorem alphaWorkflow_writable : ∀ c ∈ alphaWorkflow, c.WritableFor alphaKernel := by
  decide +kernel

example : (alphaKernel.run alphaWorkflow).projection.closed = true := by decide +kernel

end LawFirmDigitalTwin
