import LawFirmDigitalTwin.Kernel.Transition

/-!
# The auditor

`BereanAuditor` of `berean.py`: how it detects conflicts among the artifacts that were produced, and
the finding on the derivation of the deadlines. It derives both again from the bundle and compares
them with what the kernel has recorded.
-/

namespace LawFirmDigitalTwin

/-- `berean.py` `AuditFinding`. -/
structure AuditFinding where
  code : String
  title : String
  status : String
  severity : String
  evidence : List String
  explanation : String

/-- `BereanAuditor._check`. -/
def auditCheck (code title : String) (passed : Bool) (evidence : List String)
    (explanation : String) : AuditFinding where
  code := code
  title := title
  status := if passed then "pass" else "fail"
  severity := "error"
  evidence := evidence
  explanation := explanation

/-! ## Conflicts -/

/-- The loop of `_detect_conflicts`. -/
def observedValues (produced : Finset String) : List EvidenceArtifact → PyDict (Finset String) →
    PyDict (Finset String)
  | [], values => values
  | a :: rest, values =>
    if a.artifactId ∉ produced then observedValues produced rest values
    else observedValues produced rest (addClaims values a.claims)

/-- `{fact_id for fact_id, observed in values.items() if len(observed) > 1}`. -/
def conflictSet (values : PyDict (Finset String)) : Finset String :=
  values.keys.filter fun factId => 1 < ((values.get? factId).getD ∅).card

/-- `BereanAuditor._detect_conflicts`. -/
def detectConflicts (artifacts : List EvidenceArtifact) (produced : Finset String) :
    Finset String :=
  conflictSet (observedValues produced artifacts ∅)

/-! ## Deadlines -/

/-- The deadlines that the auditor expects. -/
def expectedDeadlines (rulePack : RulePack) : PyDict Int :=
  .ofEntries
    [("response_due", rulePack.responseDays), ("initial_disclosures_due", rulePack.disclosureDays),
     ("discovery_cutoff", rulePack.discoveryCutoffDays)]

/-- The events of the accepted commands with a verb. -/
def acceptedEvents (events : List Event) (v : Verb) : List Event :=
  events.filter (·.eventType = v.acceptedType)

/-- `independent_deadline_ok`: two actors are on record, each as the actor of the first event of its
verb, with their calculators. -/
def independentDeadlineOk (events : List Event) (deadlineAudit : PyDict String) : Bool :=
  match acceptedEvents events .calculateDeadlines, acceptedEvents events .verifyDeadlines with
  | calculator :: _, verifier :: _ =>
    calculator.actorId ≠ verifier.actorId ∧
      deadlineAudit.get? "primary_actor" = some calculator.actorId ∧
      deadlineAudit.get? "secondary_actor" = some verifier.actorId ∧
      deadlineAudit.get? "primary_calculator" = some primaryDeadlineCalculator ∧
      deadlineAudit.get? "secondary_calculator" = some secondaryDeadlineCalculator ∧
      primaryDeadlineCalculator ≠ secondaryDeadlineCalculator
  | _, _ => false

/-- The finding `BRN-003` of `BereanAuditor.audit`. -/
def deadlineFinding (k : Kernel) (s : KernelState) : AuditFinding :=
  let deadlineAudit := s.projection.deadlineAudit
  auditCheck "BRN-003" "Deadline derivation"
    (s.projection.deadlines = expectedDeadlines k.bundle.matter.rulePack ∧
      independentDeadlineOk s.events deadlineAudit)
    (deadlineAudit.entries.map fun e => e.1 ++ ":" ++ e.2)
    ("Different actors executed separately versioned calculators and agreed with the admitted " ++
      "rule-pack fields.")

end LawFirmDigitalTwin
