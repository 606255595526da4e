import LawFirmDigitalTwin.Berean.Auditor
import LawFirmDigitalTwin.Kernel.Custody

/-!
# The report of the auditor

`BereanAuditor.audit` of `berean.py`: its eleven findings, each a definition of its own, and the
report that collects them. The audit raises where the balances of the ledger cannot be added or
compared, and where an artifact was produced that the inventory does not hold.
-/

namespace LawFirmDigitalTwin

def AuditFinding.toJson (f : AuditFinding) : Json :=
  .dict
    [("code", .str f.code), ("title", .str f.title), ("status", .str f.status),
     ("severity", .str f.severity), ("evidence", .strs f.evidence),
     ("explanation", .str f.explanation)]

/-- `berean.py` `AuditReport`. -/
structure AuditReport where
  auditor : String
  revision : String
  plane : String
  passed : Bool
  findings : List AuditFinding
  detectedConflictIds : List String
  reportHash : String

/-! ## The oracle and the gate -/

def oracleDenials (denials : List Denial) : List Denial :=
  denials.filter (·.reason = .oracleBoundary)

/-- The finding `BRN-001`. -/
def oracleFinding (s : KernelState) : AuditFinding :=
  auditCheck "BRN-001" "Oracle isolation"
    (oracleDenials s.denials ≠ [] ∧ acceptedEvents s.events .readOracle = [])
    ((oracleDenials s.denials).map (·.commandId))
    "The attempt ledger contains an oracle denial and no accepted oracle-read event."

/-- The denials of an opening before the lawyer's gate. -/
def conflictDenials (denials : List Denial) : List Denial :=
  denials.filter fun d => d.reason = .missingAuthority ∧ "matter_opening" ∈ d.missing

/-- `gate_order_ok`: the first gate is earlier than the first opening. -/
def gateOrderOk (events : List Event) : Bool :=
  match acceptedEvents events .recordLawyerGate, acceptedEvents events .openMatter with
  | gate :: _, opening :: _ => gate.simulatedAt < opening.simulatedAt
  | _, _ => false

/-- The finding `BRN-002`. -/
def gateFinding (s : KernelState) : AuditFinding :=
  auditCheck "BRN-002" "Conflict and human authority gate"
    (conflictDenials s.denials ≠ [] ∧ gateOrderOk s.events ∧ s.projection.authorityHolds = ∅ ∧
      s.projection.humanGateBypasses = 0)
    ((conflictDenials s.denials).map (·.commandId) ++
      (acceptedEvents s.events .recordLawyerGate ++ acceptedEvents s.events .openMatter).map
        (·.commandId))
    ("A premature opening was denied, consent was recorded, and the accepted opening followed " ++
      "the lawyer gate.")

/-! ## The evidence -/

/-- `set(projection.produced_artifact_ids)`. -/
def Projection.produced (p : Projection) : Finset String := p.producedArtifactIds.toFinset

/-- `declared_covered`. -/
def declaredCovered (sealedWorld : SealedWorld) (produced detected : Finset String) : Bool :=
  sealedWorld.declaredConflicts.all fun c =>
    c.artifactIds.toFinset ⊆ produced ∧ c.factId ∈ detected

/-- The finding `BRN-004`. -/
def conflictFinding (k : Kernel) (s : KernelState) : AuditFinding :=
  let produced := s.projection.produced
  let detected := detectConflicts k.bundle.matter.evidenceInventory produced
  auditCheck "BRN-004" "Independent evidence conflict detection"
    (detected ≠ ∅ ∧ declaredCovered k.bundle.sealed produced detected) (sorted detected)
    ("Berean derived incompatible claims from produced artifacts without relying on writer " ++
      "explanations.")

/-- The actions that the custody of a produced artifact has to list. -/
def requiredActions : List String := ["created", "collected", "hashed", "reviewed", "produced"]

/-- The body of the loop over the produced artifacts: the custody errors of one. -/
def custodyErrorsOf (inventory : List EvidenceArtifact) (p : Projection) (artifactId : String) :
    Except PyError (List String) :=
  let steps := p.log artifactId
  let days := steps.map (·.simulatedDay)
  let order :=
    if days ≠ days.insertionSort (· ≤ ·) then [artifactId ++ ":nonmonotonic"] else []
  let missing := (requiredActions.filter fun action => action ∉ steps.map (·.action)).map
    fun action => artifactId ++ ":missing_" ++ action
  match inventory.find? (·.artifactId = artifactId) with
  | none => .error (.other "StopIteration")
  | some artifact =>
    let hashes := (steps.map (·.objectHash)).toFinset
    .ok (order ++ missing ++
      if hashes ≠ {artifact.contentHash} then [artifactId ++ ":content_hash_mismatch"] else [])

/-- `custody_errors`. -/
def custodyErrors (inventory : List EvidenceArtifact) (p : Projection) :
    Except PyError (List String) := do
  return (← (sorted p.produced).mapM (custodyErrorsOf inventory p)).flatten

/-- The finding `BRN-005`. -/
def custodyFinding (k : Kernel) (s : KernelState) : Except PyError AuditFinding := do
  let produced := s.projection.produced
  let errors ← custodyErrors k.bundle.matter.evidenceInventory s.projection
  return auditCheck "BRN-005" "Evidence custody and production" (produced ≠ ∅ ∧ errors = [])
    (if errors ≠ [] then errors else sorted produced)
    "Every produced artifact has a monotonic, hash-stable custody trail."

/-! ## Testimony -/

/-- The finding `BRN-006`. -/
def depositionFinding (k : Kernel) (s : KernelState) : AuditFinding :=
  let deposition := s.projection.depositionRecord
  let used := (deposition.elim [] (·.knowledgeTokens)).toFinset
  auditCheck "BRN-006" "Witness-limited deposition"
    (deposition.isSome ∧ used ⊆ k.bundle.sealed.witnessFactFrontier.toFinset ∧
      ¬ deposition.elim true (·.oracleMaterialUsed))
    (sorted used)
    ("The modeled witness answers use only the witness projection and explicitly avoid the " ++
      "oracle.")

/-- The finding `BRN-007`. -/
def expertFinding (k : Kernel) (s : KernelState) : AuditFinding :=
  let expert := s.projection.expertOpinion
  let sources := (expert.elim [] (·.sourceArtifactIds)).toFinset
  auditCheck "BRN-007" "Independent expert source boundary"
    (expert.isSome ∧ sources ⊆ k.bundle.sealed.expertAuthorizedArtifacts.toFinset ∧
      sources ⊆ s.projection.produced ∧ ¬ expert.elim true (·.oracleMaterialUsed) ∧
      expert.elim false (·.independenceAttested))
    (sorted sources)
    ("The expert opinion is derived only from the authorized produced record and carries an " ++
      "independence attestation.")

/-- `voice_pairs`: the authors of the produced artifacts, with their signatures. -/
def voicePairs (inventory : List EvidenceArtifact) (produced : Finset String) :
    List (String × String) :=
  ((inventory.filter (·.artifactId ∈ produced)).map fun a => (a.authorId, a.voiceSignature)).dedup

/-- The order in which Python sorts pairs of strings. -/
def pairLE (x y : String × String) : Prop := x.1 < y.1 ∨ x.1 = y.1 ∧ x.2 ≤ y.2

instance decidableRelPairLE : DecidableRel pairLE := fun _ _ =>
  inferInstanceAs (Decidable (_ ∨ _))

/-- The finding `BRN-008`. -/
def voiceFinding (k : Kernel) (s : KernelState) : AuditFinding :=
  let pairs := voicePairs k.bundle.matter.evidenceInventory s.projection.produced
  let authors := (pairs.map (·.1)).toFinset
  let signatures := (pairs.map (·.2)).toFinset
  auditCheck "BRN-008" "Persona and voice separation"
    (3 ≤ authors.card ∧ signatures.card = authors.card)
    ((pairs.insertionSort pairLE).map fun pair => pair.1 ++ ":" ++ pair.2)
    ("Produced records retain distinct author-level voice signatures without using " ++
      "protected-class stereotypes.")

/-! ## Finance and closing -/

/-- The test of `BRN-009`; a comparison that an earlier one decides is not made. -/
def financeOk (finance : FinanceLedger Decimal) (errors : List String) : Except PyError Bool := do
  if errors ≠ [] then return false
  if ← Amount.lt Amount.zero finance.appealRecovery then
    Amount.eq finance.accountsReceivable Amount.zero
  else
    return false

/-- The finding `BRN-009`. -/
def financeFinding (s : KernelState) : Except PyError AuditFinding := do
  let finance := s.projection.finance
  let errors ← finance.invariantErrors
  let passed ← financeOk finance errors
  return auditCheck "BRN-009" "Billing, reduction appeal, AR, and cash reconciliation" passed
    (if errors ≠ [] then errors else
      ["approved:" ++ finance.approved.toText, "appeal_recovery:" ++ finance.appealRecovery.toText,
       "cash:" ++ finance.cash.toText])
    "The invoice reduction, appeal recovery, payment, and balances reconcile."

/-- The finding `BRN-010`. -/
def closeFinding (s : KernelState) : AuditFinding :=
  auditCheck "BRN-010" "Matter close conditions"
    (s.projection.closed ∧ requiredConditions ⊆ s.projection.closeConditions)
    (sorted (s.projection.closeConditions.image CloseCondition.value))
    ("Closure requires procedure, reporting, retention, conflict history, and finance " ++
      "conditions.")

/-- The finding `BRN-011`. -/
def outcomeFinding (s : KernelState) : AuditFinding :=
  let outcome := (s.projection.resolutionOutcome.map Outcome.value).getD ""
  auditCheck "BRN-011" "World outcome authority"
    (s.projection.outcomeSource = "world_kernel" ∧
      outcome ∈ ["defense_favorable", "claimant_favorable", "mixed_compromise"])
    [s.projection.outcomeSource, outcome]
    "The world kernel, not a firm arm or renderer, owns the synthetic outcome."

/-! ## The report -/

/-- The findings of an audit, in their order. -/
def auditFindings (k : Kernel) (s : KernelState) : Except PyError (List AuditFinding) := do
  let custody ← custodyFinding k s
  let finance ← financeFinding s
  return [oracleFinding s, gateFinding s, deadlineFinding k s, conflictFinding k s, custody,
    depositionFinding k s, expertFinding k s, voiceFinding k s, finance, closeFinding s,
    outcomeFinding s]

/-- `BereanAuditor.revision`. -/
def bereanRevision : String := "berean-g2-v2"

/-- `BereanAuditor.audit`. -/
def audit (k : Kernel) (s : KernelState) : Except PyError AuditReport := do
  let findings ← auditFindings k s
  let passed := findings.all (·.status = "pass")
  let conflictIds :=
    sorted (detectConflicts k.bundle.matter.evidenceInventory s.projection.produced)
  return {
    auditor := "Berean"
    revision := bereanRevision
    plane := "evaluation"
    passed := passed
    findings := findings
    detectedConflictIds := conflictIds
    reportHash := digest (.dict
      [("auditor", .str "Berean"), ("revision", .str bereanRevision),
       ("plane", .str "evaluation"), ("passed", .bool passed),
       ("findings", .list (findings.map AuditFinding.toJson)),
       ("detected_conflict_ids", .strs conflictIds)]) }

/-! ## Findings that pass -/

/-- A check has the status `pass` just where it passed. -/
theorem auditCheck_status (code title : String) (passed : Bool) (evidence : List String)
    (explanation : String) :
    (auditCheck code title passed evidence explanation).status = "pass" ↔ passed = true := by
  cases passed
  · exact iff_of_false (by simp [auditCheck]) (by simp)
  · exact iff_of_true rfl rfl

/-- A report passes if all its findings do. -/
theorem passed_iff {k : Kernel} {s : KernelState} :
    (audit k s).map (·.passed) = .ok true ↔
      ∃ custody finance, custodyFinding k s = .ok custody ∧ financeFinding s = .ok finance ∧
        ∀ f ∈ [oracleFinding s, gateFinding s, deadlineFinding k s, conflictFinding k s, custody,
          depositionFinding k s, expertFinding k s, voiceFinding k s, finance, closeFinding s,
          outcomeFinding s], f.status = "pass" := by
  unfold audit auditFindings
  cases custodyFinding k s with
  | error e => simp [Except.map, bind, Except.bind]
  | ok custody =>
    cases financeFinding s with
    | error e => simp [Except.map, bind, Except.bind]
    | ok finance => simp [Except.map, bind, Except.bind, pure, Except.pure]

end LawFirmDigitalTwin
