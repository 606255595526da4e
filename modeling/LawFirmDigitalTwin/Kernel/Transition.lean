import LawFirmDigitalTwin.Kernel.State

/-!
# The transitions of the world kernel

`G2WorldKernel._transition`, one definition for each branch. A branch returns the keys it sets in
the event's payload. Every branch of the source makes its `_grant` calls last, so these are listed
apart, by verb (`grantsOf`), and `transition` makes them after the branch.
-/

namespace LawFirmDigitalTwin

open Raising

/-- The keys a branch sets in the event's payload. -/
abbrev Updates := List (String × Json)

/-- An update of `self.projection`. -/
def modifyProjection (f : Projection → Projection) : KernelM Unit :=
  modify fun s => { s with projection := f s.projection }

/-- A method of the finance ledger, run on the projection's. -/
def withFinance {α : Type} (m : FinanceLedger.Method Decimal α) : KernelM α :=
  zoom (·.projection.finance)
    (fun finance s => { s with projection := { s.projection with finance := finance } }) m

/-- `str(payload[key])`. -/
def Command.text (c : Command) (key : String) : Except PyError String := do
  (← c.payload.getItem key).toStr

/-- `Decimal(str(payload[key]))`. -/
def Command.amount (c : Command) (key : String) : Except PyError Decimal := do
  Decimal.ofText (← c.text key)

/-- `int(payload.get("complaint_filed_day", 0))`. -/
def Command.filedDay (c : Command) : Except PyError Int :=
  match c.payload.get? "complaint_filed_day" with
  | some v => v.toInt
  | none => .ok 0

/-! ## Intake and conflicts -/

/-- The branch of `receive_referral`. -/
def receiveReferral : KernelM Updates := do
  modifyProjection fun p => { p with matterStatus := .referralReceived }
  return []

/-- The branch of `submit_conflict_result`. -/
def submitConflictResult : KernelM Updates := do
  modifyProjection fun p =>
    { p with authorityHolds := insert "affected_client_consent" p.authorityHolds }
  return []

/-- The branch of `record_lawyer_gate`. -/
def recordLawyerGate (c : Command) : KernelM Updates := do
  let gate ← attempt (c.text "gate")
  let holds := (← get).projection.authorityHolds
  raiseIf (.ok (gate ∉ holds)) (.gateError "human gate not pending" [gate])
  modifyProjection fun p => { p with authorityHolds := p.authorityHolds.erase gate }
  return []

/-- The branch of `open_matter`. -/
def openMatter : KernelM Updates := do
  let holds := (← get).projection.authorityHolds
  raiseIf (.ok (holds ≠ ∅)) (.gateError "unresolved authority holds" (sorted holds))
  modifyProjection fun p => { p with matterStatus := .matterOpened }
  return []

/-! ## Deadlines -/

/-- The branch of `calculate_deadlines`. -/
def calculateDeadlines (k : Kernel) (c : Command) : KernelM Updates := do
  let filedDay ← attempt c.filedDay
  let proposal := calculateDeadlinesPrimary k.bundle.matter.rulePack filedDay
  modifyProjection fun p =>
    { p with
      deadlineProposal := proposal
      deadlineAudit := .ofEntries
        [("primary_actor", c.actorId), ("primary_calculator", primaryDeadlineCalculator)] }
  return [("proposal", proposal.toJson .int),
    ("calculator_revision", .str primaryDeadlineCalculator)]

/-- The branch of `verify_deadlines`. -/
def verifyDeadlines (k : Kernel) (c : Command) : KernelM Updates := do
  let p := (← get).projection
  raiseIf (.ok (p.deadlineProposal = ∅))
    (.gateError "deadline proposal must exist before verification" [])
  let filedDay ← attempt c.filedDay
  let independent := calculateDeadlinesSecondary k.bundle.matter.rulePack filedDay
  raiseIf (.ok (independent ≠ p.deadlineProposal))
    (.gateError "independent deadline calculation mismatch" [])
  raiseIf (.ok (p.deadlineAudit.get? "primary_actor" = some c.actorId))
    (.gateError "deadline verifier must be a different actor" [])
  modifyProjection fun p =>
    { p with
      deadlines := independent
      deadlineAudit :=
        (p.deadlineAudit.set "secondary_actor" c.actorId).set "secondary_calculator"
          secondaryDeadlineCalculator
      deadlineVerifier := c.actorId ++ ":" ++ secondaryDeadlineCalculator }
  return [("verified_deadlines", independent.toJson .int),
    ("calculator_revision", .str secondaryDeadlineCalculator)]

/-! ## Evidence -/

/-- `artifact.custody[0]`. -/
def EvidenceArtifact.firstStep (a : EvidenceArtifact) : Except PyError CustodyStep :=
  match a.custody with
  | [] => .error .indexError
  | step :: _ => .ok step

/-- `projection.evidence_status[artifact_id] = status`. -/
def setEvidenceStatus (artifactId : String) (status : EvidenceStatus) : KernelM Unit :=
  modifyProjection fun p => { p with evidenceStatus := p.evidenceStatus.set artifactId status }

/-- Steps appended to `projection.custody_log[artifact_id]`. -/
def extendLog (artifactId : String) (steps : Except PyError (List CustodyStep)) : KernelM Unit :=
  assign fun s => do
    let log ← s.projection.custodyLog.getItem artifactId
    let log := log ++ (← steps)
    return { s with projection :=
      { s.projection with custodyLog := s.projection.custodyLog.set artifactId log } }

/-- The step a review or a production adds to an artifact's custody log. -/
def EvidenceArtifact.handled (a : EvidenceArtifact) (action actorId : String) (day : Int) :
    Except PyError (List CustodyStep) := do
  return [⟨action, actorId, day, (← a.firstStep).objectHash⟩]

/-- The loop of `issue_preservation`. -/
def preserveAll : List EvidenceArtifact → KernelM Unit
  | [] => return ()
  | a :: rest => do
    setEvidenceStatus a.artifactId .preserved
    let created ← attempt a.firstStep
    modifyProjection fun p => { p with custodyLog := p.custodyLog.set a.artifactId [created] }
    preserveAll rest

/-- The branch of `issue_preservation`. -/
def issuePreservation (k : Kernel) : KernelM Updates := do
  preserveAll k.bundle.matter.evidenceInventory
  return []

/-- The loop of `collect_evidence`. -/
def collectAll : List EvidenceArtifact → KernelM Unit
  | [] => return ()
  | a :: rest => do
    let status := (← get).projection.evidenceStatus.get? a.artifactId
    raiseIf (.ok (status ≠ some .preserved)) (.gateError "artifact not preserved" [a.artifactId])
    setEvidenceStatus a.artifactId .collected
    extendLog a.artifactId (.ok (a.custody.drop 1))
    collectAll rest

/-- The branch of `collect_evidence`. -/
def collectEvidence (k : Kernel) : KernelM Updates := do
  collectAll k.bundle.matter.evidenceInventory
  return []

/-- `claims.setdefault(claim.fact_id, set()).add(claim.value)` for the claims of an artifact. -/
def addClaims (claims : PyDict (Finset String)) (new : List FactClaim) : PyDict (Finset String) :=
  new.foldl
    (fun claims c => claims.set c.factId (insert c.value ((claims.get? c.factId).getD ∅))) claims

/-- The loop of `review_evidence`, with its accumulators `selected` and `claims`. -/
def reviewAll (c : Command) : List EvidenceArtifact → List String → PyDict (Finset String) →
    KernelM (List String × PyDict (Finset String))
  | [], selected, claims => return (selected, claims)
  | a :: rest, selected, claims => do
    let status := (← get).projection.evidenceStatus.get? a.artifactId
    raiseIf (.ok (status ≠ some .collected)) (.gateError "artifact not collected" [a.artifactId])
    if a.responsive ∧ ¬ a.privileged then
      setEvidenceStatus a.artifactId .reviewed
      extendLog a.artifactId (a.handled "reviewed" c.actorId 51)
      reviewAll c rest (selected ++ [a.artifactId]) (addClaims claims a.claims)
    else
      setEvidenceStatus a.artifactId .withheldNonresponsive
      reviewAll c rest selected claims

/-- The facts with more than one claimed value, sorted. -/
def conflictCandidates (claims : PyDict (Finset String)) : List String :=
  (claims.entries.filter fun e => 1 < e.2.card).map (·.1)

/-- The branch of `review_evidence`. -/
def reviewEvidence (k : Kernel) (c : Command) : KernelM Updates := do
  let (selected, claims) ← reviewAll c k.bundle.matter.evidenceInventory [] ∅
  modifyProjection fun p => { p with reviewConflictCandidates := conflictCandidates claims }
  return [("selected_artifact_ids", .strs selected),
    ("conflict_candidates", .strs (conflictCandidates claims))]

/-- `G2WorldKernel._artifact`. -/
def Kernel.artifact (k : Kernel) (artifactId : String) : Except PyError EvidenceArtifact :=
  match k.bundle.matter.evidenceInventory.find? (·.artifactId = artifactId) with
  | some a => .ok a
  | none => .error (.gateError "unknown artifact" [artifactId])

/-- The loop of `produce_discovery`. -/
def produceAll (k : Kernel) (c : Command) : List String → KernelM Unit
  | [] => return ()
  | artifactId :: rest => do
    let a ← attempt (k.artifact artifactId)
    setEvidenceStatus artifactId .produced
    modifyProjection fun p =>
      { p with
        producedArtifactIds := p.producedArtifactIds ++ [artifactId]
        artifactHashes := p.artifactHashes ++ [a.contentHash] }
    extendLog artifactId (a.handled "produced" c.actorId 52)
    produceAll k c rest

/-- The artifacts a production selects. -/
def Kernel.selected (k : Kernel) (p : Projection) : List String :=
  (k.bundle.matter.evidenceInventory.map (·.artifactId)).filter fun artifactId =>
    p.evidenceStatus.get? artifactId = some .reviewed

/-- The pairs of an artifact and its content hash that `production_hash` covers. -/
def Kernel.production (k : Kernel) : List String → Except PyError (List Json)
  | [] => .ok []
  | artifactId :: rest => do
    return .strs [artifactId, (← k.artifact artifactId).contentHash] :: (← k.production rest)

/-- The branch of `produce_discovery`. -/
def produceDiscovery (k : Kernel) (c : Command) : KernelM Updates := do
  let selected := k.selected (← get).projection
  raiseIf (.ok (selected = [])) (.gateError "production cannot be empty" [])
  produceAll k c selected
  let production ← attempt (k.production selected)
  return [("produced_artifact_ids", .strs selected),
    ("production_hash", .str (digest (.list production)))]

/-! ## Testimony -/

/-- The branch of `take_deposition`. -/
def takeDeposition (k : Kernel) : KernelM Updates := do
  let witness ← attempt (k.bundle.matter.actors.getItem "hr_witness")
  let deposition : DepositionRecord :=
    { witnessId := witness.actorId
      knowledgeTokens := k.bundle.sealed.witnessFactFrontier
      answers :=
        ["I recall expecting another HR review before a final recommendation.",
         "The policy called for HR consultation, although operations could document an exception.",
         "I do not remember the exact hour and would need the emails for the sequence."]
      memoryProfile := witness.memory
      oracleMaterialUsed := false }
  modifyProjection fun p =>
    { p with
      depositionRecord := some deposition
      artifactHashes := p.artifactHashes ++ [digest deposition.toJson] }
  return []

/-- The branch of `retain_expert`. -/
def retainExpert (k : Kernel) : KernelM Updates := do
  let sources := (← get).projection.producedArtifactIds.filter
    (· ∈ k.bundle.sealed.expertAuthorizedArtifacts)
  let opinion : ExpertOpinion :=
    { expertId := "independent_expert"
      sourceArtifactIds := sources
      method := "compare documented process, chronology, and policy without deciding credibility"
      limitations :=
        "no opinion on legal liability, intent, or facts outside the produced record"
      opinion :=
        "The produced chronology contains a material process and timing inconsistency."
      independenceAttested := true
      oracleMaterialUsed := false }
  modifyProjection fun p =>
    { p with
      expertOpinion := some opinion
      artifactHashes := p.artifactHashes ++ [digest opinion.toJson] }
  return []

/-! ## Resolution -/

/-- The verb that resolves a matter on each route. -/
def Route.resolutionVerb : Route → Verb
  | .earlySettlement => .settleCase
  | .mediationImpasse => .mediateToImpasse
  | .dispositive => .resolveDispositive
  | .trialAppeal => .tryAndAppeal

/-- The milestones of each route's resolution. -/
def Route.milestones : Route → List String
  | .earlySettlement => ["demand_evaluated", "authority_obtained", "synthetic_release_executed"]
  | .mediationImpasse => ["mediation_statement", "session_completed", "impasse_recorded"]
  | .dispositive => ["motion_filed", "opposition_modeled", "order_entered"]
  | .trialAppeal =>
    ["pretrial_completed", "trial_modeled", "judgment_entered", "appeal_modeled"]

/-- The outcome a target posture leads to. -/
def outcomeOf (targetPosture : String) : Except PyError Outcome :=
  if targetPosture = "defense_favorable" then .ok .defenseFavorable
  else if targetPosture = "claimant_favorable" then .ok .claimantFavorable
  else if targetPosture = "balanced" then .ok .mixedCompromise
  else .error (.keyError targetPosture)

/-- The branch of the four resolution verbs. -/
def resolve (k : Kernel) (v : Verb) : KernelM Updates := do
  let expected := k.route.resolutionVerb
  raiseIf (.ok (v ≠ expected))
    (.gateError "route command mismatch" ["expected " ++ expected.name])
  modifyProjection fun p => { p with resolutionMilestones := k.route.milestones }
  let outcome ← attempt (outcomeOf k.bundle.sealed.targetPosture)
  modifyProjection fun p =>
    { p with
      resolutionOutcome := some outcome
      outcomeSource := "world_kernel"
      matterStatus := .resolved k.route }
  return [("milestones", .strs k.route.milestones), ("synthetic_outcome", .str outcome.value)]

/-! ## Finance -/

/-- The branch of `record_time`. -/
def recordTime (k : Kernel) (c : Command) : KernelM Updates := do
  let amount ← attempt (c.amount "amount")
  withFinance (FinanceLedger.record amount)
  let taskCode ← attempt (c.text "task_code")
  let narrative ← attempt (c.text "narrative")
  let entry : TimeEntry :=
    { timekeeperId := c.actorId
      taskCode := taskCode
      narrative := narrative
      amount := amount.toText
      arm := k.arm.value }
  modifyProjection fun p => { p with timeEntries := p.timeEntries ++ [entry] }
  return [("entry_hash", .str (digest entry.toJson))]

/-- The branch of `submit_invoice`. -/
def submitInvoice : KernelM Updates := do
  let amount ← withFinance FinanceLedger.submit
  let entries := (← get).projection.timeEntries.length
  return [("submitted_amount", .str amount.toText), ("time_entry_count", .int entries)]

/-- The branch of `carrier_audit`. -/
def carrierAudit (c : Command) : KernelM Updates := do
  let reduction ← attempt (c.amount "reduction")
  withFinance (FinanceLedger.audit reduction)
  let approved := (← get).projection.finance.approved
  return [("approved_amount", .str approved.toText)]

/-- The branch of `appeal_reduction`. -/
def appealReduction (c : Command) : KernelM Updates := do
  let recovered ← attempt (c.amount "recovered")
  withFinance (FinanceLedger.appeal recovered)
  let approved := (← get).projection.finance.approved
  return [("post_appeal_approved", .str approved.toText)]

/-- The branch of `apply_payment`. -/
def applyPayment (c : Command) : KernelM Updates := do
  let cash ← attempt (c.amount "cash")
  withFinance (FinanceLedger.applyPayment cash)
  let remaining := (← get).projection.finance.accountsReceivable
  return [("remaining_ar", .str remaining.toText)]

/-! ## Closing -/

/-- The conditions `finalize_closeout` always records. -/
def closeoutConditions : Finset CloseCondition :=
  {.proceduralComplete, .finalReportDelivered, .retentionScheduled, .conflictHistoryUpdated}

/-- The test of `finalize_closeout` for `finance_reconciled`. -/
def FinanceLedger.reconciled (finance : FinanceLedger Decimal) : Except PyError Bool := do
  if (← finance.invariantErrors) = [] then
    Amount.eq finance.accountsReceivable Amount.zero
  else
    return false

/-- The branch of `finalize_closeout`. -/
def finalizeCloseout : KernelM Updates := do
  let outcome := (← get).projection.resolutionOutcome
  raiseIf (.ok (outcome = none)) (.gateError "resolution must precede closeout" [])
  modifyProjection fun p => { p with closeConditions := p.closeConditions ∪ closeoutConditions }
  let reconciled ← attempt (← get).projection.finance.reconciled
  modifyProjection fun p =>
    { p with closeConditions :=
        if reconciled then insert .financeReconciled p.closeConditions else p.closeConditions }
  return []

/-- The conditions `close_matter` requires. -/
def requiredConditions : Finset CloseCondition := insert .financeReconciled closeoutConditions

/-- The branch of `close_matter`. -/
def closeMatter : KernelM Updates := do
  let p := (← get).projection
  let missing := requiredConditions \ p.closeConditions
  raiseIf (.ok (missing ≠ ∅))
    (.gateError "close conditions missing" (sorted (missing.image CloseCondition.value)))
  raiseIf (p.finance.invariantErrors.map (· ≠ []))
    (.gateError "finance invariants must reconcile before close" [])
  modifyProjection fun p => { p with closed := true, matterStatus := .closed }
  return []

/-! ## All branches -/

/-- The branch of each verb, up to its `_grant` calls. -/
def branch (k : Kernel) (c : Command) : Verb → KernelM Updates
  | .receiveReferral => receiveReferral
  | .submitConflictResult => submitConflictResult
  | .recordLawyerGate => recordLawyerGate c
  | .openMatter => openMatter
  | .calculateDeadlines => calculateDeadlines k c
  | .verifyDeadlines => verifyDeadlines k c
  | .issuePreservation => issuePreservation k
  | .collectEvidence => collectEvidence k
  | .reviewEvidence => reviewEvidence k c
  | .produceDiscovery => produceDiscovery k c
  | .takeDeposition => takeDeposition k
  | .retainExpert => retainExpert k
  | .settleCase => resolve k .settleCase
  | .mediateToImpasse => resolve k .mediateToImpasse
  | .resolveDispositive => resolve k .resolveDispositive
  | .tryAndAppeal => resolve k .tryAndAppeal
  | .recordTime => recordTime k c
  | .submitInvoice => submitInvoice
  | .carrierAudit => carrierAudit c
  | .appealReduction => appealReduction c
  | .applyPayment => applyPayment c
  | .finalizeCloseout => finalizeCloseout
  | .closeMatter => closeMatter
  | .readOracle => throw (.gateError "unsupported command" [Verb.readOracle.name])

/-- The arguments of a `_grant` call. -/
structure Grant where
  actorId : String
  authority : List String
  knowledge : List String

/-- The `_grant` calls at the end of each branch. Only `record_lawyer_gate` takes a token from the
payload, and reading it may raise. -/
def grantsOf (c : Command) : Verb → Except PyError (List Grant)
  | .receiveReferral => .ok
    [⟨"conflicts_analyst", ["conflict_search"], ["party_names"]⟩,
     ⟨"responsible_lawyer", [], ["referral_summary"]⟩]
  | .submitConflictResult => .ok
    [⟨"responsible_lawyer", ["lawyer_conflict_determination"],
      ["conflict_result", "party_names"]⟩]
  | .recordLawyerGate => do return [⟨"responsible_lawyer", [← c.text "grants"], []⟩]
  | .openMatter => .ok
    [⟨"responsible_lawyer",
      ["legal_work", "retain_expert", "resolution", "matter_close", "record_time"],
      ["coverage_posture", "guidelines", "initial_record"]⟩,
     ⟨"litigation_paralegal", ["preservation", "collection", "production", "record_time"],
      ["initial_record", "evidence_inventory_metadata"]⟩,
     ⟨"docketing_specialist", ["deadline_proposal"], ["initial_record", "rule_pack"]⟩,
     ⟨"deadline_reviewer", ["deadline_verify"], ["initial_record", "rule_pack"]⟩,
     ⟨"billing_specialist", ["billing"], ["guidelines", "initial_record"]⟩]
  | .calculateDeadlines => .ok [⟨"deadline_reviewer", [], ["deadline_proposal"]⟩]
  | .verifyDeadlines => .ok [⟨"responsible_lawyer", [], ["verified_deadlines"]⟩]
  | .issuePreservation => .ok [⟨"litigation_paralegal", [], ["preservation_issued"]⟩]
  | .collectEvidence => .ok
    [⟨"responsible_lawyer", [], ["collected_evidence"]⟩,
     ⟨"litigation_paralegal", [], ["collected_evidence"]⟩]
  | .reviewEvidence => .ok
    [⟨"litigation_paralegal", [], ["review_complete"]⟩,
     ⟨"responsible_lawyer", [], ["review_complete"]⟩]
  | .produceDiscovery => .ok [⟨"responsible_lawyer", [], ["produced_evidence"]⟩]
  | .takeDeposition => .ok [⟨"responsible_lawyer", [], ["deposition_transcript"]⟩]
  | .retainExpert => .ok [⟨"responsible_lawyer", [], ["expert_opinion"]⟩]
  | .settleCase | .mediateToImpasse | .resolveDispositive | .tryAndAppeal => .ok []
  | .recordTime | .submitInvoice | .carrierAudit | .appealReduction | .applyPayment => .ok []
  | .finalizeCloseout | .closeMatter | .readOracle => .ok []

/-- `self.authority[actor_id].update(authority)`. -/
def updateAuthority (actorId : String) (authority : List String) : KernelM Unit :=
  assign fun s => do
    let held ← s.authority.getItem actorId
    return { s with authority := s.authority.set actorId (held ∪ authority.toFinset) }

/-- `self.knowledge[actor_id].update(knowledge)`. -/
def updateKnowledge (actorId : String) (knowledge : List String) : KernelM Unit :=
  assign fun s => do
    let held ← s.knowledge.getItem actorId
    return { s with knowledge := s.knowledge.set actorId (held ∪ knowledge.toFinset) }

/-- `G2WorldKernel._grant`, for each of a list of calls. -/
def grantAll : List Grant → KernelM Unit
  | [] => return ()
  | g :: rest => do
    updateAuthority g.actorId g.authority
    updateKnowledge g.actorId g.knowledge
    grantAll rest

/-- `G2WorldKernel._transition`. -/
def transition (k : Kernel) (c : Command) (v : Verb) : KernelM Updates := do
  let updates ← branch k c v
  grantAll (← attempt (grantsOf c v))
  return updates

end LawFirmDigitalTwin
