import LawFirmDigitalTwin.FinanceLedger
import LawFirmDigitalTwin.World

/-!
# The state of the world kernel

`G2Projection`, `VERB_POLICIES` and the attributes of `G2WorldKernel` in `g2.py`.
-/

namespace LawFirmDigitalTwin

open Raising

/-! ## Verbs -/

/-- The verbs of `VERB_POLICIES`. -/
inductive Verb
  | receiveReferral
  | submitConflictResult
  | recordLawyerGate
  | openMatter
  | calculateDeadlines
  | verifyDeadlines
  | issuePreservation
  | collectEvidence
  | reviewEvidence
  | produceDiscovery
  | takeDeposition
  | retainExpert
  | settleCase
  | mediateToImpasse
  | resolveDispositive
  | tryAndAppeal
  | recordTime
  | submitInvoice
  | carrierAudit
  | appealReduction
  | applyPayment
  | finalizeCloseout
  | closeMatter
  | readOracle
  deriving DecidableEq

namespace Verb

/-- The text of a verb. -/
def name : Verb → String
  | receiveReferral => "receive_referral"
  | submitConflictResult => "submit_conflict_result"
  | recordLawyerGate => "record_lawyer_gate"
  | openMatter => "open_matter"
  | calculateDeadlines => "calculate_deadlines"
  | verifyDeadlines => "verify_deadlines"
  | issuePreservation => "issue_preservation"
  | collectEvidence => "collect_evidence"
  | reviewEvidence => "review_evidence"
  | produceDiscovery => "produce_discovery"
  | takeDeposition => "take_deposition"
  | retainExpert => "retain_expert"
  | settleCase => "settle_case"
  | mediateToImpasse => "mediate_to_impasse"
  | resolveDispositive => "resolve_dispositive"
  | tryAndAppeal => "try_and_appeal"
  | recordTime => "record_time"
  | submitInvoice => "submit_invoice"
  | carrierAudit => "carrier_audit"
  | appealReduction => "appeal_reduction"
  | applyPayment => "apply_payment"
  | finalizeCloseout => "finalize_closeout"
  | closeMatter => "close_matter"
  | readOracle => "read_oracle"

/-- The keys of `VERB_POLICIES`. -/
def all : List Verb :=
  [receiveReferral, submitConflictResult, recordLawyerGate, openMatter, calculateDeadlines,
   verifyDeadlines, issuePreservation, collectEvidence, reviewEvidence, produceDiscovery,
   takeDeposition, retainExpert, settleCase, mediateToImpasse, resolveDispositive, tryAndAppeal,
   recordTime, submitInvoice, carrierAudit, appealReduction, applyPayment, finalizeCloseout,
   closeMatter, readOracle]

/-- The list has every verb. -/
theorem mem_all (v : Verb) : v ∈ all := by cases v <;> decide

/-- The verb with a given text. -/
def ofName? (text : String) : Option Verb := all.find? (·.name = text)

/-- Two verbs have two names. -/
theorem name_injective : Function.Injective name := by
  intro v w h
  have hall : ∀ v ∈ all, ∀ w ∈ all, v.name = w.name → v = w := by decide
  exact hall v (mem_all v) w (mem_all w) h

/-- A verb is found under its own name. -/
theorem name_of_ofName? {text : String} {v : Verb} (h : ofName? text = some v) : v.name = text := by
  have := List.find?_some h
  exact of_decide_eq_true this

/-- The event type of an accepted command, `f"{verb}_accepted"`. -/
def acceptedType (v : Verb) : String := v.name ++ "_accepted"

/-- Two verbs have two types of accepted events. -/
theorem acceptedType_injective : Function.Injective acceptedType := by
  intro v w h
  have hl : v.name.toList ++ "_accepted".toList = w.name.toList ++ "_accepted".toList := by
    rw [← String.toList_append, ← String.toList_append]
    exact congrArg String.toList h
  exact name_injective (String.toList_inj.1 (List.append_cancel_right hl))

end Verb

/-- `g2.py` `VerbPolicy`. -/
structure VerbPolicy where
  roles : List String
  authority : List String
  knowledge : List String

/-- `g2.py` `VERB_POLICIES`. -/
def verbPolicy : Verb → VerbPolicy
  | .receiveReferral => ⟨["intake"], ["receive_referral"], ["referral_summary"]⟩
  | .submitConflictResult => ⟨["conflicts"], ["conflict_search"], ["party_names"]⟩
  | .recordLawyerGate => ⟨["lawyer"], ["lawyer_conflict_determination"], ["conflict_result"]⟩
  | .openMatter => ⟨["lawyer"], ["matter_opening"], ["referral_summary"]⟩
  | .calculateDeadlines => ⟨["docketing"], ["deadline_proposal"], ["rule_pack"]⟩
  | .verifyDeadlines =>
    ⟨["deadline_reviewer"], ["deadline_verify"], ["rule_pack", "deadline_proposal"]⟩
  | .issuePreservation => ⟨["paralegal"], ["preservation"], ["evidence_inventory_metadata"]⟩
  | .collectEvidence => ⟨["paralegal"], ["collection"], ["preservation_issued"]⟩
  | .reviewEvidence => ⟨["lawyer"], ["legal_work"], ["collected_evidence"]⟩
  | .produceDiscovery => ⟨["paralegal"], ["production"], ["review_complete"]⟩
  | .takeDeposition => ⟨["lawyer"], ["legal_work"], ["produced_evidence"]⟩
  | .retainExpert => ⟨["lawyer"], ["retain_expert"], ["deposition_transcript"]⟩
  | .settleCase => ⟨["lawyer"], ["resolution"], ["expert_opinion"]⟩
  | .mediateToImpasse => ⟨["lawyer"], ["resolution"], ["expert_opinion"]⟩
  | .resolveDispositive => ⟨["lawyer"], ["resolution"], ["expert_opinion"]⟩
  | .tryAndAppeal => ⟨["lawyer"], ["resolution"], ["expert_opinion"]⟩
  | .recordTime => ⟨["lawyer", "paralegal"], ["record_time"], ["initial_record"]⟩
  | .submitInvoice => ⟨["billing"], ["billing"], ["guidelines"]⟩
  | .carrierAudit => ⟨["carrier"], ["carrier_audit"], ["guidelines"]⟩
  | .appealReduction => ⟨["billing"], ["billing"], ["guidelines"]⟩
  | .applyPayment => ⟨["billing"], ["billing"], ["guidelines"]⟩
  | .finalizeCloseout => ⟨["lawyer"], ["matter_close"], ["expert_opinion"]⟩
  | .closeMatter => ⟨["lawyer"], ["matter_close"], ["expert_opinion"]⟩
  | .readOracle => ⟨["lawyer"], ["legal_work"], ["initial_record"]⟩

/-! ## The projection -/

/-- The values of `matter_status`. -/
inductive MatterStatus
  | new
  | referralReceived
  | matterOpened
  | resolved (route : Route)
  | closed
  deriving DecidableEq

/-- The values of `evidence_status`. -/
inductive EvidenceStatus
  | preserved
  | collected
  | reviewed
  | withheldNonresponsive
  | produced
  deriving DecidableEq

/-- The values of `resolution_outcome`, other than the empty text. -/
inductive Outcome
  | defenseFavorable
  | claimantFavorable
  | mixedCompromise
  deriving DecidableEq

def Outcome.value : Outcome → String
  | defenseFavorable => "defense_favorable"
  | claimantFavorable => "claimant_favorable"
  | mixedCompromise => "mixed_compromise"

/-- The members of `close_conditions`. -/
inductive CloseCondition
  | proceduralComplete
  | finalReportDelivered
  | retentionScheduled
  | conflictHistoryUpdated
  | financeReconciled
  deriving DecidableEq

def CloseCondition.value : CloseCondition → String
  | proceduralComplete => "procedural_complete"
  | finalReportDelivered => "final_report_delivered"
  | retentionScheduled => "retention_scheduled"
  | conflictHistoryUpdated => "conflict_history_updated"
  | financeReconciled => "finance_reconciled"

/-- The record of a deposition. -/
structure DepositionRecord where
  witnessId : String
  knowledgeTokens : List String
  answers : List String
  memoryProfile : MemoryProfile
  oracleMaterialUsed : Bool

def DepositionRecord.toJson (r : DepositionRecord) : Json :=
  .dict
    [("witness_id", .str r.witnessId), ("knowledge_tokens", .strs r.knowledgeTokens),
     ("answers", .strs r.answers),
     ("memory_profile", .dict
       [("encoding", .str r.memoryProfile.encoding),
        ("retrieval", .str r.memoryProfile.retrieval),
        ("confidence_calibration", .str r.memoryProfile.confidenceCalibration),
        ("stress_effect", .str r.memoryProfile.stressEffect)]),
     ("oracle_material_used", .bool r.oracleMaterialUsed)]

/-- The opinion of the expert. -/
structure ExpertOpinion where
  expertId : String
  sourceArtifactIds : List String
  method : String
  limitations : String
  opinion : String
  independenceAttested : Bool
  oracleMaterialUsed : Bool

def ExpertOpinion.toJson (o : ExpertOpinion) : Json :=
  .dict
    [("expert_id", .str o.expertId), ("source_artifact_ids", .strs o.sourceArtifactIds),
     ("method", .str o.method), ("limitations", .str o.limitations), ("opinion", .str o.opinion),
     ("independence_attested", .bool o.independenceAttested),
     ("oracle_material_used", .bool o.oracleMaterialUsed)]

/-- An entry of `time_entries`. -/
structure TimeEntry where
  timekeeperId : String
  taskCode : String
  narrative : String
  amount : String
  arm : String

def TimeEntry.toJson (e : TimeEntry) : Json :=
  .dict
    [("timekeeper_id", .str e.timekeeperId), ("task_code", .str e.taskCode),
     ("narrative", .str e.narrative), ("amount", .str e.amount), ("arm", .str e.arm)]

/-- `g2.py` `G2Projection`. An empty deposition record or expert opinion is `none`, and so is the
empty resolution outcome. -/
structure Projection where
  matterStatus : MatterStatus := .new
  deadlines : PyDict Int := ∅
  deadlineProposal : PyDict Int := ∅
  deadlineAudit : PyDict String := ∅
  deadlineVerifier : String := ""
  authorityHolds : Finset String := ∅
  oracleAccessAttempts : Nat := 0
  acceptedOracleReads : Nat := 0
  humanGateBypasses : Nat := 0
  evidenceStatus : PyDict EvidenceStatus := ∅
  custodyLog : PyDict (List CustodyStep) := ∅
  producedArtifactIds : List String := []
  artifactHashes : List String := []
  reviewConflictCandidates : List String := []
  depositionRecord : Option DepositionRecord := none
  expertOpinion : Option ExpertOpinion := none
  resolutionMilestones : List String := []
  resolutionOutcome : Option Outcome := none
  outcomeSource : String := ""
  timeEntries : List TimeEntry := []
  finance : FinanceLedger Decimal := .initial
  closeConditions : Finset CloseCondition := ∅
  closed : Bool := false
  route : Route

/-! ## The kernel -/

/-- The attributes of `G2WorldKernel` that no method changes. -/
structure Kernel where
  runId : String
  bundle : WorldBundle
  arm : Arm
  route : Route

/-- Why `submit` denies a command. -/
inductive DenialReason
  | matterBoundary
  | unknownActor
  | unsupportedVerb
  | roleMismatch
  | verbRoleForbidden
  | oracleBoundary
  | missingAuthority
  | missingKnowledge
  deriving DecidableEq

def DenialReason.value : DenialReason → String
  | matterBoundary => "matter_boundary"
  | unknownActor => "unknown_actor"
  | unsupportedVerb => "unsupported_verb"
  | roleMismatch => "role_mismatch"
  | verbRoleForbidden => "verb_role_forbidden"
  | oracleBoundary => "oracle_boundary"
  | missingAuthority => "missing_authority"
  | missingKnowledge => "missing_knowledge"

/-- An entry of `denials`. -/
structure Denial where
  commandId : String
  verb : String
  actorId : String
  reason : DenialReason
  missing : List String
  denialHash : String

/-- The attributes of `G2WorldKernel` that `submit` changes. -/
structure KernelState where
  clock : Nat
  events : List Event
  denials : List Denial
  projection : Projection
  authority : PyDict (Finset String)
  knowledge : PyDict (Finset String)

/-- `G2WorldKernel.__init__`. -/
def Kernel.initial (k : Kernel) : KernelState where
  clock := 0
  events := []
  denials := []
  projection := { route := k.route }
  authority := k.bundle.matter.actors.mapValues (·.initialAuthority.toFinset)
  knowledge := k.bundle.matter.actors.mapValues (·.initialKnowledge.toFinset)

/-- A method of the kernel. -/
abbrev KernelM := EStateM PyError KernelState

end LawFirmDigitalTwin
