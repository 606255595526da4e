import LawFirmDigitalTwin.Kernel.Noninterference

/-!
# Replay and arm neutrality

`canonical_event_hash`, `denial_hash` and `projection_hash` of `g2.py`, and what they do not see: a
run under another run id has the same three hashes, and a run of the other arm differs from it in
the arm of its time entries and in the hashes that cover it.
-/

namespace LawFirmDigitalTwin

/-! ## The hash views -/

def MatterStatus.value : MatterStatus → String
  | new => "new"
  | referralReceived => "referral_received"
  | matterOpened => "matter_opened"
  | resolved route => "resolved_" ++ route.value
  | closed => "closed"

def EvidenceStatus.value : EvidenceStatus → String
  | preserved => "preserved"
  | collected => "collected"
  | reviewed => "reviewed"
  | withheldNonresponsive => "withheld_nonresponsive"
  | produced => "produced"

def CustodyStep.toJson (step : CustodyStep) : Json :=
  .dict
    [("action", .str step.action), ("actor_id", .str step.actorId),
     ("simulated_day", .int step.simulatedDay), ("object_hash", .str step.objectHash)]

def FinanceLedger.toJson (finance : FinanceLedger Decimal) : Json :=
  .dict
    [("work", .str finance.work.toText), ("wip", .str finance.wip.toText),
     ("submitted", .str finance.submitted.toText), ("approved", .str finance.approved.toText),
     ("reduced", .str finance.reduced.toText),
     ("appeal_recovery", .str finance.appealRecovery.toText),
     ("accounts_receivable", .str finance.accountsReceivable.toText),
     ("cash", .str finance.cash.toText), ("write_off", .str finance.writeOff.toText)]

def Projection.toJson (p : Projection) : Json :=
  .dict
    [("matter_status", .str p.matterStatus.value), ("deadlines", p.deadlines.toJson .int),
     ("deadline_proposal", p.deadlineProposal.toJson .int),
     ("deadline_audit", p.deadlineAudit.toJson .str), ("deadline_verifier", .str p.deadlineVerifier),
     ("authority_holds", .strs (sorted p.authorityHolds)),
     ("oracle_access_attempts", .int p.oracleAccessAttempts),
     ("accepted_oracle_reads", .int p.acceptedOracleReads),
     ("human_gate_bypasses", .int p.humanGateBypasses),
     ("evidence_status", p.evidenceStatus.toJson (.str ·.value)),
     ("custody_log", p.custodyLog.toJson fun log => .list (log.map CustodyStep.toJson)),
     ("produced_artifact_ids", .strs p.producedArtifactIds),
     ("artifact_hashes", .strs p.artifactHashes),
     ("review_conflict_candidates", .strs p.reviewConflictCandidates),
     ("deposition_record", (p.depositionRecord.map DepositionRecord.toJson).getD (.dict [])),
     ("expert_opinion", (p.expertOpinion.map ExpertOpinion.toJson).getD (.dict [])),
     ("resolution_milestones", .strs p.resolutionMilestones),
     ("resolution_outcome", .str ((p.resolutionOutcome.map Outcome.value).getD "")),
     ("outcome_source", .str p.outcomeSource),
     ("time_entries", .list (p.timeEntries.map TimeEntry.toJson)),
     ("finance", p.finance.toJson),
     ("close_conditions", .strs (sorted (p.closeConditions.image CloseCondition.value))),
     ("closed", .bool p.closed), ("route", .str p.route.value)]

def Denial.toJson (d : Denial) : Json :=
  .dict
    [("command_id", .str d.commandId), ("verb", .str d.verb), ("actor_id", .str d.actorId),
     ("reason", .str d.reason.value), ("missing", .strs d.missing),
     ("denial_hash", .str d.denialHash)]

/-- `asdict(event)` without `run_id`, `event_id` and `random_stream_key`. -/
def Event.neutral (e : Event) : Json :=
  .dict
    [("matter_id", .str e.matterId), ("simulated_at", .int e.simulatedAt),
     ("event_type", .str e.eventType), ("command_id", .str e.commandId),
     ("actor_id", .str e.actorId), ("role_id", .str e.roleId),
     ("knowledge_scope", .str e.knowledgeScope), ("authority_basis", .str e.authorityBasis),
     ("payload", e.payload.toJson id), ("input_hash", .str e.inputHash),
     ("output_hash", .str e.outputHash), ("treatment_arm", .str e.treatmentArm)]

/-- `G2WorldKernel.canonical_event_hash`. -/
def KernelState.canonicalEventHash (s : KernelState) : String :=
  digest (.list (s.events.map Event.neutral))

/-- `G2WorldKernel.denial_hash`. -/
def KernelState.denialHash (s : KernelState) : String :=
  digest (.list (s.denials.map Denial.toJson))

/-- `G2WorldKernel.projection_hash`. -/
def KernelState.projectionHash (s : KernelState) : String :=
  digest s.projection.toJson

/-! ## Neutrality -/

/-- Events of two runs that differ in what the run id determines, in the arm, and for a time entry
in its hash and the hash that covers it. -/
structure ArmOnly (k k' : Kernel) (e e' : Event) : Prop where
  same : e' = { e with
    eventId := e'.eventId
    runId := e'.runId
    payload := e'.payload
    outputHash := e'.outputHash
    randomStreamKey := e'.randomStreamKey
    treatmentArm := e'.treatmentArm }
  run : k'.runId = k.runId →
    e'.runId = e.runId ∧ e'.eventId = e.eventId ∧ e'.randomStreamKey = e.randomStreamKey
  other : ¬ Accepted .recordTime e → e'.payload = e.payload ∧ e'.outputHash = e.outputHash
  payload : ∀ key, key ≠ "entry_hash" → e'.payload.get? key = e.payload.get? key

section
variable {k k' : Kernel} {e e' : Event}

/-- What varies where the bundle is the same. -/
theorem Varies.of_bundle {v : Verb} {key : String} (hbundle : k'.bundle = k.bundle)
    (h : Varies k k' v key) : v = .recordTime ∧ key = "entry_hash" ∧ k'.arm ≠ k.arm := by
  rcases h with h | ⟨-, -, hne⟩
  · exact h
  · exact (hne (by rw [hbundle])).elim

/-- Twin events over one bundle differ in the arm only. -/
theorem EventTwins.armOnly (hbundle : k'.bundle = k.bundle) (h : EventTwins k k' e e') :
    ArmOnly k k' e e' := by
  refine ⟨h.same, h.run, fun hother => ?_, fun key hne => ?_⟩
  · have hpayload : e'.payload = e.payload := by
      refine PyDict.ext fun key => ?_
      rcases h.payload key with heq | ⟨v, htype, hv⟩
      · exact heq
      · obtain ⟨rfl, -⟩ := hv.of_bundle hbundle
        exact (hother htype).elim
    exact ⟨hpayload, h.outputHash hpayload⟩
  · rcases h.payload key with heq | ⟨v, -, hv⟩
    · exact heq
    · exact (hne (hv.of_bundle hbundle).2.1).elim

/-- The neutral view of an event does not see the run id. -/
theorem EventTwins.neutral (hbundle : k'.bundle = k.bundle) (harm : k'.arm = k.arm)
    (h : EventTwins k k' e e') : e'.neutral = e.neutral := by
  have hpayload : e'.payload = e.payload := by
    refine PyDict.ext fun key => ?_
    rcases h.payload key with heq | ⟨v, -, hv⟩
    · exact heq
    · exact ((hv.of_bundle hbundle).2.2 harm).elim
  rw [h.same, Event.neutral, Event.neutral]
  dsimp only
  rw [hpayload, h.outputHash hpayload, h.arm harm]

end

/-- **Neutrality.** Over one bundle and route, kernels with any run ids and arms accept and reject
the same commands and end alike. Their projections differ at most in the arms of the time entries,
their events in what the run id and the arm determine; where only the run ids differ, the three
hashes are the same. -/
theorem replay_neutral (bundle : WorldBundle) (route : Route) (runId runId' : String) (arm arm' : Arm)
    (cs : List Command) :
    let k : Kernel := ⟨runId, bundle, arm, route⟩
    let k' : Kernel := ⟨runId', bundle, arm', route⟩
    Alike k k' cs ∧
      (k'.run cs).projection = { (k.run cs).projection with
        timeEntries := (k'.run cs).projection.timeEntries } ∧
      List.Forall₂ (EntryTwins k k') (k.run cs).projection.timeEntries
        (k'.run cs).projection.timeEntries ∧
      List.Forall₂ (ArmOnly k k') (k.run cs).events (k'.run cs).events ∧
      (arm' = arm → (k'.run cs).canonicalEventHash = (k.run cs).canonicalEventHash ∧
        (k'.run cs).projectionHash = (k.run cs).projectionHash ∧
        (k'.run cs).denialHash = (k.run cs).denialHash) := by
  intro k k'
  have hbundle : k'.bundle = k.bundle := rfl
  have hpaired : Paired k k' := ⟨rfl, rfl, rfl, rfl, .inl rfl⟩
  obtain ⟨htwins, -⟩ := twins_run hpaired cs
  have halike := hpaired.alike cs
  obtain ⟨hprojection, hentries⟩ : (k'.run cs).projection = { (k.run cs).projection with
        timeEntries := (k'.run cs).projection.timeEntries } ∧
      List.Forall₂ (EntryTwins k k') (k.run cs).projection.timeEntries
        (k'.run cs).projection.timeEntries := by
    have hp := htwins.projection
    generalize (k'.run cs).projection = p' at hp
    cases hp with
    | mk o es ho hes =>
      rw [ho.2 rfl]
      exact ⟨rfl, hes⟩
  refine ⟨halike, hprojection, hentries, htwins.events.imp fun _ _ he => he.armOnly hbundle, ?_⟩
  intro harm
  refine ⟨?_, ?_, ?_⟩
  · unfold KernelState.canonicalEventHash
    have hneutral : (k'.run cs).events.map Event.neutral = (k.run cs).events.map Event.neutral := by
      have hevents := htwins.events
      generalize (k.run cs).events = es at hevents
      generalize (k'.run cs).events = es' at hevents
      induction hevents with
      | nil => rfl
      | cons he _ ih => rw [List.map_cons, List.map_cons, he.neutral hbundle harm, ih]
    rw [hneutral]
  · unfold KernelState.projectionHash
    rw [hprojection, entries_eq_of_arm harm hentries]
  · unfold KernelState.denialHash
    rw [halike.denials]

/-- Two runs of one command under different run ids have events that differ in the run id. -/
theorem runs_differ_in_runId :
    ¬ ∀ (bundle : WorldBundle) (route : Route) (runId runId' : String) (arm arm' : Arm)
        (cs : List Command),
      List.Forall₂
        (fun e e' : Event => e' = { e with
          payload := e'.payload
          outputHash := e'.outputHash
          treatmentArm := e'.treatmentArm })
        ((⟨runId, bundle, arm, route⟩ : Kernel).run cs).events
        ((⟨runId', bundle, arm', route⟩ : Kernel).run cs).events := by
  intro h
  have hrun := h alphaKernel.bundle .earlySettlement "RUN-1" "RUN-2" .traditional .aiFirst
    (alphaWorkflow.take 1)
  have hids : ((⟨"RUN-1", alphaKernel.bundle, .traditional, .earlySettlement⟩ : Kernel).run
        (alphaWorkflow.take 1)).events.map (·.runId) = ["RUN-1"] ∧
      ((⟨"RUN-2", alphaKernel.bundle, .aiFirst, .earlySettlement⟩ : Kernel).run
        (alphaWorkflow.take 1)).events.map (·.runId) = ["RUN-2"] := by
    decide +kernel
  obtain ⟨hids, hids'⟩ := hids
  have hsame := (List.forall₂_map_left_iff.2 (List.forall₂_map_right_iff.2
    (hrun.imp fun e e' he => (congrArg Event.runId he : e'.runId = e.runId))) :
    List.Forall₂ (fun x y => y = x) (_ : List String) (_ : List String))
  rw [hids, hids'] at hsame
  cases hsame with
  | cons heq _ => exact absurd heq (by decide)

end LawFirmDigitalTwin
