import LawFirmDigitalTwin.CanonicalForm
import LawFirmDigitalTwin.Kernel.Neutrality
import LawFirmDigitalTwin.Kernel.Script

/-!
# The walking skeleton

`_build_serialized_cassette` and `run_walking_skeleton` of `g2.py`: a cassette is built for a seed,
an arm and a route, executed, audited, executed again from its text, and audited again. What
`json.loads` reads back of the text is the canonical form of the cassette (`loads_canonicalJson`).
-/

namespace LawFirmDigitalTwin

open Raising

/-- The cassette of `_build_serialized_cassette`, with the entries of its attempts. -/
def cassetteOf (bundle : WorldBundle) (seed : String) (arm : Arm) (route : Route)
    (entries : List Json) : Json :=
  .dict
    [("revision", .str "g2_attempt_cassette_v2"), ("seed", .str seed), ("arm", .str arm.value),
     ("route", .str route.value), ("rule_pack_hash", .str (digest bundle.matter.rulePack.toJson)),
     ("artifact_commitments", .list (bundle.matter.evidenceInventory.map commitment)),
     ("attempts", .list entries)]

/-- What `_build_serialized_cassette` writes as canonical JSON. -/
def buildCassette (seed : String) (arm : Arm) (route : Route) : Except PyError Json := do
  let bundle := buildEmploymentWorld seed placeholderDataFirstRulePack
  let attempts ← cassetteAttempts bundle arm route
  return cassetteOf bundle seed arm route (← attempts.mapM Attempt.toJson)

/-- What `run_walking_skeleton` returns. Of the operating view of the matter, only the label of its
jurisdiction is kept. -/
structure SkeletonRun where
  seed : String
  arm : String
  route : String
  jurisdictionLabel : String
  eventCount : Nat
  eventHash : String
  denialHash : String
  projectionHash : String
  cassetteHash : String
  commandCassetteHash : String
  replayVerified : Bool
  closed : Bool
  deadlines : PyDict Int
  financeErrors : List String
  finance : FinanceLedger Decimal
  oracleBlocked : Bool
  blockedHumanGateAttempts : Nat
  humanGateBypasses : Nat
  producedEvidence : List EvidenceArtifact
  evidenceStatus : PyDict EvidenceStatus
  deposition : Option DepositionRecord
  expertOpinion : Option ExpertOpinion
  resolutionMilestones : List String
  resolutionOutcome : String
  closeConditions : List String
  bereanAudit : AuditReport
  /-- `treatment_metrics` -/
  workValue : String
  acceptedEventCount : Nat
  deniedBoundaryProbeCount : Nat
  producedArtifactCount : Nat
  auditPassed : Bool

/-- `digest(commands)`. -/
def commandsHash (commands : List Command) : Except PyError String := do
  return digest (.list (← commands.mapM Command.toJson))

/-- The dictionary of a run, from the kernel and the state of the first execution. -/
def SkeletonRun.of (seed : String) (arm : Arm) (route : Route) (k : Kernel) (s : KernelState)
    (report : AuditReport) (cassetteHash commandCassetteHash : String) (replayVerified : Bool)
    (financeErrors : List String) : SkeletonRun :=
  let p := s.projection
  let produced := k.bundle.matter.evidenceInventory.filter (·.artifactId ∈ p.producedArtifactIds)
  { seed := seed
    arm := arm.value
    route := route.value
    jurisdictionLabel := k.bundle.matter.rulePack.jurisdictionLabel
    eventCount := s.events.length
    eventHash := s.canonicalEventHash
    denialHash := s.denialHash
    projectionHash := s.projectionHash
    cassetteHash := cassetteHash
    commandCassetteHash := commandCassetteHash
    replayVerified := replayVerified
    closed := p.closed
    deadlines := p.deadlines
    financeErrors := financeErrors
    finance := p.finance
    oracleBlocked := 1 ≤ p.oracleAccessAttempts ∧ p.acceptedOracleReads = 0
    blockedHumanGateAttempts := (conflictDenials s.denials).length
    humanGateBypasses := p.humanGateBypasses
    producedEvidence := produced
    evidenceStatus := p.evidenceStatus
    deposition := p.depositionRecord
    expertOpinion := p.expertOpinion
    resolutionMilestones := p.resolutionMilestones
    resolutionOutcome := (p.resolutionOutcome.map Outcome.value).getD ""
    closeConditions := sorted (p.closeConditions.image CloseCondition.value)
    bereanAudit := report
    workValue := p.finance.work.toText
    acceptedEventCount := s.events.length
    deniedBoundaryProbeCount := s.denials.length
    producedArtifactCount := produced.length
    auditPassed := report.passed }

/-- `g2.py` `run_walking_skeleton`. -/
def runWalkingSkeleton (observe : Json → PyObject) (seed : String) (arm : Arm) (route : Route) :
    Except PyError SkeletonRun := do
  let cassette ← buildCassette seed arm route
  let loaded := cassette.canonicalize
  let (k, s, commands) ← executeSerializedCassette observe loaded "primary"
  let report ← audit k s
  let reloaded := loaded.canonicalize
  let (replay, s', replayCommands) ← executeSerializedCassette observe reloaded "replay"
  let replayReport ← audit replay s'
  let commandCassetteHash ← commandsHash commands
  let replayVerified :=
    canonicalJson cassette = canonicalJson loaded ∧ s.canonicalEventHash = s'.canonicalEventHash ∧
      s.projectionHash = s'.projectionHash ∧ s.denialHash = s'.denialHash ∧
      commandCassetteHash = (← commandsHash replayCommands) ∧
      report.reportHash = replayReport.reportHash
  let financeErrors ← s.projection.finance.invariantErrors
  return .of seed arm route k s report (digest loaded) commandCassetteHash replayVerified
    financeErrors

/-! ## Executing the cassette -/

/-- The entries of attempts, and what an execution reads of them. -/
theorem mapM_recorded (observe : Json → PyObject) {as : List Attempt}
    (h : ∀ a ∈ as, a.command.Plain) :
    ∃ entries, as.mapM Attempt.toJson = .ok entries ∧
      List.Forall₂ (Attempt.Recorded observe) as (entries.map Json.canonicalize) := by
  induction as with
  | nil => exact ⟨[], rfl, .nil⟩
  | cons a as ih =>
    obtain ⟨entry, hentry, hrecorded⟩ := Attempt.recorded observe (h a (.head _))
    obtain ⟨entries, hentries, hall⟩ := ih fun a ha => h a (.tail _ ha)
    refine ⟨entry :: entries, ?_, .cons hrecorded hall⟩
    rw [List.mapM_cons, hentry, hentries]
    rfl

/-- The commitment to an artifact is canonical. -/
theorem canonicalize_commitment (a : EvidenceArtifact) :
    (commitment a).canonicalize = commitment a := by
  have hsorted : ["artifact_id", "content_hash", "voice_signature"].Pairwise (· ≤ ·) := by decide
  unfold commitment
  rw [Json.canonicalize, List.Pairwise.insertionSort_eq]
  · rfl
  · exact List.pairwise_map.1 hsorted

/-- The commitments to artifacts are canonical. -/
theorem canonicalize_commitments (artifacts : List EvidenceArtifact) :
    (Json.list (artifacts.map commitment)).canonicalize = .list (artifacts.map commitment) := by
  rw [Json.canonicalize, Json.canonicalizeItems_eq_map, List.map_map]
  exact congrArg Json.list (List.map_congr_left fun a _ => canonicalize_commitment a)

/-- What a built cassette holds, once it is loaded. -/
structure Loaded (bundle : WorldBundle) (seed : String) (arm : Arm) (route : Route)
    (entries : List Json) (loaded : Json) : Prop where
  seed : loaded.item "seed" = .ok (.str seed)
  arm : loaded.item "arm" = .ok (.str arm.value)
  route : loaded.item "route" = .ok (.str route.value)
  rulePack : loaded.item "rule_pack_hash" = .ok (.str (digest bundle.matter.rulePack.toJson))
  artifacts : loaded.item "artifact_commitments" =
    .ok (.list (bundle.matter.evidenceInventory.map commitment))
  attempts : loaded.item "attempts" = .ok (.list (entries.map Json.canonicalize))

/-- The cassette of a bundle is loaded with the parts it was made of. -/
theorem loaded_cassetteOf (bundle : WorldBundle) (seed : String) (arm : Arm) (route : Route)
    (entries : List Json) :
    Loaded bundle seed arm route entries (cassetteOf bundle seed arm route entries).canonicalize := by
  have hitem := @Json.item_canonicalize
    [("revision", .str "g2_attempt_cassette_v2"), ("seed", .str seed), ("arm", .str arm.value),
     ("route", .str route.value), ("rule_pack_hash", .str (digest bundle.matter.rulePack.toJson)),
     ("artifact_commitments", .list (bundle.matter.evidenceInventory.map commitment)),
     ("attempts", .list entries)]
    (show ["revision", "seed", "arm", "route", "rule_pack_hash", "artifact_commitments",
      "attempts"].Nodup by decide)
  refine ⟨hitem (v := .str _) (by simp), hitem (v := .str _) (by simp),
    hitem (v := .str _) (by simp), hitem (v := .str _) (by simp), ?_, ?_⟩
  · rw [← canonicalize_commitments]
    exact hitem (by simp)
  · rw [← Json.canonicalizeItems_eq_map, ← Json.canonicalize]
    exact hitem (by simp)

/-- **Executing a built cassette is running its script.** -/
theorem executeSerializedCassette_built (observe : Json → PyObject) {seed : String} {arm : Arm}
    {route : Route} {runSuffix : String} {as : List Attempt} {entries : List Json} {loaded : Json}
    (hloaded : Loaded (buildEmploymentWorld seed placeholderDataFirstRulePack) seed arm route entries
      loaded)
    (hrecorded : List.Forall₂ (Attempt.Recorded observe) as (entries.map Json.canonicalize))
    (h : Followed (skeletonKernel seed arm route runSuffix) as) :
    executeSerializedCassette observe loaded runSuffix =
      .ok (skeletonKernel seed arm route runSuffix,
        (skeletonKernel seed arm route runSuffix).run (as.map (·.command)), as.map (·.command)) := by
  have hkernel : cassetteKernel observe loaded runSuffix =
      .ok (skeletonKernel seed arm route runSuffix) :=
    cassetteKernel_ok runSuffix hloaded.seed hloaded.arm hloaded.route
      (checkCommitments_ok (Json.getD_of_item hloaded.rulePack)
        (Json.getD_of_item hloaded.artifacts))
  unfold executeSerializedCassette
  rw [hkernel, ok_bind, hloaded.attempts, ok_bind, Json.iter, ok_bind,
    executeAttempts_recorded hrecorded h.expected, ok_bind]
  rfl

/-! ## The replay -/

section
variable {k k' : Kernel} {s s' : KernelState}

/-- The event of a run of another name, for the same arm and posture. -/
theorem Twins.same (hbundle : k'.bundle = k.bundle) (harm : k'.arm = k.arm) (h : Twins k k' s s') :
    s'.canonicalEventHash = s.canonicalEventHash ∧ s'.projection = s.projection := by
  constructor
  · have hneutral : s'.events.map Event.neutral = s.events.map Event.neutral := by
      have hevents := h.events
      generalize s.events = es at hevents
      generalize s'.events = es' at hevents
      induction hevents with
      | nil => rfl
      | cons he _ ih => rw [List.map_cons, List.map_cons, he.neutral hbundle harm, ih]
    unfold KernelState.canonicalEventHash
    rw [hneutral]
  · have hp := h.projection
    generalize s'.projection = p' at hp
    cases hp with
    | mk o es ho hes =>
      rw [ho.2 (by rw [hbundle]), entries_eq_of_arm harm hes]

/-- The check of the gate order sees the calls only. -/
theorem gateOrderOk_sameCall {es es' : List Event} (h : List.Forall₂ SameCall es es') :
    gateOrderOk es' = gateOrderOk es := by
  have hgates := acceptedEvents_sameCall h .recordLawyerGate
  have hopenings := acceptedEvents_sameCall h .openMatter
  unfold gateOrderOk
  generalize acceptedEvents es .recordLawyerGate = xs at hgates
  generalize acceptedEvents es' .recordLawyerGate = xs' at hgates
  generalize acceptedEvents es .openMatter = ys at hopenings
  generalize acceptedEvents es' .openMatter = ys' at hopenings
  cases hgates with
  | nil => rfl
  | cons hx _ =>
    cases hopenings with
    | nil => rfl
    | cons hy _ =>
      dsimp only
      rw [hx.simulatedAt, hy.simulatedAt]

/-- The same calls have the same command ids. -/
theorem commandIds_sameCall {es es' : List Event} (h : List.Forall₂ SameCall es es') :
    es'.map (·.commandId) = es.map (·.commandId) := by
  induction h with
  | nil => rfl
  | cons he _ ih => rw [List.map_cons, List.map_cons, he.commandId, ih]

/-- The audit reads the bundle, the projection, the denials, and of the events what they tell of
their calls. -/
theorem audit_sameCall (hbundle : k'.bundle = k.bundle) (hprojection : s'.projection = s.projection)
    (hdenials : s'.denials = s.denials) (hevents : List.Forall₂ SameCall s.events s'.events) :
    audit k' s' = audit k s := by
  have horacle : oracleFinding s' = oracleFinding s := by
    have hnone : acceptedEvents s'.events .readOracle = [] ↔
        acceptedEvents s.events .readOracle = [] := by
      have h := (acceptedEvents_sameCall hevents .readOracle).length_eq
      rw [← List.length_eq_zero_iff, ← List.length_eq_zero_iff, h]
    unfold oracleFinding
    rw [hdenials, decide_eq_decide.2 (and_congr_right fun _ => hnone)]
  have hgate : gateFinding s' = gateFinding s := by
    unfold gateFinding
    rw [hdenials, hprojection, gateOrderOk_sameCall hevents, List.map_append, List.map_append,
      commandIds_sameCall (acceptedEvents_sameCall hevents .recordLawyerGate),
      commandIds_sameCall (acceptedEvents_sameCall hevents .openMatter)]
  have hdeadline : deadlineFinding k' s' = deadlineFinding k s := by
    unfold deadlineFinding
    rw [hbundle, hprojection]
    dsimp only
    rw [independentDeadlineOk_sameCall hevents]
  unfold audit auditFindings conflictFinding custodyFinding depositionFinding expertFinding
    voiceFinding financeFinding closeFinding outcomeFinding
  rw [horacle, hgate, hdeadline, hbundle, hprojection]

end

/-! ## What a run of the skeleton returns -/

/-- What is known of the return value of `run_walking_skeleton`. -/
structure SkeletonRun.Verified (run : SkeletonRun) (arm : Arm) (route : Route) (outcome : Outcome) :
    Prop where
  route : run.route = route.value
  jurisdiction : run.jurisdictionLabel = placeholderDataFirstRulePack.jurisdictionLabel
  replayed : run.replayVerified = true
  closed : run.closed = true
  audited : run.bereanAudit.passed = true ∧ run.auditPassed = true
  reconciled : run.financeErrors = []
  isolated : run.oracleBlocked = true
  gated : run.blockedHumanGateAttempts = 1 ∧ run.humanGateBypasses = 0
  accepted : run.eventCount = 21
  probed : run.deniedBoundaryProbeCount = 2
  outcome : run.resolutionOutcome = outcome.value
  work : run.workValue = arm.work

section
variable {k : Kernel} {as : List Attempt}

/-- A script that preserves once is a run that preserves first. -/
theorem preservesFirst_of_followed (h : preservesOnce (as.map (·.command.verb)) = true) :
    Machine.AllSteps k.step (PreservesFirst k) k.initial (as.map (·.command)) := by
  have hverbs : as.map (·.command.verb) = (as.map (·.command)).map (·.verb) := by
    rw [List.map_map]
    rfl
  rw [hverbs] at h
  generalize as.map (·.command) = cs at h
  unfold preservesOnce at h
  simp only [Bool.and_eq_true, List.all_eq_true, decide_eq_true_eq] at h
  obtain ⟨⟨hlength, hpre⟩, hpost⟩ := h
  have hlt : 7 < cs.length := by simpa using hlength
  rw [← List.take_append_drop 7 cs, List.drop_eq_getElem_cons hlt]
  refine preservesFirst_of_once (fun c hc => ?_) (fun c hc => ?_)
  · exact hpre c.verb (by rw [← List.map_take]; exact List.mem_map_of_mem hc)
  · exact hpost c.verb (by rw [← List.map_drop]; exact List.mem_map_of_mem hc)

/-- The state the script leads to is vetted. -/
theorem Scripted.vetted {s : KernelState} (h : Scripted k s) : Vetted k s := by
  have hmem {reason : DenialReason} {missing : List String}
      (hm : (reason, missing) ∈ [(DenialReason.missingAuthority, ["matter_opening"]),
        (.oracleBoundary, ["sealed_world"])]) :
      ∃ d ∈ s.denials, d.reason = reason ∧ d.missing = missing := by
    rw [← h.denials] at hm
    obtain ⟨d, hd, heq⟩ := List.mem_map.1 hm
    exact ⟨d, hd, congrArg Prod.fst heq, congrArg Prod.snd heq⟩
  obtain ⟨d, hd, hreason, hmissing⟩ := hmem (.head _)
  obtain ⟨d', hd', hreason', -⟩ := hmem (.tail _ (.head _))
  exact ⟨h.closed, ⟨d', hd', hreason'⟩, ⟨d, hd, hreason, by rw [hmissing]; exact .head _⟩, h.holds,
    h.deadlines, h.errors, h.appealed, h.paid⟩

/-- One of the two denials is that of an opening. -/
theorem Scripted.gated {s : KernelState} (h : Scripted k s) :
    (conflictDenials s.denials).length = 1 := by
  have hcount : (conflictDenials s.denials).length =
      (s.denials.map fun d => (d.reason, d.missing)).countP
        fun p => p.1 = .missingAuthority ∧ "matter_opening" ∈ p.2 := by
    unfold conflictDenials
    rw [List.countP_map, List.countP_eq_length_filter]
    rfl
  rw [hcount, h.denials]
  decide

/-- The run that is made of a scripted state. -/
theorem Scripted.verified {s : KernelState} (h : Scripted k s)
    (hrulePack : k.bundle.matter.rulePack = placeholderDataFirstRulePack) (seed : String)
    (route : Route) (report : AuditReport) (hreport : report.passed = true)
    (cassetteHash commandCassetteHash : String) (hbypasses : s.projection.humanGateBypasses = 0)
    {outcome : Outcome} (houtcome : s.projection.resolutionOutcome = some outcome) :
    (SkeletonRun.of seed k.arm route k s report cassetteHash commandCassetteHash true []).Verified
      k.arm route outcome := by
  refine ⟨rfl, congrArg RulePack.jurisdictionLabel hrulePack, rfl, h.closed, ⟨hreport, hreport⟩, rfl,
    ?_, ⟨h.gated, hbypasses⟩, h.events, ?_, ?_, h.work⟩
  · exact decide_eq_true ⟨Nat.le_of_eq h.attempts.symm, h.reads⟩
  · have hcount := congrArg List.length h.denials
    rwa [List.length_map] at hcount
  · exact congrArg (fun o => (o.map Outcome.value).getD "") houtcome

/-- Plain commands can be hashed. -/
theorem commandsHash_ok {cs : List Command} (h : ∀ c ∈ cs, c.Plain) :
    ∃ hash, commandsHash cs = .ok hash := by
  have hall : ∃ js, cs.mapM Command.toJson = .ok js := by
    induction cs with
    | nil => exact ⟨[], rfl⟩
    | cons c cs ih =>
      obtain ⟨js, hjs⟩ := ih fun c hc => h c (.tail _ hc)
      obtain ⟨record, hrecord, -⟩ := commandFromRecord_canonicalize
        (fun _ => ⟨.ok "", .ok 0, .ok .null⟩) (h c (.head _))
      exact ⟨record :: js, by rw [List.mapM_cons, hrecord, hjs]; rfl⟩
  obtain ⟨js, hjs⟩ := hall
  exact ⟨_, by rw [commandsHash, hjs]; rfl⟩

end

/-- A run whose replay ends alike is verified. -/
theorem runWalkingSkeleton_replayed {observe : Json → PyObject} {seed : String} {arm : Arm}
    {route : Route} {cassette : Json} {k k' : Kernel} {s s' : KernelState} {cs : List Command}
    {report : AuditReport} {hash : String} (hbuild : buildCassette seed arm route = .ok cassette)
    (hprimary : executeSerializedCassette observe cassette.canonicalize "primary" = .ok (k, s, cs))
    (hreport : audit k s = .ok report)
    (hreplay : executeSerializedCassette observe cassette.canonicalize "replay" = .ok (k', s', cs))
    (hreport' : audit k' s' = .ok report) (hhash : commandsHash cs = .ok hash)
    (hevents : s'.canonicalEventHash = s.canonicalEventHash) (hprojection : s'.projection = s.projection)
    (hdenials : s'.denials = s.denials) (herrors : s.projection.finance.invariantErrors = .ok []) :
    runWalkingSkeleton observe seed arm route =
      .ok (.of seed arm route k s report (digest cassette.canonicalize) hash true []) := by
  have htext : canonicalJson cassette.canonicalize = canonicalJson cassette := by
    unfold canonicalJson
    rw [Json.canonicalize_canonicalize]
  have hprojection' : s'.projectionHash = s.projectionHash := by
    unfold KernelState.projectionHash
    rw [hprojection]
  have hdenials' : s'.denialHash = s.denialHash := by
    unfold KernelState.denialHash
    rw [hdenials]
  unfold runWalkingSkeleton
  rw [hbuild, ok_bind]
  dsimp only
  rw [hprimary, ok_bind]
  dsimp only
  rw [hreport, ok_bind, Json.canonicalize_canonicalize, hreplay, ok_bind]
  dsimp only
  rw [hreport', ok_bind, hhash, ok_bind, ok_bind, herrors, ok_bind, htext, hevents, hprojection',
    hdenials']
  simp

/-- **The walking skeleton, for every seed.** Whatever the seed, the arm and the route are, a run
returns: the replay is verified, the matter closed, the audit passed, and the outcome is that of the
posture which the seed selects. -/
theorem runWalkingSkeleton_returns (observe : Json → PyObject) (seed : String) (arm : Arm)
    (route : Route) :
    ∃ run outcome, runWalkingSkeleton observe seed arm route = .ok run ∧
      outcomeOf (targetOf seed).1 = .ok outcome ∧ run.Verified arm route outcome := by
  obtain ⟨as, has, hplain, hfollowed⟩ := cassetteAttempts_followed seed arm route
  obtain ⟨entries, hentries, hrecorded⟩ := mapM_recorded observe hplain
  have hbuild : buildCassette seed arm route = .ok (cassetteOf
      (buildEmploymentWorld seed placeholderDataFirstRulePack) seed arm route entries) := by
    unfold buildCassette
    dsimp only
    rw [has, ok_bind, hentries]
    rfl
  have hloaded := loaded_cassetteOf (buildEmploymentWorld seed placeholderDataFirstRulePack) seed arm
    route entries
  have hcommands : ∀ c ∈ as.map (·.command), c.Plain := List.forall_mem_map.2 hplain
  have hrun (runSuffix : String) :=
    executeSerializedCassette_built observe hloaded hrecorded (hfollowed runSuffix)
  have hpaired : Paired (skeletonKernel seed arm route "primary")
      (skeletonKernel seed arm route "replay") := ⟨rfl, rfl, rfl, rfl, .inl rfl⟩
  obtain ⟨htwins, -⟩ := twins_run hpaired (as.map (·.command))
  have hscripted := (hfollowed "primary").scripted
  have hk : (skeletonKernel seed arm route "primary").bundle.Employment := ⟨seed, _, rfl⟩
  have hwritable : Machine.AllSteps (skeletonKernel seed arm route "primary").step
      (AdmitsWritable (skeletonKernel seed arm route "primary"))
      (skeletonKernel seed arm route "primary").initial (as.map (·.command)) :=
    .of_forall_mem (List.forall_mem_map.2 fun a ha _ _ _ => (hfollowed "primary").writable a ha) _
  have hpassed := passed_of_vetted hk hwritable
    (preservesFirst_of_followed (hfollowed "primary").once) hscripted.vetted
  have hresolved := mark_outcome.run _ (stages_of_closed hk hwritable hscripted.closed
    (skeletonKernel seed arm route "primary").route.resolutionVerb (by simp [stages]))
  obtain ⟨hash, hhash⟩ := commandsHash_ok hcommands
  have hbundle : (skeletonKernel seed arm route "replay").bundle =
      (skeletonKernel seed arm route "primary").bundle := rfl
  have harm : (skeletonKernel seed arm route "replay").arm =
      (skeletonKernel seed arm route "primary").arm := rfl
  obtain ⟨hevents, hprojection⟩ := htwins.same hbundle harm
  have haudit := audit_sameCall hbundle hprojection htwins.denials htwins.replica.events
  obtain ⟨report, hreport, hreportPassed⟩ : ∃ report,
      audit (skeletonKernel seed arm route "primary")
        ((skeletonKernel seed arm route "primary").run (as.map (·.command))) = .ok report ∧
      report.passed = true := by
    cases hreport : audit (skeletonKernel seed arm route "primary")
        ((skeletonKernel seed arm route "primary").run (as.map (·.command))) with
    | error e => rw [hreport] at hpassed; cases hpassed
    | ok report =>
      rw [hreport] at hpassed
      exact ⟨report, rfl, Except.ok.inj hpassed⟩
  obtain ⟨⟨outcome, hposture, houtcome⟩, -⟩ := hresolved
  have hbypasses := humanGateBypasses_run (k := skeletonKernel seed arm route "primary")
    (as.map (·.command))
  rw [hreport] at haudit
  refine ⟨_, outcome, runWalkingSkeleton_replayed hbuild (hrun "primary") hreport (hrun "replay") haudit
    hhash hevents hprojection htwins.denials hscripted.errors, hposture, ?_⟩
  exact hscripted.verified rfl seed route report hreportPassed _ hash hbypasses houtcome

end LawFirmDigitalTwin
