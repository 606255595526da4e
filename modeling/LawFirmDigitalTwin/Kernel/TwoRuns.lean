import LawFirmDigitalTwin.Kernel.Steps
import LawFirmDigitalTwin.Lib.Related
import LawFirmDigitalTwin.Lib.TwoRuns

/-!
# Two kernels over the same commands

What a kernel reads apart from its commands: the matter, two lists and the target posture of the
sealed world, the route, the run id and the arm. Two kernels that differ in the last two and in the
rest of the sealed world (`Paired`) go through the same states, up to the values that are made of
what they differ in (`Twins`): every branch keeps them twins, and so does every call.
-/

namespace LawFirmDigitalTwin

open Raising

/-- Two kernels with the same route, over the same matter and the same lists of the sealed world.
The target postures are the same, or both can be resolved. -/
structure Paired (k k' : Kernel) : Prop where
  matter : k'.bundle.matter = k.bundle.matter
  frontier : k'.bundle.sealed.witnessFactFrontier = k.bundle.sealed.witnessFactFrontier
  authorized : k'.bundle.sealed.expertAuthorizedArtifacts = k.bundle.sealed.expertAuthorizedArtifacts
  route : k'.route = k.route
  posture : k'.bundle.sealed.targetPosture = k.bundle.sealed.targetPosture ∨
    k.bundle.sealed.targetPosture ∈ targetPostures ∧ k'.bundle.sealed.targetPosture ∈ targetPostures

/-- The verbs that resolve a matter. -/
def Verb.Resolves (v : Verb) : Prop := ∃ route : Route, v = route.resolutionVerb

/-- The key of an event's payload whose value is made of what the kernels differ in. -/
def Varies (k k' : Kernel) (v : Verb) (key : String) : Prop :=
  v = .recordTime ∧ key = "entry_hash" ∧ k'.arm ≠ k.arm ∨
    v.Resolves ∧ key = "synthetic_outcome" ∧
      k'.bundle.sealed.targetPosture ≠ k.bundle.sealed.targetPosture

/-- Time entries that differ in their arm. -/
def EntryTwins (k k' : Kernel) (e e' : TimeEntry) : Prop :=
  e.arm = k.arm.value ∧ e' = { e with arm := k'.arm.value }

/-- Outcomes of the two postures. -/
def OutcomeTwins (k k' : Kernel) (o o' : Option Outcome) : Prop :=
  o'.isSome = o.isSome ∧
    (k'.bundle.sealed.targetPosture = k.bundle.sealed.targetPosture → o' = o)

/-- Projections that differ in the resolution outcome and the arms of the time entries. -/
inductive ProjectionTwins (k k' : Kernel) (p : Projection) : Projection → Prop
  | mk (o : Option Outcome) (es : List TimeEntry) (ho : OutcomeTwins k k' p.resolutionOutcome o)
      (hes : List.Forall₂ (EntryTwins k k') p.timeEntries es) :
      ProjectionTwins k k' p { p with resolutionOutcome := o, timeEntries := es }

/-- Events that differ in what the run id, the arm and the varying keys determine. -/
structure EventTwins (k k' : Kernel) (e e' : Event) : Prop where
  same : e' = { e with
    eventId := e'.eventId
    runId := e'.runId
    payload := e'.payload
    outputHash := e'.outputHash
    randomStreamKey := e'.randomStreamKey
    treatmentArm := e'.treatmentArm }
  run : k'.runId = k.runId →
    e'.runId = e.runId ∧ e'.eventId = e.eventId ∧ e'.randomStreamKey = e.randomStreamKey
  arm : k'.arm = k.arm → e'.treatmentArm = e.treatmentArm
  payload : ∀ key, e'.payload.get? key = e.payload.get? key ∨
    ∃ v : Verb, e.eventType = v.acceptedType ∧ Varies k k' v key
  outputHash : e'.payload = e.payload → e'.outputHash = e.outputHash

/-- States of the two kernels after the same commands. -/
structure Twins (k k' : Kernel) (s s' : KernelState) : Prop where
  clock : s'.clock = s.clock
  events : List.Forall₂ (EventTwins k k') s.events s'.events
  denials : s'.denials = s.denials
  projection : ProjectionTwins k k' s.projection s'.projection
  authority : s'.authority = s.authority
  knowledge : s'.knowledge = s.knowledge

/-- Values of the two runs under a key: the same, or two that can be written under a varying key. -/
def ValueTwins (k k' : Kernel) (v : Verb) (key : String) (x x' : Option Json) : Prop :=
  x' = x ∨ Varies k k' v key ∧
    ∃ j j', x = some j ∧ x' = some j' ∧ j.writable = true ∧ j'.writable = true

/-- What a branch sets in the payload, up to the values of the varying keys. -/
def UpdatesTwins (k k' : Kernel) (v : Verb) (u u' : Updates) : Prop :=
  List.Forall₂ (fun e e' => e'.1 = e.1 ∧ ValueTwins k k' v e.1 (some e.2) (some e'.2)) u u'

/-- An update is its own twin. -/
theorem UpdatesTwins.refl {k k' : Kernel} {v : Verb} (u : Updates) : UpdatesTwins k k' v u u :=
  List.forall₂_same.2 fun _ _ => ⟨rfl, .inl rfl⟩

/-- A valid posture has an outcome. -/
theorem outcomeOf_valid {posture : String} (h : posture ∈ targetPostures) :
    ∃ o, outcomeOf posture = .ok o := by
  unfold targetPostures at h
  simp only [List.mem_cons, List.not_mem_nil, or_false] at h
  rcases h with rfl | rfl | rfl
  · exact ⟨.defenseFavorable, rfl⟩
  · exact ⟨.claimantFavorable, rfl⟩
  · exact ⟨.mixedCompromise, rfl⟩

/-! ## What the kernels read -/

section
variable {k k' : Kernel} (h : Paired k k')

/-- Paired kernels start as twins. -/
theorem twins_initial (h : Paired k k') : Twins k k' k.initial k'.initial := by
  refine ⟨rfl, .nil, rfl, ?_, ?_, ?_⟩
  · unfold Kernel.initial
    rw [h.route]
    exact .mk none [] ⟨rfl, fun _ => rfl⟩ .nil
  · unfold Kernel.initial
    rw [h.matter]
  · unfold Kernel.initial
    rw [h.matter]

include h

/-- Paired kernels find the same artifact. -/
theorem Paired.artifact (id : String) : k'.artifact id = k.artifact id := by
  unfold Kernel.artifact
  rw [h.matter]

/-- Paired kernels select the same artifacts. -/
theorem Paired.selected (p : Projection) : k'.selected p = k.selected p := by
  unfold Kernel.selected
  rw [h.matter]

/-- Paired kernels produce the same artifacts. -/
theorem Paired.production (ids : List String) : k'.production ids = k.production ids := by
  induction ids with
  | nil => rfl
  | cons id rest ih =>
    unfold Kernel.production
    rw [h.artifact, ih]

/-- Paired kernels run the same loop of production. -/
theorem Paired.produceAll (c : Command) (ids : List String) :
    produceAll k' c ids = produceAll k c ids := by
  induction ids with
  | nil => rfl
  | cons id rest ih =>
    unfold LawFirmDigitalTwin.produceAll
    rw [h.artifact, ih]

/-- Paired kernels admit the same commands. -/
theorem Paired.admission {s s' : KernelState} (hs : Twins k k' s s') (c : Command) :
    k'.admit s' c = k.admit s c := by
  unfold Kernel.admit
  rw [h.matter, hs.authority, hs.knowledge]

end

/-! ## The primitives -/

section
variable {k k' : Kernel} {s s' : KernelState}

/-- Twins whose projections are exchanged for twins are twins. -/
theorem Twins.of_projection (h : Twins k k' s s') {p p' : Projection}
    (hp : ProjectionTwins k k' p p') :
    Twins k k' { s with projection := p } { s' with projection := p' } :=
  ⟨h.clock, h.events, h.denials, hp, h.authority, h.knowledge⟩

/-- Updates that keep projections twins. -/
theorem related_modifyProjection {f g : Projection → Projection}
    (h : ∀ p p', ProjectionTwins k k' p p' → ProjectionTwins k k' (f p) (g p')) :
    Related (Twins k k') Eq (modifyProjection f) (modifyProjection g) :=
  .modify fun _ _ hs => hs.of_projection (h _ _ hs.projection)

/-- What is read from twin states, apart from the outcome and the time entries. -/
theorem Twins.read {α : Type} (h : Twins k k' s s') (f : Projection → α)
    (hf : ∀ p o es, f { p with resolutionOutcome := o, timeEntries := es } = f p) :
    f s'.projection = f s.projection := by
  have hp := h.projection
  generalize s'.projection = p' at hp
  cases hp
  exact hf _ _ _

/-- Twins have as many time entries. -/
theorem Twins.length_timeEntries (h : Twins k k' s s') :
    s'.projection.timeEntries.length = s.projection.timeEntries.length := by
  have hp := h.projection
  generalize s'.projection = p' at hp
  cases hp with
  | mk o es ho hes => exact hes.length_eq.symm

/-- Of twins both have an outcome or neither. -/
theorem Twins.outcome_eq_none (h : Twins k k' s s') :
    s'.projection.resolutionOutcome = none ↔ s.projection.resolutionOutcome = none := by
  have hp := h.projection
  generalize s'.projection = p' at hp
  cases hp with
  | mk o es ho hes =>
    rw [← Option.isNone_iff_eq_none, ← Option.isNone_iff_eq_none, ← Option.not_isSome,
      ← Option.not_isSome, ho.1]

/-- An update of neither the outcome nor the time entries. -/
theorem ProjectionTwins.map {p p' : Projection} (h : ProjectionTwins k k' p p')
    (f : Projection → Projection)
    (hf : ∀ p o es, f { p with resolutionOutcome := o, timeEntries := es } =
      { f p with resolutionOutcome := o, timeEntries := es }) :
    ProjectionTwins k k' (f p) (f p') := by
  have hself := hf p p.resolutionOutcome p.timeEntries
  cases h with
  | mk o es ho hes =>
    rw [hf p o es]
    refine .mk o es ?_ ?_
    · rw [hself]; exact ho
    · rw [hself]; exact hes

/-- An update that neither reads nor writes outcome and time entries. -/
theorem related_update {f : Projection → Projection}
    (hf : ∀ p o es, f { p with resolutionOutcome := o, timeEntries := es } =
      { f p with resolutionOutcome := o, timeEntries := es }) :
    Related (Twins k k') Eq (modifyProjection f) (modifyProjection f) :=
  related_modifyProjection fun _ _ h => h.map f hf

/-- A method of the ledger runs alike on twins. -/
theorem related_withFinance {α : Type} (m : FinanceLedger.Method Decimal α) :
    Related (Twins k k') Eq (withFinance m) (withFinance m) := by
  refine .zoom (fun s s' h => (h.read (·.finance) fun _ _ _ => rfl).symm) (fun s s' finance h => ?_) m
  exact h.of_projection (h.projection.map (fun p => { p with finance := finance }) fun _ _ _ => rfl)

/-- Setting a status runs alike on twins. -/
theorem related_setEvidenceStatus (id : String) (status : EvidenceStatus) :
    Related (Twins k k') Eq (setEvidenceStatus id status) (setEvidenceStatus id status) :=
  related_update fun _ _ _ => rfl

/-- Extending a log runs alike on twins. -/
theorem related_extendLog (id : String) (steps : Except PyError (List CustodyStep)) :
    Related (Twins k k') Eq (extendLog id steps) (extendLog id steps) := by
  refine .assign fun s s' h => ?_
  have hlog : s'.projection.custodyLog = s.projection.custodyLog :=
    h.read (·.custodyLog) fun _ _ _ => rfl
  rw [hlog]
  cases s.projection.custodyLog.getItem id with
  | error e => exact .error e
  | ok log =>
    cases steps with
    | error e => exact .error e
    | ok steps =>
      refine .ok (h.of_projection ?_)
      exact h.projection.map
        (fun p => { p with custodyLog := s.projection.custodyLog.set id (log ++ steps) })
        fun _ _ _ => rfl

/-! ## The loops -/

/-- The loop of preservation runs alike on twins. -/
theorem related_preserveAll (artifacts : List EvidenceArtifact) :
    Related (Twins k k') Eq (preserveAll artifacts) (preserveAll artifacts) := by
  induction artifacts with
  | nil => exact .pure rfl
  | cons a rest ih =>
    refine (related_setEvidenceStatus _ _).bind_eq fun _ => ?_
    refine (Related.attempt_self _).bind_eq fun created => ?_
    exact (related_update fun _ _ _ => rfl).bind_eq fun _ => ih

/-- The loop of collection runs alike on twins. -/
theorem related_collectAll (artifacts : List EvidenceArtifact) :
    Related (Twins k k') Eq (collectAll artifacts) (collectAll artifacts) := by
  induction artifacts with
  | nil => exact .pure rfl
  | cons a rest ih =>
    refine .bind .get fun s s' hs => ?_
    have hstatus : s'.projection.evidenceStatus = s.projection.evidenceStatus :=
      hs.read (·.evidenceStatus) fun _ _ _ => rfl
    rw [hstatus]
    refine (Related.raiseIf _ _).bind_eq fun _ => ?_
    exact (related_setEvidenceStatus _ _).bind_eq fun _ =>
      (related_extendLog _ _).bind_eq fun _ => ih

/-- The loop of review runs alike on twins. -/
theorem related_reviewAll (c : Command) (artifacts : List EvidenceArtifact) (selected : List String)
    (claims : PyDict (Finset String)) :
    Related (Twins k k') Eq (reviewAll c artifacts selected claims)
      (reviewAll c artifacts selected claims) := by
  induction artifacts generalizing selected claims with
  | nil => exact .pure rfl
  | cons a rest ih =>
    refine .bind .get fun s s' hs => ?_
    have hstatus : s'.projection.evidenceStatus = s.projection.evidenceStatus :=
      hs.read (·.evidenceStatus) fun _ _ _ => rfl
    rw [hstatus]
    refine (Related.raiseIf _ _).bind_eq fun _ => ?_
    split
    · exact (related_setEvidenceStatus _ _).bind_eq fun _ =>
        (related_extendLog _ _).bind_eq fun _ => ih _ _
    · exact (related_setEvidenceStatus _ _).bind_eq fun _ => ih _ _

/-- The loop of production runs alike on twins. -/
theorem related_produceAll (c : Command) (ids : List String) :
    Related (Twins k k') Eq (produceAll k c ids) (produceAll k c ids) := by
  induction ids with
  | nil => exact .pure rfl
  | cons id rest ih =>
    refine (Related.attempt_self _).bind_eq fun a => ?_
    refine (related_setEvidenceStatus _ _).bind_eq fun _ => ?_
    exact (related_update fun _ _ _ => rfl).bind_eq fun _ =>
      (related_extendLog _ _).bind_eq fun _ => ih

end

/-! ## The branches -/

section
variable {k k' : Kernel} (h : Paired k k')

include h

/-- A resolution sets milestones and an outcome in both runs, or raises in both. -/
theorem related_resolve {v : Verb} (hv : v.Resolves) :
    Related (Twins k k') (UpdatesTwins k k' v) (resolve k v) (resolve k' v) := by
  unfold resolve
  rw [h.route]
  refine (Related.raiseIf _ _).bind_eq fun _ => ?_
  refine (related_update fun _ _ _ => rfl).bind_eq fun _ => ?_
  have houtcome : ExceptRel
      (fun o o' => k'.bundle.sealed.targetPosture = k.bundle.sealed.targetPosture → o' = o)
      (outcomeOf k.bundle.sealed.targetPosture) (outcomeOf k'.bundle.sealed.targetPosture) := by
    rcases h.posture with hsame | ⟨hvalid, hvalid'⟩
    · rw [hsame]
      cases outcomeOf k.bundle.sealed.targetPosture with
      | ok o => exact .ok fun _ => rfl
      | error e => exact .error e
    · obtain ⟨o, ho⟩ := outcomeOf_valid hvalid
      obtain ⟨o', ho'⟩ := outcomeOf_valid hvalid'
      rw [ho, ho']
      refine .ok fun hsame => ?_
      rw [hsame, ho] at ho'
      exact (Except.ok.inj ho').symm
  refine (Related.attempt houtcome).bind fun o o' ho => ?_
  refine (related_modifyProjection fun p p' hp => ?_).bind_eq fun _ => .pure ?_
  · obtain ⟨o₀, es, -, hes⟩ := hp
    exact .mk (some o') es ⟨rfl, fun hsame => by rw [ho hsame]⟩ hes
  · refine .cons ⟨rfl, .inl rfl⟩ (.cons ⟨rfl, ?_⟩ .nil)
    by_cases hsame : k'.bundle.sealed.targetPosture = k.bundle.sealed.targetPosture
    · left
      rw [ho hsame]
    · right
      exact ⟨.inr ⟨hv, rfl, hsame⟩, _, _, rfl, rfl, rfl, rfl⟩

omit h in
/-- The hash of a time entry covers its arm. -/
theorem related_recordTime (c : Command) :
    Related (Twins k k') (UpdatesTwins k k' .recordTime) (recordTime k c) (recordTime k' c) := by
  unfold recordTime
  refine (Related.attempt_self _).bind_eq fun amount => ?_
  refine (related_withFinance _).bind_eq fun _ => ?_
  refine (Related.attempt_self _).bind_eq fun taskCode => ?_
  refine (Related.attempt_self _).bind_eq fun narrative => ?_
  refine (related_modifyProjection fun p p' hp => ?_).bind_eq fun _ => .pure ?_
  · obtain ⟨o, es, ho, hes⟩ := hp
    refine .mk o _ ho (List.rel_append hes (.cons ⟨rfl, rfl⟩ .nil))
  · refine .cons ⟨rfl, ?_⟩ .nil
    by_cases hsame : k'.arm = k.arm
    · left
      rw [hsame]
    · right
      exact ⟨.inl ⟨rfl, rfl, hsame⟩, _, _, rfl, rfl, rfl, rfl⟩

/-- The other branches return the same and do the same to twin states. -/
theorem related_branch_eq (c : Command) {v : Verb} (htime : v ≠ .recordTime) (hv : ¬ v.Resolves) :
    Related (Twins k k') Eq (branch k c v) (branch k' c v) := by
  cases v with
  | receiveReferral | submitConflictResult =>
    exact (related_update fun _ _ _ => rfl).bind_eq fun _ => .pure rfl
  | recordLawyerGate =>
    refine (Related.attempt_self _).bind_eq fun gate => .bind .get fun s s' hs => ?_
    rw [hs.read (·.authorityHolds) fun _ _ _ => rfl]
    refine (Related.raiseIf _ _).bind_eq fun _ => ?_
    exact (related_update fun _ _ _ => rfl).bind_eq fun _ => .pure rfl
  | openMatter =>
    refine .bind .get fun s s' hs => ?_
    rw [hs.read (·.authorityHolds) fun _ _ _ => rfl]
    refine (Related.raiseIf _ _).bind_eq fun _ => ?_
    exact (related_update fun _ _ _ => rfl).bind_eq fun _ => .pure rfl
  | calculateDeadlines =>
    unfold branch calculateDeadlines
    rw [h.matter]
    refine (Related.attempt_self _).bind_eq fun day => ?_
    exact (related_update fun _ _ _ => rfl).bind_eq fun _ => .pure rfl
  | verifyDeadlines =>
    unfold branch verifyDeadlines
    rw [h.matter]
    refine .bind .get fun s s' hs => ?_
    dsimp only
    rw [hs.read (·.deadlineProposal) fun _ _ _ => rfl, hs.read (·.deadlineAudit) fun _ _ _ => rfl]
    refine (Related.raiseIf _ _).bind_eq fun _ => (Related.attempt_self _).bind_eq fun day => ?_
    refine (Related.raiseIf _ _).bind_eq fun _ => (Related.raiseIf _ _).bind_eq fun _ => ?_
    exact (related_update fun _ _ _ => rfl).bind_eq fun _ => .pure rfl
  | issuePreservation =>
    unfold branch issuePreservation
    rw [h.matter]
    exact (related_preserveAll _).bind_eq fun _ => .pure rfl
  | collectEvidence =>
    unfold branch collectEvidence
    rw [h.matter]
    exact (related_collectAll _).bind_eq fun _ => .pure rfl
  | reviewEvidence =>
    unfold branch reviewEvidence
    rw [h.matter]
    refine (related_reviewAll c _ _ _).bind_eq fun r => ?_
    exact (related_update fun _ _ _ => rfl).bind_eq fun _ => .pure rfl
  | produceDiscovery =>
    unfold branch produceDiscovery
    refine .bind .get fun s s' hs => ?_
    dsimp only
    rw [h.selected, hs.read k.selected fun _ _ _ => rfl, h.produceAll, h.production]
    refine (Related.raiseIf _ _).bind_eq fun _ => (related_produceAll c _).bind_eq fun _ => ?_
    exact (Related.attempt_self _).bind_eq fun _ => .pure rfl
  | takeDeposition =>
    unfold branch takeDeposition
    rw [h.matter, h.frontier]
    refine (Related.attempt_self _).bind_eq fun witness => ?_
    exact (related_update fun _ _ _ => rfl).bind_eq fun _ => .pure rfl
  | retainExpert =>
    unfold branch retainExpert
    rw [h.authorized]
    refine .bind .get fun s s' hs => ?_
    rw [hs.read (·.producedArtifactIds) fun _ _ _ => rfl]
    exact (related_update fun _ _ _ => rfl).bind_eq fun _ => .pure rfl
  | settleCase => exact (hv ⟨.earlySettlement, rfl⟩).elim
  | mediateToImpasse => exact (hv ⟨.mediationImpasse, rfl⟩).elim
  | resolveDispositive => exact (hv ⟨.dispositive, rfl⟩).elim
  | tryAndAppeal => exact (hv ⟨.trialAppeal, rfl⟩).elim
  | recordTime => exact (htime rfl).elim
  | submitInvoice =>
    refine (related_withFinance _).bind_eq fun amount => .bind .get fun s s' hs => ?_
    rw [hs.length_timeEntries]
    exact .pure rfl
  | carrierAudit | appealReduction | applyPayment =>
    refine (Related.attempt_self _).bind_eq fun _ => (related_withFinance _).bind_eq fun _ => ?_
    refine .bind .get fun s s' hs => ?_
    rw [hs.read (·.finance) fun _ _ _ => rfl]
    exact .pure rfl
  | finalizeCloseout =>
    refine .bind .get fun s s' hs => ?_
    dsimp only
    rw [decide_eq_decide.2 hs.outcome_eq_none]
    refine (Related.raiseIf _ _).bind_eq fun _ => (related_update fun _ _ _ => rfl).bind_eq fun _ => ?_
    refine .bind .get fun s₁ s₁' hs₁ => ?_
    rw [hs₁.read (·.finance) fun _ _ _ => rfl]
    refine (Related.attempt_self _).bind_eq fun reconciled => ?_
    exact (related_update fun _ _ _ => rfl).bind_eq fun _ => .pure rfl
  | closeMatter =>
    refine .bind .get fun s s' hs => ?_
    dsimp only
    rw [hs.read (·.closeConditions) fun _ _ _ => rfl, hs.read (·.finance) fun _ _ _ => rfl]
    refine (Related.raiseIf _ _).bind_eq fun _ => (Related.raiseIf _ _).bind_eq fun _ => ?_
    exact (related_update fun _ _ _ => rfl).bind_eq fun _ => .pure rfl
  | readOracle => exact .throw _

/-- **Every branch keeps twin states twins**, and sets the same in the payload up to the varying
keys. -/
theorem related_branch (c : Command) (v : Verb) :
    Related (Twins k k') (UpdatesTwins k k' v) (branch k c v) (branch k' c v) := by
  by_cases htime : v = .recordTime
  · subst htime
    exact related_recordTime c
  · by_cases hv : v.Resolves
    · have hbranch (k : Kernel) : branch k c v = resolve k v := by
        obtain ⟨route, rfl⟩ := hv
        cases route <;> rfl
      rw [hbranch, hbranch]
      exact related_resolve h hv
    · refine (related_branch_eq h c htime hv).mono fun u u' heq => ?_
      rw [← heq]
      exact .refl u

end

/-! ## One call -/

section
variable {k k' : Kernel}

/-- Granting authority runs alike on twins. -/
theorem related_updateAuthority (id : String) (authority : List String) :
    Related (Twins k k') Eq (updateAuthority id authority) (updateAuthority id authority) := by
  refine .assign fun s s' h => ?_
  rw [h.authority]
  cases s.authority.getItem id with
  | error e => exact .error e
  | ok held =>
    exact .ok ⟨h.clock, h.events, h.denials, h.projection, rfl, h.knowledge⟩

/-- Granting knowledge runs alike on twins. -/
theorem related_updateKnowledge (id : String) (knowledge : List String) :
    Related (Twins k k') Eq (updateKnowledge id knowledge) (updateKnowledge id knowledge) := by
  refine .assign fun s s' h => ?_
  rw [h.knowledge]
  cases s.knowledge.getItem id with
  | error e => exact .error e
  | ok held =>
    exact .ok ⟨h.clock, h.events, h.denials, h.projection, h.authority, rfl⟩

/-- Grants run alike on twins. -/
theorem related_grantAll (gs : List Grant) :
    Related (Twins k k') Eq (grantAll gs) (grantAll gs) := by
  induction gs with
  | nil => exact .pure rfl
  | cons g rest ih =>
    exact (related_updateAuthority _ _).bind_eq fun _ =>
      (related_updateKnowledge _ _).bind_eq fun _ => ih

/-- A denial leaves twins. -/
theorem related_deny {α : Type} (c : Command) (reason : DenialReason) (missing : List String) :
    Related (Twins k k') (fun _ _ => True) (deny c reason missing : KernelM α)
      (deny c reason missing : KernelM α) := by
  have hrest : Related (Twins k k') (fun (_ _ : α) => True)
      (do
        modify fun s => { s with denials := s.denials ++ [denial c reason missing] }
        throw (.gateError reason.value missing) : KernelM α)
      (do
        modify fun s => { s with denials := s.denials ++ [denial c reason missing] }
        throw (.gateError reason.value missing) : KernelM α) := by
    refine (Related.modify fun s s' h => ?_).bind_eq fun _ => .throw _
    exact ⟨h.clock, h.events, by rw [h.denials], h.projection, h.authority, h.knowledge⟩
  unfold deny
  split
  · exact (related_update fun _ _ _ => rfl).bind_eq fun _ => hrest
  · exact hrest

/-- Twin updates give payloads that differ at varying keys only. -/
theorem UpdatesTwins.get? {v : Verb} {u u' : Updates} (h : UpdatesTwins k k' v u u')
    {d d' : PyDict Json} (hd : ∀ key, ValueTwins k k' v key (d.get? key) (d'.get? key))
    (key : String) :
    ValueTwins k k' v key ((u.foldl (fun d e => d.set e.1 e.2) d).get? key)
      ((u'.foldl (fun d e => d.set e.1 e.2) d').get? key) := by
  induction h generalizing d d' with
  | nil => exact hd key
  | cons he _ ih =>
    refine ih fun key => ?_
    obtain ⟨hkey, hvalue⟩ := he
    dsimp only
    rw [hkey, PyDict.get?_set, PyDict.get?_set]
    split
    · next heq =>
      subst heq
      exact hvalue
    · exact hd key

/-- Both payloads can be written, or neither can. -/
theorem writable_twins {v : Verb} {d d' : PyDict Json}
    (h : ∀ key, ValueTwins k k' v key (d.get? key) (d'.get? key)) :
    (d'.toJson id).writable = (d.toJson id).writable := by
  rw [Bool.eq_iff_iff, PyDict.writable_toJson, PyDict.writable_toJson]
  refine forall_congr' fun key => ?_
  rcases h key with hsame | ⟨-, j, j', hj, hj', hw, hw'⟩
  · rw [hsame]
  · rw [hj, hj']
    simp [hw, hw']

/-- The events of the two runs. -/
theorem eventTwins {s s' : KernelState} (hs : Twins k k' s s') {c : Command} {a : Admission}
    (hverb : a.verb.name = c.verb) {u u' : Updates} (hu : UpdatesTwins k k' a.verb u u') :
    ExceptRel (EventTwins k k') (k.event c a u s) (k'.event c a u' s') := by
  unfold Kernel.event
  rw [hs.knowledge, hs.clock, ← hs.events.length_eq]
  refine .bind_same _ fun knowledge => ?_
  refine .bind_same _ fun input => ?_
  refine .bind_same _ fun inputHash => ?_
  refine .bind_same _ fun canonical => ?_
  have hcanonical (key : String) : ValueTwins k k' a.verb key
      ((PyDict.ofEntries canonical).get? key) ((PyDict.ofEntries canonical).get? key) := .inl rfl
  have hvalues := hu.get? hcanonical
  have hwritable := writable_twins hvalues
  dsimp only
  unfold digestOf
  rw [hwritable]
  split
  · refine .ok ⟨rfl, fun hrun => ?_, fun harm => ?_, fun key => ?_, fun hpayload => ?_⟩
    · dsimp only
      rw [hrun]
      exact ⟨rfl, rfl, rfl⟩
    · dsimp only
      rw [harm]
    · rcases hvalues key with hsame | ⟨hvaries, -⟩
      · exact .inl hsame
      · exact .inr ⟨a.verb, by rw [Verb.acceptedType, hverb], hvaries⟩
    · dsimp only at hpayload ⊢
      rw [hpayload]
  · exact .error _

variable (h : Paired k k')

include h

/-- **A call keeps twin states twins**: it returns in both runs, or raises the same in both. -/
theorem related_submit (c : Command) :
    Related (Twins k k') (fun _ _ => True) (k.submit c) (k'.submit c) := by
  refine .bind .get fun s s' hs => ?_
  rw [h.admission hs]
  cases hadmitted : k.admit s c with
  | error r =>
    cases r with
    | denied reason missing => exact related_deny c reason missing
    | raised e => exact .throw e
  | ok a =>
    have hverb : a.verb.name = c.verb := Verb.name_of_ofName? (admit_ok hadmitted).verb
    refine (Related.modify fun s s' h => ?_).bind_eq fun _ => ?_
    · exact ⟨by rw [h.clock], h.events, h.denials, h.projection, h.authority, h.knowledge⟩
    have htransition : Related (Twins k k') (UpdatesTwins k k' a.verb) (transition k c a.verb)
        (transition k' c a.verb) := by
      refine (related_branch h c a.verb).bind fun u u' hu => ?_
      refine (Related.attempt_self _).bind_eq fun gs => ?_
      exact (related_grantAll gs).bind_eq fun _ => .pure hu
    refine htransition.bind fun u u' hu => .bind .get fun s₁ s₁' hs₁ => ?_
    refine (Related.attempt (eventTwins hs₁ hverb hu)).bind fun e e' he => ?_
    refine (Related.modify fun s s' h => ?_).bind_eq fun _ => .pure trivial
    exact ⟨h.clock, List.rel_append h.events (.cons he .nil), h.denials, h.projection, h.authority,
      h.knowledge⟩

/-- **Twin runs.** After the same commands the kernels are in twin states, having accepted and
rejected the same ones. -/
theorem twins_run (cs : List Command) :
    Twins k k' (k.run cs) (k'.run cs) ∧
      Machine.outputs k.step (fun s c => returned (k.submit c s)) k.initial cs =
        Machine.outputs k'.step (fun s c => returned (k'.submit c s)) k'.initial cs := by
  have hinitial := twins_initial h
  refine ⟨Machine.run_rel₂ (fun s s' c hs => ?_) hinitial cs,
    Machine.outputs_eq_of_rel (fun s s' c hs => ⟨?_, ?_⟩) hinitial cs⟩
  · exact (related_submit h c s s' hs).final
  · exact (related_submit h c s s' hs).returned
  · exact (related_submit h c s s' hs).final

end

end LawFirmDigitalTwin
