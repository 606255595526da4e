import LawFirmDigitalTwin.Kernel.Workflow

/-!
# Dual control of deadlines

One actor proposes deadlines and another one verifies them. The evidence that two actors agreed is
in `deadline_audit` and `deadline_proposal`, which `calculate_deadlines` overwrites without looking
at the deadlines that are already recorded. It is kept in exactly the runs that calculate only while
no deadlines are recorded.
-/

namespace LawFirmDigitalTwin

open Raising

/-- Recorded deadlines are the proposal, which two different actors have calculated. -/
structure DualControl (p : Projection) : Prop where
  actors : p.deadlines ≠ ∅ → ∃ primary secondary,
    p.deadlineAudit.get? "primary_actor" = some primary ∧
      p.deadlineAudit.get? "secondary_actor" = some secondary ∧ primary ≠ secondary
  agreed : p.deadlines ≠ ∅ → p.deadlines = p.deadlineProposal

/-- A calculation that passes the checks of `submit`, with a filing day that can be read, finds no
recorded deadlines. -/
def CalculatesFirst (k : Kernel) (s : KernelState) (c : Command) : Prop :=
  ∀ a day, k.admit s c = .ok a → a.verb = .calculateDeadlines → c.filedDay = .ok day →
    s.projection.deadlines = ∅

/-! ## The two branches -/

section
variable {k : Kernel} {c : Command}

/-- The projection after a proposal. -/
def Projection.propose (k : Kernel) (c : Command) (day : Int) (p : Projection) : Projection :=
  { p with
    deadlineProposal := calculateDeadlinesPrimary k.bundle.matter.rulePack day
    deadlineAudit := .ofEntries
      [("primary_actor", c.actorId), ("primary_calculator", primaryDeadlineCalculator)] }

/-- The projection after a verification. -/
def Projection.verify (c : Command) (p : Projection) : Projection :=
  { p with
    deadlines := p.deadlineProposal
    deadlineAudit :=
      (p.deadlineAudit.set "secondary_actor" c.actorId).set "secondary_calculator"
        secondaryDeadlineCalculator
    deadlineVerifier := c.actorId ++ ":" ++ secondaryDeadlineCalculator }

/-- The branch of `calculate_deadlines` raises before it writes, or proposes. -/
theorem calculateDeadlines_cases (k : Kernel) (c : Command) (s : KernelState) :
    (∃ e, c.filedDay = .error e ∧ calculateDeadlines k c s = .error e s) ∨
      ∃ day u, c.filedDay = .ok day ∧ calculateDeadlines k c s =
        .ok u { s with projection := s.projection.propose k c day } := by
  unfold calculateDeadlines
  cases hd : c.filedDay with
  | error e => exact .inl ⟨e, rfl, rfl⟩
  | ok day => exact .inr ⟨day, _, rfl, rfl⟩

/-- A verification raises, or agrees with the proposal, by another actor. -/
theorem verifyDeadlines_cases (k : Kernel) (c : Command) (s : KernelState) :
    (∃ e, verifyDeadlines k c s = .error e s) ∨
      s.projection.deadlineProposal ≠ ∅ ∧
        s.projection.deadlineAudit.get? "primary_actor" ≠ some c.actorId ∧
        ∃ u, verifyDeadlines k c s = .ok u { s with projection := s.projection.verify c } := by
  unfold verifyDeadlines
  by_cases hp : s.projection.deadlineProposal = ∅
  · left
    simp [bind_run, hp]
  cases hd : c.filedDay with
  | error e =>
    left
    simp [bind_run, hp]
  | ok day =>
    by_cases hagree : calculateDeadlinesSecondary k.bundle.matter.rulePack day =
        s.projection.deadlineProposal
    · by_cases hsame : s.projection.deadlineAudit.get? "primary_actor" = some c.actorId
      · left
        simp [bind_run, hp, hagree, hsame]
      · right
        refine ⟨hp, hsame, ?_⟩
        simp [bind_run, hp, hagree, hsame, modifyProjection, map_run, Projection.verify]
    · left
      simp [bind_run, hp, hagree]

/-! ## Runs -/

/-- The invariant of the runs that calculate first: a proposal names its actor. -/
structure Evidenced (p : Projection) : Prop where
  dual : DualControl p
  proposer : p.deadlineProposal ≠ ∅ → ∃ primary, p.deadlineAudit.get? "primary_actor" = some primary

/-- A proposal names its proposer. -/
theorem get?_primary_propose (p : Projection) (day : Int) :
    (p.propose k c day).deadlineAudit.get? "primary_actor" = some c.actorId := by
  simp [Projection.propose, PyDict.ofEntries, PyDict.get?_set]

/-- A proposal has no second actor. -/
theorem get?_secondary_propose (p : Projection) (day : Int) :
    (p.propose k c day).deadlineAudit.get? "secondary_actor" = none := by
  simp [Projection.propose, PyDict.ofEntries, PyDict.get?_set]

/-- A proposal over no deadlines names its proposer. -/
theorem Evidenced.propose {p : Projection} (hempty : p.deadlines = ∅) (day : Int) :
    Evidenced (p.propose k c day) where
  dual := ⟨fun h => (h hempty).elim, fun h => (h hempty).elim⟩
  proposer _ := ⟨_, get?_primary_propose p day⟩

/-- A verification by another actor leaves evidence of both. -/
theorem Evidenced.verify {p : Projection} (h : Evidenced p) (hproposal : p.deadlineProposal ≠ ∅)
    (hother : p.deadlineAudit.get? "primary_actor" ≠ some c.actorId) :
    Evidenced (p.verify c) := by
  obtain ⟨primary, hprimary⟩ := h.proposer hproposal
  have hkept : (p.verify c).deadlineAudit.get? "primary_actor" = some primary := by
    simp [Projection.verify, PyDict.get?_set, hprimary]
  have hadded : (p.verify c).deadlineAudit.get? "secondary_actor" = some c.actorId := by
    simp [Projection.verify, PyDict.get?_set]
  refine ⟨⟨fun _ => ⟨primary, c.actorId, hkept, hadded, ?_⟩, fun _ => rfl⟩, fun _ => ⟨primary, hkept⟩⟩
  rintro rfl
  exact hother hprimary

/-- The evidence is about three fields only. -/
theorem Evidenced.of_same {p p' : Projection} (h : Evidenced p)
    (hdeadlines : p'.deadlines = p.deadlines) (hproposal : p'.deadlineProposal = p.deadlineProposal)
    (haudit : p'.deadlineAudit = p.deadlineAudit) : Evidenced p' := by
  refine ⟨⟨?_, ?_⟩, ?_⟩
  · rw [hdeadlines, haudit]
    exact h.dual.actors
  · rw [hdeadlines, hproposal]
    exact h.dual.agreed
  · rw [hproposal, haudit]
    exact h.proposer

variable {s : KernelState}

/-- A call that calculates first keeps the evidence. -/
theorem Evidenced.step (h : Evidenced s.projection) (hfirst : CalculatesFirst k s c) :
    Evidenced (k.step s c).projection := by
  cases ha : k.admit s c with
  | error r =>
    rw [(step_idle ha).projection]
    exact h.of_same rfl rfl rfl
  | ok a =>
    have heffect := step_effect ha
    cases hv : a.verb with
    | calculateDeadlines =>
      rw [heffect.projection, hv]
      rcases calculateDeadlines_cases k c s.tick with ⟨e, -, he⟩ | ⟨day, u, hday, hok⟩
      · rw [branch, he]
        exact h
      · rw [branch, hok]
        exact .propose (hfirst a day ha hv hday) day
    | verifyDeadlines =>
      rw [heffect.projection, hv]
      rcases verifyDeadlines_cases k c s.tick with ⟨e, he⟩ | ⟨hproposal, hother, u, hok⟩
      · rw [branch, he]
        exact h
      · rw [branch, hok]
        exact h.verify hproposal hother
    | _ =>
      have hframe := heffect.frame
      rw [hv] at hframe
      exact h.of_same (hframe .deadlines (by decide)).1 (hframe .deadlineProposal (by decide))
        (hframe .deadlineAudit (by decide))

/-- A calculation over recorded deadlines loses the name of the second actor. -/
theorem not_dualControl_step (hfirst : ¬ CalculatesFirst k s c) :
    ¬ DualControl (k.step s c).projection := by
  intro h
  unfold CalculatesFirst at hfirst
  push Not at hfirst
  obtain ⟨a, day, ha, hv, hday, hdeadlines⟩ := hfirst
  have hprojection : (k.step s c).projection = s.projection.propose k c day := by
    rw [(step_effect ha).projection, hv, branch]
    rcases calculateDeadlines_cases k c s.tick with ⟨e, herror, -⟩ | ⟨day', u, hday', hok⟩
    · cases hday.symm.trans herror
    · cases hday.symm.trans hday'
      rw [hok]
      rfl
  rw [hprojection] at h
  obtain ⟨_, secondary, -, hsecondary, -⟩ := h.actors hdeadlines
  cases (get?_secondary_propose s.projection day).symm.trans hsecondary

end

end LawFirmDigitalTwin
