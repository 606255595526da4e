import LawFirmDigitalTwin.Kernel.Provenance

/-!
# What accepted commands leave behind

A mark of a verb is a property of the projection that its branch sets when it returns and that no
call removes (`Mark`); in every run the mark of each accepted verb is there (`Mark.run`). The events
carry the clock, which no two of them share.
-/

namespace LawFirmDigitalTwin

open Raising

/-! ## Marks -/

/-- The branch of a verb sets the property when it returns, and every branch keeps it. -/
structure Mark (k : Kernel) (v : Verb) (P : Projection → Prop) : Prop where
  sets : ∀ c s, returned (branch k c v s) = true → P (final (branch k c v s)).projection
  keeps : ∀ c w s, P s.projection → P (final (branch k c w s)).projection
  /-- The count of attempts to read the oracle has no part in it. -/
  oracle : ∀ p n, P p → P { p with oracleAccessAttempts := n }

section
variable {k : Kernel} {s : KernelState} {c : Command} {v : Verb} {P : Projection → Prop}

/-- The branch of an accepted command returned. -/
theorem branch_of_returned {a : Admission} (h : k.admit s c = .ok a)
    (hr : returned (k.submit c s) = true) : returned (branch k c a.verb s.tick) = true :=
  ((returned_submit_iff h).1 hr).1

/-- A mark that is set stays set. -/
theorem Mark.keeps_step (h : Mark k v P) (hs : P s.projection) : P (k.step s c).projection := by
  cases ha : k.admit s c with
  | error r =>
    rw [(step_idle ha).projection]
    exact h.oracle _ _ hs
  | ok a =>
    rw [(step_effect ha).projection]
    exact h.keeps c a.verb s.tick hs

/-- Where the verb has happened, its mark is set. -/
theorem Mark.step (h : Mark k v P) (hs : Happened v s → P s.projection)
    (hv : Happened v (k.step s c)) : P (k.step s c).projection := by
  obtain ⟨e, he, hev⟩ := hv
  rcases step_events k s c with ⟨-, hevents⟩ | ⟨a, e', ha, hr, he', hevents⟩
  · exact h.keeps_step (hs ⟨e, hevents ▸ he, hev⟩)
  · rw [hevents] at he
    rcases List.mem_append.1 he with he | he
    · exact h.keeps_step (hs ⟨e, he, hev⟩)
    · rw [List.mem_singleton.1 he] at hev
      obtain rfl := he'.verb_eq hev
      rw [(step_effect ha).projection]
      exact h.sets c s.tick (branch_of_returned ha hr)

/-- **The mark of every verb that was accepted is there.** -/
theorem Mark.run (h : Mark k v P) (cs : List Command) :
    Happened v (k.run cs) → P (k.run cs).projection := by
  refine Machine.run_invariant (I := fun s => Happened v s → P s.projection)
    (fun s c hs => h.step hs) ?_ cs
  rintro ⟨e, he, -⟩
  cases he

/-- What a branch that does not write a part leaves of it. -/
theorem part_of_branch {part : Part} (hpart : part ∉ writes v) (c : Command) (s : KernelState) :
    part.Same s.projection (final (branch k c v s)).projection := by
  obtain ⟨p, hp, hframe⟩ := keeps_branch k c v s
  rw [hp]
  exact hframe part hpart

/-! ## Productions -/

/-- What was produced stays listed. -/
def ProducesMore (s s' : KernelState) : Prop :=
  s.projection.producedArtifactIds <+: s'.projection.producedArtifactIds

instance reflProducesMore : Std.Refl ProducesMore where
  refl s := List.prefix_refl s.projection.producedArtifactIds

instance isTransProducesMore : IsTrans KernelState ProducesMore where
  trans _ _ _ h h' := List.IsPrefix.trans h h'

/-- What leaves the produced artifacts alone. -/
theorem ProducesMore.of_eq {s s' : KernelState}
    (h : s'.projection.producedArtifactIds = s.projection.producedArtifactIds) :
    ProducesMore s s' := by
  unfold ProducesMore
  rw [h]

/-- Extending a log produces nothing. -/
theorem producesMore_extendLog (id : String) (steps : Except PyError (List CustodyStep)) :
    Keeps ProducesMore (extendLog id steps) := by
  refine .assign fun s s' hs => ?_
  obtain ⟨log, -, hs⟩ := except_bind_eq_ok.1 hs
  obtain ⟨steps', -, hs⟩ := except_bind_eq_ok.1 hs
  cases hs
  exact .of_eq rfl

/-- The loop of production appends what it produces. -/
theorem producesMore_produceAll (c : Command) (ids : List String) :
    Keeps ProducesMore (produceAll k c ids) := by
  induction ids with
  | nil => exact .pure _
  | cons id rest ih =>
    refine .bind (.attempt _) fun a => .bind (.modify fun s => .of_eq rfl) fun _ => ?_
    refine .bind (.modify fun s => ?_) fun _ => .bind (producesMore_extendLog _ _) fun _ => ih
    exact List.prefix_append _ _

/-- No branch takes a produced artifact back. -/
theorem producesMore_branch (c : Command) (v : Verb) : Keeps ProducesMore (branch k c v) := by
  intro s
  by_cases hpart : .production ∈ writes v
  · have hv : v = .produceDiscovery := by
      revert hpart
      cases v <;> decide
    subst hv
    refine (Keeps.bind .get fun s => .bind (.raiseIf _ _) fun _ => ?_ :
      Keeps ProducesMore (produceDiscovery k c)) s
    exact .bind (producesMore_produceAll _ _) fun _ => .bind (.attempt _) fun _ => .pure _
  · exact .of_eq (part_of_branch hpart c s)

/-- A production that returned has produced something. -/
theorem produced_of_returned {c : Command} {s : KernelState}
    (hr : returned (produceDiscovery k c s) = true) :
    (final (produceDiscovery k c s)).projection.producedArtifactIds ≠ [] := by
  unfold produceDiscovery at hr ⊢
  rw [returned_get_bind, returned_raiseIf_bind] at hr
  obtain ⟨hne, hr⟩ := hr
  rw [final_get_bind, final_raiseIf_bind, hne]
  have hselected : k.selected s.projection ≠ [] := of_decide_eq_false (Except.ok.inj hne)
  obtain ⟨id, rest, hids⟩ := List.exists_cons_of_ne_nil hselected
  dsimp only
  rw [hids] at hr ⊢
  obtain ⟨_, s', hs', -⟩ := returned_bind_iff.1 hr
  have hmore : ProducesMore s' (final ((produceAll k c (id :: rest) >>= fun _ => do
      let production ← attempt (k.production (id :: rest))
      return [("produced_artifact_ids", Json.strs (id :: rest)),
        ("production_hash", .str (digest (.list production)))] : KernelM Updates) s)) := by
    rw [bind_run_ok hs']
    exact (Keeps.bind (.attempt _) fun _ => .pure _ : Keeps ProducesMore _) s'
  -- the first artifact is listed before the others are looked at
  have hfirst : s'.projection.producedArtifactIds ≠ [] := by
    unfold produceAll at hs'
    obtain ⟨a, s₁, -, hs'⟩ := bind_eq_ok.1 hs'
    obtain ⟨_, s₂, -, hs'⟩ := bind_eq_ok.1 hs'
    obtain ⟨_, s₃, hlisted, hs'⟩ := bind_eq_ok.1 hs'
    cases hlisted
    have hkept := (Keeps.bind (producesMore_extendLog id (a.handled "produced" c.actorId 52))
      fun _ => producesMore_produceAll (k := k) c rest : Keeps ProducesMore _)
      { s₂ with projection := { s₂.projection with
          producedArtifactIds := s₂.projection.producedArtifactIds ++ [id]
          artifactHashes := s₂.projection.artifactHashes ++ [a.contentHash] } }
    rw [hs'] at hkept
    have hlisted : s₂.projection.producedArtifactIds ++ [id] <+:
        s'.projection.producedArtifactIds := hkept
    intro hnil
    rw [hnil, List.prefix_nil, List.append_eq_nil_iff] at hlisted
    exact List.cons_ne_nil _ _ hlisted.2
  exact fun hnil => hfirst (List.prefix_nil.1 (hnil ▸ hmore))

/-- An accepted production has produced something. -/
theorem mark_production : Mark k .produceDiscovery fun p => p.producedArtifactIds ≠ [] where
  sets _ _ hr := produced_of_returned hr
  keeps c w s h hnil := h (List.prefix_nil.1 (hnil ▸ producesMore_branch c w s))
  oracle _ _ h := h

/-! ## Testimony -/

/-- A deposition is on record, and draws on the witness frontier. -/
def Deposed (k : Kernel) (p : Projection) : Prop :=
  ∃ r, p.depositionRecord = some r ∧ r.knowledgeTokens = k.bundle.sealed.witnessFactFrontier ∧
    r.oracleMaterialUsed = false

/-- A deposition raises before it writes, or takes the record. -/
theorem takeDeposition_cases (s : KernelState) :
    (∃ e, takeDeposition k s = .error e s) ∨
      ∃ u s', takeDeposition k s = .ok u s' ∧ Deposed k s'.projection := by
  unfold takeDeposition
  cases k.bundle.matter.actors.getItem "hr_witness" with
  | error e => exact .inl ⟨e, rfl⟩
  | ok witness => exact .inr ⟨_, _, rfl, _, rfl, rfl, rfl⟩

/-- A deposition taken is marked by its record. -/
theorem mark_deposition : Mark k .takeDeposition (Deposed k) where
  sets c s hr := by
    rcases takeDeposition_cases (k := k) s with ⟨e, he⟩ | ⟨u, s', hs', hd⟩
    · rw [branch, he] at hr
      cases hr
    · rw [branch, hs']
      exact hd
  keeps c w s h := by
    by_cases hpart : .deposition ∈ writes w
    · have hw : w = .takeDeposition := by
        revert hpart
        cases w <;> decide
      subst hw
      rcases takeDeposition_cases (k := k) s with ⟨e, he⟩ | ⟨u, s', hs', hd⟩
      · rw [branch, he]
        exact h
      · rw [branch, hs']
        exact hd
    · have hsame := part_of_branch (k := k) hpart c s
      unfold Deposed
      rw [show _ = _ from hsame]
      exact h
  oracle _ _ h := h

/-- An opinion is on record, of an independent expert, and draws on authorized artifacts that were
produced. -/
def Opined (k : Kernel) (p : Projection) : Prop :=
  ∃ o, p.expertOpinion = some o ∧
    (∀ id ∈ o.sourceArtifactIds, id ∈ k.bundle.sealed.expertAuthorizedArtifacts ∧
      id ∈ p.producedArtifactIds) ∧
    o.oracleMaterialUsed = false ∧ o.independenceAttested = true

/-- Retaining an expert leaves an opinion. -/
theorem opined_retainExpert (s : KernelState) :
    Opined k (final (retainExpert k s)).projection := by
  refine ⟨_, rfl, fun id hid => ?_, rfl, rfl⟩
  obtain ⟨hproduced, hauthorized⟩ := List.mem_filter.1 hid
  exact ⟨of_decide_eq_true hauthorized, hproduced⟩

/-- An expert retained is marked by the opinion. -/
theorem mark_opinion : Mark k .retainExpert (Opined k) where
  sets _ s _ := opined_retainExpert s
  keeps c w s h := by
    by_cases hpart : .expert ∈ writes w
    · have hw : w = .retainExpert := by
        revert hpart
        cases w <;> decide
      subst hw
      exact opined_retainExpert s
    · obtain ⟨o, ho, hsources, hflags⟩ := h
      have hsame := part_of_branch (k := k) hpart c s
      refine ⟨o, Eq.trans hsame ho, fun id hid => ⟨(hsources id hid).1, ?_⟩, hflags⟩
      exact (producesMore_branch c w s).subset (hsources id hid).2
  oracle _ _ h := h

/-! ## The outcome -/

/-- The world kernel has set the outcome of its target posture. -/
def OutcomeSet (k : Kernel) (p : Projection) : Prop :=
  (∃ o, outcomeOf k.bundle.sealed.targetPosture = .ok o ∧ p.resolutionOutcome = some o) ∧
    p.outcomeSource = "world_kernel"

/-- A resolution raises before it sets the outcome, or sets it. -/
theorem resolve_outcome (k : Kernel) (v : Verb) (s : KernelState) :
    (returned (resolve k v s) = false ∧
      (final (resolve k v s)).projection.resolutionOutcome = s.projection.resolutionOutcome ∧
      (final (resolve k v s)).projection.outcomeSource = s.projection.outcomeSource) ∨
      OutcomeSet k (final (resolve k v s)).projection := by
  by_cases hv : v = k.route.resolutionVerb
  · cases ho : outcomeOf k.bundle.sealed.targetPosture with
    | error e => left; simp [resolve, modifyProjection, bind_run, hv, ho, returned]
    | ok outcome =>
      right
      simp [resolve, modifyProjection, bind_run, map_run, hv, ho, OutcomeSet]
  · left; simp [resolve, bind_run, hv, returned]

/-- A verb that writes the outcome is one of the four that resolve. -/
theorem branch_of_outcome {w : Verb} (hw : .outcome ∈ writes w) (c : Command) :
    branch k c w = resolve k w := by
  cases w with
  | settleCase | mediateToImpasse | resolveDispositive | tryAndAppeal => rfl
  | _ => exact absurd hw (by decide)

/-- The resolution of the route is marked by its outcome. -/
theorem mark_outcome : Mark k k.route.resolutionVerb (OutcomeSet k) where
  sets c s hr := by
    have hbranch := branch_of_outcome (k := k) (w := k.route.resolutionVerb)
      (by cases k.route <;> decide) c
    rw [hbranch] at hr ⊢
    rcases resolve_outcome k k.route.resolutionVerb s with ⟨hno, -⟩ | h
    · rw [hno] at hr
      cases hr
    · exact h
  keeps c w s h := by
    by_cases hpart : .outcome ∈ writes w
    · rw [branch_of_outcome hpart]
      rcases resolve_outcome k w s with ⟨-, houtcome, hsource⟩ | h'
      · unfold OutcomeSet
        rw [houtcome, hsource]
        exact h
      · exact h'
    · obtain ⟨houtcome, hsource⟩ := part_of_branch (k := k) hpart c s
      unfold OutcomeSet
      rw [houtcome, hsource]
      exact h
  oracle _ _ h := h

/-! ## Closing -/

/-- The close conditions on record stay there. -/
def ClosesMore (s s' : KernelState) : Prop :=
  s.projection.closeConditions ⊆ s'.projection.closeConditions

instance reflClosesMore : Std.Refl ClosesMore where
  refl s := Finset.Subset.refl s.projection.closeConditions

instance isTransClosesMore : IsTrans KernelState ClosesMore where
  trans _ _ _ h h' := Finset.Subset.trans h h'

/-- The closeout adds to what is closed. -/
theorem closesMore_finalizeCloseout : Keeps ClosesMore finalizeCloseout := by
  refine .bind .get fun s => .bind (.raiseIf _ _) fun _ => ?_
  refine .bind (.modify fun s => Finset.subset_union_left) fun _ => .bind .get fun s' => ?_
  refine .bind (.attempt _) fun reconciled => .bind (.modify fun s => ?_) fun _ => .pure _
  unfold ClosesMore
  cases reconciled
  · exact Finset.Subset.refl _
  · exact Finset.subset_insert _ _

/-- No branch takes a condition of closing back. -/
theorem closesMore_branch (c : Command) (w : Verb) : Keeps ClosesMore (branch k c w) := by
  intro s
  by_cases hpart : .closeConditions ∈ writes w
  · have hw : w = .finalizeCloseout := by
      revert hpart
      cases w <;> decide
    subst hw
    exact closesMore_finalizeCloseout s
  · unfold ClosesMore
    rw [show _ = _ from part_of_branch (k := k) hpart c s]

/-- A closed matter has met the close conditions. -/
def ClosedMet (p : Projection) : Prop :=
  p.closed = true → requiredConditions ⊆ p.closeConditions

/-- A closed matter stays one whose conditions are met. -/
theorem ClosedMet.step (h : ClosedMet s.projection) : ClosedMet (k.step s c).projection := by
  cases ha : k.admit s c with
  | error r =>
    rw [(step_idle ha).projection]
    exact h
  | ok a =>
    rw [(step_effect ha).projection]
    have hmore := closesMore_branch (k := k) c a.verb s.tick
    by_cases hpart : .closed ∈ writes a.verb
    · have hw : a.verb = .closeMatter := by
        revert hpart
        cases a.verb <;> decide
      rw [hw] at hmore ⊢
      rcases closeMatter_cases s.tick with ⟨e, he⟩ | ⟨hmet, -, hok⟩
      · rw [branch, he]
        exact h
      · exact fun _ => Finset.Subset.trans hmet hmore
    · have hsame : (final (branch k c a.verb s.tick)).projection.closed = s.projection.closed :=
        part_of_branch (k := k) hpart c s.tick
      intro hclosed
      exact Finset.Subset.trans (h (hsame ▸ hclosed)) hmore

/-- Whenever a matter is closed, its conditions are met. -/
theorem closedMet_run (cs : List Command) : ClosedMet (k.run cs).projection :=
  Machine.run_invariant (I := fun s : KernelState => ClosedMet s.projection)
    (fun _ _ h => h.step) (fun h => Bool.noConfusion h) cs

/-! ## The clock -/

/-- The events carry times of the clock, later ones later times. -/
structure Timed (s : KernelState) : Prop where
  past : ∀ e ∈ s.events, e.simulatedAt ≤ s.clock
  ordered : s.events.Pairwise fun e e' => e.simulatedAt < e'.simulatedAt

/-- A call may advance the clock, and the event that it appends carries the new time. -/
theorem step_clock (k : Kernel) (s : KernelState) (c : Command) :
    (s.clock ≤ (k.step s c).clock ∧ (k.step s c).events = s.events) ∨
      ∃ e, s.clock < (k.step s c).clock ∧ e.simulatedAt = (k.step s c).clock ∧
        (k.step s c).events = s.events ++ [e] := by
  cases h : k.admit s c with
  | error r => exact .inl ⟨(step_idle h).clock.ge, (step_idle h).events⟩
  | ok a =>
    have hclock := (step_effect h).clock
    cases hr : returned (k.submit c s) with
    | false => exact .inl ⟨by omega, step_rejected hr⟩
    | true =>
      obtain ⟨e', -, hevents⟩ := step_accepted h hr
      have hpasses := submit_passes h
      unfold Kernel.step at hclock hevents ⊢
      generalize k.submit c s = r at hpasses hr hclock hevents ⊢
      cases hpasses with
      | branchRaised | grantUnread | grantRaised | unhashed => cases hr
      | @accepted u s₁ s₂ gs event hb hg hgr he =>
        have htime : event.simulatedAt = s₂.clock := by
          unfold Kernel.event at he
          obtain ⟨_, -, he⟩ := except_bind_eq_ok.1 he
          obtain ⟨_, -, he⟩ := except_bind_eq_ok.1 he
          obtain ⟨_, -, he⟩ := except_bind_eq_ok.1 he
          obtain ⟨_, -, he⟩ := except_bind_eq_ok.1 he
          obtain ⟨_, -, he⟩ := except_bind_eq_ok.1 he
          cases he
          rfl
        obtain ⟨-, hsame⟩ := List.append_inj' hevents rfl
        rw [← List.singleton_inj.1 hsame] at hevents
        refine .inr ⟨event, ?_, htime, hevents⟩
        rw [show _ = s.clock + 1 from hclock]
        exact Nat.lt_succ_self _

/-- A step keeps the time entries with their amounts. -/
theorem Timed.step (h : Timed s) : Timed (k.step s c) := by
  rcases step_clock k s c with ⟨hclock, hevents⟩ | ⟨e, hclock, htime, hevents⟩
  · refine ⟨fun e he => ?_, ?_⟩
    · exact (h.past e (hevents ▸ he)).trans hclock
    · rw [hevents]
      exact h.ordered
  · refine ⟨fun e' he' => ?_, ?_⟩
    · rw [hevents] at he'
      rcases List.mem_append.1 he' with he' | he'
      · exact (h.past e' he').trans hclock.le
      · rw [List.mem_singleton.1 he', htime]
    · rw [hevents]
      refine List.pairwise_append.2 ⟨h.ordered, List.pairwise_singleton _ _, fun e' he' x hx => ?_⟩
      rw [List.mem_singleton.1 hx, htime]
      exact (h.past e' he').trans_lt hclock

/-- The time entries of a run have their amounts. -/
theorem timed_run (cs : List Command) : Timed (k.run cs) :=
  Machine.run_invariant (fun _ _ h => h.step) ⟨nofun, .nil⟩ cs

/-- No attempt to read the oracle is accepted. -/
theorem not_happened_readOracle (cs : List Command) : ¬ Happened .readOracle (k.run cs) := by
  refine Machine.run_invariant (I := fun s => ¬ Happened .readOracle s) (fun s c h => ?_) ?_ cs
  · rintro ⟨e, he, hv⟩
    rcases step_events k s c with ⟨-, hevents⟩ | ⟨a, e', ha, -, he', hevents⟩
    · exact h ⟨e, hevents ▸ he, hv⟩
    · rw [hevents] at he
      rcases List.mem_append.1 he with he | he
      · exact h ⟨e, he, hv⟩
      · rw [List.mem_singleton.1 he] at hv
        exact (admit_ok ha).notOracle (he'.verb_eq hv)
  · rintro ⟨e, he, -⟩
    cases he

end

end LawFirmDigitalTwin
