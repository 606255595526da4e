import LawFirmDigitalTwin.Kernel.Frame
import LawFirmDigitalTwin.Kernel.Hashing

/-!
# The steps of the kernel

What the checks of `submit` guarantee (`Admitted`), what its grants add, and from these what one
call can do to the state: `step_cases` lists the ways a call ends, `Effect` says what the calls that
pass the checks have in common.
-/

namespace LawFirmDigitalTwin

open Raising

/-! ## Tokens -/

/-- The tokens an actor holds; none when the actor is unknown. -/
def tokens (d : PyDict (Finset String)) (actorId : String) : Finset String :=
  (d.get? actorId).getD ∅

/-- What an actor holds after another's tokens are set. -/
theorem tokens_set (d : PyDict (Finset String)) (a b : String) (ts : Finset String) :
    tokens (d.set a ts) b = if b = a then ts else tokens d b := by
  unfold tokens
  rw [PyDict.get?_set]
  split <;> rfl

/-- Tokens that were added to a dictionary of tokens, by at most the grants in `gs`. -/
structure Gained (kind : Grant → List String) (gs : List Grant) (d d' : PyDict (Finset String)) :
    Prop where
  keys : ∀ a, (d'.get? a).isSome = (d.get? a).isSome
  kept : ∀ a, tokens d a ⊆ tokens d' a
  gained : ∀ a, ∀ t ∈ tokens d' a, t ∈ tokens d a ∨ ∃ g ∈ gs, g.actorId = a ∧ t ∈ kind g

namespace Gained

variable {kind : Grant → List String} {gs : List Grant} {d d' d'' : PyDict (Finset String)}

/-- Nothing is gained without grants. -/
theorem refl (d : PyDict (Finset String)) : Gained kind gs d d :=
  ⟨fun _ => rfl, fun _ => Finset.Subset.refl _, fun _ _ h => .inl h⟩

/-- What is gained in two parts. -/
theorem trans (h : Gained kind gs d d') (h' : Gained kind gs d' d'') : Gained kind gs d d'' where
  keys a := (h'.keys a).trans (h.keys a)
  kept a := (h.kept a).trans (h'.kept a)
  gained a t ht := by
    rcases h'.gained a t ht with ht | ht
    · exact h.gained a t ht
    · exact .inr ht

/-- What is gained of some grants is gained of more. -/
theorem mono {gs' : List Grant} (h : Gained kind gs d d') (hsub : ∀ g ∈ gs, g ∈ gs') :
    Gained kind gs' d d' where
  keys := h.keys
  kept := h.kept
  gained a t ht := by
    rcases h.gained a t ht with ht | ⟨g, hg, ht⟩
    · exact .inl ht
    · exact .inr ⟨g, hsub g hg, ht⟩

/-- Granting one of the grants. -/
theorem update {g : Grant} (hg : g ∈ gs) {held : Finset String}
    (h : d.get? g.actorId = some held) :
    Gained kind gs d (d.set g.actorId (held ∪ (kind g).toFinset)) where
  keys a := by
    rw [PyDict.get?_set]
    split
    · next he => rw [he, h]; rfl
    · rfl
  kept a := by
    rw [tokens_set]
    split
    · next he => rw [he, tokens, h]; exact Finset.subset_union_left
    · exact Finset.Subset.refl _
  gained a t ht := by
    rw [tokens_set] at ht
    split at ht
    · next he =>
      rcases Finset.mem_union.1 ht with ht | ht
      · left; rw [he, tokens, h]; exact ht
      · exact .inr ⟨g, hg, he.symm, List.mem_toFinset.1 ht⟩
    · exact .inl ht

end Gained

/-- What a list of `_grant` calls can change. -/
structure GrantFrame (gs : List Grant) (s s' : KernelState) : Prop where
  clock : s'.clock = s.clock
  events : s'.events = s.events
  denials : s'.denials = s.denials
  projection : s'.projection = s.projection
  authority : Gained Grant.authority gs s.authority s'.authority
  knowledge : Gained Grant.knowledge gs s.knowledge s'.knowledge

instance (gs : List Grant) : Std.Refl (GrantFrame gs) where
  refl _ := ⟨rfl, rfl, rfl, rfl, .refl _, .refl _⟩

instance (gs : List Grant) : IsTrans KernelState (GrantFrame gs) where
  trans _ _ _ h₁ h₂ :=
    ⟨h₂.clock.trans h₁.clock, h₂.events.trans h₁.events, h₂.denials.trans h₁.denials,
      h₂.projection.trans h₁.projection, h₁.authority.trans h₂.authority,
      h₁.knowledge.trans h₂.knowledge⟩

/-- Granting the authority of a grant. -/
theorem keeps_updateAuthority {gs : List Grant} {g : Grant} (hg : g ∈ gs) :
    Keeps (GrantFrame gs) (updateAuthority g.actorId g.authority) := by
  refine .assign fun s s' hs => ?_
  cases hh : s.authority.getItem g.actorId with
  | error e => rw [hh] at hs; cases hs
  | ok held =>
    rw [hh] at hs
    cases hs
    exact ⟨rfl, rfl, rfl, rfl, .update hg (PyDict.getItem_eq_ok.1 hh), .refl _⟩

/-- Granting the knowledge of a grant. -/
theorem keeps_updateKnowledge {gs : List Grant} {g : Grant} (hg : g ∈ gs) :
    Keeps (GrantFrame gs) (updateKnowledge g.actorId g.knowledge) := by
  refine .assign fun s s' hs => ?_
  cases hh : s.knowledge.getItem g.actorId with
  | error e => rw [hh] at hs; cases hs
  | ok held =>
    rw [hh] at hs
    cases hs
    exact ⟨rfl, rfl, rfl, rfl, .refl _, .update hg (PyDict.getItem_eq_ok.1 hh)⟩

/-- Granting some of the grants one after the other. -/
theorem keeps_grantAll {gs : List Grant} (l : List Grant) (hsub : ∀ g ∈ l, g ∈ gs) :
    Keeps (GrantFrame gs) (grantAll l) := by
  induction l with
  | nil => exact .pure _
  | cons g l ih =>
    have hg : g ∈ gs := hsub g (.head _)
    exact .bind (keeps_updateAuthority hg) fun _ => .bind (keeps_updateKnowledge hg) fun _ =>
      ih fun g' h => hsub g' (.tail _ h)

/-- Both dictionaries of tokens have an entry for the actor. -/
def Seated (s : KernelState) (actorId : String) : Prop :=
  (s.authority.get? actorId).isSome = true ∧ (s.knowledge.get? actorId).isSome = true

/-- Grants seat nobody and unseat nobody. -/
theorem GrantFrame.seated {gs : List Grant} {s s' : KernelState} (h : GrantFrame gs s s')
    (a : String) : Seated s' a ↔ Seated s a := by
  unfold Seated
  rw [h.authority.keys, h.knowledge.keys]

/-- Authority is granted to those who have a record of it. -/
theorem returned_updateAuthority {a : String} {ts : List String} {s : KernelState} :
    returned (updateAuthority a ts s) = true ↔ (s.authority.get? a).isSome = true := by
  unfold updateAuthority
  rw [assign_run]
  unfold PyDict.getItem
  cases s.authority.get? a <;> simp

/-- Knowledge is granted to those who have a record of it. -/
theorem returned_updateKnowledge {a : String} {ts : List String} {s : KernelState} :
    returned (updateKnowledge a ts s) = true ↔ (s.knowledge.get? a).isSome = true := by
  unfold updateKnowledge
  rw [assign_run]
  unfold PyDict.getItem
  cases s.knowledge.get? a <;> simp

/-- Grants fail on an actor without an entry, and only there. -/
theorem returned_grantAll {gs : List Grant} {s : KernelState} :
    returned (grantAll gs s) = true ↔ ∀ g ∈ gs, Seated s g.actorId := by
  induction gs generalizing s with
  | nil => simp [grantAll]
  | cons g gs ih =>
    have hA := keeps_updateAuthority (List.mem_singleton.2 rfl : g ∈ [g])
    have hK := keeps_updateKnowledge (List.mem_singleton.2 rfl : g ∈ [g])
    rw [List.forall_mem_cons]
    constructor
    · intro h
      obtain ⟨_, s₁, h₁, h⟩ := returned_bind_iff.1 h
      obtain ⟨_, s₂, h₂, h⟩ := returned_bind_iff.1 h
      have f₁ : GrantFrame [g] s s₁ := by simpa [h₁] using hA s
      have f₂ : GrantFrame [g] s₁ s₂ := by simpa [h₂] using hK s₁
      have ha := returned_updateAuthority.1 (returned_iff.2 ⟨_, _, h₁⟩)
      have hk := returned_updateKnowledge.1 (returned_iff.2 ⟨_, _, h₂⟩)
      refine ⟨⟨ha, (f₁.knowledge.keys _).symm.trans hk⟩, fun g' hg' => ?_⟩
      exact (f₁.seated _).1 ((f₂.seated _).1 (ih.1 h g' hg'))
    · rintro ⟨⟨ha, hk⟩, hgs⟩
      have hA₁ : returned (updateAuthority g.actorId g.authority s) = true :=
        returned_updateAuthority.2 ha
      obtain ⟨_, s₁, h₁⟩ := returned_iff.1 hA₁
      have f₁ : GrantFrame [g] s s₁ := by simpa [h₁] using hA s
      have hK₁ : returned (updateKnowledge g.actorId g.knowledge s₁) = true :=
        returned_updateKnowledge.2 ((f₁.knowledge.keys _).trans hk)
      obtain ⟨_, s₂, h₂⟩ := returned_iff.1 hK₁
      have f₂ : GrantFrame [g] s₁ s₂ := by simpa [h₂] using hK s₁
      refine returned_bind_iff.2 ⟨_, s₁, h₁, returned_bind_iff.2 ⟨_, s₂, h₂, ih.2 fun g' hg' => ?_⟩⟩
      exact (f₂.seated _).2 ((f₁.seated _).2 (hgs g' hg'))

/-! ## Admission -/

/-- What the checks of `submit` guarantee of a command they let through. -/
structure Admitted (k : Kernel) (s : KernelState) (c : Command) (v : Verb) : Prop where
  matter : c.matterId = k.bundle.matter.matterId
  verb : Verb.ofName? c.verb = some v
  profile : ∃ p, k.bundle.matter.actors.get? c.actorId = some p ∧ p.roleId ∈ (verbPolicy v).roles
  notOracle : v ≠ .readOracle
  seated : Seated s c.actorId
  authority : ∀ t ∈ (verbPolicy v).authority, t ∈ tokens s.authority c.actorId
  knowledge : ∀ t ∈ (verbPolicy v).knowledge, t ∈ tokens s.knowledge c.actorId

/-- Where nothing is missing, what the policy asks for is held. -/
theorem mem_of_required {policy requires : List String} {held : Finset String}
    (h : required policy requires \ held = ∅) : ∀ t ∈ policy, t ∈ held := by
  intro t ht
  refine Finset.sdiff_eq_empty_iff_subset.1 h (Finset.mem_union_left _ ?_)
  exact List.mem_toFinset.2 ht

/-- A command that is admitted has passed the checks. -/
theorem admit_ok {k : Kernel} {s : KernelState} {c : Command} {a : Admission}
    (h : k.admit s c = .ok a) : Admitted k s c a.verb := by
  unfold Kernel.admit at h
  split at h
  · cases h
  next hm =>
  split at h
  · cases h
  next profile hp =>
  split at h
  · cases h
  next v hv =>
  dsimp only at h
  split at h
  · cases h
  split at h
  · cases h
  next hrole =>
  split at h
  · cases h
  next horacle =>
  split at h
  · cases h
  · cases h
  next authority knowledge ha hk =>
  split at h
  · cases h
  next hmA =>
  split at h
  · cases h
  next hmK =>
  cases h
  rw [PyDict.getItem_eq_ok] at ha hk
  refine ⟨not_not.1 hm, hv, ⟨profile, hp, not_not.1 hrole⟩, horacle, ⟨?_, ?_⟩, ?_, ?_⟩
  · rw [ha]; rfl
  · rw [hk]; rfl
  · rw [tokens, ha]
    exact mem_of_required (not_not.1 hmA)
  · rw [tokens, hk]
    exact mem_of_required (not_not.1 hmK)

/-! ## The ways a call ends -/

/-- The state in which the transition of a command starts. -/
def KernelState.tick (s : KernelState) : KernelState := { s with clock := s.clock + 1 }

/-- The ways the call of a command that was admitted ends. -/
inductive Kernel.Passes (k : Kernel) (s : KernelState) (c : Command) (a : Admission) :
    EStateM.Result PyError KernelState Event → Prop
  /-- The branch raised. -/
  | branchRaised {e : PyError} {s₁ : KernelState} (hb : branch k c a.verb s.tick = .error e s₁) :
      Passes k s c a (.error e s₁)
  /-- The token to grant could not be read from the payload. -/
  | grantUnread {u : Updates} {s₁ : KernelState} {e : PyError}
      (hb : branch k c a.verb s.tick = .ok u s₁) (hg : grantsOf c a.verb = .error e) :
      Passes k s c a (.error e s₁)
  /-- A grant was made to an actor without an entry. -/
  | grantRaised {u : Updates} {s₁ s₂ : KernelState} {gs : List Grant} {e : PyError}
      (hb : branch k c a.verb s.tick = .ok u s₁) (hg : grantsOf c a.verb = .ok gs)
      (hr : grantAll gs s₁ = .error e s₂) : Passes k s c a (.error e s₂)
  /-- The hashes of the event could not be computed. -/
  | unhashed {u : Updates} {s₁ s₂ : KernelState} {gs : List Grant} {e : PyError}
      (hb : branch k c a.verb s.tick = .ok u s₁) (hg : grantsOf c a.verb = .ok gs)
      (hr : grantAll gs s₁ = .ok () s₂) (he : k.event c a u s₂ = .error e) :
      Passes k s c a (.error e s₂)
  /-- The event was appended. -/
  | accepted {u : Updates} {s₁ s₂ : KernelState} {gs : List Grant} {event : Event}
      (hb : branch k c a.verb s.tick = .ok u s₁) (hg : grantsOf c a.verb = .ok gs)
      (hr : grantAll gs s₁ = .ok () s₂) (he : k.event c a u s₂ = .ok event) :
      Passes k s c a (.ok event { s₂ with events := s₂.events ++ [event] })

section
variable {k : Kernel} {s : KernelState} {c : Command}

/-- A denied command leaves a denial event. -/
theorem submit_denied {reason : DenialReason} {missing : List String}
    (h : k.admit s c = .error (.denied reason missing)) :
    k.submit c s = deny c reason missing s := by
  simp only [Kernel.submit, bind_run, get_run, h]

/-- A command whose admission raises leaves the state as it was. -/
theorem submit_raised {e : PyError} (h : k.admit s c = .error (.raised e)) :
    k.submit c s = .error e s := by
  simp only [Kernel.submit, bind_run, get_run, h, throw_run]

/-- **The ways a call ends, once the command is admitted.** -/
theorem submit_passes {a : Admission} (h : k.admit s c = .ok a) :
    k.Passes s c a (k.submit c s) := by
  have hrun : k.submit c s = (transition k c a.verb >>= fun updates => do
      let event ← attempt (k.event c a updates (← get))
      modify fun s => { s with events := s.events ++ [event] }
      return event) s.tick := by
    simp only [Kernel.submit, bind_run, get_run, h, modify_run]
    rfl
  rw [hrun, bind_run, transition, bind_run]
  cases hb : branch k c a.verb s.tick with
  | error e s₁ => exact .branchRaised hb
  | ok u s₁ =>
    dsimp only
    rw [bind_run]
    cases hg : grantsOf c a.verb with
    | error e => exact .grantUnread hb hg
    | ok gs =>
      rw [attempt_ok]
      dsimp only
      rw [bind_run]
      cases hr : grantAll gs s₁ with
      | error e s₂ => exact .grantRaised hb hg hr
      | ok _ s₂ =>
        dsimp only [pure_run]
        rw [bind_run, get_run]
        dsimp only
        rw [bind_run]
        cases he : k.event c a u s₂ with
        | error e => exact .unhashed hb hg hr he
        | ok event => exact .accepted hb hg hr he

/-- What a call changes whose command is not admitted. -/
structure Idle (s s' : KernelState) : Prop where
  clock : s'.clock = s.clock
  events : s'.events = s.events
  authority : s'.authority = s.authority
  knowledge : s'.knowledge = s.knowledge
  projection : s'.projection =
    { s.projection with oracleAccessAttempts := s'.projection.oracleAccessAttempts }

/-- A command that is not admitted changes nothing but the events. -/
theorem step_idle {r : Refusal} (h : k.admit s c = .error r) : Idle s (k.step s c) := by
  unfold Kernel.step
  cases r with
  | raised e => rw [submit_raised h]; exact ⟨rfl, rfl, rfl, rfl, rfl⟩
  | denied reason missing =>
    rw [submit_denied h]
    unfold deny
    by_cases hr : reason = .oracleBoundary
    · rw [if_pos hr]; exact ⟨rfl, rfl, rfl, rfl, rfl⟩
    · rw [if_neg hr]; exact ⟨rfl, rfl, rfl, rfl, rfl⟩

/-- What every call has in common whose command is admitted, however it ends. The grants are all
those of the branch, or none. -/
structure Kernel.Effect (k : Kernel) (s : KernelState) (c : Command) (v : Verb) (s' : KernelState) :
    Prop where
  clock : s'.clock = s.clock + 1
  denials : s'.denials = s.denials
  projection : s'.projection = (final (branch k c v s.tick)).projection
  frame : s.projection.Frame v s'.projection
  tokens : ∃ gs, (gs = [] ∨ returned (branch k c v s.tick) = true ∧ grantsOf c v = .ok gs) ∧
    Gained Grant.authority gs s.authority s'.authority ∧
    Gained Grant.knowledge gs s.knowledge s'.knowledge

/-- The effect of a command: its branch, its grants and its events. -/
theorem effect_of_grants {v : Verb} {gs : List Grant} {s₂ : KernelState} {es : List Event}
    (hgs : gs = [] ∨ returned (branch k c v s.tick) = true ∧ grantsOf c v = .ok gs)
    (hg : GrantFrame gs (final (branch k c v s.tick)) s₂) :
    k.Effect s c v { s₂ with events := es } := by
  obtain ⟨p, hp, hframe⟩ := keeps_branch k c v s.tick
  obtain ⟨hclock, -, hdenials, hprojection, hauthority, hknowledge⟩ := hg
  refine ⟨?_, ?_, hprojection, ?_, ⟨gs, hgs, ?_, ?_⟩⟩
  · rw [hp] at hclock; exact hclock
  · rw [hp] at hdenials; exact hdenials
  · show s.projection.Frame v s₂.projection
    rw [hprojection, hp]; exact hframe
  · rw [hp] at hauthority; exact hauthority
  · rw [hp] at hknowledge; exact hknowledge

/-- **What an admitted call does.** -/
theorem step_effect {a : Admission} (h : k.admit s c = .ok a) :
    k.Effect s c a.verb (k.step s c) := by
  have hpasses := submit_passes h
  unfold Kernel.step
  generalize k.submit c s = r at hpasses ⊢
  have hgrants (gs : List Grant) (s₁ : KernelState) : GrantFrame gs s₁ (final (grantAll gs s₁)) :=
    keeps_grantAll gs (fun g h => h) s₁
  cases hpasses with
  | @branchRaised e s₁ hb =>
    exact effect_of_grants (.inl rfl) (by rw [hb]; exact Std.Refl.refl s₁)
  | @grantUnread u s₁ e hb hg =>
    exact effect_of_grants (.inl rfl) (by rw [hb]; exact Std.Refl.refl s₁)
  | @grantRaised u s₁ s₂ gs e hb hg hr =>
    have hf := hgrants gs s₁
    rw [hr] at hf
    exact effect_of_grants (.inr ⟨by rw [hb]; rfl, hg⟩) (by rw [hb]; exact hf)
  | @unhashed u s₁ s₂ gs e hb hg hr he =>
    have hf := hgrants gs s₁
    rw [hr] at hf
    exact effect_of_grants (.inr ⟨by rw [hb]; rfl, hg⟩) (by rw [hb]; exact hf)
  | @accepted u s₁ s₂ gs event hb hg hr he =>
    have hf := hgrants gs s₁
    rw [hr] at hf
    exact effect_of_grants (.inr ⟨by rw [hb]; rfl, hg⟩) (by rw [hb]; exact hf)

/-! ## Events -/

/-- What an event says of its command and of the updates of the branch. -/
structure Records (c : Command) (u : Updates) (event : Event) : Prop where
  eventType : event.eventType = c.verb ++ "_accepted"
  commandId : event.commandId = c.commandId
  payload : ∃ canonical, canonicalEntries c.payload.entries = .ok canonical ∧
    event.payload = u.foldl (fun d e => d.set e.1 e.2) (PyDict.ofEntries canonical)

/-- The event of a command records its update. -/
theorem event_records {a : Admission} {u : Updates} {event : Event}
    (h : k.event c a u s = .ok event) : Records c u event := by
  unfold Kernel.event at h
  obtain ⟨knowledge, -, h⟩ := except_bind_eq_ok.1 h
  obtain ⟨input, -, h⟩ := except_bind_eq_ok.1 h
  obtain ⟨inputHash, -, h⟩ := except_bind_eq_ok.1 h
  obtain ⟨canonical, hc, h⟩ := except_bind_eq_ok.1 h
  obtain ⟨outputHash, -, h⟩ := except_bind_eq_ok.1 h
  cases h
  exact ⟨rfl, rfl, canonical, hc, rfl⟩

/-- A branch leaves everything outside the projection as it was. -/
theorem branch_final (k : Kernel) (s : KernelState) (c : Command) (v : Verb) :
    ∃ p, final (branch k c v s.tick) = { s.tick with projection := p } := by
  obtain ⟨p, hp, -⟩ := keeps_branch k c v s.tick
  exact ⟨p, hp⟩

/-- A branch appends no event. -/
theorem branch_events (k : Kernel) (s : KernelState) (c : Command) (v : Verb) :
    (final (branch k c v s.tick)).events = s.events := by
  obtain ⟨p, hp⟩ := branch_final k s c v
  rw [hp]; rfl

/-- Grants append no event. -/
theorem events_of_grants {v : Verb} {gs : List Grant} {s₂ : KernelState}
    (hg : GrantFrame gs (final (branch k c v s.tick)) s₂) : s₂.events = s.events := by
  rw [hg.events, branch_events]

/-- A call that returned appended the event of its verb. -/
theorem step_accepted {a : Admission} (h : k.admit s c = .ok a)
    (hr : returned (k.submit c s) = true) :
    ∃ e, e.eventType = a.verb.acceptedType ∧ (k.step s c).events = s.events ++ [e] := by
  have hpasses := submit_passes h
  unfold Kernel.step
  generalize k.submit c s = r at hpasses hr ⊢
  cases hpasses with
  | branchRaised | grantUnread | grantRaised | unhashed => cases hr
  | @accepted u s₁ s₂ gs event hb hg hgr he =>
    have hf : GrantFrame gs s₁ (final (grantAll gs s₁)) := keeps_grantAll gs (fun g h => h) s₁
    rw [hgr] at hf
    have hevents : s₂.events = s.events := events_of_grants (by rw [hb]; exact hf)
    refine ⟨event, ?_, congrArg (· ++ [event]) hevents⟩
    rw [(event_records he).eventType, Verb.acceptedType, Verb.name_of_ofName? (admit_ok h).verb]

/-- A call that raised appended none. -/
theorem step_rejected (hr : returned (k.submit c s) = false) :
    (k.step s c).events = s.events := by
  cases h : k.admit s c with
  | error r => exact (step_idle h).events
  | ok a =>
    have hpasses := submit_passes h
    unfold Kernel.step
    generalize k.submit c s = r at hpasses hr ⊢
    cases hpasses with
    | branchRaised hb | grantUnread hb =>
      have hevents := branch_events k s c a.verb
      rw [hb] at hevents
      exact hevents
    | @grantRaised u s₁ s₂ gs e hb hg hgr =>
      have hf : GrantFrame gs s₁ (final (grantAll gs s₁)) := keeps_grantAll gs (fun g h => h) s₁
      rw [hgr] at hf
      exact events_of_grants (by rw [hb]; exact hf)
    | @unhashed u s₁ s₂ gs e hb hg hgr he =>
      have hf : GrantFrame gs s₁ (final (grantAll gs s₁)) := keeps_grantAll gs (fun g h => h) s₁
      rw [hgr] at hf
      exact events_of_grants (by rw [hb]; exact hf)
    | accepted => cases hr

/-- What a call does to the events, with the updates its branch returned. -/
theorem step_appended (k : Kernel) (s : KernelState) (c : Command) :
    (k.step s c).events = s.events ∨
      ∃ a u s₁ s₂ event, k.admit s c = .ok a ∧ branch k c a.verb s.tick = .ok u s₁ ∧
        k.event c a u s₂ = .ok event ∧ (k.step s c).events = s.events ++ [event] := by
  cases h : k.admit s c with
  | error r => exact .inl (step_idle h).events
  | ok a =>
    cases hr : returned (k.submit c s) with
    | false => exact .inl (step_rejected hr)
    | true =>
      right
      have hpasses := submit_passes h
      unfold Kernel.step
      generalize k.submit c s = r at hpasses hr ⊢
      cases hpasses with
      | branchRaised | grantUnread | grantRaised | unhashed => cases hr
      | @accepted u s₁ s₂ gs event hb hg hgr he =>
        have hf : GrantFrame gs s₁ (final (grantAll gs s₁)) := keeps_grantAll gs (fun g h => h) s₁
        rw [hgr] at hf
        have hevents : s₂.events = s.events := events_of_grants (by rw [hb]; exact hf)
        exact ⟨a, u, s₁, s₂, event, rfl, hb, he, congrArg (· ++ [event]) hevents⟩

/-- A call whose command is not admitted raises. -/
theorem returned_submit_refused {r : Refusal} (h : k.admit s c = .error r) :
    returned (k.submit c s) = false := by
  cases r with
  | raised e => rw [submit_raised h]; rfl
  | denied reason missing =>
    rw [submit_denied h]
    unfold deny
    by_cases hr : reason = .oracleBoundary
    · rw [if_pos hr]; rfl
    · rw [if_neg hr]; rfl

/-- After the grants of an admitted call its actor still has an entry. -/
theorem seated_of_grants {a : Admission} (h : k.admit s c = .ok a) {u : Updates}
    {s₁ s₂ : KernelState} {gs : List Grant} (hb : branch k c a.verb s.tick = .ok u s₁)
    (hr : grantAll gs s₁ = .ok () s₂) : Seated s₂ c.actorId := by
  obtain ⟨p, hp⟩ := branch_final k s c a.verb
  rw [hb] at hp
  have hactor : Seated s₁ c.actorId := by
    rw [show s₁ = _ from hp]
    exact (admit_ok h).seated
  have hf : GrantFrame gs s₁ (final (grantAll gs s₁)) := keeps_grantAll gs (fun g h => h) s₁
  rw [hr] at hf
  exact (hf.seated _).2 hactor

/-- After the grants of an admitted call its event exists exactly when it can be hashed. -/
theorem event_of_grants_iff {a : Admission} (h : k.admit s c = .ok a) {u : Updates}
    {s₁ s₂ : KernelState} {gs : List Grant} (hb : branch k c a.verb s.tick = .ok u s₁)
    (hr : grantAll gs s₁ = .ok () s₂) :
    (∃ event, k.event c a u s₂ = .ok event) ↔ k.Hashable s.projection c a.verb := by
  have hactor := (seated_of_grants h hb hr).2
  rw [event_ok_iff, and_iff_right hactor, writable_branch hb]
  exact Iff.rfl

/-- **When an admitted call returns.** -/
theorem returned_submit_iff {a : Admission} (h : k.admit s c = .ok a) :
    returned (k.submit c s) = true ↔
      returned (branch k c a.verb s.tick) = true ∧
        (∃ gs, grantsOf c a.verb = .ok gs ∧ ∀ g ∈ gs, Seated s g.actorId) ∧
        k.Hashable s.projection c a.verb := by
  obtain ⟨p, hp⟩ := branch_final k s c a.verb
  have hseated (x : String) : Seated (final (branch k c a.verb s.tick)) x ↔ Seated s x := by
    rw [hp]; exact Iff.rfl
  have hpasses := submit_passes h
  generalize k.submit c s = r at hpasses ⊢
  cases hpasses with
  | branchRaised hb =>
    rw [hb]
    exact ⟨fun hf => (nomatch hf), fun hf => (nomatch hf.1)⟩
  | grantUnread hb hg =>
    refine ⟨fun hf => (nomatch hf), ?_⟩
    rintro ⟨-, ⟨gs, hgs, -⟩, -⟩
    rw [hg] at hgs; cases hgs
  | @grantRaised u s₁ s₂ gs e hb hg hr =>
    refine ⟨fun hf => (nomatch hf), ?_⟩
    rintro ⟨-, ⟨gs', hgs, hall⟩, -⟩
    rw [hg] at hgs
    cases hgs
    rw [hb] at hseated
    have hret := returned_grantAll.2 fun g hg => (hseated _).2 (hall g hg)
    rw [final_ok, hr] at hret
    cases hret
  | @unhashed u s₁ s₂ gs e hb hg hr he =>
    refine ⟨fun hf => (nomatch hf), ?_⟩
    rintro ⟨-, -, hhashable⟩
    obtain ⟨event, hev⟩ := (event_of_grants_iff h hb hr).2 hhashable
    rw [hev] at he; cases he
  | @accepted u s₁ s₂ gs event hb hg hr he =>
    refine ⟨fun _ => ⟨by rw [hb]; rfl, ⟨gs, hg, fun g hmem => ?_⟩, ?_⟩, fun _ => rfl⟩
    · rw [hb] at hseated
      exact (hseated _).1 (returned_grantAll.1 (by rw [final_ok, hr]; rfl) g hmem)
    · exact (event_of_grants_iff h hb hr).1 ⟨event, he⟩

end

end LawFirmDigitalTwin
