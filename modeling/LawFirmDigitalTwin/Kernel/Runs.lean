import LawFirmDigitalTwin.Kernel.Steps
import LawFirmDigitalTwin.Lib.Run
import LawFirmDigitalTwin.Lib.Trace

/-!
# Runs of the kernel

Facts about every run, whatever its commands are: each actor of the bundle keeps its entries in the
dictionaries of tokens, and over a built bundle the actors that are granted tokens are among them,
so that a grant never fails. `Happened` says that a verb was accepted in the past.
-/

namespace LawFirmDigitalTwin

open Raising

section
variable {k : Kernel} {s : KernelState} {c : Command}

/-- Every actor of the bundle has an entry in both dictionaries of tokens. -/
def AllSeated (k : Kernel) (s : KernelState) : Prop :=
  ∀ id, (k.bundle.matter.actors.get? id).isSome = true → Seated s id

/-- In the beginning all actors are seated. -/
theorem allSeated_initial (k : Kernel) : AllSeated k k.initial := by
  intro id h
  constructor <;> simpa [Kernel.initial] using h

/-- A step seats nobody and unseats nobody. -/
theorem seated_step (id : String) : Seated (k.step s c) id ↔ Seated s id := by
  unfold Seated
  cases h : k.admit s c with
  | error r =>
    have hi := step_idle h
    rw [hi.authority, hi.knowledge]
  | ok a =>
    obtain ⟨gs, -, ha, hk⟩ := (step_effect h).tokens
    rw [ha.keys, hk.keys]

/-- All actors stay seated. -/
theorem AllSeated.step (h : AllSeated k s) : AllSeated k (k.step s c) :=
  fun id hid => (seated_step id).2 (h id hid)

/-- A part of the projection changes only in a call whose command is admitted and whose verb writes
it; denials count the attempts to read the oracle. -/
theorem step_part (k : Kernel) (s : KernelState) (c : Command) (part : Part)
    (hpart : part ≠ .oracleAccess) :
    part.Same s.projection (k.step s c).projection ∨
      ∃ a, k.admit s c = .ok a ∧ part ∈ writes a.verb := by
  cases h : k.admit s c with
  | error r =>
    left
    rw [(step_idle h).projection]
    cases part with
    | oracleAccess => exact absurd rfl hpart
    | _ => simp [Part.Same]
  | ok a =>
    by_cases hw : part ∈ writes a.verb
    · exact .inr ⟨a, rfl, hw⟩
    · exact .inl ((step_effect h).frame part hw)

/-! ## Past events -/

/-- An event of an accepted command with this verb. -/
def Accepted (v : Verb) (e : Event) : Prop := e.eventType = v.acceptedType

instance (v : Verb) (e : Event) : Decidable (Accepted v e) :=
  inferInstanceAs (Decidable (_ = _))

/-- An event accepts one verb. -/
theorem Accepted.verb_eq {v w : Verb} {e : Event} (hv : Accepted v e) (hw : Accepted w e) :
    v = w :=
  Verb.acceptedType_injective (hv.symm.trans hw)

/-- A command with this verb was accepted in the past. -/
def Happened (v : Verb) (s : KernelState) : Prop := ∃ e ∈ s.events, Accepted v e

/-- What a call does to the events. -/
theorem step_events (k : Kernel) (s : KernelState) (c : Command) :
    (returned (k.submit c s) = false ∧ (k.step s c).events = s.events) ∨
      ∃ a e, k.admit s c = .ok a ∧ returned (k.submit c s) = true ∧ Accepted a.verb e ∧
        (k.step s c).events = s.events ++ [e] := by
  cases hr : returned (k.submit c s) with
  | false => exact .inl ⟨rfl, step_rejected hr⟩
  | true =>
    cases h : k.admit s c with
    | error r => rw [returned_submit_refused h] at hr; cases hr
    | ok a =>
      obtain ⟨e, he, hevents⟩ := step_accepted h hr
      exact .inr ⟨a, e, rfl, rfl, he, hevents⟩

/-- What has happened stays so. -/
theorem Happened.step {v : Verb} (h : Happened v s) : Happened v (k.step s c) := by
  obtain ⟨e, he, hv⟩ := h
  rcases step_events k s c with ⟨-, hevents⟩ | ⟨a, e', -, -, -, hevents⟩
  · exact ⟨e, by rw [hevents]; exact he, hv⟩
  · exact ⟨e, by rw [hevents]; exact List.mem_append_left _ he, hv⟩

/-- A call that returns has happened. -/
theorem happened_of_returned {a : Admission} (h : k.admit s c = .ok a)
    (hr : returned (k.submit c s) = true) : Happened a.verb (k.step s c) := by
  obtain ⟨e, he, hevents⟩ := step_accepted h hr
  exact ⟨e, by rw [hevents]; exact List.mem_append_right _ (.head _), he⟩

/-- A trace property that only accepted commands can break. -/
theorem precedes_step {A B : Verb} (h : Trace.Precedes s.events (Accepted A) (Accepted B))
    (hB : ∀ a, k.admit s c = .ok a → a.verb = B → returned (k.submit c s) = true →
      Happened A s) :
    Trace.Precedes (k.step s c).events (Accepted A) (Accepted B) := by
  rcases step_events k s c with ⟨-, hevents⟩ | ⟨a, e, ha, hr, he, hevents⟩
  · rw [hevents]; exact h
  · rw [hevents]
    exact Trace.precedes_concat.2 ⟨h, fun hBe => hB a ha (he.verb_eq hBe) hr⟩

end

/-! ## Runs over a built bundle -/

section
variable {k : Kernel} {s : KernelState} {c : Command} (hk : k.bundle.Employment)

/-- The actors that are granted tokens are among the personas. -/
theorem grantee_mem {v : Verb} {gs : List Grant} (h : grantsOf c v = .ok gs) :
    ∀ g ∈ gs, (buildPersonas.get? g.actorId).isSome = true := by
  cases v with
  | recordLawyerGate =>
    simp only [grantsOf] at h
    cases ht : c.text "grants" with
    | error e => rw [ht] at h; cases h
    | ok t =>
      rw [ht] at h
      cases h
      intro g hg
      rw [List.mem_singleton.1 hg]
      show (buildPersonas.get? "responsible_lawyer").isSome = true
      decide
  | _ =>
    cases h
    decide

include hk

/-- The authority an actor starts with is its persona's. -/
theorem initial_authority {id token : String} (h : token ∈ tokens k.initial.authority id) :
    ∃ e ∈ personaEntries, e.1 = id ∧ token ∈ e.2.initialAuthority := by
  rw [Kernel.initial, tokens, PyDict.get?_mapValues, hk.actors] at h
  cases hp : buildPersonas.get? id with
  | none => rw [hp] at h; cases h
  | some p =>
    rw [hp] at h
    exact ⟨(id, p), mem_personaEntries hp, rfl, List.mem_toFinset.1 h⟩

/-- The knowledge an actor starts with is its persona's. -/
theorem initial_knowledge {id token : String} (h : token ∈ tokens k.initial.knowledge id) :
    ∃ e ∈ personaEntries, e.1 = id ∧ token ∈ e.2.initialKnowledge := by
  rw [Kernel.initial, tokens, PyDict.get?_mapValues, hk.actors] at h
  cases hp : buildPersonas.get? id with
  | none => rw [hp] at h; cases h
  | some p =>
    rw [hp] at h
    exact ⟨(id, p), mem_personaEntries hp, rfl, List.mem_toFinset.1 h⟩

/-- Over a built bundle every grant of an admitted command finds its actor. -/
theorem grants_seated (hs : AllSeated k s) {v : Verb} {gs : List Grant}
    (h : grantsOf c v = .ok gs) : ∀ g ∈ gs, Seated s g.actorId := by
  intro g hg
  refine hs g.actorId ?_
  rw [hk.actors]
  exact grantee_mem h g hg

/-- When an admitted call returns, over a built bundle. -/
theorem returned_submit_employment (hs : AllSeated k s) {a : Admission} (h : k.admit s c = .ok a) :
    returned (k.submit c s) = true ↔
      returned (branch k c a.verb s.tick) = true ∧ (∃ gs, grantsOf c a.verb = .ok gs) ∧
        k.Hashable s.projection c a.verb := by
  rw [returned_submit_iff h]
  refine and_congr_right fun _ => and_congr_left fun _ => ?_
  exact ⟨fun ⟨gs, hg, _⟩ => ⟨gs, hg⟩, fun ⟨gs, hg⟩ => ⟨gs, hg, grants_seated hk hs hg⟩⟩

/-- The persona of an actor that passed the role check of a verb. -/
theorem Admitted.persona {v : Verb} (h : Admitted k s c v) :
    ∃ e ∈ personaEntries, e.1 = c.actorId ∧ e.2.roleId ∈ (verbPolicy v).roles := by
  obtain ⟨p, hp, hrole⟩ := h.profile
  rw [hk.actors] at hp
  exact ⟨(c.actorId, p), mem_personaEntries hp, rfl, hrole⟩

end

end LawFirmDigitalTwin
