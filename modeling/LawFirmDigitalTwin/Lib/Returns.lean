import LawFirmDigitalTwin.Lib.Raising

/-!
# Computations that return

`Returns x` says that a computation that may raise does not. It follows the computation's syntax:
what is bound returns when both parts do, and a loop when every pass does.
-/

namespace Raising

variable {ε α β : Type}

/-- A computation that returns. -/
def Returns (x : Except ε α) : Prop := ∃ a, x = .ok a

@[simp] theorem returns_ok (a : α) : Returns (.ok a : Except ε α) := ⟨a, rfl⟩

@[simp] theorem not_returns_error (e : ε) : ¬ Returns (.error e : Except ε α) := by
  rintro ⟨a, h⟩
  cases h

@[simp] theorem returns_pure (a : α) : Returns (pure a : Except ε α) := ⟨a, rfl⟩

/-- A sequence returns where its parts do. -/
theorem returns_bind {x : Except ε α} {f : α → Except ε β} :
    Returns (x >>= f) ↔ ∃ a, x = .ok a ∧ Returns (f a) := by
  cases x with
  | error e => simp
  | ok a => simp

/-- What follows returns or not whatever the first part returned. -/
theorem returns_bind_of_iff {x : Except ε α} {f : α → Except ε β} {P : Prop}
    (h : ∀ a, x = .ok a → (Returns (f a) ↔ P)) : Returns (x >>= f) ↔ Returns x ∧ P := by
  rw [returns_bind]
  constructor
  · rintro ⟨a, ha, hf⟩
    exact ⟨⟨a, ha⟩, (h a ha).1 hf⟩
  · rintro ⟨⟨a, ha⟩, hP⟩
    exact ⟨a, ha, (h a ha).2 hP⟩

/-- What follows returns whatever the first part returned. -/
theorem returns_bind_of_forall {x : Except ε α} {f : α → Except ε β} (h : ∀ a, Returns (f a)) :
    Returns (x >>= f) ↔ Returns x :=
  (returns_bind_of_iff fun a _ => iff_true_intro (h a)).trans (and_iff_left trivial)

@[simp] theorem returns_map {f : α → β} {x : Except ε α} : Returns (x.map f) ↔ Returns x := by
  cases x with
  | error e => exact iff_of_false (not_returns_error e) (not_returns_error e)
  | ok a => exact iff_of_true ⟨f a, rfl⟩ ⟨a, rfl⟩

/-- A loop returns when every pass does. -/
theorem returns_mapM {f : α → Except ε β} {xs : List α} :
    Returns (xs.mapM f) ↔ ∀ x ∈ xs, Returns (f x) := by
  induction xs with
  | nil => exact iff_of_true ⟨[], rfl⟩ (List.forall_mem_nil _)
  | cons x xs ih =>
    rw [List.mapM_cons, List.forall_mem_cons, ← ih]
    exact returns_bind_of_iff fun y _ => returns_bind_of_forall fun ys => returns_pure _

/-- A loop over what reports lists returns, and reports nothing, when every pass does. -/
theorem mapM_flatten_eq_nil {f : α → Except ε (List β)} {xs : List α} :
    (∃ ys, xs.mapM f = .ok ys ∧ ys.flatten = []) ↔ ∀ x ∈ xs, f x = .ok [] := by
  induction xs with
  | nil => exact iff_of_true ⟨[], rfl, rfl⟩ (List.forall_mem_nil _)
  | cons x xs ih =>
    rw [List.mapM_cons, List.forall_mem_cons, ← ih]
    constructor
    · rintro ⟨ys, hys, hflat⟩
      obtain ⟨y, hy, hys⟩ := except_bind_eq_ok.1 hys
      obtain ⟨rest, hrest, hys⟩ := except_bind_eq_ok.1 hys
      cases hys
      obtain ⟨rfl, hflat⟩ := List.append_eq_nil_iff.1 hflat
      exact ⟨hy, rest, hrest, hflat⟩
    · rintro ⟨hx, ys, hys, hflat⟩
      refine ⟨[] :: ys, ?_, hflat⟩
      rw [hx, hys]
      rfl

/-- Parts collected one after the other return where each of them does. -/
theorem returns_collect {parts : List (Except ε (List α))} :
    Returns (collect parts) ↔ ∀ part ∈ parts, Returns part := by
  induction parts with
  | nil => exact iff_of_true ⟨[], rfl⟩ (List.forall_mem_nil _)
  | cons part parts ih =>
    rw [collect, List.forall_mem_cons, ← ih]
    exact returns_bind_of_iff fun y _ => returns_bind_of_forall fun ys => returns_pure _

end Raising
