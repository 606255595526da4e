import LawFirmDigitalTwin.Lib.Raising

/-!
# Two programs side by side

A relational Hoare logic for programs that may raise. `Related R V m n` says that from states
related by `R`, both programs return values related by `V` or both raise the same exception, and end
in related states. The rules follow the syntax the two programs share.
-/

namespace Raising

variable {ε σ τ α β γ δ : Type}

/-- Two outcomes of a computation without a state: related values, or the same exception. -/
inductive ExceptRel (V : α → β → Prop) : Except ε α → Except ε β → Prop
  | ok {a : α} {b : β} (h : V a b) : ExceptRel V (.ok a) (.ok b)
  | error (e : ε) : ExceptRel V (.error e) (.error e)

/-- Two ends of a run: related values, or the same exception; and related states. -/
inductive ResultRel (R : σ → τ → Prop) (V : α → β → Prop) :
    EStateM.Result ε σ α → EStateM.Result ε τ β → Prop
  | ok {a : α} {b : β} {s : σ} {t : τ} (hV : V a b) (hR : R s t) : ResultRel R V (.ok a s) (.ok b t)
  | error {e : ε} {s : σ} {t : τ} (hR : R s t) : ResultRel R V (.error e s) (.error e t)

/-- From related states the programs end alike. -/
def Related (R : σ → τ → Prop) (V : α → β → Prop) (m : EStateM ε σ α) (n : EStateM ε τ β) : Prop :=
  ∀ s t, R s t → ResultRel R V (m s) (n t)

section
variable {R : σ → τ → Prop} {V : α → β → Prop} {W : γ → δ → Prop}

/-- A result is related to itself by equality. -/
theorem ExceptRel.refl (x : Except ε α) : ExceptRel Eq x x := by
  cases x with
  | ok a => exact .ok rfl
  | error e => exact .error e

/-- What is related to a value is a related value. -/
theorem ExceptRel.exists_ok {a : α} {y : Except ε β} (h : ExceptRel V (.ok a) y) :
    ∃ b, y = .ok b ∧ V a b := by
  cases h with
  | ok h => exact ⟨_, rfl, h⟩

/-- Sequences of related results are related. -/
theorem ExceptRel.bind {x : Except ε α} {y : Except ε β} {f : α → Except ε γ} {g : β → Except ε δ}
    (h : ExceptRel V x y) (hk : ∀ a b, V a b → ExceptRel W (f a) (g b)) :
    ExceptRel W (x >>= f) (y >>= g) := by
  cases h with
  | ok h => exact hk _ _ h
  | error e => exact .error e

/-- Two computations that start alike. -/
theorem ExceptRel.bind_same {α : Type} (x : Except ε α) {f : α → Except ε γ} {g : α → Except ε δ}
    (hk : ∀ a, ExceptRel W (f a) (g a)) : ExceptRel W (x >>= f) (x >>= g) := by
  cases x with
  | ok a => exact hk a
  | error e => exact .error e

/-- Related results leave related states. -/
theorem ResultRel.final {r : EStateM.Result ε σ α} {r' : EStateM.Result ε τ β}
    (h : ResultRel R V r r') : R (final r) (final r') := by
  cases h with
  | ok _ hR => exact hR
  | error hR => exact hR

/-- Of related results both have returned or neither. -/
theorem ResultRel.returned {r : EStateM.Result ε σ α} {r' : EStateM.Result ε τ β}
    (h : ResultRel R V r r') : returned r = returned r' := by
  cases h <;> rfl

/-- Related values that are returned at once. -/
theorem Related.pure {a : α} {b : β} (h : V a b) :
    Related R V (Pure.pure a : EStateM ε σ α) (Pure.pure b : EStateM ε τ β) :=
  fun _ _ hR => .ok h hR

/-- Raising the same is related. -/
theorem Related.throw (e : ε) :
    Related R V (MonadExcept.throw e : EStateM ε σ α) (MonadExcept.throw e : EStateM ε τ β) :=
  fun _ _ hR => .error hR

/-- Reading related states. -/
theorem Related.get : Related R R (MonadState.get : EStateM ε σ σ) (MonadState.get : EStateM ε τ τ) :=
  fun _ _ hR => .ok hR hR

/-- Related computations without state. -/
theorem Related.attempt {x : Except ε α} {y : Except ε β} (h : ExceptRel V x y) :
    Related R V (Raising.attempt x : EStateM ε σ α) (Raising.attempt y : EStateM ε τ β) := by
  cases h with
  | ok h => exact .pure h
  | error e => exact .throw e

/-- A computation without state is the same in both runs. -/
theorem Related.attempt_self (x : Except ε α) :
    Related R Eq (Raising.attempt x : EStateM ε σ α) (Raising.attempt x : EStateM ε τ α) :=
  .attempt (.refl x)

/-- A check on the same condition is the same in both runs. -/
theorem Related.raiseIf (cond : Except ε Bool) (e : ε) :
    Related R Eq (Raising.raiseIf cond e : EStateM ε σ Unit)
      (Raising.raiseIf cond e : EStateM ε τ Unit) := by
  rcases cond with e' | b
  · exact .throw e'
  · cases b with
    | true => exact .throw e
    | false => exact .pure rfl

/-- Updates that keep states related. -/
theorem Related.modify {f : σ → σ} {g : τ → τ} (h : ∀ s t, R s t → R (f s) (g t)) :
    Related R Eq (modify f : EStateM ε σ PUnit) (modify g : EStateM ε τ PUnit) :=
  fun s t hR => .ok rfl (h s t hR)

/-- Updates that may raise, and keep states related where they do not. -/
theorem Related.assign {f : σ → Except ε σ} {g : τ → Except ε τ}
    (h : ∀ s t, R s t → ExceptRel R (f s) (g t)) :
    Related R Eq (Raising.assign f : EStateM ε σ Unit) (Raising.assign g : EStateM ε τ Unit) := by
  intro s t hR
  rw [assign_run, assign_run]
  have hst := h s t hR
  generalize f s = x at hst
  generalize g t = y at hst
  cases hst with
  | ok h => exact .ok rfl h
  | error e => exact .error hR

/-- One program over a part of the state that the two states share. -/
theorem Related.zoom {ρ : Type} {read : σ → ρ} {write : ρ → σ → σ} {read' : τ → ρ}
    {write' : ρ → τ → τ} (hread : ∀ s t, R s t → read s = read' t)
    (hwrite : ∀ s t r, R s t → R (write r s) (write' r t)) (m : EStateM ε ρ α) :
    Related R Eq (Raising.zoom read write m) (Raising.zoom read' write' m) := by
  intro s t hR
  unfold Raising.zoom
  rw [hread s t hR]
  cases m (read' t) with
  | ok a r => exact .ok rfl (hwrite s t r hR)
  | error e r => exact .error (hwrite s t r hR)

/-- Sequences of related programs are related. -/
theorem Related.bind {m : EStateM ε σ α} {n : EStateM ε τ β} {k : α → EStateM ε σ γ}
    {l : β → EStateM ε τ δ} (hm : Related R V m n) (hk : ∀ a b, V a b → Related R W (k a) (l b)) :
    Related R W (m >>= k) (n >>= l) := by
  intro s t hR
  rw [bind_run, bind_run]
  have hst := hm s t hR
  generalize m s = r at hst
  generalize n t = r' at hst
  cases hst with
  | ok hV hR' => exact hk _ _ hV _ _ hR'
  | error hR' => exact .error hR'

/-- Programs that hand on the same value. -/
theorem Related.bind_eq {m : EStateM ε σ α} {n : EStateM ε τ α} {k : α → EStateM ε σ γ}
    {l : α → EStateM ε τ δ} (hm : Related R Eq m n) (hk : ∀ a, Related R W (k a) (l a)) :
    Related R W (m >>= k) (n >>= l) := by
  refine hm.bind fun a b h => ?_
  cases h
  exact hk a

/-- What is returned may be related more weakly. -/
theorem Related.mono {V' : α → β → Prop} {m : EStateM ε σ α} {n : EStateM ε τ β}
    (h : Related R V m n) (hV : ∀ a b, V a b → V' a b) : Related R V' m n := by
  intro s t hR
  have hst := h s t hR
  generalize m s = r at hst
  generalize n t = r' at hst
  cases hst with
  | ok h hR' => exact .ok (hV _ _ h) hR'
  | error hR' => exact .error hR'

end

end Raising
