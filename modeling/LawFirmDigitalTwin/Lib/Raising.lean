import Mathlib.Data.List.Forall2

/-!
# Stateful programs that may raise

A program of an imperative language with exceptions is an `EStateM ε σ α`: it reads and writes a
state and either returns or raises, and the state it had reached when it raised stays
(`EStateM.Result.error` carries it). The primitives are reads, writes, checks (`raiseIf`),
assignments whose right-hand side may raise (`assign`) and programs over a part of the state
(`zoom`). `Keeps R m` relates the state before `m` to the state after it however `m` ends, for a
preorder `R`; it follows the program's syntax. `returned_bind_iff` and `bind_eq_ok` take the runs
that return apart.
-/

namespace Raising

variable {ε σ α β : Type}

/-- The state a run ends in, returned or raised. -/
def final : EStateM.Result ε σ α → σ
  | .ok _ s => s
  | .error _ s => s

@[simp] theorem final_ok (a : α) (s : σ) : final (.ok a s : EStateM.Result ε σ α) = s := rfl
@[simp] theorem final_error (e : ε) (s : σ) : final (.error e s : EStateM.Result ε σ α) = s := rfl

/-- Whether a run returned. -/
def returned : EStateM.Result ε σ α → Bool
  | .ok _ _ => true
  | .error _ _ => false

@[simp] theorem returned_ok (a : α) (s : σ) :
    returned (.ok a s : EStateM.Result ε σ α) = true := rfl
@[simp] theorem returned_error (e : ε) (s : σ) :
    returned (.error e s : EStateM.Result ε σ α) = false := rfl

/-! ## Running the primitives -/

@[simp] theorem ok_bind (a : α) (f : α → Except ε β) : (Except.ok a >>= f) = f a := rfl

@[simp] theorem error_bind (e : ε) (f : α → Except ε β) : (Except.error e >>= f) = .error e := rfl

@[simp] theorem pure_eq_ok (a : α) : (pure a : Except ε α) = .ok a := rfl

/-- A program returns where its first part returns and the rest does on what that gave. -/
theorem except_bind_eq_ok {x : Except ε α} {f : α → Except ε β} {b : β} :
    (x >>= f) = .ok b ↔ ∃ a, x = .ok a ∧ f a = .ok b := by
  cases x <;> simp

/-- A program that checks only, before the rest. -/
theorem except_seq_eq_ok {x : Except ε Unit} {y : Except ε β} {b : β} :
    (x >>= fun _ => y) = .ok b ↔ x = .ok () ∧ y = .ok b := by
  rw [except_bind_eq_ok]
  exact ⟨fun ⟨_, hx, hy⟩ => ⟨hx, hy⟩, fun ⟨hx, hy⟩ => ⟨(), hx, hy⟩⟩

/-- A check that raises, before the rest. -/
theorem except_throw_if_eq_ok {P : Prop} [Decidable P] {e : ε} {x : Except ε α} {a : α} :
    (do if P then throw e
        x) = .ok a ↔ ¬ P ∧ x = .ok a := by
  by_cases h : P
  · rw [if_pos h]
    exact iff_of_false (fun he => by cases he) fun hx => hx.1 h
  · rw [if_neg h]
    exact ⟨fun hx => ⟨h, hx⟩, fun hx => hx.2⟩

/-- A check that raises, with nothing after it. -/
theorem except_throw_last_eq_ok {P : Prop} [Decidable P] {e : ε} :
    (if P then throw e else pure () : Except ε Unit) = .ok () ↔ ¬ P := by
  by_cases h : P
  · rw [if_pos h]
    exact iff_of_false (fun he => by cases he) (not_not_intro h)
  · rw [if_neg h]
    exact iff_of_true rfl h

/-- What a loop collects, item by item. -/
theorem except_mapM_eq_ok {f : α → Except ε β} {xs : List α} {ys : List β} :
    xs.mapM f = .ok ys ↔ List.Forall₂ (fun x y => f x = .ok y) xs ys := by
  induction xs generalizing ys with
  | nil =>
    rw [List.mapM_nil, List.forall₂_nil_left_iff]
    exact ⟨fun h => (Except.ok.inj h).symm, fun h => congrArg Except.ok h.symm⟩
  | cons x xs ih =>
    rw [List.mapM_cons]
    simp only [except_bind_eq_ok, ih, List.forall₂_cons_left_iff]
    constructor
    · rintro ⟨y, hy, ys', hys, h⟩
      exact ⟨y, ys', hy, hys, (Except.ok.inj h).symm⟩
    · rintro ⟨y, ys', hy, hys, rfl⟩
      exact ⟨y, hy, ys', hys, rfl⟩

/-- A loop whose body returns for every item returns, and what is read off what it collects is read
off item by item. -/
theorem except_mapM_map_eq {γ : Type} {f : α → Except ε β} {g : β → γ} {k : α → γ}
    {xs : List α} (h : ∀ x ∈ xs, ∃ y, f x = .ok y ∧ g y = k x) :
    ∃ ys, xs.mapM f = .ok ys ∧ ys.map g = xs.map k := by
  induction xs with
  | nil => exact ⟨[], rfl, rfl⟩
  | cons x xs ih =>
    obtain ⟨y, hy, hread⟩ := h x (.head _)
    obtain ⟨ys, hys, hmap⟩ := ih fun x' hx' => h x' (.tail _ hx')
    refine ⟨y :: ys, except_mapM_eq_ok.2 (.cons hy (except_mapM_eq_ok.1 hys)), ?_⟩
    rw [List.map_cons, List.map_cons, hread, hmap]

/-- A loop that collects nothing returns where its body does for every item. -/
theorem except_forM_eq_ok {f : α → Except ε Unit} {xs : List α} :
    xs.forM f = .ok () ↔ ∀ x ∈ xs, f x = .ok () := by
  rw [List.forM_eq_forM]
  induction xs with
  | nil => exact iff_of_true rfl nofun
  | cons x xs ih =>
    rw [List.forM_cons, except_bind_eq_ok, List.forall_mem_cons, ih]
    exact ⟨fun ⟨_, hx, hxs⟩ => ⟨hx, hxs⟩, fun ⟨hx, hxs⟩ => ⟨(), hx, hxs⟩⟩

/-- What a loop collects, one of its items gave. -/
theorem mem_of_except_mapM {f : α → Except ε β} {xs : List α} {ys : List β}
    (h : xs.mapM f = .ok ys) (y : β) : y ∈ ys ↔ ∃ x ∈ xs, f x = .ok y := by
  induction except_mapM_eq_ok.1 h with
  | nil => simp
  | @cons x y' xs ys hx _ ih =>
    have hy : f x = .ok y ↔ y = y' := by
      rw [hx, Except.ok.injEq, eq_comm]
    rw [List.mem_cons, List.exists_mem_cons_iff, hy]
    exact or_congr_right (ih (except_mapM_eq_ok.2 ‹_›))

/-- What a loop raises, one of its items raised. -/
theorem except_mapM_eq_error {f : α → Except ε β} {xs : List α} {e : ε}
    (h : xs.mapM f = .error e) : ∃ x ∈ xs, f x = .error e := by
  induction xs with
  | nil => cases h
  | cons x xs ih =>
    rw [List.mapM_cons] at h
    cases hx : f x with
    | error e' =>
      rw [hx] at h
      cases h
      exact ⟨x, .head _, hx⟩
    | ok y =>
      rw [hx] at h
      cases hxs : xs.mapM f with
      | error e' =>
        rw [hxs] at h
        cases h
        obtain ⟨x', hx', he⟩ := ih hxs
        exact ⟨x', List.mem_cons_of_mem _ hx', he⟩
      | ok ys => rw [hxs] at h; cases h

@[simp] theorem pure_run (a : α) (s : σ) : (pure a : EStateM ε σ α) s = .ok a s := rfl

@[simp] theorem throw_run (e : ε) (s : σ) : (throw e : EStateM ε σ α) s = .error e s := rfl

@[simp] theorem get_run (s : σ) : (get : EStateM ε σ σ) s = .ok s s := rfl

@[simp] theorem modify_run (f : σ → σ) (s : σ) :
    (modify f : EStateM ε σ PUnit) s = .ok ⟨⟩ (f s) := rfl

/-- A sequence runs the rest on the state that its first part leaves. -/
theorem bind_run (m : EStateM ε σ α) (k : α → EStateM ε σ β) (s : σ) :
    (m >>= k) s = match m s with
      | .ok a s' => k a s'
      | .error e s' => .error e s' := rfl

/-- A mapped program runs as before and maps what it returns. -/
theorem map_run (f : α → β) (m : EStateM ε σ α) (s : σ) :
    (f <$> m) s = match m s with
      | .ok a s' => .ok (f a) s'
      | .error e s' => .error e s' := rfl

/-- After a part that returns, the rest runs. -/
theorem bind_run_ok {m : EStateM ε σ α} {s s' : σ} {a : α} (h : m s = .ok a s')
    (k : α → EStateM ε σ β) : (m >>= k) s = k a s' := by
  rw [bind_run, h]

/-- A part that raises ends the program, in the state it has left. -/
theorem bind_run_error {m : EStateM ε σ α} {s s' : σ} {e : ε} (h : m s = .error e s')
    (k : α → EStateM ε σ β) : (m >>= k) s = .error e s' := by
  rw [bind_run, h]

/-- A value that was computed without touching the state, or the error it raised. -/
def attempt : Except ε α → EStateM ε σ α
  | .ok a => pure a
  | .error e => throw e

@[simp] theorem attempt_ok (a : α) (s : σ) : (attempt (.ok a) : EStateM ε σ α) s = .ok a s := rfl

@[simp] theorem attempt_error (e : ε) (s : σ) :
    (attempt (.error e) : EStateM ε σ α) s = .error e s := rfl

/-- `if cond: raise e`, where evaluating `cond` may itself raise. -/
def raiseIf (cond : Except ε Bool) (e : ε) : EStateM ε σ Unit := do
  if ← attempt cond then throw e

@[simp] theorem raiseIf_true (e : ε) (s : σ) :
    (raiseIf (.ok true) e : EStateM ε σ Unit) s = .error e s := rfl

@[simp] theorem raiseIf_false (e : ε) (s : σ) :
    (raiseIf (.ok false) e : EStateM ε σ Unit) s = .ok () s := rfl

@[simp] theorem raiseIf_error (e e' : ε) (s : σ) :
    (raiseIf (.error e') e : EStateM ε σ Unit) s = .error e' s := rfl

/-- An assignment whose right-hand side reads the state and may raise. -/
def assign (f : σ → Except ε σ) : EStateM ε σ Unit := do
  set (← attempt (f (← get)))

/-- An update that may raise leaves the state alone where it does. -/
theorem assign_run (f : σ → Except ε σ) (s : σ) :
    (assign f : EStateM ε σ Unit) s = match f s with
      | .ok s' => .ok () s'
      | .error e => .error e s := by
  have hb : (assign f : EStateM ε σ Unit) s = (attempt (f s) >>= set) s := rfl
  rw [hb]
  cases f s <;> rfl

/-- An update that does not raise replaces the state. -/
theorem assign_ok {f : σ → Except ε σ} {s s' : σ} (h : f s = .ok s') :
    (assign f : EStateM ε σ Unit) s = .ok () s' := by
  rw [assign_run, h]

/-- An update that raises leaves the state as it was. -/
theorem assign_error {f : σ → Except ε σ} {s : σ} {e : ε} (h : f s = .error e) :
    (assign f : EStateM ε σ Unit) s = .error e s := by
  rw [assign_run, h]

/-! The state a program ends in, from its first primitive. -/

/-- Reading the state does not change what is left. -/
theorem final_get_bind (k : σ → EStateM ε σ β) (s : σ) : final ((get >>= k) s) = final (k s s) :=
  rfl

/-- What is left after an update is what the rest leaves of the updated state. -/
theorem final_modify_bind (f : σ → σ) (k : PUnit → EStateM ε σ β) (s : σ) :
    final ((modify f >>= k) s) = final (k ⟨⟩ (f s)) := rfl

/-- What is left after a check: the state itself where it raises. -/
theorem final_raiseIf_bind (cond : Except ε Bool) (e : ε) (k : Unit → EStateM ε σ β) (s : σ) :
    final ((raiseIf cond e >>= k) s) =
      match cond with
      | .ok false => final (k () s)
      | _ => s := by
  rw [bind_run]
  rcases cond with e' | b
  · rfl
  · cases b <;> rfl

/-- What is left after an update that may raise: the state itself where it does. -/
theorem final_assign_bind (f : σ → Except ε σ) (k : Unit → EStateM ε σ β) (s : σ) :
    final ((assign f >>= k) s) =
      match f s with
      | .ok s' => final (k () s')
      | .error _ => s := by
  rw [bind_run, assign_run]
  cases f s <;> rfl

/-- What is left of an update that may raise. -/
theorem final_assign (f : σ → Except ε σ) (s : σ) :
    final ((assign f : EStateM ε σ Unit) s) =
      match f s with
      | .ok s' => s'
      | .error _ => s := by
  rw [assign_run]
  cases f s <;> rfl

/-- A program over a part of the state. -/
def zoom {τ : Type} (read : σ → τ) (write : τ → σ → σ) (m : EStateM ε τ α) : EStateM ε σ α :=
  fun s => match m (read s) with
    | .ok a t => .ok a (write t s)
    | .error e t => .error e (write t s)

/-- A program on a part of the state leaves the rest as it is. -/
theorem final_zoom {τ : Type} (read : σ → τ) (write : τ → σ → σ) (m : EStateM ε τ α) (s : σ) :
    final (zoom read write m s) = write (final (m (read s))) s := by
  unfold zoom
  cases m (read s) <;> rfl

/-- A program on a part of the state returns where it does on the part. -/
theorem zoom_eq_ok {τ : Type} {read : σ → τ} {write : τ → σ → σ} {m : EStateM ε τ α} {s s' : σ}
    {a : α} :
    zoom read write m s = .ok a s' ↔ ∃ t, m (read s) = .ok a t ∧ s' = write t s := by
  unfold zoom
  cases m (read s) with
  | ok b t =>
    constructor
    · rintro h; cases h; exact ⟨t, rfl, rfl⟩
    · rintro ⟨t, h, rfl⟩; cases h; rfl
  | error e t =>
    constructor
    · rintro h; cases h
    · rintro ⟨t, h, -⟩; cases h

/-! ## Runs that return -/

/-- A sequence returns where both parts do. -/
theorem bind_eq_ok {m : EStateM ε σ α} {k : α → EStateM ε σ β} {s s' : σ} {b : β} :
    (m >>= k) s = .ok b s' ↔ ∃ a s₁, m s = .ok a s₁ ∧ k a s₁ = .ok b s' := by
  rw [bind_run]
  cases m s with
  | ok a s₁ =>
    constructor
    · exact fun h => ⟨a, s₁, rfl, h⟩
    · rintro ⟨a', s₁', h, hk⟩; cases h; exact hk
  | error e s₁ =>
    constructor
    · rintro h; cases h
    · rintro ⟨a', s₁', h, -⟩; cases h

/-- A result has returned where it is a value with a state. -/
theorem returned_iff {r : EStateM.Result ε σ α} : returned r = true ↔ ∃ a s, r = .ok a s := by
  cases r with
  | ok a s => exact ⟨fun _ => ⟨a, s, rfl⟩, fun _ => rfl⟩
  | error e s =>
    constructor
    · intro h; cases h
    · rintro ⟨a, s, h⟩; cases h

/-- A sequence returns where its first part does and the rest after it. -/
theorem returned_bind_iff {m : EStateM ε σ α} {k : α → EStateM ε σ β} {s : σ} :
    returned ((m >>= k) s) = true ↔ ∃ a s₁, m s = .ok a s₁ ∧ returned (k a s₁) = true := by
  rw [bind_run]
  cases m s with
  | ok a s₁ =>
    constructor
    · exact fun h => ⟨a, s₁, rfl, h⟩
    · rintro ⟨a', s₁', h, hk⟩; cases h; exact hk
  | error e s₁ =>
    constructor
    · intro h; cases h
    · rintro ⟨a', s₁', h, -⟩; cases h

/-- Reading the state never raises. -/
theorem returned_get_bind {k : σ → EStateM ε σ β} {s : σ} :
    returned ((get >>= k) s) = true ↔ returned (k s s) = true := Iff.rfl

/-- An update that cannot raise never raises. -/
theorem returned_modify_bind {f : σ → σ} {k : PUnit → EStateM ε σ β} {s : σ} :
    returned ((modify f >>= k) s) = true ↔ returned (k ⟨⟩ (f s)) = true := Iff.rfl

/-- A value that may be missing: the program returns where it is there. -/
theorem returned_attempt_bind {x : Except ε α} {k : α → EStateM ε σ β} {s : σ} :
    returned ((attempt x >>= k) s) = true ↔ ∃ a, x = .ok a ∧ returned (k a s) = true := by
  rw [bind_run]
  cases x <;> simp

/-- A check lets the rest run where its condition is false. -/
theorem returned_raiseIf_bind {cond : Except ε Bool} {e : ε} {k : Unit → EStateM ε σ β} {s : σ} :
    returned ((raiseIf cond e >>= k) s) = true ↔ cond = .ok false ∧ returned (k () s) = true := by
  rw [bind_run]
  rcases cond with e' | b
  · simp
  · cases b <;> simp

/-- An update that may raise lets the rest run where it does not. -/
theorem returned_assign_bind {f : σ → Except ε σ} {k : Unit → EStateM ε σ β} {s : σ} :
    returned ((assign f >>= k) s) = true ↔ ∃ s', f s = .ok s' ∧ returned (k () s') = true := by
  rw [bind_run, assign_run]
  cases f s <;> simp

/-- An update that may raise returns where it gives a state. -/
theorem returned_assign {f : σ → Except ε σ} {s : σ} :
    returned ((assign f : EStateM ε σ Unit) s) = true ↔ ∃ s', f s = .ok s' := by
  rw [assign_run]
  cases f s <;> simp

/-- What follows `m` returns or not whatever `m` did. -/
theorem returned_bind_of_iff {m : EStateM ε σ α} {k : α → EStateM ε σ β} {s : σ} {Q : Prop}
    (h : ∀ a s', returned (k a s') = true ↔ Q) :
    returned ((m >>= k) s) = true ↔ returned (m s) = true ∧ Q := by
  rw [bind_run]
  cases m s with
  | ok a s' => simp [h a s']
  | error e s' => simp

/-- A last step that only computes raises nothing. -/
theorem returned_bind_pure {m : EStateM ε σ α} {f : α → β} {s : σ} :
    returned ((m >>= fun a => pure (f a)) s) = true ↔ returned (m s) = true := by
  rw [bind_run]
  cases m s <;> simp

/-- A program on a part of the state raises where it does on the part. -/
theorem returned_zoom {τ : Type} (read : σ → τ) (write : τ → σ → σ) (m : EStateM ε τ α) (s : σ) :
    returned (zoom read write m s) = returned (m (read s)) := by
  unfold zoom
  cases m (read s) <;> rfl

/-! ## Relating the two ends of a program -/

/-- However `m` ends, `R` relates the state it started in to the state it ends in. -/
def Keeps (R : σ → σ → Prop) (m : EStateM ε σ α) : Prop :=
  ∀ s, R s (final (m s))

section
variable {R : σ → σ → Prop}

/-- Returning a value keeps the state. -/
theorem Keeps.pure [Std.Refl R] (a : α) : Keeps R (Pure.pure a : EStateM ε σ α) :=
  fun s => Std.Refl.refl s

/-- Raising keeps the state. -/
theorem Keeps.throw [Std.Refl R] (e : ε) : Keeps R (MonadExcept.throw e : EStateM ε σ α) :=
  fun s => Std.Refl.refl s

/-- Reading keeps the state. -/
theorem Keeps.get [Std.Refl R] : Keeps R (MonadState.get : EStateM ε σ σ) :=
  fun s => Std.Refl.refl s

/-- A computation without state keeps the state. -/
theorem Keeps.attempt [Std.Refl R] (x : Except ε α) :
    Keeps R (Raising.attempt x : EStateM ε σ α) := by
  cases x with
  | ok a => exact .pure a
  | error e => exact .throw e

/-- An update keeps what it keeps of every state. -/
theorem Keeps.modify {f : σ → σ} (h : ∀ s, R s (f s)) :
    Keeps R (modify f : EStateM ε σ PUnit) := h

/-- A check keeps the state. -/
theorem Keeps.raiseIf [Std.Refl R] (cond : Except ε Bool) (e : ε) :
    Keeps R (Raising.raiseIf cond e : EStateM ε σ Unit) := by
  rcases cond with e' | b
  · exact .throw e'
  · cases b with
    | true => exact .throw e
    | false => exact .pure ()

/-- An update that may raise keeps what it keeps where it does not. -/
theorem Keeps.assign [Std.Refl R] {f : σ → Except ε σ} (h : ∀ s s', f s = .ok s' → R s s') :
    Keeps R (Raising.assign f : EStateM ε σ Unit) := by
  intro s
  cases hf : f s with
  | ok s' => rw [assign_ok hf]; exact h s s' hf
  | error e => rw [assign_error hf]; exact Std.Refl.refl s

/-- A program on a part keeps what writing the part back keeps. -/
theorem Keeps.zoom {τ : Type} {read : σ → τ} {write : τ → σ → σ} {m : EStateM ε τ α}
    (h : ∀ s, R s (write (final (m (read s))) s)) : Keeps R (Raising.zoom read write m) := by
  intro s
  rw [final_zoom]
  exact h s

/-- A program that keeps the relation from one state, followed by one that always keeps it. -/
theorem Keeps.after [IsTrans σ R] {m : EStateM ε σ α} {k : α → EStateM ε σ β} {s : σ}
    (hm : R s (final (m s))) (hk : ∀ a, Keeps R (k a)) : R s (final ((m >>= k) s)) := by
  rw [bind_run]
  cases hr : m s with
  | ok a s' => rw [hr] at hm; exact IsTrans.trans _ _ _ hm (hk a s')
  | error e s' => rw [hr] at hm; exact hm

/-- A sequence keeps what its parts keep, where keeping is transitive. -/
theorem Keeps.bind [IsTrans σ R] {m : EStateM ε σ α} {k : α → EStateM ε σ β}
    (hm : Keeps R m) (hk : ∀ a, Keeps R (k a)) : Keeps R (m >>= k) :=
  fun s => Keeps.after (hm s) hk

/-- What follows an attempt runs on the value the attempt gave. -/
theorem Keeps.attempt_bind [Std.Refl R] {x : Except ε α} {k : α → EStateM ε σ β}
    (hk : ∀ a, x = .ok a → Keeps R (k a)) : Keeps R (Raising.attempt x >>= k) := by
  cases x with
  | ok a => exact hk a rfl
  | error e => exact fun s => Std.Refl.refl s

end

/-! ## What a program returns -/

/-- Whatever `m` returns, from whatever state, has the property. -/
def Yields (P : α → Prop) (m : EStateM ε σ α) : Prop :=
  ∀ s a s', m s = .ok a s' → P a

section
variable {P : β → Prop}

/-- A value that is returned at once. -/
theorem Yields.pure {b : β} (h : P b) : Yields P (Pure.pure b : EStateM ε σ β) := by
  intro s a s' heq
  cases heq
  exact h

/-- A program that raises returns nothing at all. -/
theorem Yields.throw (e : ε) : Yields P (MonadExcept.throw e : EStateM ε σ β) :=
  fun _ _ _ heq => nomatch heq

/-- Only the last part of a program decides what it returns. -/
theorem Yields.bind {m : EStateM ε σ α} {k : α → EStateM ε σ β} (h : ∀ a, Yields P (k a)) :
    Yields P (m >>= k) := by
  intro s b s' heq
  obtain ⟨a, s₁, -, hk⟩ := bind_eq_ok.1 heq
  exact h a s₁ b s' hk

end

/-! ## Collecting -/

/-- What several parts give, one after the other; the first that raises ends it. -/
def collect : List (Except ε (List α)) → Except ε (List α)
  | [] => .ok []
  | part :: parts => do
    let first ← part
    let rest ← collect parts
    return first ++ rest

/-- Parts that give nothing together give nothing each. -/
theorem collect_eq_nil {parts : List (Except ε (List α))} :
    collect parts = .ok [] ↔ ∀ part ∈ parts, part = .ok [] := by
  induction parts with
  | nil => simp [collect]
  | cons part parts ih =>
    rw [collect, List.forall_mem_cons, ← ih]
    cases part with
    | error e => simp
    | ok first =>
      cases collect parts with
      | error e => simp
      | ok rest => simp

end Raising
