import Mathlib.Data.List.Basic

/-!
# Runs of a deterministic machine

A machine is a total step function `step : σ → ι → σ`. `run` folds it over a list of inputs,
`AllSteps C` says that every input of a run is taken in a state where `C` holds, and the induction
on runs is packaged once: an invariant (`run_invariant`), and an invariant under a side condition on
the steps (`run_invariant_of`).
-/

namespace Machine

section
variable {σ ι : Type*} (step : σ → ι → σ)

/-- The state a list of inputs leads to. -/
def run (s : σ) (is : List ι) : σ :=
  is.foldl step s

@[simp] theorem run_nil (s : σ) : run step s [] = s := rfl

@[simp] theorem run_cons (s : σ) (i : ι) (is : List ι) :
    run step s (i :: is) = run step (step s i) is := rfl

/-- A run over two lists is the run over the second from where the first one ends. -/
theorem run_append (s : σ) (is js : List ι) :
    run step s (is ++ js) = run step (run step s is) js :=
  List.foldl_append

/-- The last input of a run is a step from where the others lead. -/
theorem run_concat (s : σ) (is : List ι) (i : ι) :
    run step s (is ++ [i]) = step (run step s is) i := by
  rw [run_append]; rfl

/-- Every input of the run is taken in a state in which `C` allows it. -/
def AllSteps (C : σ → ι → Prop) : σ → List ι → Prop
  | _, [] => True
  | s, i :: is => C s i ∧ AllSteps C (step s i) is

variable {step} {C : σ → ι → Prop}

@[simp] theorem allSteps_nil (s : σ) : AllSteps step C s [] := trivial

@[simp] theorem allSteps_cons (s : σ) (i : ι) (is : List ι) :
    AllSteps step C s (i :: is) ↔ C s i ∧ AllSteps step C (step s i) is := Iff.rfl

/-- A condition on the steps of a run in two parts. -/
theorem allSteps_append (s : σ) (is js : List ι) :
    AllSteps step C s (is ++ js) ↔ AllSteps step C s is ∧ AllSteps step C (run step s is) js := by
  induction is generalizing s with
  | nil => simp
  | cons i is ih => simp [ih, and_assoc]

/-- A condition that the inputs of a run have in every state. -/
theorem AllSteps.of_forall_mem {is : List ι} (h : ∀ i ∈ is, ∀ s, C s i) (s : σ) :
    AllSteps step C s is := by
  induction is generalizing s with
  | nil => trivial
  | cons i is ih => exact ⟨h i (.head _) s, ih (fun j hj => h j (.tail _ hj)) _⟩

/-- A condition that every input has in every state. -/
theorem AllSteps.of_forall (h : ∀ s i, C s i) (s : σ) (is : List ι) : AllSteps step C s is :=
  .of_forall_mem (fun i _ s => h s i) s

/-- The condition holds at every step of the run, wherever the run is cut. -/
theorem AllSteps.at {s : σ} {pre post : List ι} {i : ι}
    (h : AllSteps step C s (pre ++ i :: post)) : C (run step s pre) i :=
  ((allSteps_append s pre (i :: post)).1 h).2.1

/-- The condition on the steps, at every split of the run. -/
theorem allSteps_iff (s : σ) (is : List ι) :
    AllSteps step C s is ↔ ∀ pre i post, is = pre ++ i :: post → C (run step s pre) i := by
  constructor
  · rintro h pre i post rfl
    exact h.at
  · intro h
    induction is generalizing s with
    | nil => trivial
    | cons i is ih =>
      refine ⟨h [] i is rfl, ih _ fun pre j post he => ?_⟩
      exact h (i :: pre) j post (by rw [he]; rfl)

/-- A condition met along a run gives another one, where an invariant links the two. -/
theorem AllSteps.imp_of {I : σ → Prop} {D : σ → ι → Prop}
    (hstep : ∀ s i, I s → C s i → D s i ∧ I (step s i)) {s : σ} {is : List ι} (h0 : I s)
    (hC : AllSteps step C s is) : AllSteps step D s is := by
  induction is generalizing s with
  | nil => trivial
  | cons i is ih =>
    obtain ⟨hD, hI⟩ := hstep s i h0 hC.1
    exact ⟨hD, ih hI hC.2⟩

/-- **The invariant rule for runs whose steps meet a condition.** -/
theorem run_invariant_of {I : σ → Prop} (hstep : ∀ s i, I s → C s i → I (step s i)) {s : σ}
    {is : List ι} (h0 : I s) (hC : AllSteps step C s is) : I (run step s is) := by
  induction is generalizing s with
  | nil => exact h0
  | cons i is ih => exact ih (hstep s i h0 hC.1) hC.2

/-- **The invariant rule.** -/
theorem run_invariant {I : σ → Prop} (hstep : ∀ s i, I s → I (step s i)) {s : σ} (h0 : I s)
    (is : List ι) : I (run step s is) :=
  run_invariant_of (C := fun _ _ => True) (fun s i h _ => hstep s i h) h0
    (AllSteps.of_forall (fun _ _ => trivial) s is)

end

end Machine
