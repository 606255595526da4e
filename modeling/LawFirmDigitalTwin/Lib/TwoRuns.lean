import LawFirmDigitalTwin.Lib.Run

/-!
# Two runs over the same inputs

`outputs` is what a run shows: the output of each input in the state in which it is taken. Two
machines are compared by a relation between their states that every input keeps (`run_rel₂`), and on
which they show the same (`outputs_eq_of_rel`). Where inputs keep the relation only under a
condition and show a difference without it, the condition along the run is exact (`outputs_eq_iff`).
-/

namespace Machine

section
variable {σ τ ι ω : Type*} (step : σ → ι → σ) (out : σ → ι → ω)

/-- The outputs of a run. -/
def outputs : σ → List ι → List ω
  | _, [] => []
  | s, i :: is => out s i :: outputs (step s i) is

@[simp] theorem outputs_nil (s : σ) : outputs step out s [] = [] := rfl

@[simp] theorem outputs_cons (s : σ) (i : ι) (is : List ι) :
    outputs step out s (i :: is) = out s i :: outputs step out (step s i) is := rfl

@[simp] theorem length_outputs (s : σ) (is : List ι) :
    (outputs step out s is).length = is.length := by
  induction is generalizing s with
  | nil => rfl
  | cons i is ih => simp [ih]

/-- The outputs of a run in two parts. -/
theorem outputs_append (s : σ) (is js : List ι) :
    outputs step out s (is ++ js) = outputs step out s is ++ outputs step out (run step s is) js := by
  induction is generalizing s with
  | nil => rfl
  | cons i is ih => simp [ih]

/-- The outputs of the other inputs, where one input is left out of account. -/
theorem outputs_eraseIdx (s : σ) (pre : List ι) (i : ι) (post : List ι) :
    (outputs step out s (pre ++ i :: post)).eraseIdx pre.length =
      outputs step out s pre ++ outputs step out (step (run step s pre) i) post := by
  rw [outputs_append, outputs_cons,
    List.eraseIdx_append_of_length_le (Nat.le_of_eq (length_outputs ..)), length_outputs,
    Nat.sub_self, List.eraseIdx_cons_zero]

variable {step out} {step' : τ → ι → τ} {out' : τ → ι → ω} {R : σ → τ → Prop}

/-- A relation that every input keeps relates the ends of two runs. -/
theorem run_rel₂ (hstep : ∀ s t i, R s t → R (step s i) (step' t i)) {s : σ} {t : τ} (h : R s t)
    (is : List ι) : R (run step s is) (run step' t is) := by
  induction is generalizing s t with
  | nil => exact h
  | cons i is ih => exact ih (hstep s t i h)

/-- **What two runs show is the same exactly where every step meets the condition** under which an
input shows the same and keeps the relation. -/
theorem outputs_eq_iff {C : σ → ι → Prop}
    (hsame : ∀ s t i, R s t → C s i → out s i = out' t i ∧ R (step s i) (step' t i))
    (hdiff : ∀ s t i, R s t → ¬ C s i → out s i ≠ out' t i) {s : σ} {t : τ} (h : R s t)
    (is : List ι) :
    outputs step out s is = outputs step' out' t is ↔ AllSteps step C s is := by
  induction is generalizing s t with
  | nil => simp
  | cons i is ih =>
    rw [outputs_cons, outputs_cons, List.cons.injEq, allSteps_cons]
    by_cases hC : C s i
    · obtain ⟨hout, hR⟩ := hsame s t i h hC
      simp only [hout, hC, ih hR, true_and]
    · have hout := hdiff s t i h hC
      simp only [hout, hC, false_and]

/-- Two runs show the same where every input shows the same and keeps the relation. -/
theorem outputs_eq_of_rel
    (hsame : ∀ s t i, R s t → out s i = out' t i ∧ R (step s i) (step' t i)) {s : σ} {t : τ}
    (h : R s t) (is : List ι) : outputs step out s is = outputs step' out' t is := by
  refine (outputs_eq_iff (C := fun _ _ => True) (fun s t i hR _ => hsame s t i hR) ?_ h is).2 ?_
  · intro s t i _ hC
    exact (hC trivial).elim
  · exact AllSteps.of_forall (fun _ _ => trivial) s is

/-- Two runs over inputs that correspond to each other, where corresponding inputs show the same and
keep the relation. -/
theorem run_outputs_forall₂ {κ : Type*} {step' : τ → κ → τ} {out' : τ → κ → ω} {Q : ι → κ → Prop}
    (hsame : ∀ s t i j, R s t → Q i j → out s i = out' t j ∧ R (step s i) (step' t j)) {s : σ} {t : τ}
    (h : R s t) {is : List ι} {js : List κ} (hQ : List.Forall₂ Q is js) :
    R (run step s is) (run step' t js) ∧ outputs step out s is = outputs step' out' t js := by
  induction hQ generalizing s t with
  | nil => exact ⟨h, rfl⟩
  | @cons i j is js hij _ ih =>
    obtain ⟨hout, hR⟩ := hsame s t i j h hij
    obtain ⟨hrun, houts⟩ := ih hR
    exact ⟨hrun, by rw [outputs_cons, outputs_cons, hout, houts]⟩

end

end Machine
