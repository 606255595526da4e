import Mathlib.Logic.Function.Basic
import LawFirmDigitalTwin.Lib.Run

/-!
# Threads that share a state

Each thread has a local state and takes one atomic step at a time, which reads and writes the shared
state; a schedule is the list of the threads in the order of their steps. `run_solo` is the case of
a thread that takes several steps in a row.
-/

namespace Threads

variable {ι π σ : Type*} [DecidableEq ι]

/-- The shared state and the local state of each thread. -/
structure Config (ι π σ : Type*) where
  shared : σ
  own : ι → π

section
variable (advance : ι → π → σ → π × σ)

/-- One step of a thread. -/
def step (c : Config ι π σ) (i : ι) : Config ι π σ :=
  let (p, s) := advance i (c.own i) c.shared
  ⟨s, Function.update c.own i p⟩

@[simp] theorem step_shared (c : Config ι π σ) (i : ι) :
    (step advance c i).shared = (advance i (c.own i) c.shared).2 := rfl

@[simp] theorem step_own_self (c : Config ι π σ) (i : ι) :
    (step advance c i).own i = (advance i (c.own i) c.shared).1 :=
  Function.update_self ..

/-- A step leaves the other threads as they are. -/
theorem step_own_ne (c : Config ι π σ) {i j : ι} (h : j ≠ i) :
    (step advance c i).own j = c.own j :=
  Function.update_of_ne h ..

/-- The steps of one thread in a row, on its local state and the shared one. -/
def solo (i : ι) : Nat → π × σ → π × σ
  | 0, ps => ps
  | n + 1, (p, s) => solo i n (advance i p s)

/-- A thread that takes `n` steps in a row leaves the other threads as they are. -/
theorem run_solo (c : Config ι π σ) (i : ι) (n : Nat) :
    Machine.run (step advance) c (List.replicate n i) =
      ⟨(solo advance i n (c.own i, c.shared)).2,
        Function.update c.own i (solo advance i n (c.own i, c.shared)).1⟩ := by
  induction n generalizing c with
  | zero => simp [solo]
  | succ n ih =>
    rw [List.replicate_succ, Machine.run_cons, ih, step_own_self, step_shared]
    simp only [solo, step, Function.update_idem]

end

end Threads
