import LawFirmDigitalTwin.Lib.Raising

/-!
# Transactions on a durable store

A program over a connection: the durable store, and the working copy that the open transaction reads
and writes. A statement changes the working copy or raises; the commit makes the copy durable. A
program that raises before its commit leaves the durable store as it was (`Aborted`), and the rules
below carry this through the statements and fault points of a program.
-/

namespace Transactional

open Raising

variable {ε σ α β : Type}

/-- The durable store, and what the open transaction sees. -/
structure Connection (σ : Type) where
  durable : σ
  working : σ

/-- A program over a connection. -/
abbrev Program (ε σ α : Type) := EStateM ε (Connection σ) α

/-- The transaction begins, with the lock already held. -/
def begin : Program ε σ PUnit := modify fun c => { c with working := c.durable }

/-- The open transaction is undone. -/
def rollback : Program ε σ PUnit := modify fun c => { c with working := c.durable }

/-- The open transaction becomes durable. -/
def commit : Program ε σ PUnit := modify fun c => { c with durable := c.working }

/-- After a commit the rest runs with the working copy saved. -/
theorem commit_bind (k : PUnit → Program ε σ β) (c : Connection σ) :
    (commit >>= k) c = k ⟨⟩ ⟨c.working, c.working⟩ := rfl

/-- A statement that writes, or raises. -/
def execute (statement : σ → Except ε σ) : Program ε σ Unit :=
  assign fun c => do return { c with working := ← statement c.working }

/-- A statement that succeeds changes the working copy only. -/
theorem execute_ok {statement : σ → Except ε σ} {c : Connection σ} {s : σ}
    (h : statement c.working = .ok s) :
    execute statement c = .ok () { c with working := s } :=
  assign_ok (by rw [h]; rfl)

/-- A point where the caller may make the program raise. -/
def faultIf (raises : Bool) (e : ε) : Program ε σ Unit := raiseIf (.ok raises) e

/-- A program that has raised one of the errors `E` and left the durable store as it was. -/
def Aborted (E : ε → Prop) (c : Connection σ) (r : EStateM.Result ε (Connection σ) α) : Prop :=
  ∃ e c', r = .error e c' ∧ c'.durable = c.durable ∧ E e

section
variable {E : ε → Prop} {c c₀ : Connection σ} {k : Unit → Program ε σ β}

/-- A statement aborts the program, or the program goes on with what it wrote. -/
theorem execute_bind {statement : σ → Except ε σ} {Q : EStateM.Result ε (Connection σ) β → Prop}
    (hc : c.durable = c₀.durable)
    (herror : ∀ e, statement c.working = .error e → E e)
    (hok : ∀ s, statement c.working = .ok s →
      Aborted E c₀ (k () { c with working := s }) ∨ Q (k () { c with working := s })) :
    Aborted E c₀ ((execute statement >>= k) c) ∨ Q ((execute statement >>= k) c) := by
  cases hs : statement c.working with
  | error e =>
    have hrun : execute statement c = .error e c := assign_error (by rw [hs]; rfl)
    rw [bind_run_error hrun k]
    exact .inl ⟨e, c, rfl, hc, herror e hs⟩
  | ok s =>
    rw [bind_run_ok (execute_ok hs) k]
    exact hok s hs

/-- A fault point aborts the program, or the program goes on. -/
theorem faultIf_bind {raises : Bool} {e : ε} {Q : EStateM.Result ε (Connection σ) β → Prop}
    (hc : c.durable = c₀.durable) (he : raises = true → E e)
    (hok : raises = false → Aborted E c₀ (k () c) ∨ Q (k () c)) :
    Aborted E c₀ ((faultIf raises e >>= k) c) ∨ Q ((faultIf raises e >>= k) c) := by
  cases raises with
  | true =>
    have hrun : (faultIf true e : Program ε σ Unit) c = .error e c := rfl
    rw [bind_run_error hrun k]
    exact .inl ⟨e, c, rfl, hc, he rfl⟩
  | false =>
    have hrun : (faultIf false e : Program ε σ Unit) c = .ok () c := rfl
    rw [bind_run_ok hrun k]
    exact hok rfl

end

end Transactional
