import LawFirmDigitalTwin.Lib.Raising

/-!
# Programs with a cleanup

`try` with a `finally` part: the cleanup runs however the body ends, from the state that the body
has reached, and what the cleanup raises replaces the body's end. The state at the end is the one
that the cleanup leaves (`final_withCleanup`).
-/

namespace Raising

variable {ε σ α β : Type}

/-- `try: body finally: cleanup`. -/
def withCleanup (body : EStateM ε σ α) (cleanup : EStateM ε σ Unit) : EStateM ε σ α := fun s =>
  match body s with
  | .ok a s' =>
    match cleanup s' with
    | .ok _ s'' => .ok a s''
    | .error e s'' => .error e s''
  | .error e s' =>
    match cleanup s' with
    | .ok _ s'' => .error e s''
    | .error e' s'' => .error e' s''

/-- **The cleanup runs however the body ends.** -/
theorem final_withCleanup (body : EStateM ε σ α) (cleanup : EStateM ε σ Unit) (s : σ) :
    final (withCleanup body cleanup s) = final (cleanup (final (body s))) := by
  unfold withCleanup
  cases body s with
  | ok a s' =>
    simp only [final_ok]
    cases cleanup s' <;> rfl
  | error e s' =>
    simp only [final_error]
    cases cleanup s' <;> rfl

/-- A program that only goes on when the first part returns. -/
theorem final_bind (m : EStateM ε σ α) (k : α → EStateM ε σ β) (s : σ) :
    final ((m >>= k) s) = match m s with
      | .ok a s' => final (k a s')
      | .error _ s' => s' := by
  rw [bind_run]
  cases m s <;> rfl

end Raising
