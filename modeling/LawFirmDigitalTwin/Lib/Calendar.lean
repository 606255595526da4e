import Mathlib.Data.List.Perm.Basic
import Mathlib.Logic.Function.Basic

/-!
# A calendar of events

The pending events of a discrete-event simulation, earliest first, those of equal time in the order
in which they were scheduled (`schedule`). Where every process has at most one pending event, the
calendar is a table of the processes that have one: it `Tracks` a function of the processes, and
taking the first event or scheduling one updates the function at one process.
-/

namespace Calendar

variable {P A : Type*}

/-- An event: its time, its process, and what happens to the process. -/
abbrev Event (P A : Type*) := Int × P × A

/-- A new event goes after those of its own time and of earlier ones. -/
def schedule (e : Event P A) : List (Event P A) → List (Event P A)
  | [] => [e]
  | e' :: rest => if e.1 < e'.1 then e :: e' :: rest else e' :: schedule e rest

/-- Scheduling inserts the event and keeps the others. -/
theorem schedule_perm (e : Event P A) (cal : List (Event P A)) :
    (schedule e cal).Perm (e :: cal) := by
  induction cal with
  | nil => exact .refl _
  | cons e' rest ih =>
    rw [schedule]
    split
    · exact .refl _
    · exact (ih.cons e').trans (.swap e e' rest)

@[simp] theorem mem_schedule {e x : Event P A} {cal : List (Event P A)} :
    x ∈ schedule e cal ↔ x = e ∨ x ∈ cal := by
  rw [(schedule_perm e cal).mem_iff, List.mem_cons]

/-- A relation that holds along the calendar and of the new event's place in it. -/
theorem pairwise_schedule {R : Event P A → Event P A → Prop} {e : Event P A}
    {cal : List (Event P A)} (h : cal.Pairwise R) (hsorted : cal.Pairwise fun a b => a.1 ≤ b.1)
    (hbefore : ∀ x ∈ cal, x.1 ≤ e.1 → R x e) (hafter : ∀ x ∈ cal, e.1 < x.1 → R e x) :
    (schedule e cal).Pairwise R := by
  induction cal with
  | nil => exact List.pairwise_singleton R e
  | cons e' rest ih =>
    obtain ⟨hhead, hrest⟩ := List.pairwise_cons.1 h
    obtain ⟨hle, hsrest⟩ := List.pairwise_cons.1 hsorted
    rw [schedule]
    split
    · next hlt =>
      refine List.pairwise_cons.2 ⟨fun x hx => hafter x hx ?_, h⟩
      rcases List.mem_cons.1 hx with rfl | hx
      · exact hlt
      · exact Int.lt_of_lt_of_le hlt (hle x hx)
    · next hlt =>
      refine List.pairwise_cons.2 ⟨fun x hx => ?_, ih hrest hsrest
        (fun x hx => hbefore x (.tail _ hx)) fun x hx => hafter x (.tail _ hx)⟩
      rcases mem_schedule.1 hx with rfl | hx
      · exact hbefore e' (.head _) (Int.not_lt.1 hlt)
      · exact hhead x hx

/-- The calendar holds the pending events of the processes, one for each process that has one. -/
structure Tracks (procs : List P) (pending : P → Option (Int × A)) (cal : List (Event P A)) :
    Prop where
  nodup : (cal.map (·.2.1)).Nodup
  mem_iff : ∀ t p a, (t, p, a) ∈ cal ↔ p ∈ procs ∧ pending p = some (t, a)

namespace Tracks

variable {procs : List P} {pending : P → Option (Int × A)} {cal rest : List (Event P A)}
  {t : Int} {p : P} {a : A}

/-- The first event of a tracked calendar is what its process waits for. -/
theorem head (h : Tracks procs pending ((t, p, a) :: rest)) :
    p ∈ procs ∧ pending p = some (t, a) :=
  (h.mem_iff t p a).1 (.head _)

/-- The pending event of another process is behind the first one. -/
theorem mem_rest (h : Tracks procs pending ((t, p, a) :: rest)) {q : P} {u : Int} {b : A}
    (hq : q ∈ procs) (hne : q ≠ p) (hpending : pending q = some (u, b)) : (u, q, b) ∈ rest := by
  rcases List.mem_cons.1 ((h.mem_iff u q b).2 ⟨hq, hpending⟩) with he | hmem
  · exact absurd (congrArg (·.2.1) he) hne
  · exact hmem

variable [DecidableEq P]

/-- The first event is taken. -/
theorem pop (h : Tracks procs pending ((t, p, a) :: rest)) :
    Tracks procs (Function.update pending p none) rest where
  nodup := (List.nodup_cons.1 h.nodup).2
  mem_iff u q b := by
    have hnot : p ∉ rest.map (·.2.1) := (List.nodup_cons.1 h.nodup).1
    constructor
    · intro hmem
      have hne : q ≠ p := by
        rintro rfl
        exact hnot (List.mem_map.2 ⟨_, hmem, rfl⟩)
      rw [Function.update_of_ne hne]
      exact (h.mem_iff u q b).1 (.tail _ hmem)
    · rintro ⟨hq, hpending⟩
      by_cases hne : q = p
      · rw [hne, Function.update_self] at hpending
        cases hpending
      · rw [Function.update_of_ne hne] at hpending
        exact h.mem_rest hq hne hpending

/-- An event is scheduled for a process that has none. -/
theorem push (h : Tracks procs pending cal) (hp : p ∈ procs) (hnone : pending p = none) (t : Int)
    (a : A) : Tracks procs (Function.update pending p (some (t, a))) (schedule (t, p, a) cal) where
  nodup := by
    refine (((schedule_perm (t, p, a) cal).map (·.2.1)).nodup_iff).2
      (List.nodup_cons.2 ⟨fun hmem => ?_, h.nodup⟩)
    obtain ⟨⟨u, q, b⟩, hcal, hqp⟩ := List.mem_map.1 hmem
    have := ((h.mem_iff u q b).1 hcal).2
    rw [show q = p from hqp, hnone] at this
    cases this
  mem_iff u q b := by
    rw [mem_schedule, h.mem_iff]
    by_cases hne : q = p
    · subst hne
      simp [hp, hnone, eq_comm, and_comm]
    · simp [hne]

/-- The first event is taken, and another one is scheduled for its process. -/
theorem move (h : Tracks procs pending ((t, p, a) :: rest)) (u : Int) (b : A) :
    Tracks procs (Function.update pending p (some (u, b))) (schedule (u, p, b) rest) := by
  have := h.pop.push h.head.1 (Function.update_self p none pending) u b
  rwa [Function.update_idem] at this

end Tracks

end Calendar
