import Mathlib.Data.List.GetD
import Mathlib.Data.List.MinMax
import Mathlib.Data.Prod.Lex
import Mathlib.Order.Lattice

/-!
# First come, first served on several servers

Jobs of a class share the servers of that class. A schedule is first come, first served in the
order of a list of jobs (`FirstCome`) when a job starts as soon as it is ready and one of the
servers of its class is not taken by a job before it. The greedy assignment, which gives each job
the server that is free first, is such a schedule (`greedy_firstCome`), and such a schedule never
has more jobs active in a class than the class has servers (`FirstCome.active_le`). A job is active
from its start to its finish, the finish excluded.
-/

namespace Fcfs

/-! ## Intervals -/

/-- The intervals that are active at a tick. -/
def activeAt (intervals : List (Int × Int)) (t : Int) : Nat :=
  intervals.countP fun i => i.1 ≤ t ∧ t < i.2

/-- A bound on the intervals active at their starts bounds them everywhere: what is active at a
tick is active at the last start among these. -/
theorem activeAt_le_of_starts {intervals : List (Int × Int)} {n : Nat}
    (h : ∀ i ∈ intervals, activeAt intervals i.1 ≤ n) (t : Int) : activeAt intervals t ≤ n := by
  let running := intervals.filter fun i => i.1 ≤ t ∧ t < i.2
  rcases hm : running.argmax (·.1) with _ | last
  · have hnil : running = [] := List.argmax_eq_none.1 hm
    have : activeAt intervals t = running.length := List.countP_eq_length_filter
    rw [this, hnil]
    exact Nat.zero_le n
  · have hlast : last ∈ running := List.argmax_mem hm
    obtain ⟨hmem, hact⟩ := List.mem_filter.1 hlast
    refine le_trans (List.countP_mono_left fun i hi hti => ?_) (h last hmem)
    have hle : i.1 ≤ last.1 := List.le_of_mem_argmax (List.mem_filter.2 ⟨hi, hti⟩) hm
    simp only [decide_eq_true_eq] at hti hact ⊢
    omega

/-! ## The server that is free first -/

/-- A slot is before another when it is free before, or at the same tick with a smaller index. -/
instance slotOrder : LinearOrder (Lex (Int × Nat)) :=
  @Prod.Lex.instLinearOrder Int Nat Int.instLinearOrder inferInstance

instance slotPreorder : Preorder (Lex (Int × Nat)) := slotOrder.toPreorder

/-- The index of the first of the least elements. -/
def earliest (slots : List Int) : Option Nat :=
  (List.range slots.length).argmin fun k => toLex (slots.getD k 0, k)

/-- Only where there are no slots there is no earliest one. -/
theorem earliest_eq_none {slots : List Int} : earliest slots = none ↔ slots = [] := by
  rw [earliest, List.argmin_eq_none, List.range_eq_nil, List.length_eq_zero_iff]

/-- The earliest slot is one of the slots. -/
theorem earliest_lt {slots : List Int} {k : Nat} (h : earliest slots = some k) :
    k < slots.length :=
  List.mem_range.1 (List.argmin_mem h)

/-- No slot is free before the earliest one. -/
theorem earliest_le {slots : List Int} {k : Nat} (h : earliest slots = some k) {x : Int}
    (hx : x ∈ slots) : slots.getD k 0 ≤ x := by
  obtain ⟨i, hi, rfl⟩ := List.getElem_of_mem hx
  have hle := List.le_of_mem_argmin (List.mem_range.2 hi) h
  rw [Prod.Lex.toLex_le_toLex] at hle
  rw [List.getD_eq_getElem _ _ hi] at hle
  rcases hle with hlt | ⟨heq, -⟩
  · exact hlt.le
  · exact heq.le

/-- Some slot is free at `t` exactly when the earliest one is. -/
theorem countP_lt_length_iff {slots : List Int} {k : Nat} (h : earliest slots = some k) (t : Int) :
    slots.countP (t < ·) < slots.length ↔ slots.getD k 0 ≤ t := by
  have hmem : slots.getD k 0 ∈ slots := by
    rw [List.getD_eq_getElem _ _ (earliest_lt h)]
    exact List.getElem_mem _
  rw [lt_iff_le_and_ne, and_iff_right List.countP_le_length, Ne, List.countP_eq_length]
  constructor
  · intro hne
    by_contra hlt
    refine hne fun x hx => decide_eq_true ?_
    exact lt_of_lt_of_le (not_le.1 hlt) (earliest_le h hx)
  · intro hle hall
    exact absurd (of_decide_eq_true (hall _ hmem)) (not_lt.2 hle)

/-! ## Schedules -/

/-- The jobs' demands, and the number of servers of each class. -/
structure Load (J κ : Type*) where
  ready : J → Int
  service : J → Int
  cls : J → κ
  capacity : κ → Nat

section
variable {J κ : Type*} [DecidableEq κ] (w : Load J κ) (start : J → Int)

def Load.finish (j : J) : Int := start j + w.service j

/-- The jobs of a class that have not finished at a tick. -/
def Load.busy (jobs : List J) (c : κ) (t : Int) : Nat :=
  jobs.countP fun i => w.cls i = c ∧ t < w.finish start i

/-- The jobs of a class that are active at a tick. -/
def Load.active (jobs : List J) (c : κ) (t : Int) : Nat :=
  jobs.countP fun i => w.cls i = c ∧ start i ≤ t ∧ t < w.finish start i

/-- Every job starts as soon as it is ready and the jobs before it leave a server free. -/
def FirstCome (jobs : List J) : Prop :=
  ∀ pre j post, jobs = pre ++ j :: post → ∀ t,
    start j ≤ t ↔ w.ready j ≤ t ∧ w.busy start pre (w.cls j) t < w.capacity (w.cls j)

variable {w start}

/-- A job that is active has not finished. -/
theorem Load.active_le_busy (jobs : List J) (c : κ) (t : Int) :
    w.active start jobs c t ≤ w.busy start jobs c t := by
  refine List.countP_mono_left fun i _ h => ?_
  simp only [decide_eq_true_eq] at h ⊢
  exact ⟨h.1, h.2.2⟩

/-- No job starts before it is ready. -/
theorem FirstCome.ready_le {jobs : List J} (h : FirstCome w start jobs) {j : J} (hj : j ∈ jobs) :
    w.ready j ≤ start j := by
  obtain ⟨pre, post, rfl⟩ := List.append_of_mem hj
  exact ((h pre j post rfl (start j)).1 le_rfl).1

/-- The first jobs of a schedule are served in order by themselves. -/
theorem FirstCome.of_append {jobs rest : List J} (h : FirstCome w start (jobs ++ rest)) :
    FirstCome w start jobs := by
  rintro pre j post rfl
  exact h pre j (post ++ rest) (by simp)

/-- **Capacity**: no class ever has more active jobs than servers. -/
theorem FirstCome.active_le {jobs : List J} (h : FirstCome w start jobs) (c : κ) (t : Int) :
    w.active start jobs c t ≤ w.capacity c := by
  induction jobs using List.reverseRecOn with
  | nil => exact Nat.zero_le _
  | append_singleton pre j ih =>
    have hpre := ih h.of_append
    rw [Load.active, List.countP_append] at *
    by_cases hj : w.cls j = c ∧ start j ≤ t ∧ t < w.finish start j
    · -- the last job starts beside less than `capacity c` unfinished jobs
      obtain ⟨rfl, hstart, -⟩ := hj
      have hbusy := ((h pre j [] rfl t).1 hstart).2
      have hle : w.active start pre (w.cls j) t ≤ w.busy start pre (w.cls j) t :=
        w.active_le_busy pre (w.cls j) t
      have hone := List.countP_le_length (p := fun i => decide (w.cls i = w.cls j ∧ start i ≤ t ∧
        t < w.finish start i)) (l := [j])
      rw [Load.active] at hle
      simp only [List.length_singleton] at hone
      omega
    · simpa [hj] using hpre

/-- **No overtaking.** In the order in which they become ready, the jobs of a class start one after
the other. -/
theorem FirstCome.pairwise_start {jobs : List J} (h : FirstCome w start jobs)
    (hready : jobs.Pairwise fun i j => w.ready i ≤ w.ready j) :
    jobs.Pairwise fun i j => w.cls i = w.cls j → start i ≤ start j := by
  induction jobs using List.reverseRecOn with
  | nil => exact .nil
  | append_singleton pre j ih =>
    rw [List.pairwise_append] at hready ⊢
    refine ⟨ih h.of_append hready.1, List.pairwise_singleton _ _, fun i hi j' hj' hcls => ?_⟩
    rw [List.mem_singleton] at hj'
    subst hj'
    obtain ⟨before, after, rfl⟩ := List.append_of_mem hi
    obtain ⟨hr, hfree⟩ := (h _ j' [] rfl (start j')).1 le_rfl
    -- the server that is free for the later job was free for the earlier one
    refine (h before i (after ++ [j']) (by simp) (start j')).2
      ⟨(hready.2.2 i hi j' (.head _)).trans hr, ?_⟩
    rw [hcls]
    exact lt_of_le_of_lt (List.sublist_append_left _ _).countP_le hfree

/-- **Work conservation.** While a job that is ready waits, every server of its class has an active
job. -/
theorem FirstCome.active_eq {jobs : List J} (h : FirstCome w start jobs)
    (hready : jobs.Pairwise fun i j => w.ready i ≤ w.ready j) {j : J} (hj : j ∈ jobs) {t : Int}
    (hle : w.ready j ≤ t) (hlt : t < start j) :
    w.active start jobs (w.cls j) t = w.capacity (w.cls j) := by
  refine le_antisymm (h.active_le _ _) ?_
  -- the first job of the class that starts later: the jobs before it that are busy are active
  obtain ⟨k, hk⟩ : ∃ k, jobs.find? (fun i => w.cls i = w.cls j ∧ t < start i) = some k :=
    Option.isSome_iff_exists.1 (List.find?_isSome.2 ⟨j, hj, decide_eq_true ⟨rfl, hlt⟩⟩)
  obtain ⟨hdec, pre, post, rfl, hpre⟩ := List.find?_eq_some_iff_append.1 hk
  obtain ⟨hcls, hkt⟩ := of_decide_eq_true hdec
  have hkj : w.ready k ≤ w.ready j := by
    rw [List.pairwise_append, List.pairwise_cons] at hready
    rcases List.mem_append.1 hj with hj | hj
    · simpa [hlt] using hpre j hj
    · rcases List.mem_cons.1 hj with rfl | hj
      · exact le_rfl
      · exact hready.2.1.1 j hj
  have hfull : w.capacity (w.cls k) ≤ w.busy start pre (w.cls k) t := by
    by_contra hfree
    exact absurd ((h pre k post rfl t).2 ⟨hkj.trans hle, not_le.1 hfree⟩) (not_le.2 hkt)
  have hbusy : w.busy start pre (w.cls k) t ≤ w.active start pre (w.cls k) t := by
    refine List.countP_mono_left fun i hi hdec => ?_
    have hnot := hpre i hi
    simp only [decide_eq_true_eq, Bool.not_eq_true', decide_eq_false_iff_not, not_and, not_lt]
      at hdec hnot ⊢
    exact ⟨hdec.1, hnot (hdec.1.trans hcls), hdec.2⟩
  rw [← hcls]
  exact hfull.trans (hbusy.trans (List.sublist_append_left _ _).countP_le)

/-! ## The greedy assignment -/

variable (w)

/-- The starts of a list of jobs, each on the slot of its class that is free first. -/
def Load.greedy (slots : κ → List Int) : List J → List Int
  | [] => []
  | j :: rest =>
    let own := slots (w.cls j)
    let k := (earliest own).getD 0
    let s := max (w.ready j) (own.getD k 0)
    s :: greedy (Function.update slots (w.cls j) (own.set k (s + w.service j))) rest

variable (start) in
/-- The slots of each class after the jobs of a list: as many as it has servers, and as many still
taken at any tick as jobs are unfinished then. -/
def Load.Slots (slots : κ → List Int) (jobs : List J) : Prop :=
  ∀ c, (slots c).length = w.capacity c ∧
    ∀ t, 0 ≤ t → (slots c).countP (t < ·) = min (w.capacity c) (w.busy start jobs c t)

variable {w}

@[simp] theorem Load.length_greedy (slots : κ → List Int) (jobs : List J) :
    (w.greedy slots jobs).length = jobs.length := by
  induction jobs generalizing slots with
  | nil => rfl
  | cons j rest ih => simp [greedy, ih]

/-- Slots that are free at tick zero. -/
theorem Load.slots_init : w.Slots start (fun c => List.replicate (w.capacity c) 0) [] := by
  intro c
  refine ⟨List.length_replicate, fun t ht => ?_⟩
  simp [busy, ht]

/-- One more job is busy until it finishes. -/
theorem Load.busy_concat (jobs : List J) (j : J) (c : κ) (t : Int) :
    w.busy start (jobs ++ [j]) c t =
      w.busy start jobs c t + if w.cls j = c ∧ t < w.finish start j then 1 else 0 := by
  simp [busy, List.countP_append, List.countP_cons]

/-- A job that takes the earliest slot keeps the slots in step with the jobs. -/
theorem Load.Slots.place {slots : κ → List Int} {pre : List J} (h : w.Slots start slots pre) {j : J}
    {k : Nat} (hk : earliest (slots (w.cls j)) = some k) (hservice : 0 ≤ w.service j)
    (hstart : start j = max (w.ready j) ((slots (w.cls j)).getD k 0)) :
    w.Slots start (Function.update slots (w.cls j) ((slots (w.cls j)).set k (w.finish start j)))
      (pre ++ [j]) := by
  intro c
  obtain ⟨hlen, hcount⟩ := h c
  by_cases hc : w.cls j = c
  · subst hc
    rw [Function.update_self]
    refine ⟨by rw [List.length_set, hlen], fun t ht => ?_⟩
    have hbefore := hcount t ht
    have hfree := countP_lt_length_iff hk t
    have hkl := earliest_lt hk
    have hslot : (slots (w.cls j)).getD k 0 = (slots (w.cls j))[k] := List.getD_eq_getElem _ _ hkl
    have hle : (slots (w.cls j)).getD k 0 ≤ w.finish start j := by
      have := le_max_right (w.ready j) ((slots (w.cls j)).getD k 0)
      rw [finish]; omega
    have hpos : t < (slots (w.cls j))[k] → 0 < (slots (w.cls j)).countP (t < ·) := fun hlt =>
      List.countP_pos_iff.2 ⟨_, List.getElem_mem hkl, decide_eq_true hlt⟩
    rw [List.countP_set hkl, busy_concat]
    simp only [decide_eq_true_eq, true_and]
    rw [hslot] at hfree hle
    split <;> split <;> omega
  · rw [Function.update_of_ne (Ne.symm hc)]
    exact ⟨hlen, fun t ht => by simp [busy_concat, hc, hcount t ht]⟩

/-- The job that takes the earliest slot starts as soon as it is ready and a slot is free. -/
theorem Load.Slots.start_le_iff {slots : κ → List Int} {pre : List J} (h : w.Slots start slots pre)
    {j : J} {k : Nat} (hk : earliest (slots (w.cls j)) = some k) (hready : 0 ≤ w.ready j)
    (hstart : start j = max (w.ready j) ((slots (w.cls j)).getD k 0)) (t : Int) :
    start j ≤ t ↔ w.ready j ≤ t ∧ w.busy start pre (w.cls j) t < w.capacity (w.cls j) := by
  obtain ⟨hlen, hcount⟩ := h (w.cls j)
  rw [hstart, max_le_iff]
  refine and_congr_right fun hr => ?_
  have hbefore := hcount t (hready.trans hr)
  rw [← countP_lt_length_iff hk t]
  omega

/-- The invariant of the greedy assignment, after the jobs `pre`. -/
theorem Load.Slots.greedy {slots : κ → List Int} {pre rest : List J} (h : w.Slots start slots pre)
    (hready : ∀ j ∈ rest, 0 ≤ w.ready j) (hservice : ∀ j ∈ rest, 0 ≤ w.service j)
    (hcap : ∀ j ∈ rest, 0 < w.capacity (w.cls j)) (hstart : rest.map start = w.greedy slots rest) :
    ∀ mid j post, rest = mid ++ j :: post → ∀ t,
      start j ≤ t ↔
        w.ready j ≤ t ∧ w.busy start (pre ++ mid) (w.cls j) t < w.capacity (w.cls j) := by
  induction rest generalizing slots pre with
  | nil => intro mid j post hsplit; simp at hsplit
  | cons i rest ih =>
    have hne : earliest (slots (w.cls i)) ≠ none := by
      rw [Ne, earliest_eq_none, ← List.length_eq_zero_iff, (h (w.cls i)).1]
      exact (hcap i (.head _)).ne'
    obtain ⟨k, hk⟩ := Option.ne_none_iff_exists'.1 hne
    simp only [List.map_cons, Load.greedy, hk, Option.getD_some, List.cons.injEq] at hstart
    obtain ⟨hi, hrest⟩ := hstart
    intro mid j post hsplit t
    cases mid with
    | nil =>
      obtain ⟨rfl, rfl⟩ := List.cons.inj hsplit
      simpa using h.start_le_iff hk (hready i (.head _)) hi t
    | cons i' mid =>
      obtain ⟨rfl, rfl⟩ := List.cons.inj hsplit
      rw [← hi] at hrest
      have hnext := h.place hk (hservice i (.head _)) hi
      have := ih hnext (fun j hj => hready j (.tail _ hj)) (fun j hj => hservice j (.tail _ hj))
        (fun j hj => hcap j (.tail _ hj)) hrest mid j post rfl t
      simpa using this

/-- **The greedy assignment is first come, first served.** -/
theorem greedy_firstCome {jobs : List J} (hready : ∀ j ∈ jobs, 0 ≤ w.ready j)
    (hservice : ∀ j ∈ jobs, 0 ≤ w.service j) (hcap : ∀ j ∈ jobs, 0 < w.capacity (w.cls j))
    (hstart : jobs.map start = w.greedy (fun c => List.replicate (w.capacity c) 0) jobs) :
    FirstCome w start jobs := by
  intro pre j post hsplit t
  simpa using Load.slots_init.greedy hready hservice hcap hstart pre j post hsplit t

/-- Starts listed in the order of distinct jobs are the values of a function. -/
theorem exists_map_eq {jobs : List J} (h : jobs.Nodup) {starts : List Int}
    (hlen : starts.length = jobs.length) : ∃ start : J → Int, jobs.map start = starts := by
  classical
  refine ⟨fun j => starts.getD (jobs.idxOf j) 0, List.ext_getElem (by simp [hlen]) ?_⟩
  intro n h1 h2
  rw [List.getElem_map, h.idxOf_getElem, List.getD_eq_getElem _ _ h2]

end

end Fcfs
