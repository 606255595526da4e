import Mathlib.Algebra.Order.BigOperators.Group.List
import Mathlib.Data.List.Sort
import Mathlib.Data.Int.Order.Basic
import Mathlib.Tactic.Linarith

/-!
# Largest remainders

A total of `n` units is split over the items of a list: each item has an exact share of `f x / D`
units, is given its floor, and what is left goes, one unit each, to the first items of an order by
falling remainder. The leftover is smaller than the number of items with a remainder
(`Apportion.leftover_lt`), so only such items are rounded up; and how many items of each remainder
are rounded up does not depend on how the order breaks ties (`Apportion.Falls.map_take_eq`).
-/

namespace Apportion

variable {α : Type*} {f : α → ℤ} {D n : ℤ}

/-- What the floors leave of a total of `n`. -/
def leftover (f : α → ℤ) (D n : ℤ) (xs : List α) : ℤ :=
  n - (xs.map fun x => f x / D).sum

/-- The number of items whose share is not whole. -/
def fractional (f : α → ℤ) (D : ℤ) (xs : List α) : Nat :=
  xs.countP fun x => f x % D ≠ 0

/-- Division with remainder, summed. -/
theorem sum_div_mod (f : α → ℤ) (D : ℤ) (xs : List α) :
    D * (xs.map fun x => f x / D).sum + (xs.map fun x => f x % D).sum = (xs.map f).sum := by
  induction xs with
  | nil => simp
  | cons x xs ih =>
    have hx := Int.mul_ediv_add_emod (f x) D
    simp only [List.map_cons, List.sum_cons, mul_add]
    omega

/-- What the floors leave is made of the remainders. -/
theorem mul_leftover {xs : List α} (h : (xs.map f).sum = D * n) :
    D * leftover f D n xs = (xs.map fun x => f x % D).sum := by
  have hsum := sum_div_mod f D xs
  rw [leftover, mul_sub]
  omega

/-- The remainders of the shares have no negative sum. -/
theorem sum_mod_nonneg (hD : 0 < D) (xs : List α) : 0 ≤ (xs.map fun x => f x % D).sum :=
  List.sum_nonneg fun r hr => by
    obtain ⟨x, -, rfl⟩ := List.mem_map.1 hr
    exact Int.emod_nonneg _ hD.ne'

/-- The remainders fall short of a unit each. -/
theorem sum_mod_le (hD : 0 < D) (xs : List α) :
    (xs.map fun x => f x % D).sum ≤ (D - 1) * fractional f D xs := by
  induction xs with
  | nil => simp [fractional]
  | cons x xs ih =>
    have hlt := Int.emod_lt_of_pos (f x) hD
    rw [List.map_cons, List.sum_cons]
    by_cases hx : f x % D = 0
    · have hcount : fractional f D (x :: xs) = fractional f D xs :=
        List.countP_cons_of_neg fun h => of_decide_eq_true h hx
      rw [hcount]
      omega
    · have hcount : fractional f D (x :: xs) = fractional f D xs + 1 :=
        List.countP_cons_of_pos (decide_eq_true hx)
      rw [hcount, Nat.cast_add, Nat.cast_one, mul_add, mul_one]
      omega

/-- What the floors leave over is not negative. -/
theorem leftover_nonneg (hD : 0 < D) {xs : List α} (h : (xs.map f).sum = D * n) :
    0 ≤ leftover f D n xs := by
  have hnonneg := sum_mod_nonneg (f := f) hD xs
  rw [← mul_leftover h] at hnonneg
  exact nonneg_of_mul_nonneg_right hnonneg hD

/-- What is left is less than one unit for each share that is not whole. -/
theorem leftover_lt (hD : 0 < D) {xs : List α} (h : (xs.map f).sum = D * n)
    (hpos : 0 < leftover f D n xs) : leftover f D n xs < fractional f D xs := by
  have hle := sum_mod_le (f := f) hD xs
  rw [← mul_leftover h] at hle
  by_contra hge
  have hmul : (D - 1) * (fractional f D xs : ℤ) ≤ (D - 1) * leftover f D n xs :=
    mul_le_mul_of_nonneg_left (not_lt.1 hge) (by omega)
  rw [sub_one_mul D (leftover f D n xs)] at hmul
  omega

/-- What the floors leave over is at most one seat for each share with a remainder. -/
theorem leftover_le (hD : 0 < D) {xs : List α} (h : (xs.map f).sum = D * n) :
    leftover f D n xs ≤ fractional f D xs := by
  rcases (leftover_nonneg hD h).lt_or_eq with hpos | hzero
  · exact (leftover_lt hD h hpos).le
  · rw [← hzero]
    exact Int.natCast_nonneg _

/-! ## The order of the remainders -/

/-- An order of the items by falling remainder. -/
structure Falls (f : α → ℤ) (D : ℤ) (xs order : List α) : Prop where
  perm : order.Perm xs
  falling : order.Pairwise fun a b => f b % D ≤ f a % D

variable {xs order order' : List α} {k : Nat} {x y : α}

/-- Nothing with a larger remainder comes after what is taken. -/
theorem Falls.mem_take (h : Falls f D xs order) (hx : x ∈ order.take k) (hy : y ∈ xs)
    (hlt : f x % D < f y % D) : y ∈ order.take k := by
  have hy : y ∈ order.take k ++ order.drop k := by
    rw [List.take_append_drop]
    exact h.perm.mem_iff.2 hy
  rcases List.mem_append.1 hy with hy | hy
  · exact hy
  · have hfalling := h.falling
    rw [← List.take_append_drop k order, List.pairwise_append] at hfalling
    exact absurd (hfalling.2.2 x hx y hy) (not_le.2 hlt)

/-- As long as no more is taken than there are shares that are not whole, a whole share is not
taken. -/
theorem Falls.mod_ne_zero (hD : 0 < D) (h : Falls f D xs order) (hk : k ≤ fractional f D xs)
    (hx : x ∈ order.take k) : f x % D ≠ 0 := by
  intro hzero
  -- every share that is not whole comes before `x`
  have hall : ∀ y ∈ order, f y % D ≠ 0 → y ∈ order.take k := fun y hy hne =>
    h.mem_take hx (h.perm.mem_iff.1 hy) (by
      rw [hzero]
      exact (Int.emod_nonneg _ hD.ne').lt_of_ne' hne)
  have hdrop : (order.drop k).countP (fun y => f y % D ≠ 0) = 0 := by
    rw [List.countP_eq_zero]
    intro y hy hne
    have hfalling := h.falling
    rw [← List.take_append_drop k order, List.pairwise_append] at hfalling
    have hle := hfalling.2.2 x hx y hy
    have hnonneg := Int.emod_nonneg (f y) hD.ne'
    have hne := of_decide_eq_true hne
    omega
  have hcount : fractional f D xs = (order.take k).countP (fun y => f y % D ≠ 0) := by
    rw [fractional, ← h.perm.countP_eq, ← Nat.add_zero ((order.take k).countP _), ← hdrop,
      ← List.countP_append, List.take_append_drop]
  have hlt : (order.take k).countP (fun y => f y % D ≠ 0) < (order.take k).length := by
    refine lt_of_le_of_ne List.countP_le_length fun heq => ?_
    exact of_decide_eq_true (List.countP_eq_length.1 heq x hx) hzero
  have hlength : (order.take k).length ≤ k := List.length_take_le k order
  omega

/-- Two orders of the same items take the same remainders. -/
theorem Falls.map_take_eq (h : Falls f D xs order) (h' : Falls f D xs order') :
    (order.take k).map (fun x => f x % D) = (order'.take k).map fun x => f x % D := by
  have heq : order.map (fun x => f x % D) = order'.map fun x => f x % D :=
    ((h.perm.trans h'.perm.symm).map _).eq_of_pairwise
      (fun a b _ _ (hab : b ≤ a) (hba : a ≤ b) => le_antisymm hba hab)
      (List.pairwise_map.2 h.falling) (List.pairwise_map.2 h'.falling)
  rw [List.map_take, List.map_take, heq]

end Apportion
