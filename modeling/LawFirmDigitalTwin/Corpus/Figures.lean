import Mathlib.Algebra.Order.Floor.Ring
import Mathlib.Data.Rat.Floor
import Mathlib.Data.Prod.Lex
import Mathlib.Tactic.Linarith
import Mathlib.Tactic.Ring
import LawFirmDigitalTwin.HashIO
import LawFirmDigitalTwin.Lib.Groups

/-!
# The figures of a corpus

The numbers the corpus reports are made of. Ratios are taken exactly; the thresholds of a policy are
floats, which may be infinite or not a number. What a set yields first is not determined by the
program, so that an iteration over a set takes the order it happens in.
-/

namespace LawFirmDigitalTwin

open Groups

/-- A float: its exact value, or one of the values that are not numbers. -/
inductive PyFloat
  | finite (q : ℚ)
  | infinity
  | negInfinity
  | nan
  deriving DecidableEq

namespace PyFloat

/-- `a < b`. -/
def lt : PyFloat → PyFloat → Bool
  | .finite a, .finite b => a < b
  | .finite _, .infinity | .negInfinity, .finite _ | .negInfinity, .infinity => true
  | _, _ => false

/-- `a <= b`. -/
def le : PyFloat → PyFloat → Bool
  | .finite a, .finite b => a ≤ b
  | .finite _, .infinity | .negInfinity, .finite _ | .negInfinity, .infinity => true
  | .infinity, .infinity | .negInfinity, .negInfinity => true
  | _, _ => false

end PyFloat

/-- The severity of a finding. -/
inductive Severity
  | error
  | warning
  | info
  deriving DecidableEq

def Severity.value : Severity → String
  | .error => "error"
  | .warning => "warning"
  | .info => "info"

/-- `a / b if b else 0.0`. -/
def ratio (a b : Nat) : ℚ := if b = 0 then 0 else a / b

/-- The nearest integer, of two the even one. -/
def nearestEven (q : ℚ) : Int :=
  if q - ⌊q⌋ < 1 / 2 then ⌊q⌋
  else if 1 / 2 < q - ⌊q⌋ then ⌊q⌋ + 1
  else if ⌊q⌋ % 2 = 0 then ⌊q⌋ else ⌊q⌋ + 1

/-- `round(q, digits)`. -/
def roundTo (digits : Nat) (q : ℚ) : ℚ := nearestEven (q * 10 ^ digits) / 10 ^ digits

/-- `statistics.median` of a list that is not empty. -/
def median (data : List ℚ) : ℚ :=
  let sorted := data.insertionSort (· ≤ ·)
  let n := sorted.length
  if n % 2 = 1 then sorted.getD (n / 2) 0
  else (sorted.getD (n / 2 - 1) 0 + sorted.getD (n / 2) 0) / 2

/-- The median does not depend on the order. -/
theorem median_perm {data data' : List ℚ} (h : data.Perm data') : median data = median data' := by
  rw [median, median, insertionSort_perm h]

/-- The median lies where the data lie. -/
theorem median_mem {data : List ℚ} {a b : ℚ} (ha : a ≤ 0) (hb : 0 ≤ b)
    (h : ∀ q ∈ data, a ≤ q ∧ q ≤ b) : a ≤ median data ∧ median data ≤ b := by
  have hget : ∀ i, a ≤ (data.insertionSort (· ≤ ·)).getD i 0 ∧
      (data.insertionSort (· ≤ ·)).getD i 0 ≤ b := by
    intro i
    rw [List.getD_eq_getElem?_getD]
    cases hi : (data.insertionSort (· ≤ ·))[i]? with
    | none => exact ⟨ha, hb⟩
    | some q => exact h q ((List.perm_insertionSort _ _).mem_iff.1 (List.mem_of_getElem? hi))
  simp only [median]
  split
  · exact hget _
  · have hleft := hget ((data.insertionSort (· ≤ ·)).length / 2 - 1)
    have hright := hget ((data.insertionSort (· ≤ ·)).length / 2)
    constructor <;> linarith

/-- The median of equal figures. -/
theorem median_of_forall_eq {data : List ℚ} {q : ℚ} (hne : data ≠ []) (h : ∀ x ∈ data, x = q) :
    median data = q := by
  have hdata : data.insertionSort (· ≤ ·) = List.replicate data.length q :=
    List.eq_replicate_iff.2 ⟨List.length_insertionSort _ _, fun x hx =>
      h x ((List.perm_insertionSort _ _).mem_iff.1 hx)⟩
  have hpos := List.length_pos_iff.2 hne
  have hget : ∀ i < data.length, (List.replicate data.length q).getD i 0 = q := by
    intro i hi
    rw [List.getD_eq_getElem?_getD, List.getElem?_replicate, if_pos hi]
    rfl
  simp only [median, hdata, List.length_replicate]
  split
  · exact hget _ (by omega)
  · rw [hget _ (by omega), hget _ (by omega)]
    ring

/-- An order in which the elements of a set are met, given the order in which they were added. -/
structure SetOrder (α : Type) where
  iterate : List α → List α
  perm : ∀ elements, (iterate elements).Perm elements

/-- The order of insertion. -/
def SetOrder.ofInsertion (α : Type) : SetOrder α := ⟨id, fun _ => .rfl⟩

/-- `next(iter(s))` of the set with these elements, if there are any. -/
def SetOrder.first {α : Type} (order : SetOrder α) (elements : List α) : Option α :=
  (order.iterate elements).head?

@[simp] theorem SetOrder.first_ofInsertion {α : Type} (elements : List α) :
    (ofInsertion α).first elements = elements.head? := rfl

/-- A set that is not empty has a first element. -/
theorem SetOrder.first_eq_some {α : Type} (order : SetOrder α) {elements : List α}
    (h : elements ≠ []) : ∃ a ∈ elements, order.first elements = some a := by
  cases hiterate : order.iterate elements with
  | nil => exact absurd ((hiterate ▸ order.perm elements).nil_eq).symm h
  | cons a rest =>
    refine ⟨a, (order.perm elements).mem_iff.1 (hiterate ▸ .head _), ?_⟩
    rw [SetOrder.first, hiterate]
    rfl

/-- The size of the intersection of two sets over that of their union. -/
def jaccard (left right : List String) : ℚ :=
  let union := distinct (left ++ right)
  if union = [] then 1
  else ((distinct (left.filter (· ∈ right))).length : ℚ) / union.length

/-- The similarity of two lists is that of their sets. -/
theorem jaccard_eq (left right : List String) :
    jaccard left right =
      if left.toFinset ∪ right.toFinset = ∅ then 1
      else ((left.toFinset ∩ right.toFinset).card : ℚ) / (left.toFinset ∪ right.toFinset).card := by
  have hinter : (left.filter (· ∈ right)).toFinset = left.toFinset ∩ right.toFinset := by
    ext a
    simp
  have hempty : distinct (left ++ right) = [] ↔ left.toFinset ∪ right.toFinset = ∅ := by
    rw [distinct_eq_nil, ← List.toFinset_append, List.toFinset_eq_empty_iff]
  simp only [jaccard, hempty, length_distinct, hinter, List.toFinset_append]

/-- No similarity is negative. -/
theorem jaccard_nonneg (left right : List String) : 0 ≤ jaccard left right := by
  rw [jaccard_eq]
  split
  · exact zero_le_one
  · exact div_nonneg (Nat.cast_nonneg _) (Nat.cast_nonneg _)

/-- No similarity is above one. -/
theorem jaccard_le_one (left right : List String) : jaccard left right ≤ 1 := by
  rw [jaccard_eq]
  split
  · exact le_rfl
  · have hcard := Finset.card_le_card
      (Finset.inter_subset_union (s := left.toFinset) (t := right.toFinset))
    exact div_le_one_of_le₀ (Nat.cast_le.2 hcard) (Nat.cast_nonneg _)

/-- Similarity is symmetric. -/
theorem jaccard_comm (left right : List String) : jaccard left right = jaccard right left := by
  have hunion : (distinct (left ++ right)).Perm (distinct (right ++ left)) :=
    distinct_perm List.perm_append_comm
  have hinter : (distinct (left.filter (· ∈ right))).Perm (distinct (right.filter (· ∈ left))) :=
    distinct_congr fun a => by simp [and_comm]
  simp only [jaccard, hunion.length_eq, hinter.length_eq]
  congr 1
  rw [eq_iff_iff, ← List.length_eq_zero_iff, ← List.length_eq_zero_iff, hunion.length_eq]

end LawFirmDigitalTwin
