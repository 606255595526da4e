import Mathlib.Algebra.Order.Ring.Rat
import LawFirmDigitalTwin.PyValue

/-!
# Decimal amounts

Python's `decimal.Decimal` under the default context (28 digits, round half even, exponents from
-999999 to 999999, traps on invalid operations and overflow), as far as the finance ledger uses it.
The ledger is written over the class `Amount`, which has two instances: `Decimal`, and `ℚ` for exact
arithmetic on finite amounts.
-/

namespace LawFirmDigitalTwin

/-- A `decimal.Decimal`. -/
inductive Decimal
  | finite (neg : Bool) (coefficient : Nat) (exponent : Int)
  | infinity (neg : Bool)
  | nan (neg : Bool) (signaling : Bool) (payload : Nat)
  deriving DecidableEq

namespace Decimal

/-- The precision and the exponent range of the default context. -/
def prec : Nat := 28
def emin : Int := -999999
def emax : Int := 999999
def etiny : Int := emin - prec + 1
def etop : Int := emax - prec + 1

/-- The number of digits of a coefficient. -/
def numDigits (n : Nat) : Nat := (Nat.toDigits 10 n).length

/-- `n / 10 ^ k`, rounded to the nearest integer and to the even one when two are nearest. -/
def roundHalfEven (n k : Nat) : Nat :=
  let q := n / 10 ^ k
  let r := 2 * (n % 10 ^ k)
  if 10 ^ k < r ∨ (r = 10 ^ k ∧ q % 2 = 1) then q + 1 else q

/-- A result brought into the default context. -/
def fix : Decimal → Except PyError Decimal
  | .finite neg 0 e => .ok (.finite neg 0 (min (max e etiny) emax))
  | .finite neg n e =>
    let top := numDigits n + e - prec
    let low := max top etiny
    if etop < top then .error .decimalOverflow
    else if e < low then
      let q := roundHalfEven n (low - e).toNat
      let (q, low) := if q = 10 ^ prec then (10 ^ (prec - 1), low + 1) else (q, low)
      if etop < low then .error .decimalOverflow else .ok (.finite neg q low)
    else .ok (.finite neg n e)
  | .nan neg signaling payload => .ok (.nan neg signaling (payload % 10 ^ prec))
  | .infinity neg => .ok (.infinity neg)

/-- The coefficient with its sign, scaled to the exponent `m`. -/
def scaled (neg : Bool) (n : Nat) (e m : Int) : Int :=
  (if neg then -1 else 1) * (n * 10 ^ (e - m).toNat)

/-- `a + b`. -/
def add : Decimal → Decimal → Except PyError Decimal
  | .nan _ true _, _ | _, .nan _ true _ => .error .invalidOperation
  | .nan neg false p, _ | _, .nan neg false p => fix (.nan neg false p)
  | .infinity s, .infinity t => if s = t then .ok (.infinity s) else .error .invalidOperation
  | .infinity s, _ | _, .infinity s => .ok (.infinity s)
  | .finite s a e, .finite t b f =>
    let m := min e f
    let sum := scaled s a e m + scaled t b f m
    let neg := if sum = 0 then a = 0 ∧ b = 0 ∧ s ∧ t else sum < 0
    fix (.finite neg sum.natAbs m)

/-- `-a`, without rounding. -/
def copyNegate : Decimal → Decimal
  | .finite neg n e => .finite (!neg) n e
  | .infinity neg => .infinity (!neg)
  | .nan neg s p => .nan (!neg) s p

/-- `a - b`. -/
def sub : Decimal → Decimal → Except PyError Decimal
  | .nan _ true _, _ | _, .nan _ true _ => .error .invalidOperation
  | .nan neg false p, _ | _, .nan neg false p => fix (.nan neg false p)
  | a, b => add a (copyNegate b)

/-- `abs(d)`. -/
def abs : Decimal → Except PyError Decimal
  | .nan _ true _ => .error .invalidOperation
  | .nan neg false p => fix (.nan neg false p)
  | .infinity _ => .ok (.infinity false)
  | .finite _ n e => fix (.finite false n e)

/-- The order of two amounts that are not NaN. -/
def compare : Decimal → Decimal → Except PyError Ordering
  | .nan .., _ | _, .nan .. => .error .invalidOperation
  | .infinity s, .infinity t => .ok (Ord.compare (!s) (!t))
  | .infinity s, _ => .ok (if s then .lt else .gt)
  | _, .infinity s => .ok (if s then .gt else .lt)
  | .finite s a e, .finite t b f =>
    .ok (Ord.compare (scaled s a e (min e f)) (scaled t b f (min e f)))

/-- `a <= b`. -/
def le (a b : Decimal) : Except PyError Bool := (compare a b).map Ordering.isLE

/-- `a < b`. -/
def lt (a b : Decimal) : Except PyError Bool := (compare a b).map Ordering.isLT

/-- `a == b`: a quiet NaN equals nothing, a signaling one raises. -/
def eq : Decimal → Decimal → Except PyError Bool
  | .nan _ true _, _ | _, .nan _ true _ => .error .invalidOperation
  | .nan _ false _, _ | _, .nan _ false _ => .ok false
  | a, b => (compare a b).map Ordering.isEq

/-- An amount goes before the amounts that are not less. -/
def insertSorted (d : Decimal) : List Decimal → Except PyError (List Decimal)
  | [] => .ok [d]
  | x :: xs => do
    if ← lt x d then return x :: (← insertSorted d xs)
    else return d :: x :: xs

/-- `sorted(ds)`: equal amounts stay in their order. -/
def sorted : List Decimal → Except PyError (List Decimal)
  | [] => .ok []
  | d :: ds => do insertSorted d (← sorted ds)

/-! ## Text -/

/-- Digits as they come. -/
def digits? (cs : List Char) : Option (List Nat) := cs.mapM decimalDigit?

/-- An exponent part: nothing, or `E` and an integer. -/
def exponent? : List Char → Option Int
  | [] => some 0
  | c :: cs =>
    if c = 'e' ∨ c = 'E' then
      match takeSign cs with
      | (_, []) => none
      | (neg, ds) => (digits? ds).map fun n => if neg then -(digitsValue n : Int) else digitsValue n
    else none

/-- The text of a finite amount without its sign. -/
def finite? (neg : Bool) (cs : List Char) : Option Decimal :=
  let int := cs.takeWhile fun c => (decimalDigit? c).isSome
  let rest := cs.dropWhile fun c => (decimalDigit? c).isSome
  let (frac, rest) := match rest with
    | '.' :: rest => (rest.takeWhile fun c => (decimalDigit? c).isSome,
        rest.dropWhile fun c => (decimalDigit? c).isSome)
    | rest => ([], rest)
  if int = [] ∧ frac = [] then none
  else do
    let e ← exponent? rest
    return .finite neg (digitsValue (← digits? (int ++ frac))) (e - frac.length)

/-- The text of a special value without its sign, in lower case. -/
def special? (neg : Bool) (cs : List Char) : Option Decimal :=
  if cs = "inf".toList ∨ cs = "infinity".toList then some (.infinity neg)
  else if "nan".toList.isPrefixOf cs then
    (digits? (cs.drop 3)).map fun p => .nan neg false (digitsValue p)
  else if "snan".toList.isPrefixOf cs then
    (digits? (cs.drop 4)).map fun p => .nan neg true (digitsValue p)
  else none

/-- `Decimal(text)`. -/
def ofText (text : String) : Except PyError Decimal :=
  let (neg, cs) := takeSign ((strip text.toList).filter (· ≠ '_'))
  match finite? neg cs <|> special? neg (cs.map Char.toLower) with
  | some d => .ok d
  | none => .error .invalidOperation

/-- `str(d)`. -/
def toText : Decimal → String
  | .infinity neg => (if neg then "-" else "") ++ "Infinity"
  | .nan neg signaling p =>
    (if neg then "-" else "") ++ (if signaling then "sNaN" else "NaN") ++
      (if p = 0 then "" else toString p)
  | .finite neg n e =>
    let ds := Nat.toDigits 10 n
    let leftdigits := e + ds.length
    let dotplace := if e ≤ 0 ∧ -6 < leftdigits then leftdigits else 1
    let body :=
      if dotplace ≤ 0 then '0' :: '.' :: (List.replicate (-dotplace).toNat '0' ++ ds)
      else if ds.length ≤ dotplace then ds ++ List.replicate (dotplace - ds.length).toNat '0'
      else ds.take dotplace.toNat ++ '.' :: ds.drop dotplace.toNat
    let exp :=
      if leftdigits = dotplace then ""
      else (if leftdigits < dotplace then "E" else "E+") ++ toString (leftdigits - dotplace)
    (if neg then "-" else "") ++ String.ofList body ++ exp

example : (ofText " 1_0.50e-1 ").map toText = .ok "1.050" := by decide +kernel

end Decimal

/-- The arithmetic a finance ledger is kept in. -/
class Amount (α : Type) where
  /-- `Decimal("0.00")`. -/
  zero : α
  add : α → α → Except PyError α
  sub : α → α → Except PyError α
  le : α → α → Except PyError Bool
  lt : α → α → Except PyError Bool
  eq : α → α → Except PyError Bool

instance : Amount Decimal where
  zero := .finite false 0 (-2)
  add := Decimal.add
  sub := Decimal.sub
  le := Decimal.le
  lt := Decimal.lt
  eq := Decimal.eq

/-- Exact arithmetic. -/
instance : Amount ℚ where
  zero := 0
  add a b := .ok (a + b)
  sub a b := .ok (a - b)
  le a b := .ok (a ≤ b)
  lt a b := .ok (a < b)
  eq a b := .ok (a = b)

/-! ## Finite amounts -/

namespace Decimal

/-- A finite amount. -/
def IsFinite : Decimal → Prop
  | .finite .. => True
  | .infinity _ | .nan .. => False

/-- How two finite amounts compare. -/
theorem lt_cases {d d' : Decimal} (h : d.IsFinite) (h' : d'.IsFinite) :
    (lt d d' = .ok true ∧ lt d' d = .ok false ∧ eq d d' = .ok false) ∨
      (lt d d' = .ok false ∧ lt d' d = .ok true ∧ eq d d' = .ok false) ∨
        lt d d' = .ok false ∧ lt d' d = .ok false ∧ eq d d' = .ok true := by
  cases d with
  | infinity | nan => exact h.elim
  | finite s a e =>
    cases d' with
    | infinity | nan => exact h'.elim
    | finite t b f =>
      simp only [lt, eq, compare, Except.map, min_comm f e]
      rcases lt_trichotomy (scaled s a e (min e f)) (scaled t b f (min e f)) with hlt | heq | hgt
      · rw [compare_lt_iff_lt.2 hlt, compare_gt_iff_gt.2 hlt]
        exact .inl ⟨rfl, rfl, rfl⟩
      · rw [heq, compare_eq_iff_eq.2 rfl]
        exact .inr (.inr ⟨rfl, rfl, rfl⟩)
      · rw [compare_lt_iff_lt.2 hgt, compare_gt_iff_gt.2 hgt]
        exact .inr (.inl ⟨rfl, rfl, rfl⟩)

/-- Two amounts are sorted by one comparison. -/
theorem sorted_pair {d d' : Decimal} {b : Bool} (h : lt d' d = .ok b) :
    sorted [d, d'] = .ok (if b then [d', d] else [d, d']) := by
  have hinsert : sorted [d, d'] = insertSorted d [d'] := rfl
  rw [hinsert, insertSorted, h]
  cases b <;> rfl

/-- Equal amounts differ by a zero, of an exponent that does not depend on their order. -/
theorem sub_of_eq {s t : Bool} {a b : Nat} {e f : Int}
    (h : eq (.finite s a e) (.finite t b f) = .ok true) :
    ∃ neg, sub (.finite t b f) (.finite s a e) =
      .ok (.finite neg 0 (min (max (min e f) etiny) emax)) := by
  have hscaled : scaled s a e (min e f) = scaled t b f (min e f) := by
    have hmap : (Ord.compare (scaled s a e (min e f)) (scaled t b f (min e f))).isEq = true :=
      Except.ok.inj h
    exact compare_eq_iff_eq.1 (by simpa using hmap)
  have hneg : scaled (!s) a e (min e f) = -scaled s a e (min e f) := by
    cases s <;> simp [scaled]
  have hsum : scaled t b f (min e f) + scaled (!s) a e (min e f) = 0 := by
    rw [hneg, hscaled, add_neg_cancel]
  refine ⟨b = 0 ∧ a = 0 ∧ t ∧ !s, ?_⟩
  show add (.finite t b f) (.finite (!s) a e) = _
  simp only [add, min_comm f e, hsum, if_true]
  rfl

end Decimal

/-! ## Zero amounts -/

namespace Decimal

/-- A zero, of either sign and any exponent. -/
def IsZero (d : Decimal) : Prop := ∃ neg e, d = .finite neg 0 e

@[simp] theorem scaled_zero (neg : Bool) (e m : Int) : scaled neg 0 e m = 0 := by
  simp [scaled]

/-- A scaled coefficient is zero where the coefficient is. -/
theorem scaled_eq_zero {neg : Bool} {n : Nat} {e m : Int} (h : scaled neg n e m = 0) : n = 0 := by
  unfold scaled at h
  rcases mul_eq_zero.1 h with h | h
  · cases neg <;> cases h
  · rcases mul_eq_zero.1 h with h | h
    · exact_mod_cast h
    · exact absurd h (pow_ne_zero _ (by decide))

/-- A coefficient that is neither negative nor positive is zero. -/
theorem scaled_eq_zero_of_bounds {neg : Bool} {n : Nat} {e m m' : Int} (h : 0 ≤ scaled neg n e m)
    (h' : scaled neg n e m' ≤ 0) : n = 0 := by
  cases neg with
  | false =>
    have hz : scaled false n e m' = 0 := le_antisymm h' (by simp [scaled])
    exact scaled_eq_zero hz
  | true =>
    have hz : scaled true n e m = 0 := le_antisymm (by simp [scaled]) h
    exact scaled_eq_zero hz

/-- An amount is compared with zero by its sign. -/
theorem compare_zero (neg neg' : Bool) (n : Nat) (e e' : Int) :
    compare (.finite neg n e) (.finite neg' 0 e') =
      .ok (Ord.compare (scaled neg n e (min e e')) 0) := by
  simp [compare]

/-- Only a zero equals `Decimal("0.00")`. -/
theorem isZero_iff_eq {d : Decimal} : d.IsZero ↔ Amount.eq d Amount.zero = .ok true := by
  cases d with
  | finite neg n e =>
    have heq : Amount.eq (Decimal.finite neg n e) Amount.zero =
        .ok (Ord.compare (scaled neg n e (min e (-2))) 0).isEq := by
      show Except.map Ordering.isEq (compare (.finite neg n e) (.finite false 0 (-2))) = _
      rw [compare_zero]; rfl
    rw [heq]
    constructor
    · rintro ⟨neg', e', h⟩
      cases h
      simp
    · intro h
      refine ⟨neg, e, ?_⟩
      have hc : Ord.compare (scaled neg n e (min e (-2))) 0 = .eq := by
        simpa using Except.ok.inj h
      rw [scaled_eq_zero (compare_eq_iff_eq.1 hc)]
  | infinity neg =>
    constructor
    · rintro ⟨_, _, h⟩; cases h
    · intro h; cases neg <;> cases h
  | nan neg signaling p =>
    constructor
    · rintro ⟨_, _, h⟩; cases h
    · intro h; cases signaling <;> cases h

/-- A zero passes no test for a positive amount. -/
theorem IsZero.le {d : Decimal} (h : d.IsZero) : Amount.le d Amount.zero = .ok true := by
  obtain ⟨neg, e, rfl⟩ := h
  show Except.map Ordering.isLE (compare (.finite neg 0 e) (.finite false 0 (-2))) = _
  rw [compare_zero, scaled_zero]; rfl

/-- The difference of two zeros is a zero. -/
theorem IsZero.sub {a b r : Decimal} (ha : a.IsZero) (hb : b.IsZero) (h : Amount.sub a b = .ok r) :
    r.IsZero := by
  obtain ⟨s, e, rfl⟩ := ha
  obtain ⟨t, f, rfl⟩ := hb
  have hs : Amount.sub (Decimal.finite s 0 e) (.finite t 0 f) =
      .ok (.finite (s && !t) 0 (min (max (min e f) etiny) emax)) := by
    show add (.finite s 0 e) (.finite (!t) 0 f) = _
    simp [add, fix]
  rw [hs] at h
  cases h
  exact ⟨_, _, rfl⟩

/-- What is not less is at least as large. -/
theorem le_of_isLT {i j : Int} (h : (Ord.compare i j).isLT = false) : j ≤ i := by
  refine not_lt.1 fun hlt => ?_
  rw [compare_lt_iff_lt.2 hlt] at h
  cases h

/-- What lies between nothing and a zero is a zero. -/
theorem IsZero.of_bounds {a b : Decimal} (ha : a.IsZero) (h0 : Amount.lt b Amount.zero = .ok false)
    (h1 : Amount.lt a b = .ok false) : b.IsZero := by
  obtain ⟨s, e, rfl⟩ := ha
  cases b with
  | finite neg n f =>
    have h0' : Except.map Ordering.isLT (compare (.finite neg n f) (.finite false 0 (-2))) =
        .ok false := h0
    have h1' : Except.map Ordering.isLT (compare (.finite s 0 e) (.finite neg n f)) =
        .ok false := h1
    simp only [compare, scaled_zero, Except.map] at h0' h1'
    refine ⟨neg, f, ?_⟩
    rw [scaled_eq_zero_of_bounds (le_of_isLT (Except.ok.inj h0')) (le_of_isLT (Except.ok.inj h1'))]
  | infinity neg =>
    cases neg with
    | false => cases h1
    | true => cases h0
  | nan neg signaling p => cases h0

end Decimal

section
variable (a b : ℚ)

@[simp] theorem Amount.zero_rat : (Amount.zero : ℚ) = 0 := rfl
@[simp] theorem Amount.add_rat : Amount.add a b = .ok (a + b) := rfl
@[simp] theorem Amount.sub_rat : Amount.sub a b = .ok (a - b) := rfl
@[simp] theorem Amount.le_rat : Amount.le a b = .ok (decide (a ≤ b)) := rfl
@[simp] theorem Amount.lt_rat : Amount.lt a b = .ok (decide (a < b)) := rfl
@[simp] theorem Amount.eq_rat : Amount.eq a b = .ok (decide (a = b)) := rfl

end

end LawFirmDigitalTwin
