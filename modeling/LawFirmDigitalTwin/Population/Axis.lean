import Mathlib.Algebra.BigOperators.Ring.Finset
import Mathlib.Algebra.BigOperators.Ring.List
import Mathlib.Data.Prod.Lex
import LawFirmDigitalTwin.PyValue
import LawFirmDigitalTwin.Lib.Apportion
import LawFirmDigitalTwin.Lib.Raising

/-!
# The quotas of a population axis

`_allocate_axis` of `case_manifest.py`. The matters of a population are spread over the buckets of
an axis by largest remainders; a digest of the seed breaks the ties and another shuffles the labels.
-/

namespace LawFirmDigitalTwin

open Raising Apportion

/-- `case_manifest.py` `WeightedBucket`. -/
structure WeightedBucket where
  bucketId : String
  weight : Int
  deriving DecidableEq

/-- `case_manifest.py` `PopulationAxis`. -/
structure PopulationAxis where
  axisId : String
  buckets : List WeightedBucket

/-- `xs[:n]`; a negative `n` counts from the end. -/
def sliceTo {α : Type} (xs : List α) (n : Int) : List α :=
  xs.take (if n < 0 then xs.length + n else n).toNat

namespace PopulationAxis

/-- The digest that breaks a tie between two remainders. -/
def tieBreak (axis : PopulationAxis) (seed : String) (b : WeightedBucket) : String :=
  digest (.dict [("seed", .str seed), ("axis", .str axis.axisId), ("bucket", .str b.bucketId)])

/-- The key of `remainder_order`. -/
def remainderKey (axis : PopulationAxis) (seed : String) (count : Int) (b : WeightedBucket) :
    Int ×ₗ String :=
  toLex (-(count * b.weight % 100), axis.tieBreak seed b)

/-- `remainder_order`. -/
def remainderOrder (axis : PopulationAxis) (seed : String) (count : Int) : List WeightedBucket :=
  axis.buckets.insertionSort fun a b => axis.remainderKey seed count a ≤ axis.remainderKey seed count b

/-- `allocations[bucket.bucket_id] += 1`. -/
def roundUp (allocations : PyDict Int) (b : WeightedBucket) : Except PyError (PyDict Int) := do
  let n ← allocations.getItem b.bucketId
  return allocations.set b.bucketId (n + 1)

/-- The token of one occurrence of a bucket. -/
def token (axis : PopulationAxis) (seed : String) (b : WeightedBucket) (index : Nat) :
    String ×ₗ String :=
  toLex (digest (.dict
    [("seed", .str seed), ("axis", .str axis.axisId), ("bucket", .str b.bucketId),
     ("occurrence", .int index)]), b.bucketId)

/-- The tokens of a bucket, one for each unit of its allocation. -/
def tokensOf (axis : PopulationAxis) (seed : String) (allocations : PyDict Int)
    (b : WeightedBucket) : Except PyError (List (String ×ₗ String)) := do
  let n ← allocations.getItem b.bucketId
  return (List.range n.toNat).map (axis.token seed b)

end PopulationAxis

open PopulationAxis

/-- `case_manifest.py` `_allocate_axis`. -/
def allocateAxis (axis : PopulationAxis) (seed : String) (count : Int) :
    Except PyError (List String) := do
  if count < 1 then throw (.valueError "population count must be positive")
  if (axis.buckets.map (·.weight)).sum ≠ 100 then
    throw (.valueError ("population axis " ++ axis.axisId ++ " must total 100"))
  let allocations := PyDict.ofEntries (axis.buckets.map fun b => (b.bucketId, count * b.weight / 100))
  let remaining := count - (allocations.entries.map (·.2)).sum
  let allocations ← (sliceTo (axis.remainderOrder seed count) remaining).foldlM roundUp allocations
  let tokens ← axis.buckets.mapM (axis.tokensOf seed allocations)
  return (tokens.flatten.insertionSort (· ≤ ·)).map fun t => (ofLex t).2

section
variable {axis : PopulationAxis} {seed : String} {count : Int}

/-! ## The order of the remainders -/

/-- The order of the remainders falls. -/
theorem falls_remainderOrder (axis : PopulationAxis) (seed : String) (count : Int) :
    Falls (fun b => count * b.weight) 100 axis.buckets (axis.remainderOrder seed count) where
  perm := List.perm_insertionSort _ _
  falling := by
    have htrans : IsTrans WeightedBucket fun a b =>
        axis.remainderKey seed count a ≤ axis.remainderKey seed count b := ⟨fun _ _ _ => le_trans⟩
    have htotal : Std.Total fun a b : WeightedBucket =>
        axis.remainderKey seed count a ≤ axis.remainderKey seed count b := ⟨fun _ _ => le_total _ _⟩
    refine (List.pairwise_insertionSort _ _).imp fun {a b} h => ?_
    have hfst : -(count * a.weight % 100) ≤ -(count * b.weight % 100) := Prod.Lex.monotone_fst _ _ h
    omega

/-! ## The allocations -/

/-- Rounding some buckets up adds one for each of them. -/
theorem foldlM_roundUp (bs : List WeightedBucket) {allocations : PyDict Int}
    (h : ∀ b ∈ bs, ∃ n, allocations.get? b.bucketId = some n) :
    ∃ allocations', bs.foldlM roundUp allocations = .ok allocations' ∧ ∀ key,
      allocations'.get? key =
        (allocations.get? key).map (· + ((bs.map (·.bucketId)).count key : Int)) := by
  induction bs generalizing allocations with
  | nil => exact ⟨allocations, rfl, fun key => by simp⟩
  | cons b bs ih =>
    obtain ⟨n, hn⟩ := h b (.head _)
    have hround : roundUp allocations b = .ok (allocations.set b.bucketId (n + 1)) := by
      rw [roundUp, PyDict.getItem, hn]
      rfl
    have hnext : ∀ b' ∈ bs, ∃ n', (allocations.set b.bucketId (n + 1)).get? b'.bucketId = some n' := by
      intro b' hb'
      rw [PyDict.get?_set]
      split
      · exact ⟨n + 1, rfl⟩
      · exact h b' (.tail _ hb')
    obtain ⟨allocations', hrun, hget⟩ := ih hnext
    refine ⟨allocations', by rw [List.foldlM_cons, hround]; exact hrun, fun key => ?_⟩
    rw [hget, PyDict.get?_set, List.map_cons, List.count_cons]
    split
    · next hkey =>
      subst hkey
      simp only [hn, Option.map_some, beq_self_eq_true, if_true, Option.some.injEq, Nat.cast_add,
        Nat.cast_one]
      omega
    · next hkey => simp [Ne.symm hkey]

/-- The labels of an allocation that rounds up the first `k` buckets of an order. -/
structure Allotted (axis : PopulationAxis) (count : Int) (order : List WeightedBucket) (k : Nat)
    (labels : List String) : Prop where
  label : ∀ l ∈ labels, l ∈ axis.buckets.map (·.bucketId)
  taken : ∀ b ∈ order.take k, (labels.count b.bucketId : Int) = count * b.weight / 100 + 1
  passed : ∀ b ∈ order.drop k, (labels.count b.bucketId : Int) = count * b.weight / 100

/-- The labels are counted by their buckets. -/
theorem count_labels (hids : (axis.buckets.map (·.bucketId)).Nodup) {quota : WeightedBucket → Nat}
    {b : WeightedBucket} (hb : b ∈ axis.buckets) :
    (axis.buckets.flatMap fun b => List.replicate (quota b) b.bucketId).count b.bucketId =
      quota b := by
  rw [List.count_flatMap, List.sum_map_eq_nsmul_single b, List.count_eq_one_of_mem hids.of_map hb,
    one_nsmul, Function.comp_apply, List.count_replicate_self]
  intro b' hne hb'
  rw [Function.comp_apply, List.count_replicate, if_neg]
  rw [beq_iff_eq]
  exact fun heq => hne (List.inj_on_of_nodup_map hids hb' hb heq)

/-- The tokens carry as many labels as were allocated. -/
theorem labels_perm (seed : String) {allocations : PyDict Int} {quota : WeightedBucket → Nat}
    (h : ∀ b ∈ axis.buckets, allocations.get? b.bucketId = some (quota b : Int)) :
    ∃ tokens, axis.buckets.mapM (axis.tokensOf seed allocations) = .ok tokens ∧
      ((tokens.flatten.insertionSort (· ≤ ·)).map fun t => (ofLex t).2).Perm
        (axis.buckets.flatMap fun b => List.replicate (quota b) b.bucketId) := by
  refine ⟨axis.buckets.map fun b => (List.range (quota b)).map (axis.token seed b), ?_, ?_⟩
  · rw [except_mapM_eq_ok, List.forall₂_map_right_iff, List.forall₂_same]
    intro b hb
    rw [tokensOf, PyDict.getItem, h b hb]
    rfl
  · refine ((List.perm_insertionSort _ _).map _).trans (List.Perm.of_eq ?_)
    rw [← List.flatMap_def, List.map_flatMap]
    refine List.flatMap_congr fun b _ => ?_
    have hlabel : ((fun t => (ofLex t).2) ∘ axis.token seed b) = fun _ => b.bucketId := rfl
    rw [List.map_map, hlabel, List.map_const', List.length_range]

/-- Allocation returns labels, of which the leftover is rounded up. -/
theorem allocateAxis_ok (seed : String) (hids : (axis.buckets.map (·.bucketId)).Nodup)
    (hweights : ∀ b ∈ axis.buckets, 0 ≤ b.weight) (htotal : (axis.buckets.map (·.weight)).sum = 100)
    (hcount : 1 ≤ count) :
    ∃ labels, ∃ k : Nat, allocateAxis axis seed count = .ok labels ∧
      (k : Int) = leftover (fun b => count * b.weight) 100 count axis.buckets ∧
      Allotted axis count (axis.remainderOrder seed count) k labels := by
  set order := axis.remainderOrder seed count
  have hfalls := falls_remainderOrder axis seed count
  have hshares : (axis.buckets.map fun b => count * b.weight).sum = 100 * count := by
    rw [List.sum_map_mul_left, htotal, mul_comm]
  obtain ⟨k, hk⟩ := Int.eq_ofNat_of_zero_le (leftover_nonneg (by decide) hshares)
  -- what is left after the floors
  have hes : ((axis.buckets.map fun b => (b.bucketId, count * b.weight / 100)).map (·.1)).Nodup := by
    rw [List.map_map]
    exact hids
  have hremaining : count - ((PyDict.ofEntries (axis.buckets.map fun b =>
      (b.bucketId, count * b.weight / 100))).entries.map (·.2)).sum = k := by
    rw [((PyDict.perm_entries_ofEntries hes).map _).sum_eq, List.map_map, ← hk]
    rfl
  have hslice : sliceTo order k = order.take k := by
    rw [sliceTo, if_neg (by omega), Int.toNat_natCast]
  have hfloor : ∀ b ∈ axis.buckets, (PyDict.ofEntries (axis.buckets.map fun b =>
      (b.bucketId, count * b.weight / 100))).get? b.bucketId = some (count * b.weight / 100) :=
    fun b hb => PyDict.get?_ofEntries_of_mem hes (List.mem_map_of_mem hb)
  -- one more for each bucket that is taken
  obtain ⟨allocations, hround, hget⟩ := foldlM_roundUp (order.take k) fun b hb =>
    ⟨_, hfloor b (hfalls.perm.mem_iff.1 (List.mem_of_mem_take hb))⟩
  have hquota : ∀ b ∈ axis.buckets, allocations.get? b.bucketId =
      some (((count * b.weight / 100).toNat + ((order.take k).map (·.bucketId)).count b.bucketId
        : Nat) : Int) := by
    intro b hb
    have hnonneg : 0 ≤ count * b.weight / 100 :=
      Int.ediv_nonneg (mul_nonneg (by omega) (hweights b hb)) (by decide)
    rw [hget, hfloor b hb, Option.map_some, Nat.cast_add, Int.toNat_of_nonneg hnonneg]
  obtain ⟨tokens, htokens, hperm⟩ := labels_perm seed hquota
  have hcounts : ∀ b ∈ axis.buckets, ((tokens.flatten.insertionSort (· ≤ ·)).map
      fun t => (ofLex t).2).count b.bucketId = (count * b.weight / 100).toNat +
        ((order.take k).map (·.bucketId)).count b.bucketId := fun b hb => by
    rw [hperm.count_eq, count_labels hids hb]
  have hnodup : ((order.take k).map (·.bucketId) ++ (order.drop k).map (·.bucketId)).Nodup := by
    rw [← List.map_append, List.take_append_drop]
    exact (hfalls.perm.map _).nodup_iff.2 hids
  rw [List.nodup_append] at hnodup
  refine ⟨(tokens.flatten.insertionSort (· ≤ ·)).map fun t => (ofLex t).2, k, ?_, hk.symm,
    fun l hl => ?_, fun b hb => ?_, fun b hb => ?_⟩
  · unfold allocateAxis
    rw [if_neg (by omega), if_neg (by rw [htotal]; decide)]
    dsimp only
    rw [hremaining, hslice, hround]
    simp only [ok_bind, htokens, pure_eq_ok]
  · obtain ⟨b, hb, hl⟩ := List.mem_flatMap.1 (hperm.mem_iff.1 hl)
    rw [(List.mem_replicate.1 hl).2]
    exact List.mem_map_of_mem hb
  · have hmem := hfalls.perm.mem_iff.1 (List.mem_of_mem_take hb)
    have hnonneg : 0 ≤ count * b.weight / 100 :=
      Int.ediv_nonneg (mul_nonneg (by omega) (hweights b hmem)) (by decide)
    rw [hcounts b hmem, List.count_eq_one_of_mem hnodup.1 (List.mem_map_of_mem hb)]
    omega
  · have hmem := hfalls.perm.mem_iff.1 (List.mem_of_mem_drop hb)
    have hnonneg : 0 ≤ count * b.weight / 100 :=
      Int.ediv_nonneg (mul_nonneg (by omega) (hweights b hmem)) (by decide)
    rw [hcounts b hmem, List.count_eq_zero_of_not_mem]
    · omega
    · exact fun hin => hnodup.2.2 _ hin _ (List.mem_map_of_mem hb) rfl

/-! ## Fair quotas -/

/-- The labels are `count` many, each bucket has its share rounded down or up, whole shares are not
rounded, and no share is rounded up before one with a larger remainder. -/
structure FairQuotas (axis : PopulationAxis) (count : Int) (labels : List String) : Prop where
  label : ∀ l ∈ labels, l ∈ axis.buckets.map (·.bucketId)
  total : (labels.length : Int) = count
  rounded : ∀ b ∈ axis.buckets, (labels.count b.bucketId : Int) = count * b.weight / 100 ∨
    (labels.count b.bucketId : Int) = count * b.weight / 100 + 1
  whole : ∀ b ∈ axis.buckets, 100 ∣ count * b.weight →
    (labels.count b.bucketId : Int) = count * b.weight / 100
  largest : ∀ b ∈ axis.buckets, ∀ b' ∈ axis.buckets,
    count * b.weight % 100 < count * b'.weight % 100 →
      (labels.count b.bucketId : Int) = count * b.weight / 100 + 1 →
        (labels.count b'.bucketId : Int) = count * b'.weight / 100 + 1

/-- The number of buckets with a remainder of `r` that are rounded up. -/
def roundedUp (axis : PopulationAxis) (count : Int) (labels : List String) (r : Int) : Nat :=
  axis.buckets.countP fun b => count * b.weight % 100 = r ∧
    (labels.count b.bucketId : Int) = count * b.weight / 100 + 1

variable {order : List WeightedBucket} {k : Nat} {labels : List String}

/-- The labels are those of the buckets, counted. -/
theorem length_eq_sum_count (hids : (axis.buckets.map (·.bucketId)).Nodup)
    (h : ∀ l ∈ labels, l ∈ axis.buckets.map (·.bucketId)) :
    (axis.buckets.map fun b => labels.count b.bucketId).sum = labels.length := by
  have hsum := Multiset.sum_count_eq_card (s := (axis.buckets.map (·.bucketId)).toFinset)
    (m := (↑labels : Multiset String)) fun l hl => List.mem_toFinset.2 (h l hl)
  rw [List.sum_toFinset _ hids, List.map_map, Multiset.coe_card] at hsum
  simpa only [Function.comp_def, Multiset.coe_count] using hsum

/-- What is allotted in this order is fair. -/
theorem Allotted.fair (h : Allotted axis count order k labels)
    (hfalls : Falls (fun b => count * b.weight) 100 axis.buckets order)
    (hids : (axis.buckets.map (·.bucketId)).Nodup)
    (htotal : (axis.buckets.map (·.weight)).sum = 100)
    (hk : (k : Int) = leftover (fun b => count * b.weight) 100 count axis.buckets) :
    FairQuotas axis count labels := by
  have hshares : (axis.buckets.map fun b => count * b.weight).sum = 100 * count := by
    rw [List.sum_map_mul_left, htotal, mul_comm]
  have hfractional : k ≤ fractional (fun b => count * b.weight) 100 axis.buckets := by
    have hle := leftover_le (by decide) hshares
    rw [← hk] at hle
    exact Int.ofNat_le.1 hle
  have hsplit : ∀ b ∈ axis.buckets, b ∈ order.take k ∨ b ∈ order.drop k := fun b hb => by
    rw [← List.mem_append, List.take_append_drop]
    exact hfalls.perm.mem_iff.2 hb
  refine ⟨h.label, ?_, fun b hb => ?_, fun b hb hwhole => ?_, fun b hb b' hb' hlt hup => ?_⟩
  · have hlength : (order.take k).length = k := by
      rw [List.length_take_of_le]
      exact (hfractional.trans List.countP_le_length).trans hfalls.perm.length_eq.ge
    have htake : ((order.take k).map fun b => (labels.count b.bucketId : Int)).sum =
        ((order.take k).map fun b => count * b.weight / 100).sum + k := by
      rw [List.map_congr_left h.taken, List.sum_map_add, List.map_const', List.sum_replicate,
        hlength, nsmul_one]
    have hdrop : ((order.drop k).map fun b => (labels.count b.bucketId : Int)).sum =
        ((order.drop k).map fun b => count * b.weight / 100).sum := by
      rw [List.map_congr_left h.passed]
    have hsum : (axis.buckets.map fun b => (labels.count b.bucketId : Int)).sum =
        (axis.buckets.map fun b => count * b.weight / 100).sum + k := by
      rw [← (hfalls.perm.map _).sum_eq, ← (hfalls.perm.map fun b => count * b.weight / 100).sum_eq,
        ← List.take_append_drop k order, List.map_append, List.map_append, List.sum_append,
        List.sum_append, htake, hdrop]
      omega
    rw [← length_eq_sum_count hids h.label, Nat.cast_list_sum, List.map_map]
    rw [leftover] at hk
    exact hsum.trans (by omega)
  · rcases hsplit b hb with hin | hin
    · exact .inr (h.taken b hin)
    · exact .inl (h.passed b hin)
  · rcases hsplit b hb with hin | hin
    · have hne := hfalls.mod_ne_zero (by decide) hfractional hin
      exact absurd (Int.emod_eq_zero_of_dvd hwhole) hne
    · exact h.passed b hin
  · rcases hsplit b hb with hin | hin
    · exact h.taken b' (hfalls.mem_take hin hb' hlt)
    · have hdown := h.passed b hin
      omega

/-- Which remainders are rounded up, and how often, is read off the order. -/
theorem Allotted.roundedUp_eq (h : Allotted axis count order k labels)
    (hfalls : Falls (fun b => count * b.weight) 100 axis.buckets order) (r : Int) :
    roundedUp axis count labels r = ((order.take k).map fun b => count * b.weight % 100).count r := by
  have htake : (order.take k).countP (fun b => count * b.weight % 100 = r ∧
      (labels.count b.bucketId : Int) = count * b.weight / 100 + 1) =
        (order.take k).countP fun b => count * b.weight % 100 == r :=
    List.countP_congr fun b hb => by simp [h.taken b hb]
  have hdrop : (order.drop k).countP (fun b => count * b.weight % 100 = r ∧
      (labels.count b.bucketId : Int) = count * b.weight / 100 + 1) = 0 :=
    List.countP_eq_zero.2 fun b hb hup => by
      have hup := (of_decide_eq_true hup).2
      rw [h.passed b hb] at hup
      omega
  rw [roundedUp, ← hfalls.perm.countP_eq, ← List.take_append_drop k order, List.countP_append,
    List.take_append_drop, htake, hdrop, List.count, List.countP_map]
  rfl

end

/-- **The quotas of an axis are fair, and the seed settles ties only.** -/
theorem fair_quotas (axis : PopulationAxis) (seed : String) (count : Int)
    (hids : (axis.buckets.map (·.bucketId)).Nodup) (hweights : ∀ b ∈ axis.buckets, 0 ≤ b.weight)
    (htotal : (axis.buckets.map (·.weight)).sum = 100) (hcount : 1 ≤ count) :
    ∃ labels, allocateAxis axis seed count = .ok labels ∧ FairQuotas axis count labels ∧
      ∀ seed', ∃ labels', allocateAxis axis seed' count = .ok labels' ∧
        (∀ r, roundedUp axis count labels' r = roundedUp axis count labels r) ∧
        ((∀ b ∈ axis.buckets, labels'.count b.bucketId = labels.count b.bucketId) →
          labels'.Perm labels) := by
  obtain ⟨labels, k, hlabels, hk, hallotted⟩ :=
    allocateAxis_ok seed hids hweights htotal hcount
  have hfalls := falls_remainderOrder axis seed count
  refine ⟨labels, hlabels, hallotted.fair hfalls hids htotal hk, fun seed' => ?_⟩
  obtain ⟨labels', k', hlabels', hk', hallotted'⟩ :=
    allocateAxis_ok seed' hids hweights htotal hcount
  have hfalls' := falls_remainderOrder axis seed' count
  obtain rfl : k' = k := Int.ofNat_inj.1 (hk'.trans hk.symm)
  refine ⟨labels', hlabels', fun r => ?_, fun hsame => ?_⟩
  · rw [hallotted'.roundedUp_eq hfalls', hallotted.roundedUp_eq hfalls,
      hfalls'.map_take_eq hfalls]
  · rw [List.perm_iff_count]
    intro l
    by_cases hl : l ∈ axis.buckets.map (·.bucketId)
    · obtain ⟨b, hb, rfl⟩ := List.mem_map.1 hl
      exact hsame b hb
    · rw [List.count_eq_zero_of_not_mem fun h => hl (hallotted'.label l h),
        List.count_eq_zero_of_not_mem fun h => hl (hallotted.label l h)]

/-- An axis whose three shares of ten have remainders. -/
def thirdsAxis : PopulationAxis where
  axisId := "thirds"
  buckets := [⟨"a", 33⟩, ⟨"b", 33⟩, ⟨"c", 34⟩]

/-- Ten cases over three buckets. -/
theorem fair_quotas_thirds :
    ∃ labels, allocateAxis thirdsAxis "seed" 10 = .ok labels ∧ FairQuotas thirdsAxis 10 labels := by
  obtain ⟨labels, hlabels, hfair, -⟩ := fair_quotas thirdsAxis "seed" 10 (by decide) (by decide)
    (by decide) (by decide)
  exact ⟨labels, hlabels, hfair⟩

end LawFirmDigitalTwin
