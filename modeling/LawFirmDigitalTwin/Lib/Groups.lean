import Mathlib.Data.Finset.Card
import Mathlib.Data.List.Sort

/-!
# Groups, tallies and pairs of rows

What a program finds out about a list of rows by grouping them under a key, by counting how often
each value occurs and by comparing the rows two by two. The order of the rows shows in the order of
the groups and of the pairs, and nowhere else: each notion comes with what a permutation of the rows
does to it.
-/

namespace Groups

variable {α β κ : Type*}

section
variable [DecidableEq κ]

/-- The distinct elements of a list, each where it first occurs. -/
def distinct : List κ → List κ
  | [] => []
  | a :: l => a :: (distinct l).filter (· ≠ a)

@[simp] theorem mem_distinct {l : List κ} {a : κ} : a ∈ distinct l ↔ a ∈ l := by
  induction l with
  | nil => rfl
  | cons b l ih =>
    rw [distinct, List.mem_cons, List.mem_filter, ih, List.mem_cons, decide_eq_true_iff]
    by_cases h : a = b <;> simp [h]

/-- Every element is there once. -/
theorem nodup_distinct (l : List κ) : (distinct l).Nodup := by
  induction l with
  | nil => exact .nil
  | cons a l ih => exact List.nodup_cons.2 ⟨by simp, ih.filter _⟩

/-- The distinct elements of a permuted list are permuted. -/
theorem distinct_perm {l l' : List κ} (h : l.Perm l') : (distinct l).Perm (distinct l') :=
  (List.perm_ext_iff_of_nodup (nodup_distinct l) (nodup_distinct l')).2 fun a => by
    rw [mem_distinct, mem_distinct, h.mem_iff]

/-- The distinct elements are determined by which there are, up to their order. -/
theorem distinct_congr {l l' : List κ} (h : ∀ a, a ∈ l ↔ a ∈ l') :
    (distinct l).Perm (distinct l') :=
  (List.perm_ext_iff_of_nodup (nodup_distinct l) (nodup_distinct l')).2 fun a => by
    rw [mem_distinct, mem_distinct, h]

/-- The distinct elements are as many as the set of them. -/
theorem length_distinct (l : List κ) : (distinct l).length = l.toFinset.card := by
  have h : (distinct l).toFinset = l.toFinset := by
    ext a
    simp
  rw [← List.toFinset_card_of_nodup (nodup_distinct l), h]

/-- A list without repetitions is its own. -/
theorem distinct_of_nodup {l : List κ} (h : l.Nodup) : distinct l = l := by
  induction l with
  | nil => rfl
  | cons a l ih =>
    obtain ⟨ha, hl⟩ := List.nodup_cons.1 h
    have hne : ∀ b ∈ l, decide (b ≠ a) = true := fun b hb => decide_eq_true fun he => ha (he ▸ hb)
    rw [distinct, ih hl, List.filter_eq_self.2 hne]

/-- Only an empty list has no element. -/
theorem distinct_eq_nil {l : List κ} : distinct l = [] ↔ l = [] := by
  cases l <;> simp [distinct]

/-- The rows of one key, in the order of the list. -/
def members (key : α → κ) (rows : List α) (k : κ) : List α := rows.filter (key · = k)

@[simp] theorem mem_members {key : α → κ} {rows : List α} {k : κ} {r : α} :
    r ∈ members key rows k ↔ r ∈ rows ∧ key r = k := by
  simp [members]

/-- The rows of a key are permuted with the rows. -/
theorem members_perm (key : α → κ) {rows rows' : List α} (h : rows.Perm rows') (k : κ) :
    (members key rows k).Perm (members key rows' k) :=
  h.filter _

/-- The keys of the rows, in the order of their first rows. -/
def keys (key : α → κ) (rows : List α) : List κ := distinct (rows.map key)

@[simp] theorem mem_keys {key : α → κ} {rows : List α} {k : κ} :
    k ∈ keys key rows ↔ ∃ r ∈ rows, key r = k := by
  simp [keys]

/-- Every key is there once. -/
theorem nodup_keys (key : α → κ) (rows : List α) : (keys key rows).Nodup := nodup_distinct _

/-- The keys of permuted rows are permuted. -/
theorem keys_perm (key : α → κ) {rows rows' : List α} (h : rows.Perm rows') :
    (keys key rows).Perm (keys key rows') :=
  distinct_perm (h.map key)

/-- A key of the rows has a row. -/
theorem members_ne_nil {key : α → κ} {rows : List α} {k : κ} (h : k ∈ keys key rows) :
    members key rows k ≠ [] := by
  obtain ⟨r, hr, hk⟩ := mem_keys.1 h
  exact List.ne_nil_of_mem (mem_members.2 ⟨hr, hk⟩)

/-- Rows of one key before the rows of other keys: the key comes first, and its rows are the first
ones. -/
theorem keys_append_of_ne {key : α → κ} {k : κ} {group others : List α} (hne : group ≠ [])
    (hgroup : ∀ r ∈ group, key r = k) (hothers : ∀ r ∈ others, key r ≠ k) :
    keys key (group ++ others) = k :: keys key others := by
  have hfilter : (keys key others).filter (· ≠ k) = keys key others := by
    refine List.filter_eq_self.2 fun k' hk' => decide_eq_true ?_
    obtain ⟨r, hr, rfl⟩ := mem_keys.1 hk'
    exact hothers r hr
  induction group with
  | nil => exact absurd rfl hne
  | cons r group ih =>
    have hcons : keys key (r :: group ++ others) =
        key r :: (keys key (group ++ others)).filter (· ≠ key r) := rfl
    rw [hcons, hgroup r (.head _)]
    cases group with
    | nil => rw [List.nil_append, hfilter]
    | cons r' group =>
      rw [ih (List.cons_ne_nil _ _) fun q hq => hgroup q (.tail _ hq),
        List.filter_cons_of_neg (by simp), hfilter]

/-- The rows of a group that nothing else belongs to. -/
theorem members_append_self {key : α → κ} {k : κ} {group others : List α}
    (hgroup : ∀ r ∈ group, key r = k) (hothers : ∀ r ∈ others, key r ≠ k) :
    members key (group ++ others) k = group := by
  have hkept : members key group k = group :=
    List.filter_eq_self.2 fun r hr => decide_eq_true (hgroup r hr)
  have hleft : members key others k = [] :=
    List.filter_eq_nil_iff.2 fun r hr hk => hothers r hr (of_decide_eq_true hk)
  rw [members, List.filter_append]
  exact (congrArg₂ _ hkept hleft).trans (List.append_nil _)

/-- A group does not add to another one. -/
theorem members_append_of_ne {key : α → κ} {k k' : κ} {group others : List α}
    (hgroup : ∀ r ∈ group, key r = k) (hne : k' ≠ k) :
    members key (group ++ others) k' = members key others k' := by
  have hleft : members key group k' = [] :=
    List.filter_eq_nil_iff.2 fun r hr hk => hne ((of_decide_eq_true hk).symm.trans (hgroup r hr))
  rw [members, List.filter_append]
  exact (congrArg (· ++ members key others k') hleft).trans (List.nil_append _)

/-- The groups of the rows under a key. -/
def groups (key : α → κ) (rows : List α) : List (List α) := (keys key rows).map (members key rows)

/-- How many groups pass a test on what they contain does not depend on the order of the rows. -/
theorem countP_groups_perm (key : α → κ) {test : List α → Bool}
    (htest : ∀ g g' : List α, g.Perm g' → test g = test g') {rows rows' : List α}
    (h : rows.Perm rows') : (groups key rows).countP test = (groups key rows').countP test := by
  rw [groups, groups, List.countP_map, List.countP_map, (keys_perm key h).countP_eq]
  exact List.countP_congr fun k _ => by
    rw [Function.comp, Function.comp, htest _ _ (members_perm key h k)]

/-! ## Tallies -/

/-- How often each value occurs. -/
def tally (l : List κ) : List (κ × Nat) := (distinct l).map fun k => (k, l.count k)

/-- The tally of a permuted list is permuted. -/
theorem tally_perm {l l' : List κ} (h : l.Perm l') : (tally l).Perm (tally l') := by
  have hcount : (fun k => (k, l.count k)) = fun k => (k, l'.count k) := by
    funext k
    rw [h.count_eq]
  rw [tally, tally, hcount]
  exact (distinct_perm h).map _

/-- The largest count of a tally. -/
def largest (l : List κ) : Nat := ((tally l).map (·.2)).foldr max 0

/-- The largest count does not depend on the order. -/
theorem largest_perm {l l' : List κ} (h : l.Perm l') : largest l = largest l' :=
  ((tally_perm h).map _).foldr_eq 0

/-- The tally in the order of its values. -/
def sortedTally [LinearOrder κ] (l : List κ) : List (κ × Nat) :=
  ((distinct l).insertionSort (· ≤ ·)).map fun k => (k, l.count k)

end

/-- A list sorted by a linear order is the same for every order it came in. -/
theorem insertionSort_perm [LinearOrder κ] {l l' : List κ} (h : l.Perm l') :
    l.insertionSort (· ≤ ·) = l'.insertionSort (· ≤ ·) :=
  ((List.perm_insertionSort _ _).trans (h.trans (List.perm_insertionSort _ _).symm)).eq_of_pairwise'
    (List.pairwise_insertionSort _ _) (List.pairwise_insertionSort _ _)

/-- The sorted tally does not depend on the order. -/
theorem sortedTally_perm [LinearOrder κ] {l l' : List κ} (h : l.Perm l') :
    sortedTally l = sortedTally l' := by
  have hcount : (fun k => (k, l.count k)) = fun k => (k, l'.count k) := by
    funext k
    rw [h.count_eq]
  rw [sortedTally, sortedTally, insertionSort_perm (distinct_perm h), hcount]

/-- Elements for which nothing is found can be left out. -/
theorem flatMap_eq_filter (f : α → List β) (l : List α) :
    l.flatMap f = (l.filter fun a => !(f a).isEmpty).flatMap f := by
  induction l with
  | nil => rfl
  | cons a l ih =>
    rw [List.flatMap_cons, ih, List.filter_cons]
    cases hfa : f a with
    | nil => rfl
    | cons b rest => simp only [List.isEmpty_cons, Bool.not_false, if_true, List.flatMap_cons, hfa]

/-- What is found for each element does not depend on their order, when something is found for one
of them at most. -/
theorem flatMap_perm_of_unique {f : α → List β} {l l' : List α} (h : l.Perm l') (hnodup : l.Nodup)
    (hunique : ∀ a ∈ l, ∀ b ∈ l, f a ≠ [] → f b ≠ [] → a = b) : l.flatMap f = l'.flatMap f := by
  have hmem : ∀ a ∈ l.filter (fun a => !(f a).isEmpty), a ∈ l ∧ f a ≠ [] := fun a ha =>
    (List.mem_filter.1 ha).imp_right (by simp)
  have hperm := h.filter fun a => !(f a).isEmpty
  have hsub := hnodup.filter fun a => !(f a).isEmpty
  rw [flatMap_eq_filter f l, flatMap_eq_filter f l']
  cases hl : l.filter (fun a => !(f a).isEmpty) with
  | nil =>
    rw [hl] at hperm
    rw [hperm.nil_eq]
  | cons a rest =>
    rw [hl] at hperm hmem hsub
    cases rest with
    | nil => rw [List.singleton_perm.1 hperm]
    | cons b rest =>
      have ha := hmem a (.head _)
      have hb := hmem b (.tail _ (.head _))
      refine absurd (hunique a ha.1 b hb.1 ha.2 hb.2) fun hab => ?_
      exact (List.nodup_cons.1 hsub).1 (hab ▸ .head _)

/-! ## Pairs -/

/-- The pairs of rows, the earlier row first. -/
def pairs : List α → List (α × α)
  | [] => []
  | a :: l => l.map (a, ·) ++ pairs l

/-- The pairs of mapped rows are mapped. -/
theorem pairs_map (f : α → β) (l : List α) : pairs (l.map f) = (pairs l).map (Prod.map f f) := by
  induction l with
  | nil => rfl
  | cons a l ih =>
    rw [List.map_cons, pairs, pairs, ih, List.map_append, List.map_map, List.map_map]
    rfl

/-- Both rows of a pair are rows. -/
theorem mem_of_mem_pairs {l : List α} {a b : α} (h : (a, b) ∈ pairs l) : a ∈ l ∧ b ∈ l := by
  induction l with
  | nil => cases h
  | cons c l ih =>
    rcases List.mem_append.1 h with h | h
    · obtain ⟨d, hd, heq⟩ := List.mem_map.1 h
      cases heq
      exact ⟨.head _, .tail _ hd⟩
    · exact ⟨.tail _ (ih h).1, .tail _ (ih h).2⟩

/-- Two different rows are a pair, in the one order or the other. -/
theorem mem_pairs_of_ne {l : List α} {a b : α} (ha : a ∈ l) (hb : b ∈ l) (hne : a ≠ b) :
    (a, b) ∈ pairs l ∨ (b, a) ∈ pairs l := by
  induction l with
  | nil => cases ha
  | cons c l ih =>
    rcases List.mem_cons.1 ha with rfl | hal
    · rcases List.mem_cons.1 hb with rfl | hbl
      · exact absurd rfl hne
      · exact .inl (List.mem_append_left _ (List.mem_map_of_mem hbl))
    · rcases List.mem_cons.1 hb with rfl | hbl
      · exact .inr (List.mem_append_left _ (List.mem_map_of_mem hal))
      · exact (ih hal hbl).imp (List.mem_append_right _) (List.mem_append_right _)

/-- What is read off the pairs does not depend on the order of the rows, when it does not depend on
the order within a pair. -/
theorem filterMap_pairs_perm {f : α × α → Option β} (hf : ∀ a b, f (a, b) = f (b, a))
    {rows rows' : List α} (h : rows.Perm rows') :
    ((pairs rows).filterMap f).Perm ((pairs rows').filterMap f) := by
  induction h with
  | nil => exact .nil
  | cons a h ih =>
    rw [pairs, pairs, List.filterMap_append, List.filterMap_append]
    exact ((h.map _).filterMap f).append ih
  | swap a b l =>
    simp only [pairs, List.map_cons, List.cons_append]
    rw [List.filterMap_cons, List.filterMap_cons, hf b a]
    have hmove : ((l.map (b, ·)).filterMap f ++ ((l.map (a, ·)).filterMap f ++
        (pairs l).filterMap f)).Perm
        ((l.map (a, ·)).filterMap f ++ ((l.map (b, ·)).filterMap f ++ (pairs l).filterMap f)) := by
      rw [← List.append_assoc, ← List.append_assoc]
      exact List.perm_append_comm.append_right _
    cases f (a, b) with
    | none => simpa only [List.filterMap_append] using hmove
    | some v => simpa only [List.filterMap_append] using hmove.cons v
  | trans _ _ ih ih' => exact ih.trans ih'

/-- How many pairs have a symmetric property does not depend on the order. -/
theorem countP_pairs_perm {p : α × α → Bool} (hp : ∀ a b, p (a, b) = p (b, a))
    {rows rows' : List α} (h : rows.Perm rows') : (pairs rows).countP p = (pairs rows').countP p := by
  have hunit : ∀ a b, (if p (a, b) then some () else none) = if p (b, a) then some () else none :=
    fun a b => by rw [hp]
  have hlength := (filterMap_pairs_perm (f := fun q => if p q then some () else none) hunit h).length_eq
  have hisSome : ∀ q, (if p q then some () else none).isSome = p q := fun q => by cases p q <;> rfl
  simpa only [List.length_filterMap_eq_countP, hisSome] using hlength

end Groups
