import Mathlib.Algebra.BigOperators.Group.Finset.Basic
import Mathlib.Algebra.Order.BigOperators.Group.List
import Mathlib.Tactic.FieldSimp
import LawFirmDigitalTwin.Corpus.Suppression

/-!
# What can be computed from a public summary

When two suppressed channels have different counts, exchanging them hides both. When their counts
are equal a row is moved from one to the other; its operations are chosen anew, so that the
judgement on the distances between authors stays what it was in both channels. Where the counts held
back can only be one way, as a single one, or when all are one or all are four, the published
numbers determine them.
-/

namespace LawFirmDigitalTwin

open Groups

namespace Diversity

variable {repr : PyFloat → String} {order : SetOrder (List String)}
  {policy : CorpusDiversityPolicy} {rows rows' : List CorpusDiversityArtifact} {verified : Bool}

/-! ## Distances between authors -/

/-- An operation that every author shares. -/
def sharedOperation (i : Nat) : String := String.ofList (List.replicate i 'x')

/-- An operation of one author. -/
def ownOperation (author : String) (i : Nat) : String :=
  String.ofList (List.replicate i 'x' ++ '|' :: author.toList)

/-- What stands before the bar, and after it, can be read off. -/
theorem replicate_bar_injective {i j : Nat} {l l' : List Char}
    (h : List.replicate i 'x' ++ '|' :: l = List.replicate j 'x' ++ '|' :: l') : i = j ∧ l = l' := by
  induction i generalizing j with
  | zero =>
    cases j with
    | zero => exact ⟨rfl, (List.cons.inj h).2⟩
    | succ j => exact absurd (List.cons.inj h).1 (by decide)
  | succ i ih =>
    cases j with
    | zero => exact absurd (List.cons.inj h).1 (by decide)
    | succ j =>
      obtain ⟨hij, hl⟩ := ih (List.cons.inj h).2
      exact ⟨by rw [hij], hl⟩

/-- An operation of one author names the author. -/
theorem ownOperation_inj {a b : String} {i j : Nat} (h : ownOperation a i = ownOperation b j) :
    a = b ∧ i = j := by
  obtain ⟨hij, hab⟩ := replicate_bar_injective (String.ofList_injective h)
  exact ⟨String.toList_injective hab, hij⟩

/-- Shared operations are told apart by their length. -/
theorem sharedOperation_injective : Function.Injective sharedOperation := by
  intro i j h
  have hlength := congrArg List.length (String.ofList_injective h)
  rwa [List.length_replicate, List.length_replicate] at hlength

/-- No operation is both shared and an author's own. -/
theorem sharedOperation_ne_own (i j : Nat) (a : String) : sharedOperation i ≠ ownOperation a j := by
  intro h
  have hbar : '|' ∈ List.replicate i 'x' := by
    rw [String.ofList_injective h]
    exact List.mem_append_right _ (.head _)
  exact absurd (List.mem_replicate.1 hbar).2 (by decide)

/-- The operations of an author: some that all share, and some of the author's own. -/
def operationsOf (shared own : Nat) (author : String) : List String :=
  (List.range shared).map sharedOperation ++ (List.range own).map (ownOperation author)

/-- The operations of an author, as a set. -/
theorem toFinset_operationsOf (shared own : Nat) (author : String) :
    (operationsOf shared own author).toFinset =
      (Finset.range shared).image sharedOperation ∪ (Finset.range own).image (ownOperation author) := by
  ext s
  simp [operationsOf]

/-- Two authors have in common what is shared. -/
theorem jaccard_operationsOf {shared own : Nat} (hne : 0 < shared + own) {a b : String}
    (hab : a ≠ b) :
    jaccard (operationsOf shared own a) (operationsOf shared own b) =
      (shared : ℚ) / (shared + 2 * own : Nat) := by
  have hdisjoint : ∀ c : String, Disjoint ((Finset.range shared).image sharedOperation)
      ((Finset.range own).image (ownOperation c)) := by
    intro c
    refine Finset.disjoint_left.2 fun s hs hc => ?_
    obtain ⟨i, -, rfl⟩ := Finset.mem_image.1 hs
    obtain ⟨j, -, h⟩ := Finset.mem_image.1 hc
    exact sharedOperation_ne_own i j c h.symm
  have hown : Disjoint ((Finset.range own).image (ownOperation a))
      ((Finset.range own).image (ownOperation b)) := by
    refine Finset.disjoint_left.2 fun s ha hb => ?_
    obtain ⟨i, -, rfl⟩ := Finset.mem_image.1 ha
    obtain ⟨j, -, h⟩ := Finset.mem_image.1 hb
    exact hab (ownOperation_inj h).1.symm
  have hinter : (operationsOf shared own a).toFinset ∩ (operationsOf shared own b).toFinset =
      (Finset.range shared).image sharedOperation := by
    rw [toFinset_operationsOf, toFinset_operationsOf, ← Finset.union_inter_distrib_left,
      Finset.disjoint_iff_inter_eq_empty.1 hown, Finset.union_empty]
  have hunion : (operationsOf shared own a).toFinset ∪ (operationsOf shared own b).toFinset =
      (Finset.range shared).image sharedOperation ∪
        ((Finset.range own).image (ownOperation a) ∪ (Finset.range own).image (ownOperation b)) := by
    rw [toFinset_operationsOf, toFinset_operationsOf, ← Finset.union_union_distrib_left]
  have hshared : ((Finset.range shared).image sharedOperation).card = shared := by
    rw [Finset.card_image_of_injective _ sharedOperation_injective, Finset.card_range]
  have howned : ∀ c : String, ((Finset.range own).image (ownOperation c)).card = own := by
    intro c
    rw [Finset.card_image_of_injective _ fun i j h => (ownOperation_inj h).2, Finset.card_range]
  have hcard : ((operationsOf shared own a).toFinset ∪ (operationsOf shared own b).toFinset).card =
      shared + 2 * own := by
    rw [hunion, Finset.card_union_of_disjoint
      (Finset.disjoint_union_right.2 ⟨hdisjoint a, hdisjoint b⟩), Finset.card_union_of_disjoint hown,
      hshared, howned, howned]
    ring
  rw [jaccard_eq, if_neg, hinter, hshared, hcard]
  intro hempty
  rw [hempty, Finset.card_empty] at hcard
  omega

/-- Operations can be given to authors so that any two are at a distance chosen in advance. -/
theorem exists_operations {q : ℚ} (h0 : 0 ≤ q) (h1 : q ≤ 1) :
    ∃ operations : String → List String,
      ∀ a b, a ≠ b → 1 - jaccard (operations a) (operations b) = q := by
  obtain ⟨n, d, hd, hle, rfl⟩ : ∃ n d : ℕ, 0 < d ∧ n ≤ d ∧ q = n / d := by
    obtain ⟨n, hn⟩ := Int.eq_ofNat_of_zero_le (Rat.num_nonneg.2 h0)
    have hdiv := Rat.num_div_den q
    rw [hn, Int.cast_natCast] at hdiv
    have hle := Rat.num_le_denom_iff.2 h1
    exact ⟨n, q.den, q.den_pos, by omega, hdiv.symm⟩
  refine ⟨operationsOf (2 * (d - n)) n, fun a b hab => ?_⟩
  have htotal : 2 * (d - n) + 2 * n = 2 * d := by omega
  have hdq : (d : ℚ) ≠ 0 := Nat.cast_ne_zero.2 hd.ne'
  rw [jaccard_operationsOf (by omega) hab, htotal]
  push_cast [Nat.cast_sub hle]
  field_simp
  ring

/-! ## The judgement on a channel -/

/-- What is found of the distance between the authors of a channel. -/
def distanceKinds (policy : CorpusDiversityPolicy) : Option ℚ → List (String × Severity)
  | none => []
  | some distance =>
    if (PyFloat.finite distance).lt policy.crossAuthorCollapseThreshold then
      [("cross_author_collapse", .warning)]
    else if policy.crossAuthorCaricatureThreshold.lt (.finite distance) then
      [("cross_author_caricature", .warning)]
    else []

/-- A channel below the sample floor is judged by the distance between its authors alone. -/
theorem map_kind_of_not_eligible (channel : String) {shape : ChannelShape}
    (h : shape.eligible = false) :
    (channelFindings repr policy channel shape).map kind =
      ("coverage_insufficient", .info) :: distanceKinds policy shape.crossAuthorDistance := by
  simp only [channelFindings, h, Bool.not_false, List.map_append, map_kind_addIf, if_true,
    Bool.false_eq_true, if_false, List.append_nil, List.singleton_append]
  cases shape.crossAuthorDistance with
  | none => rfl
  | some distance =>
    dsimp only [distanceKinds]
    split
    · rw [map_kind_addIf, if_pos rfl]
    · rw [map_kind_addIf]

/-- No distances are measured where all rows have one author. -/
theorem authorDistances_eq_nil {group : List CorpusDiversityArtifact} :
    authorDistances group = [] ↔
      ∀ a ∈ group, ∀ b ∈ group, a.authorCommitment = b.authorCommitment := by
  simp only [authorDistances, List.filterMap_eq_nil_iff, ite_eq_left_iff, reduceCtorEq, imp_false,
    Classical.not_not, Prod.forall]
  constructor
  · intro h a ha b hb
    by_contra hne
    rcases mem_pairs_of_ne ha hb (fun hab => hne (hab ▸ rfl)) with hpair | hpair
    · exact hne (h _ _ hpair)
    · exact hne (h _ _ hpair).symm
  · intro h a b hpair
    exact h a (mem_of_mem_pairs hpair).1 b (mem_of_mem_pairs hpair).2

/-- A distance is measured between two rows of different authors. -/
theorem mem_authorDistances {group : List CorpusDiversityArtifact} {q : ℚ}
    (h : q ∈ authorDistances group) : ∃ a ∈ group, ∃ b ∈ group,
      a.authorCommitment ≠ b.authorCommitment ∧
        q = 1 - jaccard a.realizedOperationIds b.realizedOperationIds := by
  obtain ⟨⟨a, b⟩, hpair, hq⟩ := List.mem_filterMap.1 h
  dsimp only at hq
  split at hq
  · cases hq
  · next hne =>
    exact ⟨a, (mem_of_mem_pairs hpair).1, b, (mem_of_mem_pairs hpair).2, hne, (Option.some.inj hq).symm⟩

/-- A channel has a distance between authors as soon as it has two of them, and it lies between zero
and one. -/
theorem crossAuthorDistance_cases (group : List CorpusDiversityArtifact) :
    ((crossAuthorDistance group).1 = none ∧
        ∀ a ∈ group, ∀ b ∈ group, a.authorCommitment = b.authorCommitment) ∨
      ∃ q, (crossAuthorDistance group).1 = some q ∧ 0 ≤ q ∧ q ≤ 1 ∧
        ∃ a ∈ group, ∃ b ∈ group, a.authorCommitment ≠ b.authorCommitment := by
  by_cases hnil : authorDistances group = []
  · exact .inl ⟨by rw [crossAuthorDistance, if_pos hnil], authorDistances_eq_nil.1 hnil⟩
  · have hbounds : ∀ q ∈ authorDistances group, (0 : ℚ) ≤ q ∧ q ≤ 1 := by
      intro q hq
      obtain ⟨a, -, b, -, -, rfl⟩ := mem_authorDistances hq
      exact ⟨sub_nonneg.2 (jaccard_le_one _ _), sub_le_self _ (jaccard_nonneg _ _)⟩
    have hmedian := median_mem le_rfl zero_le_one hbounds
    obtain ⟨q, hq⟩ := List.exists_mem_of_ne_nil _ hnil
    obtain ⟨a, ha, b, hb, hne, -⟩ := mem_authorDistances hq
    exact .inr ⟨_, by rw [crossAuthorDistance, if_neg hnil], hmedian.1, hmedian.2, a, ha, b, hb, hne⟩

/-- With all authors at one distance that is the distance of the channel. -/
theorem crossAuthorDistance_uniform {group : List CorpusDiversityArtifact} {q : ℚ}
    (h : ∀ a ∈ group, ∀ b ∈ group, a.authorCommitment ≠ b.authorCommitment →
      1 - jaccard a.realizedOperationIds b.realizedOperationIds = q)
    {a b : CorpusDiversityArtifact} (ha : a ∈ group) (hb : b ∈ group)
    (hne : a.authorCommitment ≠ b.authorCommitment) : (crossAuthorDistance group).1 = some q := by
  have hnil : authorDistances group ≠ [] := fun hnil => hne (authorDistances_eq_nil.1 hnil a ha b hb)
  have hall : ∀ x ∈ authorDistances group, x = q := by
    intro x hx
    obtain ⟨a, ha, b, hb, hne, rfl⟩ := mem_authorDistances hx
    exact h a ha b hb hne
  rw [crossAuthorDistance, if_neg hnil, median_of_forall_eq hnil hall]

/-! ## A row moves from one channel to another -/

/-- The sections and the operations that the rows of a channel are given. -/
structure Fitting where
  sections : List String
  operations : String → List String

/-- A row of a channel, fitted anew. -/
def refit (channel : String) (fitting : Fitting) (r : CorpusDiversityArtifact) :
    CorpusDiversityArtifact :=
  { r with
    channelKind := channel
    sectionSequence := fitting.sections
    realizedOperationIds := fitting.operations r.authorCommitment }

/-- A row after the move from `x` to `y`; the row that moves is marked. -/
def moveRow (x y : String) (fitX fitY : Fitting) (p : CorpusDiversityArtifact × Bool) :
    CorpusDiversityArtifact :=
  if p.2 = true ∨ p.1.channelKind = y then refit y fitY p.1
  else if p.1.channelKind = x then refit x fitX p.1
  else p.1

/-- The rows with one of them marked. -/
def marked (before after : List CorpusDiversityArtifact) (moving : CorpusDiversityArtifact) :
    List (CorpusDiversityArtifact × Bool) :=
  before.map (·, false) ++ (moving, true) :: after.map (·, false)

/-- Without the mark the rows are as they were. -/
theorem map_fst_marked (before after : List CorpusDiversityArtifact)
    (moving : CorpusDiversityArtifact) :
    (marked before after moving).map Prod.fst = before ++ moving :: after := by
  simp [marked, Function.comp_def]

/-- A move keeps the sources. -/
theorem sameSource_moveRow (x y : String) (fitX fitY : Fitting)
    (p : CorpusDiversityArtifact × Bool) : SameSource p.1 (moveRow x y fitX fitY p) := by
  unfold moveRow
  split
  · rfl
  · split <;> rfl

/-- The rows of a channel, counted. -/
theorem count_eq_countP (rows : List CorpusDiversityArtifact) (channel : String) :
    count rows channel = rows.countP (·.channelKind = channel) :=
  List.countP_eq_length_filter.symm

/-- A channel is a key where it has a row. -/
theorem mem_keys_iff_count {channel : String} :
    channel ∈ keys (·.channelKind) rows ↔ 0 < count rows channel := by
  rw [mem_keys, count_eq_countP, List.countP_pos_iff]
  simp

section
variable {x y : String} {fitX fitY : Fitting} {before after : List CorpusDiversityArtifact}
  {moving : CorpusDiversityArtifact}

/-- A row that does not move stays in its channel. -/
theorem channelKind_moveRow (r : CorpusDiversityArtifact) :
    (moveRow x y fitX fitY (r, false)).channelKind = r.channelKind := by
  unfold moveRow
  split
  · next h =>
    rcases h with h | h
    · cases h
    · exact h.symm
  · split
    · next h => exact h.symm
    · rfl

/-- The marked row moves to the other channel. -/
theorem channelKind_moveRow_moving (r : CorpusDiversityArtifact) :
    (moveRow x y fitX fitY (r, true)).channelKind = y := by
  rw [moveRow, if_pos (.inl rfl)]
  rfl

/-- The counts after the move. -/
theorem count_moved (channel : String) :
    count ((marked before after moving).map (moveRow x y fitX fitY)) channel =
      count before channel + (if y = channel then 1 else 0) + count after channel := by
  simp only [count_eq_countP, marked, List.map_append, List.map_map, List.map_cons,
    List.countP_append, List.countP_cons, List.countP_map, Function.comp_def, channelKind_moveRow,
    channelKind_moveRow_moving, decide_eq_true_eq]
  omega

/-- The counts before the move. -/
theorem count_unmoved (hmoving : moving.channelKind = x) (channel : String) :
    count (before ++ moving :: after) channel =
      count before channel + (if x = channel then 1 else 0) + count after channel := by
  simp only [count_eq_countP, List.countP_append, List.countP_cons, hmoving, decide_eq_true_eq]
  omega

/-- The channel that is left has one row less. -/
theorem count_left (hxy : x ≠ y) (hmoving : moving.channelKind = x) :
    count ((marked before after moving).map (moveRow x y fitX fitY)) x + 1 =
      count (before ++ moving :: after) x := by
  rw [count_moved, count_unmoved hmoving, if_neg hxy.symm, if_pos rfl]
  omega

/-- The channel that is joined has one row more. -/
theorem count_joined (hxy : x ≠ y) (hmoving : moving.channelKind = x) :
    count ((marked before after moving).map (moveRow x y fitX fitY)) y =
      count (before ++ moving :: after) y + 1 := by
  rw [count_moved, count_unmoved hmoving, if_neg hxy, if_pos rfl]
  omega

/-- The other channels keep their rows. -/
theorem members_moved (hmoving : moving.channelKind = x) {channel : String} (hx : channel ≠ x)
    (hy : channel ≠ y) :
    members (·.channelKind) ((marked before after moving).map (moveRow x y fitX fitY)) channel =
      members (·.channelKind) (before ++ moving :: after) channel := by
  have hkeep : ∀ l : List CorpusDiversityArtifact,
      members (·.channelKind) ((l.map (·, false)).map (moveRow x y fitX fitY)) channel =
        members (·.channelKind) l channel := by
    intro l
    have hsame : ((fun r : CorpusDiversityArtifact => decide (r.channelKind = channel)) ∘
        fun r => moveRow x y fitX fitY (r, false)) = fun r => decide (r.channelKind = channel) := by
      funext r
      rw [Function.comp, channelKind_moveRow]
    rw [List.map_map, members, members, List.filter_map]
    refine Eq.trans (congrArg (List.map _) (congrArg (List.filter · l) hsame)) ?_
    refine (List.map_congr_left fun r hr => ?_).trans (List.map_id _)
    have hr : r.channelKind = channel := of_decide_eq_true (List.mem_filter.1 hr).2
    rw [Function.comp, moveRow, if_neg (by simp [hr, hy]), if_neg (by rw [hr]; exact hx)]
    rfl
  have hmoved : decide ((moveRow x y fitX fitY (moving, true)).channelKind = channel) = false := by
    rw [channelKind_moveRow_moving]
    exact decide_eq_false hy.symm
  have hunmoved : decide (moving.channelKind = channel) = false := by
    rw [hmoving]
    exact decide_eq_false hx.symm
  rw [marked, List.map_append, List.map_cons, members, members, List.filter_append,
    List.filter_append, List.filter_cons, List.filter_cons, hmoved, hunmoved]
  exact congrArg₂ _ (hkeep before) (hkeep after)

/-- The rows of the channel that a row has left. -/
theorem mem_left (hxy : x ≠ y) {r' : CorpusDiversityArtifact} :
    r' ∈ members (·.channelKind) ((marked before after moving).map (moveRow x y fitX fitY)) x ↔
      ∃ r ∈ before ++ after, r.channelKind = x ∧ r' = refit x fitX r := by
  have hrow : ∀ r : CorpusDiversityArtifact, r.channelKind = x →
      moveRow x y fitX fitY (r, false) = refit x fitX r := by
    intro r hr
    rw [moveRow, if_neg (by simp [hr, hxy]), if_pos hr]
  simp only [mem_members, marked, List.map_append, List.map_cons, List.map_map, List.mem_append,
    List.mem_cons, List.mem_map, Function.comp]
  constructor
  · rintro ⟨⟨r, hr, rfl⟩ | rfl | ⟨r, hr, rfl⟩, hchannel⟩
    · rw [channelKind_moveRow] at hchannel
      exact ⟨r, .inl hr, hchannel, hrow r hchannel⟩
    · exact absurd ((channelKind_moveRow_moving _).symm.trans hchannel) hxy.symm
    · rw [channelKind_moveRow] at hchannel
      exact ⟨r, .inr hr, hchannel, hrow r hchannel⟩
  · rintro ⟨r, hr | hr, hchannel, rfl⟩
    · exact ⟨.inl ⟨r, hr, hrow r hchannel⟩, rfl⟩
    · exact ⟨.inr (.inr ⟨r, hr, hrow r hchannel⟩), rfl⟩

/-- The rows of the channel that a row has joined. -/
theorem mem_joined {r' : CorpusDiversityArtifact} :
    r' ∈ members (·.channelKind) ((marked before after moving).map (moveRow x y fitX fitY)) y ↔
      ∃ r, (r = moving ∨ r ∈ before ++ after ∧ r.channelKind = y) ∧ r' = refit y fitY r := by
  have hrow : ∀ r : CorpusDiversityArtifact, r.channelKind = y →
      moveRow x y fitX fitY (r, false) = refit y fitY r := fun r hr => by
    rw [moveRow, if_pos (.inr hr)]
  have hmoved : moveRow x y fitX fitY (moving, true) = refit y fitY moving := by
    rw [moveRow, if_pos (.inl rfl)]
  simp only [mem_members, marked, List.map_append, List.map_cons, List.map_map, List.mem_append,
    List.mem_cons, List.mem_map, Function.comp, hmoved]
  constructor
  · rintro ⟨⟨r, hr, rfl⟩ | rfl | ⟨r, hr, rfl⟩, hchannel⟩
    · rw [channelKind_moveRow] at hchannel
      exact ⟨r, .inr ⟨.inl hr, hchannel⟩, hrow r hchannel⟩
    · exact ⟨moving, .inl rfl, rfl⟩
    · rw [channelKind_moveRow] at hchannel
      exact ⟨r, .inr ⟨.inr hr, hchannel⟩, hrow r hchannel⟩
  · rintro ⟨r, rfl | ⟨hr | hr, hchannel⟩, rfl⟩
    · exact ⟨.inr (.inl rfl), rfl⟩
    · exact ⟨.inl ⟨r, hr, hrow r hchannel⟩, rfl⟩
    · exact ⟨.inr (.inr ⟨r, hr, hrow r hchannel⟩), rfl⟩

/-- Refitted rows represent their channel by the sections they were given. -/
theorem representative_of_forall {channel : String} {sections : List String}
    (hchannel : channel ∈ keys (·.channelKind) rows)
    (h : ∀ r ∈ members (·.channelKind) rows channel, r.sectionSequence = sections) :
    representative order rows channel = sections := by
  have hmem := (first_sectionsOf order (List.mem_toFinset.2 hchannel)).2
  obtain ⟨r, hr, hrc, hsection⟩ := mem_sectionsOf.1 (List.mem_toFinset.1 hmem)
  rw [← hsection]
  exact h r (mem_members.2 ⟨hr, hrc⟩)

/-- What is found of a channel of refitted rows is settled by the distance their operations are at,
and by whether they have two authors. -/
theorem distanceKinds_refit {group : List CorpusDiversityArtifact} {channel : String}
    {fitting : Fitting} {q : ℚ}
    (hq : ∀ a b, a ≠ b → 1 - jaccard (fitting.operations a) (fitting.operations b) = q)
    (hgroup : ∀ r' ∈ group, ∃ r, r' = refit channel fitting r) :
    distanceKinds policy (crossAuthorDistance group).1 =
      if ∀ a ∈ group, ∀ b ∈ group, a.authorCommitment = b.authorCommitment then []
      else distanceKinds policy (some q) := by
  have huniform : ∀ a ∈ group, ∀ b ∈ group, a.authorCommitment ≠ b.authorCommitment →
      1 - jaccard a.realizedOperationIds b.realizedOperationIds = q := by
    intro a ha b hb hne
    obtain ⟨a, rfl⟩ := hgroup a ha
    obtain ⟨b, rfl⟩ := hgroup b hb
    exact hq _ _ hne
  rcases crossAuthorDistance_cases group with ⟨hnone, hsame⟩ | ⟨-, -, -, -, a, ha, b, hb, hne⟩
  · rw [hnone, if_pos hsame]
    rfl
  · rw [crossAuthorDistance_uniform huniform ha hb hne, if_neg fun hsame => hne (hsame a ha b hb)]

/-- The policy leaves some distance between authors unjudged. -/
def LeavesUnjudged (policy : CorpusDiversityPolicy) : Prop :=
  ∃ q : ℚ, 0 ≤ q ∧ q ≤ 1 ∧ distanceKinds policy (some q) = []

/-- Some distance between authors is judged as a channel was. -/
theorem exists_distance (hfree : LeavesUnjudged policy) (group : List CorpusDiversityArtifact) :
    ∃ q : ℚ, 0 ≤ q ∧ q ≤ 1 ∧
      distanceKinds policy (some q) = distanceKinds policy (crossAuthorDistance group).1 := by
  rcases crossAuthorDistance_cases group with ⟨hnone, -⟩ | ⟨q, hsome, h0, h1, -⟩
  · obtain ⟨q, h0, h1, hq⟩ := hfree
    exact ⟨q, h0, h1, by rw [hnone, hq]; rfl⟩
  · exact ⟨q, h0, h1, by rw [hsome]⟩

/-- A suppressed channel is not judged, where the policy asks for five rows. -/
theorem not_eligible (hmin : 5 ≤ policy.minimumChannelSize) {channel : String}
    (hsmall : count rows channel < 5) : (shapeOf policy rows channel).eligible = false := by
  have hlength : (members (·.channelKind) rows channel).length < 5 := hsmall
  simp only [shapeOf, channelShape, decide_eq_false_iff_not]
  omega

/-- A row that leaves a channel with other rows joins another small channel unnoticed, when nothing
was found of the channel it leaves, or two authors stay behind. -/
theorem sameCells_move (order : SetOrder (List String)) (hmin : 5 ≤ policy.minimumChannelSize)
    (hfree : LeavesUnjudged policy) (hxy : x ≠ y) (hmoving : moving.channelKind = x)
    (hx : count (before ++ moving :: after) x < 5) (hstay : 1 < count (before ++ moving :: after) x)
    (hy : y ∈ keys (·.channelKind) (before ++ moving :: after))
    (hroom : count (before ++ moving :: after) y < 4)
    (hrest : distanceKinds policy
        (crossAuthorDistance (members (·.channelKind) (before ++ moving :: after) x)).1 = [] ∨
      ∃ a ∈ before ++ after, ∃ b ∈ before ++ after, a.channelKind = x ∧ b.channelKind = x ∧
        a.authorCommitment ≠ b.authorCommitment) :
    ∃ fitX fitY, SameCells order policy (before ++ moving :: after)
      ((marked before after moving).map (moveRow x y fitX fitY)) id := by
  obtain ⟨qx, hx0, hx1, hqx⟩ := exists_distance hfree
    (members (·.channelKind) (before ++ moving :: after) x)
  obtain ⟨qy, hy0, hy1, hqy⟩ := exists_distance hfree
    (members (·.channelKind) (before ++ moving :: after) y)
  obtain ⟨operationsX, hopsX⟩ := exists_operations hx0 hx1
  obtain ⟨operationsY, hopsY⟩ := exists_operations hy0 hy1
  let fitX : Fitting := ⟨representative order (before ++ moving :: after) x, operationsX⟩
  let fitY : Fitting := ⟨representative order (before ++ moving :: after) y, operationsY⟩
  have hleft : count ((marked before after moving).map (moveRow x y fitX fitY)) x + 1 =
      count (before ++ moving :: after) x := count_left hxy hmoving
  have hjoined : count ((marked before after moving).map (moveRow x y fitX fitY)) y =
      count (before ++ moving :: after) y + 1 := count_joined hxy hmoving
  have hother : ∀ channel, channel ≠ x → channel ≠ y →
      members (·.channelKind) ((marked before after moving).map (moveRow x y fitX fitY)) channel =
        members (·.channelKind) (before ++ moving :: after) channel :=
    fun channel hcx hcy => members_moved hmoving hcx hcy
  have hsmall : ∀ channel, count (before ++ moving :: after) channel < 5 →
      count ((marked before after moving).map (moveRow x y fitX fitY)) channel < 5 := by
    intro channel hlt
    by_cases hcx : channel = x
    · subst hcx; omega
    by_cases hcy : channel = y
    · subst hcy; omega
    rwa [count, hother channel hcx hcy]
  have hkeys : ∀ channel,
      channel ∈ keys (·.channelKind) ((marked before after moving).map (moveRow x y fitX fitY)) ↔
        channel ∈ keys (·.channelKind) (before ++ moving :: after) := by
    intro channel
    rw [mem_keys_iff_count, mem_keys_iff_count]
    by_cases hcx : channel = x
    · subst hcx; omega
    by_cases hcy : channel = y
    · subst hcy
      have hpos := mem_keys_iff_count.1 hy
      omega
    rw [count, count, hother channel hcx hcy]
  have hx' : ∀ r' ∈ members (·.channelKind)
      ((marked before after moving).map (moveRow x y fitX fitY)) x, ∃ r, r' = refit x fitX r :=
    fun r' hr' => (mem_left hxy).1 hr' |>.imp fun _ h => h.2.2
  have hy' : ∀ r' ∈ members (·.channelKind)
      ((marked before after moving).map (moveRow x y fitX fitY)) y, ∃ r, r' = refit y fitY r :=
    fun r' hr' => mem_joined.1 hr' |>.imp fun _ h => h.2
  refine ⟨fitX, fitY, ?_, ?_, fun channel _ => hsmall channel, ?_, ?_, ?_⟩
  · rw [List.map_id]
    exact (List.perm_ext_iff_of_nodup (nodup_keys _ _) (nodup_keys _ _)).2 hkeys
  · intro channel _ hlarge
    have hcx : channel ≠ x := fun h => by subst h; omega
    have hcy : channel ≠ y := fun h => by subst h; omega
    exact ⟨rfl, by rw [shapeOf, shapeOf, hother channel hcx hcy]⟩
  · intro channel _ hlt
    rw [id, not_eligible hmin (hsmall channel hlt), not_eligible hmin hlt]
  · intro repr channel _ hlt
    rw [id, map_kind_of_not_eligible _ (not_eligible hmin (hsmall channel hlt)),
      map_kind_of_not_eligible _ (not_eligible hmin hlt)]
    congr 1
    by_cases hcx : channel = x
    · subst hcx
      refine (distanceKinds_refit hopsX hx').trans ?_
      split
      · next hsame =>
        rcases hrest with hnone | ⟨a, ha, b, hb, hac, hbc, hne⟩
        · exact hnone.symm
        · exact absurd (hsame _ ((mem_left hxy).2 ⟨a, ha, hac, rfl⟩) _
            ((mem_left hxy).2 ⟨b, hb, hbc, rfl⟩)) hne
      · exact hqx
    by_cases hcy : channel = y
    · subst hcy
      refine (distanceKinds_refit hopsY hy').trans ?_
      split
      · next hsame =>
        -- a channel of one author had only that author before
        rcases crossAuthorDistance_cases (members (·.channelKind) (before ++ moving :: after) channel)
          with ⟨hnone, -⟩ | ⟨-, -, -, -, a, ha, b, hb, hne⟩
        · rw [shapeOf, channelShape]
          dsimp only
          rw [hnone]
          rfl
        · have hstays : ∀ r ∈ members (·.channelKind) (before ++ moving :: after) channel,
              refit channel fitY r ∈ members (·.channelKind)
                ((marked before after moving).map (moveRow x channel fitX fitY)) channel := by
            intro r hr
            obtain ⟨hmem, hrc⟩ := mem_members.1 hr
            have hne : r ≠ moving := fun h => hcx (hrc.symm.trans (h ▸ hmoving))
            have hrest : r ∈ before ++ after := by
              rcases List.mem_append.1 hmem with h | h
              · exact List.mem_append_left _ h
              · exact List.mem_append_right _ ((List.mem_cons.1 h).resolve_left hne)
            exact mem_joined.2 ⟨r, .inr ⟨hrest, hrc⟩, rfl⟩
          exact absurd (hsame _ (hstays a ha) _ (hstays b hb)) hne
      · exact hqy
    rw [shapeOf, shapeOf, hother channel hcx hcy]
  · intro channel hchannel
    rw [id]
    by_cases hcx : channel = x
    · subst hcx
      refine representative_of_forall ((hkeys _).2 hchannel) fun r' hr' => ?_
      obtain ⟨r, rfl⟩ := hx' r' hr'
      rfl
    by_cases hcy : channel = y
    · subst hcy
      refine representative_of_forall ((hkeys _).2 hchannel) fun r' hr' => ?_
      obtain ⟨r, rfl⟩ := hy' r' hr'
      rfl
    rw [representative, representative, sectionsOf, sectionsOf, hother channel hcx hcy]

end

/-! ## What is hidden and what is not -/

/-- The summary holds the count of the channel back. -/
def Suppressed (rows : List CorpusDiversityArtifact) (channel : String) : Prop :=
  channel ∈ keys (·.channelKind) rows ∧ count rows channel < 5

/-- Some input of the policy `policy'` in which the channel has a different count has the same
public summary, but for the id and the commitment to the rows. -/
def Hidden (repr : PyFloat → String) (order : SetOrder (List String)) (policy : CorpusDiversityPolicy)
    (rows : List CorpusDiversityArtifact) (verified : Bool) (channel : String)
    (policy' : CorpusDiversityPolicy) : Prop :=
  ∃ order' rows' verified', channel ∈ keys (·.channelKind) rows' ∧
    count rows' channel ≠ count rows channel ∧
    Agree (summaryOf repr order policy rows verified) (summaryOf repr order' policy' rows' verified')

/-- A row can leave the channel unnoticed. -/
def CanLose (policy : CorpusDiversityPolicy) (rows : List CorpusDiversityArtifact)
    (channel : String) : Prop :=
  count rows channel = 3 ∨ count rows channel = 2 ∧
    distanceKinds policy (shapeOf policy rows channel).crossAuthorDistance = []

/-- Another suppressed channel shields the count of a channel: its count is different, or a row can
move between the two. -/
def Shields (policy : CorpusDiversityPolicy) (rows : List CorpusDiversityArtifact)
    (channel other : String) : Prop :=
  count rows other ≠ count rows channel ∨
    other ≠ channel ∧ 5 ≤ policy.minimumChannelSize ∧ LeavesUnjudged policy ∧
      (CanLose policy rows channel ∧ count rows other < 4 ∨
        CanLose policy rows other ∧ count rows channel < 4)

/-- A suppressed channel with another count hides the count. -/
theorem hidden_of_count_ne {c d : String} (hc : Suppressed rows c) (hd : Suppressed rows d)
    (hne : count rows d ≠ count rows c) : Hidden repr order policy rows verified c policy := by
  have hcount : count (rows.map (exchange c d)) c = count rows d := by
    have h := members_exchange c d d rows
    rw [Equiv.swap_apply_right] at h
    rw [count, h, List.length_map]
    rfl
  have hcells : SameCells order policy (rows.map id) (rows.map (exchange c d)) (Equiv.swap c d) := by
    rw [List.map_id]
    exact sameCells_exchange hc.2 hd.2
  have hagree := summaryOf_agree repr verified (f := id) (sameSource_exchange c d) hcells
  rw [List.map_id] at hagree
  refine ⟨order, _, verified, ?_, by rwa [hcount], hagree⟩
  rw [mem_keys_iff_count, hcount]
  exact mem_keys_iff_count.1 hd.1

/-- The rows of a channel are found among all rows where they stand among their own. -/
theorem exists_split_members {channel : String} {A B : List CorpusDiversityArtifact}
    {r : CorpusDiversityArtifact} (h : members (·.channelKind) rows channel = A ++ r :: B) :
    ∃ before after, rows = before ++ r :: after ∧ r.channelKind = channel ∧
      members (·.channelKind) before channel = A ∧ members (·.channelKind) after channel = B := by
  obtain ⟨l, l', rfl, hA, hrB⟩ := List.filter_eq_append_iff.1 h
  obtain ⟨skipped, after, rfl, hskipped, hr, hB⟩ := List.filter_eq_cons_iff.1 hrB
  refine ⟨l ++ skipped, after, by rw [List.append_assoc], of_decide_eq_true hr, ?_, hB⟩
  have hnone : skipped.filter (fun r => decide (r.channelKind = channel)) = [] :=
    List.filter_eq_nil_iff.2 fun r hr => by simpa using hskipped r hr
  rw [members, List.filter_append, hA, hnone, List.append_nil]

/-- Of a channel that can lose a row, one can be picked such that nothing changes in the judgement
on the rows that stay. -/
theorem exists_moving {x : String} (h : CanLose policy rows x) :
    ∃ before moving after, rows = before ++ moving :: after ∧ moving.channelKind = x ∧
      (distanceKinds policy (crossAuthorDistance (members (·.channelKind) rows x)).1 = [] ∨
        ∃ a ∈ before ++ after, ∃ b ∈ before ++ after, a.channelKind = x ∧ b.channelKind = x ∧
          a.authorCommitment ≠ b.authorCommitment) := by
  have hcount : 2 ≤ (members (·.channelKind) rows x).length := by
    rcases h with h | ⟨h, -⟩ <;> rw [← count, h]
    omega
  by_cases hsilent : distanceKinds policy (crossAuthorDistance (members (·.channelKind) rows x)).1 = []
  · cases hm : members (·.channelKind) rows x with
    | nil => rw [hm] at hcount; cases hcount
    | cons r B =>
      obtain ⟨before, after, hrows, hr, -⟩ := exists_split_members (A := []) hm
      exact ⟨before, r, after, hrows, hr, .inl (hm ▸ hsilent)⟩
  have hthree : (members (·.channelKind) rows x).length = 3 :=
    h.resolve_right fun h => hsilent h.2
  obtain ⟨r₁, r₂, r₃, hm⟩ := List.length_eq_three.1 hthree
  by_cases h12 : r₁.authorCommitment = r₂.authorCommitment
  · -- the last row has another author, and stays with the second
    have h23 : r₂.authorCommitment ≠ r₃.authorCommitment := by
      intro h23
      rcases crossAuthorDistance_cases (members (·.channelKind) rows x) with
        ⟨hnone, -⟩ | ⟨-, -, -, -, a, ha, b, hb, hne⟩
      · exact hsilent (by rw [hnone]; rfl)
      · rw [hm] at ha hb
        simp only [List.mem_cons, List.not_mem_nil, or_false] at ha hb
        rcases ha with rfl | rfl | rfl <;> rcases hb with rfl | rfl | rfl <;> simp_all
    obtain ⟨before, after, hrows, hr, -, hafter⟩ :=
      exists_split_members (A := []) (B := [r₂, r₃]) hm
    have hmem : ∀ r ∈ [r₂, r₃], r ∈ after ∧ r.channelKind = x := fun r hr => by
      rw [← hafter] at hr
      exact mem_members.1 hr
    have h2 := hmem r₂ (.head _)
    have h3 := hmem r₃ (.tail _ (.head _))
    exact ⟨before, r₁, after, hrows, hr, .inr ⟨r₂, List.mem_append_right _ h2.1, r₃,
      List.mem_append_right _ h3.1, h2.2, h3.2, h23⟩⟩
  · obtain ⟨before, after, hrows, hr, hbefore, -⟩ :=
      exists_split_members (A := [r₁, r₂]) (B := []) hm
    have hmem : ∀ r ∈ [r₁, r₂], r ∈ before ∧ r.channelKind = x := fun r hr => by
      rw [← hbefore] at hr
      exact mem_members.1 hr
    have h1 := hmem r₁ (.head _)
    have h2 := hmem r₂ (.tail _ (.head _))
    exact ⟨before, r₃, after, hrows, hr, .inr ⟨r₁, List.mem_append_left _ h1.1, r₂,
      List.mem_append_left _ h2.1, h1.2, h2.2, h12⟩⟩

/-- A row that can leave a channel for another hides the counts of both. -/
theorem hidden_of_move (hmin : 5 ≤ policy.minimumChannelSize) (hfree : LeavesUnjudged policy)
    {x y : String} (hxy : x ≠ y) (hx : Suppressed rows x) (hy : Suppressed rows y)
    (hlose : CanLose policy rows x) (hroom : count rows y < 4) :
    Hidden repr order policy rows verified x policy ∧
      Hidden repr order policy rows verified y policy := by
  obtain ⟨before, moving, after, rfl, hmoving, hrest⟩ := exists_moving hlose
  have hstay : 1 < count (before ++ moving :: after) x := by
    rcases hlose with h | ⟨h, -⟩ <;> omega
  obtain ⟨fitX, fitY, hcells⟩ := sameCells_move order hmin hfree hxy hmoving hx.2 hstay
    hy.1 hroom hrest
  have hagree := summaryOf_agree repr verified
    (sameSource_moveRow x y fitX fitY) (by rw [map_fst_marked]; exact hcells)
  rw [map_fst_marked] at hagree
  have hleft : count ((marked before after moving).map (moveRow x y fitX fitY)) x + 1 =
      count (before ++ moving :: after) x := count_left hxy hmoving
  have hjoined : count ((marked before after moving).map (moveRow x y fitX fitY)) y =
      count (before ++ moving :: after) y + 1 := count_joined hxy hmoving
  exact ⟨⟨order, _, verified, mem_keys_iff_count.2 (by omega), by omega, hagree⟩,
    ⟨order, _, verified, mem_keys_iff_count.2 (by omega), by omega, hagree⟩⟩

/-- A channel that shields the count hides it. -/
theorem hidden_of_shields {c d : String} (hc : Suppressed rows c) (hd : Suppressed rows d)
    (h : Shields policy rows c d) : Hidden repr order policy rows verified c policy := by
  rcases h with hne | ⟨hdc, hmin, hfree, ⟨hlose, hroom⟩ | ⟨hlose, hroom⟩⟩
  · exact hidden_of_count_ne hc hd hne
  · exact (hidden_of_move hmin hfree hdc.symm hc hd hlose hroom).1
  · exact (hidden_of_move hmin hfree hdc hd hc hlose hroom).2

/-! ## The sum of the counts held back -/

/-- The counts of the channels add up to the rows. -/
theorem sum_count (rows : List CorpusDiversityArtifact) :
    ((channels rows).map (count rows)).sum = rows.length := by
  have hcount : ∀ c, count rows c = (rows.map (·.channelKind)).count c := by
    intro c
    rw [count_eq_countP, List.count, List.countP_map]
    exact List.countP_congr fun r _ => by simp
  rw [((perm_channels rows).map _).sum_eq, ← List.sum_toFinset _ (nodup_keys _ _),
    Finset.sum_congr rfl fun c _ => hcount c]
  have hkeys : (keys (·.channelKind) rows).toFinset = (rows.map (·.channelKind)).toFinset := by
    ext c
    simp [keys]
  rw [hkeys, List.sum_toFinset_count_eq_length, List.length_map]

/-- The counts the summary holds back. -/
def heldBack (rows : List CorpusDiversityArtifact) : List Nat :=
  ((channels rows).filter (count rows · < 5)).map (count rows)

/-- What is held back are the counts of the suppressed channels. -/
theorem mem_heldBack {n : Nat} :
    n ∈ heldBack rows ↔ ∃ c, Suppressed rows c ∧ count rows c = n := by
  simp only [heldBack, List.mem_map, List.mem_filter, decide_eq_true_eq, Suppressed, mem_channels]

/-- The channels whose metrics are published. -/
def publicChannels (rows : List CorpusDiversityArtifact) : List String :=
  (channels rows).filter (5 ≤ count rows ·)

/-- The summary has the metrics of the public channels. -/
theorem summaryOf_channelMetrics (repr : PyFloat → String) (order : SetOrder (List String))
    (policy : CorpusDiversityPolicy) (rows : List CorpusDiversityArtifact) (verified : Bool) :
    (summaryOf repr order policy rows verified).channelMetrics =
      (publicChannels rows).map fun c => channelMetrics c (shapeOf policy rows c) :=
  List.filter_map ..

/-- The summary has the number of the suppressed channels. -/
theorem summaryOf_suppressed (repr : PyFloat → String) (order : SetOrder (List String))
    (policy : CorpusDiversityPolicy) (rows : List CorpusDiversityArtifact) (verified : Bool) :
    (summaryOf repr order policy rows verified).suppressedSmallCellCount = (heldBack rows).length := by
  rw [heldBack, List.length_map, ← List.countP_eq_length_filter]
  exact List.countP_map ..

/-- The number of all artifacts is the sum of the counts held back and those published. -/
theorem sum_heldBack (rows : List CorpusDiversityArtifact) :
    (heldBack rows).sum + ((publicChannels rows).map (count rows)).sum = rows.length := by
  have hlarge : publicChannels rows = (channels rows).filter fun c => !decide (count rows c < 5) :=
    List.filter_congr fun c _ => by
      rw [Bool.eq_iff_iff]
      simp
  rw [← sum_count rows, heldBack, hlarge, ← List.sum_append, ← List.map_append]
  exact ((List.filter_append_perm _ _).map _).sum_eq

/-- The published numbers give the sum of the counts held back, and how many they are. -/
theorem heldBack_of_agree {order' : SetOrder (List String)} {policy' : CorpusDiversityPolicy}
    {verified' : Bool} (h : Agree (summaryOf repr order policy rows verified)
      (summaryOf repr order' policy' rows' verified')) :
    (heldBack rows).length = (heldBack rows').length ∧ (heldBack rows).sum = (heldBack rows').sum ∧
      ∀ c, Suppressed rows c → count rows' c < 5 := by
  have hcount : rows.length = rows'.length := congrArg PublicSummary.artifactCount h
  have hsuppressed := congrArg PublicSummary.suppressedSmallCellCount h
  have hmetrics := congrArg PublicSummary.channelMetrics h
  rw [summaryOf_suppressed, summaryOf_suppressed] at hsuppressed
  rw [summaryOf_channelMetrics, summaryOf_channelMetrics] at hmetrics
  have hpublic : ∀ (policy : CorpusDiversityPolicy) (rows : List CorpusDiversityArtifact),
      ((publicChannels rows).map fun c => channelMetrics c (shapeOf policy rows c)).map
        (·.artifactCount) = (publicChannels rows).map (count rows) := fun policy rows => by
    rw [List.map_map]
    rfl
  have hsum := congrArg (fun ms => (ms.map ChannelDiversityMetrics.artifactCount).sum) hmetrics
  rw [hpublic, hpublic] at hsum
  have htotal := sum_heldBack rows
  have htotal' := sum_heldBack rows'
  refine ⟨hsuppressed, by omega, fun c hc => ?_⟩
  -- a count of five or more would be among the published metrics, which are those of `rows`
  by_contra hlarge
  have hchannel : c ∈ publicChannels rows' := by
    refine List.mem_filter.2 ⟨mem_channels.2 (mem_keys_iff_count.2 ?_), ?_⟩
    · omega
    · exact decide_eq_true (by omega)
  obtain ⟨d, hd, heq⟩ := List.mem_map.1 (hmetrics ▸ List.mem_map_of_mem hchannel)
  have hdc : d = c := congrArg ChannelDiversityMetrics.channelKind heq
  have hpublished := of_decide_eq_true (List.mem_filter.1 hd).2
  rw [hdc] at hpublished
  have hsmall := hc.2
  omega

/-- Numbers of which none is less than `k` and whose mean is `k` are all `k`; likewise with more. -/
theorem forall_eq_of_sum {k : Nat} {l : List Nat} (hsum : l.sum = k * l.length)
    (h : (∀ n ∈ l, k ≤ n) ∨ ∀ n ∈ l, n ≤ k) : ∀ n ∈ l, n = k := by
  induction l with
  | nil => exact fun _ hn => nomatch hn
  | cons a l ih =>
    have hle : l.sum = k * l.length ∧ a = k := by
      rw [List.sum_cons, List.length_cons, Nat.mul_succ] at hsum
      rcases h with h | h
      · have hrest := List.card_nsmul_le_sum l k fun n hn => h n (.tail _ hn)
        have ha := h a (.head _)
        rw [Nat.nsmul_eq_mul, Nat.mul_comm] at hrest
        omega
      · have hrest := List.sum_le_card_nsmul l k fun n hn => h n (.tail _ hn)
        have ha := h a (.head _)
        rw [Nat.nsmul_eq_mul, Nat.mul_comm] at hrest
        omega
    intro n hn
    rcases List.mem_cons.1 hn with rfl | hn
    · exact hle.2
    · exact ih hle.1 (h.imp (fun h n hn => h n (.tail _ hn)) fun h n hn => h n (.tail _ hn)) n hn

/-- Counts that can only be one way are hidden under no policy: when a single one is held back, or
when all of them are one, or all are four. -/
theorem not_hidden {c : String} (hc : Suppressed rows c)
    (h : (∀ d, Suppressed rows d → d = c) ∨ (∀ d, Suppressed rows d → count rows d = 1) ∨
      ∀ d, Suppressed rows d → count rows d = 4) (policy' : CorpusDiversityPolicy) :
    ¬ Hidden repr order policy rows verified c policy' := by
  rintro ⟨order', rows', verified', hc', hne, hagree⟩
  obtain ⟨hlength, hsum, hsmall⟩ := heldBack_of_agree hagree
  have hmem : count rows c ∈ heldBack rows := mem_heldBack.2 ⟨c, hc, rfl⟩
  have hmem' : count rows' c ∈ heldBack rows' := mem_heldBack.2 ⟨c, ⟨hc', hsmall c hc⟩, rfl⟩
  have hbounds : ∀ n ∈ heldBack rows', 1 ≤ n ∧ n ≤ 4 := by
    intro n hn
    obtain ⟨d, hd, rfl⟩ := mem_heldBack.1 hn
    have hpos := mem_keys_iff_count.1 hd.1
    have hlt := hd.2
    omega
  have hmean : ∀ k, (∀ d, Suppressed rows d → count rows d = k) →
      (heldBack rows').sum = k * (heldBack rows').length ∧ count rows c = k := by
    intro k hk
    have hall : ∀ n ∈ heldBack rows, n = k := by
      intro n hn
      obtain ⟨d, hd, rfl⟩ := mem_heldBack.1 hn
      exact hk d hd
    rw [← hsum, ← hlength, List.eq_replicate_of_mem hall, List.sum_replicate, List.length_replicate,
      Nat.nsmul_eq_mul, Nat.mul_comm]
    exact ⟨rfl, hk c hc⟩
  rcases h with hsingle | hone | hfour
  · have hchannels : (channels rows).filter (count rows · < 5) = [c] := by
      refine List.perm_singleton.1 ((List.perm_ext_iff_of_nodup ((nodup_channels rows).filter _)
        (List.nodup_singleton c)).2 fun d => ?_)
      rw [List.mem_filter, mem_channels, decide_eq_true_iff, List.mem_singleton]
      exact ⟨hsingle d, fun h => h ▸ hc⟩
    rw [heldBack, hchannels] at hlength hsum
    obtain ⟨m, hm⟩ := List.length_eq_one_iff.1 hlength.symm
    rw [hm, List.map_singleton, List.sum_singleton, List.sum_singleton] at hsum
    rw [hm, List.mem_singleton] at hmem'
    exact hne (hmem'.trans hsum.symm)
  · obtain ⟨hsum', hcount⟩ := hmean 1 hone
    exact hne ((forall_eq_of_sum hsum' (.inl fun n hn => (hbounds n hn).1) _ hmem').trans hcount.symm)
  · obtain ⟨hsum', hcount⟩ := hmean 4 hfour
    exact hne ((forall_eq_of_sum hsum' (.inr fun n hn => (hbounds n hn).2) _ hmem').trans hcount.symm)

/-- A suppressed count is hidden under its own policy when another suppressed channel shields it,
and is computed from the published numbers, under any policy, when it is the only one, or when all
of them are one, or all are four. -/
theorem suppressed_count (repr : PyFloat → String) (order : SetOrder (List String))
    (policy : CorpusDiversityPolicy) (rows : List CorpusDiversityArtifact) (verified : Bool)
    (c : String) (hc : Suppressed rows c) :
    ((∃ d, Suppressed rows d ∧ Shields policy rows c d) →
        Hidden repr order policy rows verified c policy) ∧
      ((∀ d, Suppressed rows d → d = c) ∨ (∀ d, Suppressed rows d → count rows d = 1) ∨
          (∀ d, Suppressed rows d → count rows d = 4) →
        ∀ policy', ¬ Hidden repr order policy rows verified c policy') :=
  ⟨fun ⟨_, hd, h⟩ => hidden_of_shields hc hd h, fun h => not_hidden hc h⟩

/-- One calendar entry beside two emails. -/
theorem suppressed_count_pair : Hidden (fun _ => "") (.ofInsertion _) {}
    [rowOf "email" "email.body", rowOf "email" "email.close", rowOf "calendar" "calendar.body"] true
    "calendar" {} :=
  (suppressed_count (fun _ => "") (.ofInsertion _) {}
    [rowOf "email" "email.body", rowOf "email" "email.close", rowOf "calendar" "calendar.body"] true
    "calendar" ⟨by decide, by decide⟩).1 ⟨"email", ⟨by decide, by decide⟩, .inl (by decide)⟩

/-- One calendar entry beside five emails: of six artifacts five are published. -/
theorem calendar_count_is_the_rest : ¬ ∀ (repr : PyFloat → String) (order : SetOrder (List String))
    (policy : CorpusDiversityPolicy) (rows : List CorpusDiversityArtifact) (verified : Bool)
    (c : String), Suppressed rows c →
      ∃ policy', Hidden repr order policy rows verified c policy' := by
  intro h
  have hc : Suppressed (rowOf "calendar" "calendar.body" ::
      List.replicate 5 (rowOf "email" "email.body")) "calendar" := ⟨by decide, by decide⟩
  obtain ⟨policy', hhidden⟩ := h (fun _ => "") (.ofInsertion _) {} _ true _ hc
  refine not_hidden hc (.inl fun d hd => ?_) policy' hhidden
  have hemail : ¬ count (rowOf "calendar" "calendar.body" ::
      List.replicate 5 (rowOf "email" "email.body")) "email" < 5 := by decide
  have hkeys : keys (·.channelKind) (rowOf "calendar" "calendar.body" ::
      List.replicate 5 (rowOf "email" "email.body")) = ["calendar", "email"] := by decide
  have hmem := hd.1
  rw [hkeys, List.mem_cons, List.mem_singleton] at hmem
  exact hmem.resolve_right fun hd' => hemail (hd' ▸ hd.2)

end Diversity

end LawFirmDigitalTwin
