import Mathlib.Data.Finset.Card

/-!
# How many values a choice takes

A family of finite sets, and choices of one element of each. The number of distinct elements chosen
is the same for every choice exactly when each set of two or more elements either shares none of
them with another set or has each of them forced by another set.
-/

namespace Transversal

variable {ι α : Type*} [DecidableEq ι] [DecidableEq α] {I : Finset ι} {S : ι → Finset α}
  {f g : ι → α}

/-- A choice of one element of each set of the family. -/
def Chooses (I : Finset ι) (S : ι → Finset α) (f : ι → α) : Prop := ∀ i ∈ I, f i ∈ S i

/-- None of the elements of a set is in another set of the family. -/
def Apart (I : Finset ι) (S : ι → Finset α) (i : ι) : Prop := ∀ a ∈ S i, ∀ j ∈ I, j ≠ i → a ∉ S j

/-- Every element of a set is the only one of another set of the family. -/
def Forced (I : Finset ι) (S : ι → Finset α) (i : ι) : Prop :=
  ∀ a ∈ S i, ∃ j ∈ I, j ≠ i ∧ S j = {a}

/-- Each set that leaves a choice is apart from the others or forced by them. -/
def Settled (I : Finset ι) (S : ι → Finset α) : Prop :=
  ∀ i ∈ I, 1 < (S i).card → Apart I S i ∨ Forced I S i

/-- The elements chosen are those of the sets that leave no choice, and one more for each set that
is apart. -/
theorem card_image_of_settled (hs : Settled I S) (hf : Chooses I S f) (hg : Chooses I S g) :
    (I.image f).card = (I.image g).card := by
  classical
  let single := I.filter fun i => (S i).card = 1
  let apart := I.filter fun i => 1 < (S i).card ∧ Apart I S i
  have hcover : ∀ {h : ι → α}, Chooses I S h → I.image h = single.image h ∪ apart.image h := by
    intro h hh
    ext a
    simp only [Finset.mem_image, Finset.mem_union]
    constructor
    · rintro ⟨i, hi, rfl⟩
      have hpos : 0 < (S i).card := Finset.card_pos.2 ⟨_, hh i hi⟩
      rcases Nat.lt_or_ge 1 (S i).card with hcard | hcard
      · rcases hs i hi hcard with hapart | hforced
        · exact .inr ⟨i, Finset.mem_filter.2 ⟨hi, hcard, hapart⟩, rfl⟩
        · obtain ⟨j, hj, -, hSj⟩ := hforced _ (hh i hi)
          have hchosen := hh j hj
          rw [hSj, Finset.mem_singleton] at hchosen
          exact .inl ⟨j, Finset.mem_filter.2 ⟨hj, by rw [hSj, Finset.card_singleton]⟩, hchosen⟩
      · exact .inl ⟨i, Finset.mem_filter.2 ⟨hi, by omega⟩, rfl⟩
    · rintro (⟨i, hi, rfl⟩ | ⟨i, hi, rfl⟩)
      · exact ⟨i, (Finset.mem_filter.1 hi).1, rfl⟩
      · exact ⟨i, (Finset.mem_filter.1 hi).1, rfl⟩
  have hcount : ∀ {h : ι → α}, Chooses I S h →
      (I.image h).card = (single.image h).card + apart.card := by
    intro h hh
    have hdisjoint : Disjoint (single.image h) (apart.image h) := by
      refine Finset.disjoint_left.2 fun a hsingle hapart => ?_
      obtain ⟨j, hj, rfl⟩ := Finset.mem_image.1 hsingle
      obtain ⟨i, hi, heq⟩ := Finset.mem_image.1 hapart
      obtain ⟨hjI, hjcard⟩ := Finset.mem_filter.1 hj
      obtain ⟨hiI, hicard, hiapart⟩ := Finset.mem_filter.1 hi
      have hne : j ≠ i := fun hji => by subst hji; omega
      exact hiapart _ (hh i hiI) j hjI hne (heq ▸ hh j hjI)
    have hinjective : Set.InjOn h apart := by
      intro i hi j hj heq
      obtain ⟨hiI, -, hiapart⟩ := Finset.mem_filter.1 hi
      obtain ⟨hjI, -, -⟩ := Finset.mem_filter.1 hj
      by_contra hne
      exact hiapart _ (hh i hiI) j hjI (Ne.symm hne) (heq ▸ hh j hjI)
    rw [hcover hh, Finset.card_union_of_disjoint hdisjoint, Finset.card_image_of_injOn hinjective]
  have hsame : single.image f = single.image g := by
    refine Finset.image_congr fun i hi => ?_
    obtain ⟨hiI, hicard⟩ := Finset.mem_filter.1 hi
    obtain ⟨a, ha⟩ := Finset.card_eq_one.1 hicard
    have hfi := hf i hiI
    have hgi := hg i hiI
    rw [ha, Finset.mem_singleton] at hfi hgi
    rw [hfi, hgi]
  rw [hcount hf, hcount hg, hsame]

/-- If a set shares an element with another, then each of its other elements is forced: choose the
shared element in the other set and avoid the one at hand everywhere else. -/
theorem forced_of_shared (hne : ∀ i ∈ I, (S i).Nonempty)
    (hconst : ∀ f g, Chooses I S f → Chooses I S g → (I.image f).card = (I.image g).card)
    {i j : ι} (hi : i ∈ I) (hj : j ∈ I) (hji : j ≠ i) {a b : α} (ha : a ∈ S i) (haj : a ∈ S j)
    (hb : b ∈ S i) (hab : b ≠ a) : ∃ k ∈ I, k ≠ i ∧ S k = {b} := by
  classical
  by_contra hnone
  push Not at hnone
  -- elsewhere an element other than `b` can be chosen
  have hother : ∀ k, ∃ x, k ∈ I → k ≠ i → x ∈ S k ∧ x ≠ b := by
    intro k
    by_cases hk : k ∈ I ∧ k ≠ i
    · obtain ⟨x, hx, hxb⟩ : ∃ x ∈ S k, x ≠ b := by
        by_contra hall
        push Not at hall
        exact hnone k hk.1 hk.2 ((Finset.eq_singleton_iff_nonempty_unique_mem).2 ⟨hne k hk.1, hall⟩)
      exact ⟨x, fun _ _ => ⟨hx, hxb⟩⟩
    · exact ⟨a, fun hkI hki => absurd ⟨hkI, hki⟩ hk⟩
  choose avoid havoid using hother
  let rest : ι → α := fun k => if k = j then a else avoid k
  have hrest : ∀ k ∈ I, k ≠ i → rest k ∈ S k ∧ rest k ≠ b := by
    intro k hk hki
    by_cases hkj : k = j
    · subst hkj
      simp only [rest, if_pos]
      exact ⟨haj, hab.symm⟩
    · simp only [rest, if_neg hkj]
      exact havoid k hk hki
  have hchoose : ∀ x ∈ S i, Chooses I S (Function.update rest i x) := by
    intro x hx k hk
    by_cases hki : k = i
    · subst hki
      rwa [Function.update_self]
    · rw [Function.update_of_ne hki]
      exact (hrest k hk hki).1
  have himage : ∀ x, I.image (Function.update rest i x) = insert x ((I.erase i).image rest) := by
    intro x
    rw [← Finset.insert_erase hi, Finset.image_insert, Function.update_self,
      Finset.insert_erase hi]
    congr 1
    refine Finset.image_congr fun k hk => ?_
    rw [Function.update_of_ne (Finset.ne_of_mem_erase hk)]
  have hcard := hconst _ _ (hchoose a ha) (hchoose b hb)
  have hmem : a ∈ (I.erase i).image rest :=
    Finset.mem_image.2 ⟨j, Finset.mem_erase.2 ⟨hji, hj⟩, if_pos rfl⟩
  have hnot : b ∉ (I.erase i).image rest := by
    intro hbmem
    obtain ⟨k, hk, hkb⟩ := Finset.mem_image.1 hbmem
    exact (hrest k (Finset.mem_of_mem_erase hk) (Finset.ne_of_mem_erase hk)).2 hkb
  rw [himage, himage, Finset.insert_eq_self.2 hmem, Finset.card_insert_of_notMem hnot] at hcard
  omega

/-- Where all choices reach equally many elements, each set that leaves a choice is apart or
forced. -/
theorem settled_of_card_image (hne : ∀ i ∈ I, (S i).Nonempty)
    (hconst : ∀ f g, Chooses I S f → Chooses I S g → (I.image f).card = (I.image g).card) :
    Settled I S := by
  intro i hi hcard
  by_cases hapart : Apart I S i
  · exact .inl hapart
  obtain ⟨a, ha, j, hj, hji, haj⟩ : ∃ a ∈ S i, ∃ j ∈ I, j ≠ i ∧ a ∈ S j := by
    simpa [Apart] using hapart
  obtain ⟨b, hb, hba⟩ := Finset.exists_mem_ne hcard a
  refine .inr fun c hc => ?_
  by_cases hca : c = a
  · subst hca
    obtain ⟨k, hk, hki, hSk⟩ := forced_of_shared hne hconst hi hj hji ha haj hb hba
    exact forced_of_shared hne hconst hi hk hki hb (hSk ▸ Finset.mem_singleton_self b) hc hba.symm
  · exact forced_of_shared hne hconst hi hj hji ha haj hc hca

end Transversal
