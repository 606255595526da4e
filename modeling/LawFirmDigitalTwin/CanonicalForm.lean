import LawFirmDigitalTwin.JsonReading

/-!
# Canonical JSON is a canonical form

Two JSON values have one canonical text exactly when they are equal, whatever the order of the keys
of their objects. Where sets of strings stand in a value, the order in which they are iterated does
not matter either.
-/

namespace LawFirmDigitalTwin

open JsonText

namespace Json

/-- A JSON value without floats, under distinct keys; its integers have any number of digits. -/
def IsJson (v : Json) : Prop := ∃ digits, v.IsPlain digits

/-- The values are equal as JSON values: the order of keys does not count. -/
def Same (v w : Json) : Prop := v.toValue.Same w.toValue

/-- A larger limit on the digits admits more values. -/
theorem IsPlain.mono {digits digits' : Nat} {v : Json} (h : v.IsPlain digits)
    (hle : digits ≤ digits') : v.IsPlain digits' := by
  induction h with
  | null => exact .null
  | bool b => exact .bool b
  | int i bound => exact .int i (bound.trans hle)
  | str s => exact .str s
  | list items plain ih => exact .list items ih
  | dict entries nodup plain ih => exact .dict entries nodup ih

/-- Canonicalizing twice is canonicalizing once. -/
theorem canonicalize_canonicalize (v : Json) : v.canonicalize.canonicalize = v.canonicalize := by
  induction v using rec_mem with
  | null | bool | int | float | str => rfl
  | list items ih =>
    rw [canonicalize, canonicalize, canonicalizeItems_eq_map, canonicalizeItems_eq_map,
      List.map_map]
    exact congrArg Json.list (List.map_congr_left ih)
  | dict entries ih =>
    rw [canonicalize, canonicalize, canonicalizeEntries_eq_map, canonicalizeEntries_eq_map]
    change Json.dict (sortKeys ((sortKeys _).map _)) = Json.dict (sortKeys _)
    rw [← sortKeys_map, sortKeys_sortKeys, List.map_map]
    exact congrArg (fun es => Json.dict (sortKeys es))
      (List.map_congr_left fun e he => Prod.ext rfl (ih e he))

/-- **Values have one canonical text exactly when they are equal.** -/
theorem canonicalJson_eq_iff {v w : Json} (hv : v.IsJson) (hw : w.IsJson) :
    canonicalJson v = canonicalJson w ↔ v.Same w := by
  obtain ⟨digits, hv⟩ := hv
  obtain ⟨digits', hw⟩ := hw
  -- A reader that takes the integers of both.
  let H : Host := ⟨id, max digits digits'⟩
  have hv : Plain H v.toValue := (hv.mono (le_max_left _ _)).toValue
  have hw : Plain H w.toValue := (hw.mono (le_max_right _ _)).toValue
  rw [Same, ← canonical_text_iff hv hw, canonicalJson, canonicalJson, String.ofList_inj,
    ← dumps_toValue, ← dumps_toValue, toValue_canonicalize, toValue_canonicalize]

end Json

/-! ## Sets of strings -/

/-- A value that `canonicalize` may be given: JSON, with sets of strings anywhere. A set is given by
its elements, in the order in which it is iterated. -/
inductive Data
  | null
  | bool (b : Bool)
  | int (i : Int)
  | float (repr : String)
  | str (s : String)
  | list (items : List Data)
  | dict (entries : List (String × Data))
  | set (elements : List String)

namespace Data

/-- `sorted` of a set of strings, a list. -/
def sortedSet (elements : List String) : Json :=
  .list ((elements.insertionSort (· ≤ ·)).map .str)

mutual

/-- `hashio.py` `canonicalize`. -/
def canonicalize : Data → Json
  | .null => .null
  | .bool b => .bool b
  | .int i => .int i
  | .float r => .float r
  | .str s => .str s
  | .list items => .list (canonicalizeItems items)
  | .dict entries => .dict ((canonicalizeEntries entries).insertionSort fun a b => a.1 ≤ b.1)
  | .set elements => sortedSet elements

/-- `canonicalize` on the items of a list. -/
def canonicalizeItems : List Data → List Json
  | [] => []
  | v :: rest => v.canonicalize :: canonicalizeItems rest

/-- `canonicalize` on the values of a dictionary. -/
def canonicalizeEntries : List (String × Data) → List (String × Json)
  | [] => []
  | (key, v) :: rest => (key, v.canonicalize) :: canonicalizeEntries rest

end

/-- `canonical_json`. -/
def canonicalJson (v : Data) : String := String.ofList v.canonicalize.dumps

mutual

/-- Every set as the sorted list of its elements. -/
def sortSets : Data → Json
  | .null => .null
  | .bool b => .bool b
  | .int i => .int i
  | .float r => .float r
  | .str s => .str s
  | .list items => .list (sortItems items)
  | .dict entries => .dict (sortEntries entries)
  | .set elements => sortedSet elements

def sortItems : List Data → List Json
  | [] => []
  | v :: rest => v.sortSets :: sortItems rest

def sortEntries : List (String × Data) → List (String × Json)
  | [] => []
  | (key, v) :: rest => (key, v.sortSets) :: sortEntries rest

end

/-- The keys of every dictionary are distinct. -/
inductive Distinct : Data → Prop
  | null : Distinct .null
  | bool (b : Bool) : Distinct (.bool b)
  | int (i : Int) : Distinct (.int i)
  | float (r : String) : Distinct (.float r)
  | str (s : String) : Distinct (.str s)
  | list (items : List Data) (distinct : ∀ v ∈ items, Distinct v) : Distinct (.list items)
  | dict (entries : List (String × Data)) (nodup : (entries.map (·.1)).Nodup)
      (distinct : ∀ e ∈ entries, Distinct e.2) : Distinct (.dict entries)
  | set (elements : List String) : Distinct (.set elements)

/-- The values are equal: neither the order of keys nor the order in which a set is iterated
counts. -/
inductive Same : Data → Data → Prop
  | null : Same .null .null
  | bool (b : Bool) : Same (.bool b) (.bool b)
  | int (i : Int) : Same (.int i) (.int i)
  | float (r : String) : Same (.float r) (.float r)
  | str (s : String) : Same (.str s) (.str s)
  | list (items items' : List Data) (length : items.length = items'.length)
      (same : ∀ p ∈ items.zip items', Same p.1 p.2) : Same (.list items) (.list items')
  | dict (entries entries' : List (String × Data))
      (keys : ∀ key, key ∈ entries.map (·.1) ↔ key ∈ entries'.map (·.1))
      (same : ∀ e ∈ entries, ∀ e' ∈ entries', e.1 = e'.1 → Same e.2 e'.2) :
      Same (.dict entries) (.dict entries')
  | set (elements elements' : List String) (perm : elements.Perm elements') :
      Same (.set elements) (.set elements')

/-- Induction over a value, its items and the values of its entries. -/
theorem rec_mem {P : Data → Prop} (null : P .null) (bool : ∀ b, P (.bool b)) (int : ∀ i, P (.int i))
    (float : ∀ r, P (.float r)) (str : ∀ s, P (.str s))
    (list : ∀ items, (∀ v ∈ items, P v) → P (.list items))
    (dict : ∀ entries, (∀ e ∈ entries, P e.2) → P (.dict entries))
    (set : ∀ elements, P (.set elements)) : ∀ v, P v
  | .null => null
  | .bool b => bool b
  | .int i => int i
  | .float r => float r
  | .str s => str s
  | .list items => list items fun v _ => rec_mem null bool int float str list dict set v
  | .dict entries => dict entries fun e he =>
    have : sizeOf e.2 < sizeOf entries := by
      have hlt := List.sizeOf_lt_of_mem he
      have hpair : sizeOf e = 1 + sizeOf e.1 + sizeOf e.2 := rfl
      omega
    rec_mem null bool int float str list dict set e.2
  | .set elements => set elements

/-- The items of a list are canonicalized one by one. -/
theorem canonicalizeItems_eq_map (items : List Data) :
    canonicalizeItems items = items.map canonicalize := by
  induction items with
  | nil => rfl
  | cons v items ih => rw [canonicalizeItems, ih, List.map_cons]

/-- The values of a dictionary are canonicalized one by one. -/
theorem canonicalizeEntries_eq_map (entries : List (String × Data)) :
    canonicalizeEntries entries = entries.map fun e => (e.1, e.2.canonicalize) := by
  induction entries with
  | nil => rfl
  | cons e entries ih => rw [canonicalizeEntries, ih, List.map_cons]

/-- The sets in the items of a list are sorted one by one. -/
theorem sortItems_eq_map (items : List Data) : sortItems items = items.map sortSets := by
  induction items with
  | nil => rfl
  | cons v items ih => rw [sortItems, ih, List.map_cons]

/-- The sets in the values of a dictionary are sorted one by one. -/
theorem sortEntries_eq_map (entries : List (String × Data)) :
    sortEntries entries = entries.map fun e => (e.1, e.2.sortSets) := by
  induction entries with
  | nil => rfl
  | cons e entries ih => rw [sortEntries, ih, List.map_cons]

/-- A sorted set is canonical. -/
theorem canonicalize_sortedSet (elements : List String) :
    (sortedSet elements).canonicalize = sortedSet elements := by
  rw [sortedSet, Json.canonicalize, Json.canonicalizeItems_eq_map, List.map_map]
  rfl

/-- Sets are sorted first, and then keys. -/
theorem canonicalize_sortSets (v : Data) : v.sortSets.canonicalize = v.canonicalize := by
  induction v using rec_mem with
  | null | bool | int | float | str => rfl
  | list items ih =>
    rw [canonicalize, sortSets, Json.canonicalize, Json.canonicalizeItems_eq_map,
      canonicalizeItems_eq_map, sortItems_eq_map, List.map_map]
    exact congrArg Json.list (List.map_congr_left ih)
  | dict entries ih =>
    rw [canonicalize, sortSets, Json.canonicalize, Json.canonicalizeEntries_eq_map,
      canonicalizeEntries_eq_map, sortEntries_eq_map, List.map_map]
    exact congrArg (fun es : List (String × Json) =>
      Json.dict (es.insertionSort fun a b => a.1 ≤ b.1))
      (List.map_congr_left fun e he => Prod.ext rfl (ih e he))
  | set elements => exact canonicalize_sortedSet elements

/-- Sorting the sets keeps the names distinct. -/
theorem Distinct.sortSets {v : Data} (h : v.Distinct) : v.sortSets.toValue.Distinct := by
  induction h with
  | null => exact .null
  | bool b => exact .bool b
  | int i => exact .int i
  | float r => exact .float _
  | str s => exact .str _
  | list items distinct ih =>
    rw [Data.sortSets, Json.toValue, Json.toValues_eq_map, sortItems_eq_map]
    exact .list _ (List.forall_mem_map.2 (List.forall_mem_map.2 ih))
  | dict entries nodup distinct ih =>
    rw [Data.sortSets, Json.toValue, Json.toMembers_eq_map, sortEntries_eq_map, List.map_map]
    refine .dict _ ?_ (List.forall_mem_map.2 ih)
    have hcodes := nodup.map codes_injective
    rw [List.map_map] at hcodes ⊢
    exact hcodes
  | set elements =>
    rw [Data.sortSets, sortedSet, Json.toValue, Json.toValues_eq_map, List.map_map]
    exact .list _ (List.forall_mem_map.2 fun s _ => .str _)

/-- Equal values are equal with their sets sorted. -/
theorem Same.sortSets {v w : Data} (h : v.Same w) :
    v.sortSets.toValue.Same w.sortSets.toValue := by
  induction h with
  | null => exact .null
  | bool b => exact .bool b
  | int i => exact .int i
  | float r => exact .float _
  | str s => exact .str _
  | list items items' length same ih =>
    rw [Data.sortSets, Data.sortSets, Json.toValue, Json.toValue, Json.toValues_eq_map,
      Json.toValues_eq_map, sortItems_eq_map, sortItems_eq_map, List.map_map, List.map_map]
    refine .list _ _ (by simpa using length) fun p hp => ?_
    rw [List.zip_map] at hp
    obtain ⟨q, hq, rfl⟩ := List.mem_map.1 hp
    exact ih q hq
  | dict entries entries' keys same ih =>
    rw [Data.sortSets, Data.sortSets, Json.toValue, Json.toValue, Json.toMembers_eq_map,
      Json.toMembers_eq_map, sortEntries_eq_map, sortEntries_eq_map, List.map_map, List.map_map]
    refine .dict _ _ (fun name => ?_) ?_
    · have hnames (es : List (String × Data)) :
          name ∈ (es.map ((fun e => (codes e.1, e.2.toValue)) ∘
            fun e => (e.1, e.2.sortSets))).map (·.1) ↔
              ∃ key ∈ es.map (·.1), codes key = name := by
        rw [List.map_map, ← List.mem_map, List.map_map]
        rfl
      rw [hnames, hnames]
      simp only [keys]
    · refine List.forall_mem_map.2 fun e he => List.forall_mem_map.2 fun e' he' hname => ?_
      exact ih e he e' he' (codes_injective hname)
  | set elements elements' perm =>
    have hsorted : elements.insertionSort (· ≤ ·) = elements'.insertionSort (· ≤ ·) :=
      ((List.perm_insertionSort _ _).trans
        (perm.trans (List.perm_insertionSort _ _).symm)).eq_of_pairwise'
          (List.pairwise_insertionSort _ _) (List.pairwise_insertionSort _ _)
    have hdistinct := (Distinct.set elements).sortSets
    rw [Data.sortSets, Data.sortSets, sortedSet, sortedSet, ← hsorted]
    exact (Value.canonicalize_eq_iff hdistinct hdistinct).1 rfl

/-- Equal values have one canonical text. -/
theorem Same.canonicalJson_eq {v w : Data} (h : v.Same w) (hv : v.Distinct) (hw : w.Distinct) :
    v.canonicalJson = w.canonicalJson := by
  have hcanonical := h.sortSets.canonicalize_eq hv.sortSets hw.sortSets
  rw [← Json.toValue_canonicalize, ← Json.toValue_canonicalize, canonicalize_sortSets,
    canonicalize_sortSets] at hcanonical
  rw [canonicalJson, canonicalJson, ← Json.dumps_toValue, ← Json.dumps_toValue, hcanonical]

/-- Canonicalizing twice is canonicalizing once. -/
theorem canonicalize_canonicalize (v : Data) : v.canonicalize.canonicalize = v.canonicalize := by
  rw [← canonicalize_sortSets, Json.canonicalize_canonicalize]

end Data

/-- **Canonical JSON is a canonical form.** Two JSON values have one canonical text exactly when
they are equal; `canonicalize` is idempotent; and a set may be iterated in any order, wherever it
stands in a value. -/
theorem canonical_form :
    (∀ v w : Json, v.IsJson → w.IsJson → (canonicalJson v = canonicalJson w ↔ v.Same w)) ∧
    (∀ v : Json, v.canonicalize.canonicalize = v.canonicalize) ∧
    (∀ v : Data, v.canonicalize.canonicalize = v.canonicalize) ∧
    ∀ v w : Data, v.Distinct → w.Distinct → v.Same w → v.canonicalJson = w.canonicalJson :=
  ⟨fun _ _ hv hw => Json.canonicalJson_eq_iff hv hw, Json.canonicalize_canonicalize,
    Data.canonicalize_canonicalize, fun _ _ hv hw h => h.canonicalJson_eq hv hw⟩

/-- Keys in another order, a number against a truth value, and a set in another order. -/
theorem canonical_form_pair :
    canonicalJson (.dict [("b", .int 1), ("a", .bool true)]) =
        canonicalJson (.dict [("a", .bool true), ("b", .int 1)]) ∧
      canonicalJson (.int 1) ≠ canonicalJson (.bool true) ∧
      (Data.set ["b", "a"]).canonicalJson = (Data.set ["a", "b"]).canonicalJson := by
  have hint : (Json.int 1).IsPlain 1 := .int 1 (by decide)
  have hbool : (Json.bool true).IsPlain 1 := .bool true
  have hdict (k k' : String) (hne : k ≠ k') (v w : Json) (hv : v.IsPlain 1) (hw : w.IsPlain 1) :
      (Json.dict [(k, v), (k', w)]).IsPlain 1 :=
    .dict _ (by simpa using hne) (by simp [hv, hw])
  refine ⟨(canonical_form.1 _ _ ⟨1, hdict _ _ (by decide) _ _ hint hbool⟩
    ⟨1, hdict _ _ (by decide) _ _ hbool hint⟩).2 ?_, fun h => ?_, ?_⟩
  · refine .dict _ _ (fun name => by simp [Json.toMembers, or_comm]) ?_
    have hne : codes "b" ≠ codes "a" := by decide
    simp only [Json.toMembers, List.forall_mem_cons]
    exact ⟨⟨fun h => absurd h hne, fun _ => .int 1, List.forall_mem_nil _⟩,
      ⟨fun _ => .bool true, fun h => absurd h.symm hne, List.forall_mem_nil _⟩,
      List.forall_mem_nil _⟩
  · cases (canonical_form.1 _ _ ⟨1, hint⟩ ⟨1, hbool⟩).1 h
  · exact canonical_form.2.2.2 _ _ (.set _) (.set _) (.set _ _ (.swap _ _ _))

end LawFirmDigitalTwin
