import Mathlib.Data.List.Lex
import Mathlib.Data.List.Sort
import LawFirmDigitalTwin.Lib.JsonText

/-!
# Canonical JSON values

A value is canonical when the names of its objects are sorted (`Value.canonicalize`). Two values are
the same when they differ only in the order of their names (`Value.Same`); they are exactly then
canonicalized alike (`canonicalize_eq_iff`), and, being plain, written alike (`canonical_text_iff`).
-/

namespace JsonText

/-! ## Sorting by distinct keys -/

section
variable {α β γ : Type} [LinearOrder α]

/-- Entries sorted by key. -/
def sortKeys (es : List (α × β)) : List (α × β) := es.insertionSort fun a b => a.1 ≤ b.1

/-- Sorting keeps the entries. -/
theorem perm_sortKeys (es : List (α × β)) : (sortKeys es).Perm es := List.perm_insertionSort _ es

instance total_fst_le : Std.Total fun a b : α × β => a.1 ≤ b.1 := ⟨fun a b => le_total a.1 b.1⟩

instance isTrans_fst_le : IsTrans (α × β) fun a b => a.1 ≤ b.1 := ⟨fun _ _ _ => le_trans⟩

/-- Sorting puts the keys in order. -/
theorem pairwise_sortKeys (es : List (α × β)) : (sortKeys es).Pairwise fun a b => a.1 ≤ b.1 :=
  List.pairwise_insertionSort _ es

/-- Sorted entries stay as they are. -/
theorem sortKeys_sortKeys (es : List (α × β)) : sortKeys (sortKeys es) = sortKeys es :=
  (pairwise_sortKeys es).insertionSort_eq

/-- The keys are sorted whatever the values are. -/
theorem sortKeys_map (f : β → γ) (es : List (α × β)) :
    sortKeys (es.map fun e => (e.1, f e.2)) = (sortKeys es).map fun e => (e.1, f e.2) :=
  (List.map_insertionSort (fun a b : α × β => a.1 ≤ b.1) (fun a b : α × γ => a.1 ≤ b.1)
    (fun e => (e.1, f e.2)) es fun _ _ _ _ => Iff.rfl).symm

/-- Under distinct keys, the order of the entries does not matter. -/
theorem sortKeys_eq_of_perm {es es' : List (α × β)} (h : es.Perm es')
    (hnd : (es.map (·.1)).Nodup) : sortKeys es = sortKeys es' := by
  have hperm : (sortKeys es).Perm (sortKeys es') :=
    (perm_sortKeys es).trans (h.trans (perm_sortKeys es').symm)
  refine hperm.eq_of_pairwise (fun a b ha hb hab hba => ?_) (pairwise_sortKeys es)
    (pairwise_sortKeys es')
  have ha := (perm_sortKeys es).mem_iff.1 ha
  have hb := h.mem_iff.2 ((perm_sortKeys es').mem_iff.1 hb)
  exact List.inj_on_of_nodup_map hnd ha hb (le_antisymm hab hba)

end

/-! ## The canonical form -/

mutual

/-- Every object sorted by name. -/
def Value.canonicalize : Value → Value
  | .null => .null
  | .bool b => .bool b
  | .int i => .int i
  | .float r => .float r
  | .str s => .str s
  | .list items => .list (canonicalizeItems items)
  | .dict entries => .dict (sortKeys (canonicalizeMembers entries))

def canonicalizeItems : List Value → List Value
  | [] => []
  | v :: rest => v.canonicalize :: canonicalizeItems rest

def canonicalizeMembers : List (List Nat × Value) → List (List Nat × Value)
  | [] => []
  | (key, v) :: rest => (key, v.canonicalize) :: canonicalizeMembers rest

end

/-- The items of a list are canonicalized one by one. -/
theorem canonicalizeItems_eq_map (items : List Value) :
    canonicalizeItems items = items.map Value.canonicalize := by
  induction items with
  | nil => rfl
  | cons v items ih => rw [canonicalizeItems, ih, List.map_cons]

/-- The values of the members are canonicalized one by one. -/
theorem canonicalizeMembers_eq_map (entries : List (List Nat × Value)) :
    canonicalizeMembers entries = entries.map fun e => (e.1, e.2.canonicalize) := by
  induction entries with
  | nil => rfl
  | cons e entries ih => rw [canonicalizeMembers, ih, List.map_cons]

/-- The members of a canonical object, in some order. -/
theorem perm_canonicalMembers (entries : List (List Nat × Value)) :
    (sortKeys (canonicalizeMembers entries)).Perm
      (entries.map fun e => (e.1, e.2.canonicalize)) :=
  canonicalizeMembers_eq_map entries ▸ perm_sortKeys _

namespace Value

/-- The names of every object are distinct. -/
inductive Distinct : Value → Prop
  | null : Distinct .null
  | bool (b : Bool) : Distinct (.bool b)
  | int (i : Int) : Distinct (.int i)
  | float (r : List Char) : Distinct (.float r)
  | str (s : List Nat) : Distinct (.str s)
  | list (items : List Value) (distinct : ∀ v ∈ items, Distinct v) : Distinct (.list items)
  | dict (entries : List (List Nat × Value)) (nodup : (entries.map (·.1)).Nodup)
      (distinct : ∀ e ∈ entries, Distinct e.2) : Distinct (.dict entries)

/-- The values are equal, up to the order of the names in objects. -/
inductive Same : Value → Value → Prop
  | null : Same .null .null
  | bool (b : Bool) : Same (.bool b) (.bool b)
  | int (i : Int) : Same (.int i) (.int i)
  | float (r : List Char) : Same (.float r) (.float r)
  | str (s : List Nat) : Same (.str s) (.str s)
  | list (items items' : List Value) (length : items.length = items'.length)
      (same : ∀ p ∈ items.zip items', Same p.1 p.2) : Same (.list items) (.list items')
  | dict (entries entries' : List (List Nat × Value))
      (names : ∀ name, name ∈ entries.map (·.1) ↔ name ∈ entries'.map (·.1))
      (same : ∀ e ∈ entries, ∀ e' ∈ entries', e.1 = e'.1 → Same e.2 e'.2) :
      Same (.dict entries) (.dict entries')

/-- Induction over a value, its items and the values of its members. -/
theorem rec_mem {P : Value → Prop} (null : P .null) (bool : ∀ b, P (.bool b)) (int : ∀ i, P (.int i))
    (float : ∀ r, P (.float r)) (str : ∀ s, P (.str s))
    (list : ∀ items, (∀ v ∈ items, P v) → P (.list items))
    (dict : ∀ entries, (∀ e ∈ entries, P e.2) → P (.dict entries)) : ∀ v, P v
  | .null => null
  | .bool b => bool b
  | .int i => int i
  | .float r => float r
  | .str s => str s
  | .list items => list items fun v _ => rec_mem null bool int float str list dict v
  | .dict entries => dict entries fun e he =>
    have : sizeOf e.2 < sizeOf entries := by
      have hlt := List.sizeOf_lt_of_mem he
      have hpair : sizeOf e = 1 + sizeOf e.1 + sizeOf e.2 := rfl
      omega
    rec_mem null bool int float str list dict e.2

/-- Canonicalizing twice is canonicalizing once. -/
theorem canonicalize_canonicalize (v : Value) : v.canonicalize.canonicalize = v.canonicalize := by
  induction v using rec_mem with
  | null | bool | int | float | str => rfl
  | list items ih =>
    rw [canonicalize, canonicalize, canonicalizeItems_eq_map, canonicalizeItems_eq_map,
      List.map_map]
    exact congrArg Value.list (List.map_congr_left ih)
  | dict entries ih =>
    rw [canonicalize, canonicalize, canonicalizeMembers_eq_map, canonicalizeMembers_eq_map,
      ← sortKeys_map, sortKeys_sortKeys, List.map_map]
    exact congrArg (fun es => Value.dict (sortKeys es))
      (List.map_congr_left fun e he => Prod.ext rfl (ih e he))

/-- Canonicalizing keeps names distinct. -/
theorem Distinct.canonicalize {v : Value} (h : Distinct v) : Distinct v.canonicalize := by
  induction h with
  | null => exact .null
  | bool b => exact .bool b
  | int i => exact .int i
  | float r => exact .float r
  | str s => exact .str s
  | list items distinct ih =>
    rw [Value.canonicalize, canonicalizeItems_eq_map]
    exact .list _ (List.forall_mem_map.2 ih)
  | dict entries nodup distinct ih =>
    rw [Value.canonicalize]
    have hperm := perm_canonicalMembers entries
    refine .dict _ ?_ fun e he => ?_
    · rw [(hperm.map _).nodup_iff, List.map_map]
      exact nodup
    · obtain ⟨e', he', rfl⟩ := List.mem_map.1 (hperm.mem_iff.1 he)
      exact ih e' he'

/-- The same values are canonicalized alike. -/
theorem Same.canonicalize_eq {v w : Value} (h : Same v w) (hv : Distinct v) (hw : Distinct w) :
    v.canonicalize = w.canonicalize := by
  induction h with
  | null | bool | int | float | str => rfl
  | list items items' length same ih =>
    cases hv with
    | list _ hv =>
    cases hw with
    | list _ hw =>
    rw [canonicalize, canonicalize, canonicalizeItems_eq_map, canonicalizeItems_eq_map]
    refine congrArg Value.list (List.ext_getElem (by simpa using length) fun i hi hi' => ?_)
    rw [List.length_map] at hi hi'
    rw [List.getElem_map, List.getElem_map]
    have hmem : (items[i], items'[i]) ∈ items.zip items' := by
      rw [← List.getElem_zip (h := by rw [List.length_zip]; omega)]
      exact List.getElem_mem _
    exact ih _ hmem (hv _ (List.getElem_mem hi)) (hw _ (List.getElem_mem hi'))
  | dict entries entries' names same ih =>
    cases hv with
    | dict _ hnd hv =>
    cases hw with
    | dict _ hnd' hw =>
    rw [canonicalize, canonicalize, canonicalizeMembers_eq_map, canonicalizeMembers_eq_map]
    refine congrArg Value.dict (sortKeys_eq_of_perm ?_ (by rw [List.map_map]; exact hnd))
    -- Both hold, for each name, the one canonical value under it.
    have hnodup {es : List (List Nat × Value)} (h : (es.map (·.1)).Nodup) :
        (es.map fun e => (e.1, e.2.canonicalize)).Nodup :=
      List.Nodup.of_map (·.1) (by rw [List.map_map]; exact h)
    refine (List.perm_ext_iff_of_nodup (hnodup hnd) (hnodup hnd')).2 fun p => ?_
    rw [List.mem_map, List.mem_map]
    constructor
    · rintro ⟨e, he, rfl⟩
      obtain ⟨e', he', hname⟩ := List.mem_map.1 ((names e.1).1 (List.mem_map_of_mem he))
      exact ⟨e', he', Prod.ext hname (ih e he e' he' hname.symm (hv e he) (hw e' he')).symm⟩
    · rintro ⟨e', he', rfl⟩
      obtain ⟨e, he, hname⟩ := List.mem_map.1 ((names e'.1).2 (List.mem_map_of_mem he'))
      exact ⟨e, he, Prod.ext hname (ih e he e' he' hname (hv e he) (hw e' he'))⟩

/-- Values that are canonicalized alike are the same. -/
theorem same_of_canonicalize_eq {v w : Value} (hv : Distinct v) (hw : Distinct w)
    (h : v.canonicalize = w.canonicalize) : Same v w := by
  induction hv generalizing w with
  | null | bool | int | float | str =>
    cases w <;> simp only [canonicalize, reduceCtorEq, bool.injEq, int.injEq, float.injEq,
      str.injEq] at h
    try subst h
    constructor
  | list items distinct ih =>
    cases hw with
    | list items' hw =>
      rw [canonicalize, canonicalize, canonicalizeItems_eq_map, canonicalizeItems_eq_map] at h
      have hmap := list.inj h
      refine .list _ _ (by simpa using congrArg List.length hmap) fun p hp => ?_
      obtain ⟨i, hi, rfl⟩ := List.mem_iff_getElem.1 hp
      rw [List.length_zip] at hi
      rw [List.getElem_zip]
      have hget := List.getElem_of_eq hmap (i := i) (by rw [List.length_map]; omega)
      rw [List.getElem_map, List.getElem_map] at hget
      exact ih _ (List.getElem_mem _) (hw _ (List.getElem_mem _)) hget
    | _ => simp [canonicalize] at h
  | dict entries nodup distinct ih =>
    cases hw with
    | dict entries' nodup' hw =>
      rw [canonicalize, canonicalize] at h
      have hperm : (entries.map fun e => (e.1, e.2.canonicalize)).Perm
          (entries'.map fun e => (e.1, e.2.canonicalize)) :=
        (perm_canonicalMembers entries).symm.trans (dict.inj h ▸ perm_canonicalMembers entries')
      have hnames := hperm.map (·.1)
      rw [List.map_map, List.map_map] at hnames
      refine .dict _ _ (fun name => hnames.mem_iff) fun e he e' he' hname => ?_
      refine ih e he (hw e' he') ?_
      obtain ⟨e₂, he₂, heq⟩ := List.mem_map.1 (hperm.mem_iff.1 (List.mem_map_of_mem he))
      have hsame : e₂ = e' := List.inj_on_of_nodup_map nodup' he₂ he'
        ((congrArg Prod.fst heq).trans hname)
      rw [← hsame]
      exact (congrArg Prod.snd heq).symm
    | _ => simp [canonicalize] at h

/-- **Values are the same exactly when they are canonicalized alike.** -/
theorem canonicalize_eq_iff {v w : Value} (hv : Distinct v) (hw : Distinct w) :
    v.canonicalize = w.canonicalize ↔ Same v w :=
  ⟨same_of_canonicalize_eq hv hw, fun h => h.canonicalize_eq hv hw⟩

/-- A value is the same as its canonical form. -/
theorem Distinct.same_canonicalize {v : Value} (h : Distinct v) : Same v.canonicalize v :=
  (canonicalize_eq_iff h.canonicalize h).1 v.canonicalize_canonicalize

end Value

/-! ## Canonical texts -/

/-- The names of a plain value are distinct. -/
theorem Plain.distinct {H : Host} {v : Value} (h : Plain H v) : v.Distinct := by
  induction h with
  | null => exact .null
  | bool b => exact .bool b
  | int i => exact .int i
  | str s => exact .str s
  | list items _ ih => exact .list _ ih
  | dict entries nodup _ _ ih => exact .dict _ nodup ih

/-- Canonicalizing keeps a value plain. -/
theorem Plain.canonicalize {H : Host} {v : Value} (h : Plain H v) : Plain H v.canonicalize := by
  induction h with
  | null => exact .null
  | bool b => exact .bool b
  | int i digits => exact .int i digits
  | str s scalar => exact .str s scalar
  | list items plain ih =>
    rw [Value.canonicalize, canonicalizeItems_eq_map]
    exact .list _ (List.forall_mem_map.2 ih)
  | dict entries nodup scalar plain ih =>
    rw [Value.canonicalize]
    have hperm := perm_canonicalMembers entries
    refine .dict _ ?_ (fun e he => ?_) fun e he => ?_
    · rw [(hperm.map _).nodup_iff, List.map_map]
      exact nodup
    · obtain ⟨e', he', rfl⟩ := List.mem_map.1 (hperm.mem_iff.1 he)
      exact scalar e' he'
    · obtain ⟨e', he', rfl⟩ := List.mem_map.1 (hperm.mem_iff.1 he)
      exact ih e' he'

/-- Plain values that are written alike are equal. -/
theorem Plain.eq_of_dumps_eq {H : Host} {v w : Value} (hv : Plain H v) (hw : Plain H w)
    (h : v.dumps = w.dumps) : v = w := by
  have hread := loads_dumps hv
  rw [h, loads_dumps hw] at hread
  exact (Except.ok.inj hread).symm

/-- **Plain values have one canonical text exactly when they are the same.** -/
theorem canonical_text_iff {H : Host} {v w : Value} (hv : Plain H v) (hw : Plain H w) :
    v.canonicalize.dumps = w.canonicalize.dumps ↔ v.Same w := by
  rw [← Value.canonicalize_eq_iff hv.distinct hw.distinct]
  exact ⟨hv.canonicalize.eq_of_dumps_eq hw.canonicalize, congrArg Value.dumps⟩

end JsonText
