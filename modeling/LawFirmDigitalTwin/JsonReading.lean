import Mathlib.Data.Finset.Dedup
import LawFirmDigitalTwin.HashIO
import LawFirmDigitalTwin.JsonWords
import LawFirmDigitalTwin.Lib.JsonCanonical

/-!
# Reading canonical JSON

The values of the program as values of the JSON library (`Json.toValue`): their texts are the same,
and the library reads a canonical text back as the canonical value (`loads_canonicalJson`).
-/

namespace LawFirmDigitalTwin

open JsonText

/-- A text is read back from its bytes. -/
theorem fromUTF8_toUTF8 (s : String) : String.fromUTF8? s.toUTF8 = some s := by
  have hvalid : s.toUTF8.IsValidUTF8 := s.isValidUTF8
  unfold String.fromUTF8?
  rw [dif_pos hvalid]
  rfl

/-- The code points of a text. -/
def codes (s : String) : List Nat := s.toList.map Char.toNat

/-- A text is determined by its code points. -/
theorem codes_injective : Function.Injective codes := by
  intro s t h
  exact String.toList_inj.1 (List.map_injective_iff.2 (fun a b => Char.toNat_inj.1) h)

/-- Texts are ordered as their code points are. -/
theorem codes_strictMono : StrictMono codes := by
  intro s t h
  exact List.map_lt (fun _ _ hlt => hlt) (String.lt_iff_toList_lt.1 h)

/-- A text has no lone surrogate. -/
theorem scalar_of_mem_codes {s : String} {n : Nat} (h : n ∈ codes s) : Scalar n := by
  obtain ⟨c, -, rfl⟩ := List.mem_map.1 h
  rcases c.valid with hlow | ⟨hlow, hhigh⟩
  · exact .inl hlow
  · exact .inr ⟨Nat.succ_le_of_lt hlow, hhigh⟩

/-- A text is plain. -/
theorem plain_codes {H : Host} (s : String) : Plain H (.str (codes s)) :=
  .str _ fun _ hn => scalar_of_mem_codes hn

/-- An object whose names are distinct texts is plain. -/
theorem plain_dict {H : Host} (entries : List (String × Value)) (keys : List String)
    (hkeys : entries.map (·.1) = keys) (hnd : keys.Nodup) (hplain : ∀ e ∈ entries, Plain H e.2) :
    Plain H (.dict (entries.map fun e => (codes e.1, e.2))) := by
  refine .dict _ ?_ (List.forall_mem_map.2 fun e _ n hn => scalar_of_mem_codes hn)
    (List.forall_mem_map.2 hplain)
  have hcodes := (hkeys ▸ hnd).map codes_injective
  rw [List.map_map] at hcodes ⊢
  exact hcodes

namespace Json

mutual

/-- A value of the program as a value of the library. -/
def toValue : Json → Value
  | .null => .null
  | .bool b => .bool b
  | .int i => .int i
  | .float r => .float r.toList
  | .str s => .str (codes s)
  | .list items => .list (toValues items)
  | .dict entries => .dict (toMembers entries)

def toValues : List Json → List Value
  | [] => []
  | v :: rest => v.toValue :: toValues rest

def toMembers : List (String × Json) → List (List Nat × Value)
  | [] => []
  | (key, v) :: rest => (codes key, v.toValue) :: toMembers rest

end

/-- The items of a list are translated one by one. -/
theorem toValues_eq_map (items : List Json) : toValues items = items.map toValue := by
  induction items with
  | nil => rfl
  | cons v items ih => rw [toValues, ih, List.map_cons]

/-- The entries of a dictionary are translated one by one. -/
theorem toMembers_eq_map (entries : List (String × Json)) :
    toMembers entries = entries.map fun e => (codes e.1, e.2.toValue) := by
  induction entries with
  | nil => rfl
  | cons e entries ih => rw [toMembers, ih, List.map_cons]

/-- The canonical forms are the same. -/
theorem toValue_canonicalize (v : Json) : v.canonicalize.toValue = v.toValue.canonicalize := by
  induction v using rec_mem with
  | null | bool | int | float | str => rfl
  | list items ih =>
    rw [canonicalize, toValue, toValue, Value.canonicalize, toValues_eq_map, toValues_eq_map,
      JsonText.canonicalizeItems_eq_map, canonicalizeItems_eq_map, List.map_map, List.map_map]
    exact congrArg Value.list (List.map_congr_left ih)
  | dict entries ih =>
    rw [canonicalize, toValue, toValue, Value.canonicalize, toMembers_eq_map, toMembers_eq_map,
      canonicalizeMembers_eq_map, canonicalizeEntries_eq_map, sortKeys,
      List.map_insertionSort (fun a b : String × Json => a.1 ≤ b.1)
        (fun a b : List Nat × Value => a.1 ≤ b.1) _ _ fun a _ b _ => codes_strictMono.le_iff_le.symm,
      List.map_map, List.map_map]
    exact congrArg (fun es => Value.dict (sortKeys es))
      (List.map_congr_left fun e he => Prod.ext rfl (ih e he))

/-! ## The texts -/

/-- A character is escaped by its code point. -/
theorem escape_toNat (c : Char) : JsonText.escape c.toNat = escapeChar c := by
  have hhex : ∀ n < 16, n.digitChar = Sha256.hexDigit n := by decide
  have hunicode (n : Nat) : JsonText.unicodeEscape n = Json.unicodeEscape n := by
    unfold JsonText.unicodeEscape Json.unicodeEscape
    rw [hhex _ (Nat.mod_lt _ (by decide)), hhex _ (Nat.mod_lt _ (by decide)),
      hhex _ (Nat.mod_lt _ (by decide)), hhex _ (Nat.mod_lt _ (by decide))]
  have hself {n : Nat} (h : c.toNat = n) : c = Char.ofNat n := by
    rw [← h, Char.ofNat_toNat]
  unfold JsonText.escape Json.escapeChar
  simp only [hunicode, Char.ofNat_toNat]
  split
  · next h => rw [← hself h]
  split
  · next h => rw [hself h]
  rfl

/-- A text is quoted by its code points. -/
theorem quoted_codes (s : String) : JsonText.quoted (codes s) = Json.quoted s := by
  unfold JsonText.quoted Json.quoted codes
  rw [List.flatMap_map]
  simp only [escape_toNat]

/-- An integer is written in decimal. -/
theorem writeInt_eq (i : Int) : writeInt i = (toString i).toList := by
  unfold writeInt
  cases i with
  | ofNat n =>
    have hneg : ¬ (Int.ofNat n) < 0 := not_lt.2 (Int.natCast_nonneg n)
    rw [if_neg hneg, List.nil_append]
    exact (Nat.toList_repr (n := n)).symm
  | negSucc n =>
    have hneg : Int.negSucc n < 0 := Int.negSucc_lt_zero n
    have htext : toString (Int.negSucc n) = "-" ++ (n + 1).repr := rfl
    rw [if_pos hneg, htext, String.toList_append, Nat.toList_repr]
    rfl

mutual

/-- **The texts are the same.** -/
theorem dumps_toValue (v : Json) : v.toValue.dumps = v.dumps := by
  cases v with
  | null => rfl
  | bool b => cases b <;> rfl
  | int i => exact writeInt_eq i
  | float r => rfl
  | str s => exact quoted_codes s
  | list items =>
    rw [toValue, Value.dumps, Json.dumps, dumpsItems_toValues items]
  | dict entries =>
    rw [toValue, Value.dumps, Json.dumps, dumpsEntries_toMembers entries]

/-- The items of a list are written alike. -/
theorem dumpsItems_toValues (items : List Json) :
    JsonText.dumpsItems (toValues items) = Json.dumpsItems items := by
  match items with
  | [] => rfl
  | [v] => exact dumps_toValue v
  | v :: w :: rest =>
    have hrest := dumpsItems_toValues (w :: rest)
    rw [toValues] at hrest
    rw [toValues, toValues, JsonText.dumpsItems, Json.dumpsItems, dumps_toValue v, hrest]
    · exact fun h => absurd h (List.cons_ne_nil _ _)
    · exact fun h => absurd h (List.cons_ne_nil _ _)

/-- The entries of a dictionary are written alike. -/
theorem dumpsEntries_toMembers (entries : List (String × Json)) :
    JsonText.dumpsEntries (toMembers entries) = Json.dumpsEntries entries := by
  match entries with
  | [] => rfl
  | [(key, v)] =>
    rw [toMembers, toMembers, JsonText.dumpsEntries, Json.dumpsEntries, quoted_codes,
      dumps_toValue v]
  | (key, v) :: (key', v') :: rest =>
    have hrest := dumpsEntries_toMembers ((key', v') :: rest)
    rw [toMembers] at hrest
    rw [toMembers, toMembers, JsonText.dumpsEntries, Json.dumpsEntries, quoted_codes,
      dumps_toValue v, hrest]
    · exact fun h => absurd h (List.cons_ne_nil _ _)
    · exact fun h => absurd h (List.cons_ne_nil _ _)

end

/-! ## Plain values -/

/-- A JSON value without floats: the keys of every dictionary are distinct, and its integers have at
most `digits` digits. -/
inductive IsPlain (digits : Nat) : Json → Prop
  | null : IsPlain digits .null
  | bool (b : Bool) : IsPlain digits (.bool b)
  | int (i : Int) (bound : (Nat.toDigits 10 i.natAbs).length ≤ digits) : IsPlain digits (.int i)
  | str (s : String) : IsPlain digits (.str s)
  | list (items : List Json) (plain : ∀ v ∈ items, IsPlain digits v) : IsPlain digits (.list items)
  | dict (entries : List (String × Json)) (nodup : (entries.map (·.1)).Nodup)
      (plain : ∀ e ∈ entries, IsPlain digits e.2) : IsPlain digits (.dict entries)

/-- A plain value is plain for the library. -/
theorem IsPlain.toValue {H : Host} {v : Json} (h : IsPlain H.maxDigits v) : Plain H v.toValue := by
  induction h with
  | null => exact .null
  | bool b => exact .bool b
  | int i bound => exact .int i bound
  | str s => exact plain_codes s
  | list items plain ih =>
    rw [Json.toValue, toValues_eq_map]
    exact .list _ (List.forall_mem_map.2 ih)
  | dict entries nodup plain ih =>
    have hkeys : (entries.map fun e => (e.1, e.2.toValue)).map (·.1) = entries.map (·.1) :=
      List.map_map
    have hvalues := plain_dict _ _ hkeys nodup (List.forall_mem_map.2 ih)
    rw [List.map_map] at hvalues
    rw [Json.toValue, toMembers_eq_map]
    exact hvalues

end Json

/-- **A canonical text is read back as the canonical value.** -/
theorem loads_canonicalJson {H : Host} {v : Json} (h : v.IsPlain H.maxDigits) :
    loads H (canonicalJson v).toList = .ok v.canonicalize.toValue := by
  rw [canonicalJson, String.toList_ofList, ← Json.dumps_toValue, Json.toValue_canonicalize]
  exact loads_dumps h.toValue.canonicalize

/-- With distinct keys, a list is searched for what it holds. -/
theorem lookup_of_mem {α β : Type} [BEq α] [LawfulBEq α] {es : List (α × β)}
    (hnd : (es.map (·.1)).Nodup)
    {key : α} {v : β} (h : (key, v) ∈ es) : es.lookup key = some v := by
  induction es with
  | nil => exact absurd h List.not_mem_nil
  | cons e es ih =>
    rw [List.map_cons, List.nodup_cons] at hnd
    rcases List.mem_cons.1 h with rfl | h
    · exact List.lookup_cons_self
    · have hne : key ≠ e.1 := by
        rintro rfl
        exact hnd.1 (List.mem_map.2 ⟨_, h, rfl⟩)
      rw [List.lookup_cons, beq_eq_false_iff_ne.2 hne]
      exact ih hnd.2 h

/-- The members of a canonical dictionary. -/
def canonicalMembers (entries : List (String × Json)) : List (List Nat × Value) :=
  Json.toMembers ((Json.canonicalizeEntries entries).insertionSort fun a b => a.1 ≤ b.1)

section
variable {entries : List (String × Json)}

/-- The canonical members are the entries, canonicalized and sorted. -/
theorem perm_canonicalMembers (entries : List (String × Json)) :
    (canonicalMembers entries).Perm
      (entries.map fun e => (codes e.1, e.2.canonicalize.toValue)) := by
  unfold canonicalMembers
  rw [Json.toMembers_eq_map, Json.canonicalizeEntries_eq_map]
  have hperm := (List.perm_insertionSort (fun a b : String × Json => a.1 ≤ b.1)
    (entries.map fun e => (e.1, e.2.canonicalize))).map fun e => (codes e.1, e.2.toValue)
  rwa [List.map_map] at hperm

/-- What is found under a key of a canonical dictionary was written under it. -/
theorem lookup_canonicalMembers (hnd : (entries.map (·.1)).Nodup) {key : String} {v : Json}
    (h : (key, v) ∈ entries) :
    (canonicalMembers entries).lookup (codes key) = some v.canonicalize.toValue := by
  have hperm := perm_canonicalMembers entries
  refine lookup_of_mem ?_ (hperm.mem_iff.2 (List.mem_map.2 ⟨(key, v), h, rfl⟩))
  rw [(hperm.map _).nodup_iff, List.map_map]
  have hcodes := hnd.map codes_injective
  rwa [List.map_map] at hcodes

/-- The keys of a canonical dictionary. -/
theorem toFinset_canonicalMembers (entries : List (String × Json)) :
    ((canonicalMembers entries).map (·.1)).toFinset =
      ((entries.map (·.1)).map codes).toFinset := by
  rw [List.toFinset_eq_of_perm _ _ ((perm_canonicalMembers entries).map _), List.map_map,
    List.map_map]
  rfl

end

end LawFirmDigitalTwin
