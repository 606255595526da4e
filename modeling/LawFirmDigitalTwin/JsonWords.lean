import LawFirmDigitalTwin.Lib.Occurs
import LawFirmDigitalTwin.HashIO

/-!
# Words in canonical JSON

A word without the marks of JSON occurs in a canonical text only within a key or a scalar: which
entry or item it occurs in is all that counts, and not their order. The text may be folded letter by
letter before it is searched, as `text.lower()` does.
-/

namespace LawFirmDigitalTwin.Json

/-- The marks of JSON between keys and scalars. -/
def marks : List Char := ['[', ']', ',', ':', Char.ofNat 123, Char.ofNat 125]

/-- A word that no mark of JSON is folded into. -/
structure IsWord (fold : Char → Char) (w : List Char) : Prop where
  ne_nil : w ≠ []
  marks : ∀ c ∈ Json.marks, fold c ∉ w

/-- The word occurs in the folded canonical text of a value. -/
def Shows (fold : Char → Char) (w : List Char) (v : Json) : Prop :=
  w <:+: v.canonicalize.dumps.map fold

/-- Induction over a value, its items and the values of its entries. -/
theorem rec_mem {P : Json → Prop} (null : P .null) (bool : ∀ b, P (.bool b)) (int : ∀ i, P (.int i))
    (float : ∀ r, P (.float r)) (str : ∀ s, P (.str s))
    (list : ∀ items, (∀ v ∈ items, P v) → P (.list items))
    (dict : ∀ entries, (∀ e ∈ entries, P e.2) → P (.dict entries)) : ∀ v, P v
  | .null => null
  | .bool b => bool b
  | .int i => int i
  | .float r => float r
  | .str s => str s
  | .list items => list items fun v _ => rec_mem null bool int float str list dict v
  | .dict entries => dict entries fun e he =>
    have : sizeOf e.2 < sizeOf entries := by
      have hlt := List.sizeOf_lt_of_mem he
      have hpair : sizeOf e = 1 + sizeOf e.1 + sizeOf e.2 := rfl
      omega
    rec_mem null bool int float str list dict e.2

/-- The items of a list are canonicalized one by one. -/
theorem canonicalizeItems_eq_map (items : List Json) :
    canonicalizeItems items = items.map canonicalize := by
  induction items with
  | nil => rfl
  | cons v items ih => rw [canonicalizeItems, ih, List.map_cons]

/-- The values of a dictionary are canonicalized one by one. -/
theorem canonicalizeEntries_eq_map (entries : List (String × Json)) :
    canonicalizeEntries entries = entries.map fun e => (e.1, e.2.canonicalize) := by
  induction entries with
  | nil => rfl
  | cons e entries ih => rw [canonicalizeEntries, ih, List.map_cons]

section
variable {fold : Char → Char} {w : List Char} (hw : IsWord fold w)
include hw

/-- A word does not stand in an empty text. -/
theorem IsWord.not_infix_nil : ¬ w <:+: [] := by
  rw [List.infix_nil]
  exact hw.ne_nil

/-- A mark cuts the text. -/
theorem IsWord.infix_mark {c : Char} (hc : c ∈ Json.marks) (as bs : List Char) :
    w <:+: (as ++ c :: bs).map fold ↔ w <:+: as.map fold ∨ w <:+: bs.map fold := by
  rw [List.map_append, List.map_cons]
  exact Occurs.infix_append_cons_iff (hw.marks c hc)

/-- A word does not reach over the marks around a text. -/
theorem IsWord.infix_enclosed {left right : Char} (hl : left ∈ Json.marks) (hr : right ∈ Json.marks)
    (text : List Char) : w <:+: (left :: text ++ [right]).map fold ↔ w <:+: text.map fold := by
  have hopen := hw.infix_mark hl [] (text ++ [right])
  have hclose := hw.infix_mark hr text []
  rw [List.nil_append] at hopen
  rw [List.cons_append, hopen, hclose]
  simp only [List.map_nil, hw.not_infix_nil, false_or, or_false]

/-- A word stands in a list where it stands in an item. -/
theorem IsWord.infix_dumpsItems (items : List Json) :
    w <:+: (dumpsItems items).map fold ↔ ∃ v ∈ items, w <:+: v.dumps.map fold := by
  induction items with
  | nil => simpa [dumpsItems] using hw.ne_nil
  | cons v items ih =>
    cases items with
    | nil => simp [dumpsItems]
    | cons u rest =>
      rw [dumpsItems, hw.infix_mark (by decide), ih]
      · simp
      · simp

/-- A word stands in a dictionary where it stands in a name or a value. -/
theorem IsWord.infix_dumpsEntries (entries : List (String × Json)) :
    w <:+: (dumpsEntries entries).map fold ↔
      ∃ e ∈ entries, w <:+: (quoted e.1).map fold ∨ w <:+: e.2.dumps.map fold := by
  induction entries with
  | nil => simpa [dumpsEntries] using hw.ne_nil
  | cons e entries ih =>
    cases entries with
    | nil =>
      rw [dumpsEntries, hw.infix_mark (by decide)]
      simp
    | cons u rest =>
      rw [dumpsEntries, hw.infix_mark (by decide), hw.infix_mark (by decide), ih]
      · simp
      · simp

/-- A list shows a word where one of its items does. -/
theorem IsWord.shows_list (items : List Json) :
    (list items).Shows fold w ↔ ∃ v ∈ items, v.Shows fold w := by
  rw [Shows, canonicalize, dumps, hw.infix_enclosed (by decide) (by decide), hw.infix_dumpsItems,
    canonicalizeItems_eq_map]
  simp [Shows]

/-- A dictionary shows a word where one of its keys or values does. -/
theorem IsWord.shows_dict (entries : List (String × Json)) :
    (dict entries).Shows fold w ↔
      ∃ e ∈ entries, w <:+: (quoted e.1).map fold ∨ e.2.Shows fold w := by
  rw [Shows, canonicalize, dumps, hw.infix_enclosed (by decide) (by decide), hw.infix_dumpsEntries,
    canonicalizeEntries_eq_map]
  simp only [(List.perm_insertionSort _ _).mem_iff]
  simp [Shows]

end

end LawFirmDigitalTwin.Json
