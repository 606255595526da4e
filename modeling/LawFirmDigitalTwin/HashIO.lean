import Mathlib.Data.List.Sort
import Mathlib.Data.Nat.Digits.Defs
import Mathlib.Data.String.Basic
import LawFirmDigitalTwin.Lib.Sha256

/-!
# Canonical JSON and digests

`hashio.py`. Every identifier, commitment and hash chain of the program is `digest` of some value:
SHA-256 over the canonical JSON text. `Json` is what `canonicalize` turns a Python value into (a
float is kept as the text `json.dumps` writes for it); the dataclasses, enumerations and decimals
of the program are given their `Json` form where they are defined.
-/

namespace LawFirmDigitalTwin

/-- A value as `canonicalize` leaves it. -/
inductive Json
  | null
  | bool (b : Bool)
  | int (i : Int)
  | float (repr : String)
  | str (s : String)
  | list (items : List Json)
  | dict (entries : List (String × Json))

namespace Json

mutual

/-- `hashio.py` `canonicalize`: every dictionary sorted by key. -/
def canonicalize : Json → Json
  | .null => .null
  | .bool b => .bool b
  | .int i => .int i
  | .float r => .float r
  | .str s => .str s
  | .list items => .list (canonicalizeItems items)
  | .dict entries => .dict ((canonicalizeEntries entries).insertionSort fun a b => a.1 ≤ b.1)

/-- `canonicalize` on the items of a list. -/
def canonicalizeItems : List Json → List Json
  | [] => []
  | v :: rest => canonicalize v :: canonicalizeItems rest

/-- `canonicalize` on the values of a dictionary. -/
def canonicalizeEntries : List (String × Json) → List (String × Json)
  | [] => []
  | (key, v) :: rest => (key, canonicalize v) :: canonicalizeEntries rest

end

/-- The `\u` escape of a 16-bit code unit. -/
def unicodeEscape (n : Nat) : List Char :=
  '\\' :: 'u' :: [Sha256.hexDigit (n / 4096 % 16), Sha256.hexDigit (n / 256 % 16),
    Sha256.hexDigit (n / 16 % 16), Sha256.hexDigit (n % 16)]

/-- A character of a string as `json.dumps` writes it with `ensure_ascii`. -/
def escapeChar (c : Char) : List Char :=
  let n := c.toNat
  if n = 34 then ['\\', c]
  else if n = 92 then ['\\', c]
  else if n = 10 then ['\\', 'n']
  else if n = 13 then ['\\', 'r']
  else if n = 9 then ['\\', 't']
  else if n = 12 then ['\\', 'f']
  else if n = 8 then ['\\', 'b']
  else if 32 ≤ n ∧ n ≤ 126 then [c]
  else if n < 0x10000 then unicodeEscape n
  else unicodeEscape (0xd800 + (n - 0x10000) / 0x400) ++ unicodeEscape (0xdc00 + (n - 0x10000) % 0x400)

/-- A string literal. -/
def quoted (s : String) : List Char :=
  Char.ofNat 34 :: s.toList.flatMap escapeChar ++ [Char.ofNat 34]

mutual

/-- `json.dumps` with separators `,` and `:`. -/
def dumps : Json → List Char
  | .null => "null".toList
  | .bool true => "true".toList
  | .bool false => "false".toList
  | .int i => (toString i).toList
  | .float r => r.toList
  | .str s => quoted s
  | .list items => '[' :: dumpsItems items ++ [']']
  | .dict entries => Char.ofNat 123 :: dumpsEntries entries ++ [Char.ofNat 125]

/-- The items of a list, separated by commas. -/
def dumpsItems : List Json → List Char
  | [] => []
  | [v] => dumps v
  | v :: rest => dumps v ++ ',' :: dumpsItems rest

/-- The entries of a dictionary, separated by commas. -/
def dumpsEntries : List (String × Json) → List Char
  | [] => []
  | [(key, v)] => quoted key ++ ':' :: dumps v
  | (key, v) :: rest => quoted key ++ ':' :: dumps v ++ ',' :: dumpsEntries rest

end

end Json

/-! ## The integers of a value

Python writes no integer of more than 4300 digits, and reads none; `json.dumps` raises on a value
that holds one. -/

/-- The digits an integer may have where it is read from a text or written to one,
`sys.get_int_max_str_digits()`. -/
def maxStrDigits : Nat := 4300

/-- The decimal digits of an integer are few enough for `str`. -/
def writableInt (i : Int) : Bool := (Nat.toDigits 10 i.natAbs).length ≤ maxStrDigits

namespace Json

mutual

/-- Every integer of a value can be written. -/
def writable : Json → Bool
  | .int i => writableInt i
  | .list items => writableItems items
  | .dict entries => writableEntries entries
  | _ => true

/-- Every integer of the items of a list can be written. -/
def writableItems : List Json → Bool
  | [] => true
  | v :: rest => writable v && writableItems rest

/-- Every integer of the values of a dictionary can be written. -/
def writableEntries : List (String × Json) → Bool
  | [] => true
  | (_, v) :: rest => writable v && writableEntries rest

end

/-- The items of a list are checked one by one. -/
theorem writableItems_eq_all (items : List Json) : writableItems items = items.all writable := by
  induction items with
  | nil => rfl
  | cons v items ih => rw [writableItems, ih, List.all_cons]

/-- The values of a dictionary are checked one by one. -/
theorem writableEntries_eq_all (entries : List (String × Json)) :
    writableEntries entries = entries.all (writable ·.2) := by
  induction entries with
  | nil => rfl
  | cons e entries ih => rw [writableEntries, ih, List.all_cons]

@[simp] theorem writable_list {items : List Json} :
    (Json.list items).writable = true ↔ ∀ v ∈ items, v.writable = true := by
  rw [writable, writableItems_eq_all, List.all_eq_true]

@[simp] theorem writable_dict {entries : List (String × Json)} :
    (Json.dict entries).writable = true ↔ ∀ e ∈ entries, e.2.writable = true := by
  rw [writable, writableEntries_eq_all, List.all_eq_true]

@[simp] theorem writable_int {i : Int} : (Json.int i).writable = writableInt i := rfl

@[simp] theorem writable_str (s : String) : (Json.str s).writable = true := rfl

@[simp] theorem writable_bool (b : Bool) : (Json.bool b).writable = true := rfl

@[simp] theorem writable_null : Json.null.writable = true := rfl

end Json

/-- `10 ^ k` and all above it have more than `k` digits. -/
theorem lt_length_toDigits {k n : Nat} (h : 10 ^ k ≤ n) : k < (Nat.toDigits 10 n).length := by
  induction k generalizing n with
  | zero => exact Nat.length_toDigits_pos
  | succ k ih =>
    have hn : 10 ≤ n := (Nat.le_self_pow (Nat.succ_ne_zero k) 10).trans h
    rw [Nat.toDigits_eq_if (by decide), if_neg (Nat.not_lt.2 hn), List.length_append,
      List.length_singleton]
    refine Nat.succ_lt_succ (ih ?_)
    rwa [Nat.le_div_iff_mul_le (by decide), ← Nat.pow_succ]

/-- The integers that can be written are those below a power of ten. -/
theorem writableInt_iff {i : Int} : writableInt i = true ↔ i.natAbs < 10 ^ maxStrDigits := by
  constructor
  · intro h
    by_contra hle
    exact absurd (lt_length_toDigits (Nat.le_of_not_lt hle)) (Nat.not_lt.2 (of_decide_eq_true h))
  · intro h
    exact decide_eq_true (Nat.toDigits_length 10 i.natAbs maxStrDigits (by decide) h)

/-- `hashio.py` `canonical_json`. -/
def canonicalJson (v : Json) : String :=
  String.ofList v.canonicalize.dumps

/-- The bytes of `text.encode("utf-8")`. -/
def utf8 (text : String) : List Nat :=
  text.toUTF8.toList.map UInt8.toNat

/-- `hashio.py` `digest`. -/
@[irreducible] def digest (v : Json) : String :=
  String.ofList (Sha256.hexdigest (utf8 (canonicalJson v)))

/-! Bytes are read from an array one by one; a text that is given by its characters has the
encodings of these. -/

/-- The loop of `ByteArray.toList` lists the bytes from an index on. -/
theorem toList_loop (bs : ByteArray) (i : Nat) (r : List UInt8) :
    ByteArray.toList.loop bs i r = r.reverse ++ bs.data.toList.drop i := by
  fun_induction ByteArray.toList.loop bs i r with
  | case1 i r h ih =>
    have hi : i < bs.data.toList.length := by simpa using h
    have hget : bs.get! i = bs.data.toList[i] := by
      rw [Array.getElem_toList]
      exact getElem!_pos bs.data i h
    rw [ih, List.drop_eq_getElem_cons hi, List.reverse_cons, hget]
    simp
  | case2 i r h =>
    have hi : bs.data.toList.length ≤ i := by simpa using h
    rw [List.drop_of_length_le hi, List.append_nil]

/-- The bytes of a text are those of its characters. -/
theorem utf8_ofList (cs : List Char) :
    utf8 (String.ofList cs) = (cs.flatMap String.utf8EncodeChar).map UInt8.toNat := by
  have h : (String.ofList cs).toUTF8 = (cs.flatMap String.utf8EncodeChar).toByteArray := rfl
  rw [utf8, h, ByteArray.toList, toList_loop, List.toList_data_toByteArray]
  rfl

/-- The first `n` characters of a string, `s[:n]`. -/
def firstChars (n : Nat) (s : String) : String :=
  String.ofList (s.toList.take n)

/-- A digest is 64 characters long. -/
@[simp] theorem digest_length (v : Json) : (digest v).length = 64 := by
  unfold digest
  rw [String.length_ofList, Sha256.length_hexdigest]

/-- A digest is written in hexadecimal digits. -/
theorem hex_of_mem_digest {v : Json} {c : Char} (h : c ∈ (digest v).toList) :
    ∃ n < 16, c = Sha256.hexDigit n := by
  unfold digest at h
  rw [String.toList_ofList] at h
  exact Sha256.mem_hexdigest h

/-- The commitment of a tuple of strings, in order. -/
def Json.strs (items : List String) : Json := .list (items.map .str)

@[simp] theorem Json.writable_strs (items : List String) : (Json.strs items).writable = true := by
  simp [Json.strs]

end LawFirmDigitalTwin
