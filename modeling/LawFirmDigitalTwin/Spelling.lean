import Mathlib.Data.String.Basic
import LawFirmDigitalTwin.HashIO

/-!
# Digests that the kernel runs

A string is an array of bytes, from which the kernel reads a character in steps that grow with the
string. A spelling gives the texts of a canonical value by their characters (`Spells`), and
`digest_eq_of_spells` computes the digest from the spelling alone.
-/

namespace LawFirmDigitalTwin

namespace Json

/-- A value with its texts as lists of characters. -/
inductive Spelling
  | null
  | bool (b : Bool)
  | int (i : Int)
  | float (repr : List Char)
  | str (s : List Char)
  | list (items : List Spelling)
  | dict (entries : List (List Char × Spelling))

mutual

/-- A value and its spelling. -/
inductive Spells : Json → Spelling → Prop
  | null : Spells .null .null
  | bool (b : Bool) : Spells (.bool b) (.bool b)
  | int (i : Int) : Spells (.int i) (.int i)
  | float (cs : List Char) : Spells (.float (String.ofList cs)) (.float cs)
  | str (cs : List Char) : Spells (.str (String.ofList cs)) (.str cs)
  | list {vs : List Json} {ts : List Spelling} : SpellsItems vs ts → Spells (.list vs) (.list ts)
  | dict {es : List (String × Json)} {ts : List (List Char × Spelling)} :
      SpellsEntries es ts → Spells (.dict es) (.dict ts)

/-- The items of a list and their spellings. -/
inductive SpellsItems : List Json → List Spelling → Prop
  | nil : SpellsItems [] []
  | cons {v : Json} {t : Spelling} {vs : List Json} {ts : List Spelling} :
      Spells v t → SpellsItems vs ts → SpellsItems (v :: vs) (t :: ts)

/-- The entries of a dictionary and their spellings. -/
inductive SpellsEntries : List (String × Json) → List (List Char × Spelling) → Prop
  | nil : SpellsEntries [] []
  | cons (key : List Char) {v : Json} {t : Spelling} {es : List (String × Json)}
      {ts : List (List Char × Spelling)} :
      Spells v t → SpellsEntries es ts →
        SpellsEntries ((String.ofList key, v) :: es) ((key, t) :: ts)

end

/-- The order of two texts, decided on their code points. -/
def leChars : List Char → List Char → Bool
  | [], _ => true
  | _ :: _, [] => false
  | a :: as, b :: bs =>
    if a.toNat = b.toNat then leChars as bs else Nat.blt a.toNat b.toNat

/-- The comparison on characters is the order of texts. -/
theorem leChars_iff {as bs : List Char} :
    leChars as bs = true ↔ String.ofList as ≤ String.ofList bs := by
  rw [← not_lt, String.lt_iff_toList_lt, String.toList_ofList, String.toList_ofList]
  fun_induction leChars as bs with
  | case1 bs => simp
  | case2 a as => simp
  | case3 a as b bs h ih =>
    obtain rfl : a = b := Char.toNat_inj.1 h
    rw [ih, List.cons_lt_cons_iff]
    simp
  | case4 a as b bs h =>
    have hne : b ≠ a := fun he => h (he ▸ rfl)
    rw [List.cons_lt_cons_iff, Nat.blt_eq]
    simp only [hne, false_and, or_false, not_lt]
    exact (Nat.lt_iff_le_and_ne.trans (and_iff_left h))

/-- The characters of a literal, before those that follow. -/
def escapedThen (cs rest : List Char) : List Char :=
  List.rec rest (fun c _ ih => Sha256.forced c.toNat fun n =>
    bif Nat.ble 32 n && Nat.ble n 126 && !Nat.beq n 34 && !Nat.beq n 92 then c :: ih
    else escapeChar c ++ ih) cs

/-- Characters are escaped in front of the rest. -/
theorem escapedThen_eq (cs rest : List Char) :
    escapedThen cs rest = cs.flatMap escapeChar ++ rest := by
  induction cs with
  | nil => rfl
  | cons c cs ih =>
    have hstep : escapedThen (c :: cs) rest = Sha256.forced c.toNat fun n =>
        bif Nat.ble 32 n && Nat.ble n 126 && !Nat.beq n 34 && !Nat.beq n 92 then
          c :: escapedThen cs rest
        else escapeChar c ++ escapedThen cs rest := rfl
    rw [hstep, Sha256.forced_eq, ih, List.flatMap_cons, List.append_assoc]
    cases hplain : Nat.ble 32 c.toNat && Nat.ble c.toNat 126 && !Nat.beq c.toNat 34 &&
      !Nat.beq c.toNat 92 with
    | false => rfl
    | true =>
      simp only [Bool.and_eq_true, Nat.ble_eq, Bool.not_eq_true'] at hplain
      obtain ⟨⟨⟨hlow, hhigh⟩, hquote⟩, hbackslash⟩ := hplain
      have hself : escapeChar c = [c] := by
        unfold escapeChar
        simp only
        rw [if_neg (Nat.ne_of_beq_eq_false hquote), if_neg (Nat.ne_of_beq_eq_false hbackslash),
          if_neg (by omega), if_neg (by omega), if_neg (by omega), if_neg (by omega),
          if_neg (by omega), if_pos ⟨hlow, hhigh⟩]
      rw [hself]
      rfl

/-- A literal, before the characters that follow. -/
def quotedThen (cs rest : List Char) : List Char :=
  Char.ofNat 34 :: escapedThen cs (Char.ofNat 34 :: rest)

/-- A literal is written in front of the rest. -/
theorem quotedThen_eq (cs rest : List Char) :
    quotedThen cs rest = quoted (String.ofList cs) ++ rest := by
  rw [quotedThen, escapedThen_eq, quoted, String.toList_ofList]
  simp

/-- Parts separated by commas. -/
def joinThen : List (List Char → List Char) → List Char → List Char
  | [], rest => rest
  | [part], rest => part rest
  | part :: parts, rest => part (',' :: joinThen parts rest)

mutual

/-- The canonical JSON of a spelling, before the characters that follow. -/
def Spelling.textThen : Spelling → List Char → List Char
  | .null, rest => 'n' :: 'u' :: 'l' :: 'l' :: rest
  | .bool true, rest => 't' :: 'r' :: 'u' :: 'e' :: rest
  | .bool false, rest => 'f' :: 'a' :: 'l' :: 's' :: 'e' :: rest
  | .int i, rest => (toString i).toList ++ rest
  | .float r, rest => r ++ rest
  | .str s, rest => quotedThen s rest
  | .list items, rest => '[' :: joinThen (Spelling.itemsThen items) (']' :: rest)
  | .dict entries, rest =>
    Char.ofNat 123 :: joinThen (((Spelling.entriesThen entries).insertionSort fun a b =>
      leChars a.1 b.1).map (·.2)) (Char.ofNat 125 :: rest)

def Spelling.itemsThen : List Spelling → List (List Char → List Char)
  | [] => []
  | t :: ts => t.textThen :: Spelling.itemsThen ts

/-- The entries with their keys, by which they are sorted. -/
def Spelling.entriesThen : List (List Char × Spelling) → List (List Char × (List Char → List Char))
  | [] => []
  | (key, t) :: ts =>
    (key, fun rest => quotedThen key (':' :: t.textThen rest)) :: Spelling.entriesThen ts

end

/-- Items are written in front of the rest. -/
theorem dumpsItems_append (vs : List Json) (rest : List Char) :
    dumpsItems vs ++ rest = joinThen (vs.map fun v rest => v.dumps ++ rest) rest := by
  induction vs with
  | nil => rfl
  | cons v vs ih =>
    cases vs with
    | nil => rfl
    | cons w vs =>
      rw [dumpsItems, List.append_assoc, List.cons_append, ih]
      · rfl
      · simp

/-- An entry with its key, by which it is sorted. -/
def entryThen (e : String × Json) : List Char × (List Char → List Char) :=
  (e.1.toList, fun rest => quoted e.1 ++ ':' :: (e.2.dumps ++ rest))

/-- Entries are written in front of the rest. -/
theorem dumpsEntries_append (es : List (String × Json)) (rest : List Char) :
    dumpsEntries es ++ rest = joinThen ((es.map entryThen).map (·.2)) rest := by
  induction es with
  | nil => rfl
  | cons e es ih =>
    cases es with
    | nil =>
      rw [dumpsEntries, List.append_assoc]
      rfl
    | cons e' es =>
      rw [dumpsEntries]
      · simp only [List.append_assoc, List.cons_append, ih]
        rfl
      · simp

mutual

/-- The spelling of a value is its canonical text in front of the rest. -/
theorem Spells.textThen_eq {v : Json} {t : Spelling} (h : Spells v t) (rest : List Char) :
    t.textThen rest = v.canonicalize.dumps ++ rest := by
  cases h with
  | null => rfl
  | bool b => cases b <;> rfl
  | int i => rfl
  | float cs => rw [canonicalize, dumps, String.toList_ofList, Spelling.textThen]
  | str cs => rw [canonicalize, dumps, Spelling.textThen, quotedThen_eq]
  | list h =>
    rw [canonicalize, dumps, List.cons_append, List.cons_append, List.append_assoc,
      dumpsItems_append,
      SpellsItems.itemsThen_eq h, Spelling.textThen]
    rfl
  | dict h =>
    rw [canonicalize, dumps, List.cons_append, List.cons_append, List.append_assoc,
      dumpsEntries_append,
      List.map_insertionSort _ (fun a b => leChars a.1 b.1 = true), SpellsEntries.entriesThen_eq h,
      Spelling.textThen]
    · rfl
    · intro e _ e' _
      rw [entryThen, entryThen, leChars_iff, String.ofList_toList, String.ofList_toList]

/-- The spellings of items are their canonical texts. -/
theorem SpellsItems.itemsThen_eq {vs : List Json} {ts : List Spelling} (h : SpellsItems vs ts) :
    (canonicalizeItems vs).map (fun v rest => v.dumps ++ rest) = Spelling.itemsThen ts := by
  cases h with
  | nil => rfl
  | cons hv hvs =>
    rw [canonicalizeItems, List.map_cons, SpellsItems.itemsThen_eq hvs, Spelling.itemsThen,
      funext hv.textThen_eq]

/-- The spellings of entries are their canonical texts, sorted. -/
theorem SpellsEntries.entriesThen_eq {es : List (String × Json)}
    {ts : List (List Char × Spelling)} (h : SpellsEntries es ts) :
    (canonicalizeEntries es).map entryThen = Spelling.entriesThen ts := by
  cases h with
  | nil => rfl
  | cons key hv hes =>
    rw [canonicalizeEntries, List.map_cons, SpellsEntries.entriesThen_eq hes, Spelling.entriesThen,
      entryThen, String.toList_ofList]
    simp only [quotedThen_eq, hv.textThen_eq]

end

/-- The canonical JSON of a spelling. -/
def Spelling.text (t : Spelling) : List Char := t.textThen []

/-- A value is written as it is spelled. -/
theorem canonicalJson_eq_of_spells {v : Json} {t : Spelling} (h : Spells v t) :
    canonicalJson v = String.ofList t.text := by
  rw [Spelling.text, h.textThen_eq, List.append_nil, canonicalJson]

/-- The bytes of a list of characters. -/
def bytesOfChars (cs : List Char) : List Nat :=
  List.rec [] (fun c _ ih => Sha256.forced c.toNat fun n =>
    bif Nat.blt n 128 then n :: ih else (String.utf8EncodeChar c).map UInt8.toNat ++ ih) cs

/-- The bytes of a list of characters are those of its text. -/
theorem bytesOfChars_eq (cs : List Char) : bytesOfChars cs = utf8 (String.ofList cs) := by
  rw [utf8_ofList]
  induction cs with
  | nil => rfl
  | cons c cs ih =>
    have hstep : bytesOfChars (c :: cs) = Sha256.forced c.toNat fun n =>
        bif Nat.blt n 128 then n :: bytesOfChars cs
        else (String.utf8EncodeChar c).map UInt8.toNat ++ bytesOfChars cs := rfl
    rw [hstep, Sha256.forced_eq, ih, List.flatMap_cons, List.map_append]
    cases hascii : Nat.blt c.toNat 128 with
    | false => rfl
    | true =>
      have hle : c.toNat ≤ 127 := Nat.lt_succ_iff.1 (Nat.blt_eq.mp hascii)
      have hself : (String.utf8EncodeChar c).map UInt8.toNat = [c.toNat] := by
        simp [String.utf8EncodeChar, hle]
        omega
      rw [hself]
      rfl

/-- A digest from the spelling of the value. -/
theorem digest_eq_of_spells {v : Json} {t : Spelling} {cs : List Char} (h : Spells v t)
    (hcs : Sha256.runHexdigest (bytesOfChars t.text) = cs) : digest v = String.ofList cs := by
  unfold digest
  rw [canonicalJson_eq_of_spells h, ← bytesOfChars_eq, ← Sha256.runHexdigest_eq, hcs]

/-- The first characters of a digest from the spelling of the value. -/
theorem firstChars_eq_of_spells {v : Json} {t : Spelling} {cs : List Char} {n : Nat}
    (h : Spells v t) (hcs : (Sha256.runHexdigest (bytesOfChars t.text)).take n = cs) :
    firstChars n (digest v) = String.ofList cs := by
  rw [digest_eq_of_spells h rfl, firstChars, String.toList_ofList, hcs]

end Json

end LawFirmDigitalTwin
