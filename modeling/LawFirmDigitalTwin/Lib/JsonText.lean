import Mathlib.Data.List.TakeWhile
import Mathlib.Data.List.Perm.Basic

/-!
# JSON texts

The writer and the reader of a JSON library that writes ASCII and reads leniently: `NaN`, `Infinity`
and `-Infinity` are numbers, of several members with one name the last one counts, and an escape
may be half of a surrogate pair. The reader undoes the writer on every value without floats whose
strings are texts (`loads_dumps`).

The reader counts down a fuel, of which the length of the text gives enough (`readValue_fuel`).
-/

namespace JsonText

/-- A value. A string is its code points, lone surrogates included; a float is the text that it is
written back as. -/
inductive Value
  | null
  | bool (b : Bool)
  | int (i : Int)
  | float (repr : List Char)
  | str (s : List Nat)
  | list (items : List Value)
  | dict (entries : List (List Nat × Value))

/-- What the reader takes from the language: how a float is written back, and how many digits an
integer may have. -/
structure Host where
  floatRepr : List Char → List Char
  maxDigits : Nat

/-- What the reader raises: a text that is not JSON, or an integer with too many digits. -/
inductive LoadError
  | decode
  | digits
  deriving DecidableEq

/-! ## Writing -/

/-- The `\u` escape of a 16-bit unit. -/
def unicodeEscape (n : Nat) : List Char :=
  '\\' :: 'u' :: [(n / 4096 % 16).digitChar, (n / 256 % 16).digitChar, (n / 16 % 16).digitChar,
    (n % 16).digitChar]

/-- A code point in a string literal. -/
def escape (n : Nat) : List Char :=
  if n = 34 then ['\\', Char.ofNat 34]
  else if n = 92 then ['\\', '\\']
  else if n = 10 then ['\\', 'n']
  else if n = 13 then ['\\', 'r']
  else if n = 9 then ['\\', 't']
  else if n = 12 then ['\\', 'f']
  else if n = 8 then ['\\', 'b']
  else if 32 ≤ n ∧ n ≤ 126 then [Char.ofNat n]
  else if n < 0x10000 then unicodeEscape n
  else unicodeEscape (0xd800 + (n - 0x10000) / 0x400) ++ unicodeEscape (0xdc00 + (n - 0x10000) % 0x400)

/-- A string literal. -/
def quoted (s : List Nat) : List Char :=
  Char.ofNat 34 :: s.flatMap escape ++ [Char.ofNat 34]

/-- An integer. -/
def writeInt (i : Int) : List Char :=
  (if i < 0 then ['-'] else []) ++ Nat.toDigits 10 i.natAbs

mutual

/-- The text of a value. -/
def Value.dumps : Value → List Char
  | .null => "null".toList
  | .bool true => "true".toList
  | .bool false => "false".toList
  | .int i => writeInt i
  | .float repr => repr
  | .str s => quoted s
  | .list items => '[' :: dumpsItems items ++ [']']
  | .dict entries => Char.ofNat 123 :: dumpsEntries entries ++ [Char.ofNat 125]

def dumpsItems : List Value → List Char
  | [] => []
  | [v] => v.dumps
  | v :: rest => v.dumps ++ ',' :: dumpsItems rest

def dumpsEntries : List (List Nat × Value) → List Char
  | [] => []
  | [(key, v)] => quoted key ++ ':' :: v.dumps
  | (key, v) :: rest => quoted key ++ ':' :: v.dumps ++ ',' :: dumpsEntries rest

end

/-! ## Reading strings -/

/-- The value of a hexadecimal digit. -/
def hexValue? (c : Char) : Option Nat :=
  let n := c.toNat
  if 48 ≤ n ∧ n ≤ 57 then some (n - 48)
  else if 97 ≤ n ∧ n ≤ 102 then some (n - 87)
  else if 65 ≤ n ∧ n ≤ 70 then some (n - 55)
  else none

/-- The unit of four hexadecimal digits. -/
def hexUnit? (a b c d : Char) : Option Nat := do
  return 4096 * (← hexValue? a) + 256 * (← hexValue? b) + 16 * (← hexValue? c) + (← hexValue? d)

/-- What a letter after a backslash stands for. -/
def simpleEscape? (c : Char) : Option Nat :=
  ([(34, 34), (92, 92), (47, 47), (98, 8), (102, 12), (110, 10), (114, 13), (116, 9)].lookup c.toNat)

/-- A piece of a string literal: a code point, or a unit that was escaped. -/
inductive Piece
  | point (n : Nat)
  | unit (n : Nat)

/-- The pieces of a string literal, up to its closing quote. -/
def readPieces : List Char → Except LoadError (List Piece × List Char)
  | [] => .error .decode
  | c :: rest =>
    if c.toNat = 34 then .ok ([], rest)
    else if c.toNat = 92 then
      match rest with
      | [] => .error .decode
      | e :: rest =>
        if e.toNat = 117 then
          match rest with
          | a :: b :: c :: d :: rest =>
            match hexUnit? a b c d with
            | none => .error .decode
            | some n => (readPieces rest).map fun r => (.unit n :: r.1, r.2)
          | _ => .error .decode
        else
          match simpleEscape? e with
          | none => .error .decode
          | some n => (readPieces rest).map fun r => (.point n :: r.1, r.2)
    else if c.toNat < 32 then .error .decode
    else (readPieces rest).map fun r => (.point c.toNat :: r.1, r.2)

/-- Escaped surrogates that follow each other are one code point. -/
def joinPieces : List Piece → List Nat
  | [] => []
  | .point n :: rest => n :: joinPieces rest
  | .unit n :: rest =>
    match rest with
    | .unit k :: rest' =>
      if (0xd800 ≤ n ∧ n < 0xdc00) ∧ 0xdc00 ≤ k ∧ k < 0xe000 then
        (0x10000 + 0x400 * (n - 0xd800) + (k - 0xdc00)) :: joinPieces rest'
      else n :: joinPieces (.unit k :: rest')
    | rest => n :: joinPieces rest

/-- A string literal after its opening quote. -/
def readString (text : List Char) : Except LoadError (List Nat × List Char) :=
  (readPieces text).map fun r => (joinPieces r.1, r.2)

/-! ## Reading scalars -/

/-- An ASCII digit. -/
def isDigit (c : Char) : Bool := 48 ≤ c.toNat ∧ c.toNat ≤ 57

/-- The sign of a number. -/
def signOf (text : List Char) : List Char := if text.head? = some '-' then ['-'] else []

/-- The digits of a number before its fraction: nothing follows a zero. -/
def integerOf (text : List Char) : List Char :=
  if text.head? = some '0' then ['0'] else text.takeWhile isDigit

/-- The fraction of a number. -/
def fractionOf : List Char → List Char
  | c :: more =>
    let ds := more.takeWhile isDigit
    if c = '.' ∧ ds ≠ [] then c :: ds else []
  | [] => []

/-- The exponent of a number. -/
def exponentOf : List Char → List Char
  | c :: more =>
    let sign := match more with
      | '+' :: _ => ['+']
      | '-' :: _ => ['-']
      | _ => []
    let ds := (more.drop sign.length).takeWhile isDigit
    if (c = 'e' ∨ c = 'E') ∧ ds ≠ [] then c :: sign ++ ds else []
  | [] => []

/-- A number. -/
def readNumber (H : Host) (text : List Char) : Except LoadError (Value × List Char) :=
  let sign := signOf text
  let body := text.drop sign.length
  let digits := integerOf body
  if digits = [] then .error .decode
  else
    let rest := body.drop digits.length
    let fraction := fractionOf rest
    let exponent := exponentOf (rest.drop fraction.length)
    let rest := rest.drop (fraction.length + exponent.length)
    if fraction = [] ∧ exponent = [] then
      if H.maxDigits < digits.length then .error .digits
      else
        let n : Int := Nat.ofDigitChars 10 digits 0
        .ok (.int (if sign = [] then n else -n), rest)
    else .ok (.float (H.floatRepr (sign ++ digits ++ fraction ++ exponent)), rest)

/-- The words that are values. -/
def words : List (List Char × Value) :=
  [("null".toList, .null), ("true".toList, .bool true), ("false".toList, .bool false),
   ("NaN".toList, .float "NaN".toList), ("Infinity".toList, .float "Infinity".toList),
   ("-Infinity".toList, .float "-Infinity".toList)]

/-- A word or a number. -/
def readScalar (H : Host) (text : List Char) : Except LoadError (Value × List Char) :=
  match words.find? fun w => w.1.isPrefixOf text with
  | some w => .ok (w.2, text.drop w.1.length)
  | none => readNumber H text

/-! ## Reading values -/

def isSpace (c : Char) : Bool := c.toNat = 32 ∨ c.toNat = 9 ∨ c.toNat = 10 ∨ c.toNat = 13

def skipSpace (text : List Char) : List Char := text.dropWhile isSpace

/-- `d[key] = v`: a key keeps its first place. -/
def setEntry (entries : List (List Nat × Value)) (e : List Nat × Value) :
    List (List Nat × Value) :=
  if e.1 ∈ entries.map (·.1) then entries.map fun e' => if e'.1 = e.1 then e else e'
  else entries ++ [e]

/-- The dictionary of the members of an object. -/
def dictOf (members : List (List Nat × Value)) : List (List Nat × Value) :=
  members.foldl setEntry []

/-- A member's name and its colon. -/
def readName (text : List Char) : Except LoadError (List Nat × List Char) :=
  match text with
  | [] => .error .decode
  | c :: rest =>
    if c.toNat = 34 then
      match readString rest with
      | .error e => .error e
      | .ok (key, rest) =>
        match skipSpace rest with
        | ':' :: rest => .ok (key, skipSpace rest)
        | _ => .error .decode
    else .error .decode

mutual

/-- A value, at the front of a text. -/
def readValue (H : Host) : Nat → List Char → Except LoadError (Value × List Char)
  | 0, _ => .error .decode
  | _ + 1, [] => .error .decode
  | fuel + 1, c :: rest =>
    if c.toNat = 34 then (readString rest).map fun r => (.str r.1, r.2)
    else if c.toNat = 91 then
      if (skipSpace rest).head? = some ']' then .ok (.list [], (skipSpace rest).tail)
      else (readItems H fuel (skipSpace rest)).map fun r => (.list r.1, r.2)
    else if c.toNat = 123 then
      if (skipSpace rest).head?.map Char.toNat = some 125 then
        .ok (.dict [], (skipSpace rest).tail)
      else (readMembers H fuel (skipSpace rest)).map fun r => (.dict (dictOf r.1), r.2)
    else readScalar H (c :: rest)

/-- The items of a list, up to its bracket. -/
def readItems (H : Host) : Nat → List Char → Except LoadError (List Value × List Char)
  | 0, _ => .error .decode
  | fuel + 1, text =>
    match readValue H fuel text with
    | .error e => .error e
    | .ok (v, rest) =>
      match skipSpace rest with
      | [] => .error .decode
      | c :: rest =>
        if c.toNat = 93 then .ok ([v], rest)
        else if c.toNat = 44 then
          (readItems H fuel (skipSpace rest)).map fun r => (v :: r.1, r.2)
        else .error .decode

/-- The members of an object, up to its brace. -/
def readMembers (H : Host) :
    Nat → List Char → Except LoadError (List (List Nat × Value) × List Char)
  | 0, _ => .error .decode
  | fuel + 1, text =>
    match readName text with
    | .error e => .error e
    | .ok (key, rest) =>
      match readValue H fuel rest with
      | .error e => .error e
      | .ok (v, rest) =>
        match skipSpace rest with
        | [] => .error .decode
        | c :: rest =>
          if c.toNat = 125 then .ok ([(key, v)], rest)
          else if c.toNat = 44 then
            (readMembers H fuel (skipSpace rest)).map fun r => ((key, v) :: r.1, r.2)
          else .error .decode

end

/-- The value of a whole text. -/
def loads (H : Host) (text : List Char) : Except LoadError Value :=
  match readValue H (2 * text.length + 1) (skipSpace text) with
  | .error e => .error e
  | .ok (v, rest) => if skipSpace rest = [] then .ok v else .error .decode

/-! ## Strings -/

/-- A code point that is a character: no half of a surrogate pair. -/
def Scalar (n : Nat) : Prop := n < 0xd800 ∨ 0xe000 ≤ n ∧ n < 0x110000

/-- What the reader makes of an escaped code point. -/
def piecesOf (n : Nat) : List Piece :=
  if n ∈ [34, 92, 10, 13, 9, 12, 8] ∨ 32 ≤ n ∧ n ≤ 126 then [.point n]
  else if n < 0x10000 then [.unit n]
  else [.unit (0xd800 + (n - 0x10000) / 0x400), .unit (0xdc00 + (n - 0x10000) % 0x400)]

/-- A hexadecimal digit is read back. -/
theorem hexValue?_digitChar : ∀ n < 16, hexValue? n.digitChar = some n := by decide

/-- The four digits of an escaped unit are read back. -/
theorem hexUnit?_unicodeEscape {n : Nat} (h : n < 0x10000) :
    hexUnit? (n / 4096 % 16).digitChar (n / 256 % 16).digitChar (n / 16 % 16).digitChar
      (n % 16).digitChar = some n := by
  unfold hexUnit?
  rw [hexValue?_digitChar _ (by omega), hexValue?_digitChar _ (by omega),
    hexValue?_digitChar _ (by omega), hexValue?_digitChar _ (by omega)]
  refine congrArg some ?_
  show 4096 * (n / 4096 % 16) + 256 * (n / 256 % 16) + 16 * (n / 16 % 16) + n % 16 = n
  omega

/-- The reader takes an escaped unit for one piece. -/
theorem readPieces_unit {a b c d : Char} {n : Nat} (h : hexUnit? a b c d = some n)
    (text : List Char) : readPieces ('\\' :: 'u' :: a :: b :: c :: d :: text) =
      (readPieces text).map fun r => (.unit n :: r.1, r.2) := by
  have hstep : readPieces ('\\' :: 'u' :: a :: b :: c :: d :: text) =
      match hexUnit? a b c d with
      | none => .error .decode
      | some n => (readPieces text).map fun r => (.unit n :: r.1, r.2) := rfl
  rw [hstep, h]

/-- The reader takes a simple escape for one piece. -/
theorem readPieces_simple {e : Char} {n : Nat} (he : e.toNat ≠ 117) (hn : simpleEscape? e = some n)
    (text : List Char) :
    readPieces ('\\' :: e :: text) = (readPieces text).map fun r => (.point n :: r.1, r.2) := by
  have hslash : ('\\' : Char).toNat = 92 := rfl
  rw [readPieces.eq_def]
  simp only [hslash, he, hn, if_false, if_true, Nat.reduceEqDiff]

/-- The reader takes a character that stands for itself for one piece. -/
theorem readPieces_plain {c : Char} (hquote : c.toNat ≠ 34) (hslash : c.toNat ≠ 92)
    (hcontrol : ¬ c.toNat < 32) (text : List Char) :
    readPieces (c :: text) = (readPieces text).map fun r => (.point c.toNat :: r.1, r.2) := by
  rw [readPieces.eq_def]
  simp only [hquote, hslash, hcontrol, if_false]

/-- A character that stands for itself in a string literal. -/
def Unescaped (c : Char) : Prop := 32 ≤ c.toNat ∧ c.toNat ≠ 34 ∧ c.toNat ≠ 92

/-- The inside of a string literal, with its pieces. -/
inductive Literal : List Piece → List Char → Prop
  | nil : Literal [] []
  | plain (c : Char) (ps : List Piece) (t : List Char) (unescaped : Unescaped c)
      (rest : Literal ps t) : Literal (.point c.toNat :: ps) (c :: t)
  | simple (e : Char) (n : Nat) (ps : List Piece) (t : List Char) (letter : simpleEscape? e = some n)
      (rest : Literal ps t) : Literal (.point n :: ps) ('\\' :: e :: t)
  | unicode (a b c d : Char) (n : Nat) (ps : List Piece) (t : List Char)
      (digits : hexUnit? a b c d = some n) (rest : Literal ps t) :
      Literal (.unit n :: ps) ('\\' :: 'u' :: a :: b :: c :: d :: t)

/-- The insides of two literals, one after the other. -/
theorem Literal.append {ps ps' : List Piece} {t t' : List Char} (h : Literal ps t)
    (h' : Literal ps' t') : Literal (ps ++ ps') (t ++ t') := by
  induction h with
  | nil => exact h'
  | plain c ps t unescaped _ ih => exact .plain c _ _ unescaped ih
  | simple e n ps t letter _ ih => exact .simple e n _ _ letter ih
  | unicode a b c d n ps t digits _ ih => exact .unicode a b c d n _ _ digits ih

/-- The letter of a unit is no simple escape. -/
theorem simpleEscape?_ne_u {e : Char} {n : Nat} (h : simpleEscape? e = some n) :
    e.toNat ≠ 117 := by
  intro he
  unfold simpleEscape? at h
  rw [he] at h
  cases h

/-- **A literal is read** as its pieces. -/
theorem Literal.read {ps : List Piece} {t : List Char} (h : Literal ps t) (text : List Char) :
    readPieces (t ++ text) = (readPieces text).map fun r => (ps ++ r.1, r.2) := by
  have hcons : ∀ (p : Piece) (ps : List Piece) (r : Except LoadError (List Piece × List Char)),
      ((r.map fun r => (ps ++ r.1, r.2)).map fun r => (p :: r.1, r.2)) =
        r.map fun r => (p :: ps ++ r.1, r.2) := by
    intro p ps r
    cases r <;> rfl
  induction h with
  | nil =>
    rw [List.nil_append]
    cases readPieces text <;> rfl
  | plain c ps t unescaped _ ih =>
    obtain ⟨hcontrol, hquote, hslash⟩ := unescaped
    rw [List.cons_append, readPieces_plain hquote hslash (Nat.not_lt.2 hcontrol), ih, hcons]
  | simple e n ps t letter _ ih =>
    rw [List.cons_append, List.cons_append, readPieces_simple (simpleEscape?_ne_u letter) letter, ih,
      hcons]
  | unicode a b c d n ps t digits _ ih =>
    simp only [List.cons_append]
    rw [readPieces_unit digits, ih, hcons]
    rfl

/-- An escaped unit is the inside of a literal. -/
theorem literal_unicodeEscape {n : Nat} (h : n < 0x10000) : Literal [.unit n] (unicodeEscape n) :=
  .unicode _ _ _ _ n [] [] (hexUnit?_unicodeEscape h) .nil

/-- **A code point that was escaped** is a literal of its pieces. -/
theorem literal_escape {n : Nat} (h : n < 0x110000) : Literal (piecesOf n) (escape n) := by
  unfold escape
  split
  · next h => subst h; exact .simple _ _ [] [] (by decide) .nil
  split
  · next h => subst h; exact .simple _ _ [] [] (by decide) .nil
  split
  · next h => subst h; exact .simple _ _ [] [] (by decide) .nil
  split
  · next h => subst h; exact .simple _ _ [] [] (by decide) .nil
  split
  · next h => subst h; exact .simple _ _ [] [] (by decide) .nil
  split
  · next h => subst h; exact .simple _ _ [] [] (by decide) .nil
  split
  · next h => subst h; exact .simple _ _ [] [] (by decide) .nil
  next h34 h92 h10 h13 h9 h12 h8 =>
  split
  · next hplain =>
    have hnat : (Char.ofNat n).toNat = n := by
      have hvalid : n.isValidChar := .inl (by omega)
      rw [Char.ofNat, dif_pos hvalid]
      rfl
    have hliteral := Literal.plain (Char.ofNat n) [] [] ⟨by omega, by omega, by omega⟩ .nil
    rw [piecesOf, if_pos (.inr hplain)]
    rwa [hnat] at hliteral
  next hplain =>
  have hnot : ¬ (n ∈ [34, 92, 10, 13, 9, 12, 8] ∨ 32 ≤ n ∧ n ≤ 126) := by
    simp only [List.mem_cons, List.not_mem_nil, or_false]
    omega
  rw [piecesOf, if_neg hnot]
  split
  · next hunit => exact literal_unicodeEscape hunit
  · exact (literal_unicodeEscape (by omega)).append (literal_unicodeEscape (by omega))

/-- Escaped code points are the inside of a literal. -/
theorem literal_flatMap {s : List Nat} (hs : ∀ n ∈ s, n < 0x110000) :
    Literal (s.flatMap piecesOf) (s.flatMap escape) := by
  induction s with
  | nil => exact .nil
  | cons n s ih =>
    rw [List.flatMap_cons, List.flatMap_cons]
    exact (literal_escape (hs n (.head _))).append (ih fun k hk => hs k (.tail _ hk))

/-- A string as it is read: code points, no two halves of a surrogate pair after each other. -/
structure Joined (s : List Nat) : Prop where
  points : ∀ n ∈ s, n < 0x110000
  pairs : s.IsChain fun n k => ¬ ((0xd800 ≤ n ∧ n < 0xdc00) ∧ 0xdc00 ≤ k ∧ k < 0xe000)

/-- Characters are a string as it is read. -/
theorem Joined.of_scalar {s : List Nat} (hs : ∀ n ∈ s, Scalar n) : Joined s := by
  refine ⟨fun n hn => ?_, ?_⟩
  · have hscalar := hs n hn
    unfold Scalar at hscalar
    omega
  · refine (List.pairwise_of_forall_mem_list fun n hn k _ => ?_).isChain
    have hscalar := hs n hn
    unfold Scalar at hscalar
    omega

/-- A unit that is not the first half of a pair stands for itself. -/
theorem joinPieces_unit {n : Nat} {rest : List Piece}
    (h : ∀ k rest', rest = .unit k :: rest' →
      ¬ ((0xd800 ≤ n ∧ n < 0xdc00) ∧ 0xdc00 ≤ k ∧ k < 0xe000)) :
    joinPieces (.unit n :: rest) = n :: joinPieces rest := by
  cases rest with
  | nil => rfl
  | cons p rest =>
    cases p with
    | point k => rfl
    | unit k => rw [joinPieces, if_neg (h k rest rfl)]

/-- The pieces of a string join to the string. -/
theorem joinPieces_flatMap {s : List Nat} (h : Joined s) : joinPieces (s.flatMap piecesOf) = s := by
  induction s with
  | nil => rfl
  | cons n s ih =>
    have hn := h.points n (.head _)
    have ih := ih ⟨fun k hk => h.points k (.tail _ hk), h.pairs.of_cons⟩
    rw [List.flatMap_cons, piecesOf]
    split
    · rw [List.singleton_append, joinPieces, ih]
    split
    · rw [List.singleton_append, joinPieces_unit, ih]
      -- the next unit is the next code point, or the first half of it
      intro k rest hrest
      cases s with
      | nil => cases hrest
      | cons m s =>
        have hpair := (List.isChain_cons_cons.1 h.pairs).1
        have hm := h.points m (.tail _ (.head _))
        rw [List.flatMap_cons, piecesOf] at hrest
        split at hrest
        · cases hrest
        split at hrest
        · cases hrest
          exact hpair
        · cases hrest
          omega
    · rw [List.cons_append, List.singleton_append, joinPieces, if_pos (by omega), ih]
      refine congrArg (· :: s) ?_
      omega

/-- **A string literal is read back.** -/
theorem readString_quoted {s : List Nat} (hs : ∀ n ∈ s, Scalar n) (text : List Char) :
    readString (s.flatMap escape ++ Char.ofNat 34 :: text) = .ok (s, text) := by
  have hclose : readPieces (Char.ofNat 34 :: text) = .ok ([], text) := by
    rw [readPieces.eq_def]
    rfl
  have hjoined := Joined.of_scalar hs
  rw [readString, (literal_flatMap hjoined.points).read, hclose]
  simp only [Except.map, List.append_nil, joinPieces_flatMap hjoined]

/-! ## Integers -/

/-- A text at which a number ends. -/
def Ends (text : List Char) : Prop :=
  ∀ c ∈ text.head?, isDigit c = false ∧ c ≠ '.' ∧ c ≠ 'e' ∧ c ≠ 'E'

/-- A number is written in digits. -/
theorem isDigit_of_mem_toDigits {n : Nat} {c : Char} (h : c ∈ Nat.toDigits 10 n) :
    isDigit c = true := by
  have hdigit := Nat.isDigit_of_mem_toDigits (by decide) (by decide) h
  simp only [Char.isDigit, ge_iff_le, Bool.and_eq_true, decide_eq_true_eq,
    UInt32.le_iff_toNat_le] at hdigit
  exact decide_eq_true hdigit

/-- Only zero is written with a zero in front. -/
theorem head?_toDigits {n : Nat} (h : 0 < n) : (Nat.toDigits 10 n).head? ≠ some '0' := by
  induction n using Nat.strongRecOn with
  | ind n ih =>
    by_cases hlt : n < 10
    · rw [Nat.toDigits_of_lt_base hlt, List.head?_cons]
      have hall : ∀ n < 10, 0 < n → n.digitChar ≠ '0' := by decide
      exact fun he => hall n hlt h (Option.some.inj he)
    · rw [Nat.toDigits_of_base_le (by decide) (by omega), List.head?_append_of_ne_nil _
        Nat.toDigits_ne_nil]
      exact ih (n / 10) (by omega) (by omega)

/-- The digits of a number end where the number does. -/
theorem takeWhile_isDigit {ds rest : List Char} (hds : ∀ c ∈ ds, isDigit c = true)
    (hrest : Ends rest) : (ds ++ rest).takeWhile isDigit = ds := by
  rw [List.takeWhile_append_of_pos hds]
  cases rest with
  | nil => simp
  | cons c rest =>
    have hc : isDigit c = false := (hrest c rfl).1
    rw [List.takeWhile_cons_of_neg (by rw [hc]; decide), List.append_nil]

/-- Where a number ends there is no fraction. -/
theorem fractionOf_of_ends {rest : List Char} (hrest : Ends rest) : fractionOf rest = [] := by
  cases rest with
  | nil => rfl
  | cons c rest =>
    have hc : c ≠ '.' := (hrest c rfl).2.1
    simp [fractionOf, hc]

/-- Where a number ends there is no exponent. -/
theorem exponentOf_of_ends {rest : List Char} (hrest : Ends rest) : exponentOf rest = [] := by
  cases rest with
  | nil => rfl
  | cons c rest =>
    obtain ⟨-, -, he, hE⟩ := hrest c rfl
    simp [exponentOf, he, hE]

/-- The digits of a number are read back. -/
theorem readNumber_digits {H : Host} {sign : List Char} {n : Nat} {rest : List Char}
    (hsign : sign = [] ∨ sign = ['-']) (hmax : (Nat.toDigits 10 n).length ≤ H.maxDigits)
    (hrest : Ends rest) :
    readNumber H (sign ++ Nat.toDigits 10 n ++ rest) =
      .ok (.int (if sign = [] then (n : Int) else -(n : Int)), rest) := by
  obtain ⟨d, ds, hds⟩ := List.exists_cons_of_ne_nil (Nat.toDigits_ne_nil (n := n) (b := 10))
  have hdigit : isDigit d = true := isDigit_of_mem_toDigits (n := n) (by rw [hds]; exact .head _)
  have hd : d ≠ '-' := by
    rintro rfl
    exact absurd hdigit (by decide)
  have hsign' : signOf (sign ++ Nat.toDigits 10 n ++ rest) = sign := by
    rcases hsign with rfl | rfl
    · rw [hds]
      simp [signOf, hd]
    · rfl
  have hbody : (sign ++ Nat.toDigits 10 n ++ rest).drop sign.length =
      Nat.toDigits 10 n ++ rest := by
    rw [List.append_assoc, List.drop_left]
  have hdigits : integerOf (Nat.toDigits 10 n ++ rest) = Nat.toDigits 10 n := by
    rcases Nat.eq_zero_or_pos n with rfl | hpos
    · rfl
    · rw [integerOf, List.head?_append_of_ne_nil _ Nat.toDigits_ne_nil, if_neg (head?_toDigits hpos),
        takeWhile_isDigit (fun c hc => isDigit_of_mem_toDigits hc) hrest]
  unfold readNumber
  simp only [hsign', hbody, hdigits, Nat.toDigits_ne_nil, if_false, List.drop_left,
    fractionOf_of_ends hrest, exponentOf_of_ends hrest, List.length_nil, List.drop_zero, and_self,
    if_true, Nat.add_zero, not_lt.2 hmax, Nat.ofDigitChars_ten_toDigits]

/-- A number does not start with a word. -/
theorem find?_words_none {sign ds rest : List Char} {d : Char} (hsign : sign = [] ∨ sign = ['-'])
    (hd : isDigit d = true) :
    words.find? (fun w => w.1.isPrefixOf (sign ++ d :: ds ++ rest)) = none := by
  have hne : ∀ c, isDigit c = false → (c == d) = false := by
    intro c hc
    rw [beq_eq_false_iff_ne]
    rintro rfl
    rw [hc] at hd
    cases hd
  rcases hsign with rfl | rfl
  · simp [words, List.find?, List.isPrefixOf, hne 'n' (by decide), hne 't' (by decide),
      hne 'f' (by decide), hne 'N' (by decide), hne 'I' (by decide), hne '-' (by decide)]
  · simp [words, List.find?, List.isPrefixOf, hne 'I' (by decide)]

/-- **An integer is read back.** -/
theorem readScalar_writeInt {H : Host} {i : Int} {rest : List Char}
    (hmax : (Nat.toDigits 10 i.natAbs).length ≤ H.maxDigits) (hrest : Ends rest) :
    readScalar H (writeInt i ++ rest) = .ok (.int i, rest) := by
  obtain ⟨d, ds, hds⟩ := List.exists_cons_of_ne_nil (Nat.toDigits_ne_nil (n := i.natAbs) (b := 10))
  have hdigit : isDigit d = true :=
    isDigit_of_mem_toDigits (n := i.natAbs) (by rw [hds]; exact .head _)
  have hsign : (if i < 0 then ['-'] else []) = [] ∨ (if i < 0 then ['-'] else []) = ['-'] := by
    split <;> simp
  have hwords := @find?_words_none _ ds rest _ hsign hdigit
  unfold readScalar writeInt
  rw [← hds] at hwords
  rw [hwords]
  simp only [readNumber_digits hsign hmax hrest]
  split
  · next hneg =>
    have hvalue : -(i.natAbs : Int) = i := by omega
    rw [if_neg (List.cons_ne_nil _ _), hvalue]
  · next hneg =>
    have hvalue : (i.natAbs : Int) = i := by omega
    rw [if_pos rfl, hvalue]

/-! ## The fuel

Every reader leaves less than it was given, so that the fuel of `loads` does not run out. -/

/-- A mapped result is there where the result is. -/
theorem map_eq_ok {ε α β : Type} {f : α → β} {x : Except ε α} {b : β} :
    x.map f = .ok b ↔ ∃ a, x = .ok a ∧ f a = b := by
  cases x with
  | error e => exact iff_of_false (fun h => by cases h) fun ⟨_, h, _⟩ => by cases h
  | ok a =>
    constructor
    · exact fun h => ⟨a, rfl, Except.ok.inj h⟩
    · rintro ⟨a', ha, rfl⟩
      rw [Except.ok.inj ha]
      rfl

/-- Skipping space shortens a text. -/
theorem length_skipSpace (text : List Char) : (skipSpace text).length ≤ text.length :=
  (List.dropWhile_sublist _).length_le

/-- Reading a literal shortens the text. -/
theorem length_readPieces {text : List Char} {r : List Piece × List Char}
    (h : readPieces text = .ok r) : r.2.length < text.length := by
  fun_induction readPieces text generalizing r with
  | case1 => cases h
  | case2 c rest hquote =>
    cases h
    exact Nat.lt_succ_self _
  | case3 => cases h
  | case4 => cases h
  | case5 c hquote hslash e a b c' d rest hu n hunit ih =>
    obtain ⟨r', hr', rfl⟩ := map_eq_ok.1 h
    have := ih hr'
    simp only [List.length_cons]
    omega
  | case6 => cases h
  | case7 => cases h
  | case8 c hquote hslash e rest hu n hn ih =>
    obtain ⟨r', hr', rfl⟩ := map_eq_ok.1 h
    have := ih hr'
    simp only [List.length_cons]
    omega
  | case9 => cases h
  | case10 c rest hquote hslash hcontrol ih =>
    obtain ⟨r', hr', rfl⟩ := map_eq_ok.1 h
    have := ih hr'
    simp only [List.length_cons]
    omega

/-- Reading a string shortens the text. -/
theorem length_readString {text : List Char} {r : List Nat × List Char}
    (h : readString text = .ok r) : r.2.length < text.length := by
  obtain ⟨r', hr', rfl⟩ := map_eq_ok.1 h
  exact length_readPieces hr'

/-- Reading a number shortens the text. -/
theorem length_readNumber {H : Host} {text : List Char} {r : Value × List Char}
    (h : readNumber H text = .ok r) : r.2.length < text.length := by
  unfold readNumber at h
  simp only at h
  split at h
  · cases h
  next hdigits =>
  have hpos := List.length_pos_iff.2 hdigits
  -- the digits are the front of a text that is not empty
  have htext : 0 < (text.drop (signOf text).length).length := by
    rw [List.length_pos_iff]
    intro hnil
    rw [hnil] at hdigits
    exact hdigits rfl
  simp only [List.length_drop] at htext
  split at h
  · split at h
    · cases h
    · rw [← Except.ok.inj h]
      simp only [List.length_drop]
      omega
  · rw [← Except.ok.inj h]
    simp only [List.length_drop]
    omega

/-- Reading a word or a number shortens the text. -/
theorem length_readScalar {H : Host} {text : List Char} {r : Value × List Char}
    (h : readScalar H text = .ok r) : r.2.length < text.length := by
  unfold readScalar at h
  split at h
  · next w hw =>
    have hlength : ∀ w ∈ words, 0 < w.1.length := by
      simp [words]
    have hpos := hlength w (List.mem_of_find?_eq_some hw)
    have hfound : w.1.isPrefixOf text = true := 
      List.find?_some (p := fun w : List Char × Value => w.1.isPrefixOf text) hw
    have hprefix := (List.isPrefixOf_iff_prefix.1 hfound).length_le
    rw [← Except.ok.inj h]
    simp only [List.length_drop]
    omega
  · exact length_readNumber h

/-- Reading a name shortens the text. -/
theorem length_readName {text : List Char} {r : List Nat × List Char}
    (h : readName text = .ok r) : r.2.length < text.length := by
  unfold readName at h
  split at h
  · cases h
  next c rest =>
  split at h
  · split at h
    · cases h
    next key rest' hstring =>
    have hstring := length_readString hstring
    split at h
    · next rest'' hskip =>
      have hcolon := length_skipSpace rest'
      have hspace := length_skipSpace rest''
      rw [hskip] at hcolon
      rw [← Except.ok.inj h]
      simp only [List.length_cons] at hcolon hstring ⊢
      omega
    · cases h
  · cases h

/-- **Reading a value takes at least a character.** -/
theorem length_read (H : Host) (fuel : Nat) :
    (∀ text r, readValue H fuel text = .ok r → r.2.length < text.length) ∧
      (∀ text r, readItems H fuel text = .ok r → r.2.length < text.length) ∧
        ∀ text r, readMembers H fuel text = .ok r → r.2.length < text.length := by
  induction fuel with
  | zero =>
    refine ⟨fun text r h => ?_, fun text r h => ?_, fun text r h => ?_⟩
    · cases h
    · cases h
    · cases h
  | succ fuel ih =>
    obtain ⟨hvalue, hitems, hmembers⟩ := ih
    refine ⟨fun text r h => ?_, fun text r h => ?_, fun text r h => ?_⟩
    · cases text with
      | nil => cases h
      | cons c rest =>
        have hspace := length_skipSpace rest
        rw [readValue] at h
        split at h
        · obtain ⟨r', hr', rfl⟩ := map_eq_ok.1 h
          have := length_readString hr'
          simp only [List.length_cons]
          omega
        split at h
        · split at h
          · rw [← Except.ok.inj h]
            simp only [List.length_tail, List.length_cons]
            omega
          · obtain ⟨r', hr', rfl⟩ := map_eq_ok.1 h
            have := hitems _ _ hr'
            simp only [List.length_cons]
            omega
        split at h
        · split at h
          · rw [← Except.ok.inj h]
            simp only [List.length_tail, List.length_cons]
            omega
          · obtain ⟨r', hr', rfl⟩ := map_eq_ok.1 h
            have := hmembers _ _ hr'
            simp only [List.length_cons]
            omega
        · exact length_readScalar h
    · rw [readItems] at h
      split at h
      · cases h
      next v rest hv =>
      have hv := hvalue _ _ hv
      have hspace := length_skipSpace rest
      split at h
      · cases h
      next c rest' hskip =>
      rw [hskip] at hspace
      simp only [List.length_cons] at hv hspace
      split at h
      · rw [← Except.ok.inj h]
        simp only
        omega
      split at h
      · obtain ⟨r', hr', rfl⟩ := map_eq_ok.1 h
        have := hitems _ _ hr'
        have := length_skipSpace rest'
        simp only
        omega
      · cases h
    · rw [readMembers] at h
      split at h
      · cases h
      next key named hname =>
      have hname := length_readName hname
      split at h
      · cases h
      next v rest hv =>
      have hv := hvalue _ _ hv
      have hspace := length_skipSpace rest
      split at h
      · cases h
      next c rest' hskip =>
      rw [hskip] at hspace
      simp only [List.length_cons] at hname hv hspace
      split at h
      · rw [← Except.ok.inj h]
        simp only
        omega
      split at h
      · obtain ⟨r', hr', rfl⟩ := map_eq_ok.1 h
        have := hmembers _ _ hr'
        have := length_skipSpace rest'
        simp only
        omega
      · cases h

/-- **More fuel changes nothing** once there are two units for each character. -/
theorem read_succ (H : Host) (fuel : Nat) :
    (∀ text, 2 * text.length + 1 ≤ fuel → readValue H (fuel + 1) text = readValue H fuel text) ∧
      (∀ text, 2 * text.length + 2 ≤ fuel →
        readItems H (fuel + 1) text = readItems H fuel text) ∧
        ∀ text, 2 * text.length + 2 ≤ fuel →
          readMembers H (fuel + 1) text = readMembers H fuel text := by
  induction fuel with
  | zero =>
    refine ⟨fun text h => ?_, fun text h => ?_, fun text h => ?_⟩
    · omega
    · omega
    · omega
  | succ fuel ih =>
    obtain ⟨hvalue, hitems, hmembers⟩ := ih
    obtain ⟨hlength, -, -⟩ := length_read H fuel
    refine ⟨fun text h => ?_, fun text h => ?_, fun text h => ?_⟩
    · cases text with
      | nil => rfl
      | cons c rest =>
        have hspace := length_skipSpace rest
        simp only [List.length_cons] at h
        rw [readValue, readValue, hitems _ (by omega), hmembers _ (by omega)]
    · rw [readItems, readItems, hvalue _ (by omega)]
      split
      · rfl
      next v rest hv =>
      have hv := hlength _ _ hv
      have hspace := length_skipSpace rest
      split
      · rfl
      next c rest' hskip =>
      have hspace' := length_skipSpace rest'
      rw [hskip] at hspace
      simp only [List.length_cons] at hv hspace
      rw [hitems _ (by omega)]
    · rw [readMembers, readMembers]
      split
      · rfl
      next key named hname =>
      have hname := length_readName hname
      simp only at hname
      rw [hvalue _ (by omega)]
      split
      · rfl
      next v rest hv =>
      have hv := hlength _ _ hv
      have hspace := length_skipSpace rest
      split
      · rfl
      next c rest' hskip =>
      have hspace' := length_skipSpace rest'
      rw [hskip] at hspace
      simp only [List.length_cons] at hv hspace
      rw [hmembers _ (by omega)]

/-- **The fuel of `loads` is enough**: any larger one gives the same. -/
theorem readValue_fuel {H : Host} {fuel : Nat} {text : List Char}
    (h : 2 * text.length + 1 ≤ fuel) :
    readValue H fuel text = readValue H (2 * text.length + 1) text := by
  induction fuel, h using Nat.le_induction with
  | base => rfl
  | succ fuel hfuel ih => rw [(read_succ H fuel).1 text hfuel, ih]

/-! ## Values -/

/-- A value without floats: its strings are texts, its integers have few enough digits, and the
names of an object are distinct. -/
inductive Plain (H : Host) : Value → Prop
  | null : Plain H .null
  | bool (b : Bool) : Plain H (.bool b)
  | int (i : Int) (digits : (Nat.toDigits 10 i.natAbs).length ≤ H.maxDigits) : Plain H (.int i)
  | str (s : List Nat) (scalar : ∀ n ∈ s, Scalar n) : Plain H (.str s)
  | list (items : List Value) (plain : ∀ v ∈ items, Plain H v) : Plain H (.list items)
  | dict (entries : List (List Nat × Value)) (nodup : (entries.map (·.1)).Nodup)
      (scalar : ∀ e ∈ entries, ∀ n ∈ e.1, Scalar n) (plain : ∀ e ∈ entries, Plain H e.2) :
      Plain H (.dict entries)

/-- A text that starts with something else than space and the end of a list. -/
def Starts (text : List Char) : Prop :=
  ∃ c cs, text = c :: cs ∧ isSpace c = false ∧ c ≠ ']'

/-- There is no space at such a start. -/
theorem Starts.skipSpace {text : List Char} (h : Starts text) (rest : List Char) :
    JsonText.skipSpace (text ++ rest) = text ++ rest := by
  obtain ⟨c, cs, rfl, hc, -⟩ := h
  rw [List.cons_append, JsonText.skipSpace, List.dropWhile_cons_of_neg (by rw [hc]; decide)]

/-- The start of a text stays its start. -/
theorem Starts.append {text : List Char} (h : Starts text) (rest : List Char) :
    Starts (text ++ rest) := by
  obtain ⟨c, cs, rfl, hc⟩ := h
  exact ⟨c, cs ++ rest, rfl, hc⟩

/-- An integer starts with something else than space. -/
theorem starts_writeInt (i : Int) : Starts (writeInt i) := by
  unfold writeInt
  split
  · exact ⟨'-', _, rfl, by decide, by decide⟩
  · obtain ⟨d, ds, hds⟩ := List.exists_cons_of_ne_nil (Nat.toDigits_ne_nil (n := i.natAbs) (b := 10))
    have hdigit : isDigit d = true :=
      isDigit_of_mem_toDigits (n := i.natAbs) (by rw [hds]; exact .head _)
    refine ⟨d, ds, hds, ?_, ?_⟩
    · simp only [isDigit, decide_eq_true_eq] at hdigit
      simp only [isSpace, decide_eq_false_iff_not]
      omega
    · rintro rfl
      exact absurd hdigit (by decide)

/-- The text of a plain value starts with something else than space. -/
theorem Plain.starts {H : Host} {v : Value} (h : Plain H v) : Starts v.dumps := by
  cases h with
  | null => exact ⟨'n', _, rfl, by decide, by decide⟩
  | bool b =>
    cases b with
    | false => exact ⟨'f', _, rfl, by decide, by decide⟩
    | true => exact ⟨'t', _, rfl, by decide, by decide⟩
  | int i => exact starts_writeInt i
  | str s => exact ⟨Char.ofNat 34, _, rfl, by decide, by decide⟩
  | list items => exact ⟨'[', _, rfl, by decide, by decide⟩
  | dict entries => exact ⟨Char.ofNat 123, _, rfl, by decide, by decide⟩

/-- A mark after a value ends a number. -/
theorem ends_mark {c : Char} (h : c ∈ [',', ']', Char.ofNat 125]) (rest : List Char) :
    Ends (c :: rest) := by
  have hall : ∀ c ∈ [',', ']', Char.ofNat 125],
      isDigit c = false ∧ c ≠ '.' ∧ c ≠ 'e' ∧ c ≠ 'E' := by
    simp only [List.forall_mem_cons]
    exact ⟨by decide, by decide, by decide, List.forall_mem_nil _⟩
  intro c' hc'
  rw [List.head?_cons, Option.mem_some_iff] at hc'
  rw [← hc']
  exact hall c h

/-- The reader gives the value back, with fuel enough. -/
def Reads (H : Host) (v : Value) : Prop :=
  ∃ n, ∀ fuel, n ≤ fuel → ∀ rest, Ends rest →
    readValue H fuel (v.dumps ++ rest) = .ok (v, rest)

/-- So do the items of a list. -/
theorem starts_dumpsItems {H : Host} {items : List Value} (hne : items ≠ [])
    (hplain : ∀ v ∈ items, Plain H v) : Starts (dumpsItems items) := by
  obtain ⟨v, items, rfl⟩ := List.exists_cons_of_ne_nil hne
  have hv := (hplain v (.head _)).starts
  cases items with
  | nil => exact hv
  | cons u items => exact hv.append _

/-- The members of an object start with a quote. -/
theorem starts_dumpsEntries {entries : List (List Nat × Value)} (hne : entries ≠ []) :
    ∃ cs, dumpsEntries entries = Char.ofNat 34 :: cs := by
  obtain ⟨e, entries, rfl⟩ := List.exists_cons_of_ne_nil hne
  cases entries with
  | nil => exact ⟨_, rfl⟩
  | cons e' entries => exact ⟨_, rfl⟩

/-- The items of a list are read back where each of them is. -/
theorem readItems_dumpsItems {H : Host} {items : List Value} (hne : items ≠ [])
    (hplain : ∀ v ∈ items, Plain H v) (hreads : ∀ v ∈ items, Reads H v) :
    ∃ n, ∀ fuel, n ≤ fuel → ∀ rest,
      readItems H fuel (dumpsItems items ++ ']' :: rest) = .ok (items, rest) := by
  induction items with
  | nil => exact absurd rfl hne
  | cons v items ih =>
    obtain ⟨n, hn⟩ := hreads v (.head _)
    cases items with
    | nil =>
      refine ⟨n + 1, fun fuel hfuel rest => ?_⟩
      obtain ⟨fuel, rfl⟩ := Nat.exists_eq_add_of_le' hfuel
      rw [← Nat.add_assoc, readItems, dumpsItems, hn _ (by omega) _ (ends_mark (by decide) rest)]
      rfl
    | cons u items =>
      obtain ⟨k, hk⟩ := ih (List.cons_ne_nil _ _) (fun w hw => hplain w (.tail _ hw))
        fun w hw => hreads w (.tail _ hw)
      have hstarts := starts_dumpsItems (List.cons_ne_nil u items)
        fun w hw => hplain w (.tail _ hw)
      refine ⟨max n k + 1, fun fuel hfuel rest => ?_⟩
      obtain ⟨fuel, rfl⟩ := Nat.exists_eq_add_of_le' hfuel
      rw [← Nat.add_assoc, readItems, dumpsItems, List.append_assoc, List.cons_append,
        hn _ (by omega) _ (ends_mark (by decide) _)]
      have hcomma : skipSpace (',' :: (dumpsItems (u :: items) ++ ']' :: rest)) =
          ',' :: (dumpsItems (u :: items) ++ ']' :: rest) := rfl
      simp only [hcomma, hstarts.skipSpace, hk _ (by omega : k ≤ fuel + max n k)]
      rfl
      exact fun h => absurd h (List.cons_ne_nil _ _)

/-- The name of a member is read back. -/
theorem readName_quoted {key : List Nat} (hkey : ∀ n ∈ key, Scalar n) {text : List Char}
    (htext : Starts text) (rest : List Char) :
    readName (quoted key ++ ':' :: (text ++ rest)) = .ok (key, text ++ rest) := by
  have hquote : (Char.ofNat 34).toNat = 34 := rfl
  have hcolon : skipSpace (':' :: (text ++ rest)) = ':' :: (text ++ rest) := rfl
  unfold quoted readName
  simp only [List.cons_append, List.append_assoc, List.nil_append, hquote, if_true,
    readString_quoted hkey, hcolon, htext.skipSpace]

/-- The members of an object are read back where their values are. -/
theorem readMembers_dumpsEntries {H : Host} {entries : List (List Nat × Value)} (hne : entries ≠ [])
    (hkeys : ∀ e ∈ entries, ∀ n ∈ e.1, Scalar n) (hplain : ∀ e ∈ entries, Plain H e.2)
    (hreads : ∀ e ∈ entries, Reads H e.2) :
    ∃ n, ∀ fuel, n ≤ fuel → ∀ rest,
      readMembers H fuel (dumpsEntries entries ++ Char.ofNat 125 :: rest) = .ok (entries, rest) := by
  induction entries with
  | nil => exact absurd rfl hne
  | cons e entries ih =>
    obtain ⟨key, v⟩ := e
    obtain ⟨n, hn⟩ := hreads (key, v) (.head _)
    have hkey := hkeys (key, v) (.head _)
    have hv := (hplain (key, v) (.head _)).starts
    cases entries with
    | nil =>
      refine ⟨n + 1, fun fuel hfuel rest => ?_⟩
      obtain ⟨fuel, rfl⟩ := Nat.exists_eq_add_of_le' hfuel
      rw [← Nat.add_assoc, readMembers, dumpsEntries, List.append_assoc, List.cons_append,
        readName_quoted hkey hv]
      have hread : readValue H (fuel + n) (v.dumps ++ Char.ofNat 125 :: rest) =
          .ok (v, Char.ofNat 125 :: rest) := hn _ (by omega) _ (ends_mark (by decide) rest)
      simp only [hread]
      rfl
    | cons e entries =>
      obtain ⟨k, hk⟩ := ih (List.cons_ne_nil _ _) (fun e he => hkeys e (.tail _ he))
        (fun e he => hplain e (.tail _ he)) fun e he => hreads e (.tail _ he)
      have hstarts : Starts (dumpsEntries (e :: entries)) := by
        obtain ⟨cs, hcs⟩ := starts_dumpsEntries (List.cons_ne_nil e entries)
        exact ⟨Char.ofNat 34, cs, hcs, by decide, by decide⟩
      refine ⟨max n k + 1, fun fuel hfuel rest => ?_⟩
      obtain ⟨fuel, rfl⟩ := Nat.exists_eq_add_of_le' hfuel
      rw [← Nat.add_assoc, readMembers, dumpsEntries, List.append_assoc, List.append_assoc,
        List.cons_append, List.cons_append, readName_quoted hkey hv]
      have hcomma : skipSpace (',' :: (dumpsEntries (e :: entries) ++ Char.ofNat 125 :: rest)) =
          ',' :: (dumpsEntries (e :: entries) ++ Char.ofNat 125 :: rest) := rfl
      have hread : readValue H (fuel + max n k)
          (v.dumps ++ ',' :: (dumpsEntries (e :: entries) ++ Char.ofNat 125 :: rest)) =
            .ok (v, ',' :: (dumpsEntries (e :: entries) ++ Char.ofNat 125 :: rest)) :=
        hn _ (by omega) _ (ends_mark (by decide) _)
      simp only [hread, hcomma, hstarts.skipSpace, hk _ (by omega : k ≤ fuel + max n k)]
      rfl
      exact fun h => absurd h (List.cons_ne_nil _ _)

/-- Members with distinct names make a dictionary as they stand. -/
theorem dictOf_of_nodup {members : List (List Nat × Value)}
    (h : (members.map (·.1)).Nodup) : dictOf members = members := by
  have main : ∀ (members entries : List (List Nat × Value)),
      ((entries ++ members).map (·.1)).Nodup → members.foldl setEntry entries = entries ++ members := by
    intro members
    induction members with
    | nil => exact fun entries _ => (List.append_nil _).symm
    | cons e members ih =>
      intro entries hnd
      have hnew : e.1 ∉ entries.map (·.1) := by
        rw [List.map_append, List.nodup_append] at hnd
        exact fun he => hnd.2.2 e.1 he e.1 (.head _) rfl
      rw [List.foldl_cons, setEntry, if_neg hnew, ih _ (by simpa using hnd)]
      simp
  exact main members [] h

/-- A text that starts neither a string nor a list nor an object. -/
theorem readValue_scalar {H : Host} {fuel : Nat} {c : Char} {rest : List Char}
    (hquote : c.toNat ≠ 34) (hbracket : c.toNat ≠ 91) (hbrace : c.toNat ≠ 123) :
    readValue H (fuel + 1) (c :: rest) = readScalar H (c :: rest) := by
  rw [readValue, if_neg hquote, if_neg hbracket, if_neg hbrace]

/-- An integer is read as a scalar. -/
theorem readValue_writeInt {H : Host} {fuel : Nat} {i : Int} {rest : List Char} :
    readValue H (fuel + 1) (writeInt i ++ rest) = readScalar H (writeInt i ++ rest) := by
  unfold writeInt
  split
  · exact readValue_scalar (by decide) (by decide) (by decide)
  · obtain ⟨d, ds, hds⟩ := List.exists_cons_of_ne_nil (Nat.toDigits_ne_nil (n := i.natAbs) (b := 10))
    have hdigit : isDigit d = true :=
      isDigit_of_mem_toDigits (n := i.natAbs) (by rw [hds]; exact .head _)
    simp only [isDigit, decide_eq_true_eq] at hdigit
    rw [List.nil_append, hds, List.cons_append]
    exact readValue_scalar (by omega) (by omega) (by omega)

/-- A list is read where its items are. -/
theorem readValue_list {H : Host} {fuel : Nat} {items : List Value} {rest : List Char}
    (hstarts : Starts (dumpsItems items))
    (hread : readItems H fuel (dumpsItems items ++ ']' :: rest) = .ok (items, rest)) :
    readValue H (fuel + 1) ((Value.list items).dumps ++ rest) = .ok (.list items, rest) := by
  have htext : (Value.list items).dumps ++ rest = '[' :: (dumpsItems items ++ ']' :: rest) := by
    simp [Value.dumps]
  have hbracket : ¬ ('[' : Char).toNat = 34 ∧ ('[' : Char).toNat = 91 := by decide
  have hhead : (dumpsItems items ++ ']' :: rest).head? ≠ some ']' := by
    obtain ⟨c, cs, hcs, -, hc⟩ := hstarts
    rw [hcs]
    exact fun h => hc (Option.some.inj h)
  rw [htext, readValue, if_neg hbracket.1, if_pos hbracket.2, hstarts.skipSpace, if_neg hhead, hread]
  rfl

/-- An object with members is read where its members are. -/
theorem readValue_dict {H : Host} {fuel : Nat} {entries : List (List Nat × Value)}
    {rest : List Char} (hne : entries ≠ []) (hnd : (entries.map (·.1)).Nodup)
    (hread : readMembers H fuel (dumpsEntries entries ++ Char.ofNat 125 :: rest) =
      .ok (entries, rest)) :
    readValue H (fuel + 1) ((Value.dict entries).dumps ++ rest) = .ok (.dict entries, rest) := by
  have htext : (Value.dict entries).dumps ++ rest =
      Char.ofNat 123 :: (dumpsEntries entries ++ Char.ofNat 125 :: rest) := by
    simp [Value.dumps]
  have hbrace : ¬ (Char.ofNat 123).toNat = 34 ∧ ¬ (Char.ofNat 123).toNat = 91 ∧
      (Char.ofNat 123).toNat = 123 := by decide
  obtain ⟨cs, hcs⟩ := starts_dumpsEntries hne
  have hstarts : Starts (dumpsEntries entries) := ⟨_, cs, hcs, by decide, by decide⟩
  have hhead : (dumpsEntries entries ++ Char.ofNat 125 :: rest).head?.map Char.toNat ≠
      some 125 := by
    rw [hcs]
    exact fun h => absurd (Option.some.inj h) (by decide)
  rw [htext, readValue, if_neg hbrace.1, if_neg hbrace.2.1, if_pos hbrace.2.2, hstarts.skipSpace,
    if_neg hhead, hread]
  exact congrArg (fun es => Except.ok (Value.dict es, rest)) (dictOf_of_nodup hnd)

/-- **Every plain value is read back.** -/
theorem Plain.reads {H : Host} {v : Value} (h : Plain H v) : Reads H v := by
  induction h with
  | null =>
    refine ⟨1, fun fuel hfuel rest _ => ?_⟩
    obtain ⟨fuel, rfl⟩ := Nat.exists_eq_add_of_le' hfuel
    rfl
  | bool b =>
    refine ⟨1, fun fuel hfuel rest _ => ?_⟩
    obtain ⟨fuel, rfl⟩ := Nat.exists_eq_add_of_le' hfuel
    cases b <;> rfl
  | int i hdigits =>
    refine ⟨1, fun fuel hfuel rest hrest => ?_⟩
    obtain ⟨fuel, rfl⟩ := Nat.exists_eq_add_of_le' hfuel
    exact readValue_writeInt.trans (readScalar_writeInt hdigits hrest)
  | str s hs =>
    refine ⟨1, fun fuel hfuel rest _ => ?_⟩
    obtain ⟨fuel, rfl⟩ := Nat.exists_eq_add_of_le' hfuel
    have hquote : (Char.ofNat 34).toNat = 34 := rfl
    simp only [Value.dumps, quoted, List.cons_append, List.append_assoc, List.nil_append, readValue,
      hquote, if_true, readString_quoted hs]
    rfl
  | list items hplain ih =>
    by_cases hne : items = []
    · subst hne
      refine ⟨1, fun fuel hfuel rest _ => ?_⟩
      obtain ⟨fuel, rfl⟩ := Nat.exists_eq_add_of_le' hfuel
      rfl
    · obtain ⟨n, hn⟩ := readItems_dumpsItems hne hplain ih
      refine ⟨n + 1, fun fuel hfuel rest _ => ?_⟩
      obtain ⟨fuel, rfl⟩ := Nat.exists_eq_add_of_le' hfuel
      exact readValue_list (starts_dumpsItems hne hplain) (hn (fuel + n) (by omega) rest)
  | dict entries hnd hkeys hplain ih =>
    by_cases hne : entries = []
    · subst hne
      refine ⟨1, fun fuel hfuel rest _ => ?_⟩
      obtain ⟨fuel, rfl⟩ := Nat.exists_eq_add_of_le' hfuel
      rfl
    · obtain ⟨n, hn⟩ := readMembers_dumpsEntries hne hkeys hplain ih
      refine ⟨n + 1, fun fuel hfuel rest _ => ?_⟩
      obtain ⟨fuel, rfl⟩ := Nat.exists_eq_add_of_le' hfuel
      exact readValue_dict hne hnd (hn (fuel + n) (by omega) rest)

/-- **The reader undoes the writer.** -/
theorem loads_dumps {H : Host} {v : Value} (h : Plain H v) : loads H v.dumps = .ok v := by
  obtain ⟨n, hn⟩ := h.reads
  have hspace := h.starts.skipSpace []
  rw [List.append_nil] at hspace
  have hread := hn (max n (2 * v.dumps.length + 1)) (le_max_left _ _) [] (by simp [Ends])
  rw [List.append_nil, readValue_fuel (le_max_right _ _)] at hread
  unfold loads
  rw [hspace, hread]
  rfl

end JsonText
