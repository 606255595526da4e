import Mathlib.Data.List.Chain
import LawFirmDigitalTwin.Lib.JsonCanonical

/-!
# The strict grammar of JSON

The texts of JSON in the narrow sense (`IsJson`): no words besides `null`, `true` and `false`, and
of every object the names as a given condition wants them. The reader of `JsonText` takes more; what
it took, written again under sorted names, is in the grammar exactly when no word such as `NaN`
stands outside of its string literals (`Loaded.isJson_dumps_iff`).
-/

namespace JsonText

/-! ## Strings and numbers -/

/-- A string literal, and the string that it stands for. -/
def IsString (s : List Nat) (text : List Char) : Prop :=
  ∃ ps t, Literal ps t ∧ joinPieces ps = s ∧ text = Char.ofNat 34 :: t ++ [Char.ofNat 34]

/-- Some digits, at least one. -/
def IsDigits (ds : List Char) : Prop := ds ≠ [] ∧ ∀ c ∈ ds, isDigit c = true

/-- A number: nothing follows a leading zero, and digits stand on both sides of the point. -/
inductive IsNumber : List Char → Prop
  | mk (sign digits fraction exponent : List Char) (hsign : sign = [] ∨ sign = ['-'])
      (hdigits : IsDigits digits) (hzero : digits.head? = some '0' → digits = ['0'])
      (hfraction : fraction = [] ∨ ∃ ds, IsDigits ds ∧ fraction = '.' :: ds)
      (hexponent : exponent = [] ∨ ∃ e mark ds, (e = 'e' ∨ e = 'E') ∧
        (mark = [] ∨ mark = ['+'] ∨ mark = ['-']) ∧ IsDigits ds ∧ exponent = e :: mark ++ ds) :
      IsNumber (sign ++ digits ++ fraction ++ exponent)

/-! ## Values -/

/-- A text of space only. -/
def Blank (t : List Char) : Prop := ∀ c ∈ t, isSpace c = true

/-- A member of an object: its name, the literal of the name with the space around it, and the text
of the value. -/
structure Member where
  name : List Nat
  before : List Char
  literal : List Char
  after : List Char
  value : List Char

def Member.text (m : Member) : List Char := m.before ++ m.literal ++ m.after ++ ':' :: m.value

/-- The text of one value in the grammar, with the space around it. The names of every object, in
their order, meet `names`. -/
inductive IsJson (names : List (List Nat) → Prop) : List Char → Prop
  | null : IsJson names "null".toList
  | true : IsJson names "true".toList
  | false : IsJson names "false".toList
  | number (t : List Char) (number : IsNumber t) : IsJson names t
  | string (s : List Nat) (t : List Char) (string : IsString s t) : IsJson names t
  | emptyArray (space : List Char) (blank : Blank space) : IsJson names ('[' :: space ++ [']'])
  | array (items : List (List Char)) (ne : items ≠ []) (each : ∀ t ∈ items, IsJson names t) :
      IsJson names ('[' :: List.intercalate [','] items ++ [']'])
  | emptyObject (space : List Char) (blank : Blank space) :
      IsJson names (Char.ofNat 123 :: space ++ [Char.ofNat 125])
  | object (members : List Member) (ne : members ≠ []) (sorted : names (members.map Member.name))
      (before : ∀ m ∈ members, Blank m.before) (after : ∀ m ∈ members, Blank m.after)
      (literal : ∀ m ∈ members, IsString m.name m.literal)
      (value : ∀ m ∈ members, IsJson names m.value) :
      IsJson names
        (Char.ofNat 123 :: List.intercalate [','] (members.map Member.text) ++ [Char.ofNat 125])
  | spaced (before t after : List Char) (hbefore : Blank before) (value : IsJson names t)
      (hafter : Blank after) : IsJson names (before ++ t ++ after)

/-- The text of one object. -/
def IsObject (names : List (List Nat) → Prop) (text : List Char) : Prop :=
  IsJson names text ∧ (skipSpace text).head? = some (Char.ofNat 123)

/-! ## What stands outside of the string literals -/

mutual

/-- The characters of a text that stand outside of its string literals. -/
def bare : List Char → List Char
  | [] => []
  | c :: rest => if c.toNat = 34 then bareAfter rest else c :: bare rest

/-- Those of a text that starts within a string literal. -/
def bareAfter : List Char → List Char
  | [] => []
  | c :: rest =>
    if c.toNat = 34 then bare rest
    else if c.toNat = 92 then
      match rest with
      | [] => []
      | _ :: rest => bareAfter rest
    else bareAfter rest

end

/-- The text leaves `b` outside of its string literals, and ends outside of them. -/
def Bare (t b : List Char) : Prop := ∀ rest, bare (t ++ rest) = b ++ bare rest

/-- No capital letter that only starts `NaN` or `Infinity`. -/
def Wordless (b : List Char) : Prop := ∀ c ∈ b, c ≠ 'N' ∧ c ≠ 'I'

instance decidableWordless (b : List Char) : Decidable (Wordless b) :=
  decidable_of_iff (b.all fun c => decide (c ≠ 'N' ∧ c ≠ 'I'))
    (by simp only [List.all_eq_true, decide_eq_true_eq, Wordless])

/-- What two texts leave outside, one after the other. -/
theorem Bare.append {t t' b b' : List Char} (h : Bare t b) (h' : Bare t' b') :
    Bare (t ++ t') (b ++ b') := by
  intro rest
  rw [List.append_assoc, h, h', List.append_assoc]

/-- A decidable form of having no quote. -/
theorem quoteless_of_all {t : List Char} (h : (t.all fun c => decide (c.toNat ≠ 34)) = true) :
    ∀ c ∈ t, c.toNat ≠ 34 := fun c hc => of_decide_eq_true (List.all_eq_true.1 h c hc)

/-- A text without quotes is all outside. -/
theorem Bare.self {t : List Char} (h : ∀ c ∈ t, c.toNat ≠ 34) : Bare t t := by
  induction t with
  | nil => exact fun rest => rfl
  | cons c t ih =>
    intro rest
    rw [List.cons_append, bare, if_neg (h c (.head _)), ih fun c' hc' => h c' (.tail _ hc')]
    rfl

/-- An empty text leaves nothing outside. -/
theorem Bare.nil : Bare [] [] := fun _ => rfl

/-- What a text by itself leaves outside. -/
theorem Bare.bare_eq {t b : List Char} (h : Bare t b) : bare t = b := by
  have hnil := h []
  rwa [List.append_nil, bare, List.append_nil] at hnil

/-- Texts without the letters have none together. -/
theorem Wordless.append {b b' : List Char} (h : Wordless b) (h' : Wordless b') :
    Wordless (b ++ b') := fun c hc => (List.mem_append.1 hc).elim (h c) (h' c)

/-- Parts of a text without the letters have none. -/
theorem Wordless.of_append {b b' : List Char} (h : Wordless (b ++ b')) : Wordless b ∧ Wordless b' :=
  ⟨fun c hc => h c (List.mem_append_left _ hc), fun c hc => h c (List.mem_append_right _ hc)⟩

/-! ## Nothing in the grammar names a word -/

/-- An unescaped character does not end a literal. -/
theorem bareAfter_plain {c : Char} (h : Unescaped c) (t : List Char) :
    bareAfter (c :: t) = bareAfter t := by
  rw [bareAfter.eq_def]
  simp only [h.2.1, h.2.2, if_false]

/-- Nor does what follows a backslash. -/
theorem bareAfter_escape (e : Char) (t : List Char) :
    bareAfter ('\\' :: e :: t) = bareAfter t := by
  have hslash : ¬ ('\\' : Char).toNat = 34 ∧ ('\\' : Char).toNat = 92 := by decide
  rw [bareAfter.eq_def]
  simp only
  rw [if_neg hslash.1, if_pos hslash.2]

/-- A hexadecimal digit stands for itself in a literal. -/
theorem unescaped_of_hexValue? {c : Char} {n : Nat} (h : hexValue? c = some n) : Unescaped c := by
  unfold hexValue? at h
  unfold Unescaped
  simp only at h
  split at h
  · omega
  split at h
  · omega
  split at h
  · omega
  · cases h

/-- The digits of an escaped unit stand for themselves in a literal. -/
theorem hexUnit?_eq_some {a b c d : Char} {n : Nat} (h : hexUnit? a b c d = some n) :
    Unescaped a ∧ Unescaped b ∧ Unescaped c ∧ Unescaped d := by
  simp only [hexUnit?, Option.bind_eq_bind, Option.bind_eq_some_iff] at h
  obtain ⟨_, ha, _, hb, _, hc, _, hd, -⟩ := h
  exact ⟨unescaped_of_hexValue? ha, unescaped_of_hexValue? hb, unescaped_of_hexValue? hc,
    unescaped_of_hexValue? hd⟩

/-- The inside of a literal leaves nothing outside. -/
theorem Literal.bareAfter {ps : List Piece} {t : List Char} (h : Literal ps t) (rest : List Char) :
    JsonText.bareAfter (t ++ rest) = JsonText.bareAfter rest := by
  induction h with
  | nil => rfl
  | plain c ps t unescaped _ ih => rw [List.cons_append, bareAfter_plain unescaped, ih]
  | simple e n ps t _ _ ih => rw [List.cons_append, List.cons_append, bareAfter_escape, ih]
  | unicode a b c d n ps t digits _ ih =>
    obtain ⟨ha, hb, hc, hd⟩ := hexUnit?_eq_some digits
    simp only [List.cons_append]
    rw [bareAfter_escape, bareAfter_plain ha, bareAfter_plain hb, bareAfter_plain hc,
      bareAfter_plain hd, ih]

/-- **Nothing of a string literal is outside of it.** -/
theorem IsString.bare {s : List Nat} {text : List Char} (h : IsString s text) : Bare text [] := by
  obtain ⟨ps, t, hliteral, -, rfl⟩ := h
  have hquote : (Char.ofNat 34).toNat = 34 := rfl
  intro rest
  rw [List.cons_append, List.cons_append, List.append_assoc, JsonText.bare, if_pos hquote,
    hliteral.bareAfter, List.singleton_append, JsonText.bareAfter.eq_def]
  rfl

/-- A text that leaves no word outside. -/
def Clean (t : List Char) : Prop := ∃ b, Bare t b ∧ Wordless b

/-- Clean texts are clean together. -/
theorem Clean.append {t t' : List Char} (h : Clean t) (h' : Clean t') : Clean (t ++ t') := by
  obtain ⟨b, hb, hw⟩ := h
  obtain ⟨b', hb', hw'⟩ := h'
  exact ⟨_, hb.append hb', hw.append hw'⟩

/-- A text without quotes is clean where it has none of the letters. -/
theorem Clean.self {t : List Char} (h : ∀ c ∈ t, c.toNat ≠ 34) (hw : Wordless t) : Clean t :=
  ⟨t, .self h, hw⟩

/-- A mark of the grammar. -/
theorem Clean.mark {c : Char} (h : c.toNat ≠ 34 ∧ c ≠ 'N' ∧ c ≠ 'I') : Clean [c] :=
  .self (List.forall_mem_singleton.2 h.1) (List.forall_mem_singleton.2 h.2)

/-- A string literal is clean, whatever it holds. -/
theorem IsString.clean {s : List Nat} {t : List Char} (h : IsString s t) : Clean t :=
  ⟨[], h.bare, List.forall_mem_nil _⟩

/-- Clean texts are clean with commas between them. -/
theorem Clean.intercalate {ts : List (List Char)} (h : ∀ t ∈ ts, Clean t) :
    Clean (List.intercalate [','] ts) := by
  have hcomma : Clean [','] := .mark (by decide)
  induction ts with
  | nil => exact ⟨[], .nil, List.forall_mem_nil _⟩
  | cons t ts ih =>
    cases ts with
    | nil => simpa using h t (.head _)
    | cons t' ts =>
      rw [List.intercalate_cons_cons]
      exact ((h t (.head _)).append hcomma).append (ih fun t ht => h t (.tail _ ht))

/-- Digits are clean. -/
theorem clean_of_isDigit {ds : List Char} (h : ∀ c ∈ ds, isDigit c = true) : Clean ds := by
  refine .self (fun c hc => ?_) fun c hc => ?_
  · have hdigit := h c hc
    simp only [isDigit, decide_eq_true_eq] at hdigit
    omega
  · refine ⟨?_, ?_⟩
    · rintro rfl
      exact absurd (h _ hc) (by decide)
    · rintro rfl
      exact absurd (h _ hc) (by decide)

/-- A number is clean. -/
theorem IsNumber.clean {t : List Char} (h : IsNumber t) : Clean t := by
  have hnil : Clean [] := ⟨[], .nil, List.forall_mem_nil _⟩
  obtain ⟨sign, digits, fraction, exponent, hsign, hdigits, -, hfraction, hexponent⟩ := h
  refine ((Clean.append ?_ (clean_of_isDigit hdigits.2)).append ?_).append ?_
  · rcases hsign with rfl | rfl
    · exact hnil
    · exact .mark (by decide)
  · rcases hfraction with rfl | ⟨ds, hds, rfl⟩
    · exact hnil
    · exact (Clean.mark (c := '.') (by decide)).append (clean_of_isDigit hds.2)
  · rcases hexponent with rfl | ⟨e, mark, ds, he, hmark, hds, rfl⟩
    · exact hnil
    · refine ((Clean.mark (c := e) ?_).append ?_).append (clean_of_isDigit hds.2)
      · rcases he with rfl | rfl
        · decide
        · decide
      · rcases hmark with rfl | rfl | rfl
        · exact hnil
        · exact .mark (by decide)
        · exact .mark (by decide)

/-- Space is clean. -/
theorem Blank.clean {t : List Char} (h : Blank t) : Clean t := by
  refine .self (fun c hc => ?_) fun c hc => ⟨?_, ?_⟩
  · have hspace := h c hc
    simp only [isSpace, decide_eq_true_eq] at hspace
    omega
  · rintro rfl
    exact absurd (h _ hc) (by decide)
  · rintro rfl
    exact absurd (h _ hc) (by decide)

/-- **A text of the grammar names no word** outside of its string literals. -/
theorem IsJson.clean {names : List (List Nat) → Prop} {t : List Char} (h : IsJson names t) :
    Clean t := by
  have hopen : Clean ['['] := .mark (by decide)
  have hclose : Clean [']'] := .mark (by decide)
  have hopen' : Clean [Char.ofNat 123] := .mark (by decide)
  have hclose' : Clean [Char.ofNat 125] := .mark (by decide)
  induction h with
  | null | true | false => exact .self (quoteless_of_all rfl) (by decide)
  | number t number => exact number.clean
  | string s t string => exact string.clean
  | emptyArray space blank => exact (hopen.append blank.clean).append hclose
  | array items ne each ih => exact (hopen.append (.intercalate ih)).append hclose
  | emptyObject space blank => exact (hopen'.append blank.clean).append hclose'
  | object members ne sorted before after literal value ih =>
    refine (hopen'.append (.intercalate ?_)).append hclose'
    rw [List.forall_mem_map]
    intro m hm
    have hcolon : Clean [':'] := .mark (by decide)
    exact (((before m hm).clean.append (literal m hm).clean).append (after m hm).clean).append
      (hcolon.append (ih m hm))
  | spaced before t after hbefore value hafter ih =>
    exact (hbefore.clean.append ih).append hafter.clean

/-! ## Strings as they are read -/

/-- What a literal can hold: a character, or a 16-bit unit. -/
def Piece.Valid : Piece → Prop
  | .point n => Scalar n
  | .unit n => n < 0x10000

/-- The code point of a character is no half of a surrogate pair. -/
theorem scalar_toNat (c : Char) : Scalar c.toNat := by
  rcases c.valid with h | h
  · exact .inl h
  · exact .inr ⟨h.1, h.2⟩

/-- A simple escape stands for a character. -/
theorem scalar_of_simpleEscape? {e : Char} {n : Nat} (h : simpleEscape? e = some n) : Scalar n := by
  have hall : ∀ p ∈ [(34, 34), (92, 92), (47, 47), (98, 8), (102, 12), (110, 10), (114, 13),
      (116, 9)], p.2 < 0xd800 := by decide
  obtain ⟨before, after, hlist, -⟩ := List.lookup_eq_some_iff.1 h
  refine .inl (hall (e.toNat, n) ?_)
  rw [hlist]
  exact List.mem_append_right _ (.head _)

/-- A hexadecimal digit has a value below 16. -/
theorem hexValue?_lt {c : Char} {n : Nat} (h : hexValue? c = some n) : n < 16 := by
  unfold hexValue? at h
  simp only at h
  split at h
  · cases h
    omega
  split at h
  · cases h
    omega
  split at h
  · cases h
    omega
  · cases h

/-- An escaped unit has 16 bits. -/
theorem hexUnit?_lt {a b c d : Char} {n : Nat} (h : hexUnit? a b c d = some n) : n < 0x10000 := by
  simp only [hexUnit?, Option.bind_eq_bind, Option.bind_eq_some_iff] at h
  obtain ⟨na, ha, nb, hb, nc, hc, nd, hd, hn⟩ := h
  have ha := hexValue?_lt ha
  have hb := hexValue?_lt hb
  have hc := hexValue?_lt hc
  have hd := hexValue?_lt hd
  have hn : 4096 * na + 256 * nb + 16 * nc + nd = n := Option.some.inj hn
  omega

/-- The pieces of a literal are characters and units. -/
theorem Literal.valid {ps : List Piece} {t : List Char} (h : Literal ps t) : ∀ p ∈ ps, p.Valid := by
  induction h with
  | nil => exact List.forall_mem_nil _
  | plain c ps t _ _ ih => exact List.forall_mem_cons.2 ⟨scalar_toNat c, ih⟩
  | simple e n ps t letter _ ih => exact List.forall_mem_cons.2 ⟨scalar_of_simpleEscape? letter, ih⟩
  | unicode a b c d n ps t digits _ ih => exact List.forall_mem_cons.2 ⟨hexUnit?_lt digits, ih⟩

/-- A unit before other pieces: it stays the first code point, or is the first half of it. -/
theorem head?_joinPieces_unit {n m : Nat} {rest : List Piece}
    (h : m ∈ (joinPieces (.unit n :: rest)).head?) : m = n ∨ 0x10000 ≤ m := by
  unfold joinPieces at h
  split at h
  · split at h
    · rw [List.head?_cons, Option.mem_some_iff] at h
      omega
    · exact .inl (Option.mem_some_iff.1 h).symm
  · exact .inl (Option.mem_some_iff.1 h).symm

/-- **The reader joins every pair.** -/
theorem joined_joinPieces {ps : List Piece} (h : ∀ p ∈ ps, p.Valid) : Joined (joinPieces ps) := by
  fun_induction joinPieces ps with
  | case1 => exact ⟨List.forall_mem_nil _, .nil⟩
  | case2 n rest ih =>
    obtain ⟨hn, hrest⟩ := List.forall_mem_cons.1 h
    have hn : Scalar n := hn
    unfold Scalar at hn
    have ih := ih hrest
    refine ⟨List.forall_mem_cons.2 ⟨by omega, ih.points⟩, List.isChain_cons.2 ⟨?_, ih.pairs⟩⟩
    intro k _
    omega
  | case3 n k rest hpair ih =>
    have ih := ih fun p hp => h p (.tail _ (.tail _ hp))
    refine ⟨List.forall_mem_cons.2 ⟨by omega, ih.points⟩, List.isChain_cons.2 ⟨?_, ih.pairs⟩⟩
    intro m _
    omega
  | case4 n k rest hpair ih =>
    obtain ⟨hn, hrest⟩ := List.forall_mem_cons.1 h
    have hn : n < 0x10000 := hn
    have ih := ih hrest
    refine ⟨List.forall_mem_cons.2 ⟨by omega, ih.points⟩, List.isChain_cons.2 ⟨?_, ih.pairs⟩⟩
    intro m hm
    rcases head?_joinPieces_unit hm with rfl | hm
    · exact hpair
    · omega
  | case5 n rest hunit ih =>
    obtain ⟨hn, hrest⟩ := List.forall_mem_cons.1 h
    have hn : n < 0x10000 := hn
    have ih := ih hrest
    refine ⟨List.forall_mem_cons.2 ⟨by omega, ih.points⟩, List.isChain_cons.2 ⟨?_, ih.pairs⟩⟩
    intro m hm
    -- what follows is a character
    match rest, hrest, hunit, hm with
    | [], _, _, hm => cases hm
    | .point k :: rest, hrest, _, hm =>
      have hk : Scalar k := hrest _ (.head _)
      cases hm
      unfold Scalar at hk
      omega
    | .unit k :: rest, _, hunit, _ => exact absurd rfl (hunit k rest)

/-- What the reader takes for the pieces of a literal is one. -/
theorem literal_of_readPieces {text : List Char} {r : List Piece × List Char}
    (h : readPieces text = .ok r) : ∃ t, Literal r.1 t := by
  fun_induction readPieces text generalizing r with
  | case1 => cases h
  | case2 c rest hquote =>
    cases h
    exact ⟨[], .nil⟩
  | case3 => cases h
  | case4 => cases h
  | case5 c hquote hslash e a b c' d rest hu n hunit ih =>
    obtain ⟨r', hr', rfl⟩ := map_eq_ok.1 h
    obtain ⟨t, ht⟩ := ih hr'
    exact ⟨_, .unicode _ _ _ _ _ _ _ ‹_› ht⟩
  | case6 => cases h
  | case7 => cases h
  | case8 c hquote hslash e rest hu n hn ih =>
    obtain ⟨r', hr', rfl⟩ := map_eq_ok.1 h
    obtain ⟨t, ht⟩ := ih hr'
    exact ⟨_, .simple e _ _ _ hn ht⟩
  | case9 => cases h
  | case10 c rest hquote hslash hcontrol ih =>
    obtain ⟨r', hr', rfl⟩ := map_eq_ok.1 h
    obtain ⟨t, ht⟩ := ih hr'
    exact ⟨_, .plain c _ _ ⟨Nat.not_lt.1 hcontrol, hquote, hslash⟩ ht⟩

/-- **What is read of a string literal** is a string that its own literal stands for. -/
theorem joined_of_readString {text : List Char} {r : List Nat × List Char}
    (h : readString text = .ok r) : Joined r.1 := by
  obtain ⟨r', hr', rfl⟩ := map_eq_ok.1 h
  obtain ⟨t, ht⟩ := literal_of_readPieces hr'
  exact joined_joinPieces ht.valid

/-- A string as it is read is written as a literal of it. -/
theorem isString_quoted {s : List Nat} (h : Joined s) : IsString s (quoted s) :=
  ⟨_, _, literal_flatMap h.points, joinPieces_flatMap h, rfl⟩

/-! ## Numbers as they are read -/

/-- The digits at the front of a text, where there are some. -/
theorem isDigits_takeWhile {text : List Char} (h : text.takeWhile isDigit ≠ []) :
    IsDigits (text.takeWhile isDigit) := ⟨h, fun _ hc => List.mem_takeWhile_imp hc⟩

/-- The integer part of a number: nothing follows a leading zero. -/
theorem isDigits_integerOf {text : List Char} (h : integerOf text ≠ []) :
    IsDigits (integerOf text) ∧ ((integerOf text).head? = some '0' → integerOf text = ['0']) := by
  unfold integerOf at h ⊢
  split
  · exact ⟨⟨List.cons_ne_nil _ _, List.forall_mem_singleton.2 rfl⟩, fun _ => rfl⟩
  · next hzero =>
    rw [if_neg hzero] at h
    refine ⟨isDigits_takeWhile h, fun hhead => absurd ?_ hzero⟩
    cases text with
    | nil => exact absurd rfl h
    | cons c text =>
      rw [List.takeWhile_cons] at hhead
      split at hhead
      · exact hhead
      · cases hhead

/-- A fraction has a digit after its point, or there is none. -/
theorem fractionOf_cases (text : List Char) :
    fractionOf text = [] ∨ ∃ ds, IsDigits ds ∧ fractionOf text = '.' :: ds := by
  unfold fractionOf
  split
  · next c more =>
    simp only
    split
    · next h =>
      obtain ⟨rfl, hds⟩ := h
      exact .inr ⟨_, isDigits_takeWhile hds, rfl⟩
    · exact .inl rfl
  · exact .inl rfl

/-- An exponent has its letter, perhaps a sign, and digits, or there is none. -/
theorem exponentOf_cases (text : List Char) :
    exponentOf text = [] ∨ ∃ e mark ds, (e = 'e' ∨ e = 'E') ∧
      (mark = [] ∨ mark = ['+'] ∨ mark = ['-']) ∧ IsDigits ds ∧
        exponentOf text = e :: mark ++ ds := by
  cases text with
  | nil => exact .inl rfl
  | cons c more =>
    have hmark : ∀ mark ds : List Char, (mark = [] ∨ mark = ['+'] ∨ mark = ['-']) →
        ds = (more.drop mark.length).takeWhile isDigit →
        ∀ t, t = (if (c = 'e' ∨ c = 'E') ∧ ds ≠ [] then c :: mark ++ ds else []) →
          t = [] ∨ ∃ e mark ds, (e = 'e' ∨ e = 'E') ∧ (mark = [] ∨ mark = ['+'] ∨ mark = ['-']) ∧
            IsDigits ds ∧ t = e :: mark ++ ds := by
      rintro mark ds hmark rfl t rfl
      split
      · next h => exact .inr ⟨c, mark, _, h.1, hmark, isDigits_takeWhile h.2, rfl⟩
      · exact .inl rfl
    refine hmark _ _ ?_ rfl _ rfl
    split
    · exact .inr (.inl rfl)
    · exact .inr (.inr rfl)
    · exact .inl rfl

/-- An integer is written as a number. -/
theorem isNumber_writeInt (i : Int) : IsNumber (writeInt i) := by
  have hdigits : IsDigits (Nat.toDigits 10 i.natAbs) :=
    ⟨Nat.toDigits_ne_nil, fun _ hc => isDigit_of_mem_toDigits hc⟩
  have hzero : (Nat.toDigits 10 i.natAbs).head? = some '0' → Nat.toDigits 10 i.natAbs = ['0'] := by
    intro h
    rcases Nat.eq_zero_or_pos i.natAbs with hi | hi
    · rw [hi]
      rfl
    · exact absurd h (head?_toDigits hi)
  have hsign : (if i < 0 then ['-'] else []) = [] ∨ (if i < 0 then ['-'] else []) = ['-'] := by
    split
    · exact .inr rfl
    · exact .inl rfl
  have hnumber := IsNumber.mk _ _ [] [] hsign hdigits hzero (.inl rfl) (.inl rfl)
  rwa [List.append_nil, List.append_nil] at hnumber

/-- A word for a number that JSON does not have. -/
def Word (t : List Char) : Prop :=
  t = "NaN".toList ∨ t = "Infinity".toList ∨ t = "-Infinity".toList

/-- What the language writes for a float that was read of a number: a number, or that it is too
large. -/
def WritesFloats (H : Host) : Prop :=
  ∀ t, IsNumber t → IsNumber (H.floatRepr t) ∨ Word (H.floatRepr t)

/-! ## Values as they are read -/

/-- A value as the reader gives it, whose names meet `names`. -/
inductive Loaded (names : List (List Nat) → Prop) : Value → Prop
  | null : Loaded names .null
  | bool (b : Bool) : Loaded names (.bool b)
  | int (i : Int) : Loaded names (.int i)
  | float (r : List Char) (float : IsNumber r ∨ Word r) : Loaded names (.float r)
  | str (s : List Nat) (joined : Joined s) : Loaded names (.str s)
  | list (items : List Value) (loaded : ∀ v ∈ items, Loaded names v) : Loaded names (.list items)
  | dict (entries : List (List Nat × Value)) (sorted : names (entries.map (·.1)))
      (joined : ∀ e ∈ entries, Joined e.1) (loaded : ∀ e ∈ entries, Loaded names e.2) :
      Loaded names (.dict entries)

/-- A number is read as a value of the grammar. -/
theorem loaded_of_readNumber {H : Host} (hH : WritesFloats H) {names : List (List Nat) → Prop}
    {text : List Char} {r : Value × List Char} (h : readNumber H text = .ok r) :
    Loaded names r.1 := by
  unfold readNumber at h
  simp only at h
  split at h
  · cases h
  next hdigits =>
  split at h
  · split at h
    · cases h
    · rw [← Except.ok.inj h]
      exact .int _
  · rw [← Except.ok.inj h]
    refine .float _ (hH _ ?_)
    have hsign : signOf text = [] ∨ signOf text = ['-'] := by
      unfold signOf
      split
      · exact .inr rfl
      · exact .inl rfl
    obtain ⟨hdigits, hzero⟩ := isDigits_integerOf hdigits
    exact .mk _ _ _ _ hsign hdigits hzero (fractionOf_cases _) (exponentOf_cases _)

/-- A word or a number is read as a value of the grammar. -/
theorem loaded_of_readScalar {H : Host} (hH : WritesFloats H) {names : List (List Nat) → Prop}
    {text : List Char} {r : Value × List Char} (h : readScalar H text = .ok r) :
    Loaded names r.1 := by
  unfold readScalar at h
  split at h
  · next w hw =>
    have hwords : ∀ w ∈ words, Loaded names w.2 := by
      simp only [words, List.forall_mem_cons, List.not_mem_nil, false_implies, implies_true, and_true]
      exact ⟨.null, .bool _, .bool _, .float _ (.inr (.inl rfl)), .float _ (.inr (.inr (.inl rfl))),
        .float _ (.inr (.inr (.inr rfl)))⟩
    rw [← Except.ok.inj h]
    exact hwords w (List.mem_of_find?_eq_some hw)
  · exact loaded_of_readNumber hH h

/-- The name of a member is a string as it is read. -/
theorem joined_of_readName {text : List Char} {r : List Nat × List Char}
    (h : readName text = .ok r) : Joined r.1 := by
  unfold readName at h
  split at h
  · cases h
  split at h
  · split at h
    · cases h
    next key rest hstring =>
    have hkey := joined_of_readString hstring
    split at h
    · cases h
      exact hkey
    · cases h
  · cases h

/-! ## Dictionaries -/

/-- An entry that is set, or one that was there. -/
theorem mem_setEntry {entries : List (List Nat × Value)} {e e' : List Nat × Value}
    (h : e' ∈ setEntry entries e) : e' = e ∨ e' ∈ entries := by
  unfold setEntry at h
  split at h
  · obtain ⟨e₀, he₀, rfl⟩ := List.mem_map.1 h
    split
    · exact .inl rfl
    · exact .inr he₀
  · rcases List.mem_append.1 h with h | h
    · exact .inr h
    · exact .inl (List.mem_singleton.1 h)

/-- Setting an entry keeps the names distinct. -/
theorem nodup_setEntry {entries : List (List Nat × Value)} (e : List Nat × Value)
    (h : (entries.map (·.1)).Nodup) : ((setEntry entries e).map (·.1)).Nodup := by
  unfold setEntry
  split
  · rw [List.map_map]
    refine (List.map_congr_left fun e' _ => ?_) ▸ h
    simp only [Function.comp_apply]
    split
    · next heq => exact heq
    · rfl
  · next hnew =>
    rw [List.map_append, List.nodup_append]
    refine ⟨h, List.nodup_singleton _, fun a ha b hb => ?_⟩
    rw [List.map_singleton, List.mem_singleton] at hb
    rintro rfl
    exact hnew (hb ▸ ha)

/-- **A dictionary has every name once**, and only members that were read. -/
theorem dictOf_spec (members : List (List Nat × Value)) :
    ((dictOf members).map (·.1)).Nodup ∧ ∀ e ∈ dictOf members, e ∈ members := by
  have main : ∀ members entries : List (List Nat × Value), (entries.map (·.1)).Nodup →
      ((members.foldl setEntry entries).map (·.1)).Nodup ∧
        ∀ e ∈ members.foldl setEntry entries, e ∈ entries ∨ e ∈ members := by
    intro members
    induction members with
    | nil => exact fun entries h => ⟨h, fun e he => .inl he⟩
    | cons e members ih =>
      intro entries h
      obtain ⟨hnodup, hmem⟩ := ih (setEntry entries e) (nodup_setEntry e h)
      refine ⟨hnodup, fun e' he' => ?_⟩
      rcases hmem e' he' with he' | he'
      · rcases mem_setEntry he' with rfl | he'
        · exact .inr (.head _)
        · exact .inl he'
      · exact .inr (.tail _ he')
  obtain ⟨hnodup, hmem⟩ := main members [] .nil
  exact ⟨hnodup, fun e he => (hmem e he).resolve_left List.not_mem_nil⟩

/-- **Whatever is read is a loaded value**, every name once. -/
theorem loaded_read {H : Host} (hH : WritesFloats H) (fuel : Nat) :
    (∀ text r, readValue H fuel text = .ok r → Loaded List.Nodup r.1) ∧
      (∀ text r, readItems H fuel text = .ok r → ∀ v ∈ r.1, Loaded List.Nodup v) ∧
        ∀ text r, readMembers H fuel text = .ok r →
          ∀ e ∈ r.1, Joined e.1 ∧ Loaded List.Nodup e.2 := by
  induction fuel with
  | zero =>
    refine ⟨fun text r h => ?_, fun text r h => ?_, fun text r h => ?_⟩
    · cases h
    · cases h
    · cases h
  | succ fuel ih =>
    obtain ⟨hvalue, hitems, hmembers⟩ := ih
    refine ⟨fun text r h => ?_, fun text r h => ?_, fun text r h => ?_⟩
    · cases text with
      | nil => cases h
      | cons c rest =>
        rw [readValue] at h
        split at h
        · obtain ⟨r', hr', rfl⟩ := map_eq_ok.1 h
          exact .str _ (joined_of_readString hr')
        split at h
        · split at h
          · rw [← Except.ok.inj h]
            exact .list _ (List.forall_mem_nil _)
          · obtain ⟨r', hr', rfl⟩ := map_eq_ok.1 h
            exact .list _ (hitems _ _ hr')
        split at h
        · split at h
          · rw [← Except.ok.inj h]
            exact .dict _ .nil (List.forall_mem_nil _) (List.forall_mem_nil _)
          · obtain ⟨r', hr', rfl⟩ := map_eq_ok.1 h
            have hr' := hmembers _ _ hr'
            obtain ⟨hnodup, hmem⟩ := dictOf_spec r'.1
            exact .dict _ hnodup (fun e he => (hr' e (hmem e he)).1)
              fun e he => (hr' e (hmem e he)).2
        · exact loaded_of_readScalar hH h
    · rw [readItems] at h
      split at h
      · cases h
      next v rest hv =>
      have hv := hvalue _ _ hv
      split at h
      · cases h
      split at h
      · rw [← Except.ok.inj h]
        exact List.forall_mem_singleton.2 hv
      split at h
      · obtain ⟨r', hr', rfl⟩ := map_eq_ok.1 h
        exact List.forall_mem_cons.2 ⟨hv, hitems _ _ hr'⟩
      · cases h
    · rw [readMembers] at h
      split at h
      · cases h
      next key named hname =>
      have hname := joined_of_readName hname
      split at h
      · cases h
      next v rest hv =>
      have hv := hvalue _ _ hv
      split at h
      · cases h
      split at h
      · rw [← Except.ok.inj h]
        exact List.forall_mem_singleton.2 ⟨hname, hv⟩
      split at h
      · obtain ⟨r', hr', rfl⟩ := map_eq_ok.1 h
        exact List.forall_mem_cons.2 ⟨⟨hname, hv⟩, hmembers _ _ hr'⟩
      · cases h

/-- A text is read as a value whose names are distinct. -/
theorem loaded_loads {H : Host} (hH : WritesFloats H) {text : List Char} {v : Value}
    (h : loads H text = .ok v) : Loaded List.Nodup v := by
  unfold loads at h
  split at h
  · cases h
  next v' rest hread =>
  split at h
  · rw [← Except.ok.inj h]
    exact (loaded_read hH _).1 _ _ hread
  · cases h

/-- The names of an object in strictly ascending order. -/
def Ascending (names : List (List Nat)) : Prop := names.Pairwise (· < ·)

/-- **Canonicalized, a loaded value has its names ascending.** -/
theorem Loaded.canonicalize {v : Value} (h : Loaded List.Nodup v) :
    Loaded Ascending v.canonicalize := by
  induction h with
  | null => exact .null
  | bool b => exact .bool b
  | int i => exact .int i
  | float r float => exact .float r float
  | str s joined => exact .str s joined
  | list items loaded ih =>
    rw [Value.canonicalize, canonicalizeItems_eq_map]
    exact .list _ (List.forall_mem_map.2 ih)
  | dict entries nodup joined loaded ih =>
    rw [Value.canonicalize]
    have hperm := perm_canonicalMembers entries
    refine .dict _ ?_ (fun e he => ?_) fun e he => ?_
    · have hsorted := List.pairwise_map.2 (pairwise_sortKeys (canonicalizeMembers entries))
      have hnodup : ((sortKeys (canonicalizeMembers entries)).map (·.1)).Nodup := by
        rw [(hperm.map _).nodup_iff, List.map_map]
        exact nodup
      exact hsorted.imp₂ (fun _ _ => lt_of_le_of_ne) hnodup
    · obtain ⟨e', he', rfl⟩ := List.mem_map.1 (hperm.mem_iff.1 he)
      exact joined e' he'
    · obtain ⟨e', he', rfl⟩ := List.mem_map.1 (hperm.mem_iff.1 he)
      exact ih e' he'

/-! ## What was read, written again -/

/-- The items of a list are written with commas between them. -/
theorem dumpsItems_eq (items : List Value) :
    dumpsItems items = List.intercalate [','] (items.map Value.dumps) := by
  induction items with
  | nil => rfl
  | cons v items ih =>
    cases items with
    | nil => simp [dumpsItems, List.intercalate]
    | cons v' items =>
      rw [dumpsItems, ih, List.map_cons, List.map_cons, List.map_cons, List.intercalate_cons_cons,
        List.append_assoc]
      · rfl
      · exact List.cons_ne_nil _ _

/-- The members of an object are written with commas between them. -/
theorem dumpsEntries_eq (entries : List (List Nat × Value)) :
    dumpsEntries entries =
      List.intercalate [','] (entries.map fun e => quoted e.1 ++ ':' :: e.2.dumps) := by
  induction entries with
  | nil => rfl
  | cons e entries ih =>
    cases entries with
    | nil => simp [dumpsEntries, List.intercalate]
    | cons e' entries =>
      rw [dumpsEntries, ih, List.map_cons, List.map_cons, List.map_cons,
        List.intercalate_cons_cons, List.append_assoc _ [',']]
      · rfl
      · exact List.cons_ne_nil _ _

/-- Where the text leaves no word outside, `P` holds. -/
def Unless (t : List Char) (P : Prop) : Prop := ∃ b, Bare t b ∧ (Wordless b → P)

/-- A clean text for which the property holds. -/
theorem Clean.unless {t : List Char} {P : Prop} (h : Clean t) (hP : P) : Unless t P := by
  obtain ⟨b, hb, -⟩ := h
  exact ⟨b, hb, fun _ => hP⟩

/-- Two texts one after the other. -/
theorem Unless.append {t t' : List Char} {P P' : Prop} (h : Unless t P) (h' : Unless t' P') :
    Unless (t ++ t') (P ∧ P') := by
  obtain ⟨b, hb, hP⟩ := h
  obtain ⟨b', hb', hP'⟩ := h'
  exact ⟨_, hb.append hb', fun hw => ⟨hP hw.of_append.1, hP' hw.of_append.2⟩⟩

/-- A weaker property. -/
theorem Unless.imp {t : List Char} {P Q : Prop} (h : Unless t P) (hPQ : P → Q) : Unless t Q := by
  obtain ⟨b, hb, hP⟩ := h
  exact ⟨b, hb, fun hw => hPQ (hP hw)⟩

/-- Texts with commas between them. -/
theorem Unless.intercalate {α : Type} {f : α → List Char} {P : α → Prop} {as : List α}
    (h : ∀ a ∈ as, Unless (f a) (P a)) :
    Unless (List.intercalate [','] (as.map f)) (∀ a ∈ as, P a) := by
  have hcomma : Unless [','] True := (Clean.mark (by decide)).unless trivial
  induction as with
  | nil => exact ⟨[], .nil, fun _ => List.forall_mem_nil _⟩
  | cons a as ih =>
    have ha := h a (.head _)
    cases as with
    | nil => simpa using ha
    | cons a' as =>
      rw [List.map_cons, List.map_cons, List.intercalate_cons_cons]
      refine ((ha.append hcomma).append (ih fun a ha => h a (.tail _ ha))).imp ?_
      exact fun h => List.forall_mem_cons.2 ⟨h.1.1, h.2⟩

/-- What a float is written as is a value, or a word that stands outside. -/
theorem Loaded.float_unless {names : List (List Nat) → Prop} {r : List Char}
    (h : IsNumber r ∨ Word r) : Unless r (IsJson names r) := by
  rcases h with h | h
  · exact h.clean.unless (.number r h)
  · -- the word itself stands outside
    have hword : (∀ c ∈ r, c.toNat ≠ 34) ∧ ¬ Wordless r := by
      rcases h with rfl | rfl | rfl
      · exact ⟨quoteless_of_all rfl, by decide⟩
      · exact ⟨quoteless_of_all rfl, by decide⟩
      · exact ⟨quoteless_of_all rfl, by decide⟩
    exact ⟨r, .self hword.1, fun hw => absurd hw hword.2⟩

/-- **A loaded value is written in the grammar**, unless a word stands outside of the string
literals of its text. -/
theorem Loaded.dumps_unless {names : List (List Nat) → Prop} {v : Value} (h : Loaded names v) :
    Unless v.dumps (IsJson names v.dumps) := by
  induction h with
  | null => exact (@IsJson.clean names _ .null).unless .null
  | bool b =>
    cases b with
    | false => exact (@IsJson.clean names _ .false).unless .false
    | true => exact (@IsJson.clean names _ .true).unless .true
  | int i => exact (isNumber_writeInt i).clean.unless (.number _ (isNumber_writeInt i))
  | float r float => exact Loaded.float_unless float
  | str s joined => exact (isString_quoted joined).clean.unless (.string s _ (isString_quoted joined))
  | list items loaded ih =>
    have hopen : Unless ['['] True := (Clean.mark (by decide)).unless trivial
    have hclose : Unless [']'] True := (Clean.mark (by decide)).unless trivial
    rw [Value.dumps, dumpsItems_eq]
    refine ((hopen.append (.intercalate ih)).append hclose).imp fun hitems => ?_
    by_cases hne : items = []
    · subst hne
      exact .emptyArray [] (List.forall_mem_nil _)
    · exact .array _ (by rwa [Ne, List.map_eq_nil_iff]) (List.forall_mem_map.2 hitems.1.2)
  | dict entries sorted joined loaded ih =>
    have hopen : Unless [Char.ofNat 123] True := (Clean.mark (by decide)).unless trivial
    have hclose : Unless [Char.ofNat 125] True := (Clean.mark (by decide)).unless trivial
    have hcolon : Unless [':'] True := (Clean.mark (by decide)).unless trivial
    have hmember : ∀ e ∈ entries, Unless (quoted e.1 ++ ':' :: e.2.dumps) (IsJson names e.2.dumps) :=
      fun e he => (((isString_quoted (joined e he)).clean.unless trivial).append
        (hcolon.append (ih e he))).imp fun h => h.2.2
    rw [Value.dumps, dumpsEntries_eq]
    refine ((hopen.append (.intercalate hmember)).append hclose).imp fun hvalues => ?_
    by_cases hne : entries = []
    · subst hne
      exact .emptyObject [] (List.forall_mem_nil _)
    · let member (e : List Nat × Value) : Member := ⟨e.1, [], quoted e.1, [], e.2.dumps⟩
      have htext : ∀ e, (member e).text = quoted e.1 ++ ':' :: e.2.dumps := by
        intro e
        simp [member, Member.text]
      have hobject := @IsJson.object names (entries.map member)
        (by rwa [Ne, List.map_eq_nil_iff]) (by rwa [List.map_map])
        (List.forall_mem_map.2 fun _ _ => List.forall_mem_nil _)
        (List.forall_mem_map.2 fun _ _ => List.forall_mem_nil _)
        (List.forall_mem_map.2 fun e he => isString_quoted (joined e he))
        (List.forall_mem_map.2 hvalues.1.2)
      rw [List.map_map] at hobject
      have hmap : entries.map (Member.text ∘ member) =
          entries.map fun e => quoted e.1 ++ ':' :: e.2.dumps :=
        List.map_congr_left fun e _ => htext e
      rwa [hmap] at hobject

/-- **What was read, written again, is in the grammar exactly when no word stands outside of the
string literals.** -/
theorem Loaded.isJson_dumps_iff {names : List (List Nat) → Prop} {v : Value} (h : Loaded names v) :
    IsJson names v.dumps ↔ Wordless (bare v.dumps) := by
  constructor
  · intro hjson
    obtain ⟨b, hb, hw⟩ := hjson.clean
    rwa [hb.bare_eq]
  · intro hw
    obtain ⟨b, hb, hjson⟩ := h.dumps_unless
    rw [hb.bare_eq] at hw
    exact hjson hw

end JsonText
