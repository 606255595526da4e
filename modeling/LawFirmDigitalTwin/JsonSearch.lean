import LawFirmDigitalTwin.JsonWords
import LawFirmDigitalTwin.PyText
import LawFirmDigitalTwin.Spelling

/-!
# Searching canonical texts in lower case

The program looks for sealed words in `canonical_json(value).lower()`. Without floats, canonical
texts are ASCII, so that a text is lowered letter by letter; where a word is not found follows from
the letters of the scalars, or, for a quoted word, from the strings themselves.
-/

namespace LawFirmDigitalTwin.Json

/-- A value without floats. -/
inductive Ascii : Json → Prop
  | null : Ascii .null
  | bool (b : Bool) : Ascii (.bool b)
  | int (i : Int) : Ascii (.int i)
  | str (s : String) : Ascii (.str s)
  | list (items : List Json) (ascii : ∀ v ∈ items, Ascii v) : Ascii (.list items)
  | dict (entries : List (String × Json)) (ascii : ∀ e ∈ entries, Ascii e.2) :
    Ascii (.dict entries)

/-! ## The characters of a canonical text -/

/-- A Unicode escape is ASCII. -/
theorem ascii_unicodeEscape (n : Nat) : ∀ c ∈ unicodeEscape n, c.toNat < 128 := by
  have hhex : ∀ k < 16, (Sha256.hexDigit k).toNat < 128 := by decide
  have hdigit (k : Nat) : (Sha256.hexDigit (k % 16)).toNat < 128 := hhex _ (Nat.mod_lt k (by decide))
  simp only [unicodeEscape, List.forall_mem_cons, List.not_mem_nil, false_implies, implies_true,
    and_true, hdigit]
  decide

/-- An escaped character is ASCII. -/
theorem ascii_escapeChar (c : Char) : ∀ c' ∈ escapeChar c, c'.toNat < 128 := by
  have hpair {a b : Char} (ha : a.toNat < 128) (hb : b.toNat < 128) : ∀ d ∈ [a, b],
      d.toNat < 128 :=
    List.forall_mem_cons.2 ⟨ha, List.forall_mem_singleton.2 hb⟩
  unfold escapeChar
  dsimp only
  split_ifs
  · exact hpair (by decide) (by omega)
  · exact hpair (by decide) (by omega)
  · exact hpair (by decide) (by decide)
  · exact hpair (by decide) (by decide)
  · exact hpair (by decide) (by decide)
  · exact hpair (by decide) (by decide)
  · exact hpair (by decide) (by decide)
  · rw [List.forall_mem_singleton]
    omega
  · exact ascii_unicodeEscape _
  · exact List.forall_mem_append.2 ⟨ascii_unicodeEscape _, ascii_unicodeEscape _⟩

/-- A string literal is ASCII. -/
theorem ascii_quoted (s : String) : ∀ c ∈ quoted s, c.toNat < 128 := by
  unfold quoted
  rw [List.cons_append, List.forall_mem_cons, List.forall_mem_append, List.forall_mem_singleton]
  refine ⟨by decide, fun c hc => ?_, by decide⟩
  obtain ⟨d, -, hd⟩ := List.mem_flatMap.1 hc
  exact ascii_escapeChar d c hd

/-- The characters of a number. -/
def numberChars : List Char := ['-', '0', '1', '2', '3', '4', '5', '6', '7', '8', '9']

/-- A natural number is written in digits. -/
theorem mem_numberChars_digits (n : Nat) : ∀ c ∈ (toString n).toList, c ∈ numberChars := by
  have hdigits : ∀ k < 58, 48 ≤ k → Char.ofNat k ∈ numberChars := by decide
  intro c hc
  have htoString : toString n = String.ofList (Nat.toDigits 10 n) := rfl
  rw [htoString, String.toList_ofList] at hc
  have hdigit := Nat.isDigit_of_mem_toDigits (by decide) (by decide) hc
  have hrange : 48 ≤ c.toNat ∧ c.toNat ≤ 57 := by
    simpa [Char.isDigit, UInt32.le_iff_toNat_le] using hdigit
  have hchar : c = Char.ofNat c.toNat := (Char.ofNat_toNat c).symm
  rw [hchar]
  exact hdigits _ (by omega) hrange.1

/-- An integer is written in digits and a sign. -/
theorem mem_numberChars (i : Int) : ∀ c ∈ (toString i).toList, c ∈ numberChars := by
  cases i with
  | ofNat n => exact mem_numberChars_digits n
  | negSucc n =>
    have htoString : toString (Int.negSucc n) = "-" ++ toString (n + 1) := rfl
    intro c hc
    rw [htoString, String.toList_append, List.mem_append] at hc
    rcases hc with hc | hc
    · rw [List.mem_singleton.1 hc]
      decide
    · exact mem_numberChars_digits _ c hc

/-- What holds of the comma and of each item's text holds of the items' text. -/
theorem forall_mem_dumpsItems {P : Char → Prop} (hcomma : P ',') {items : List Json}
    (h : ∀ v ∈ items, ∀ c ∈ v.dumps, P c) : ∀ c ∈ dumpsItems items, P c := by
  induction items with
  | nil => exact List.forall_mem_nil _
  | cons v items ih =>
    rw [List.forall_mem_cons] at h
    cases items with
    | nil => exact h.1
    | cons u rest =>
      rw [dumpsItems, List.forall_mem_append, List.forall_mem_cons]
      · exact ⟨h.1, hcomma, ih h.2⟩
      · simp

/-- What holds of comma, colon, names and values holds of the entries' text. -/
theorem forall_mem_dumpsEntries {P : Char → Prop} (hcomma : P ',') (hcolon : P ':')
    {entries : List (String × Json)}
    (h : ∀ e ∈ entries, (∀ c ∈ quoted e.1, P c) ∧ ∀ c ∈ e.2.dumps, P c) :
    ∀ c ∈ dumpsEntries entries, P c := by
  induction entries with
  | nil => exact List.forall_mem_nil _
  | cons e entries ih =>
    rw [List.forall_mem_cons] at h
    cases entries with
    | nil =>
      rw [dumpsEntries, List.forall_mem_append, List.forall_mem_cons]
      exact ⟨h.1.1, hcolon, h.1.2⟩
    | cons u rest =>
      rw [dumpsEntries, List.forall_mem_append, List.forall_mem_append, List.forall_mem_cons,
        List.forall_mem_cons]
      · exact ⟨⟨h.1.1, hcolon, h.1.2⟩, hcomma, ih h.2⟩
      · simp

/-- A decidable form of being ASCII. -/
theorem ascii_of_all {cs : List Char} (h : cs.all (fun c => c.toNat < 128) = true) :
    ∀ c ∈ cs, c.toNat < 128 := fun c hc =>
  of_decide_eq_true (List.all_eq_true.1 h c hc)

/-- A canonical text without floats is ASCII. -/
theorem Ascii.dumps {v : Json} (h : Ascii v) : ∀ c ∈ v.canonicalize.dumps, c.toNat < 128 := by
  induction h with
  | null => exact ascii_of_all rfl
  | bool b =>
    cases b with
    | true => exact ascii_of_all rfl
    | false => exact ascii_of_all rfl
  | int i =>
    have hnumber : ∀ c ∈ numberChars, c.toNat < 128 := ascii_of_all rfl
    exact fun c hc => hnumber c (mem_numberChars i c hc)
  | str s => exact ascii_quoted s
  | list items _ ih =>
    rw [canonicalize, Json.dumps, canonicalizeItems_eq_map, List.cons_append, List.forall_mem_cons,
      List.forall_mem_append, List.forall_mem_singleton]
    exact ⟨by decide, forall_mem_dumpsItems (by decide) (List.forall_mem_map.2 ih), by decide⟩
  | dict entries _ ih =>
    rw [canonicalize, Json.dumps, canonicalizeEntries_eq_map, List.cons_append,
      List.forall_mem_cons, List.forall_mem_append, List.forall_mem_singleton]
    refine ⟨by decide, forall_mem_dumpsEntries (by decide) (by decide) fun e he => ?_, by decide⟩
    obtain ⟨e', he', rfl⟩ := List.mem_map.1 ((List.perm_insertionSort _ _).mem_iff.1 he)
    exact ⟨ascii_quoted e'.1, ih e' he'⟩

/-! ## Lower case -/

/-- An ASCII character has one lower-case letter. -/
theorem lowerChar_of_ascii {c : Char} (h : c.toNat < 128) : lowerChar c = [c.toLower] := by
  unfold lowerChar
  rw [if_neg (by omega), if_neg (by omega)]

/-- A word is found in the lowered text where the value shows it. -/
theorem Ascii.textContains_iff {v : Json} (h : Ascii v) (word : String) :
    textContains (lowerText (canonicalJson v)) word = true ↔ v.Shows Char.toLower word.toList := by
  have hlower : (lowerText (canonicalJson v)).toList = v.canonicalize.dumps.map Char.toLower := by
    rw [lowerText, String.toList_ofList, canonicalJson, String.toList_ofList,
      List.flatMap_congr fun c hc => lowerChar_of_ascii (h.dumps c hc), List.map_eq_flatMap]
  rw [textContains, hlower, decide_eq_true_iff]
  rfl

/-! ## Letters -/

/-- The mark around a string. -/
def quote : Char := Char.ofNat 34

/-- A string of characters that are written as they are, whose lower case is among the letters. -/
def Within (letters : List Char) (s : String) : Prop :=
  ∀ c ∈ s.toList, escapeChar c = [c] ∧ c.toLower ∈ letters

section
variable {letters : List Char} {s t : String}

/-- Two such strings one after the other are one. -/
theorem Within.append (hs : Within letters s) (ht : Within letters t) : Within letters (s ++ t) := by
  unfold Within
  rw [String.toList_append]
  exact List.forall_mem_append.2 ⟨hs, ht⟩

/-- A decidable form of being within the letters. -/
theorem Within.of_all (h : s.toList.all (fun c => escapeChar c == [c] && letters.elem c.toLower) =
    true) : Within letters s := by
  intro c hc
  have hc := List.all_eq_true.1 h c hc
  rw [Bool.and_eq_true] at hc
  exact ⟨beq_iff_eq.1 hc.1, List.mem_of_elem_eq_true hc.2⟩

/-- A string within the letters is quoted as it is. -/
theorem Within.quoted (h : Within letters s) : (Json.quoted s).map Char.toLower =
    quote :: s.toList.map Char.toLower ++ [quote] := by
  have hquote : (Char.ofNat 34).toLower = quote := by decide
  rw [Json.quoted, List.flatMap_congr fun c hc => (h c hc).1, List.flatMap_singleton', List.map_append,
    List.map_cons, List.map_singleton, hquote]

/-- A word with another letter is not in the string. -/
theorem Within.not_shows (h : Within letters s) {w : List Char} (hw : ∃ c ∈ w, c ∉ quote :: letters) :
    ¬ (Json.str s).Shows Char.toLower w := by
  obtain ⟨c, hc, hnot⟩ := hw
  intro hshows
  have hmem : c ∈ (Json.quoted s).map Char.toLower := hshows.subset hc
  rw [h.quoted, List.cons_append, List.mem_cons, List.mem_append, List.mem_singleton] at hmem
  rcases hmem with rfl | hmem | rfl
  · exact hnot (.head _)
  · obtain ⟨d, hd, rfl⟩ := List.mem_map.1 hmem
    exact hnot (.tail _ (h d hd).2)
  · exact hnot (.head _)

end

/-! ## Quoted words -/

/-- A quoted word in a quoted text without quotes is the text. -/
theorem eq_of_quoted_infix {v s : List Char} {x : Char} (hv : x ∉ v) (hs : x ∉ s)
    (h : x :: v ++ [x] <:+: x :: s ++ [x]) : v = s := by
  have hcount (l : List Char) (hl : x ∉ l) : (l ++ [x]).count x = 1 := by
    rw [List.count_append, List.count_eq_zero_of_not_mem hl, List.count_singleton_self]
  rw [List.cons_append, List.cons_append, List.infix_cons_iff] at h
  rcases h with h | h
  · obtain ⟨-, rest, hrest⟩ := List.cons_prefix_cons.1 h
    have hrestCount := congrArg (List.count x) hrest
    rw [List.count_append, hcount v hv, hcount s hs] at hrestCount
    have hnot : x ∉ rest := List.count_eq_zero.1 (by omega)
    have hnil : rest = [] := by
      by_contra hne
      have hlast := congrArg List.getLast? hrest
      simp only [List.getLast?_append, List.getLast?_eq_some_getLast hne, Option.some_or,
        List.getLast?_singleton, Option.some.injEq] at hlast
      exact hnot (hlast ▸ List.getLast_mem hne)
    rw [hnil, List.append_nil] at hrest
    exact List.append_cancel_right hrest
  · have hle := h.sublist.count_le x
    rw [List.count_cons_self, hcount v hv, hcount s hs] at hle
    omega

/-- A quoted word is in a string where it is the string. -/
theorem Within.eq_of_shows {letters : List Char} {s : String} {v : List Char}
    (h : Within letters s) (hletters : quote ∉ letters) (hv : quote ∉ v)
    (hshows : (Json.str s).Shows Char.toLower (quote :: v ++ [quote])) :
    v = s.toList.map Char.toLower := by
  refine eq_of_quoted_infix hv (fun hmem => ?_) (h.quoted ▸ hshows)
  obtain ⟨c, hc, heq⟩ := List.mem_map.1 hmem
  exact hletters (heq ▸ (h c hc).2)

/-! ## Parts that are replaced -/

section
variable {fold : Char → Char} {w : List Char} (hw : IsWord fold w)
include hw

/-- A word that a dictionary shows after a value is replaced, or that the value showed. -/
theorem IsWord.shows_replace {before after : List (String × Json)} {key : String} {v v' : Json}
    {P : Prop} (hv : v.Shows fold w → v'.Shows fold w ∨ P)
    (h : (dict (before ++ (key, v) :: after)).Shows fold w) :
    (dict (before ++ (key, v') :: after)).Shows fold w ∨ P := by
  rw [hw.shows_dict] at h ⊢
  obtain ⟨e, he, hshows⟩ := h
  rcases List.mem_append.1 he with he | he
  · exact .inl ⟨e, List.mem_append_left _ he, hshows⟩
  · rcases List.mem_cons.1 he with rfl | he
    · rcases hshows with hkey | hvalue
      · exact .inl ⟨(key, v'), List.mem_append_right _ (.head _), .inl hkey⟩
      · exact (hv hvalue).imp_left fun hv' =>
          ⟨(key, v'), List.mem_append_right _ (.head _), .inr hv'⟩
    · exact .inl ⟨e, List.mem_append_right _ (.tail _ he), hshows⟩

/-- The same for the items of a list. -/
theorem IsWord.shows_map {α : Type} {f f' : α → Json} {items : List α} {P : α → Prop}
    (hf : ∀ a ∈ items, (f a).Shows fold w → (f' a).Shows fold w ∨ P a)
    (h : (list (items.map f)).Shows fold w) :
    (list (items.map f')).Shows fold w ∨ ∃ a ∈ items, P a := by
  rw [hw.shows_list] at h ⊢
  obtain ⟨v, hv, hshows⟩ := h
  obtain ⟨a, ha, rfl⟩ := List.mem_map.1 hv
  exact (hf a ha hshows).imp (fun h' => ⟨f' a, List.mem_map_of_mem ha, h'⟩) fun hP => ⟨a, ha, hP⟩

end

/-! ## Evaluated texts -/

/-- A word that is not found among the code points of the lower-case text is not shown. -/
theorem not_shows_of_found {v : Json} {t : Spelling} {w : List Char} (h : Spells v t)
    (hfound : Occurs.found (w.map Char.toNat) (t.text.map fun c => c.toLower.toNat) = false) :
    ¬ v.Shows Char.toLower w := by
  have htext : v.canonicalize.dumps = t.text := by
    have hcanonical := canonicalJson_eq_of_spells h
    unfold canonicalJson at hcanonical
    exact String.ofList_injective hcanonical
  intro hshows
  unfold Shows at hshows
  rw [htext] at hshows
  have hcodes := List.IsInfix.map Char.toNat hshows
  rw [List.map_map] at hcodes
  exact Bool.false_ne_true (hfound.symm.trans (Occurs.found_of_infix hcodes))

end LawFirmDigitalTwin.Json
