import Mathlib.Data.Bool.AllAny
import LawFirmDigitalTwin.Lib.Occurs
import LawFirmDigitalTwin.Lib.Returns
import LawFirmDigitalTwin.Oracle.Canary

/-!
# What the canary scan finds

A canary in a name, in the content or in the metadata that the scan reads is found: its characters
stand for themselves in UTF-8 and in JSON. The scan reads the metadata as a dictionary, so a value
whose key comes again later is not read, and a canary that is only there is missed. A name that
cannot be encoded stops the scan.
-/

namespace LawFirmDigitalTwin

open Raising

/-! ## Where a canary is -/

/-- A text holds the canary verbatim. -/
def HoldsCanary (canary text : String) : Prop := canary.toList <:+: text.toList

instance (canary text : String) : Decidable (HoldsCanary canary text) :=
  inferInstanceAs (Decidable (_ <:+: _))

/-- A string holds the canary verbatim. -/
def PyString.Holds (s : PyString) (canary : String) : Prop := ofText canary <:+: s

section
variable (z : Compressors) (canary : String)

/-- The canary occurs verbatim in an observation. -/
def SurfaceObservation.Contains (o : SurfaceObservation) : Prop :=
  o.relativeName.Holds canary ∨ utf8 canary <:+: bytesOf o.content ∨
    ∃ p ∈ o.metadata, HoldsCanary canary p.1 ∨ HoldsCanary canary p.2

/-- The canary occurs verbatim in an observation, and not only in metadata values whose key comes
again later. -/
def SurfaceObservation.Shows (o : SurfaceObservation) : Prop :=
  o.relativeName.Holds canary ∨ utf8 canary <:+: bytesOf o.content ∨
    ∃ before key value after, o.metadata = before ++ (key, value) :: after ∧
      (HoldsCanary canary key ∨ HoldsCanary canary value ∧ ∀ p ∈ after, p.1 ≠ key)

/-- Another encoding of the canary occurs in what is scanned of an observation. -/
def SurfaceObservation.ShowsEncoding (o : SurfaceObservation) : Prop :=
  ∃ variants, canaryVariants z canary = .ok variants ∧ ∃ channels, channelBytes o = .ok channels ∧
    ∃ v ∈ variants, v.2 ≠ utf8 canary ∧ v.2 ≠ [] ∧ ∃ channel ∈ channels, v.2 <:+: channel.2

/-- The names that the scan reads can be encoded. -/
def NamesEncodable (r : OperatingSurfaceRegistry) (observations : List SurfaceObservation) : Prop :=
  ∀ o ∈ observations, o.surfaceId ∈ r.known → o.relativeName.Encodable

/-- The scan reports every canary that occurs verbatim. -/
def ScanReports (r : OperatingSurfaceRegistry) (observations : List SurfaceObservation) : Prop :=
  (∃ o ∈ observations, o.Contains canary) →
    ∃ report, scanCanaryContainment z r observations canary = .ok report ∧
      report.state = .leakDetected

end

/-! ## Strings and texts -/

namespace PyString

variable {s : PyString}

/-- A name is a text where all its code points are characters. -/
theorem mapM_char?_eq_some {text : List Char} :
    s.mapM CodePoint.char? = some text ↔ s = text.map .char := by
  induction s generalizing text with
  | nil => cases text <;> simp
  | cons p s ih =>
    cases p with
    | half unit => cases text <;> simp [CodePoint.char?]
    | char c =>
      have hstep : List.mapM CodePoint.char? (.char c :: s) =
          (List.mapM CodePoint.char? s).map (c :: ·) := by
        rw [List.mapM_cons]
        cases List.mapM CodePoint.char? s <;> rfl
      rw [hstep, Option.map_eq_some_iff]
      cases text with
      | nil => simp
      | cons c' text =>
        simp only [ih, List.cons.injEq, List.map_cons, CodePoint.char.injEq]
        constructor
        · rintro ⟨_, hs, rfl, rfl⟩
          exact ⟨rfl, hs⟩
        · rintro ⟨rfl, hs⟩
          exact ⟨text, hs, rfl, rfl⟩

/-- A string is encoded where it is a text. -/
theorem encode_eq_ok {bytes : List Nat} :
    s.encode = .ok bytes ↔ ∃ text, s = ofText text ∧ utf8 text = bytes := by
  unfold encode
  cases hchars : s.mapM CodePoint.char? with
  | none =>
    refine iff_of_false (fun h => by cases h) ?_
    rintro ⟨text, rfl, -⟩
    cases hchars.symm.trans (mapM_char?_eq_some.2 rfl)
  | some chars =>
    obtain rfl := mapM_char?_eq_some.1 hchars
    constructor
    · intro h
      exact ⟨String.ofList chars, by rw [ofText, String.toList_ofList], Except.ok.inj h⟩
    · rintro ⟨text, htext, rfl⟩
      have hlist : chars = text.toList :=
        List.map_injective_iff.2 (fun _ _ h => CodePoint.char.inj h) htext
      subst hlist
      exact congrArg (fun t => Except.ok (utf8 t)) String.ofList_toList

/-- The strings that can be encoded are the texts. -/
theorem encodable_iff : s.Encodable ↔ ∃ text, s = ofText text := by
  constructor
  · intro h
    refine ⟨String.ofList (s.filterMap CodePoint.char?), ?_⟩
    rw [ofText, String.toList_ofList]
    induction s with
    | nil => rfl
    | cons p s ih =>
      obtain ⟨hp, hs⟩ := List.forall_mem_cons.1 h
      cases p with
      | half unit => cases hp
      | char c => exact congrArg (.char c :: ·) (ih hs)
  · rintro ⟨text, rfl⟩ p hp
    obtain ⟨c, -, rfl⟩ := List.mem_map.1 hp
    rfl

/-- A name is encoded where it can be. -/
theorem returns_encode : Returns s.encode ↔ s.Encodable := by
  rw [encodable_iff]
  constructor
  · rintro ⟨bytes, h⟩
    obtain ⟨text, htext, -⟩ := encode_eq_ok.1 h
    exact ⟨text, htext⟩
  · rintro ⟨text, htext⟩
    exact ⟨utf8 text, encode_eq_ok.2 ⟨text, htext, rfl⟩⟩

/-- What a text holds as a string it holds as a text. -/
theorem holds_ofText {canary text : String} :
    (ofText text).Holds canary ↔ HoldsCanary canary text := by
  unfold Holds HoldsCanary ofText
  rw [List.infix_map_iff]
  constructor
  · rintro ⟨part, hpart, heq⟩
    rwa [List.map_injective_iff.2 (fun _ _ h => CodePoint.char.inj h) heq]
  · exact fun h => ⟨_, h, rfl⟩

end PyString

/-! ## The characters of a canary -/

/-- The characters of a canary. -/
def canaryAlphabet : List Char := "0123456789ABCDEFGHIJKLMNOPQRSTUVWXYZ-".toList

/-- A hexadecimal digit in capitals is a letter of canaries. -/
theorem hexDigit_toUpper : ∀ n < 16, (Sha256.hexDigit n).toUpper ∈ canaryAlphabet := by decide

/-- A canary is a nonempty word over its alphabet that starts with `L`. -/
structure IsCanary (canary : String) : Prop where
  first : ∃ rest, canary.toList = 'L' :: rest
  alphabet : ∀ c ∈ canary.toList, c ∈ canaryAlphabet

/-- A prefix and a token make a canary. -/
theorem isCanary_of_token {token : List Char} (h : ∀ c ∈ token, c ∈ canaryAlphabet) :
    IsCanary ("LFDT-CNY-" ++ String.ofList token) := by
  have hlist : ("LFDT-CNY-" ++ String.ofList token).toList =
      'L' :: "FDT-CNY-".toList ++ token := by
    rw [String.toList_append, show (String.ofList token).toList = token from String.toList_ofList]
    rfl
  refine ⟨⟨_, hlist⟩, fun c hc => ?_⟩
  rw [hlist] at hc
  rcases List.mem_append.1 hc with hc | hc
  · have hfixed : ∀ c ∈ 'L' :: "FDT-CNY-".toList, c ∈ canaryAlphabet :=
      List.all_iff_forall_prop.1 (by decide)
    exact hfixed c hc
  · exact h c hc

/-- What is minted is a canary. -/
theorem isCanary_of_mint {sealedKey : List UInt8} {runNonce canary : String}
    (h : mintSealedCanary sealedKey runNonce = .ok canary) : IsCanary canary := by
  unfold mintSealedCanary at h
  split at h
  · cases h
  split at h
  · cases h
  · rw [← Except.ok.inj h]
    refine isCanary_of_token fun c hc => ?_
    obtain ⟨d, hd, rfl⟩ := List.mem_map.1 hc
    obtain ⟨n, hn, rfl⟩ := Sha256.mem_hexdigest hd
    exact hexDigit_toUpper n hn

/-- The bytes of a character. -/
def charBytes (c : Char) : List Nat := (String.utf8EncodeChar c).map UInt8.toNat

/-- A text is encoded character by character. -/
theorem utf8_eq_flatMap (s : String) : utf8 s = s.toList.flatMap charBytes := by
  rw [← String.ofList_toList (s := s), utf8_ofList, String.toList_ofList, List.map_flatMap]
  rfl

/-- An ASCII character is its own code, and the bytes of any other one are not ASCII. -/
theorem charBytes_cases (c : Char) :
    (c.toNat < 128 ∧ charBytes c = [c.toNat]) ∨
      (128 ≤ c.toNat ∧ ∃ b code, charBytes c = b :: code ∧ ∀ x ∈ b :: code, 128 ≤ x) := by
  unfold charBytes
  fun_cases String.utf8EncodeChar c with
  | case1 v hv =>
    have hlt : c.toNat < 128 := Nat.lt_succ_of_le hv
    refine .inl ⟨hlt, ?_⟩
    rw [List.map_singleton, UInt8.toNat_ofNat', Nat.mod_eq_of_lt (by omega)]
    rfl
  | case2 v h₁ h₂ =>
    refine .inr ⟨Nat.lt_of_not_le h₁, _, _, rfl, fun x hx => ?_⟩
    simp only [List.mem_cons, List.map_cons, List.map_nil, List.not_mem_nil, or_false,
      UInt8.toNat_ofNat'] at hx
    omega
  | case3 v h₁ h₂ h₃ =>
    refine .inr ⟨Nat.lt_of_not_le h₁, _, _, rfl, fun x hx => ?_⟩
    simp only [List.mem_cons, List.map_cons, List.map_nil, List.not_mem_nil, or_false,
      UInt8.toNat_ofNat'] at hx
    omega
  | case4 v h₁ h₂ h₃ =>
    refine .inr ⟨Nat.lt_of_not_le h₁, _, _, rfl, fun x hx => ?_⟩
    simp only [List.mem_cons, List.map_cons, List.map_nil, List.not_mem_nil, or_false,
      UInt8.toNat_ofNat'] at hx
    omega

/-- No hexadecimal digit is an `L`. -/
theorem hexDigit_ne_L : ∀ n < 16, Sha256.hexDigit n ≠ 'L' := by decide

/-- A character stands for itself in JSON, or it is escaped. -/
theorem escapeChar_cases (c : Char) :
    Json.escapeChar c = [c] ∨ ∃ code, Json.escapeChar c = '\\' :: code ∧ 'L' ∉ code := by
  have hunicode (n : Nat) : ∃ code, Json.unicodeEscape n = '\\' :: code ∧ 'L' ∉ code := by
    refine ⟨_, rfl, ?_⟩
    simp only [List.mem_cons, List.not_mem_nil, or_false, not_or]
    exact ⟨by decide, (hexDigit_ne_L _ (Nat.mod_lt _ (by decide))).symm,
      (hexDigit_ne_L _ (Nat.mod_lt _ (by decide))).symm,
      (hexDigit_ne_L _ (Nat.mod_lt _ (by decide))).symm,
      (hexDigit_ne_L _ (Nat.mod_lt _ (by decide))).symm⟩
  have hself (h : c.toNat = 34 ∨ c.toNat = 92) : 'L' ∉ [c] := by
    rw [List.mem_singleton]
    rintro rfl
    revert h
    decide
  unfold Json.escapeChar
  simp only
  repeat' split
  · next h => exact .inr ⟨_, rfl, hself (.inl h)⟩
  · next h => exact .inr ⟨_, rfl, hself (.inr h)⟩
  iterate 5 exact .inr ⟨_, rfl, by decide⟩
  · exact .inl rfl
  · exact .inr (hunicode _)
  · obtain ⟨code, hcode, hnot⟩ := hunicode (0xd800 + (c.toNat - 0x10000) / 0x400)
    obtain ⟨code', hcode', hnot'⟩ := hunicode (0xdc00 + (c.toNat - 0x10000) % 0x400)
    refine .inr ⟨code ++ '\\' :: code', by rw [hcode, hcode']; rfl, ?_⟩
    rw [List.mem_append, List.mem_cons]
    rintro (h | h | h)
    · exact hnot h
    · exact absurd h (by decide)
    · exact hnot' h

/-- The letters of canaries are ASCII, unescaped, and no marks of JSON. -/
theorem canaryAlphabet_plain : ∀ c ∈ canaryAlphabet,
    c.toNat < 128 ∧ Json.escapeChar c = [c] ∧ c ∉ ['\\', Char.ofNat 34, ',', ':', Char.ofNat 123,
      Char.ofNat 125] :=
  List.all_iff_forall_prop.1 (by decide)

/-- Entries whose values are texts are canonical. -/
theorem canonicalizeEntries_strs (entries : List (String × String)) :
    Json.canonicalizeEntries (entries.map fun e => (e.1, .str e.2)) =
      entries.map fun e => (e.1, .str e.2) := by
  induction entries with
  | nil => rfl
  | cons e entries ih => simp [Json.canonicalizeEntries, Json.canonicalize, ih]

section
variable {canary : String} (hc : IsCanary canary)
include hc

/-- A canary is plain in UTF-8. -/
theorem IsCanary.plain_utf8 : Occurs.Plain charBytes Char.toNat canary.toList := by
  have hascii (a : Char) (ha : a ∈ canary.toList) : a.toNat < 128 :=
    (canaryAlphabet_plain a (hc.alphabet a ha)).1
  constructor
  · intro a ha
    rcases charBytes_cases a with ⟨-, hself⟩ | ⟨hlarge, -⟩
    · exact hself
    · exact absurd (hascii a ha) (by omega)
  · intro c
    rcases charBytes_cases c with ⟨-, hself⟩ | ⟨-, b, code, hcode, hlarge⟩
    · exact .inl ⟨hself, fun a _ heq => Char.toNat_inj.1 heq⟩
    · refine .inr ⟨b, code, hcode, ?_, ?_⟩
      · intro hmem
        obtain ⟨a, ha, rfl⟩ := List.mem_map.1 hmem
        exact absurd (hlarge _ (.head _)) (by have := hascii a ha; omega)
      · intro a ha hmem
        rw [hcode] at hmem
        have := hascii a (List.mem_of_mem_head? ha)
        exact absurd (hlarge _ hmem) (by omega)

/-- A canary is plain in a string literal. -/
theorem IsCanary.plain_escape : Occurs.Plain Json.escapeChar id canary.toList := by
  constructor
  · intro a ha
    exact (canaryAlphabet_plain a (hc.alphabet a ha)).2.1
  · intro c
    rcases escapeChar_cases c with hself | ⟨code, hcode, hnot⟩
    · exact .inl ⟨hself, fun a _ heq => heq⟩
    · refine .inr ⟨_, code, hcode, ?_, ?_⟩
      · rw [List.map_id]
        intro hmem
        exact (canaryAlphabet_plain _ (hc.alphabet _ hmem)).2.2 (by simp)
      · intro a ha
        obtain ⟨rest, hrest⟩ := hc.first
        rw [hrest] at ha
        cases ha
        rw [hcode, List.mem_cons]
        rintro (h | h)
        · exact absurd h (by decide)
        · exact hnot h

/-- The canary is found in the bytes of a text exactly where the text holds it. -/
theorem IsCanary.utf8_infix (text : String) :
    utf8 canary <:+: utf8 text ↔ HoldsCanary canary text := by
  rw [utf8_eq_flatMap, utf8_eq_flatMap]
  exact hc.plain_utf8.infix_iff

/-! ## The metadata -/

/-- A separator of JSON does not occur in a canary. -/
theorem IsCanary.separator {x : Char}
    (hx : x ∈ ['\\', Char.ofNat 34, ',', ':', Char.ofNat 123, Char.ofNat 125]) :
    x ∉ canary.toList :=
  fun hmem => (canaryAlphabet_plain x (hc.alphabet x hmem)).2.2 hx

/-- A canary does not stand in an empty text. -/
theorem IsCanary.not_infix_nil : ¬ canary.toList <:+: [] := by
  obtain ⟨rest, hrest⟩ := hc.first
  rw [hrest, List.infix_nil]
  exact List.cons_ne_nil _ _

/-- The canary is found in a string literal, or after it. -/
theorem IsCanary.infix_quoted_append {text : String} {rest : List Char}
    (h : canary.toList <:+: Json.quoted text ++ rest) :
    HoldsCanary canary text ∨ canary.toList <:+: rest := by
  have hquote := hc.separator (x := Char.ofNat 34) (by simp)
  have hopen : canary.toList <:+:
      [] ++ Char.ofNat 34 :: (text.toList.flatMap Json.escapeChar ++ Char.ofNat 34 :: rest) := by
    simpa [Json.quoted] using h
  rcases Occurs.infix_append_cons hquote hopen with h | h
  · exact absurd h hc.not_infix_nil
  rcases Occurs.infix_append_cons hquote h with h | h
  · left
    rw [← List.map_id canary.toList, ← hc.plain_escape.flatMap] at h
    exact hc.plain_escape.infix_iff.1 h
  · exact .inr h

/-- The canary is found in the string literal of a text that holds it. -/
theorem IsCanary.infix_quoted {text : String} (h : HoldsCanary canary text) :
    canary.toList <:+: Json.quoted text := by
  have hflat := hc.plain_escape.infix_iff.2 h
  rw [hc.plain_escape.flatMap, List.map_id] at hflat
  exact hflat.trans ⟨[Char.ofNat 34], [Char.ofNat 34], by simp [Json.quoted]⟩

/-- A separator in front of a text does not matter. -/
theorem IsCanary.infix_separator {x : Char}
    (hx : x ∈ ['\\', Char.ofNat 34, ',', ':', Char.ofNat 123, Char.ofNat 125]) (rest : List Char) :
    canary.toList <:+: x :: rest ↔ canary.toList <:+: rest := by
  refine ⟨fun h => ?_, List.infix_cons⟩
  have h : canary.toList <:+: [] ++ x :: rest := h
  exact (Occurs.infix_append_cons (hc.separator hx) h).resolve_left hc.not_infix_nil

/-- The canary is found in an entry, or after it. -/
theorem IsCanary.infix_entry (key value : String) (rest : List Char) :
    canary.toList <:+: Json.quoted key ++ ':' :: (Json.quoted value ++ rest) ↔
      (HoldsCanary canary key ∨ HoldsCanary canary value) ∨ canary.toList <:+: rest := by
  constructor
  · intro h
    rcases hc.infix_quoted_append h with h | h
    · exact .inl (.inl h)
    rw [hc.infix_separator (by simp)] at h
    rcases hc.infix_quoted_append h with h | h
    · exact .inl (.inr h)
    · exact .inr h
  · rintro ((h | h) | h)
    · exact (hc.infix_quoted h).trans ⟨[], ':' :: (Json.quoted value ++ rest), by simp⟩
    · exact (hc.infix_quoted h).trans ⟨Json.quoted key ++ [':'], rest, by simp⟩
    · exact h.trans ⟨Json.quoted key ++ ':' :: Json.quoted value, [], by simp⟩

/-- The canary is found in a dictionary of strings exactly where a key or a value holds it. -/
theorem IsCanary.infix_dumpsEntries (entries : List (String × String)) :
    canary.toList <:+: Json.dumpsEntries (entries.map fun e => (e.1, .str e.2)) ↔
      ∃ e ∈ entries, HoldsCanary canary e.1 ∨ HoldsCanary canary e.2 := by
  induction entries with
  | nil => simpa [Json.dumpsEntries] using hc.not_infix_nil
  | cons e entries ih =>
    simp only [List.mem_cons, exists_eq_or_imp]
    cases entries with
    | nil =>
      have h := hc.infix_entry e.1 e.2 []
      simpa [Json.dumpsEntries, Json.dumps, hc.not_infix_nil] using h
    | cons e' entries =>
      have h := hc.infix_entry e.1 e.2
        (',' :: Json.dumpsEntries ((e' :: entries).map fun e => (e.1, .str e.2)))
      rw [hc.infix_separator (by simp), ih] at h
      simpa [Json.dumpsEntries, Json.dumps] using h

/-- The canary is found in the JSON of a dictionary exactly where a key or a value holds it. -/
theorem IsCanary.infix_metadata (d : PyDict String) :
    utf8 canary <:+: utf8 (canonicalJson (d.toJson .str)) ↔
      ∃ key value, d.get? key = some value ∧
        (HoldsCanary canary key ∨ HoldsCanary canary value) := by
  have hsort : (d.entries.insertionSort fun a b => a.1 ≤ b.1).map (fun e => (e.1, Json.str e.2)) =
      (d.entries.map fun e => (e.1, Json.str e.2)).insertionSort fun a b => a.1 ≤ b.1 :=
    List.map_insertionSort _ _ _ _ fun _ _ _ _ => Iff.rfl
  have hdumps : (Json.canonicalize (d.toJson .str)).dumps = Char.ofNat 123 ::
      (Json.dumpsEntries ((d.entries.insertionSort fun a b => a.1 ≤ b.1).map fun e =>
        (e.1, .str e.2)) ++ [Char.ofNat 125]) := by
    rw [PyDict.toJson, Json.canonicalize, canonicalizeEntries_strs, hsort]
    rfl
  have hentries (e : String × String) :
      e ∈ d.entries.insertionSort (fun a b => a.1 ≤ b.1) ↔ d.get? e.1 = some e.2 := by
    rw [(List.perm_insertionSort _ _).mem_iff]
    exact PyDict.mem_entries
  rw [hc.utf8_infix, HoldsCanary, canonicalJson, String.toList_ofList, hdumps,
    hc.infix_separator (by simp)]
  constructor
  · intro h
    have h := (Occurs.infix_append_cons (hc.separator (by simp)) h).resolve_right hc.not_infix_nil
    obtain ⟨e, he, hholds⟩ := (hc.infix_dumpsEntries _).1 h
    exact ⟨e.1, e.2, (hentries e).1 he, hholds⟩
  · rintro ⟨key, value, hget, hholds⟩
    have h := (hc.infix_dumpsEntries _).2 ⟨(key, value), (hentries (key, value)).2 hget, hholds⟩
    exact h.trans List.infix_append_left

/-! ## The scan -/

/-- The canary is found in what is scanned exactly where it is not hidden by a later key. -/
theorem IsCanary.shows_iff {o : SurfaceObservation} {channels : List (String × List Nat)}
    (h : channelBytes o = .ok channels) :
    (∃ channel ∈ channels, utf8 canary <:+: channel.2) ↔ o.Shows canary := by
  have hmetadata : (∃ key value, o.metadataDict.get? key = some value ∧
      (HoldsCanary canary key ∨ HoldsCanary canary value)) ↔
      ∃ before key value after, o.metadata = before ++ (key, value) :: after ∧
        (HoldsCanary canary key ∨ HoldsCanary canary value ∧ ∀ p ∈ after, p.1 ≠ key) := by
    unfold SurfaceObservation.metadataDict
    constructor
    · rintro ⟨key, value, hget, hholds⟩
      obtain ⟨before, after, heq, hafter⟩ := PyDict.get?_ofEntries_iff.1 hget
      exact ⟨before, key, value, after, heq, hholds.imp id fun h => ⟨h, hafter⟩⟩
    · rintro ⟨before, key, value, after, heq, hkey | ⟨hvalue, hafter⟩⟩
      · -- a key is kept, whatever its last value is
        have hmem : key ∈ (PyDict.ofEntries o.metadata).keys := by
          rw [PyDict.keys_ofEntries, heq]
          simp
        obtain ⟨value', hget⟩ := Option.isSome_iff_exists.1
          (Finmap.lookup_isSome.2 (Finmap.mem_keys.1 hmem))
        exact ⟨key, value', hget, .inl hkey⟩
      · exact ⟨key, value, PyDict.get?_ofEntries_iff.2 ⟨before, after, heq, hafter⟩, .inr hvalue⟩
  unfold channelBytes at h
  obtain ⟨name, hname, h⟩ := except_bind_eq_ok.1 h
  obtain ⟨text, htext, rfl⟩ := PyString.encode_eq_ok.1 hname
  obtain rfl := Except.ok.inj h
  unfold SurfaceObservation.Shows
  simp only [List.mem_cons, List.not_mem_nil, or_false, exists_eq_or_imp, exists_eq_left]
  rw [hc.utf8_infix, hc.infix_metadata, hmetadata, htext, PyString.holds_ofText]

/-- The variants of a canary, its bytes among them. -/
theorem IsCanary.variants (z : Compressors) :
    ∃ variants, canaryVariants z canary = .ok variants ∧ ("raw_utf8", utf8 canary) ∈ variants := by
  have hascii : ∀ b ∈ utf8 canary, b < 128 := by
    rw [utf8_eq_flatMap, hc.plain_utf8.flatMap]
    intro b hb
    obtain ⟨c, hmem, rfl⟩ := List.mem_map.1 hb
    exact (canaryAlphabet_plain c (hc.alphabet c hmem)).1
  have hdecoded : asciiDecode (utf8 canary) = .ok (utf8 canary) := if_pos hascii
  simp only [canaryVariants, hdecoded]
  exact ⟨_, rfl, .head _⟩

/-- A canary has bytes. -/
theorem IsCanary.utf8_ne_nil : utf8 canary ≠ [] := by
  obtain ⟨rest, hrest⟩ := hc.first
  rw [utf8_eq_flatMap, hc.plain_utf8.flatMap, hrest]
  exact List.cons_ne_nil _ _

end

section
variable {r : OperatingSurfaceRegistry} {observations : List SurfaceObservation}
  {variants : List (String × List Nat)} {hits : List CanaryHit}

/-- The channels of an observation are there where its name can be encoded. -/
theorem returns_channelBytes {o : SurfaceObservation} :
    Returns (channelBytes o) ↔ o.relativeName.Encodable := by
  unfold channelBytes
  rw [returns_bind_of_forall fun _ => returns_pure _, PyString.returns_encode]

/-- The hits in an observation, where its name can be encoded. -/
theorem observationHits_eq_ok {o : SurfaceObservation} {found : List CanaryHit} :
    observationHits variants o = .ok found ↔ ∃ channels commitment, channelBytes o = .ok channels ∧
      o.observationCommitment = .ok commitment ∧
        found = channels.flatMap fun channel => variants.filterMap fun v =>
          if v.2 ≠ [] ∧ v.2 <:+: channel.2 then some ⟨o.surfaceId, commitment, channel.1, v.1⟩
          else none := by
  unfold observationHits
  simp only [except_bind_eq_ok]
  constructor
  · rintro ⟨channels, hchannels, commitment, hcommitment, h⟩
    exact ⟨channels, commitment, hchannels, hcommitment, (Except.ok.inj h).symm⟩
  · rintro ⟨channels, commitment, hchannels, hcommitment, rfl⟩
    exact ⟨channels, hchannels, commitment, hcommitment, rfl⟩

/-- An observation is searched where its name can be encoded. -/
theorem returns_observationHits {o : SurfaceObservation} :
    Returns (observationHits variants o) ↔ o.relativeName.Encodable := by
  have hcommitment : Returns o.observationCommitment ↔ o.relativeName.Encodable := by
    unfold SurfaceObservation.observationCommitment
    rw [returns_bind_of_forall fun _ => returns_pure _, PyString.returns_encode]
  unfold observationHits
  rw [returns_bind_of_iff fun _ _ =>
    (returns_bind_of_forall fun _ => returns_pure _).trans hcommitment, returns_channelBytes,
    and_self]

/-- The scan of the observations returns where the names it reads can be encoded. -/
theorem returns_sortedHits :
    Returns (sortedHits r observations variants) ↔ NamesEncodable r observations := by
  unfold sortedHits NamesEncodable
  rw [returns_bind_of_forall fun _ => returns_pure _, returns_mapM]
  simp only [List.mem_filter, decide_eq_true_eq, returns_observationHits, and_imp]

/-- The hits are those in the observations of registered surfaces. -/
theorem mem_sortedHits (h : sortedHits r observations variants = .ok hits) {hit : CanaryHit} :
    hit ∈ hits ↔ ∃ o ∈ observations, o.surfaceId ∈ r.known ∧
      ∃ found, observationHits variants o = .ok found ∧ hit ∈ found := by
  unfold sortedHits at h
  obtain ⟨parts, hparts, h⟩ := except_bind_eq_ok.1 h
  obtain rfl := Except.ok.inj h
  rw [(List.perm_insertionSort _ _).mem_iff, List.mem_dedup, List.mem_flatten]
  constructor
  · rintro ⟨found, hmem, hhit⟩
    obtain ⟨o, ho, hfound⟩ := (mem_of_except_mapM hparts found).1 hmem
    obtain ⟨ho, hknown⟩ := List.mem_filter.1 ho
    exact ⟨o, ho, of_decide_eq_true hknown, found, hfound, hhit⟩
  · rintro ⟨o, ho, hknown, found, hfound, hhit⟩
    exact ⟨found, (mem_of_except_mapM hparts found).2
      ⟨o, List.mem_filter.2 ⟨ho, decide_eq_true hknown⟩, hfound⟩, hhit⟩

/-- There is a hit where a variant stands in a channel of a registered surface. -/
theorem sortedHits_ne_nil (h : sortedHits r observations variants = .ok hits) :
    hits ≠ [] ↔ ∃ o ∈ observations, o.surfaceId ∈ r.known ∧ ∃ channels,
      channelBytes o = .ok channels ∧ ∃ channel ∈ channels, ∃ v ∈ variants,
        v.2 ≠ [] ∧ v.2 <:+: channel.2 := by
  constructor
  · intro hne
    obtain ⟨hit, hhit⟩ := List.exists_mem_of_ne_nil _ hne
    obtain ⟨o, ho, hknown, found, hfound, hhit⟩ := (mem_sortedHits h).1 hhit
    obtain ⟨channels, commitment, hchannels, -, rfl⟩ := observationHits_eq_ok.1 hfound
    obtain ⟨channel, hchannel, hhit⟩ := List.mem_flatMap.1 hhit
    obtain ⟨v, hv, hsome⟩ := List.mem_filterMap.1 hhit
    split at hsome
    · next hoccurs => exact ⟨o, ho, hknown, channels, hchannels, channel, hchannel, v, hv, hoccurs⟩
    · cases hsome
  · rintro ⟨o, ho, hknown, channels, hchannels, channel, hchannel, v, hv, hoccurs⟩
    obtain ⟨found, hfound⟩ := returns_observationHits.2 (returns_sortedHits.1 ⟨hits, h⟩ o ho hknown)
    obtain ⟨channels', commitment, hchannels', -, rfl⟩ := observationHits_eq_ok.1 hfound
    cases hchannels.symm.trans hchannels'
    exact List.ne_nil_of_mem ((mem_sortedHits h).2 ⟨o, ho, hknown, _, hfound,
      List.mem_flatMap.2 ⟨channel, hchannel, List.mem_filterMap.2 ⟨v, hv, if_pos hoccurs⟩⟩⟩)

/-- The scan reports a leak when it has a hit or sees a surface that is not registered. -/
theorem scan_leak_iff {z : Compressors} {canary : String}
    (hvariants : canaryVariants z canary = .ok variants) :
    (∃ report, scanCanaryContainment z r observations canary = .ok report ∧
        report.state = .leakDetected) ↔
      ∃ hits, sortedHits r observations variants = .ok hits ∧
        (hits ≠ [] ∨ ∃ o ∈ observations, o.surfaceId ∉ r.known) := by
  have hunknown : sorted ((observations.map (·.surfaceId)).toFinset \ r.known) ≠ [] ↔
      ∃ o ∈ observations, o.surfaceId ∉ r.known := by
    rw [ne_eq, List.eq_nil_iff_forall_not_mem]
    simp
  unfold scanCanaryContainment
  rw [hvariants, ← hunknown]
  simp only [ok_bind, except_bind_eq_ok]
  constructor
  · rintro ⟨report, ⟨hits, hhits, hreport⟩, hstate⟩
    refine ⟨hits, hhits, ?_⟩
    by_contra hleak
    obtain rfl := Except.ok.inj hreport
    simp only [if_neg hleak] at hstate
    split at hstate <;> cases hstate
  · rintro ⟨hits, hhits, hleak⟩
    exact ⟨_, ⟨hits, hhits, rfl⟩, if_pos hleak⟩

end

/-- A sealed key. -/
def fixtureKey : List UInt8 :=
  "test-only-sealed-key-not-for-production-0001".toList.map fun c => UInt8.ofNat c.toNat

/-- The canary of that key for one run. -/
def fixtureCanary : String :=
  "LFDT-CNY-71E9A231773031D73F79699BB2925AA580D40EEB052050C5D4CC2679B250AE92"

/-- What the compressors make of that canary. -/
def fixtureCompressors : Compressors where
  gzip _ := [31, 139, 8, 0, 0, 0, 0, 0, 2, 3, 5, 193, 187, 13, 192, 48, 8, 5, 192, 137, 44, 61, 131,
    49, 161, 228, 231, 42, 74, 149, 38, 251, 47, 146, 187, 251, 212, 59, 242, 249, 134, 206, 54, 39,
    158, 170, 12, 158, 165, 124, 212, 182, 89, 4, 25, 137, 187, 92, 168, 133, 238, 128, 16, 4, 41,
    181, 50, 105, 171, 5, 9, 188, 141, 126, 23, 234, 8, 22, 73, 0, 0, 0]
  zlib _ := [120, 156, 5, 193, 187, 13, 192, 48, 8, 5, 192, 137, 44, 61, 131, 49, 161, 228, 231, 42,
    74, 149, 38, 251, 47, 146, 187, 251, 212, 59, 242, 249, 134, 206, 54, 39, 158, 170, 12, 158, 165,
    124, 212, 182, 89, 4, 25, 137, 187, 92, 168, 133, 238, 128, 16, 4, 41, 181, 50, 105, 171, 5, 9,
    188, 141, 126, 113, 243, 16, 154]

/-- The canary of the fixture is minted. -/
theorem fixtureCanary_minted :
    mintSealedCanary fixtureKey "oracle-isolation-fixture" = .ok fixtureCanary := by
  unfold mintSealedCanary
  rw [utf8_eq_flatMap]
  decide +kernel

/-- An observation whose metadata has the canary under a key that comes again. -/
def repeatedKey : SurfaceObservation where
  surfaceId := "operating_db"
  relativeName := .ofText "r"
  content := []
  metadata := [("k", fixtureCanary), ("k", "x")]

/-- Every encoding of the canary is longer than all that is scanned of the observation. -/
theorem repeatedKey_short {variants channels : List (String × List Nat)}
    (h : canaryVariants fixtureCompressors fixtureCanary = .ok variants)
    (hchannels : channelBytes repeatedKey = .ok channels) :
    ∀ channel ∈ channels, ∀ v ∈ variants, ¬ v.2 <:+: channel.2 := by
  have hlong : ∀ v ∈ variants, 9 < v.2.length := by
    have hdecoded : asciiDecode (fixtureCanary.toList.flatMap charBytes) =
        .ok (fixtureCanary.toList.flatMap charBytes) := if_pos (by decide +kernel)
    simp only [canaryVariants, utf8_eq_flatMap, hdecoded] at h
    rw [← Except.ok.inj h]
    decide +kernel
  have hshort : ∀ channel ∈ channels, channel.2.length ≤ 9 := by
    have hname : repeatedKey.relativeName.encode = .ok (utf8 "r") :=
      PyString.encode_eq_ok.2 ⟨"r", rfl, rfl⟩
    unfold channelBytes at hchannels
    rw [hname] at hchannels
    obtain rfl := Except.ok.inj hchannels
    unfold canonicalJson
    rw [utf8_eq_flatMap, utf8_eq_flatMap, String.toList_ofList]
    decide +kernel
  intro channel hchannel v hv hinfix
  have := hlong v hv
  have := hshort channel hchannel
  have := hinfix.length_le
  omega

end LawFirmDigitalTwin
