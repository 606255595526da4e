import LawFirmDigitalTwin.Lib.JsonGrammar
import LawFirmDigitalTwin.SealedIpc.Frames

/-!
# Which frames are strict JSON

`decode_frame` compares what it read, written again, with the bytes it received. So the spaces, the
escapes, the order and the doubling of names that `json.loads` tolerates are refused; the words
`NaN`, `Infinity` and `-Infinity` are not, since `json.dumps` writes them as they were read. The
payload of an accepted frame is strict JSON exactly when no such word stands outside of its string
literals (`strict_payload_iff`).
-/

namespace LawFirmDigitalTwin

open JsonText

/-- The payload is the text of one object of strict JSON, the names of every object strictly
ascending. -/
def StrictPayload (frame : List UInt8) : Prop :=
  ∃ text, decodeUtf8? (frame.drop 4) = some text ∧ IsObject Ascending text.toList

/-- No capital `N` or `I` stands outside of the string literals of the payload, as one does in `NaN`,
`Infinity` and `-Infinity`. -/
def NoWord (frame : List UInt8) : Prop :=
  ∀ text, decodeUtf8? (frame.drop 4) = some text → Wordless (bare text.toList)

section
variable {H : Host} {v : Value} {frame : List UInt8} {maxBytes : Int}

/-- **The payload of an accepted frame** is what was read of it, written under sorted names. -/
theorem Framed.payload (h : Framed H maxBytes frame v) :
    decodeUtf8? (frame.drop 4) = some (String.ofList v.canonicalize.dumps) ∧
      ∃ text, loads H text = .ok v := by
  obtain ⟨-, -, -, -, ⟨text, -, hread⟩, written, hwritten, hpayload⟩ := h
  unfold canonicalText at hwritten
  split at hwritten
  · cases hwritten
    exact ⟨hpayload ▸ decodeUtf8?_encodeUtf8 _, _, hread⟩
  · cases hwritten

/-- **An accepted frame is strict JSON** exactly when its payload names no word. -/
theorem strict_payload_iff (hH : WritesFloats H) (h : decodeFrame H frame maxBytes = .ok v) :
    StrictPayload frame ↔ NoWord frame := by
  have hframed := decodeFrame_eq_ok.1 h
  obtain ⟨hpayload, text, hread⟩ := hframed.payload
  have hloaded := (loaded_loads hH hread).canonicalize
  have hobject : (skipSpace v.canonicalize.dumps).head? = some (Char.ofNat 123) := by
    obtain ⟨members, rfl⟩ := hframed.object
    rfl
  unfold StrictPayload NoWord
  simp only [hpayload, Option.some.injEq, exists_eq_left', forall_eq', String.toList_ofList]
  exact (and_iff_left hobject).trans hloaded.isJson_dumps_iff

end

/-- A frame whose payload is the text. -/
def textFrame (text : String) : List UInt8 :=
  packLength (encodeUtf8 text).length ++ encodeUtf8 text

/-- A number that is written as it was read. -/
theorem strict_payload_number :
    StrictPayload (textFrame "\x7b\"a\":1.5\x7d") ↔ NoWord (textFrame "\x7b\"a\":1.5\x7d") := by
  have htext : "\x7b\"a\":1.5\x7d".toList = [Char.ofNat 123, Char.ofNat 34, 'a', Char.ofNat 34, ':',
    '1', '.', '5', Char.ofNat 125] := rfl
  have hread : loads ⟨id, 4300⟩ "\x7b\"a\":1.5\x7d".toList =
      .ok (.dict [([97], .float ['1', '.', '5'])]) := by
    rw [htext]
    rfl
  have hframe : decodeFrame ⟨id, 4300⟩ (textFrame "\x7b\"a\":1.5\x7d") =
      .ok (.dict [([97], .float ['1', '.', '5'])]) :=
    decodeFrame_frame hread rfl (by decide) (by decide)
  exact strict_payload_iff (fun _ h => .inl h) hframe

/-- `NaN` is read, written and accepted. -/
theorem lenient_payload_nan :
    ¬ ∀ (H : Host) (frame : List UInt8) (maxBytes : Int) (v : Value), WritesFloats H →
      decodeFrame H frame maxBytes = .ok v → StrictPayload frame := by
  intro hstrict
  have htext : "\x7b\"a\":NaN\x7d".toList = [Char.ofNat 123, Char.ofNat 34, 'a', Char.ofNat 34, ':',
    'N', 'a', 'N', Char.ofNat 125] := rfl
  have hread : loads ⟨id, 4300⟩ "\x7b\"a\":NaN\x7d".toList =
      .ok (.dict [([97], .float "NaN".toList)]) := by
    rw [htext]
    rfl
  have hframe : decodeFrame ⟨id, 4300⟩ (textFrame "\x7b\"a\":NaN\x7d") =
      .ok (.dict [([97], .float "NaN".toList)]) :=
    decodeFrame_frame hread rfl (by decide) (by decide)
  have hclean : Clean "\x7b\"a\":NaN\x7d".toList := by
    obtain ⟨text, hdecode, hjson, -⟩ := hstrict _ _ _ _ (fun _ h => .inl h) hframe
    have hpayload : decodeUtf8? ((textFrame "\x7b\"a\":NaN\x7d").drop 4) =
        some "\x7b\"a\":NaN\x7d" := decodeUtf8?_encodeUtf8 _
    rw [hpayload] at hdecode
    cases hdecode
    exact hjson.clean
  obtain ⟨b, hb, hwordless⟩ := hclean
  rw [← hb.bare_eq, htext] at hwordless
  exact absurd hwordless (by decide)

end LawFirmDigitalTwin
