import LawFirmDigitalTwin.Lib.Raising
import LawFirmDigitalTwin.JsonReading
import LawFirmDigitalTwin.SealedIpc.Protocol

/-!
# The frames of the sealed IPC

`encode_frame` and `decode_frame`: four bytes that hold a length, and a canonical JSON text of that
length. What is decoded is written again and compared with the bytes received, so that a value has
one frame only (`frame_codec`).
-/

namespace LawFirmDigitalTwin

open JsonText

/-- `MAX_FRAME_BYTES`. -/
def maxFrameBytes : Nat := 65536

/-- The bytes of `text.encode("utf-8")`. -/
def encodeUtf8 (text : String) : List UInt8 := text.toUTF8.data.toList

/-- `raw.decode("utf-8")`, where it does not raise. -/
def decodeUtf8? (raw : List UInt8) : Option String := String.fromUTF8? ⟨raw.toArray⟩

/-- `struct.pack(">I", n)`. -/
def packLength (n : Nat) : List UInt8 :=
  [.ofNat (n / 2 ^ 24), .ofNat (n / 2 ^ 16), .ofNat (n / 2 ^ 8), .ofNat n]

/-- `struct.unpack(">I", header)[0]`. -/
def unpackLength (header : List UInt8) : Nat :=
  header.foldl (fun n b => n * 2 ^ 8 + b.toNat) 0

mutual

/-- The integers of a value have few enough digits to be written. -/
def fitsDigits (digits : Nat) : Value → Bool
  | .int i => (Nat.toDigits 10 i.natAbs).length ≤ digits
  | .list items => fitsItems digits items
  | .dict entries => fitsMembers digits entries
  | _ => true

def fitsItems (digits : Nat) : List Value → Bool
  | [] => true
  | v :: rest => fitsDigits digits v && fitsItems digits rest

def fitsMembers (digits : Nat) : List (List Nat × Value) → Bool
  | [] => true
  | (_, v) :: rest => fitsDigits digits v && fitsMembers digits rest

end

/-- `canonical_json`, of a value that may hold such an integer. -/
def canonicalText (H : Host) (v : Value) : Except IpcError String :=
  if fitsDigits H.maxDigits v then .ok (String.ofList v.canonicalize.dumps) else .error digitsError

/-- `encode_frame`. -/
def encodeFrame (H : Host) (v : Value) (maxBytes : Int := maxFrameBytes) :
    Except IpcError (List UInt8) := do
  if maxBytes ≤ 0 ∨ (maxFrameBytes : Int) < maxBytes then
    throw (.valueError "ipc_frame_limit_invalid")
  let payload := encodeUtf8 (← canonicalText H v)
  if payload = [] ∨ maxBytes < payload.length then throw (.valueError "ipc_frame_size_denied")
  return packLength payload.length ++ payload

/-- `decode_frame`. -/
def decodeFrame (H : Host) (frame : List UInt8) (maxBytes : Int := maxFrameBytes) :
    Except IpcError Value := do
  if frame.length < 5 then throw (.valueError "ipc_frame_truncated")
  let declared := unpackLength (frame.take 4)
  let payload := frame.drop 4
  if declared ≠ payload.length ∨ declared = 0 ∨ maxBytes < declared then
    throw (.valueError "ipc_frame_length_denied")
  match decodeUtf8? payload with
  | none => throw (.valueError "ipc_frame_json_invalid")
  | some text =>
    match loads H text.toList with
    | .error .decode => throw (.valueError "ipc_frame_json_invalid")
    | .error .digits => throw digitsError
    | .ok (.dict members) =>
      if encodeUtf8 (← canonicalText H (.dict members)) ≠ payload then
        throw (.valueError "ipc_frame_noncanonical")
      return .dict members
    | .ok _ => throw (.valueError "ipc_frame_object_required")

/-! ## The header -/

/-- A length below 2^32 is read back from its four bytes. -/
theorem unpackLength_packLength {n : Nat} (h : n < 2 ^ 32) : unpackLength (packLength n) = n := by
  simp only [unpackLength, packLength, List.foldl_cons, List.foldl_nil, UInt8.toNat_ofNat']
  omega

/-- Four bytes are packed back from the length they read as. -/
theorem packLength_unpackLength (a b c d : UInt8) :
    packLength (unpackLength [a, b, c, d]) = [a, b, c, d] := by
  have ha := a.toNat_lt
  have hb := b.toNat_lt
  have hc := c.toNat_lt
  have hd := d.toNat_lt
  simp only [unpackLength, packLength, List.foldl_cons, List.foldl_nil, List.cons.injEq,
    ← UInt8.toNat_inj, UInt8.toNat_ofNat', and_true]
  omega

/-- A frame of at least four bytes starts with the length it declares. -/
theorem packLength_unpackLength_take {frame : List UInt8} (h : 4 ≤ frame.length) :
    packLength (unpackLength (frame.take 4)) = frame.take 4 := by
  match frame, h with
  | a :: b :: c :: d :: rest, _ => exact packLength_unpackLength a b c d

/-! ## The text -/

/-- A text is decoded from its own bytes. -/
theorem decodeUtf8?_encodeUtf8 (text : String) : decodeUtf8? (encodeUtf8 text) = some text :=
  fromUTF8_toUTF8 text

/-- Items fit where each does. -/
theorem fitsItems_eq_all (digits : Nat) (items : List Value) :
    fitsItems digits items = items.all (fitsDigits digits) := by
  induction items with
  | nil => rfl
  | cons v items ih => rw [fitsItems, ih, List.all_cons]

/-- Members fit where each value does. -/
theorem fitsMembers_eq_all (digits : Nat) (members : List (List Nat × Value)) :
    fitsMembers digits members = members.all fun e => fitsDigits digits e.2 := by
  induction members with
  | nil => rfl
  | cons e members ih => rw [fitsMembers, ih, List.all_cons]

/-- A value of JSON without floats: its strings are texts and its keys distinct; its integers have
any number of digits. -/
def JsonValue (v : Value) : Prop := ∃ digits, Plain ⟨id, digits⟩ v

/-- A value whose integers can be written is read back. -/
theorem JsonValue.plain {H : Host} {v : Value} (h : JsonValue v)
    (hfits : fitsDigits H.maxDigits v = true) : Plain H v := by
  obtain ⟨digits, h⟩ := h
  induction h with
  | null => exact .null
  | bool b => exact .bool b
  | int i _ => exact .int i (of_decide_eq_true hfits)
  | str s scalar => exact .str s scalar
  | list items plain ih =>
    rw [fitsDigits, fitsItems_eq_all, List.all_eq_true] at hfits
    exact .list items fun v hv => ih v hv (hfits v hv)
  | dict entries nodup scalar plain ih =>
    rw [fitsDigits, fitsMembers_eq_all, List.all_eq_true] at hfits
    exact .dict entries nodup scalar fun e he => ih e he (hfits e he)

/-- Sorting the keys leaves the integers. -/
theorem fitsDigits_canonicalize {digits : Nat} {v : Value} (h : fitsDigits digits v = true) :
    fitsDigits digits v.canonicalize = true := by
  induction v using Value.rec_mem with
  | null | bool | int | float | str => exact h
  | list items ih =>
    rw [fitsDigits, fitsItems_eq_all, List.all_eq_true] at h
    rw [Value.canonicalize, canonicalizeItems_eq_map, fitsDigits, fitsItems_eq_all,
      List.all_eq_true, List.forall_mem_map]
    exact fun v hv => ih v hv (h v hv)
  | dict entries ih =>
    rw [fitsDigits, fitsMembers_eq_all, List.all_eq_true] at h
    rw [Value.canonicalize, fitsDigits, fitsMembers_eq_all, List.all_eq_true]
    intro e he
    obtain ⟨e', he', rfl⟩ :=
      List.mem_map.1 ((JsonText.perm_canonicalMembers entries).mem_iff.1 he)
    exact ih e' he' (h e' he')

/-! ## Frames that are written, and frames that are read -/

section
variable {H : Host} {v : Value} {frame : List UInt8} {maxBytes : Int}

/-- What a frame that is encoded is made of. -/
theorem encodeFrame_eq_ok : encodeFrame H v maxBytes = .ok frame ↔
    (0 < maxBytes ∧ maxBytes ≤ maxFrameBytes) ∧ ∃ text, canonicalText H v = .ok text ∧
      (encodeUtf8 text ≠ [] ∧ (encodeUtf8 text).length ≤ maxBytes) ∧
      packLength (encodeUtf8 text).length ++ encodeUtf8 text = frame := by
  unfold encodeFrame
  simp only [Raising.except_throw_if_eq_ok, Raising.except_bind_eq_ok, not_or, not_le, not_lt]
  refine and_congr_right fun _ => exists_congr fun text => and_congr_right fun _ =>
    and_congr_right fun _ => ?_
  exact ⟨Except.ok.inj, congrArg Except.ok⟩

/-- What a frame that is read looks like. -/
structure Framed (H : Host) (maxBytes : Int) (frame : List UInt8) (v : Value) : Prop where
  header : 5 ≤ frame.length
  declared : unpackLength (frame.take 4) = (frame.drop 4).length
  bounded : (unpackLength (frame.take 4) : Int) ≤ maxBytes
  object : ∃ members, v = .dict members
  read : ∃ text, decodeUtf8? (frame.drop 4) = some text ∧ loads H text.toList = .ok v
  written : ∃ text, canonicalText H v = .ok text ∧ encodeUtf8 text = frame.drop 4

/-- A frame is decoded just where it is framed. -/
theorem decodeFrame_eq_ok : decodeFrame H frame maxBytes = .ok v ↔ Framed H maxBytes frame v := by
  unfold decodeFrame
  simp only [Raising.except_throw_if_eq_ok, not_or, not_lt, not_not]
  constructor
  · rintro ⟨hheader, ⟨hdeclared, -, hbounded⟩, h⟩
    split at h
    · cases h
    next text htext =>
    split at h
    · cases h
    · cases h
    · next members hread =>
      simp only [Raising.except_bind_eq_ok, Raising.except_throw_if_eq_ok, not_not] at h
      obtain ⟨written, hwritten, hpayload, hv⟩ := h
      cases hv
      exact ⟨hheader, hdeclared, hbounded, ⟨members, rfl⟩, ⟨text, htext, hread⟩,
        ⟨written, hwritten, hpayload⟩⟩
    · cases h
  · rintro ⟨hheader, hdeclared, hbounded, ⟨members, rfl⟩, ⟨text, htext, hread⟩,
      written, hwritten, hpayload⟩
    have hlength : (frame.drop 4).length ≠ 0 := by
      rw [List.length_drop]
      omega
    refine ⟨hheader, ⟨hdeclared, hdeclared ▸ hlength, hbounded⟩, ?_⟩
    simp only [htext, hread, Raising.except_bind_eq_ok, Raising.except_throw_if_eq_ok, not_not]
    exact ⟨written, hwritten, hpayload, rfl⟩

/-- The frame of a text that is read and written again as it is. -/
theorem decodeFrame_frame {text : String} {members : List (List Nat × Value)}
    (hread : loads H text.toList = .ok (.dict members))
    (hwritten : canonicalText H (.dict members) = .ok text) (hne : encodeUtf8 text ≠ [])
    (hsize : (encodeUtf8 text).length ≤ maxFrameBytes) :
    decodeFrame H (packLength (encodeUtf8 text).length ++ encodeUtf8 text) =
      .ok (.dict members) := by
  have hlength : (packLength (encodeUtf8 text).length).length = 4 := rfl
  have hpos := List.length_pos_iff.2 hne
  have hdeclared := unpackLength_packLength (n := (encodeUtf8 text).length) (by
    have hmax : maxFrameBytes = 65536 := rfl
    omega)
  refine decodeFrame_eq_ok.2 ⟨?_, ?_, ?_, ⟨_, rfl⟩, ?_, ?_⟩
  · rw [List.length_append, hlength]
    omega
  · rw [List.take_left' hlength, List.drop_left' hlength, hdeclared]
  · rw [List.take_left' hlength, hdeclared]
    exact Int.ofNat_le.2 hsize
  · rw [List.drop_left' hlength]
    exact ⟨_, decodeUtf8?_encodeUtf8 _, hread⟩
  · rw [List.drop_left' hlength]
    exact ⟨_, hwritten, rfl⟩

/-- A frame that is written is read as the canonical form of what was written. -/
theorem decodeFrame_encodeFrame (hv : JsonValue v) (hobject : ∃ members, v = .dict members)
    (h : encodeFrame H v = .ok frame) : decodeFrame H frame = .ok v.canonicalize := by
  obtain ⟨-, text, htext, ⟨hne, hsize⟩, rfl⟩ := encodeFrame_eq_ok.1 h
  unfold canonicalText at htext
  split at htext
  · next hfits =>
    cases htext
    obtain ⟨members, rfl⟩ := hobject
    have hread := loads_dumps (hv.plain hfits).canonicalize
    refine decodeFrame_frame (by rw [String.toList_ofList]; exact hread) ?_ hne (by omega)
    have hfits := fitsDigits_canonicalize hfits
    have hagain := (Value.dict members).canonicalize_canonicalize
    rw [Value.canonicalize] at hfits hagain
    rw [canonicalText, if_pos hfits, hagain, Value.canonicalize]
  · cases htext

/-- What is read from a frame is written as that frame. -/
theorem encodeFrame_of_decodeFrame (h : decodeFrame H frame = .ok v) :
    encodeFrame H v = .ok frame := by
  obtain ⟨hheader, hdeclared, hbounded, -, -, text, htext, hpayload⟩ := decodeFrame_eq_ok.1 h
  have hlength := List.length_drop (i := 4) (l := frame)
  refine encodeFrame_eq_ok.2 ⟨by decide, text, htext, ⟨?_, ?_⟩, ?_⟩
  · rw [hpayload, ← List.length_pos_iff]
    omega
  · rwa [hpayload, ← hdeclared]
  · rw [hpayload, ← hdeclared, packLength_unpackLength_take (by omega), List.take_append_drop]

/-- No frame goes on after another. -/
theorem eq_of_prefix {frame' : List UInt8} {v' : Value} (h : decodeFrame H frame = .ok v)
    (h' : decodeFrame H frame' = .ok v') (hpre : frame <+: frame') : frame = frame' := by
  have hf := decodeFrame_eq_ok.1 h
  have hf' := decodeFrame_eq_ok.1 h'
  have hheader := hf.header
  have htake : frame'.take 4 = frame.take 4 := by
    obtain ⟨rest, rfl⟩ := hpre
    exact List.take_append_of_le_length (by omega)
  have hdeclared := hf.declared
  have hdeclared' := hf'.declared
  have hheader' := hf'.header
  rw [htake, hdeclared, List.length_drop, List.length_drop] at hdeclared'
  exact hpre.eq_of_length (by omega)

end

/-- **The codec of frames round-trips.** What is written is read back, up to the order of keys; and
what is read from a frame is written as that frame. So no value has two frames, and no frame is a
proper prefix of another. -/
theorem frame_codec (H : Host) :
    (∀ members frame, JsonValue (.dict members) → encodeFrame H (.dict members) = .ok frame →
      ∃ v, decodeFrame H frame = .ok v ∧ v.Same (.dict members)) ∧
    (∀ frame v, decodeFrame H frame = .ok v → encodeFrame H v = .ok frame) ∧
    (∀ frame frame' v, decodeFrame H frame = .ok v → decodeFrame H frame' = .ok v →
      frame = frame') ∧
    ∀ frame frame' v v', decodeFrame H frame = .ok v → decodeFrame H frame' = .ok v' →
      frame <+: frame' → frame = frame' := by
  refine ⟨fun members frame hv h => ?_, fun _ _ h => encodeFrame_of_decodeFrame h,
    fun _ _ _ h h' => ?_, fun _ _ _ _ h h' hpre => eq_of_prefix h h' hpre⟩
  · obtain ⟨digits, hplain⟩ := hv
    exact ⟨_, decodeFrame_encodeFrame ⟨digits, hplain⟩ ⟨_, rfl⟩ h, hplain.distinct.same_canonicalize⟩
  · exact Except.ok.inj ((encodeFrame_of_decodeFrame h).symm.trans (encodeFrame_of_decodeFrame h'))

/-- The frame of an object with two members. -/
def pairFrame : List UInt8 := [0, 0, 0, 13] ++ encodeUtf8 "\x7b\"a\":1,\"b\":2\x7d"

/-- A frame of two members comes back as it was. -/
theorem frame_codec_pair :
    ∃ v, decodeFrame ⟨id, 4300⟩ pairFrame = .ok v ∧
      v.Same (.dict [([98], .int 2), ([97], .int 1)]) ∧
      encodeFrame ⟨id, 4300⟩ v = .ok pairFrame := by
  have hwrite : encodeFrame ⟨id, 4300⟩ (.dict [([98], .int 2), ([97], .int 1)]) =
      .ok pairFrame := rfl
  have hvalue : JsonValue (.dict [([98], .int 2), ([97], .int 1)]) := by
    refine ⟨1, .dict _ (by decide) ?_ ?_⟩
    · simp [Scalar]
    · simp only [List.forall_mem_cons]
      exact ⟨.int 2 (by decide), .int 1 (by decide), List.forall_mem_nil _⟩
  obtain ⟨v, hread, hsame⟩ := (frame_codec ⟨id, 4300⟩).1 _ _ hvalue hwrite
  exact ⟨v, hread, hsame, (frame_codec ⟨id, 4300⟩).2.1 _ _ hread⟩

end LawFirmDigitalTwin
