import LawFirmDigitalTwin.Lib.Raising
import LawFirmDigitalTwin.JsonReading
import LawFirmDigitalTwin.Mesh.Contracts

/-!
# The protocol of the router process

The request codec of `operational_router_protocol.py`. A request crosses to the worker as canonical
JSON; the worker reads it with `json.loads`, and checks every field before it makes a request of
them. What passes is plain ASCII, so that the fields survive both directions.
-/

namespace LawFirmDigitalTwin

open JsonText

/-- `PROTOCOL_REVISION`. -/
def protocolRevision : String := "lfdt-operational-router-process-v1"

/-- `MAX_REQUEST_BYTES`. -/
def maxRequestBytes : Nat := 16384

/-- `MAX_IDENTIFIER_ITEMS`. -/
def maxIdentifierItems : Nat := 32

/-- `FIXTURE_ID`. -/
def fixtureId : String := "employment-green-g2-v1"

/-- The fields of a request that hold tuples of ids. -/
def tupleFields : List String :=
  ["source_admission_receipt_ids", "reuse_release_receipt_ids", "authority_artifact_ids",
   "prerequisite_receipt_ids"]

/-- `_REQUEST_FIELDS`. -/
def requestFields : List String :=
  ["protocol_revision", "request_id", "fixture_id", "capability_id", "requester_role_id",
   "data_class", "effect_class"] ++ tupleFields ++
    ["requested_adapter", "synthetic_only", "external_io"]

def dataClasses : List String := ["synthetic", "public", "private", "client"]

def effectClasses : List String :=
  ["advisory_only", "simulation_planning_only", "external_write", "legal_decision",
   "financial_posting"]

/-- What `parse_request_bytes` raises: a `ProtocolError`, and what escapes it. -/
inductive RequestError
  | protocolError (code : String)
  | typeError
  | valueError
  deriving DecidableEq

/-- `ProcessRouteRequest`. -/
structure ProcessRouteRequest where
  protocolRevision : String
  requestId : String
  fixtureId : String
  capabilityId : String
  requesterRoleId : String
  dataClass : String := "synthetic"
  effectClass : String := "simulation_planning_only"
  sourceAdmissionReceiptIds : List String := []
  reuseReleaseReceiptIds : List String := []
  authorityArtifactIds : List String := []
  prerequisiteReceiptIds : List String := []
  requestedAdapter : Option String := none
  syntheticOnly : Bool := true
  externalIo : Bool := false
  deriving DecidableEq

/-- `asdict(request)`. -/
def ProcessRouteRequest.fields (r : ProcessRouteRequest) : List (String × Json) :=
  [("protocol_revision", .str r.protocolRevision),
   ("request_id", .str r.requestId),
   ("fixture_id", .str r.fixtureId),
   ("capability_id", .str r.capabilityId),
   ("requester_role_id", .str r.requesterRoleId),
   ("data_class", .str r.dataClass),
   ("effect_class", .str r.effectClass),
   ("source_admission_receipt_ids", .strs r.sourceAdmissionReceiptIds),
   ("reuse_release_receipt_ids", .strs r.reuseReleaseReceiptIds),
   ("authority_artifact_ids", .strs r.authorityArtifactIds),
   ("prerequisite_receipt_ids", .strs r.prerequisiteReceiptIds),
   ("requested_adapter", optionalText r.requestedAdapter),
   ("synthetic_only", .bool r.syntheticOnly),
   ("external_io", .bool r.externalIo)]

/-- `request_to_bytes`. -/
def requestToBytes (r : ProcessRouteRequest) : ByteArray :=
  (canonicalJson (.dict r.fields)).toUTF8

/-! ## Reading a request -/

/-- `[A-Za-z0-9]`. -/
def letterOrDigit (n : Nat) : Bool :=
  (48 ≤ n ∧ n ≤ 57) ∨ (65 ≤ n ∧ n ≤ 90) ∨ (97 ≤ n ∧ n ≤ 122)

/-- `[A-Za-z0-9._:-]`. -/
def identifierPoint (n : Nat) : Bool := letterOrDigit n ∨ n ∈ [46, 95, 58, 45]

/-- `_IDENTIFIER.fullmatch`. -/
def isIdentifier : List Nat → Bool
  | [] => false
  | n :: rest => letterOrDigit n && (decide (rest.length ≤ 159) && rest.all identifierPoint)

/-- `_valid_identifier`. -/
def validIdentifier : Value → Bool
  | .str s => isIdentifier s
  | _ => false

/-- A list of valid identifiers that is not too long. -/
def validIdentifiers : Value → Bool
  | .list items => decide (items.length ≤ maxIdentifierItems) && items.all validIdentifier
  | _ => false

/-- `type(value) is bool`. -/
def isBool : Value → Bool
  | .bool _ => true
  | _ => false

/-- `value == text`. -/
def isText (text : String) : Value → Bool
  | .str s => s = codes text
  | _ => false

/-- `value in texts`, of a set. -/
def isMember (texts : List String) : Value → Except RequestError Bool
  | .list _ | .dict _ => .error .typeError
  | v => .ok (texts.any fun text => isText text v)

/-- `value is None`. -/
def isNone : Value → Bool
  | .null => true
  | _ => false

/-- The text of a value that was checked to be one. -/
def textOf : Value → String
  | .str s => String.ofList (s.map Char.ofNat)
  | _ => ""

/-- The texts of a value that was checked to be a list of them. -/
def textsOf : Value → List String
  | .list items => items.map textOf
  | _ => []

/-- The truth of a value that was checked to be one. -/
def flagOf : Value → Bool
  | .bool b => b
  | _ => false

/-- The checks of `parse_request_bytes` on the fields, in their order. -/
def checkFields (value : String → Value) : Except RequestError Unit := do
  if ∃ field ∈ tupleFields, ¬ validIdentifiers (value field) then
    throw (.protocolError "request_types_invalid")
  if ∃ field ∈ ["request_id", "capability_id", "requester_role_id"],
      ¬ validIdentifier (value field) then
    throw (.protocolError "request_value_invalid")
  if ¬ isNone (value "requested_adapter") ∧ ¬ validIdentifier (value "requested_adapter") then
    throw (.protocolError "request_value_invalid")
  if ¬ isBool (value "synthetic_only") ∨ ¬ isBool (value "external_io") then
    throw (.protocolError "request_types_invalid")
  if ¬ isText protocolRevision (value "protocol_revision") then
    throw (.protocolError "protocol_revision_invalid")
  if ¬ isText fixtureId (value "fixture_id") then throw (.protocolError "fixture_unknown")
  if ¬ (← isMember dataClasses (value "data_class")) then
    throw (.protocolError "request_value_invalid")
  if ¬ (← isMember effectClasses (value "effect_class")) then
    throw (.protocolError "request_value_invalid")

/-- `ProcessRouteRequest(**value)`. -/
def requestOf (value : String → Value) : ProcessRouteRequest where
  protocolRevision := textOf (value "protocol_revision")
  requestId := textOf (value "request_id")
  fixtureId := textOf (value "fixture_id")
  capabilityId := textOf (value "capability_id")
  requesterRoleId := textOf (value "requester_role_id")
  dataClass := textOf (value "data_class")
  effectClass := textOf (value "effect_class")
  sourceAdmissionReceiptIds := textsOf (value "source_admission_receipt_ids")
  reuseReleaseReceiptIds := textsOf (value "reuse_release_receipt_ids")
  authorityArtifactIds := textsOf (value "authority_artifact_ids")
  prerequisiteReceiptIds := textsOf (value "prerequisite_receipt_ids")
  requestedAdapter :=
    if isNone (value "requested_adapter") then none else some (textOf (value "requested_adapter"))
  syntheticOnly := flagOf (value "synthetic_only")
  externalIo := flagOf (value "external_io")

/-- `value[field]`, of an object that has the fields. -/
def fieldOf (members : List (List Nat × Value)) (field : String) : Value :=
  (members.lookup (codes field)).getD .null

/-- `parse_request_bytes`, once the text is read. -/
def parseRequestValue : Value → Except RequestError ProcessRouteRequest
  | .dict members =>
    if (members.map (·.1)).toFinset ≠ (requestFields.map codes).toFinset then
      .error (.protocolError "request_fields_invalid")
    else (checkFields (fieldOf members)).map fun _ => requestOf (fieldOf members)
  | _ => .error (.protocolError "request_not_object")

/-- `parse_request_bytes`. -/
def parseRequestBytes (H : Host) (raw : ByteArray) : Except RequestError ProcessRouteRequest :=
  if maxRequestBytes < raw.size then .error (.protocolError "request_too_large")
  else
    match String.fromUTF8? raw with
    | none => .error (.protocolError "malformed_json")
    | some text =>
      match loads H text.toList with
      | .error .decode => .error (.protocolError "malformed_json")
      | .error .digits => .error .valueError
      | .ok value => parseRequestValue value

/-! ## The constraints -/

/-- The tuples of ids of a request. -/
def ProcessRouteRequest.tuples (r : ProcessRouteRequest) : List (List String) :=
  [r.sourceAdmissionReceiptIds, r.reuseReleaseReceiptIds, r.authorityArtifactIds,
    r.prerequisiteReceiptIds]

/-- An id. -/
def IsId (s : String) : Prop := isIdentifier (codes s) = true

instance : DecidablePred IsId := fun s =>
  inferInstanceAs (Decidable (isIdentifier (codes s) = true))

/-- The constraints that `parse_request_bytes` enforces on a request. -/
structure ProcessRouteRequest.Valid (r : ProcessRouteRequest) : Prop where
  revision : r.protocolRevision = LawFirmDigitalTwin.protocolRevision
  fixture : r.fixtureId = LawFirmDigitalTwin.fixtureId
  ids : ∀ s ∈ [r.requestId, r.capabilityId, r.requesterRoleId], IsId s
  tuples : ∀ l ∈ r.tuples, l.length ≤ maxIdentifierItems ∧ ∀ s ∈ l, IsId s
  adapter : ∀ s ∈ r.requestedAdapter, IsId s
  dataClass : r.dataClass ∈ dataClasses
  effectClass : r.effectClass ∈ effectClasses

/-- What the checks of the fields ask for. -/
structure Checked (value : String → Value) : Prop where
  tuples : ∀ field ∈ tupleFields, validIdentifiers (value field) = true
  ids : ∀ field ∈ ["request_id", "capability_id", "requester_role_id"],
    validIdentifier (value field) = true
  adapter : isNone (value "requested_adapter") = true ∨
    validIdentifier (value "requested_adapter") = true
  synthetic : isBool (value "synthetic_only") = true
  external : isBool (value "external_io") = true
  revision : isText protocolRevision (value "protocol_revision") = true
  fixture : isText fixtureId (value "fixture_id") = true
  dataClass : isMember dataClasses (value "data_class") = .ok true
  effectClass : isMember effectClasses (value "effect_class") = .ok true

/-! ## The checks -/

/-- The checks of the fields pass together or not at all. -/
theorem checkFields_eq_ok {value : String → Value} :
    checkFields value = .ok () ↔ Checked value := by
  unfold checkFields
  simp only [Raising.except_throw_if_eq_ok, Raising.except_bind_eq_ok,
    Raising.except_throw_last_eq_ok, not_not,
    not_or, not_and, not_exists]
  constructor
  · rintro ⟨htuples, hids, hadapter, ⟨hsynthetic, hexternal⟩, hrevision, hfixture, data, hdata,
      rfl, effect, heffect, rfl⟩
    exact ⟨htuples, hids, or_iff_not_imp_left.2 hadapter, hsynthetic, hexternal, hrevision,
      hfixture, hdata, heffect⟩
  · rintro ⟨htuples, hids, hadapter, hsynthetic, hexternal, hrevision, hfixture, hdata, heffect⟩
    exact ⟨htuples, hids, or_iff_not_imp_left.1 hadapter, ⟨hsynthetic, hexternal⟩, hrevision,
      hfixture, true, hdata, rfl, true, heffect, rfl⟩

/-! ## Writing, then reading -/

/-- A text is read back from its code points. -/
theorem textOf_codes (s : String) : textOf (.str (codes s)) = s := by
  have hchars : s.toList.map (Char.ofNat ∘ Char.toNat) = s.toList :=
    (List.map_congr_left fun c _ => Char.ofNat_toNat c).trans (List.map_id _)
  rw [textOf, codes, List.map_map, hchars, String.ofList_toList]

/-- A list of texts as the reader gives it. -/
theorem toValue_strs (l : List String) :
    (Json.strs l).toValue = .list (l.map fun s => .str (codes s)) := by
  rw [Json.strs, Json.toValue, Json.toValues_eq_map, List.map_map]
  rfl

/-- A list of texts is read back from what the reader gives. -/
theorem textsOf_strs (l : List String) : textsOf (Json.strs l).toValue = l := by
  rw [toValue_strs, textsOf, List.map_map]
  exact (List.map_congr_left fun s _ => textOf_codes s).trans (List.map_id l)

/-- The values under the fields are those of a request. -/
def Carries (value : String → Value) (r : ProcessRouteRequest) : Prop :=
  ∀ e ∈ r.fields, value e.1 = e.2.toValue

section
variable {value : String → Value} {r : ProcessRouteRequest}

/-- A request is made again of the values it wrote. -/
theorem Carries.requestOf (h : Carries value r) : requestOf value = r := by
  simp only [Carries, ProcessRouteRequest.fields, List.forall_mem_cons] at h
  obtain ⟨hrevision, hid, hfixture, hcapability, hrole, hdata, heffect, hadmission, hrelease,
    hauthority, hprerequisite, hadapter, hsynthetic, hexternal, -⟩ := h
  unfold LawFirmDigitalTwin.requestOf
  rw [hrevision, hid, hfixture, hcapability, hrole, hdata, heffect, hadmission, hrelease,
    hauthority, hprerequisite, hadapter, hsynthetic, hexternal]
  simp only [Json.toValue, textOf_codes, textsOf_strs]
  cases r with
  | mk _ _ _ _ _ _ _ _ _ _ _ adapter _ _ =>
    cases adapter with
    | none => rfl
    | some s => simp only [optionalText, Json.toValue, isNone, textOf_codes]; rfl

/-- A valid list of ids passes its check. -/
theorem validIdentifiers_strs {l : List String} (hlen : l.length ≤ maxIdentifierItems)
    (hids : ∀ s ∈ l, IsId s) : validIdentifiers (Json.strs l).toValue = true := by
  rw [toValue_strs, validIdentifiers, List.length_map, decide_eq_true hlen, Bool.true_and,
    List.all_eq_true, List.forall_mem_map]
  exact hids

/-- The code points of a text are that text. -/
theorem isText_codes (text : String) : isText text (.str (codes text)) = true := by
  rw [isText, decide_eq_true rfl]

/-- A listed text is a member. -/
theorem isMember_codes {texts : List String} {s : String} (h : s ∈ texts) :
    isMember texts (.str (codes s)) = .ok true := by
  rw [isMember, List.any_eq_true.2 ⟨s, h, isText_codes s⟩] <;> exact fun _ h => Value.noConfusion h

/-- The values that a valid request wrote pass the checks. -/
theorem Carries.checked (h : Carries value r) (hr : r.Valid) : Checked value := by
  simp only [Carries, ProcessRouteRequest.fields, List.forall_mem_cons] at h
  obtain ⟨hrevision, hid, hfixture, hcapability, hrole, hdata, heffect, hadmission, hrelease,
    hauthority, hprerequisite, hadapter, hsynthetic, hexternal, -⟩ := h
  have hlist (l : List String) (hl : l ∈ r.tuples) :
      validIdentifiers (Json.strs l).toValue = true :=
    validIdentifiers_strs (hr.tuples l hl).1 (hr.tuples l hl).2
  simp only [ProcessRouteRequest.tuples, List.forall_mem_cons] at hlist
  refine ⟨?_, ?_, ?_, ?_, ?_, ?_, ?_, ?_, ?_⟩
  · simp only [tupleFields, List.forall_mem_cons, hadmission, hrelease, hauthority, hprerequisite]
    exact ⟨hlist.1, hlist.2.1, hlist.2.2.1, hlist.2.2.2.1, List.forall_mem_nil _⟩
  · have hids := hr.ids
    simp only [List.forall_mem_cons] at hids ⊢
    rw [hid, hcapability, hrole]
    exact ⟨hids.1, hids.2.1, hids.2.2.1, List.forall_mem_nil _⟩
  · rw [hadapter]
    cases hsome : r.requestedAdapter with
    | none => exact .inl rfl
    | some s => exact .inr (hr.adapter s hsome)
  · rw [hsynthetic]
    rfl
  · rw [hexternal]
    rfl
  · rw [hrevision, hr.revision]
    exact isText_codes _
  · rw [hfixture, hr.fixture]
    exact isText_codes _
  · rw [hdata]
    exact isMember_codes hr.dataClass
  · rw [heffect]
    exact isMember_codes hr.effectClass

end

/-! ## What passed the checks -/

/-- A code point of an identifier is ASCII. -/
theorem lt_of_identifierPoint {n : Nat} (h : identifierPoint n = true) : n < 128 := by
  simp only [identifierPoint, letterOrDigit, List.mem_cons, List.not_mem_nil, Bool.decide_or,
    Bool.decide_and, Bool.or_eq_true, Bool.and_eq_true, decide_eq_true_eq, or_false] at h
  omega

/-- An id is ASCII. -/
theorem lt_of_isIdentifier {s : List Nat} (h : isIdentifier s = true) {n : Nat} (hn : n ∈ s) :
    n < 128 := by
  cases s with
  | nil => exact absurd hn List.not_mem_nil
  | cons first rest =>
    simp only [isIdentifier, Bool.and_eq_true, List.all_eq_true] at h
    obtain ⟨hfirst, -, hrest⟩ := h
    rcases List.mem_cons.1 hn with rfl | hn
    · exact lt_of_identifierPoint (decide_eq_true (.inl hfirst))
    · exact lt_of_identifierPoint (hrest n hn)

/-- The code points of an id are those of its text. -/
theorem codes_textOf {s : List Nat} (h : ∀ n ∈ s, n < 128) : codes (textOf (.str s)) = s := by
  unfold textOf codes
  rw [String.toList_ofList, List.map_map]
  refine (List.map_congr_left fun n hn => ?_).trans (List.map_id s)
  have hvalid : n.isValidChar := .inl (by have := h n hn; omega)
  rw [Function.comp_apply, Char.ofNat, dif_pos hvalid]
  rfl

/-- What passes as an identifier is one. -/
theorem IsId.of_valid {v : Value} (h : validIdentifier v = true) : IsId (textOf v) := by
  cases v with
  | str s =>
    unfold IsId
    rw [codes_textOf fun n hn => lt_of_isIdentifier h hn]
    exact h
  | _ => exact Bool.noConfusion h

/-- What passes as identifiers is a short tuple of them. -/
theorem tuple_of_valid {v : Value} (h : validIdentifiers v = true) :
    (textsOf v).length ≤ maxIdentifierItems ∧ ∀ s ∈ textsOf v, IsId s := by
  cases v with
  | list items =>
    simp only [validIdentifiers, Bool.and_eq_true, decide_eq_true_eq, List.all_eq_true] at h
    rw [textsOf, List.length_map, List.forall_mem_map]
    exact ⟨h.1, fun item hitem => IsId.of_valid (h.2 item hitem)⟩
  | _ => exact Bool.noConfusion h

/-- What equals a text reads as that text. -/
theorem textOf_of_isText {text : String} {v : Value} (h : isText text v = true) :
    textOf v = text := by
  cases v with
  | str s => rw [of_decide_eq_true h, textOf_codes]
  | _ => exact Bool.noConfusion h

/-- What is a member reads as a listed text. -/
theorem textOf_of_isMember {texts : List String} {v : Value} (h : isMember texts v = .ok true) :
    textOf v ∈ texts := by
  have hany : texts.any (fun text => isText text v) = true := by
    cases v with
    | list | dict => cases h
    | _ => exact Except.ok.inj h
  obtain ⟨text, htext, hv⟩ := List.any_eq_true.1 hany
  rwa [textOf_of_isText hv]

/-- Values that pass the checks make a valid request. -/
theorem Checked.valid {value : String → Value} (h : Checked value) : (requestOf value).Valid := by
  have htuple {field : String} (hfield : field ∈ tupleFields) :=
    tuple_of_valid (h.tuples field hfield)
  refine ⟨textOf_of_isText h.revision, textOf_of_isText h.fixture, ?_, ?_, ?_,
    textOf_of_isMember h.dataClass, textOf_of_isMember h.effectClass⟩
  · have hids := h.ids
    simp only [List.forall_mem_cons] at hids ⊢
    exact ⟨.of_valid hids.1, .of_valid hids.2.1, .of_valid hids.2.2.1, List.forall_mem_nil _⟩
  · simp only [ProcessRouteRequest.tuples, List.forall_mem_cons]
    exact ⟨htuple (by decide), htuple (by decide), htuple (by decide), htuple (by decide),
      List.forall_mem_nil _⟩
  · intro s hs
    by_cases hnone : isNone (value "requested_adapter") = true
    · simp [requestOf, hnone] at hs
    · have hsome : s = textOf (value "requested_adapter") := by
        simpa [requestOf, hnone, eq_comm] using hs
      rw [hsome]
      exact .of_valid (h.adapter.resolve_left hnone)

/-! ## The codec -/

/-- A character takes at most four bytes. -/
theorem size_toUTF8_le (s : String) : s.toUTF8.size ≤ 4 * s.toList.length := by
  have hbytes (l : List Char) : (l.flatMap String.utf8EncodeChar).length ≤ 4 * l.length := by
    induction l with
    | nil => exact le_rfl
    | cons c l ih =>
      have hc := c.utf8Size_le_four
      rw [List.flatMap_cons, List.length_append, List.length_cons, String.length_utf8EncodeChar]
      omega
  rw [String.toUTF8_eq_toByteArray, ← String.ofList_toList (s := s), String.toByteArray_ofList,
    List.utf8Encode, List.size_toByteArray, String.toList_ofList]
  exact hbytes s.toList

/-- The keys of a request are the fields of the protocol. -/
theorem keys_fields (r : ProcessRouteRequest) : r.fields.map (·.1) = requestFields := rfl

/-- The fields of a request are plain, and canonical. -/
theorem isPlain_fields (r : ProcessRouteRequest) (digits : Nat) :
    (Json.dict r.fields).IsPlain digits := by
  have hstrs (l : List String) : (Json.strs l).IsPlain digits :=
    .list _ (List.forall_mem_map.2 fun s _ => .str s)
  refine .dict _ (by rw [keys_fields]; decide) ?_
  simp only [ProcessRouteRequest.fields, List.forall_mem_cons]
  refine ⟨.str _, .str _, .str _, .str _, .str _, .str _, .str _, hstrs _, hstrs _, hstrs _,
    hstrs _, ?_, .bool _, .bool _, List.forall_mem_nil _⟩
  cases r.requestedAdapter with
  | none => exact .null
  | some s => exact .str s

/-- The fields of a request are in their canonical form. -/
theorem canonicalize_fields (r : ProcessRouteRequest) :
    ∀ e ∈ r.fields, e.2.canonicalize = e.2 := by
  have hstrs (l : List String) : (Json.strs l).canonicalize = Json.strs l := by
    rw [Json.strs, Json.canonicalize, Json.canonicalizeItems_eq_map, List.map_map]
    rfl
  simp only [ProcessRouteRequest.fields, List.forall_mem_cons]
  refine ⟨rfl, rfl, rfl, rfl, rfl, rfl, rfl, hstrs _, hstrs _, hstrs _, hstrs _, ?_, rfl, rfl,
    List.forall_mem_nil _⟩
  cases r.requestedAdapter <;> rfl

/-- What is found under the fields of a request that was written is what it wrote. -/
theorem carries_canonicalMembers (r : ProcessRouteRequest) :
    Carries (fieldOf (canonicalMembers r.fields)) r := by
  intro e he
  have hnodup : (r.fields.map (·.1)).Nodup := by
    rw [keys_fields]
    decide
  rw [fieldOf, lookup_canonicalMembers hnodup he, Option.getD_some, canonicalize_fields r e he]

/-- A valid request that fits is read back. -/
theorem parse_requestToBytes (H : Host) {r : ProcessRouteRequest} (hr : r.Valid)
    (hsize : (requestToBytes r).size ≤ maxRequestBytes) :
    parseRequestBytes H (requestToBytes r) = .ok r := by
  have hcarries := carries_canonicalMembers r
  have hloads : loads H (canonicalJson (.dict r.fields)).toList =
      .ok (.dict (canonicalMembers r.fields)) := loads_canonicalJson (isPlain_fields r _)
  have hkeys : ((canonicalMembers r.fields).map (·.1)).toFinset =
      (requestFields.map codes).toFinset := toFinset_canonicalMembers _
  rw [parseRequestBytes, if_neg (not_lt.2 hsize), requestToBytes, fromUTF8_toUTF8]
  simp only [hloads]
  rw [parseRequestValue, if_neg (not_not.2 hkeys), checkFields_eq_ok.2 (hcarries.checked hr),
    Except.map, hcarries.requestOf]

/-- What is read is valid. -/
theorem valid_of_parse {H : Host} {raw : ByteArray} {r : ProcessRouteRequest}
    (h : parseRequestBytes H raw = .ok r) : r.Valid := by
  unfold parseRequestBytes at h
  split at h
  · cases h
  split at h
  · cases h
  split at h
  · cases h
  · cases h
  next value _ =>
  cases value with
  | dict members =>
    rw [parseRequestValue] at h
    split at h
    · exact absurd h (by simp)
    · obtain ⟨_, hchecked, rfl⟩ := map_eq_ok.1 h
      exact (checkFields_eq_ok.1 hchecked).valid
  | _ => cases h

/-- **The codec of requests round-trips.** A valid request whose text fits is read back from it; and
whatever bytes are accepted, the request is valid, and is read back from its own text if that
fits. -/
theorem request_codec (H : Host) :
    (∀ r : ProcessRouteRequest, r.Valid → (requestToBytes r).size ≤ maxRequestBytes →
      parseRequestBytes H (requestToBytes r) = .ok r) ∧
    ∀ raw r, parseRequestBytes H raw = .ok r → r.Valid ∧
      ((requestToBytes r).size ≤ maxRequestBytes →
        parseRequestBytes H (requestToBytes r) = .ok r) :=
  ⟨fun _ hr hsize => parse_requestToBytes H hr hsize, fun _ _ h =>
    ⟨valid_of_parse h, fun hsize => parse_requestToBytes H (valid_of_parse h) hsize⟩⟩

/-- A request with an id in its lists. -/
def planningRequest : ProcessRouteRequest where
  protocolRevision := protocolRevision
  requestId := "OPREQ-1"
  fixtureId := fixtureId
  capabilityId := "cap.intake:v1"
  requesterRoleId := "OPR-SCHED"
  sourceAdmissionReceiptIds := ["OPADM-1", "OPADM-2"]
  requestedAdapter := some "adapter.local"

/-- The planning request comes back from its own bytes. -/
theorem request_codec_planning :
    planningRequest.Valid ∧
      parseRequestBytes ⟨id, 4300⟩ (requestToBytes planningRequest) = .ok planningRequest := by
  have hvalid : planningRequest.Valid :=
    ⟨rfl, rfl, by decide, by decide, by decide, by decide, by decide⟩
  have hlength : (canonicalJson (.dict planningRequest.fields)).toList.length ≤ 4096 := by
    rw [canonicalJson, String.toList_ofList]
    decide +kernel
  have hsize : (requestToBytes planningRequest).size ≤ maxRequestBytes := by
    have hbytes := size_toUTF8_le (canonicalJson (.dict planningRequest.fields))
    unfold requestToBytes maxRequestBytes
    omega
  have hread := (request_codec ⟨id, 4300⟩).1 planningRequest hvalid hsize
  exact ⟨((request_codec ⟨id, 4300⟩).2 _ _ hread).1, hread⟩

end LawFirmDigitalTwin
