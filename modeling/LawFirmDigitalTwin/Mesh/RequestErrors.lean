import LawFirmDigitalTwin.Lib.JsonDepth
import LawFirmDigitalTwin.Mesh.Protocol

/-!
# What a malformed request raises

`parse_request_bytes` on hostile bytes. Its own checks raise a `ProtocolError` with a safe code;
what escapes them comes from below: the reader of JSON runs into the recursion limit or into the
limit on the digits of an integer, or one of the two classes of the request is not hashable when it
is looked up in a set (`parseRequest_safe_iff`).
-/

namespace LawFirmDigitalTwin

open JsonText

/-- `SAFE_BLOCK_CODES`. -/
def safeBlockCodes : List String :=
  ["fixture_unknown", "malformed_json", "protocol_revision_invalid", "request_fields_invalid",
   "request_not_object", "request_too_large", "request_types_invalid", "request_value_invalid",
   "service_failure", "service_timeout", "service_crash", "response_invalid"]

/-- The text that is given to `json.loads`, if the bytes are not too many and UTF-8. -/
def requestText (raw : ByteArray) : Option String :=
  if maxRequestBytes < raw.size then none else String.fromUTF8? raw

/-- `parse_request_bytes`, in an interpreter that lets the reader open `maxDepth` containers in each
other. -/
def parseRequestWithin (H : Host) (maxDepth : Nat) (raw : ByteArray) :
    Except (Raised RequestError) ProcessRouteRequest :=
  if (requestText raw).any fun text => Overruns H maxDepth text.toList then
    .error .recursionError
  else (parseRequestBytes H raw).mapError .error

/-- A request, or a `ProtocolError` with a safe code. -/
def FailsSafely {α : Type} : Except (Raised RequestError) α → Prop
  | .ok _ => True
  | .error (.error (.protocolError code)) => code ∈ safeBlockCodes
  | .error _ => False

/-- A value that may be looked up in a set. -/
def IsHashable : Value → Prop
  | .list _ | .dict _ => False
  | _ => True

/-- What the checks before those of the classes ask for. -/
structure ReachesClasses (value : String → Value) : Prop where
  tuples : ∀ field ∈ tupleFields, validIdentifiers (value field) = true
  ids : ∀ field ∈ ["request_id", "capability_id", "requester_role_id"],
    validIdentifier (value field) = true
  adapter : isNone (value "requested_adapter") = true ∨
    validIdentifier (value "requested_adapter") = true
  synthetic : isBool (value "synthetic_only") = true
  external : isBool (value "external_io") = true
  revision : isText protocolRevision (value "protocol_revision") = true
  fixture : isText fixtureId (value "fixture_id") = true

/-- The classes of a request may be looked up, where they are. -/
def ClassesHashable (value : String → Value) : Prop :=
  ReachesClasses value → IsHashable (value "data_class") ∧
    (isMember dataClasses (value "data_class") = .ok true → IsHashable (value "effect_class"))

/-- What the reading and the lookups of a request need of its bytes. -/
def Readable (H : Host) (maxDepth : Nat) (raw : ByteArray) : Prop :=
  ∀ text ∈ requestText raw, ¬ Overruns H maxDepth text.toList ∧
    loads H text.toList ≠ .error .digits ∧
    ∀ members, loads H text.toList = .ok (.dict members) →
      (members.map (·.1)).toFinset = (requestFields.map codes).toFinset →
      ClassesHashable (fieldOf members)

/-! ## The checks of the fields -/

section
variable {α β : Type}

/-- A safe code. -/
theorem failsSafely_error {code : String} (hcode : code ∈ safeBlockCodes) :
    FailsSafely ((.error (.protocolError code) : Except RequestError α).mapError .error) := hcode

/-- Wrapping what is returned leaves the failures alone. -/
theorem failsSafely_map {f : α → β} {x : Except RequestError α} :
    FailsSafely ((x.map f).mapError .error) ↔ FailsSafely (x.mapError .error) := by
  cases x with
  | ok a => exact Iff.rfl
  | error e => cases e <;> exact Iff.rfl

/-- A check of the program's own. -/
theorem failsSafely_throw_if {P : Prop} [Decidable P] {code : String} (hcode : code ∈ safeBlockCodes)
    {x : Except RequestError α} :
    FailsSafely ((do
      if P then throw (.protocolError code)
      x : Except RequestError α).mapError .error) ↔ (¬ P → FailsSafely (x.mapError .error)) := by
  by_cases h : P
  · rw [if_pos h]
    exact iff_of_true hcode fun hP => absurd h hP
  · rw [if_neg h]
    exact ⟨fun hx _ => hx, fun hx => hx h⟩

/-- A membership test fails safely where its value can be hashed. -/
theorem failsSafely_isMember {texts : List String} {v : Value}
    {k : Bool → Except RequestError α} :
    FailsSafely ((isMember texts v >>= k).mapError .error) ↔
      IsHashable v ∧ ∀ b, isMember texts v = .ok b → FailsSafely ((k b).mapError .error) := by
  cases v with
  | list | dict => exact iff_of_false id fun h => h.1
  | _ => exact ⟨fun h => ⟨trivial, fun b hb => by cases hb; exact h⟩, fun h => h.2 _ rfl⟩

end

/-- The last lookup. -/
theorem effectClass_safe_iff {v : Value} :
    FailsSafely ((do
      if ¬ (← isMember effectClasses v) then throw (.protocolError "request_value_invalid") :
        Except RequestError Unit).mapError .error) ↔ IsHashable v := by
  rw [failsSafely_isMember]
  refine and_iff_left fun b _ => ?_
  cases b <;> simp [FailsSafely, Except.mapError, safeBlockCodes, throw, throwThe,
    MonadExceptOf.throw]

/-- **The checks fail safely where the classes are hashable.** -/
theorem checkFields_safe_iff {value : String → Value} :
    FailsSafely ((checkFields value).mapError .error) ↔ ClassesHashable value := by
  unfold checkFields
  rw [failsSafely_throw_if (by decide), failsSafely_throw_if (by decide),
    failsSafely_throw_if (by decide), failsSafely_throw_if (by decide),
    failsSafely_throw_if (by decide), failsSafely_throw_if (by decide), failsSafely_isMember]
  have heffect : (∀ b, isMember dataClasses (value "data_class") = .ok b →
      FailsSafely ((do
        if ¬ b then throw (.protocolError "request_value_invalid")
        if ¬ (← isMember effectClasses (value "effect_class")) then
          throw (.protocolError "request_value_invalid") :
            Except RequestError Unit).mapError .error)) ↔
      (isMember dataClasses (value "data_class") = .ok true → IsHashable (value "effect_class")) := by
    constructor
    · intro h hdata
      exact effectClass_safe_iff.1 ((failsSafely_throw_if (by decide)).1 (h true hdata) (by decide))
    · intro h b hb
      rw [failsSafely_throw_if (by decide), effectClass_safe_iff, not_not]
      rintro rfl
      exact h hb
  rw [heffect]
  simp only [not_exists, not_and, not_not, not_or]
  constructor
  · intro h hreach
    exact h hreach.tuples hreach.ids (or_iff_not_imp_left.1 hreach.adapter)
      ⟨hreach.synthetic, hreach.external⟩ hreach.revision hreach.fixture
  · intro h htuples hids hadapter hflags hrevision hfixture
    exact h ⟨htuples, hids, or_iff_not_imp_left.2 hadapter, hflags.1, hflags.2, hrevision, hfixture⟩

/-! ## The request -/

/-- A request's value fails safely where its classes can be hashed. -/
theorem parseRequestValue_safe_iff {v : Value} :
    FailsSafely ((parseRequestValue v).mapError .error) ↔
      ∀ members, v = .dict members →
        (members.map (·.1)).toFinset = (requestFields.map codes).toFinset →
        ClassesHashable (fieldOf members) := by
  cases v with
  | dict members =>
    simp only [Value.dict.injEq, forall_eq', parseRequestValue]
    by_cases hkeys : (members.map (·.1)).toFinset = (requestFields.map codes).toFinset
    · rw [if_neg (not_not.2 hkeys), failsSafely_map, checkFields_safe_iff]
      exact ⟨fun h _ => h, fun h => h hkeys⟩
    · rw [if_pos hkeys]
      exact iff_of_true (failsSafely_error (by decide)) fun h => absurd h hkeys
  | _ => exact iff_of_true (failsSafely_error (by decide)) fun _ h => by cases h

/-- The request of what `json.loads` returned or raised. -/
def parseLoaded : Except LoadError Value → Except RequestError ProcessRouteRequest
  | .error .decode => .error (.protocolError "malformed_json")
  | .error .digits => .error .valueError
  | .ok value => parseRequestValue value

section
variable {H : Host} {maxDepth : Nat} {raw : ByteArray} {text : String}

/-- Bytes without a text are refused. -/
theorem parseRequestWithin_of_none (htext : requestText raw = none) :
    FailsSafely (parseRequestWithin H maxDepth raw) := by
  rw [parseRequestWithin, htext, parseRequestBytes]
  by_cases hsize : maxRequestBytes < raw.size
  · rw [if_pos hsize]
    exact failsSafely_error (by decide)
  · rw [requestText, if_neg hsize] at htext
    rw [if_neg hsize, htext]
    exact failsSafely_error (by decide)

/-- A text that the reader gets through is parsed as it was read. -/
theorem parseRequestWithin_of_some (htext : requestText raw = some text)
    (hdeep : ¬ Overruns H maxDepth text.toList) :
    parseRequestWithin H maxDepth raw = (parseLoaded (loads H text.toList)).mapError .error := by
  have hsize : ¬ maxRequestBytes < raw.size := by
    intro hlarge
    rw [requestText, if_pos hlarge] at htext
    cases htext
  have hutf8 : String.fromUTF8? raw = some text := by rwa [requestText, if_neg hsize] at htext
  have hparse : parseRequestBytes H raw = parseLoaded (loads H text.toList) := by
    rw [parseRequestBytes, if_neg hsize, hutf8]
    dsimp only
    cases loads H text.toList with
    | error e => cases e <;> rfl
    | ok v => rfl
  rw [parseRequestWithin, htext, Option.any_some, decide_eq_false hdeep, hparse]
  rfl

/-- What a text does that the reader does not get through. -/
theorem not_failsSafely_of_overruns (htext : requestText raw = some text)
    (hdeep : Overruns H maxDepth text.toList) :
    ¬ FailsSafely (parseRequestWithin H maxDepth raw) := by
  rw [parseRequestWithin, htext, Option.any_some, decide_eq_true hdeep]
  exact id

/-- A request whose classes cannot be looked up. -/
theorem not_failsSafely_of_classes (htext : requestText raw = some text)
    {members : List (List Nat × Value)} (hloads : loads H text.toList = .ok (.dict members))
    (hkeys : (members.map (·.1)).toFinset = (requestFields.map codes).toFinset)
    (hclasses : ¬ ClassesHashable (fieldOf members)) :
    ¬ FailsSafely (parseRequestWithin H maxDepth raw) := by
  by_cases hdeep : Overruns H maxDepth text.toList
  · exact not_failsSafely_of_overruns htext hdeep
  · rw [parseRequestWithin_of_some htext hdeep, hloads, parseLoaded]
    exact fun h => hclasses (parseRequestValue_safe_iff.1 h members rfl hkeys)

end

/-- **Malformed requests fail safely exactly where their text can be read and their classes looked
up.** -/
theorem parseRequest_safe_iff (H : Host) (maxDepth : Nat) (raw : ByteArray) :
    FailsSafely (parseRequestWithin H maxDepth raw) ↔ Readable H maxDepth raw := by
  unfold Readable
  cases htext : requestText raw with
  | none => exact iff_of_true (parseRequestWithin_of_none htext) fun _ h => by cases h
  | some text =>
    simp only [Option.mem_def, Option.some.injEq, forall_eq']
    by_cases hdeep : Overruns H maxDepth text.toList
    · exact iff_of_false (not_failsSafely_of_overruns htext hdeep) fun h => h.1 hdeep
    rw [parseRequestWithin_of_some htext hdeep]
    cases loads H text.toList with
    | error e =>
      cases e with
      | decode =>
        exact iff_of_true (failsSafely_error (by decide)) ⟨hdeep, by simp, fun _ h => by cases h⟩
      | digits => exact iff_of_false id fun h => h.2.1 rfl
    | ok v =>
      simp only [parseLoaded, parseRequestValue_safe_iff, Except.ok.injEq]
      exact ⟨fun h => ⟨hdeep, by simp, h⟩, fun h => h.2.2⟩

/-! A request whose data class is a list. -/

/-- The fields of a request, but for its data class. -/
def listedClassFields : List (String × Json) :=
  planningRequest.fields.map fun e => if e.1 = "data_class" then (e.1, .list []) else e

/-- The bytes of those fields. -/
def listedClassBytes : ByteArray := (canonicalJson (.dict listedClassFields)).toUTF8

/-- The request with a listed class has just the fields of a request. -/
theorem keys_listedClass : listedClassFields.map (·.1) = requestFields := by
  rw [listedClassFields, List.map_map, ← keys_fields planningRequest]
  refine List.map_congr_left fun e _ => ?_
  rw [Function.comp_apply]
  split <;> rfl

/-- The request with a listed class is plain JSON. -/
theorem isPlain_listedClass : (Json.dict listedClassFields).IsPlain 4300 := by
  refine .dict _ (by rw [keys_listedClass]; decide) (List.forall_mem_map.2 fun e he => ?_)
  split
  · exact .list _ fun _ h => by cases h
  · cases isPlain_fields planningRequest 4300 with
    | dict _ _ plain => exact plain e he

/-- The bytes of the request with a listed class are its canonical text. -/
theorem requestText_listedClass :
    requestText listedClassBytes = some (canonicalJson (.dict listedClassFields)) := by
  have hlength : (canonicalJson (.dict listedClassFields)).toList.length ≤ 4096 := by
    rw [canonicalJson, String.toList_ofList]
    decide +kernel
  have hsize := size_toUTF8_le (canonicalJson (.dict listedClassFields))
  have hfits : ¬ maxRequestBytes < listedClassBytes.size := by
    unfold listedClassBytes maxRequestBytes
    omega
  rw [requestText, if_neg hfits, listedClassBytes, fromUTF8_toUTF8]

/-- The other fields are those of the request. -/
theorem fieldOf_listedClass {field : String} (hfield : field ∈ requestFields)
    (hne : field ≠ "data_class") :
    fieldOf (canonicalMembers listedClassFields) field =
      fieldOf (canonicalMembers planningRequest.fields) field := by
  rw [← keys_fields planningRequest] at hfield
  obtain ⟨e, he, rfl⟩ := List.mem_map.1 hfield
  have hlisted : e ∈ listedClassFields := List.mem_map.2 ⟨e, he, if_neg hne⟩
  rw [fieldOf, fieldOf, lookup_canonicalMembers (by rw [keys_listedClass]; decide) hlisted,
    lookup_canonicalMembers (by rw [keys_fields]; decide) he]

/-- The listed class is an empty list. -/
theorem data_class_listedClass :
    fieldOf (canonicalMembers listedClassFields) "data_class" = .list [] := by
  have hlisted : ("data_class", Json.list []) ∈ listedClassFields :=
    List.mem_map.2 ⟨("data_class", .str "synthetic"), by simp [planningRequest,
      ProcessRouteRequest.fields], rfl⟩
  rw [fieldOf, lookup_canonicalMembers (by rw [keys_listedClass]; decide) hlisted]
  rfl

/-- The fields before the data class pass their checks. -/
theorem reaches_listedClass : ReachesClasses (fieldOf (canonicalMembers listedClassFields)) := by
  have hvalid : planningRequest.Valid :=
    ⟨rfl, rfl, by decide, by decide, by decide, by decide, by decide⟩
  have hchecked := (carries_canonicalMembers planningRequest).checked hvalid
  have htuples : ∀ field ∈ tupleFields, field ∈ requestFields ∧ field ≠ "data_class" := by decide
  have hids : ∀ field ∈ ["request_id", "capability_id", "requester_role_id"],
      field ∈ requestFields ∧ field ≠ "data_class" := by decide
  refine ⟨fun field hfield => ?_, fun field hfield => ?_, ?_, ?_, ?_, ?_, ?_⟩
  · rw [fieldOf_listedClass (htuples field hfield).1 (htuples field hfield).2]
    exact hchecked.tuples field hfield
  · rw [fieldOf_listedClass (hids field hfield).1 (hids field hfield).2]
    exact hchecked.ids field hfield
  · rw [fieldOf_listedClass (by decide) (by decide)]
    exact hchecked.adapter
  · rw [fieldOf_listedClass (by decide) (by decide)]
    exact hchecked.synthetic
  · rw [fieldOf_listedClass (by decide) (by decide)]
    exact hchecked.external
  · rw [fieldOf_listedClass (by decide) (by decide)]
    exact hchecked.revision
  · rw [fieldOf_listedClass (by decide) (by decide)]
    exact hchecked.fixture

/-- The lookup of a list in a set raises what is no `ProtocolError`. -/
theorem listed_class_escapes :
    ¬ FailsSafely (parseRequestWithin ⟨id, 4300⟩ 900 listedClassBytes) := by
  have hloads : loads ⟨id, 4300⟩ (canonicalJson (.dict listedClassFields)).toList =
      .ok (.dict (canonicalMembers listedClassFields)) := loads_canonicalJson isPlain_listedClass
  have hkeys : ((canonicalMembers listedClassFields).map (·.1)).toFinset =
      (requestFields.map codes).toFinset := by
    rw [toFinset_canonicalMembers, keys_listedClass]
  refine not_failsSafely_of_classes requestText_listedClass hloads hkeys fun h => ?_
  have hhashable := (h reaches_listedClass).1
  rw [data_class_listedClass] at hhashable
  exact hhashable

end LawFirmDigitalTwin
