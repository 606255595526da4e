import Mathlib.Data.List.Infix
import Mathlib.Data.Prod.Lex
import LawFirmDigitalTwin.Lib.Raising
import LawFirmDigitalTwin.PyValue

/-!
# The canary scan

`oracle_isolation.py`: the canary that is minted from a sealed key, its encodings, and the scan of
what the operating surfaces were observed to hold. A byte string is a list of `UInt8`, and a list of
numbers where it is hashed or searched. The name of a file need not be a text: where its bytes are
not UTF-8 it holds halves of surrogate pairs, and cannot be encoded. The two compressors are
parameters; a state is a string, as nothing checks it.
-/

namespace LawFirmDigitalTwin

/-- `ORACLE_ISOLATION_REVISION`. -/
def oracleIsolationRevision : String := "oracle-isolation-contract-g0c-v1"

/-- `CANARY_SCANNER_REVISION`. -/
def canaryScannerRevision : String := "oracle-canary-primary-scanner-g0c-v2"

/-- `OperatingSurfaceSpec`. -/
structure OperatingSurfaceSpec where
  surfaceId : String
  surfaceKind : String
  state : String
  scansContent : Bool := true
  scansNames : Bool := true
  scansMetadata : Bool := true
  requiredBeforeQualification : Bool := true
  externalEffects : Bool := false
  sealedAccess : Bool := false

def OperatingSurfaceSpec.toJson (s : OperatingSurfaceSpec) : Json :=
  .dict [
    ("surface_id", .str s.surfaceId),
    ("surface_kind", .str s.surfaceKind),
    ("state", .str s.state),
    ("scans_content", .bool s.scansContent),
    ("scans_names", .bool s.scansNames),
    ("scans_metadata", .bool s.scansMetadata),
    ("required_before_qualification", .bool s.requiredBeforeQualification),
    ("external_effects", .bool s.externalEffects),
    ("sealed_access", .bool s.sealedAccess)]

/-- `OperatingSurfaceRegistry`. -/
structure OperatingSurfaceRegistry where
  registryId : String
  revision : String
  surfaces : List OperatingSurfaceSpec
  canonicalStorageGate : String := "H-10"
  sealedKeyIncluded : Bool := false
  canaryValueIncluded : Bool := false
  externalEffects : Bool := false

def OperatingSurfaceRegistry.toJson (r : OperatingSurfaceRegistry) : Json :=
  .dict [
    ("registry_id", .str r.registryId),
    ("revision", .str r.revision),
    ("surfaces", .list (r.surfaces.map OperatingSurfaceSpec.toJson)),
    ("canonical_storage_gate", .str r.canonicalStorageGate),
    ("sealed_key_included", .bool r.sealedKeyIncluded),
    ("canary_value_included", .bool r.canaryValueIncluded),
    ("external_effects", .bool r.externalEffects)]

/-- `OperatingSurfaceRegistry.registry_hash`. -/
def OperatingSurfaceRegistry.registryHash (r : OperatingSurfaceRegistry) : String :=
  digest r.toJson

/-! ## Names -/

/-- A code point of a string: a character, or half of a surrogate pair. -/
inductive CodePoint
  | char (c : Char)
  | half (unit : Fin 0x800)
  deriving DecidableEq

/-- The character that a code point is. -/
def CodePoint.char? : CodePoint → Option Char
  | .char c => some c
  | .half _ => none

/-- A string by its code points. -/
abbrev PyString := List CodePoint

namespace PyString

/-- A text as a string. -/
def ofText (text : String) : PyString := text.toList.map .char

/-- `s.encode("utf-8")`. -/
def encode (s : PyString) : Except PyError (List Nat) :=
  match s.mapM CodePoint.char? with
  | some text => .ok (utf8 (String.ofList text))
  | none => .error (.other "UnicodeEncodeError")

/-- No half of a surrogate pair stands in the string. -/
def Encodable (s : PyString) : Prop := ∀ p ∈ s, p.char?.isSome = true

instance (s : PyString) : Decidable s.Encodable :=
  inferInstanceAs (Decidable (∀ p ∈ s, p.char?.isSome = true))

end PyString

/-! ## Observations and reports -/

/-- `SurfaceObservation`. -/
structure SurfaceObservation where
  surfaceId : String
  relativeName : PyString
  content : List UInt8
  metadata : List (String × String) := []

/-- A byte string as numbers. -/
def bytesOf (content : List UInt8) : List Nat := content.map UInt8.toNat

/-- `hashlib.sha256(data).hexdigest()`. -/
def sha256Hex (data : List Nat) : String := String.ofList (Sha256.hexdigest data)

/-- `SurfaceObservation.observation_commitment`. -/
def SurfaceObservation.observationCommitment (o : SurfaceObservation) : Except PyError String := do
  let name ← o.relativeName.encode
  return digest (.dict [
    ("surface_id", .str o.surfaceId),
    ("relative_name_hash", .str (sha256Hex name)),
    ("content_hash", .str (sha256Hex (bytesOf o.content))),
    ("metadata_hash", .str (digest (.list (o.metadata.map fun p => .strs [p.1, p.2]))))])

/-- `CanaryHit`. -/
structure CanaryHit where
  surfaceId : String
  observationCommitment : String
  channel : String
  variantId : String
  deriving DecidableEq

def CanaryHit.toJson (h : CanaryHit) : Json :=
  .dict [
    ("surface_id", .str h.surfaceId),
    ("observation_commitment", .str h.observationCommitment),
    ("channel", .str h.channel),
    ("variant_id", .str h.variantId)]

/-- `ScanState`. -/
inductive ScanState
  | leakDetected
  | incompleteSurfaces
  | cleanNoncanonical
  deriving DecidableEq

/-- The text of a scan state. -/
def ScanState.text : ScanState → String
  | .leakDetected => "leak_detected"
  | .incompleteSurfaces => "incomplete_surfaces"
  | .cleanNoncanonical => "clean_noncanonical"

/-- `CanaryScanReport`. -/
structure CanaryScanReport where
  reportId : String
  scannerRevision : String
  registryHash : String
  protectedCanaryCommitment : String
  state : ScanState
  observedSurfaceIds : List String
  uncreatedSurfaceIds : List String
  missingObservationSurfaceIds : List String
  unknownObservationSurfaceIds : List String
  hits : List CanaryHit
  allRegisteredSurfacesScanned : Bool
  mutationAdequacyValidated : Bool
  workerBoundaryValidated : Bool
  canonicalQualification : Bool
  canaryValueIncluded : Bool
  externalEffects : Bool

/-- `REQUIRED_OPERATING_SURFACES`. -/
def requiredOperatingSurfaces : List (String × String) :=
  [("operating_db", "database"),
    ("artifact_staging", "filesystem"),
    ("trace_log_sink", "log"),
    ("local_cache", "cache"),
    ("retrieval_index", "index"),
    ("embedding_index", "index"),
    ("provider_prompt_outbox", "outbox"),
    ("public_export", "export"),
    ("temporary_workspace", "filesystem"),
    ("renderer_workspace", "filesystem")]

/-- `build_operating_surface_registry`. -/
def buildOperatingSurfaceRegistry (state : String) : OperatingSurfaceRegistry where
  registryId := "registry.oracle.operating-surfaces.g0c.v1"
  revision := oracleIsolationRevision
  surfaces := requiredOperatingSurfaces.map fun surface =>
    { surfaceId := surface.1, surfaceKind := surface.2, state }

/-! ## The canary and its encodings -/

/-- `mint_sealed_canary`. -/
def mintSealedCanary (sealedKey : List UInt8) (runNonce : String) : Except PyError String :=
  if sealedKey.length < 32 then .error (.valueError "sealed_canary_key_too_short")
  else if runNonce = "" ∨ runNonce.length > 200 then
    .error (.valueError "sealed_canary_nonce_invalid")
  else
    let token := (Sha256.hmacHexdigest (bytesOf sealedKey)
      (utf8 ("lfdt:oracle-canary:v1:" ++ runNonce))).map Char.toUpper
    .ok ("LFDT-CNY-" ++ String.ofList token)

/-- `gzip.compress` with `mtime=0`, and `zlib.compress`. -/
structure Compressors where
  gzip : List Nat → List Nat
  zlib : List Nat → List Nat

/-- The codes of ASCII characters. -/
def asciiCodes (text : List Char) : List Nat := text.map Char.toNat

/-- `data.lower()`. -/
def lowerBytes (data : List Nat) : List Nat :=
  data.map fun b => if 65 ≤ b ∧ b ≤ 90 then b + 32 else b

/-- `data.hex()`. -/
def hexOf (data : List Nat) : List Char :=
  data.flatMap fun b => [Sha256.hexDigit (b / 16), Sha256.hexDigit (b % 16)]

/-- The character of a 6-bit group; the last two of the alphabet are given. -/
def base64Char (plus slash : Char) (n : Nat) : Char :=
  if n < 26 then Char.ofNat (65 + n)
  else if n < 52 then Char.ofNat (71 + n)
  else if n < 62 then Char.ofNat (n - 4)
  else if n = 62 then plus
  else slash

/-- `base64.b64encode`, with the last two characters of the alphabet given. -/
def base64Encode (plus slash : Char) : List Nat → List Char
  | a :: b :: c :: rest =>
    base64Char plus slash (a / 4) :: base64Char plus slash (a % 4 * 16 + b / 16) ::
      base64Char plus slash (b % 16 * 4 + c / 64) :: base64Char plus slash (c % 64) ::
        base64Encode plus slash rest
  | [a, b] =>
    [base64Char plus slash (a / 4), base64Char plus slash (a % 4 * 16 + b / 16),
      base64Char plus slash (b % 16 * 4), '=']
  | [a] => [base64Char plus slash (a / 4), base64Char plus slash (a % 4 * 16), '=', '=']
  | [] => []

/-- The bytes that `urllib.parse.quote_from_bytes` leaves with `safe=""`. -/
def percentSafe (b : Nat) : Bool :=
  48 ≤ b ∧ b ≤ 57 ∨ 65 ≤ b ∧ b ≤ 90 ∨ 97 ≤ b ∧ b ≤ 122 ∨ b = 95 ∨ b = 46 ∨ b = 45 ∨ b = 126

/-- `urllib.parse.quote_from_bytes(data, safe="")`. -/
def percentEncode (data : List Nat) : List Char :=
  data.flatMap fun b =>
    if percentSafe b then [Char.ofNat b]
    else ['%', (Sha256.hexDigit (b / 16)).toUpper, (Sha256.hexDigit (b % 16)).toUpper]

/-- `raw.decode("ascii")`, as codes. -/
def asciiDecode (raw : List Nat) : Except PyError (List Nat) :=
  if ∀ b ∈ raw, b < 128 then .ok raw else .error (.other "UnicodeDecodeError")

/-- `_canary_variants`. -/
def canaryVariants (z : Compressors) (canary : String) :
    Except PyError (List (String × List Nat)) := do
  let raw := utf8 canary
  let jsonEscaped := asciiCodes (canary.toList.flatMap Json.escapeChar)
  let decoded ← asciiDecode raw
  return [
    ("raw_utf8", raw),
    ("raw_lower_utf8", lowerBytes raw),
    ("hex_lower", asciiCodes (hexOf raw)),
    ("hex_upper", asciiCodes ((hexOf raw).map Char.toUpper)),
    ("base64_standard", asciiCodes (base64Encode '+' '/' raw)),
    ("base64_urlsafe", asciiCodes (base64Encode '-' '_' raw)),
    ("json_escaped", jsonEscaped),
    ("percent_utf8", asciiCodes (percentEncode raw)),
    ("utf16_le", decoded.flatMap fun c => [c, 0]),
    ("utf16_be", decoded.flatMap fun c => [0, c]),
    ("gzip_mtime0", z.gzip raw),
    ("zlib", z.zlib raw)]

/-! ## The scan -/

/-- `dict(observation.metadata)`. -/
def SurfaceObservation.metadataDict (o : SurfaceObservation) : PyDict String :=
  .ofEntries o.metadata

/-- `_channel_bytes`. -/
def channelBytes (o : SurfaceObservation) : Except PyError (List (String × List Nat)) := do
  let name ← o.relativeName.encode
  return [("name", name),
    ("content", bytesOf o.content),
    ("metadata", utf8 (canonicalJson (o.metadataDict.toJson .str)))]

/-- The hits in one observation. Each takes the commitment, which encodes the name once more. -/
def observationHits (variants : List (String × List Nat)) (o : SurfaceObservation) :
    Except PyError (List CanaryHit) := do
  let channels ← channelBytes o
  let commitment ← o.observationCommitment
  return channels.flatMap fun (channel, haystack) =>
    variants.filterMap fun (variantId, needle) =>
      if needle ≠ [] ∧ needle <:+: haystack then
        some ⟨o.surfaceId, commitment, channel, variantId⟩
      else none

/-- The key by which the hits are sorted. -/
def CanaryHit.sortKey (h : CanaryHit) : String ×ₗ String ×ₗ String ×ₗ String :=
  toLex (h.surfaceId, toLex (h.observationCommitment, toLex (h.channel, h.variantId)))

/-- `known`, as a set. -/
def OperatingSurfaceRegistry.known (r : OperatingSurfaceRegistry) : Finset String :=
  (r.surfaces.map (·.surfaceId)).toFinset

/-- `hits_tuple`. -/
def sortedHits (r : OperatingSurfaceRegistry) (observations : List SurfaceObservation)
    (variants : List (String × List Nat)) : Except PyError (List CanaryHit) := do
  let hits ← (observations.filter fun o => o.surfaceId ∈ r.known).mapM (observationHits variants)
  return hits.flatten.dedup.insertionSort fun a b => a.sortKey ≤ b.sortKey

/-- `scan_canary_containment`. -/
def scanCanaryContainment (z : Compressors) (r : OperatingSurfaceRegistry)
    (observations : List SurfaceObservation) (sealedCanary : String) :
    Except PyError CanaryScanReport := do
  let observed := (observations.map (·.surfaceId)).toFinset
  let observedIds := sorted observed
  let unknownIds := sorted (observed \ r.known)
  let uncreatedIds := ((r.surfaces.filter (·.state = "not_created")).map (·.surfaceId)).insertionSort
    (· ≤ ·)
  let expectedObserved :=
    ((r.surfaces.filter (·.state ≠ "not_created")).map (·.surfaceId)).toFinset
  let missingIds := sorted (expectedObserved \ observed)
  let variants ← canaryVariants z sealedCanary
  let hits ← sortedHits r observations variants
  let allScanned := uncreatedIds = [] ∧ missingIds = [] ∧ unknownIds = []
  let state : ScanState :=
    if hits ≠ [] ∨ unknownIds ≠ [] then .leakDetected
    else if ¬ allScanned then .incompleteSurfaces
    else .cleanNoncanonical
  let canaryCommitment := String.ofList
    (Sha256.hmacHexdigest (utf8 "lfdt-protected-evaluation-commitment-v1") (utf8 sealedCanary))
  return {
    reportId := "CANARY-SCAN-" ++ firstChars 18 (digest (.dict [
      ("scanner", .str canaryScannerRevision),
      ("registry", .str r.registryHash),
      ("canary", .str canaryCommitment),
      ("state", .str state.text),
      ("observed", .strs observedIds),
      ("uncreated", .strs uncreatedIds),
      ("missing", .strs missingIds),
      ("unknown", .strs unknownIds),
      ("hits", .list (hits.map CanaryHit.toJson))]))
    scannerRevision := canaryScannerRevision
    registryHash := r.registryHash
    protectedCanaryCommitment := canaryCommitment
    state
    observedSurfaceIds := observedIds
    uncreatedSurfaceIds := uncreatedIds
    missingObservationSurfaceIds := missingIds
    unknownObservationSurfaceIds := unknownIds
    hits
    allRegisteredSurfacesScanned := allScanned
    mutationAdequacyValidated := false
    workerBoundaryValidated := false
    canonicalQualification := false
    canaryValueIncluded := false
    externalEffects := false }

end LawFirmDigitalTwin
