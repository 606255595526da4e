import LawFirmDigitalTwin.PyValue

/-!
# The sealed IPC protocol

`sealed_ipc_protocol.py`: capabilities signed with HMAC-SHA-256, the requests built on them, the
replay ledger and the authorizer. The fields of a capability and of a request have their declared
types and are otherwise arbitrary. What `canonical_json` does not write, a tick of too many digits,
makes the functions raise that hash a capability or a request.
-/

namespace LawFirmDigitalTwin

/-- What the modelled functions raise. -/
inductive IpcError
  | valueError (text : String)
  | typeError (text : String)
  deriving DecidableEq

/-- What an integer with too many digits raises, read or written. -/
def digitsError : IpcError := .valueError "Exceeds the limit for integer string conversion"

/-- `SEALED_IPC_CORE_REVISION`. -/
def sealedIpcCoreRevision : String := "sealed-ipc-core-g0-v1"

/-- `_OPERATIONS`. -/
def ipcOperations : List String :=
  ["SubmitIngressCommitment", "RequestOperatingProjection", "AcknowledgeOutboxItem"]

/-- `_HEX_64.fullmatch`. -/
def isHex64 (s : String) : Bool :=
  s.length = 64 ∧ s.toList.all fun c => ('0' ≤ c ∧ c ≤ '9') ∨ ('a' ≤ c ∧ c ≤ 'f')

/-- `_SAFE_ID.fullmatch`. -/
def isSafeId (s : String) : Bool :=
  1 ≤ s.length ∧ s.length ≤ 128 ∧ s.toList.all fun c =>
    ('A' ≤ c ∧ c ≤ 'Z') ∨ ('a' ≤ c ∧ c ≤ 'z') ∨ ('0' ≤ c ∧ c ≤ '9') ∨ c ∈ ['.', '_', ':', '-']

/-- A text of ASCII characters. -/
def isAscii (s : String) : Bool := s.toList.all fun c => c.toNat < 128

/-- `hmac.compare_digest` on two texts. -/
def compareDigest (a b : String) : Except IpcError Bool :=
  if isAscii a ∧ isAscii b then .ok (a = b)
  else .error (.typeError "comparing strings with non-ASCII characters is not supported")

/-! ## Capabilities and requests -/

/-- `SealedIpcCapability`. -/
structure SealedIpcCapability where
  capabilityId : String
  revision : String
  principalCommitment : String
  operatingMatterId : String
  allowedOperation : String
  issuedTick : Int
  expiresTick : Int
  nonce : String
  idempotencyKey : String
  authTag : String
  containsRawPrincipal : Bool
  containsPath : Bool
  containsSecret : Bool
  containsPayload : Bool
  deriving DecidableEq

def SealedIpcCapability.toJson (c : SealedIpcCapability) : Json :=
  .dict [
    ("capability_id", .str c.capabilityId),
    ("revision", .str c.revision),
    ("principal_commitment", .str c.principalCommitment),
    ("operating_matter_id", .str c.operatingMatterId),
    ("allowed_operation", .str c.allowedOperation),
    ("issued_tick", .int c.issuedTick),
    ("expires_tick", .int c.expiresTick),
    ("nonce", .str c.nonce),
    ("idempotency_key", .str c.idempotencyKey),
    ("auth_tag", .str c.authTag),
    ("contains_raw_principal", .bool c.containsRawPrincipal),
    ("contains_path", .bool c.containsPath),
    ("contains_secret", .bool c.containsSecret),
    ("contains_payload", .bool c.containsPayload)]

/-- The ticks of a capability can be written. -/
def SealedIpcCapability.writable (c : SealedIpcCapability) : Bool :=
  writableInt c.issuedTick && writableInt c.expiresTick

/-- What `capability_hash` returns, where the capability can be written. -/
def SealedIpcCapability.capabilityHash (c : SealedIpcCapability) : String := digest c.toJson

/-- `SealedIpcRequest`. -/
structure SealedIpcRequest where
  requestId : String
  revision : String
  capability : SealedIpcCapability
  operation : String
  operatingMatterId : String
  requestCommitment : String
  nonce : String
  idempotencyKey : String
  containsPayload : Bool
  canonicalWriteRequested : Bool
  externalEffectRequested : Bool
  deriving DecidableEq

def SealedIpcRequest.toJson (r : SealedIpcRequest) : Json :=
  .dict [
    ("request_id", .str r.requestId),
    ("revision", .str r.revision),
    ("capability", r.capability.toJson),
    ("operation", .str r.operation),
    ("operating_matter_id", .str r.operatingMatterId),
    ("request_commitment", .str r.requestCommitment),
    ("nonce", .str r.nonce),
    ("idempotency_key", .str r.idempotencyKey),
    ("contains_payload", .bool r.containsPayload),
    ("canonical_write_requested", .bool r.canonicalWriteRequested),
    ("external_effect_requested", .bool r.externalEffectRequested)]

/-- What `request_hash` returns, where the request can be written. -/
def SealedIpcRequest.requestHash (r : SealedIpcRequest) : String := digest r.toJson

/-- The entries of `_capability_unsigned_payload`. -/
def capabilityUnsignedPayload (principal operatingMatterId operation : String)
    (issuedTick expiresTick : Int) (nonce idempotencyKey : String) : List (String × Json) :=
  [("revision", .str sealedIpcCoreRevision),
    ("principal_commitment", .str principal),
    ("operating_matter_id", .str operatingMatterId),
    ("allowed_operation", .str operation),
    ("issued_tick", .int issuedTick),
    ("expires_tick", .int expiresTick),
    ("nonce", .str nonce),
    ("idempotency_key", .str idempotencyKey)]

/-- The unsigned payload of a capability's own fields. -/
def SealedIpcCapability.unsignedPayload (c : SealedIpcCapability) : List (String × Json) :=
  capabilityUnsignedPayload c.principalCommitment c.operatingMatterId c.allowedOperation
    c.issuedTick c.expiresTick c.nonce c.idempotencyKey

/-- What `_auth_tag` returns, where the payload can be written. -/
@[irreducible] def authTag (signingKey : List Nat) (payload : List (String × Json)) : String :=
  String.ofList (Sha256.hmacHexdigest signingKey (utf8 (canonicalJson (.dict payload))))

/-- `_auth_tag`. -/
def signTag (signingKey : List Nat) (payload : List (String × Json)) : Except IpcError String :=
  if (Json.dict payload).writable then .ok (authTag signingKey payload) else .error digitsError

/-- The id of a capability with these unsigned entries and this tag. -/
def capabilityIdOf (payload : List (String × Json)) (tag : String) : String :=
  "IPCCAP-" ++ firstChars 24 (digest (.dict (payload ++ [("auth_tag", .str tag)])))

/-- The capability that `issue_capability` returns once its arguments are checked. -/
def signedCapability (signingKey : List Nat) (principal operatingMatterId operation : String)
    (issuedTick expiresTick : Int) (nonce idempotencyKey : String) : SealedIpcCapability :=
  let unsigned := capabilityUnsignedPayload principal operatingMatterId operation issuedTick
    expiresTick nonce idempotencyKey
  let tag := authTag signingKey unsigned
  { capabilityId := capabilityIdOf unsigned tag
    revision := sealedIpcCoreRevision
    principalCommitment := principal
    operatingMatterId
    allowedOperation := operation
    issuedTick
    expiresTick
    nonce
    idempotencyKey
    authTag := tag
    containsRawPrincipal := false
    containsPath := false
    containsSecret := false
    containsPayload := false }

/-- `issue_capability`. -/
def issueCapability (signingKey : List Nat) (principal operatingMatterId operation : String)
    (issuedTick expiresTick : Int) (nonce idempotencyKey : String) :
    Except IpcError SealedIpcCapability :=
  if signingKey.length < 32 then .error (.valueError "ipc_signing_key_invalid")
  else if ¬ isHex64 principal then .error (.valueError "ipc_principal_commitment_invalid")
  else if operation ∉ ipcOperations then .error (.valueError "ipc_operation_invalid")
  else if ¬ isSafeId operatingMatterId then
    .error (.valueError "ipc_operating_matter_id_invalid")
  else if issuedTick < 0 ∨ expiresTick ≤ issuedTick then
    .error (.valueError "ipc_capability_interval_invalid")
  else if ¬ isSafeId nonce ∨ ¬ isSafeId idempotencyKey then
    .error (.valueError "ipc_replay_binding_invalid")
  else
    match signTag signingKey (capabilityUnsignedPayload principal operatingMatterId operation
      issuedTick expiresTick nonce idempotencyKey) with
    | .error e => .error e
    | .ok _ => .ok (signedCapability signingKey principal operatingMatterId operation issuedTick
      expiresTick nonce idempotencyKey)

/-- The id of the request on a capability. -/
def requestIdOf (capability : SealedIpcCapability) (requestCommitment : String) : String :=
  "IPCREQ-" ++ firstChars 24 (digest (.dict [
    ("revision", .str sealedIpcCoreRevision),
    ("capability_hash", .str capability.capabilityHash),
    ("operation", .str capability.allowedOperation),
    ("operating_matter_id", .str capability.operatingMatterId),
    ("request_commitment", .str requestCommitment),
    ("nonce", .str capability.nonce),
    ("idempotency_key", .str capability.idempotencyKey)]))

/-- The request that `build_request` returns once the commitment is checked and the capability is
hashed. -/
def requestOn (capability : SealedIpcCapability) (requestCommitment : String) :
    SealedIpcRequest where
  requestId := requestIdOf capability requestCommitment
  revision := sealedIpcCoreRevision
  capability
  operation := capability.allowedOperation
  operatingMatterId := capability.operatingMatterId
  requestCommitment
  nonce := capability.nonce
  idempotencyKey := capability.idempotencyKey
  containsPayload := false
  canonicalWriteRequested := false
  externalEffectRequested := false

/-- `build_request`. -/
def buildRequest (capability : SealedIpcCapability) (requestCommitment : String) :
    Except IpcError SealedIpcRequest :=
  if ¬ isHex64 requestCommitment then .error (.valueError "ipc_request_commitment_invalid")
  -- `capability.capability_hash`
  else if ¬ capability.toJson.writable then .error digitsError
  else .ok (requestOn capability requestCommitment)

/-! ## Receipts -/

/-- `GenericDenialReceipt`. -/
structure GenericDenialReceipt where
  requestId : String
  revision : String
  disposition : String
  containsReason : Bool
  containsIdentity : Bool
  containsPath : Bool
  containsSecret : Bool
  deriving DecidableEq

/-- `SealedIpcSuccessReceipt`. -/
structure SealedIpcSuccessReceipt where
  receiptId : String
  revision : String
  requestId : String
  operation : String
  operatingMatterId : String
  resultCommitment : String
  disposition : String
  duplicate : Bool
  containsPayload : Bool
  containsSealedMaterial : Bool
  externalEffects : Bool
  deriving DecidableEq

/-- `_generic_denial`, of the id that `getattr` finds, if it is a text. -/
def genericDenial (requestId : Option String) : GenericDenialReceipt where
  requestId := requestId.getD "IPCREQ-UNKNOWN"
  revision := sealedIpcCoreRevision
  disposition := "DENIED"
  containsReason := false
  containsIdentity := false
  containsPath := false
  containsSecret := false

/-- The receipt of a request that is accepted for the first time. -/
def successReceipt (request : SealedIpcRequest) (resultCommitment : String) :
    SealedIpcSuccessReceipt where
  receiptId := "IPCRCP-" ++ firstChars 24 (digest (.dict [
    ("request_hash", .str request.requestHash),
    ("operation", .str request.operation),
    ("operating_matter_id", .str request.operatingMatterId),
    ("result_commitment", .str resultCommitment)]))
  revision := sealedIpcCoreRevision
  requestId := request.requestId
  operation := request.operation
  operatingMatterId := request.operatingMatterId
  resultCommitment
  disposition := "ACCEPTED"
  duplicate := false
  containsPayload := false
  containsSealedMaterial := false
  externalEffects := false

/-! ## The replay ledger -/

/-- `InternalDenialCode`. -/
inductive InternalDenialCode
  | expired
  | replayed
  | invalidRequest
  | identityMismatch
  | authorityMismatch
  deriving DecidableEq

/-- The text of a code. -/
def InternalDenialCode.text : InternalDenialCode → String
  | .expired => "EXPIRED"
  | .replayed => "REPLAYED"
  | .invalidRequest => "INVALID_REQUEST"
  | .identityMismatch => "IDENTITY_MISMATCH"
  | .authorityMismatch => "AUTHORITY_MISMATCH"

/-- What an entry of the ledger says of its request: the `disposition` is `DENIED` with a code, or
`ACCEPTED` with the empty code. -/
inductive IpcVerdict
  | denied (code : InternalDenialCode)
  | accepted
  deriving DecidableEq

/-- `disposition`. -/
def IpcVerdict.disposition : IpcVerdict → String
  | .denied _ => "DENIED"
  | .accepted => "ACCEPTED"

/-- `internal_denial_code`. -/
def IpcVerdict.internalDenialCode : IpcVerdict → String
  | .denied code => code.text
  | .accepted => ""

/-- `SealedReplayEntry`. -/
structure SealedReplayEntry where
  sequence : Int
  requestHash : String
  capabilityHash : String
  principalCommitment : String
  nonceCommitment : String
  idempotencyKeyCommitment : String
  disposition : String
  internalDenialCode : String
  priorEntryHash : String
  entryHash : String
  workerVisible : Bool
  deriving DecidableEq

/-- The nonce commitment of a request. -/
def SealedIpcRequest.nonceHash (r : SealedIpcRequest) : String := digest (.str r.nonce)

/-- The commitment of a request's idempotency key. -/
def SealedIpcRequest.idempotencyHash (r : SealedIpcRequest) : String := digest (.str r.idempotencyKey)

/-- `AppendOnlyReplayLedger`. -/
structure ReplayLedger where
  entries : List SealedReplayEntry
  nonceHashes : Finset String
  idempotency : PyDict (String × SealedIpcSuccessReceipt)

namespace ReplayLedger

/-- `AppendOnlyReplayLedger()`. -/
def fresh : ReplayLedger := ⟨[], ∅, ∅⟩

/-- `has_nonce`. -/
def hasNonce (l : ReplayLedger) (nonceHash : String) : Bool := nonceHash ∈ l.nonceHashes

/-- `prior_success`. -/
def priorSuccess (l : ReplayLedger) (idempotencyHash : String) :
    Option (String × SealedIpcSuccessReceipt) :=
  l.idempotency.get? idempotencyHash

/-- `digest("ipc-ledger-genesis-v1")`. -/
def genesisHash : String := digest (.str "ipc-ledger-genesis-v1")

/-- `unsigned` of `append`. -/
def unsignedEntry (sequence : Int) (request : SealedIpcRequest) (principal : String)
    (verdict : IpcVerdict) (priorHash : String) : Json :=
  .dict [
    ("sequence", .int sequence),
    ("request_hash", .str request.requestHash),
    ("capability_hash", .str request.capability.capabilityHash),
    ("principal_commitment", .str principal),
    ("nonce_commitment", .str request.nonceHash),
    ("idempotency_key_commitment", .str request.idempotencyHash),
    ("disposition", .str verdict.disposition),
    ("internal_denial_code", .str verdict.internalDenialCode),
    ("prior_entry_hash", .str priorHash)]

/-- The entry that `append` makes. -/
def entry (sequence : Int) (priorHash : String) (request : SealedIpcRequest) (principal : String)
    (verdict : IpcVerdict) : SealedReplayEntry where
  sequence
  requestHash := request.requestHash
  capabilityHash := request.capability.capabilityHash
  principalCommitment := principal
  nonceCommitment := request.nonceHash
  idempotencyKeyCommitment := request.idempotencyHash
  disposition := verdict.disposition
  internalDenialCode := verdict.internalDenialCode
  priorEntryHash := priorHash
  entryHash := digest (unsignedEntry sequence request principal verdict priorHash)
  workerVisible := false

/-- The hash the next entry is chained to. -/
def priorHash (l : ReplayLedger) : String := (l.entries.getLast?.map (·.entryHash)).getD genesisHash

/-- The ledger with the entry that `append` makes; `success` is given with the verdict
`accepted`. -/
def appended (l : ReplayLedger) (request : SealedIpcRequest) (principal : String)
    (verdict : IpcVerdict) (success : Option SealedIpcSuccessReceipt) : ReplayLedger where
  entries := l.entries ++ [entry (l.entries.length + 1) l.priorHash request principal verdict]
  nonceHashes := insert request.nonceHash l.nonceHashes
  idempotency :=
    match verdict, success with
    | .accepted, some receipt =>
      l.idempotency.set request.idempotencyHash (request.requestHash, receipt)
    | _, _ => l.idempotency

/-- `append`. It hashes the request before it writes, and raises where that does. -/
def append (l : ReplayLedger) (request : SealedIpcRequest) (principal : String)
    (verdict : IpcVerdict) (success : Option SealedIpcSuccessReceipt) :
    Except IpcError ReplayLedger :=
  if request.toJson.writable then .ok (l.appended request principal verdict success)
  else .error digitsError

end ReplayLedger

/-! ## The authorizer -/

/-- What a caller hands to `authorize`: a request, or an object that is not a `SealedIpcRequest`
with a `SealedIpcCapability`, of which only the `request_id` is looked at. -/
inductive IpcArgument
  | request (r : SealedIpcRequest)
  | other (requestId : Option String)

/-- A call of `authorize`. -/
structure IpcCall where
  argument : IpcArgument
  principal : String
  currentTick : Int
  resultCommitment : String

/-- What a call returns or raises. -/
inductive IpcOutcome
  | denied (receipt : GenericDenialReceipt)
  | accepted (receipt : SealedIpcSuccessReceipt)
  | raised (e : IpcError)

/-- The first condition of `authorize`, where `build_request` returned `expected`: a field of the
request is not what the capability and the key determine. -/
def structurallyInvalid (signingKey : List Nat) (request expected : SealedIpcRequest)
    (resultCommitment : String) : Except IpcError Bool :=
  let capability := request.capability
  let expectedTag := authTag signingKey capability.unsignedPayload
  if capability.revision ≠ sealedIpcCoreRevision then .ok true
  else
    match compareDigest capability.authTag expectedTag with
    | .error e => .error e
    | .ok same =>
      .ok (¬ same ∨ capability.capabilityId ≠ capabilityIdOf capability.unsignedPayload expectedTag ∨
        request ≠ expected ∨ request.containsPayload ∨ request.canonicalWriteRequested ∨
        request.externalEffectRequested ∨ ¬ isHex64 resultCommitment)

/-- What the checks before the replay check come to: a denial, or the replay check with the denial
that is already pending, if deriving the expected request raised. -/
inductive Precheck
  | refused (code : InternalDenialCode)
  | admitted (pending : Option InternalDenialCode)
  deriving DecidableEq

/-- The `elif` branches of `authorize` up to the replay check. -/
def principalChecks (call : IpcCall) (request : SealedIpcRequest)
    (pending : Option InternalDenialCode) : Except IpcError Precheck :=
  let capability := request.capability
  match compareDigest capability.principalCommitment call.principal with
  | .error e => .error e
  | .ok false => .ok (.refused .identityMismatch)
  | .ok true =>
    if request.operation ≠ capability.allowedOperation ∨
        request.operatingMatterId ≠ capability.operatingMatterId then
      .ok (.refused .authorityMismatch)
    else if call.currentTick < capability.issuedTick ∨ capability.expiresTick ≤ call.currentTick then
      .ok (.refused .expired)
    else .ok (.admitted pending)

/-- The `try` block of `authorize`, up to the values that the first condition takes from it. -/
def expectedRequest (signingKey : List Nat) (request : SealedIpcRequest) :
    Except IpcError SealedIpcRequest :=
  match signTag signingKey request.capability.unsignedPayload with
  | .error e => .error e
  | .ok _ => buildRequest request.capability request.requestCommitment

/-- The checks of `authorize` before the replay check. Where the `try` block raises, the first
condition is skipped and the others still run. -/
def precheck (signingKey : List Nat) (call : IpcCall) (request : SealedIpcRequest) :
    Except IpcError Precheck :=
  match expectedRequest signingKey request with
  | .error _ => principalChecks call request (some .invalidRequest)
  | .ok expected =>
    match structurallyInvalid signingKey request expected call.resultCommitment with
    | .error e => .error e
    | .ok true => .ok (.refused .invalidRequest)
    | .ok false => principalChecks call request none

/-- What the replay check decides. -/
inductive Decision
  | deny (code : InternalDenialCode)
  | acceptDuplicate (prior : SealedIpcSuccessReceipt)
  | acceptFresh
  deriving DecidableEq

/-- The replay check, up to what `prior_success` found; `none` where it found nothing and the nonce
is still to be looked up. -/
def decidePrior (request : SealedIpcRequest) (prior : Option (String × SealedIpcSuccessReceipt)) :
    Except IpcError (Option Decision) :=
  match prior with
  | none => .ok none
  | some (priorRequestHash, priorReceipt) =>
    -- `request.request_hash`
    if ¬ request.toJson.writable then .error digitsError
    else
      match compareDigest priorRequestHash request.requestHash with
      | .error e => .error e
      | .ok same => .ok (some (if same then .acceptDuplicate priorReceipt else .deny .replayed))

/-- The rest of the replay check. -/
def decideNonce (pending : Option InternalDenialCode) (hasNonce : Bool) : Decision :=
  if hasNonce then .deny .replayed
  else match pending with
    | some code => .deny code
    | none => .acceptFresh

/-- The verdict of a decision. -/
def Decision.verdict : Decision → IpcVerdict
  | .deny code => .denied code
  | .acceptDuplicate _ | .acceptFresh => .accepted

/-- The success that a decision records. -/
def Decision.success (call : IpcCall) (request : SealedIpcRequest) :
    Decision → Option SealedIpcSuccessReceipt
  | .deny _ => none
  | .acceptDuplicate prior => some prior
  | .acceptFresh => some (successReceipt request call.resultCommitment)

/-- What `authorize` returns on a decision. -/
def Decision.outcome (call : IpcCall) (request : SealedIpcRequest) : Decision → IpcOutcome
  | .deny _ => .denied (genericDenial (some request.requestId))
  | .acceptDuplicate prior => .accepted { prior with duplicate := true }
  | .acceptFresh => .accepted (successReceipt request call.resultCommitment)

/-- What `authorize` appends to the ledger and returns. -/
def conclude (call : IpcCall) (request : SealedIpcRequest) (l : ReplayLedger) (d : Decision) :
    IpcOutcome × ReplayLedger :=
  match l.append request call.principal d.verdict (d.success call request) with
  | .error e => (.raised e, l)
  | .ok l' => (d.outcome call request, l')

/-- `SealedIpcAuthorizer.authorize`, with no other call in between. -/
def authorize (signingKey : List Nat) (l : ReplayLedger) (call : IpcCall) :
    IpcOutcome × ReplayLedger :=
  match call.argument with
  | .other requestId => (.denied (genericDenial requestId), l)
  | .request request =>
    match precheck signingKey call request with
    | .error e => (.raised e, l)
    | .ok (.refused code) => conclude call request l (.deny code)
    | .ok (.admitted pending) =>
      match decidePrior request (l.priorSuccess request.idempotencyHash) with
      | .error e => (.raised e, l)
      | .ok (some decision) => conclude call request l decision
      | .ok none =>
        conclude call request l (decideNonce pending (l.hasNonce request.nonceHash))

end LawFirmDigitalTwin
