import LawFirmDigitalTwin.SealedIpc.Protocol

/-!
# The sealed IPC validator

`sealed_ipc_validator.py`: the checks of a capability, of a request and of the replay ledger,
written apart from the authorizer.
-/

namespace LawFirmDigitalTwin

/-- `validate_capability`. The tag is compared only when it is hexadecimal. -/
def validateCapability (signingKey : List Nat) (c : SealedIpcCapability) :
    Except IpcError (List String) :=
  match signTag signingKey c.unsignedPayload with
  | .error _ => .ok ["SIP-002:capability_binding_invalid"]
  | .ok tag =>
    let unbound : Except IpcError Bool :=
      if c.revision ≠ sealedIpcCoreRevision ∨ ¬ isHex64 c.principalCommitment ∨
          ¬ isHex64 c.authTag then
        .ok true
      else
        match compareDigest tag c.authTag with
        | .error e => .error e
        | .ok same =>
          .ok (¬ same ∨ c.capabilityId ≠ capabilityIdOf c.unsignedPayload tag ∨
            c.expiresTick ≤ c.issuedTick)
    let discloses : Bool :=
      c.containsRawPrincipal ∨ c.containsPath ∨ c.containsSecret ∨ c.containsPayload
    match unbound with
    | .error e => .error e
    | .ok bad =>
      .ok ((if bad then ["SIP-002:capability_binding_invalid"] else [])
        ++ if discloses then ["SIP-003:capability_disclosure_invalid"] else [])

/-- The part of `validate_request` about the request itself. -/
def requestErrors (r : SealedIpcRequest) : List String :=
  let misbound : Bool :=
    match buildRequest r.capability r.requestCommitment with
    | .error _ => true
    | .ok expected => r.revision ≠ sealedIpcCoreRevision ∨ r ≠ expected
  (if misbound then ["SIP-005:request_binding_invalid"] else [])
    ++ if r.containsPayload ∨ r.canonicalWriteRequested ∨ r.externalEffectRequested then
      ["SIP-006:request_authority_invalid"] else []

/-- `validate_request`. -/
def validateRequest (signingKey : List Nat) (r : SealedIpcRequest) : Except IpcError (List String) :=
  match validateCapability signingKey r.capability with
  | .error e => .error e
  | .ok errors => .ok (errors ++ requestErrors r).eraseDups

/-- `unsigned` of `validate_replay_ledger`. -/
def SealedReplayEntry.unsigned (e : SealedReplayEntry) : Json :=
  .dict [
    ("sequence", .int e.sequence),
    ("request_hash", .str e.requestHash),
    ("capability_hash", .str e.capabilityHash),
    ("principal_commitment", .str e.principalCommitment),
    ("nonce_commitment", .str e.nonceCommitment),
    ("idempotency_key_commitment", .str e.idempotencyKeyCommitment),
    ("disposition", .str e.disposition),
    ("internal_denial_code", .str e.internalDenialCode),
    ("prior_entry_hash", .str e.priorEntryHash)]

/-- The errors of `validate_replay_ledger` about one entry, at its place, after some hashes. -/
def entryErrors (sequence : Nat) (prior : String) (seen : List String) (e : SealedReplayEntry) :
    List String :=
  (if e.sequence ≠ sequence ∨ e.priorEntryHash ≠ prior ∨ e.entryHash ≠ digest e.unsigned ∨
      e.entryHash ∈ seen ∨ e.workerVisible then
    ["SIP-012:ledger_entry_" ++ toString sequence ++ "_invalid"] else [])
  ++ if (e.disposition = "ACCEPTED") ≠ (e.internalDenialCode = "") then
    ["SIP-013:ledger_disposition_" ++ toString sequence ++ "_invalid"] else []

/-- The loop of `validate_replay_ledger`. -/
def ledgerErrors : Nat → String → List String → List SealedReplayEntry → List String
  | _, _, _, [] => []
  | sequence, prior, seen, e :: es =>
    entryErrors sequence prior seen e ++
      ledgerErrors (sequence + 1) e.entryHash (e.entryHash :: seen) es

/-- `validate_replay_ledger`. -/
def validateReplayLedger (l : ReplayLedger) : List String :=
  ledgerErrors 1 (digest (.str "ipc-ledger-genesis-v1")) [] l.entries

end LawFirmDigitalTwin
