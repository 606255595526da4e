import LawFirmDigitalTwin.HashIO

/-!
# The commit protocol

`commit_protocol.py`: the proposals clients send to the commit store, the decisions they get back,
and the snapshot the checkers read.
-/

namespace LawFirmDigitalTwin

/-- `COMMIT_CORE_REVISION`. -/
def commitCoreRevision : String := "design-c-commit-protocol-g0c-v1"

/-- `COMMIT_SCHEMA_REVISION`. -/
def commitSchemaRevision : String := "design-c-commit-sqlite-schema-g0c-v1"

/-- What `GENESIS_HEAD_HASH` is the digest of. -/
def genesisInput : Json := .str "design-c-commit-genesis-g0c-v1"

/-- `GENESIS_HEAD_HASH`. -/
def genesisHeadHash : String := digest genesisInput

/-- `CommitProposal`. -/
structure CommitProposal where
  proposalId : String
  idempotencyKey : String
  commandCommitment : String
  expectedParentHash : String
  dependencyHash : String
  eventType : String
  resultCommitment : String
  coreRevision : String := commitCoreRevision
  containsPayload : Bool := false
  externalEffectRequested : Bool := false
  canonicalWriteRequested : Bool := false
  deriving DecidableEq

def CommitProposal.toJson (p : CommitProposal) : Json :=
  .dict [
    ("proposal_id", .str p.proposalId),
    ("idempotency_key", .str p.idempotencyKey),
    ("command_commitment", .str p.commandCommitment),
    ("expected_parent_hash", .str p.expectedParentHash),
    ("dependency_hash", .str p.dependencyHash),
    ("event_type", .str p.eventType),
    ("result_commitment", .str p.resultCommitment),
    ("core_revision", .str p.coreRevision),
    ("contains_payload", .bool p.containsPayload),
    ("external_effect_requested", .bool p.externalEffectRequested),
    ("canonical_write_requested", .bool p.canonicalWriteRequested)]

/-- `CommitProposal.proposal_hash`. -/
def CommitProposal.proposalHash (p : CommitProposal) : String := digest p.toJson

/-- `CommitDisposition`. -/
inductive CommitDisposition
  | accepted
  | duplicateReplay
  | rejectedStaleParent
  | rejectedIdempotencyConflict
  deriving DecidableEq

/-- The text of a disposition. -/
def CommitDisposition.text : CommitDisposition → String
  | .accepted => "accepted"
  | .duplicateReplay => "duplicate_replay"
  | .rejectedStaleParent => "rejected_stale_parent"
  | .rejectedIdempotencyConflict => "rejected_idempotency_conflict"

/-- `CommitDecision`. -/
structure CommitDecision where
  decisionId : String
  proposalHash : String
  disposition : CommitDisposition
  eventSequence : Option Int
  eventHash : String
  headHash : String
  outboxId : String
  duplicate : Bool
  rejectionCode : String
  adapterRevision : String
  schemaRevision : String
  ephemeralTestOnly : Bool
  canonicalAdmission : Bool
  externalEffects : Bool
  deriving DecidableEq

/-- `CommitStoreSnapshot`. -/
structure CommitStoreSnapshot where
  adapterRevision : String
  schemaRevision : String
  headHash : String
  eventCount : Nat
  commandCount : Nat
  outboxCount : Nat
  pendingOutboxCount : Nat
  acknowledgedOutboxCount : Nat
  eventChainHash : String
  outboxStateHash : String
  invariantErrors : List String
  sqliteIntegrity : String
  ephemeralTestOnly : Bool
  canonicalStore : Bool
  externalEffects : Bool

end LawFirmDigitalTwin
