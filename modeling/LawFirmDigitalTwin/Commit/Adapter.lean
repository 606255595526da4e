import LawFirmDigitalTwin.Lib.Exclusive
import LawFirmDigitalTwin.Commit.Store

/-!
# The commit adapter

`SQLiteCommitAdapter` of `sqlite_commit_adapter.py`. A call of `commit` is a program over a
connection: the durable store, and the working copy that the open transaction reads and writes. The
fault hook may raise at each of its points, and an exception before the commit leaves the durable
store as it was. `snapshot` recomputes the hash chain from the rows.
-/

namespace LawFirmDigitalTwin

open Raising

/-- `SQLITE_COMMIT_ADAPTER_REVISION`. -/
def commitAdapterRevision : String := "design-c-sqlite-commit-adapter-g0c-v1"

/-- `_validate_proposal`. -/
def validateProposal (p : CommitProposal) : Except CommitError Unit :=
  if p.coreRevision ≠ commitCoreRevision then
    .error (.valueError "commit_core_revision_invalid")
  else if p.proposalId = "" ∨ p.idempotencyKey = "" ∨ p.eventType = "" then
    .error (.valueError "commit_proposal_identity_invalid")
  else if p.commandCommitment.length ≠ 64 then
    .error (.valueError "commit_command_commitment_invalid")
  else if p.expectedParentHash.length ≠ 64 then
    .error (.valueError "commit_parent_commitment_invalid")
  else if p.dependencyHash.length ≠ 64 then
    .error (.valueError "commit_dependency_commitment_invalid")
  else if p.resultCommitment.length ≠ 64 then
    .error (.valueError "commit_result_commitment_invalid")
  else if p.containsPayload ∨ p.externalEffectRequested ∨ p.canonicalWriteRequested then
    .error (.valueError "commit_proposal_authority_invalid")
  else .ok ()

/-! ## Decisions -/

/-- `COMMIT-DECISION-` and the start of a digest. -/
def commitDecisionId (payload : Json) : String :=
  "COMMIT-DECISION-" ++ firstChars 18 (digest payload)

/-- `_rejection`. -/
def rejection (p : CommitProposal) (disposition : CommitDisposition)
    (headHash rejectionCode : String) : CommitDecision where
  decisionId := commitDecisionId (.dict [
    ("proposal", .str p.proposalHash),
    ("disposition", .str disposition.text),
    ("head", .str headHash),
    ("rejection", .str rejectionCode),
    ("adapter", .str commitAdapterRevision)])
  proposalHash := p.proposalHash
  disposition
  eventSequence := none
  eventHash := ""
  headHash
  outboxId := ""
  duplicate := false
  rejectionCode
  adapterRevision := commitAdapterRevision
  schemaRevision := commitSchemaRevision
  ephemeralTestOnly := true
  canonicalAdmission := false
  externalEffects := false

/-- The decision on a proposal whose key is bound to the same input. -/
def duplicateReplay (p : CommitProposal) (existing : CommandRow) (headHash : String) :
    CommitDecision where
  decisionId := commitDecisionId (.dict [
    ("proposal", .str p.proposalHash),
    ("disposition", .str CommitDisposition.duplicateReplay.text),
    ("event", .str existing.eventHash),
    ("head", .str headHash)])
  proposalHash := p.proposalHash
  disposition := .duplicateReplay
  eventSequence := some existing.eventSequence
  eventHash := existing.eventHash
  headHash
  outboxId := existing.outboxId
  duplicate := true
  rejectionCode := ""
  adapterRevision := commitAdapterRevision
  schemaRevision := commitSchemaRevision
  ephemeralTestOnly := true
  canonicalAdmission := false
  externalEffects := false

/-- The decision on a proposal that was written. -/
def acceptance (p : CommitProposal) (sequence : Int) (eventHash outboxId : String) :
    CommitDecision where
  decisionId := commitDecisionId (.dict [
    ("proposal", .str p.proposalHash),
    ("disposition", .str CommitDisposition.accepted.text),
    ("event", .str eventHash),
    ("head", .str eventHash)])
  proposalHash := p.proposalHash
  disposition := .accepted
  eventSequence := some sequence
  eventHash
  headHash := eventHash
  outboxId
  duplicate := false
  rejectionCode := ""
  adapterRevision := commitAdapterRevision
  schemaRevision := commitSchemaRevision
  ephemeralTestOnly := true
  canonicalAdmission := false
  externalEffects := false

/-! ## The rows of a proposal -/

/-- `event_payload`. -/
def eventPayload (sequence : Int) (parent : String) (p : CommitProposal) : Json :=
  .dict [
    ("sequence", .int sequence),
    ("parent", .str parent),
    ("command", .str p.commandCommitment),
    ("dependency", .str p.dependencyHash),
    ("event_type", .str p.eventType),
    ("result", .str p.resultCommitment),
    ("proposal", .str p.proposalHash),
    ("core", .str commitCoreRevision)]

/-- `event_hash`. -/
def eventHash (sequence : Int) (parent : String) (p : CommitProposal) : String :=
  digest (eventPayload sequence parent p)

/-- `outbox_id`. -/
def outboxIdOf (eventHash : String) : String :=
  "OUTBOX-" ++ firstChars 18
    (digest (.dict [("event", .str eventHash), ("schema", .str commitSchemaRevision)]))

/-- What `commit` inserts into `events`. -/
def eventRow (sequence : Int) (parent : String) (p : CommitProposal) : EventRow where
  eventSequence := sequence
  eventId := "EVENT-" ++ firstChars 18 (eventHash sequence parent p)
  parentHash := parent
  eventHash := eventHash sequence parent p
  commandCommitment := p.commandCommitment
  dependencyHash := p.dependencyHash
  eventType := p.eventType
  resultCommitment := p.resultCommitment
  proposalHash := p.proposalHash

/-- What `commit` inserts into `commands`. -/
def commandRow (sequence : Int) (parent : String) (p : CommitProposal) : CommandRow where
  idempotencyKey := p.idempotencyKey
  proposalHash := p.proposalHash
  commandCommitment := p.commandCommitment
  dependencyHash := p.dependencyHash
  eventSequence := sequence
  eventHash := eventHash sequence parent p
  outboxId := outboxIdOf (eventHash sequence parent p)

/-- What `commit` inserts into `outbox`. -/
def outboxRow (sequence : Int) (parent : String) (p : CommitProposal) : OutboxRow where
  outboxId := outboxIdOf (eventHash sequence parent p)
  eventSequence := sequence
  eventHash := eventHash sequence parent p
  status := .pending
  deliveryAttempts := 0

/-- The row that holds the key of a proposal was written for the same input. -/
def CommandRow.Matches (row : CommandRow) (p : CommitProposal) : Prop :=
  row.proposalHash = p.proposalHash ∧ row.commandCommitment = p.commandCommitment ∧
    row.dependencyHash = p.dependencyHash

instance (row : CommandRow) (p : CommitProposal) : Decidable (row.Matches p) :=
  inferInstanceAs (Decidable (_ ∧ _ ∧ _))

/-! ## Transactions -/

/-- The durable store, and what the open transaction sees. -/
structure Connection where
  durable : CommitStore
  working : CommitStore

/-- A program over a connection. -/
abbrev Transaction (α : Type) := EStateM CommitError Connection α

/-- `BEGIN IMMEDIATE`, with the lock already held. -/
def beginImmediate : Transaction PUnit := modify fun c => { c with working := c.durable }

/-- `connection.rollback()`. -/
def rollback : Transaction PUnit := modify fun c => { c with working := c.durable }

/-- `connection.commit()`. -/
def commitWork : Transaction PUnit := modify fun c => { c with durable := c.working }

/-- A statement that writes, or raises and changes nothing. -/
def execute (statement : CommitStore → Except CommitError CommitStore) : Transaction Unit :=
  assign fun c => do return { c with working := ← statement c.working }

/-- `_fault`: the hook raises at its point. -/
def fault (hook : Option FaultPoint) (point : FaultPoint) : Transaction Unit :=
  raiseIf (.ok (hook = some point)) (.injected point)

/-- The part of `commit` that writes, on a store whose head is the proposal's parent. -/
def appendEvent (p : CommitProposal) (hook : Option FaultPoint) (head : String) :
    Transaction CommitDecision := do
  let sequence := (← get).working.nextSequence
  execute (CommitStore.insertEvent (eventRow sequence head p))
  fault hook .afterEventInsert
  execute (CommitStore.insertCommand (commandRow sequence head p))
  fault hook .afterCommandInsert
  execute (CommitStore.insertOutbox (outboxRow sequence head p))
  fault hook .afterOutboxInsert
  modify fun c => { c with working := c.working.updateHead (eventHash sequence head p) }
  fault hook .beforeCommit
  commitWork
  fault hook .afterCommitBeforeReturn
  return acceptance p sequence (eventHash sequence head p)
    (outboxIdOf (eventHash sequence head p))

/-- `commit`, once the proposal is validated. -/
def commitTransaction (p : CommitProposal) (hook : Option FaultPoint) :
    Transaction CommitDecision := do
  beginImmediate
  fault hook .afterBegin
  let head ← attempt (← get).working.headHash
  match (← get).working.commandFor? p.idempotencyKey with
  | some existing =>
    rollback
    if ¬ existing.Matches p then
      return rejection p .rejectedIdempotencyConflict head
        "idempotency_key_reused_with_changed_input"
    else return duplicateReplay p existing head
  | none =>
    if p.expectedParentHash ≠ head then
      rollback
      return rejection p .rejectedStaleParent head "expected_parent_does_not_match_head"
    else appendEvent p hook head

/-- `SQLiteCommitAdapter.commit`: what the call returns or raises, and the durable store after
it. -/
def commit (p : CommitProposal) (hook : Option FaultPoint) (db : CommitStore) :
    Except CommitError CommitDecision × CommitStore :=
  match validateProposal p with
  | .error e => (.error e, db)
  | .ok () =>
    match commitTransaction p hook ⟨db, db⟩ with
    | .ok d c => (.ok d, c.durable)
    | .error e c => (.error e, c.durable)

/-- `SQLiteCommitAdapter.acknowledge_outbox`. -/
def acknowledgeOutbox (outboxId : String) (db : CommitStore) : Bool × CommitStore :=
  match db.outbox.find? (·.outboxId = outboxId) with
  | none => (false, db)
  | some row => (true, if row.status = .pending then db.acknowledge outboxId else db)

/-- A call of one of the two methods that write. -/
inductive CommitCall
  | commit (p : CommitProposal) (hook : Option FaultPoint)
  | acknowledgeOutbox (outboxId : String)

/-- What a call returned or raised. -/
inductive CommitResponse
  | decision (d : CommitDecision)
  | acknowledged (found : Bool)
  | raised (e : CommitError)

/-- The response to a call of `commit`. -/
def CommitResponse.ofResult : Except CommitError CommitDecision → CommitResponse
  | .ok d => .decision d
  | .error e => .raised e

/-- A call as one transaction on the store. -/
def CommitCall.run : CommitCall → CommitStore → CommitResponse × CommitStore
  | .commit p hook, db =>
    let (result, db') := LawFirmDigitalTwin.commit p hook db
    (.ofResult result, db')
  | .acknowledgeOutbox id, db =>
    let (found, db') := LawFirmDigitalTwin.acknowledgeOutbox id db
    (.acknowledged found, db')

/-- The store under clients of type `ι` after some actions. -/
abbrev CommitRun {ι : Type} (actions : List (Exclusive.Action ι CommitCall)) :
    Exclusive.Shared ι CommitCall CommitResponse CommitStore :=
  Machine.run (Exclusive.step CommitCall.run) (.initial .fresh) actions

/-! ## Snapshots -/

/-- The payload that `snapshot` rebuilds from a row of `events`. -/
def EventRow.payload (row : EventRow) : Json :=
  .dict [
    ("sequence", .int row.eventSequence),
    ("parent", .str row.parentHash),
    ("command", .str row.commandCommitment),
    ("dependency", .str row.dependencyHash),
    ("event_type", .str row.eventType),
    ("result", .str row.resultCommitment),
    ("proposal", .str row.proposalHash),
    ("core", .str commitCoreRevision)]

/-- `dict(row)` of a row of `events`. -/
def EventRow.toJson (row : EventRow) : Json :=
  .dict [
    ("event_sequence", .int row.eventSequence),
    ("event_id", .str row.eventId),
    ("parent_hash", .str row.parentHash),
    ("event_hash", .str row.eventHash),
    ("command_commitment", .str row.commandCommitment),
    ("dependency_hash", .str row.dependencyHash),
    ("event_type", .str row.eventType),
    ("result_commitment", .str row.resultCommitment),
    ("proposal_hash", .str row.proposalHash)]

/-- `dict(row)` of a row of `outbox`. -/
def OutboxRow.toJson (row : OutboxRow) : Json :=
  .dict [
    ("outbox_id", .str row.outboxId),
    ("event_sequence", .int row.eventSequence),
    ("event_hash", .str row.eventHash),
    ("status", .str row.status.text),
    ("delivery_attempts", .int row.deliveryAttempts)]

/-- A message of `snapshot` about the event at a place. -/
def atIndex (text : String) (index : Nat) : String := text ++ toString index

/-- The loop of `snapshot` over the events: the messages, and the hash of the last event. -/
def chainErrors : Nat → String → List EventRow → List String × String
  | _, expectedParent, [] => ([], expectedParent)
  | index, expectedParent, e :: es =>
    let (errors, last) := chainErrors (index + 1) e.eventHash es
    ((if e.eventSequence ≠ index then [atIndex "sequence_gap:" index] else [])
      ++ (if e.parentHash ≠ expectedParent then [atIndex "parent_break:" index] else [])
      ++ (if e.eventHash ≠ digest e.payload then [atIndex "event_hash_mismatch:" index] else [])
      ++ errors, last)

/-- `event_by_sequence.get`: the last event with this number. -/
def eventBySequence (events : List EventRow) (n : Int) : Option EventRow :=
  events.reverse.find? (·.eventSequence = n)

/-- A row refers to an event by its number and has that event's hash. -/
def BoundTo (events : List EventRow) (n : Int) (hash : String) : Prop :=
  ∃ e ∈ eventBySequence events n, hash = e.eventHash

instance (events : List EventRow) (n : Int) (hash : String) : Decidable (BoundTo events n hash) :=
  inferInstanceAs (Decidable (∃ e ∈ _, _))

/-- `errors` of `snapshot`, on the sorted tables. -/
def snapshotErrors (headHash : String) (events : List EventRow) (commands : List CommandRow)
    (outbox : List OutboxRow) : List String :=
  let (errors, last) := chainErrors 1 genesisHeadHash events
  errors
    ++ (if headHash ≠ last then ["head_hash_mismatch"] else [])
    ++ (if commands.length ≠ events.length then ["command_event_count_mismatch"] else [])
    ++ (if outbox.length ≠ events.length then ["outbox_event_count_mismatch"] else [])
    ++ commands.filterMap (fun c =>
      if BoundTo events c.eventSequence c.eventHash then none
      else some ("command_event_binding_mismatch:" ++ c.idempotencyKey))
    ++ outbox.filterMap (fun o =>
      if BoundTo events o.eventSequence o.eventHash then none
      else some ("outbox_event_binding_mismatch:" ++ o.outboxId))

/-- `SQLiteCommitAdapter.snapshot`; `integrityCheck` is what `PRAGMA integrity_check` reports. -/
def snapshot (integrityCheck : CommitStore → String) (db : CommitStore) :
    Except CommitError CommitStoreSnapshot := do
  let headHash ← db.headHash
  let events := db.events.insertionSort fun a b => a.eventSequence ≤ b.eventSequence
  let commands := db.commands.insertionSort fun a b => a.idempotencyKey ≤ b.idempotencyKey
  let outbox := db.outbox.insertionSort fun a b => a.eventSequence ≤ b.eventSequence
  return {
    adapterRevision := commitAdapterRevision
    schemaRevision := commitSchemaRevision
    headHash
    eventCount := events.length
    commandCount := commands.length
    outboxCount := outbox.length
    pendingOutboxCount := outbox.countP (·.status = .pending)
    acknowledgedOutboxCount := outbox.countP (·.status = .acknowledged)
    eventChainHash := digest (.list (events.map EventRow.toJson))
    outboxStateHash := digest (.list (outbox.map OutboxRow.toJson))
    invariantErrors := snapshotErrors headHash events commands outbox
    sqliteIntegrity := integrityCheck db
    ephemeralTestOnly := true
    canonicalStore := false
    externalEffects := false }

/-- `commit_protocol_validator.py` `validate_commit_snapshot`. -/
def validateCommitSnapshot (s : CommitStoreSnapshot) : List String :=
  (if s.adapterRevision ≠ commitAdapterRevision then ["CPV-001:adapter_revision_invalid"] else [])
    ++ (if s.schemaRevision ≠ commitSchemaRevision then ["CPV-002:schema_revision_invalid"] else [])
    ++ (if s.sqliteIntegrity ≠ "ok" then ["CPV-003:sqlite_integrity_failed"] else [])
    ++ (if s.invariantErrors ≠ [] then ["CPV-004:store_invariants_failed"] else [])
    ++ (if s.eventCount = s.commandCount ∧ s.commandCount = s.outboxCount ∧
        s.outboxCount = s.pendingOutboxCount + s.acknowledgedOutboxCount then []
      else ["CPV-005:atomic_record_count_mismatch"])
    ++ (if ¬ s.ephemeralTestOnly ∨ s.canonicalStore ∨ s.externalEffects then
        ["CPV-006:store_authority_boundary_invalid"] else [])
    ++ (if s.headHash.length ≠ 64 then ["CPV-007:head_hash_invalid"] else [])

end LawFirmDigitalTwin
