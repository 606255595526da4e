import LawFirmDigitalTwin.Lib.Raising
import LawFirmDigitalTwin.PyValue
import LawFirmDigitalTwin.Commit.Protocol

/-!
# The tables of the commit store

The schema of `sqlite_commit_adapter.py`: four tables, the constraints SQLite checks on every
insert, and the statements of the adapter. A table is the list of its rows in the order they were
inserted; an `INTEGER` column holds 64 bits and the adapter binds Python integers to it.
-/

namespace LawFirmDigitalTwin

open Raising

/-- `FAULT_POINTS`. -/
inductive FaultPoint
  | afterBegin
  | afterEventInsert
  | afterCommandInsert
  | afterOutboxInsert
  | beforeCommit
  | afterCommitBeforeReturn
  deriving DecidableEq

/-- What a call of the adapter can raise: its own `ValueError`, the subscript of a missing row, a
constraint SQLite found violated, an integer that does not fit a column, or what the fault hook
raised. -/
inductive CommitError
  | valueError (text : String)
  | typeError
  | integrityError
  | overflowError
  | injected (point : FaultPoint)
  deriving DecidableEq

/-- A row of `events`. -/
structure EventRow where
  eventSequence : Int
  eventId : String
  parentHash : String
  eventHash : String
  commandCommitment : String
  dependencyHash : String
  eventType : String
  resultCommitment : String
  proposalHash : String
  deriving DecidableEq

/-- A row of `commands`. -/
structure CommandRow where
  idempotencyKey : String
  proposalHash : String
  commandCommitment : String
  dependencyHash : String
  eventSequence : Int
  eventHash : String
  outboxId : String
  deriving DecidableEq

/-- The values the `CHECK` on `outbox.status` admits. -/
inductive OutboxStatus
  | pending
  | acknowledged
  deriving DecidableEq

/-- The text of a status. -/
def OutboxStatus.text : OutboxStatus → String
  | .pending => "pending"
  | .acknowledged => "acknowledged"

/-- A row of `outbox`. -/
structure OutboxRow where
  outboxId : String
  eventSequence : Int
  eventHash : String
  status : OutboxStatus
  deliveryAttempts : Int
  deriving DecidableEq

/-- The four tables. -/
structure CommitStore where
  metadata : PyDict String
  events : List EventRow
  commands : List CommandRow
  outbox : List OutboxRow

/-- What `_initialize` leaves in a new file. -/
def CommitStore.fresh : CommitStore where
  metadata := .ofEntries
    [("head_hash", genesisHeadHash), ("schema_revision", commitSchemaRevision)]
  events := []
  commands := []
  outbox := []

/-! ## Constraints -/

/-- Two events cannot both be in the table: the primary key and the three `UNIQUE` columns. -/
def EventRow.Clashes (a b : EventRow) : Prop :=
  a.eventSequence = b.eventSequence ∨ a.eventId = b.eventId ∨ a.eventHash = b.eventHash ∨
    a.proposalHash = b.proposalHash

instance (a b : EventRow) : Decidable (a.Clashes b) :=
  inferInstanceAs (Decidable (_ ∨ _ ∨ _ ∨ _))

/-- Two commands cannot both be in the table. -/
def CommandRow.Clashes (a b : CommandRow) : Prop := a.idempotencyKey = b.idempotencyKey

instance (a b : CommandRow) : Decidable (a.Clashes b) := inferInstanceAs (Decidable (_ = _))

/-- Two outbox rows cannot both be in the table. -/
def OutboxRow.Clashes (a b : OutboxRow) : Prop :=
  a.outboxId = b.outboxId ∨ a.eventSequence = b.eventSequence

instance (a b : OutboxRow) : Decidable (a.Clashes b) := inferInstanceAs (Decidable (_ ∨ _))

/-- The keys and `UNIQUE` columns of the schema, and its foreign keys. -/
structure CommitStore.Constraints (db : CommitStore) : Prop where
  events : db.events.Pairwise fun a b => ¬ a.Clashes b
  commands : db.commands.Pairwise fun a b => ¬ a.Clashes b
  outbox : db.outbox.Pairwise fun a b => ¬ a.Clashes b
  commandEvent : ∀ c ∈ db.commands, ∃ e ∈ db.events, e.eventSequence = c.eventSequence
  outboxEvent : ∀ o ∈ db.outbox, ∃ e ∈ db.events, e.eventSequence = o.eventSequence

/-! ## Statements -/

namespace CommitStore

/-- `SELECT value FROM metadata WHERE key='head_hash'`, and its first column. -/
def headHash (db : CommitStore) : Except CommitError String :=
  match db.metadata.get? "head_hash" with
  | some head => .ok head
  | none => .error .typeError

/-- `SELECT * FROM commands WHERE idempotency_key=?`. -/
def commandFor? (db : CommitStore) (key : String) : Option CommandRow :=
  db.commands.find? (·.idempotencyKey = key)

/-- `SELECT MAX(event_sequence) FROM events`. -/
def maxSequence? (db : CommitStore) : Option Int := (db.events.map (·.eventSequence)).max?

/-- `SELECT COALESCE(MAX(event_sequence),0)+1 FROM events`. -/
def nextSequence (db : CommitStore) : Int := db.maxSequence?.getD 0 + 1

/-- A Python integer as a parameter of a statement. -/
def bindInteger (n : Int) : Except CommitError Int :=
  if -9223372036854775808 ≤ n ∧ n ≤ 9223372036854775807 then .ok n else .error .overflowError

/-- The foreign keys on `events(event_sequence)`. -/
def HasEvent (db : CommitStore) (n : Int) : Prop := ∃ e ∈ db.events, e.eventSequence = n

instance (db : CommitStore) (n : Int) : Decidable (db.HasEvent n) :=
  inferInstanceAs (Decidable (∃ e ∈ _, _))

/-- `INSERT INTO events`. -/
def insertEvent (row : EventRow) (db : CommitStore) : Except CommitError CommitStore := do
  let _ ← bindInteger row.eventSequence
  if ∃ e ∈ db.events, row.Clashes e then .error .integrityError
  else .ok { db with events := db.events ++ [row] }

/-- `INSERT INTO commands`. -/
def insertCommand (row : CommandRow) (db : CommitStore) : Except CommitError CommitStore := do
  let _ ← bindInteger row.eventSequence
  if (∃ c ∈ db.commands, row.Clashes c) ∨ ¬ db.HasEvent row.eventSequence then
    .error .integrityError
  else .ok { db with commands := db.commands ++ [row] }

/-- `INSERT INTO outbox`. -/
def insertOutbox (row : OutboxRow) (db : CommitStore) : Except CommitError CommitStore := do
  let _ ← bindInteger row.eventSequence
  if (∃ o ∈ db.outbox, row.Clashes o) ∨ ¬ db.HasEvent row.eventSequence then
    .error .integrityError
  else .ok { db with outbox := db.outbox ++ [row] }

/-- `UPDATE metadata SET value=? WHERE key='head_hash'`. -/
def updateHead (head : String) (db : CommitStore) : CommitStore :=
  { db with metadata := if (db.metadata.get? "head_hash").isSome then
      db.metadata.set "head_hash" head else db.metadata }

/-- `UPDATE outbox SET status='acknowledged', delivery_attempts=delivery_attempts+1`. -/
def acknowledge (outboxId : String) (db : CommitStore) : CommitStore :=
  { db with outbox := db.outbox.map fun row =>
      if row.outboxId = outboxId then
        { row with status := .acknowledged, deliveryAttempts := row.deliveryAttempts + 1 }
      else row }

end CommitStore

end LawFirmDigitalTwin
