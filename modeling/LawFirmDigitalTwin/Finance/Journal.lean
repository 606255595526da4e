import LawFirmDigitalTwin.Lib.Exclusive
import LawFirmDigitalTwin.Lib.Transactional
import LawFirmDigitalTwin.PyValue

/-!
# The finance journal

`SQLiteFinanceJournal` of `finance_journal.py`: the tables with the constraints of their schema, the
transaction of `post` with its fault points, and the snapshot, which rebuilds the hash of every
transaction from the rows of its entries. Amounts are integers; an `INTEGER` column holds 64 bits.
-/

namespace LawFirmDigitalTwin

open Raising Transactional

/-- `FINANCE_JOURNAL_REVISION`. -/
def financeJournalRevision : String := "design-c-finance-journal-g0c-v1"

/-- `FINANCE_GENESIS_HASH`. -/
def financeGenesisHash : String := digest (.str "design-c-finance-genesis-g0c-v1")

/-- `FINANCE_FAULT_POINTS`. -/
inductive FinanceFaultPoint
  | afterBegin
  | afterTransactionInsert
  | afterEntriesInsert
  | beforeCommit
  | afterCommitBeforeReturn
  deriving DecidableEq

/-- What a call of the journal can raise. -/
inductive FinanceError
  | valueError (text : String)
  | typeError
  | integrityError
  | overflowError
  | injected (point : FinanceFaultPoint)
  deriving DecidableEq

/-- `FinanceEntry`. -/
structure FinanceEntry where
  account : String
  debitCents : Int
  creditCents : Int
  deriving DecidableEq

def FinanceEntry.toJson (e : FinanceEntry) : Json :=
  .dict [
    ("account", .str e.account),
    ("debit_cents", .int e.debitCents),
    ("credit_cents", .int e.creditCents)]

/-- `FinanceTransactionProposal`. -/
structure FinanceTransactionProposal where
  transactionId : String
  idempotencyKey : String
  stage : String
  expectedParentHash : String
  entries : List FinanceEntry
  sourceEventCommitment : String
  revision : String := financeJournalRevision
  externalEffectRequested : Bool := false
  canonicalWriteRequested : Bool := false
  deriving DecidableEq

def FinanceTransactionProposal.toJson (p : FinanceTransactionProposal) : Json :=
  .dict [
    ("transaction_id", .str p.transactionId),
    ("idempotency_key", .str p.idempotencyKey),
    ("stage", .str p.stage),
    ("expected_parent_hash", .str p.expectedParentHash),
    ("entries", .list (p.entries.map FinanceEntry.toJson)),
    ("source_event_commitment", .str p.sourceEventCommitment),
    ("revision", .str p.revision),
    ("external_effect_requested", .bool p.externalEffectRequested),
    ("canonical_write_requested", .bool p.canonicalWriteRequested)]

/-- `FinanceTransactionProposal.proposal_hash`. -/
def FinanceTransactionProposal.proposalHash (p : FinanceTransactionProposal) : String :=
  digest p.toJson

/-- The values of `FinancePostDecision.disposition`. -/
inductive FinanceDisposition
  | accepted
  | duplicateReplay
  | rejectedStaleParent
  | rejectedIdempotencyConflict
  deriving DecidableEq

/-- The text of a disposition. -/
def FinanceDisposition.text : FinanceDisposition → String
  | .accepted => "accepted"
  | .duplicateReplay => "duplicate_replay"
  | .rejectedStaleParent => "rejected_stale_parent"
  | .rejectedIdempotencyConflict => "rejected_idempotency_conflict"

/-- `FinancePostDecision`. -/
structure FinancePostDecision where
  decisionId : String
  disposition : FinanceDisposition
  proposalHash : String
  transactionSequence : Option Int
  transactionHash : String
  headHash : String
  rejectionCode : String
  duplicate : Bool
  ephemeralTestOnly : Bool
  canonicalAdmission : Bool
  externalEffects : Bool

/-! ## The tables -/

/-- A row of `finance_transactions`. -/
structure FinanceTransactionRow where
  transactionSequence : Int
  transactionId : String
  idempotencyKey : String
  proposalHash : String
  stage : String
  parentHash : String
  transactionHash : String
  sourceEventCommitment : String

/-- A row of `finance_entries`. -/
structure FinanceEntryRow where
  transactionSequence : Int
  entryOrdinal : Int
  account : String
  debitCents : Int
  creditCents : Int

/-- The three tables. -/
structure FinanceStore where
  metadata : PyDict String
  transactions : List FinanceTransactionRow
  entries : List FinanceEntryRow

/-- Two transactions cannot both be in the table: the primary key and the `UNIQUE` columns. -/
def FinanceTransactionRow.Clashes (a b : FinanceTransactionRow) : Prop :=
  a.transactionSequence = b.transactionSequence ∨ a.transactionId = b.transactionId ∨
    a.idempotencyKey = b.idempotencyKey ∨ a.transactionHash = b.transactionHash

instance FinanceTransactionRow.decidableClashes (a b : FinanceTransactionRow) :
    Decidable (a.Clashes b) :=
  inferInstanceAs (Decidable (_ ∨ _ ∨ _ ∨ _))

/-- Two entries cannot both be in the table. -/
def FinanceEntryRow.Clashes (a b : FinanceEntryRow) : Prop :=
  a.transactionSequence = b.transactionSequence ∧ a.entryOrdinal = b.entryOrdinal

instance FinanceEntryRow.decidableClashes (a b : FinanceEntryRow) :
    Decidable (a.Clashes b) :=
  inferInstanceAs (Decidable (_ ∧ _))

namespace FinanceStore

/-- What `_initialize` leaves in a new file. -/
def fresh : FinanceStore where
  metadata := .ofEntries
    [("head_hash", financeGenesisHash), ("revision", financeJournalRevision)]
  transactions := []
  entries := []

/-- `SELECT value FROM finance_metadata WHERE key='head_hash'`, and its first column. -/
def headHash (db : FinanceStore) : Except FinanceError String :=
  match db.metadata.get? "head_hash" with
  | some head => .ok head
  | none => .error .typeError

/-- `SELECT * FROM finance_transactions WHERE idempotency_key=?`. -/
def transactionFor? (db : FinanceStore) (key : String) : Option FinanceTransactionRow :=
  db.transactions.find? (·.idempotencyKey = key)

/-- `SELECT COALESCE(MAX(transaction_sequence),0)+1 FROM finance_transactions`. -/
def nextSequence (db : FinanceStore) : Int :=
  (db.transactions.map (·.transactionSequence)).max?.getD 0 + 1

/-- A Python integer fits a parameter of a statement. -/
def Binds (n : Int) : Prop := -9223372036854775808 ≤ n ∧ n ≤ 9223372036854775807

instance (n : Int) : Decidable (Binds n) := inferInstanceAs (Decidable (_ ∧ _))

/-- `INSERT INTO finance_transactions`. -/
def insertTransaction (row : FinanceTransactionRow) (db : FinanceStore) :
    Except FinanceError FinanceStore :=
  if ¬ Binds row.transactionSequence then .error .overflowError
  else if ∃ t ∈ db.transactions, row.Clashes t then .error .integrityError
  else .ok { db with transactions := db.transactions ++ [row] }

/-- `INSERT INTO finance_entries`. -/
def insertEntry (row : FinanceEntryRow) (db : FinanceStore) : Except FinanceError FinanceStore :=
  if ¬ (Binds row.transactionSequence ∧ Binds row.entryOrdinal ∧ Binds row.debitCents ∧
      Binds row.creditCents) then .error .overflowError
  else if row.debitCents < 0 ∨ row.creditCents < 0 ∨ (∃ e ∈ db.entries, row.Clashes e) ∨
      ¬ ∃ t ∈ db.transactions, t.transactionSequence = row.transactionSequence then
    .error .integrityError
  else .ok { db with entries := db.entries ++ [row] }

/-- `executemany`: the rows one by one. -/
def insertEntries (db : FinanceStore) : List FinanceEntryRow → Except FinanceError FinanceStore
  | [] => .ok db
  | row :: rows =>
    match db.insertEntry row with
    | .error e => .error e
    | .ok db' => insertEntries db' rows

/-- `UPDATE finance_metadata SET value=? WHERE key='head_hash'`. -/
def updateHead (head : String) (db : FinanceStore) : FinanceStore :=
  { db with metadata := if (db.metadata.get? "head_hash").isSome then
      db.metadata.set "head_hash" head else db.metadata }

end FinanceStore

/-! ## Posting -/

namespace FinanceJournal

/-- `sum(item.debit_cents for item in entries)`. -/
def debitOf (entries : List FinanceEntry) : Int := (entries.map (·.debitCents)).sum

/-- `sum(item.credit_cents for item in entries)`. -/
def creditOf (entries : List FinanceEntry) : Int := (entries.map (·.creditCents)).sum

/-- `_validate`. -/
def validate (p : FinanceTransactionProposal) : Except FinanceError Unit :=
  if p.revision ≠ financeJournalRevision then .error (.valueError "finance_revision_invalid")
  else if p.transactionId = "" ∨ p.idempotencyKey = "" ∨ p.expectedParentHash.length ≠ 64 ∨
      p.sourceEventCommitment.length ≠ 64 ∨ p.entries = [] then
    .error (.valueError "finance_proposal_invalid")
  else if debitOf p.entries ≤ 0 ∨ debitOf p.entries ≠ creditOf p.entries then
    .error (.valueError "finance_transaction_unbalanced")
  else if ∃ entry ∈ p.entries, entry.account = "" ∨ entry.debitCents < 0 ∨ entry.creditCents < 0 ∨
      (entry.debitCents = 0 ↔ entry.creditCents = 0) then
    .error (.valueError "finance_entry_invalid")
  else if p.externalEffectRequested ∨ p.canonicalWriteRequested then
    .error (.valueError "finance_authority_invalid")
  else .ok ()

/-- `_decision`. -/
def decision (p : FinanceTransactionProposal) (disposition : FinanceDisposition)
    (headHash : String) (sequence : Option Int) (transactionHash rejection : String)
    (duplicate : Bool) : FinancePostDecision where
  decisionId := "FINANCE-DECISION-" ++ firstChars 18 (digest (.dict [
    ("proposal", .str p.proposalHash),
    ("disposition", .str disposition.text),
    ("head", .str headHash),
    ("sequence", match sequence with | some n => .int n | none => .null),
    ("transaction", .str transactionHash),
    ("rejection", .str rejection)]))
  disposition
  proposalHash := p.proposalHash
  transactionSequence := sequence
  transactionHash
  headHash
  rejectionCode := rejection
  duplicate
  ephemeralTestOnly := true
  canonicalAdmission := false
  externalEffects := false

/-- `transaction_payload`, as `post` and `snapshot` build it. -/
def transactionPayload (sequence : Int) (parent stage : String) (entries : List FinanceEntry)
    (source proposal : String) : Json :=
  .dict [
    ("sequence", .int sequence),
    ("parent", .str parent),
    ("stage", .str stage),
    ("entries", .list (entries.map FinanceEntry.toJson)),
    ("source", .str source),
    ("proposal", .str proposal),
    ("revision", .str financeJournalRevision)]

/-- `transaction_hash`. -/
def transactionHash (sequence : Int) (parent : String) (p : FinanceTransactionProposal) : String :=
  digest (transactionPayload sequence parent p.stage p.entries p.sourceEventCommitment
    p.proposalHash)

/-- What `post` inserts into `finance_transactions`. -/
def transactionRow (sequence : Int) (parent : String) (p : FinanceTransactionProposal) :
    FinanceTransactionRow where
  transactionSequence := sequence
  transactionId := p.transactionId
  idempotencyKey := p.idempotencyKey
  proposalHash := p.proposalHash
  stage := p.stage
  parentHash := parent
  transactionHash := transactionHash sequence parent p
  sourceEventCommitment := p.sourceEventCommitment

/-- What `post` inserts into `finance_entries`: `enumerate(proposal.entries, start=1)`. -/
def entryRows (sequence : Int) (p : FinanceTransactionProposal) : List FinanceEntryRow :=
  (p.entries.zipIdx 1).map fun e =>
    ⟨sequence, e.2, e.1.account, e.1.debitCents, e.1.creditCents⟩

/-- `_fault`. -/
def fault (hook : Option FinanceFaultPoint) (point : FinanceFaultPoint) :
    Program FinanceError FinanceStore Unit :=
  faultIf (decide (hook = some point)) (.injected point)

/-- The part of `post` that writes, on a store whose head is the proposal's parent. -/
def appendTransaction (p : FinanceTransactionProposal) (hook : Option FinanceFaultPoint)
    (head : String) : Program FinanceError FinanceStore FinancePostDecision := do
  let sequence := (← get).working.nextSequence
  Transactional.execute (FinanceStore.insertTransaction (transactionRow sequence head p))
  fault hook .afterTransactionInsert
  Transactional.execute (fun db => db.insertEntries (entryRows sequence p))
  fault hook .afterEntriesInsert
  Transactional.execute (fun db => .ok (db.updateHead (transactionHash sequence head p)))
  fault hook .beforeCommit
  Transactional.commit
  fault hook .afterCommitBeforeReturn
  return decision p .accepted (transactionHash sequence head p) (some sequence)
    (transactionHash sequence head p) "" false

/-- `post`, once the proposal is validated. -/
def postTransaction (p : FinanceTransactionProposal) (hook : Option FinanceFaultPoint) :
    Program FinanceError FinanceStore FinancePostDecision := do
  begin
  fault hook .afterBegin
  let head ← attempt (← get).working.headHash
  match (← get).working.transactionFor? p.idempotencyKey with
  | some existing =>
    Transactional.rollback
    if existing.proposalHash ≠ p.proposalHash then
      return decision p .rejectedIdempotencyConflict head none ""
        "idempotency_key_reused_with_changed_input" false
    else
      return decision p .duplicateReplay head (some existing.transactionSequence)
        existing.transactionHash "" true
  | none =>
    if p.expectedParentHash ≠ head then
      Transactional.rollback
      return decision p .rejectedStaleParent head none "" "expected_parent_does_not_match_head"
        false
    else appendTransaction p hook head

/-- `SQLiteFinanceJournal.post`: what the call returns or raises, and the durable store after it. -/
def post (p : FinanceTransactionProposal) (hook : Option FinanceFaultPoint) (db : FinanceStore) :
    Except FinanceError FinancePostDecision × FinanceStore :=
  match validate p with
  | .error e => (.error e, db)
  | .ok () =>
    match postTransaction p hook ⟨db, db⟩ with
    | .ok d c => (.ok d, c.durable)
    | .error e c => (.error e, c.durable)

/-- A call of `post`. -/
structure PostCall where
  proposal : FinanceTransactionProposal
  hook : Option FinanceFaultPoint

/-- A call as one transaction on the store. -/
def PostCall.run (call : PostCall) (db : FinanceStore) :
    Except FinanceError FinancePostDecision × FinanceStore :=
  post call.proposal call.hook db

/-- The journal under clients of type `ι` after some actions. -/
abbrev JournalRun {ι : Type} (actions : List (Exclusive.Action ι PostCall)) :
    Exclusive.Shared ι PostCall (Except FinanceError FinancePostDecision) FinanceStore :=
  Machine.run (Exclusive.step PostCall.run) (.initial .fresh) actions

/-! ## Snapshots -/

/-- `FinanceJournalSnapshot`. -/
structure Snapshot where
  headHash : String
  transactionCount : Nat
  entryCount : Nat
  debitTotalCents : Int
  creditTotalCents : Int
  balances : List (String × Int)
  stageCounts : List (String × Int)
  journalHash : String
  invariantErrors : List String
  sqliteIntegrity : String
  ephemeralTestOnly : Bool
  canonicalStore : Bool
  externalEffects : Bool

/-- `dict(row)` of a row of `finance_transactions`. -/
def transactionJson (t : FinanceTransactionRow) : Json :=
  .dict [
    ("transaction_sequence", .int t.transactionSequence),
    ("transaction_id", .str t.transactionId),
    ("idempotency_key", .str t.idempotencyKey),
    ("proposal_hash", .str t.proposalHash),
    ("stage", .str t.stage),
    ("parent_hash", .str t.parentHash),
    ("transaction_hash", .str t.transactionHash),
    ("source_event_commitment", .str t.sourceEventCommitment)]

/-- `dict(row)` of a row of `finance_entries`. -/
def entryJson (e : FinanceEntryRow) : Json :=
  .dict [
    ("transaction_sequence", .int e.transactionSequence),
    ("entry_ordinal", .int e.entryOrdinal),
    ("account", .str e.account),
    ("debit_cents", .int e.debitCents),
    ("credit_cents", .int e.creditCents)]

/-- `transaction_entries`: the entries of the transaction at a place. -/
def entriesAt (entries : List FinanceEntryRow) (index : Int) : List FinanceEntry :=
  (entries.filter fun e => e.transactionSequence = index).map fun e =>
    ⟨e.account, e.debitCents, e.creditCents⟩

/-- The loop of `snapshot` over the transactions: the messages, and the hash of the last one. -/
def transactionErrors (entries : List FinanceEntryRow) :
    Int → String → List FinanceTransactionRow → List String × String
  | _, expectedParent, [] => ([], expectedParent)
  | index, expectedParent, t :: ts =>
    let (errors, last) := transactionErrors entries (index + 1) t.transactionHash ts
    let own := entriesAt entries index
    ((if t.transactionSequence ≠ index then ["finance_sequence_gap:" ++ toString index] else [])
      ++ (if t.parentHash ≠ expectedParent then ["finance_parent_break:" ++ toString index] else [])
      ++ (if t.transactionHash ≠ digest (transactionPayload index t.parentHash t.stage own
          t.sourceEventCommitment t.proposalHash) then
          ["finance_hash_mismatch:" ++ toString index] else [])
      ++ (if debitOf own ≤ 0 ∨ debitOf own ≠ creditOf own then
          ["finance_unbalanced:" ++ toString index] else [])
      ++ errors, last)

/-- `balances`; its `entries` are sorted by account, as `sorted(balances.items())` are. -/
def balancesOf (entries : List FinanceEntryRow) : PyDict Int :=
  entries.foldl (fun balances e => balances.set e.account
    ((balances.get? e.account).getD 0 + e.debitCents - e.creditCents)) ∅

/-- `stages`. -/
def stagesOf (transactions : List FinanceTransactionRow) : PyDict Int :=
  transactions.foldl (fun stages t => stages.set t.stage ((stages.get? t.stage).getD 0 + 1)) ∅

/-- The order of `ORDER BY transaction_sequence,entry_ordinal`. -/
def inOrder (a b : FinanceEntryRow) : Prop :=
  a.transactionSequence < b.transactionSequence ∨
    a.transactionSequence = b.transactionSequence ∧ a.entryOrdinal ≤ b.entryOrdinal

instance : DecidableRel inOrder := fun _ _ => inferInstanceAs (Decidable (_ ∨ _ ∧ _))

/-- `SQLiteFinanceJournal.snapshot`; `integrityCheck` is what `PRAGMA integrity_check` reports. -/
def snapshot (integrityCheck : FinanceStore → String) (db : FinanceStore) :
    Except FinanceError Snapshot := do
  let head ← db.headHash
  let transactions := db.transactions.insertionSort fun a b =>
    a.transactionSequence ≤ b.transactionSequence
  let entries := db.entries.insertionSort inOrder
  let (errors, last) := transactionErrors entries 1 financeGenesisHash transactions
  let debitTotal := (entries.map (·.debitCents)).sum
  let creditTotal := (entries.map (·.creditCents)).sum
  return {
    headHash := head
    transactionCount := transactions.length
    entryCount := entries.length
    debitTotalCents := debitTotal
    creditTotalCents := creditTotal
    balances := (balancesOf entries).entries
    stageCounts := (stagesOf transactions).entries
    journalHash := digest (.list
      [.list (transactions.map transactionJson), .list (entries.map entryJson)])
    invariantErrors := errors
      ++ (if head ≠ last then ["finance_head_mismatch"] else [])
      ++ (if debitTotal ≠ creditTotal then ["finance_global_imbalance"] else [])
    sqliteIntegrity := integrityCheck db
    ephemeralTestOnly := true
    canonicalStore := false
    externalEffects := false }

end FinanceJournal

end LawFirmDigitalTwin
