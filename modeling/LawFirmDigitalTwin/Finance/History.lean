import LawFirmDigitalTwin.Lib.HashChain
import LawFirmDigitalTwin.Finance.Journal

/-!
# The history of the journal

A call of `post` leaves the tables as they were, or it appends its transaction and moves the head
(`post_cases`): a fault or a constraint undoes both inserts and the update. So after any
interleaving of calls the tables hold the proposals of exactly the calls that passed the commit.
-/

namespace LawFirmDigitalTwin

open Raising Transactional

/-- The transaction of a proposal on the head, its entries, and the new head. -/
def FinanceStore.append (db : FinanceStore) (p : FinanceTransactionProposal) : FinanceStore where
  metadata := db.metadata.set "head_hash"
    (FinanceJournal.transactionHash db.nextSequence p.expectedParentHash p)
  transactions := db.transactions ++
    [FinanceJournal.transactionRow db.nextSequence p.expectedParentHash p]
  entries := db.entries ++ FinanceJournal.entryRows db.nextSequence p

namespace FinanceJournal

/-- A result of a call that passed the commit: accepted, or raised by the hook after it. -/
def PassedCommit : Except FinanceError FinancePostDecision → Prop
  | .ok d => d.disposition = .accepted
  | .error e => e = .injected .afterCommitBeforeReturn

instance : DecidablePred PassedCommit := fun r =>
  match r with
  | .ok d => inferInstanceAs (Decidable (d.disposition = .accepted))
  | .error e => inferInstanceAs (Decidable (e = .injected .afterCommitBeforeReturn))

/-! ## Statements -/

/-- What a statement raises is not the fault after the commit. -/
def BeforeCommit (e : FinanceError) : Prop := e ≠ .injected .afterCommitBeforeReturn

instance : DecidablePred BeforeCommit := fun e =>
  inferInstanceAs (Decidable (e ≠ .injected .afterCommitBeforeReturn))

/-- Inserting a transaction fails before the commit. -/
theorem insertTransaction_error {row : FinanceTransactionRow} {db : FinanceStore} {e : FinanceError}
    (h : db.insertTransaction row = .error e) : BeforeCommit e := by
  unfold FinanceStore.insertTransaction at h
  split at h
  · cases h; decide
  split at h
  · cases h; decide
  · cases h

/-- Inserting a transaction adds its row at the end. -/
theorem insertTransaction_ok {row : FinanceTransactionRow} {db db' : FinanceStore}
    (h : db.insertTransaction row = .ok db') :
    db' = { db with transactions := db.transactions ++ [row] } := by
  unfold FinanceStore.insertTransaction at h
  split at h
  · cases h
  split at h
  · cases h
  · exact (Except.ok.inj h).symm

/-- Inserting an entry fails before the commit. -/
theorem insertEntry_error {row : FinanceEntryRow} {db : FinanceStore} {e : FinanceError}
    (h : db.insertEntry row = .error e) : BeforeCommit e := by
  unfold FinanceStore.insertEntry at h
  split at h
  · cases h; decide
  split at h
  · cases h; decide
  · cases h

/-- Inserting an entry adds its row at the end. -/
theorem insertEntry_ok {row : FinanceEntryRow} {db db' : FinanceStore}
    (h : db.insertEntry row = .ok db') : db' = { db with entries := db.entries ++ [row] } := by
  unfold FinanceStore.insertEntry at h
  split at h
  · cases h
  split at h
  · cases h
  · exact (Except.ok.inj h).symm

/-- Inserting the entries fails before the commit. -/
theorem insertEntries_error {rows : List FinanceEntryRow} {db : FinanceStore} {e : FinanceError}
    (h : db.insertEntries rows = .error e) : BeforeCommit e := by
  induction rows generalizing db with
  | nil => cases h
  | cons row rows ih =>
    rw [FinanceStore.insertEntries] at h
    split at h
    · next e' he =>
      cases h
      exact insertEntry_error he
    · next db' _ => exact ih h

/-- `executemany` inserts all of its rows or raises. -/
theorem insertEntries_ok {rows : List FinanceEntryRow} {db db' : FinanceStore}
    (h : db.insertEntries rows = .ok db') : db' = { db with entries := db.entries ++ rows } := by
  induction rows generalizing db with
  | nil =>
    cases h
    rw [List.append_nil]
  | cons row rows ih =>
    rw [FinanceStore.insertEntries] at h
    split at h
    · cases h
    · next db₁ hrow =>
      rw [ih h, insertEntry_ok hrow, List.append_assoc]
      rfl

/-- The head is what the metadata holds. -/
theorem get?_of_headHash {db : FinanceStore} {head : String} (h : db.headHash = .ok head) :
    db.metadata.get? "head_hash" = some head := by
  unfold FinanceStore.headHash at h
  split at h
  · next head' hhead =>
    cases h
    exact hhead
  · cases h

/-- A proposal is refused before the commit. -/
theorem validate_error {p : FinanceTransactionProposal} {e : FinanceError}
    (h : validate p = .error e) : BeforeCommit e := by
  unfold validate at h
  repeat' split at h
  all_goals cases h
  all_goals decide

/-! ## One call -/

/-- The writes of `post` became durable. -/
def Wrote (p : FinanceTransactionProposal) (db : FinanceStore)
    (r : EStateM.Result FinanceError (Transactional.Connection FinanceStore) FinancePostDecision) :
    Prop :=
  ∃ c, c.durable = db.append p ∧
    ((∃ d, r = .ok d c ∧ d.disposition = .accepted) ∨
      r = .error (.injected .afterCommitBeforeReturn) c)

/-- **The writes of `post`**: all of them become durable, or none does. -/
theorem appendTransaction_cases {p : FinanceTransactionProposal} (hook : Option FinanceFaultPoint)
    {db : FinanceStore} (hhead : db.headHash = .ok p.expectedParentHash) :
    Transactional.Aborted BeforeCommit ⟨db, db⟩
      (appendTransaction p hook p.expectedParentHash ⟨db, db⟩) ∨
      Wrote p db (appendTransaction p hook p.expectedParentHash ⟨db, db⟩) := by
  have hfault : ∀ point, point ≠ .afterCommitBeforeReturn → decide (hook = some point) = true →
      BeforeCommit (.injected point) := by
    intro point hpoint _ heq
    exact hpoint (FinanceError.injected.inj heq)
  unfold appendTransaction
  rw [bind_run_ok (get_run _)]
  refine execute_bind rfl (fun e he => insertTransaction_error he) fun db₁ hdb₁ => ?_
  refine faultIf_bind rfl (hfault _ (by decide)) fun _ => ?_
  refine execute_bind rfl (fun e he => insertEntries_error he) fun db₂ hdb₂ => ?_
  refine faultIf_bind rfl (hfault _ (by decide)) fun _ => ?_
  refine execute_bind rfl (fun e he => by cases he) fun db₃ hdb₃ => ?_
  refine faultIf_bind rfl (hfault _ (by decide)) fun _ => ?_
  have hwritten : db₃ = db.append p := by
    rw [← Except.ok.inj hdb₃]
    simp only at hdb₁ hdb₂
    rw [insertEntries_ok hdb₂, insertTransaction_ok hdb₁]
    simp only [FinanceStore.updateHead, get?_of_headHash hhead, Option.isSome_some, if_true]
    rfl
  rw [commit_bind]
  right
  -- the writes are durable: the last fault point decides only what the caller sees
  refine ⟨⟨db₃, db₃⟩, hwritten, ?_⟩
  by_cases hafter : hook = some .afterCommitBeforeReturn
  · right
    simp only [fault, hafter, faultIf, decide_true]
    rfl
  · left
    simp only [fault, hafter, faultIf, decide_false]
    exact ⟨_, rfl, rfl⟩

/-- **A call of `post`** leaves the store as it was, or it appends its transaction. -/
theorem post_cases (p : FinanceTransactionProposal) (hook : Option FinanceFaultPoint)
    (db : FinanceStore) :
    (post p hook db).2 = db ∧ ¬ PassedCommit (post p hook db).1 ∨
      validate p = .ok () ∧ db.headHash = .ok p.expectedParentHash ∧
        db.transactionFor? p.idempotencyKey = none ∧ (post p hook db).2 = db.append p ∧
        PassedCommit (post p hook db).1 := by
  unfold post
  cases hp : validate p with
  | error e => exact .inl ⟨rfl, validate_error hp⟩
  | ok u =>
    have hbegin : postTransaction p hook ⟨db, db⟩ = (fault hook .afterBegin >>= _) ⟨db, db⟩ := rfl
    by_cases hfault : hook = some .afterBegin
    · have hraise : fault hook .afterBegin ⟨db, db⟩ =
          .error (.injected .afterBegin) ⟨db, db⟩ := by rw [hfault]; rfl
      rw [hbegin, bind_run_error hraise]
      exact .inl ⟨rfl, (by decide : BeforeCommit (.injected .afterBegin))⟩
    have hpass : fault hook .afterBegin ⟨db, db⟩ = .ok () ⟨db, db⟩ := by
      simp only [fault, faultIf, hfault, decide_false]
      rfl
    rw [hbegin, bind_run_ok hpass, bind_run_ok (get_run _)]
    cases hhead : db.headHash with
    | error e =>
      refine .inl ⟨rfl, ?_⟩
      unfold FinanceStore.headHash at hhead
      split at hhead <;> cases hhead
      exact (by decide : BeforeCommit .typeError)
    | ok head =>
      rw [bind_run_ok (attempt_ok head _), bind_run_ok (get_run _)]
      cases hrow : db.transactionFor? p.idempotencyKey with
      | some existing =>
        left
        by_cases hsame : existing.proposalHash = p.proposalHash
        · simp only [hsame, ne_eq, not_true_eq_false, if_false]
          exact ⟨rfl, nofun⟩
        · simp only [hsame, ne_eq, not_false_eq_true, if_true]
          exact ⟨rfl, nofun⟩
      | none =>
        by_cases hparent : p.expectedParentHash = head
        · subst hparent
          simp only [ne_eq, not_true_eq_false, if_false]
          rcases appendTransaction_cases hook hhead with
            ⟨e, c, hr, hc, he⟩ | ⟨c, hc, ⟨d, hr, hd⟩ | hr⟩
          · rw [hr]
            exact .inl ⟨hc, he⟩
          · rw [hr]
            exact .inr ⟨trivial, trivial, trivial, hc, hd⟩
          · rw [hr]
            exact .inr ⟨trivial, trivial, trivial, hc, rfl⟩
        · simp only [hparent, ne_eq, not_false_eq_true, if_true]
          exact .inl ⟨rfl, nofun⟩

/-! ## Histories -/

/-- The hash chain of a history. -/
def ledgerChain (h : List FinanceTransactionProposal) :
    List (HashChain.Link String FinanceTransactionProposal) :=
  HashChain.links transactionHash 1 financeGenesisHash h

/-- The head of a history. -/
def ledgerHead (h : List FinanceTransactionProposal) : String :=
  HashChain.head transactionHash 1 financeGenesisHash h

/-- One more proposal is one more link of the chain. -/
theorem ledgerChain_concat (h : List FinanceTransactionProposal) (p : FinanceTransactionProposal) :
    ledgerChain (h ++ [p]) = ledgerChain h ++ [⟨1 + h.length, ledgerHead h, p⟩] :=
  HashChain.links_concat transactionHash 1 financeGenesisHash h p

/-- The head after one more proposal is the hash of its link. -/
theorem ledgerHead_concat (h : List FinanceTransactionProposal) (p : FinanceTransactionProposal) :
    ledgerHead (h ++ [p]) = transactionHash (1 + h.length) (ledgerHead h) p :=
  HashChain.head_concat transactionHash 1 financeGenesisHash h p

/-- The tables hold the history `h`. -/
structure Holds (db : FinanceStore) (h : List FinanceTransactionProposal) : Prop where
  head : db.headHash = .ok (ledgerHead h)
  transactions : db.transactions =
    (ledgerChain h).map fun l => transactionRow l.sequence l.parent l.item
  entries : db.entries = (ledgerChain h).flatMap fun l => entryRows l.sequence l.item
  valid : ∀ p ∈ h, validate p = .ok ()
  keys : (h.map (·.idempotencyKey)).Nodup

section
variable {db : FinanceStore} {h : List FinanceTransactionProposal}

/-- The next sequence number counts the history. -/
theorem Holds.nextSequence (hr : Holds db h) : db.nextSequence = 1 + h.length := by
  unfold FinanceStore.nextSequence
  rcases List.eq_nil_or_concat h with rfl | ⟨h', p, rfl⟩
  · rw [hr.transactions]
    rfl
  · rw [List.concat_eq_append] at hr ⊢
    have hmax : (db.transactions.map (·.transactionSequence)).max? =
        some ((h' ++ [p]).length : Int) := by
      rw [List.max?_eq_some_iff, hr.transactions, List.map_map]
      constructor
      · rw [ledgerChain_concat, List.map_append]
        refine List.mem_append_right _ (List.mem_singleton.2 ?_)
        simp only [Function.comp_apply, transactionRow, List.length_append, List.length_singleton]
        omega
      · intro n hn
        obtain ⟨l, hl, rfl⟩ := List.mem_map.1 hn
        have := (HashChain.sequence_bounds transactionHash hl).2
        simp only [Function.comp_apply, transactionRow]
        omega
    rw [hmax]
    simp only [Option.getD_some]
    omega

/-- The keys of the table are those of the history. -/
theorem Holds.map_idempotencyKey (hr : Holds db h) :
    db.transactions.map (·.idempotencyKey) = h.map (·.idempotencyKey) := by
  rw [hr.transactions, List.map_map,
    ← HashChain.map_item_links transactionHash 1 financeGenesisHash h, List.map_map,
    HashChain.map_item_links]
  rfl

/-- The head of an appended journal is the hash of what was appended. -/
theorem headHash_append (db : FinanceStore) (p : FinanceTransactionProposal) :
    (db.append p).headHash = .ok (transactionHash db.nextSequence p.expectedParentHash p) := by
  unfold FinanceStore.headHash FinanceStore.append
  rw [PyDict.get?_set_self]

/-- A transaction on the head, under a key that is not in the table, extends the history. -/
theorem Holds.append (hr : Holds db h) {p : FinanceTransactionProposal} (hp : validate p = .ok ())
    (hhead : db.headHash = .ok p.expectedParentHash)
    (hkey : db.transactionFor? p.idempotencyKey = none) : Holds (db.append p) (h ++ [p]) := by
  have hparent : p.expectedParentHash = ledgerHead h := by
    rw [hr.head] at hhead
    exact (Except.ok.inj hhead).symm
  have hnext := hr.nextSequence
  exact {
    head := by
      rw [ledgerHead_concat, ← hparent, ← hnext]
      exact headHash_append db p
    transactions := by
      rw [ledgerChain_concat, List.map_append, ← hr.transactions, ← hparent, ← hnext]
      rfl
    entries := by
      rw [ledgerChain_concat, List.flatMap_append, ← hr.entries, ← hnext, List.flatMap_singleton]
      rfl
    valid := by
      intro q hq
      rcases List.mem_append.1 hq with hq | hq
      · exact hr.valid q hq
      · rw [List.mem_singleton.1 hq]
        exact hp
    keys := by
      rw [List.map_append, ← hr.map_idempotencyKey]
      refine List.Nodup.append (by rw [hr.map_idempotencyKey]; exact hr.keys)
        (List.nodup_singleton _) ?_
      rw [List.map_singleton, List.disjoint_singleton]
      intro hmem
      obtain ⟨t, ht, hkey'⟩ := List.mem_map.1 hmem
      have hnone := List.find?_eq_none.1 hkey t ht
      exact hnone (decide_eq_true hkey') }

end

/-- A fresh journal has an empty history. -/
theorem holds_fresh : Holds .fresh [] where
  head := by
    have hhead : FinanceStore.fresh.metadata.get? "head_hash" = some financeGenesisHash := by
      show ((PyDict.set ∅ "head_hash" financeGenesisHash).set "revision"
        financeJournalRevision).get? "head_hash" = some financeGenesisHash
      rw [PyDict.get?_set_ne _ _ (by decide), PyDict.get?_set_self]
    unfold FinanceStore.headHash
    rw [hhead]
    rfl
  transactions := rfl
  entries := rfl
  valid := nofun
  keys := .nil

/-- The proposal that a call wrote. -/
def PostCall.written (call : PostCall) (r : Except FinanceError FinancePostDecision) :
    Option FinanceTransactionProposal :=
  if PassedCommit r then some call.proposal else none

/-- **One call.** It appends to the history what it wrote. -/
theorem Holds.run {db : FinanceStore} {h : List FinanceTransactionProposal} (hr : Holds db h)
    (call : PostCall) : Holds (call.run db).2 (h ++ (call.written (call.run db).1).toList) := by
  unfold PostCall.run PostCall.written
  rcases post_cases call.proposal call.hook db with ⟨hdb, hpassed⟩ | ⟨hp, hhead, hkey, hdb, hpassed⟩
  · rw [hdb, if_neg hpassed]
    simpa using hr
  · rw [hdb, if_pos hpassed]
    exact hr.append hp hhead hkey

/-- **The tables hold the proposals of the calls that passed the commit**, after any
interleaving. -/
theorem holds_run {ι : Type} (actions : List (Exclusive.Action ι PostCall)) :
    Holds (JournalRun actions).store
      ((JournalRun actions).finished.filterMap fun e => e.task.written e.result) :=
  Exclusive.history_run (fun _ _ call hr => hr.run call) holds_fresh actions

end FinanceJournal

end LawFirmDigitalTwin
