import LawFirmDigitalTwin.Finance.Invariant
import LawFirmDigitalTwin.Spelling

/-!
# The finance lifecycle

`build_finance_lifecycle` predicts the hash chain that its five proposals will make. It numbers the
transactions from 1, and the store from the transactions it has: the two chains agree on the empty
journal and part at the first transaction on every other one.
-/

namespace LawFirmDigitalTwin.FinanceJournal

open Raising

/-- `stages` of `build_finance_lifecycle`. -/
def lifecycleStages : List (String × List FinanceEntry) :=
  [("invoice", [⟨"accounts_receivable", 100000, 0⟩, ⟨"fee_revenue", 0, 100000⟩]),
   ("reduction", [⟨"billing_write_off", 20000, 0⟩, ⟨"accounts_receivable", 0, 20000⟩]),
   ("appeal", [⟨"accounts_receivable", 10000, 0⟩, ⟨"billing_write_off", 0, 10000⟩]),
   ("payment", [⟨"cash", 85000, 0⟩, ⟨"accounts_receivable", 0, 85000⟩]),
   ("write_off", [⟨"billing_write_off", 5000, 0⟩, ⟨"accounts_receivable", 0, 5000⟩])]

/-- The proposal of a stage. -/
def lifecycleProposal (ordinal : Nat) (currentParent : String)
    (stage : String × List FinanceEntry) : FinanceTransactionProposal where
  transactionId := "FIN-TX-" ++ toString ordinal
  idempotencyKey := "finance-lifecycle:" ++ toString ordinal ++ ":r1"
  stage := stage.1
  expectedParentHash := currentParent
  entries := stage.2
  sourceEventCommitment := digest (.dict [("finance_source_event", .int ordinal)])

/-- The loop of `build_finance_lifecycle`. -/
def lifecycleFrom (ordinal : Nat) (currentParent : String) :
    List (String × List FinanceEntry) → List FinanceTransactionProposal
  | [] => []
  | stage :: stages =>
    let proposal := lifecycleProposal ordinal currentParent stage
    let transactionPayload := transactionPayload ordinal currentParent stage.1 stage.2
      proposal.sourceEventCommitment proposal.proposalHash
    proposal :: lifecycleFrom (ordinal + 1) (digest transactionPayload) stages

/-- `build_finance_lifecycle`. -/
def buildFinanceLifecycle (parentHash : String := financeGenesisHash) :
    List FinanceTransactionProposal :=
  lifecycleFrom 1 parentHash lifecycleStages

/-! ## Posting a list of proposals -/

/-- The journal after a sequence of calls of `post`. -/
def journalAfter (calls : List PostCall) : FinanceStore :=
  Machine.run (fun db call => (call.run db).2) .fresh calls

/-- The call returned an acceptance. -/
def IsAccepted : Except FinanceError FinancePostDecision → Prop
  | .ok d => d.disposition = .accepted
  | .error _ => False

instance : DecidablePred IsAccepted := fun r =>
  match r with
  | .ok d => inferInstanceAs (Decidable (d.disposition = .accepted))
  | .error _ => .isFalse id

/-- An accepted call has passed its commit. -/
theorem passedCommit_of_isAccepted {r : Except FinanceError FinancePostDecision}
    (h : IsAccepted r) : PassedCommit r := by
  cases r with
  | error e => exact h.elim
  | ok d => exact h

/-- The head of the journal is what the next proposal expects. -/
def ExpectsHead (db : FinanceStore) : List FinanceTransactionProposal → Prop
  | [] => True
  | p :: _ => db.headHash = .ok p.expectedParentHash

instance (db : FinanceStore) (ps : List FinanceTransactionProposal) :
    Decidable (ExpectsHead db ps) :=
  match ps with
  | [] => .isTrue trivial
  | p :: _ => inferInstanceAs (Decidable (db.headHash = .ok p.expectedParentHash))

/-- Posted in order, every proposal is accepted, and after each post the head is the parent that the
next proposal expects. -/
def PostsInOrder : FinanceStore → List FinanceTransactionProposal → Prop
  | _, [] => True
  | db, p :: ps =>
    IsAccepted (post p none db).1 ∧ ExpectsHead (post p none db).2 ps ∧
      PostsInOrder (post p none db).2 ps

instance decidablePostsInOrder (db : FinanceStore) (ps : List FinanceTransactionProposal) :
    Decidable (PostsInOrder db ps) :=
  match ps with
  | [] => .isTrue trivial
  | p :: ps =>
    have := decidablePostsInOrder (post p none db).2 ps
    inferInstanceAs (Decidable (_ ∧ _ ∧ _))

/-- None of the proposals' transaction ids and keys is in the journal. -/
def Unused (db : FinanceStore) (ps : List FinanceTransactionProposal) : Prop :=
  ∀ p ∈ ps, ∀ t ∈ db.transactions,
    t.transactionId ≠ p.transactionId ∧ t.idempotencyKey ≠ p.idempotencyKey

instance (db : FinanceStore) (ps : List FinanceTransactionProposal) : Decidable (Unused db ps) :=
  inferInstanceAs (Decidable (∀ _ ∈ _, _))

/-! ## Reachable journals -/

/-- The journal after any calls has a history. -/
theorem holds_journalAfter (calls : List PostCall) : ∃ h, Holds (journalAfter calls) h := by
  refine Machine.run_invariant (I := fun db : FinanceStore => ∃ h, Holds db h) ?_ ⟨[], holds_fresh⟩ calls
  rintro db call ⟨h, hr⟩
  exact ⟨_, hr.run call⟩

/-- A journal without transactions is a new one. -/
theorem journalAfter_fresh {calls : List PostCall} (h : (journalAfter calls).transactions = []) :
    journalAfter calls = .fresh := by
  have hinv : journalAfter calls = .fresh ∨ (journalAfter calls).transactions ≠ [] := by
    refine Machine.run_invariant
      (I := fun db : FinanceStore => db = .fresh ∨ db.transactions ≠ []) ?_ (.inl rfl) calls
    intro db call hdb
    unfold PostCall.run
    rcases post_cases call.proposal call.hook db with ⟨heq, -⟩ | ⟨-, -, -, heq, -⟩
    · rw [heq]
      exact hdb
    · rw [heq]
      exact .inr (List.append_ne_nil_of_right_ne_nil _ (List.cons_ne_nil _ _))
  exact hinv.resolve_right (not_not_intro h)

/-! ## What a journal accepts -/

/-- A proposal extends a history: it follows the history's head, under an id, a key and a hash that
the history does not have, with amounts that the columns hold. -/
structure Extends (h : List FinanceTransactionProposal) (p : FinanceTransactionProposal) : Prop where
  valid : validate p = .ok ()
  parent : p.expectedParentHash = ledgerHead h
  id : ∀ q ∈ h, p.transactionId ≠ q.transactionId
  key : ∀ q ∈ h, p.idempotencyKey ≠ q.idempotencyKey
  hash : ∀ l ∈ ledgerChain h,
    transactionHash (1 + h.length) (ledgerHead h) p ≠ l.hash transactionHash
  sequence : FinanceStore.Binds (1 + h.length)
  rows : ∀ row ∈ entryRows (1 + h.length) p, FinanceStore.Binds row.entryOrdinal ∧
    FinanceStore.Binds row.debitCents ∧ FinanceStore.Binds row.creditCents

section
variable {db : FinanceStore} {h : List FinanceTransactionProposal} {p : FinanceTransactionProposal}

/-- The key is not in the table. -/
theorem Extends.transactionFor? (he : Extends h p) (hr : Holds db h) :
    db.transactionFor? p.idempotencyKey = none := by
  refine List.find?_eq_none.2 fun t ht hdec => ?_
  have hmem : t.idempotencyKey ∈ h.map (·.idempotencyKey) := by
    rw [← hr.map_idempotencyKey]
    exact List.mem_map_of_mem ht
  obtain ⟨q, hq, hqt⟩ := List.mem_map.1 hmem
  exact he.key q hq ((hqt.trans (of_decide_eq_true hdec)).symm)

/-- The row of an extension is inserted. -/
theorem Extends.insertTransaction (he : Extends h p) (hr : Holds db h) :
    db.insertTransaction (transactionRow db.nextSequence p.expectedParentHash p) =
      .ok { db with
        transactions := db.transactions ++
          [transactionRow db.nextSequence p.expectedParentHash p] } := by
  rw [hr.nextSequence, he.parent]
  have hsequence : FinanceStore.Binds
      (transactionRow (1 + h.length) (ledgerHead h) p).transactionSequence := he.sequence
  unfold FinanceStore.insertTransaction
  rw [if_neg (not_not_intro hsequence), if_neg]
  rintro ⟨t, ht, hclash⟩
  rw [hr.transactions] at ht
  obtain ⟨l, hl, rfl⟩ := List.mem_map.1 ht
  have hbound := (HashChain.sequence_bounds transactionHash hl).2
  have hitem : l.item ∈ h := by
    rw [← HashChain.map_item_links transactionHash 1 financeGenesisHash h]
    exact List.mem_map_of_mem hl
  rcases hclash with hsequence | hid | hkey | hhash
  · have hsequence : (1 + h.length : Int) = l.sequence := hsequence
    omega
  · exact he.id _ hitem hid
  · exact he.key _ hitem hkey
  · exact he.hash l hl hhash

/-- A valid proposal has no negative amounts. -/
theorem nonneg_of_validate (hp : validate p = .ok ()) {entry : FinanceEntry}
    (he : entry ∈ p.entries) : 0 ≤ entry.debitCents ∧ 0 ≤ entry.creditCents := by
  unfold validate at hp
  split at hp
  · cases hp
  split at hp
  · cases hp
  split at hp
  · cases hp
  split at hp
  · cases hp
  next hentries =>
  push Not at hentries
  have hentry := hentries entry he
  exact ⟨hentry.2.1, hentry.2.2.1⟩

/-- Rows with a number of their own go in, with the ordinals counting up. -/
theorem insertEntries_zipIdx {sequence : Int} {entries : List FinanceEntry} {n : Nat}
    (htransaction : ∃ t ∈ db.transactions, t.transactionSequence = sequence)
    (hsequence : FinanceStore.Binds sequence)
    (hrows : ∀ e ∈ entries.zipIdx n, FinanceStore.Binds e.2 ∧ FinanceStore.Binds e.1.debitCents ∧
      FinanceStore.Binds e.1.creditCents ∧ 0 ≤ e.1.debitCents ∧ 0 ≤ e.1.creditCents)
    (hfresh : ∀ e ∈ db.entries, e.transactionSequence = sequence → e.entryOrdinal < n) :
    ∃ db', db.insertEntries ((entries.zipIdx n).map fun e =>
      ⟨sequence, e.2, e.1.account, e.1.debitCents, e.1.creditCents⟩) = .ok db' := by
  induction entries generalizing db n with
  | nil => exact ⟨db, rfl⟩
  | cons entry entries ih =>
    rw [List.zipIdx_cons, List.map_cons, FinanceStore.insertEntries]
    obtain ⟨hordinal, hdebit, hcredit, hdebit0, hcredit0⟩ := hrows (entry, n) (.head _)
    have hinsert : db.insertEntry ⟨sequence, n, entry.account, entry.debitCents,
        entry.creditCents⟩ = .ok { db with
          entries := db.entries ++ [⟨sequence, n, entry.account, entry.debitCents,
            entry.creditCents⟩] } := by
      unfold FinanceStore.insertEntry
      rw [if_neg (not_not_intro ⟨hsequence, hordinal, hdebit, hcredit⟩), if_neg]
      rintro (hnegative | hnegative | ⟨e, he, hseq, hord⟩ | hmissing)
      · exact absurd hdebit0 (not_le.2 hnegative)
      · exact absurd hcredit0 (not_le.2 hnegative)
      · have hlt := hfresh e he hseq.symm
        exact absurd hord (by simp only; omega)
      · exact hmissing htransaction
    rw [hinsert]
    refine ih htransaction (fun e he => hrows e (.tail _ he)) fun e he hseq => ?_
    rcases List.mem_append.1 he with he | he
    · have := hfresh e he hseq
      omega
    · rw [List.mem_singleton.1 he]
      simp

/-- The entries of an extension are inserted. -/
theorem Extends.insertEntries (he : Extends h p) (hr : Holds db h) :
    ∃ db₂, FinanceStore.insertEntries { db with
        transactions := db.transactions ++
          [transactionRow db.nextSequence p.expectedParentHash p] }
      (entryRows db.nextSequence p) = .ok db₂ := by
  refine insertEntries_zipIdx ⟨_, List.mem_append_right _ (.head _), rfl⟩ ?_ (fun e he' => ?_)
    fun e he' hseq => ?_
  · rw [hr.nextSequence]
    exact he.sequence
  · have hrow := he.rows _ (List.mem_map_of_mem he')
    have hmem : e.1 ∈ p.entries := List.fst_mem_of_mem_zipIdx he'
    obtain ⟨hdebit, hcredit⟩ := nonneg_of_validate he.valid hmem
    exact ⟨hrow.1, hrow.2.1, hrow.2.2, hdebit, hcredit⟩
  · rw [hr.entries] at he'
    obtain ⟨l, hl, he'⟩ := List.mem_flatMap.1 he'
    have hbound := (HashChain.sequence_bounds transactionHash hl).2
    have hrow : e.transactionSequence = l.sequence := by
      obtain ⟨x, -, rfl⟩ := List.mem_map.1 he'
      rfl
    rw [hr.nextSequence] at hseq
    omega

/-- Where its inserts go through, the transaction is accepted. -/
theorem appendTransaction_accepted {db₁ db₂ : FinanceStore}
    (htransaction : db.insertTransaction
      (transactionRow db.nextSequence p.expectedParentHash p) = .ok db₁)
    (hentries : db₁.insertEntries (entryRows db.nextSequence p) = .ok db₂) :
    ∃ d c, appendTransaction p none p.expectedParentHash ⟨db, db⟩ = .ok d c ∧
      d.disposition = .accepted := by
  have hfault (point : FinanceFaultPoint) (c : Transactional.Connection FinanceStore) :
      fault none point c = .ok () c := rfl
  have hupdate (head : String) (c : Transactional.Connection FinanceStore) :
      (Transactional.execute fun db => .ok (FinanceStore.updateHead head db) :
        Transactional.Program FinanceError FinanceStore Unit) c =
        .ok () { c with working := c.working.updateHead head } := Transactional.execute_ok rfl
  unfold appendTransaction
  rw [bind_run_ok (get_run _), bind_run_ok (Transactional.execute_ok htransaction),
    bind_run_ok (hfault _ _), bind_run_ok (Transactional.execute_ok hentries),
    bind_run_ok (hfault _ _), bind_run_ok (hupdate _ _), bind_run_ok (hfault _ _),
    Transactional.commit_bind, bind_run_ok (hfault _ _)]
  exact ⟨_, _, rfl, rfl⟩

/-- **What a journal accepts.** A proposal that extends the history of the journal. -/
theorem Extends.post (he : Extends h p) (hr : Holds db h) :
    IsAccepted (post p none db).1 ∧ (post p none db).2 = db.append p := by
  have hhead : db.headHash = .ok p.expectedParentHash := by
    rw [hr.head, he.parent]
  have hkey := he.transactionFor? hr
  obtain ⟨db₂, hentries⟩ := he.insertEntries hr
  have haccepted : IsAccepted (FinanceJournal.post p none db).1 := by
    obtain ⟨d, c, hrun, hd⟩ := appendTransaction_accepted (he.insertTransaction hr) hentries
    have hfault (c : Transactional.Connection FinanceStore) :
        fault none .afterBegin c = .ok () c := rfl
    have hbegin (hook : Option FinanceFaultPoint) : postTransaction p hook ⟨db, db⟩ =
        (fault hook .afterBegin >>= _) ⟨db, db⟩ := rfl
    unfold FinanceJournal.post
    rw [he.valid, hbegin, bind_run_ok (hfault _), bind_run_ok (get_run _), hhead,
      bind_run_ok (attempt_ok _ _), bind_run_ok (get_run _), hkey]
    simp only [ne_eq, not_true_eq_false, if_false, hrun]
    exact hd
  refine ⟨haccepted, ?_⟩
  rcases post_cases p none db with ⟨-, hnot⟩ | ⟨-, -, -, hdb, -⟩
  · exact absurd (passedCommit_of_isAccepted haccepted) hnot
  · exact hdb

/-- Proposals that extend a history, one after the other. -/
def ExtendAll : List FinanceTransactionProposal → List FinanceTransactionProposal → Prop
  | _, [] => True
  | h, p :: ps => Extends h p ∧ ExtendAll (h ++ [p]) ps

/-- Proposals that extend the history one by one post in order. -/
theorem ExtendAll.postsInOrder {ps : List FinanceTransactionProposal} (he : ExtendAll h ps)
    (hr : Holds db h) : PostsInOrder db ps := by
  induction ps generalizing db h with
  | nil => trivial
  | cons p ps ih =>
    obtain ⟨haccepted, hdb⟩ := he.1.post hr
    have hnext : Holds (db.append p) (h ++ [p]) :=
      hr.append he.1.valid (by rw [hr.head, he.1.parent]) (he.1.transactionFor? hr)
    refine ⟨haccepted, ?_, ?_⟩
    · rw [hdb]
      cases ps with
      | nil => trivial
      | cons q ps => exact hnext.head.trans (congrArg _ he.2.1.parent.symm)
    · rw [hdb]
      exact ih he.2 hnext

/-- Proposals that are numbered and hashed as the journal will do. -/
theorem extendAll_of_chain {ps : List FinanceTransactionProposal}
    (hvalid : ∀ p ∈ ps, validate p = .ok ())
    (hparents : ∀ l ∈ ledgerChain (h ++ ps), l.item ∈ ps → l.parent = l.item.expectedParentHash)
    (hids : ((h ++ ps).map (·.transactionId)).Nodup)
    (hkeys : ((h ++ ps).map (·.idempotencyKey)).Nodup)
    (hhashes : ((ledgerChain (h ++ ps)).map (·.hash transactionHash)).Nodup)
    (hbinds : ∀ l ∈ ledgerChain (h ++ ps), FinanceStore.Binds l.sequence ∧
      ∀ row ∈ entryRows l.sequence l.item, FinanceStore.Binds row.entryOrdinal ∧
        FinanceStore.Binds row.debitCents ∧ FinanceStore.Binds row.creditCents) :
    ExtendAll h ps := by
  induction ps generalizing h with
  | nil => trivial
  | cons p ps ih =>
    have hsplit : h ++ p :: ps = h ++ [p] ++ ps := by simp
    have hchain : ledgerChain (h ++ p :: ps) = ledgerChain h ++
        ⟨1 + h.length, ledgerHead h, p⟩ :: HashChain.links transactionHash (1 + h.length + 1)
          (transactionHash (1 + h.length) (ledgerHead h) p) ps :=
      HashChain.links_append transactionHash 1 financeGenesisHash h (p :: ps)
    have hmem : ⟨1 + h.length, ledgerHead h, p⟩ ∈ ledgerChain (h ++ p :: ps) := by
      rw [hchain]
      exact List.mem_append_right _ (.head _)
    obtain ⟨hsequence, hrows⟩ := hbinds _ hmem
    constructor
    · refine ⟨hvalid p (.head _), (hparents _ hmem (.head _)).symm, ?_, ?_, ?_, hsequence, hrows⟩
      · rw [List.map_append, List.nodup_append] at hids
        exact fun q hq heq => hids.2.2 _ (List.mem_map_of_mem hq) _ (.head _) heq.symm
      · rw [List.map_append, List.nodup_append] at hkeys
        exact fun q hq heq => hkeys.2.2 _ (List.mem_map_of_mem hq) _ (.head _) heq.symm
      · rw [hchain, List.map_append, List.nodup_append] at hhashes
        exact fun l hl heq => hhashes.2.2 _ (List.mem_map_of_mem hl) _ (.head _) heq.symm
    · rw [hsplit] at hparents hids hkeys hhashes hbinds
      exact ih (fun q hq => hvalid q (.tail _ hq)) (fun l hl hq => hparents l hl (.tail _ hq)) hids
        hkeys hhashes hbinds

end

/-! ## The lifecycle on a new journal -/

/-- The rest of a lifecycle goes on from the hash of its first stage. -/
theorem lifecycleFrom_cons (ordinal : Nat) (parent : String) (stage : String × List FinanceEntry)
    (stages : List (String × List FinanceEntry)) :
    lifecycleFrom ordinal parent (stage :: stages) =
      lifecycleProposal ordinal parent stage :: lifecycleFrom (ordinal + 1)
        (transactionHash ordinal parent (lifecycleProposal ordinal parent stage)) stages := rfl

/-- The builder follows the chain that starts at its parent, with the number 1. -/
theorem parent_lifecycleFrom {ordinal : Nat} {parent : String}
    {stages : List (String × List FinanceEntry)} :
    ∀ l ∈ HashChain.links transactionHash ordinal parent (lifecycleFrom ordinal parent stages),
      l.parent = l.item.expectedParentHash := by
  induction stages generalizing ordinal parent with
  | nil => exact nofun
  | cons stage stages ih =>
    intro l hl
    rw [lifecycleFrom_cons] at hl
    rcases List.mem_cons.1 hl with rfl | hl
    · rfl
    · exact ih l hl

/-- `_validate` passes on the proposals of the lifecycle. -/
theorem validate_lifecycleProposal {ordinal : Nat} {parent : String} (hparent : parent.length = 64)
    {stage : String × List FinanceEntry} (hstage : stage ∈ lifecycleStages) :
    validate (lifecycleProposal ordinal parent stage) = .ok () := by
  have hid : "FIN-TX-" ++ toString ordinal ≠ "" := by simp
  have hkey : "finance-lifecycle:" ++ toString ordinal ++ ":r1" ≠ "" := by simp
  have hentries : ∀ stage ∈ lifecycleStages, stage.2 ≠ [] ∧
      ¬ (debitOf stage.2 ≤ 0 ∨ debitOf stage.2 ≠ creditOf stage.2) ∧
      ¬ ∃ entry ∈ stage.2, entry.account = "" ∨ entry.debitCents < 0 ∨ entry.creditCents < 0 ∨
        (entry.debitCents = 0 ↔ entry.creditCents = 0) := by decide
  obtain ⟨hne, hbalanced, hsigned⟩ := hentries stage hstage
  unfold validate lifecycleProposal
  dsimp only
  rw [if_neg (by simp), if_neg, if_neg hbalanced, if_neg hsigned, if_neg (by simp)]
  rintro (h | h | h | h | h)
  · exact hid h
  · exact hkey h
  · exact h hparent
  · exact h (digest_length _)
  · exact hne h

/-- The hash of a proposal of the lifecycle, from its three digests. -/
theorem transactionHash_lifecycle (id key source proposal : String) {n : Int} {ordinal : Nat}
    {parent hash : String} {stage : String × List FinanceEntry}
    (hid : "FIN-TX-" ++ toString ordinal = id)
    (hkey : "finance-lifecycle:" ++ toString ordinal ++ ":r1" = key)
    (hsource : digest (.dict [("finance_source_event", .int ordinal)]) = source)
    (hproposal : digest (.dict [
      ("transaction_id", .str id),
      ("idempotency_key", .str key),
      ("stage", .str stage.1),
      ("expected_parent_hash", .str parent),
      ("entries", .list (stage.2.map FinanceEntry.toJson)),
      ("source_event_commitment", .str source),
      ("revision", .str financeJournalRevision),
      ("external_effect_requested", .bool false),
      ("canonical_write_requested", .bool false)]) = proposal)
    (hhash : digest (transactionPayload n parent stage.1 stage.2 source proposal) = hash) :
    transactionHash n parent (lifecycleProposal ordinal parent stage) = hash := by
  have hp : (lifecycleProposal ordinal parent stage).proposalHash = proposal := by
    rw [← hproposal, ← hsource, ← hid, ← hkey]
    rfl
  unfold transactionHash
  rw [hp, ← hhash, ← hsource]
  rfl

/-- The hashes of the chain, one proposal after the other. -/
theorem hashes_lifecycleFrom_cons {ordinal : Nat} {parent hash : String} {hashes : List String}
    {stage : String × List FinanceEntry} {stages : List (String × List FinanceEntry)}
    (hhash : transactionHash ordinal parent (lifecycleProposal ordinal parent stage) = hash)
    (hrest : (HashChain.links transactionHash ((ordinal + 1 : Nat) : Int) hash
      (lifecycleFrom (ordinal + 1) hash stages)).map (·.hash transactionHash) = hashes) :
    (HashChain.links transactionHash ordinal parent
      (lifecycleFrom ordinal parent (stage :: stages))).map (·.hash transactionHash) =
        hash :: hashes := by
  rw [lifecycleFrom_cons, HashChain.links, List.map_cons, hhash]
  exact congrArg₂ List.cons hhash hrest

/-- The genesis hash, written out. -/
theorem financeGenesisHash_eq : financeGenesisHash =
    "fbe8dab81c6a3d1fa48c02e9c4d75a7a6432a9ebd3daea27fa0af3a0ae80590c" := by
  unfold financeGenesisHash
  exact Json.digest_eq_of_spells (by repeat' constructor) (by decide +kernel)

/-- The hashes of the lifecycle on the genesis hash. -/
theorem hashes_lifecycle : (ledgerChain buildFinanceLifecycle).map (·.hash transactionHash) = [
    "90e7c621d4f77ca25de7dff02ca4557b3a752ca33dc6762dcca67c0dbc1533e7",
    "da29f58d16f3039c9ade06b79d34b74a2aa48db44980a025ef09d79f12e676ca",
    "2643f0037078b723556f052c46bf546e537ef7d6d3df4f4c234e61f4c5a26047",
    "61c0ac7547506b7223cf1a4c861ef58500260ac1294b3d9115280c3f882e6341",
    "eef4b87e7da4a4f665c906f06ae770f8513d34822bf98f36d7c2ca54637752af"] := by
  have h1 : transactionHash 1 "fbe8dab81c6a3d1fa48c02e9c4d75a7a6432a9ebd3daea27fa0af3a0ae80590c"
      (lifecycleProposal 1 "fbe8dab81c6a3d1fa48c02e9c4d75a7a6432a9ebd3daea27fa0af3a0ae80590c"
        lifecycleStages[0]) =
        "90e7c621d4f77ca25de7dff02ca4557b3a752ca33dc6762dcca67c0dbc1533e7" :=
    transactionHash_lifecycle "FIN-TX-1" "finance-lifecycle:1:r1"
      "923958794fe00bf9b0df10088bdc30173dd0f5c6a95d233a4cf2166a6afbaca4"
      "218b527b63d3fa09d695fccb6b977d13ac7d7b293f02c352275923f6b2eb8eb2" rfl rfl
      (Json.digest_eq_of_spells (by repeat' constructor) (by decide +kernel))
      (Json.digest_eq_of_spells (by repeat' constructor) (by decide +kernel))
      (Json.digest_eq_of_spells (by repeat' constructor) (by decide +kernel))
  have h2 : transactionHash 2 "90e7c621d4f77ca25de7dff02ca4557b3a752ca33dc6762dcca67c0dbc1533e7"
      (lifecycleProposal 2 "90e7c621d4f77ca25de7dff02ca4557b3a752ca33dc6762dcca67c0dbc1533e7"
        lifecycleStages[1]) =
        "da29f58d16f3039c9ade06b79d34b74a2aa48db44980a025ef09d79f12e676ca" :=
    transactionHash_lifecycle "FIN-TX-2" "finance-lifecycle:2:r1"
      "d271a4094ed5150d7d8671f77daa1ad3dca6b178ac19616056fcdc37e207db03"
      "e3a877e08c5cf078dd0fe809ad592bd3e5fbc3f8ebe3ba23d8a93158394b5a3b" rfl rfl
      (Json.digest_eq_of_spells (by repeat' constructor) (by decide +kernel))
      (Json.digest_eq_of_spells (by repeat' constructor) (by decide +kernel))
      (Json.digest_eq_of_spells (by repeat' constructor) (by decide +kernel))
  have h3 : transactionHash 3 "da29f58d16f3039c9ade06b79d34b74a2aa48db44980a025ef09d79f12e676ca"
      (lifecycleProposal 3 "da29f58d16f3039c9ade06b79d34b74a2aa48db44980a025ef09d79f12e676ca"
        lifecycleStages[2]) =
        "2643f0037078b723556f052c46bf546e537ef7d6d3df4f4c234e61f4c5a26047" :=
    transactionHash_lifecycle "FIN-TX-3" "finance-lifecycle:3:r1"
      "cb77e1f674f5fcb0c14a90029702e30ed0e5199257693ecfbc5c5682c65dcf10"
      "a775331e57e0e2200fa9d1919e59f222c1974f60d2630e5665f73aacd5b324b8" rfl rfl
      (Json.digest_eq_of_spells (by repeat' constructor) (by decide +kernel))
      (Json.digest_eq_of_spells (by repeat' constructor) (by decide +kernel))
      (Json.digest_eq_of_spells (by repeat' constructor) (by decide +kernel))
  have h4 : transactionHash 4 "2643f0037078b723556f052c46bf546e537ef7d6d3df4f4c234e61f4c5a26047"
      (lifecycleProposal 4 "2643f0037078b723556f052c46bf546e537ef7d6d3df4f4c234e61f4c5a26047"
        lifecycleStages[3]) =
        "61c0ac7547506b7223cf1a4c861ef58500260ac1294b3d9115280c3f882e6341" :=
    transactionHash_lifecycle "FIN-TX-4" "finance-lifecycle:4:r1"
      "a4d9abdbc17cc790af3892ed762f5339160a7cacb89199b80bbcccf3d477a5bc"
      "966022ffc7555e64fdbebaedba89447ecd178b2c713fccc40026e18fa2da272a" rfl rfl
      (Json.digest_eq_of_spells (by repeat' constructor) (by decide +kernel))
      (Json.digest_eq_of_spells (by repeat' constructor) (by decide +kernel))
      (Json.digest_eq_of_spells (by repeat' constructor) (by decide +kernel))
  have h5 : transactionHash 5 "61c0ac7547506b7223cf1a4c861ef58500260ac1294b3d9115280c3f882e6341"
      (lifecycleProposal 5 "61c0ac7547506b7223cf1a4c861ef58500260ac1294b3d9115280c3f882e6341"
        lifecycleStages[4]) =
        "eef4b87e7da4a4f665c906f06ae770f8513d34822bf98f36d7c2ca54637752af" :=
    transactionHash_lifecycle "FIN-TX-5" "finance-lifecycle:5:r1"
      "6600aa171a86ad26894d1119846e06065c964d4bd83ef989c25b34098e60043d"
      "a426c9ed544a11dd92502efb6916f1ea93c64d72bd716c7a27fa19c0461a43f3" rfl rfl
      (Json.digest_eq_of_spells (by repeat' constructor) (by decide +kernel))
      (Json.digest_eq_of_spells (by repeat' constructor) (by decide +kernel))
      (Json.digest_eq_of_spells (by repeat' constructor) (by decide +kernel))
  unfold ledgerChain buildFinanceLifecycle
  rw [financeGenesisHash_eq]
  exact hashes_lifecycleFrom_cons h1 (hashes_lifecycleFrom_cons h2 (hashes_lifecycleFrom_cons h3
    (hashes_lifecycleFrom_cons h4 (hashes_lifecycleFrom_cons h5 rfl))))

/-- Every proposal of the lifecycle passes `_validate`. -/
theorem validate_lifecycleFrom {ordinal : Nat} {parent : String} (hparent : parent.length = 64)
    {stages : List (String × List FinanceEntry)} (hstages : ∀ stage ∈ stages, stage ∈ lifecycleStages) :
    ∀ p ∈ lifecycleFrom ordinal parent stages, validate p = .ok () := by
  induction stages generalizing ordinal parent with
  | nil => exact fun p hp => absurd hp List.not_mem_nil
  | cons stage stages ih =>
    intro p hp
    rw [lifecycleFrom_cons] at hp
    rcases List.mem_cons.1 hp with rfl | hp
    · exact validate_lifecycleProposal hparent (hstages stage (.head _))
    · exact ih (digest_length _) (fun stage hs => hstages stage (.tail _ hs)) p hp

/-- The lifecycle posts in order on a new journal. -/
theorem postsInOrder_fresh : PostsInOrder .fresh buildFinanceLifecycle := by
  have hids : buildFinanceLifecycle.map (·.transactionId) =
      ["FIN-TX-1", "FIN-TX-2", "FIN-TX-3", "FIN-TX-4", "FIN-TX-5"] := rfl
  have hkeys : buildFinanceLifecycle.map (·.idempotencyKey) =
      ["finance-lifecycle:1:r1", "finance-lifecycle:2:r1", "finance-lifecycle:3:r1",
        "finance-lifecycle:4:r1", "finance-lifecycle:5:r1"] := rfl
  refine ExtendAll.postsInOrder (extendAll_of_chain ?_ ?_ ?_ ?_ ?_ ?_) holds_fresh
  · exact validate_lifecycleFrom (digest_length _) fun _ hstage => hstage
  · exact fun l hl _ => parent_lifecycleFrom l hl
  · rw [List.nil_append, hids]
    decide
  · rw [List.nil_append, hkeys]
    decide
  · rw [List.nil_append, hashes_lifecycle]
    decide
  · decide

/-! ## The lifecycle on any journal -/

/-- What the hash of the first transaction of the lifecycle covers, under a number. -/
def firstPayload (sequence : Int) (parent : String) : Json :=
  let proposal := lifecycleProposal 1 parent lifecycleStages[0]
  transactionPayload sequence parent proposal.stage proposal.entries proposal.sourceEventCommitment
    proposal.proposalHash

/-- The first payload of a transaction gives its sequence number. -/
theorem sequence_of_firstPayload {n m : Int} {parent : String}
    (h : firstPayload n parent = firstPayload m parent) : n = m := by
  unfold firstPayload transactionPayload at h
  rw [Json.dict.injEq, List.cons.injEq, Prod.mk.injEq, Json.int.injEq] at h
  exact h.1.2

/-- The lifecycle posts in order only if the store hashes its first transaction as the builder
does. -/
theorem digest_of_postsInOrder {db : FinanceStore} {head : String}
    (h : PostsInOrder db (buildFinanceLifecycle head)) :
    digest (firstPayload db.nextSequence head) = digest (firstPayload 1 head) := by
  obtain ⟨haccepted, hexpects, -⟩ := h
  have hexpects : (post (lifecycleProposal 1 head lifecycleStages[0]) none db).2.headHash =
      .ok (digest (firstPayload 1 head)) := hexpects
  rcases post_cases (lifecycleProposal 1 head lifecycleStages[0]) none db with
    ⟨-, hnot⟩ | ⟨-, -, -, hdb, -⟩
  · exact absurd (passedCommit_of_isAccepted haccepted) hnot
  · rw [hdb, headHash_append] at hexpects
    exact Except.ok.inj hexpects

/-- **When the lifecycle can be posted.** Exactly on the journals without transactions, where
SHA-256 tells apart the two numbers of the first transaction. -/
theorem lifecycle_posts_iff (calls : List PostCall) {head : String}
    (hhead : (journalAfter calls).headHash = .ok head)
    (hinj : Set.InjOn digest
      {firstPayload (journalAfter calls).nextSequence head, firstPayload 1 head}) :
    PostsInOrder (journalAfter calls) (buildFinanceLifecycle head) ↔
      (journalAfter calls).transactions = [] := by
  obtain ⟨h, hr⟩ := holds_journalAfter calls
  constructor
  · intro hposts
    have hsequence :=
      sequence_of_firstPayload (hinj (.inl rfl) (.inr rfl) (digest_of_postsInOrder hposts))
    rw [hr.nextSequence] at hsequence
    rw [hr.transactions, List.length_eq_zero_iff.1 (by omega : h.length = 0)]
    rfl
  · intro hempty
    have hfresh := journalAfter_fresh hempty
    rw [hfresh] at hhead ⊢
    have hgenesis : head = financeGenesisHash :=
      Except.ok.inj (hhead.symm.trans holds_fresh.head)
    rw [hgenesis]
    exact postsInOrder_fresh

/-! ### A journal with one transaction -/

/-- An invoice that is not of the lifecycle. -/
def openingProposal : FinanceTransactionProposal :=
  lifecycleProposal 6 financeGenesisHash lifecycleStages[0]

/-- The opening call appends the opening proposal. -/
theorem journalAfter_opening :
    journalAfter [⟨openingProposal, none⟩] = FinanceStore.fresh.append openingProposal := by
  have hextends : Extends [] openingProposal := {
    valid := validate_lifecycleProposal (digest_length _) (.head _)
    parent := rfl
    id := fun q hq => absurd hq List.not_mem_nil
    key := fun q hq => absurd hq List.not_mem_nil
    hash := fun l hl => absurd hl List.not_mem_nil
    sequence := by decide
    rows := by decide }
  exact (hextends.post holds_fresh).2

/-- The head after the opening call, written out. -/
theorem headHash_opening : (journalAfter [⟨openingProposal, none⟩]).headHash =
    .ok "a9d816ee655ed3b79a04d14810145c8d708c294c63ea5fb97218e50fc1776373" := by
  rw [journalAfter_opening, headHash_append]
  unfold openingProposal
  rw [financeGenesisHash_eq]
  refine congrArg Except.ok ?_
  exact transactionHash_lifecycle "FIN-TX-6" "finance-lifecycle:6:r1"
    "6b8fe03e00e3ef900646b8430cffe9782f2e1e13eb44759030c0014f3b255cca"
    "1d010113ce15a25dca127d8c8bc343f224edb1f9ac2d4ea3f58407e6f4e1e804" rfl rfl
    (Json.digest_eq_of_spells (by repeat' constructor) (by decide +kernel))
    (Json.digest_eq_of_spells (by repeat' constructor) (by decide +kernel))
    (Json.digest_eq_of_spells (by repeat' constructor) (by decide +kernel))

/-- The hash of the first transaction on the opening invoice, under a number. -/
theorem digest_firstPayload_opening {n : Int} {hash : String}
    (hhash : digest (transactionPayload n
      "a9d816ee655ed3b79a04d14810145c8d708c294c63ea5fb97218e50fc1776373" lifecycleStages[0].1
      lifecycleStages[0].2 "923958794fe00bf9b0df10088bdc30173dd0f5c6a95d233a4cf2166a6afbaca4"
      "b47a523f2411ca60673d9fbb8ca60b1a4c4be587a757b43eb0c777d022ed5b88") = hash) :
    digest (firstPayload n "a9d816ee655ed3b79a04d14810145c8d708c294c63ea5fb97218e50fc1776373") =
      hash :=
  transactionHash_lifecycle "FIN-TX-1" "finance-lifecycle:1:r1"
    "923958794fe00bf9b0df10088bdc30173dd0f5c6a95d233a4cf2166a6afbaca4"
    "b47a523f2411ca60673d9fbb8ca60b1a4c4be587a757b43eb0c777d022ed5b88" rfl rfl
    (Json.digest_eq_of_spells (by repeat' constructor) (by decide +kernel))
    (Json.digest_eq_of_spells (by repeat' constructor) (by decide +kernel)) hhash

/-- The store and the builder hash the first transaction differently. -/
theorem digest_firstPayload_ne :
    digest (firstPayload (journalAfter [⟨openingProposal, none⟩]).nextSequence
      "a9d816ee655ed3b79a04d14810145c8d708c294c63ea5fb97218e50fc1776373") ≠
    digest (firstPayload 1 "a9d816ee655ed3b79a04d14810145c8d708c294c63ea5fb97218e50fc1776373") := by
  have hstore : digest (firstPayload 2
      "a9d816ee655ed3b79a04d14810145c8d708c294c63ea5fb97218e50fc1776373") =
        "7c4305327d66c7f9b592f517545077e5a29611860d1b08db16e145a6d9a425d0" :=
    digest_firstPayload_opening
      (Json.digest_eq_of_spells (by repeat' constructor) (by decide +kernel))
  have hbuilder : digest (firstPayload 1
      "a9d816ee655ed3b79a04d14810145c8d708c294c63ea5fb97218e50fc1776373") =
        "7d2a88928a1b7d9e341b4d7d73a5e51e38e4f7c54d89d4e877cb5145970417a1" :=
    digest_firstPayload_opening
      (Json.digest_eq_of_spells (by repeat' constructor) (by decide +kernel))
  have hsequence : (FinanceStore.fresh.append openingProposal).nextSequence = 2 := rfl
  rw [journalAfter_opening, hsequence, hstore, hbuilder]
  decide

/-- The lifecycle cannot be posted on the opening invoice. -/
theorem lifecycle_not_posted_opening :
    (journalAfter [⟨openingProposal, none⟩]).headHash =
        .ok "a9d816ee655ed3b79a04d14810145c8d708c294c63ea5fb97218e50fc1776373" ∧
      Unused (journalAfter [⟨openingProposal, none⟩]) (buildFinanceLifecycle
        "a9d816ee655ed3b79a04d14810145c8d708c294c63ea5fb97218e50fc1776373") ∧
      ¬ PostsInOrder (journalAfter [⟨openingProposal, none⟩]) (buildFinanceLifecycle
        "a9d816ee655ed3b79a04d14810145c8d708c294c63ea5fb97218e50fc1776373") := by
  refine ⟨headHash_opening, ?_, fun h => digest_firstPayload_ne (digest_of_postsInOrder h)⟩
  rw [journalAfter_opening]
  decide

/-- The lifecycle from the head of a journal that has an opening. -/
theorem lifecycle_posts_iff_opening :
    PostsInOrder (journalAfter [⟨openingProposal, none⟩]) (buildFinanceLifecycle
        "a9d816ee655ed3b79a04d14810145c8d708c294c63ea5fb97218e50fc1776373") ↔
      (journalAfter [⟨openingProposal, none⟩]).transactions = [] :=
  lifecycle_posts_iff [⟨openingProposal, none⟩] headHash_opening
    (Set.injOn_pair.2 fun h => absurd h digest_firstPayload_ne)

/-- One call from two clients. The second waits for the first, and its call is a replay. -/
def postedTwice (call : PostCall) : List (Exclusive.Action Nat PostCall) :=
  [.request 1 call, .request 2 call, .acquire 1, .finish, .acquire 0, .finish]

/-- A call posted twice runs over what its first run leaves. -/
theorem store_postedTwice (call : PostCall) :
    (JournalRun (postedTwice call)).store = (call.run (journalAfter [call])).2 := rfl

/-- The replay leaves the transaction of the first call alone. -/
theorem store_postedTwice_opening :
    (JournalRun (postedTwice ⟨openingProposal, none⟩)).store =
      FinanceStore.fresh.append openingProposal := by
  rw [store_postedTwice, journalAfter_opening]
  rcases post_cases openingProposal none (FinanceStore.fresh.append openingProposal) with
    ⟨hdb, -⟩ | ⟨-, -, hkey, -, -⟩
  · exact hdb
  · -- the key is the one of the stored transaction
    have hmem : transactionRow FinanceStore.fresh.nextSequence openingProposal.expectedParentHash
        openingProposal ∈ (FinanceStore.fresh.append openingProposal).transactions :=
      List.mem_append_right _ (.head _)
    exact absurd (decide_eq_true rfl) (List.find?_eq_none.1 hkey _ hmem)

/-- One stored transaction, and a replay of it. -/
theorem journal_double_entry_opening :
    (JournalRun (postedTwice ⟨openingProposal, none⟩)).store.transactions.length = 1 ∧
      DoubleEntry (postedTwice ⟨openingProposal, none⟩) := by
  refine ⟨?_, journal_double_entry (postedTwice ⟨openingProposal, none⟩)⟩
  rw [store_postedTwice_opening]
  exact List.length_append

end LawFirmDigitalTwin.FinanceJournal
