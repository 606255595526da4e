import Mathlib.Algebra.BigOperators.Group.Finset.Basic
import LawFirmDigitalTwin.Finance.History

/-!
# The double-entry invariant

After any interleaving of calls and faults the snapshot of the journal finds no error: every hash
rebuilt from the rows is the one that was written, every transaction is balanced, and with them the
whole journal; the balances of the accounts sum to zero.
-/

namespace LawFirmDigitalTwin.FinanceJournal

/-! ## Sums over a dictionary -/

/-- The sum of the values of a dictionary. -/
def total (d : PyDict Int) : Int := (d.entries.map (·.2)).sum

/-- A total is the sum over the keys. -/
theorem total_eq_sum (d : PyDict Int) : total d = ∑ key ∈ d.keys, (d.get? key).getD 0 := by
  have hentries : ∀ keys : List String, (∀ key ∈ keys, key ∈ d.keys) →
      ((keys.filterMap fun key => (d.get? key).map (key, ·)).map (·.2)) =
        keys.map fun key => (d.get? key).getD 0 := by
    intro keys hkeys
    induction keys with
    | nil => rfl
    | cons key keys ih =>
      obtain ⟨v, hv⟩ := Option.isSome_iff_exists.1 (Finmap.lookup_isSome.2
        (Finmap.mem_keys.1 (hkeys key (.head _))))
      have hget : d.get? key = some v := hv
      rw [List.filterMap_cons, hget]
      simp only [Option.map_some, List.map_cons, Option.getD_some, hget]
      rw [ih fun key' h => hkeys key' (.tail _ h)]
  unfold total PyDict.entries
  rw [hentries _ fun key h => mem_sorted.1 h, Finset.sum, ← coe_sorted, Multiset.map_coe,
    Multiset.sum_coe]

/-- A key outside of a dictionary counts nothing. -/
theorem total_eq_sum_insert (d : PyDict Int) (key : String) :
    total d = ∑ key' ∈ insert key d.keys, (d.get? key').getD 0 := by
  rw [total_eq_sum]
  refine Finset.sum_subset (Finset.subset_insert key _) fun key' _ hnot => ?_
  have hnone : d.get? key' = none := by
    rw [Finmap.mem_keys] at hnot
    exact Finmap.lookup_eq_none.2 hnot
  rw [hnone, Option.getD_none]

/-- `d[key] = v` adds what `v` is more than the old value. -/
theorem total_set (d : PyDict Int) (key : String) (v : Int) :
    total (d.set key v) = total d + (v - (d.get? key).getD 0) := by
  have hkeys : (d.set key v).keys = insert key d.keys := by
    ext key'
    rw [Finset.mem_insert, Finmap.mem_keys, Finmap.mem_keys]
    exact Finmap.mem_insert
  rw [total_eq_sum, hkeys, total_eq_sum_insert d key,
    ← Finset.add_sum_erase _ _ (Finset.mem_insert_self key d.keys),
    ← Finset.add_sum_erase _ _ (Finset.mem_insert_self key d.keys)]
  have hrest : ∀ key' ∈ (insert key d.keys).erase key,
      ((d.set key v).get? key').getD 0 = (d.get? key').getD 0 := by
    intro key' h
    rw [PyDict.get?_set_ne d v (Finset.ne_of_mem_erase h)]
  rw [Finset.sum_congr rfl hrest, PyDict.get?_set_self, Option.getD_some]
  omega

/-- The balances sum up to the debits less the credits. -/
theorem total_balancesOf (entries : List FinanceEntryRow) :
    total (balancesOf entries) =
      (entries.map (·.debitCents)).sum - (entries.map (·.creditCents)).sum := by
  have main : ∀ (entries : List FinanceEntryRow) (d : PyDict Int),
      total (entries.foldl (fun balances e => balances.set e.account
        ((balances.get? e.account).getD 0 + e.debitCents - e.creditCents)) d) =
        total d + ((entries.map (·.debitCents)).sum - (entries.map (·.creditCents)).sum) := by
    intro entries
    induction entries with
    | nil =>
      intro d
      simp
    | cons e entries ih =>
      intro d
      rw [List.foldl_cons, ih, total_set, List.map_cons, List.sum_cons, List.map_cons,
        List.sum_cons]
      omega
  have hempty : total ∅ = 0 := rfl
  rw [balancesOf, main, hempty, zero_add]

/-! ## Rows and links -/

section
variable {h : List FinanceTransactionProposal}

/-- The rows of a proposal give back its entries. -/
theorem map_entryRows (sequence : Int) (p : FinanceTransactionProposal) :
    ((entryRows sequence p).map fun e => FinanceEntry.mk e.account e.debitCents e.creditCents) =
      p.entries := by
  unfold entryRows
  rw [List.map_map]
  exact List.zipIdx_map_fst 1 p.entries

/-- The entries of a transaction bear its sequence number. -/
theorem sequence_of_mem_entryRows {sequence : Int} {p : FinanceTransactionProposal}
    {e : FinanceEntryRow} (he : e ∈ entryRows sequence p) : e.transactionSequence = sequence := by
  obtain ⟨x, -, rfl⟩ := List.mem_map.1 he
  rfl

/-- The entries under a sequence number are those of its transaction. -/
theorem filter_entryRows (sequence index : Int) (p : FinanceTransactionProposal) :
    (entryRows sequence p).filter (fun e => e.transactionSequence = index) =
      if sequence = index then entryRows sequence p else [] := by
  split
  · next heq =>
    refine List.filter_eq_self.2 fun e he => decide_eq_true ?_
    rw [sequence_of_mem_entryRows he, heq]
  · next hne =>
    refine List.filter_eq_nil_iff.2 fun e he hdec => hne ?_
    rw [← sequence_of_mem_entryRows he]
    exact of_decide_eq_true hdec

/-- The rows of a chain, under the number of one of its links, are the rows of that link. -/
theorem filter_entries {n : Int} {k : String}
    {l : HashChain.Link String FinanceTransactionProposal}
    (hl : l ∈ HashChain.links transactionHash n k h) :
    ((HashChain.links transactionHash n k h).flatMap fun l => entryRows l.sequence l.item).filter
        (fun e => e.transactionSequence = l.sequence) = entryRows l.sequence l.item := by
  induction h generalizing n k with
  | nil => cases hl
  | cons p h ih =>
    rw [HashChain.links, List.flatMap_cons, List.filter_append, filter_entryRows]
    rcases List.mem_cons.1 hl with rfl | hl
    · -- the numbers of the later links are larger
      rw [if_pos rfl, List.filter_eq_nil_iff.2, List.append_nil]
      intro e he hdec
      obtain ⟨l', hl', he⟩ := List.mem_flatMap.1 he
      have hbound := (HashChain.sequence_bounds transactionHash hl').1
      have hseq := sequence_of_mem_entryRows he
      have := of_decide_eq_true hdec
      simp only at this
      omega
    · have hbound := (HashChain.sequence_bounds transactionHash hl).1
      rw [if_neg (by simp only; omega), List.nil_append]
      exact ih hl

/-- What `snapshot` rebuilds under a number is what was posted under it. -/
theorem entriesAt_chain {l : HashChain.Link String FinanceTransactionProposal}
    (hl : l ∈ ledgerChain h) :
    entriesAt ((ledgerChain h).flatMap fun l => entryRows l.sequence l.item) l.sequence =
      l.item.entries := by
  unfold entriesAt
  rw [ledgerChain, filter_entries hl]
  exact map_entryRows l.sequence l.item

/-- A proposal that passes `_validate` is balanced. -/
theorem balanced_of_validate {p : FinanceTransactionProposal} (hp : validate p = .ok ()) :
    0 < debitOf p.entries ∧ debitOf p.entries = creditOf p.entries := by
  unfold validate at hp
  split at hp
  · cases hp
  split at hp
  · cases hp
  split at hp
  · cases hp
  · next hbalanced => omega

/-- The loop of `snapshot` finds no error in the rows of a chain. -/
theorem transactionErrors_links {entries : List FinanceEntryRow} {n : Int} {k : String}
    (hentries : ∀ l ∈ HashChain.links transactionHash n k h,
      entriesAt entries l.sequence = l.item.entries)
    (hvalid : ∀ p ∈ h, validate p = .ok ()) :
    transactionErrors entries n k ((HashChain.links transactionHash n k h).map fun l =>
      transactionRow l.sequence l.parent l.item) =
        ([], HashChain.head transactionHash n k h) := by
  induction h generalizing n k with
  | nil => rfl
  | cons p h ih =>
    have hnext := ih (n := n + 1) (k := transactionHash n k p)
      (fun l hl => hentries l (.tail _ hl)) (fun q hq => hvalid q (.tail _ hq))
    have hown : entriesAt entries n = p.entries := hentries ⟨n, k, p⟩ (.head _)
    obtain ⟨hpositive, hbalanced⟩ := balanced_of_validate (hvalid p (.head _))
    have hsequence : (transactionRow n k p).transactionSequence = n := rfl
    have hparent : (transactionRow n k p).parentHash = k := rfl
    have hwritten : (transactionRow n k p).transactionHash = transactionHash n k p := rfl
    have hrebuilt : digest (transactionPayload n (transactionRow n k p).parentHash
        (transactionRow n k p).stage p.entries (transactionRow n k p).sourceEventCommitment
        (transactionRow n k p).proposalHash) = transactionHash n k p := rfl
    have hgood : ¬ (debitOf p.entries ≤ 0 ∨ debitOf p.entries ≠ creditOf p.entries) := by omega
    simp only [HashChain.links, HashChain.head, List.map_cons, transactionErrors, hown, hsequence,
      hrebuilt, hwritten, hnext]
    simp only [hparent, ne_eq, not_true_eq_false, if_false, if_neg hgood, List.nil_append]

/-- The debits of the rows of valid proposals are their credits. -/
theorem sums_links {n : Int} {k : String} (hvalid : ∀ p ∈ h, validate p = .ok ()) :
    (((HashChain.links transactionHash n k h).flatMap fun l =>
        entryRows l.sequence l.item).map (·.debitCents)).sum =
      (((HashChain.links transactionHash n k h).flatMap fun l =>
        entryRows l.sequence l.item).map (·.creditCents)).sum := by
  induction h generalizing n k with
  | nil => rfl
  | cons p h ih =>
    have hdebit : ((entryRows n p).map (·.debitCents)).sum = debitOf p.entries := by
      rw [debitOf, ← map_entryRows n p, List.map_map]
      rfl
    have hcredit : ((entryRows n p).map (·.creditCents)).sum = creditOf p.entries := by
      rw [creditOf, ← map_entryRows n p, List.map_map]
      rfl
    simp only [HashChain.links, List.flatMap_cons, List.map_append, List.sum_append]
    rw [hdebit, hcredit, (balanced_of_validate (hvalid p (.head _))).2,
      ih fun q hq => hvalid q (.tail _ hq)]

/-- The rows of a chain are in the order of the snapshot. -/
theorem pairwise_entries (n : Int) (k : String) :
    ((HashChain.links transactionHash n k h).flatMap fun l =>
      entryRows l.sequence l.item).Pairwise inOrder := by
  rw [List.pairwise_flatMap]
  constructor
  · intro l _
    refine List.pairwise_map.2 ?_
    have hordinals : (l.item.entries.zipIdx 1).Pairwise fun a b => a.2 < b.2 := by
      have hrange := List.pairwise_lt_range' (s := 1) (n := l.item.entries.length)
      rw [← List.zipIdx_map_snd 1 l.item.entries] at hrange
      exact List.pairwise_map.1 hrange
    exact hordinals.imp fun hlt => .inr ⟨rfl, by simp only; omega⟩
  · refine (HashChain.pairwise_sequence transactionHash n k h).imp fun hlt e he e' he' => .inl ?_
    rw [sequence_of_mem_entryRows he, sequence_of_mem_entryRows he']
    exact hlt

end

/-! ## The snapshot -/

/-- **The snapshot of a store that holds a history** has no error, and is balanced. -/
theorem Holds.snapshot {db : FinanceStore} {h : List FinanceTransactionProposal} (hr : Holds db h)
    (integrityCheck : FinanceStore → String) :
    ∃ s, snapshot integrityCheck db = .ok s ∧ s.invariantErrors = [] ∧
      s.debitTotalCents = s.creditTotalCents ∧ (s.balances.map (·.2)).sum = 0 := by
  have htransactions : (db.transactions.insertionSort fun a b =>
      a.transactionSequence ≤ b.transactionSequence) = db.transactions := by
    refine List.Pairwise.insertionSort_eq ?_
    rw [hr.transactions]
    refine List.pairwise_map.2 ?_
    exact (HashChain.pairwise_sequence transactionHash 1 financeGenesisHash h).imp fun hlt =>
      le_of_lt hlt
  have hentries : db.entries.insertionSort inOrder = db.entries := by
    refine List.Pairwise.insertionSort_eq ?_
    rw [hr.entries]
    exact pairwise_entries 1 financeGenesisHash
  have herrors : transactionErrors db.entries 1 financeGenesisHash db.transactions =
      ([], ledgerHead h) := by
    rw [hr.transactions, hr.entries]
    exact transactionErrors_links (fun l hl => entriesAt_chain hl) hr.valid
  have hsums : (db.entries.map (·.debitCents)).sum = (db.entries.map (·.creditCents)).sum := by
    rw [hr.entries]
    exact sums_links hr.valid
  have hbalances : total (balancesOf db.entries) = 0 := by
    rw [total_balancesOf, hsums, sub_self]
  unfold FinanceJournal.snapshot
  rw [hr.head, Raising.ok_bind, htransactions, hentries]
  simp only [herrors]
  refine ⟨_, rfl, ?_, hsums, hbalances⟩
  simp only [hsums, ne_eq, not_true_eq_false, if_false, List.append_nil]

/-- What holds after an interleaving of calls. -/
structure DoubleEntry {ι : Type} (actions : List (Exclusive.Action ι PostCall)) : Prop where
  snapshot : ∀ integrityCheck, ∃ s,
    FinanceJournal.snapshot integrityCheck (JournalRun actions).store = .ok s ∧
      s.invariantErrors = [] ∧ s.debitTotalCents = s.creditTotalCents ∧
      (s.balances.map (·.2)).sum = 0
  keys : ((JournalRun actions).store.transactions.map (·.idempotencyKey)).Nodup
  raised : ∀ before a after, actions = before ++ a :: after → ∀ e error,
    (JournalRun (before ++ [a])).finished = (JournalRun before).finished ++ [e] →
    e.result = .error error → error ≠ .injected .afterCommitBeforeReturn →
    (JournalRun (before ++ [a])).store = (JournalRun before).store
  refused : ∀ before a after, actions = before ++ a :: after → ∀ e d,
    (JournalRun (before ++ [a])).finished = (JournalRun before).finished ++ [e] →
    e.result = .ok d → d.disposition ≠ .accepted →
    (JournalRun (before ++ [a])).store = (JournalRun before).store

/-- A call that did not pass the commit left the store as it was. -/
theorem store_unchanged {ι : Type} {before : List (Exclusive.Action ι PostCall)}
    {a : Exclusive.Action ι PostCall}
    {e : Exclusive.Finished ι PostCall (Except FinanceError FinancePostDecision)}
    (hfin : (JournalRun (before ++ [a])).finished = (JournalRun before).finished ++ [e])
    (hresult : ¬ PassedCommit e.result) :
    (JournalRun (before ++ [a])).store = (JournalRun before).store := by
  obtain ⟨hgen, hstore⟩ := Exclusive.finished_concat PostCall.run hfin
  rw [hgen] at hresult
  rw [hstore]
  rcases post_cases e.task.proposal e.task.hook (JournalRun before).store with
    ⟨hdb, -⟩ | ⟨-, -, -, -, hpassed⟩
  · exact hdb
  · exact absurd hpassed hresult

/-- **The double-entry journal.** After any interleaving of calls and faults the snapshot finds no
error and is balanced, a key owns one transaction, and the calls that raised before the commit, were
rejected or were replays left the tables as they were. -/
theorem journal_double_entry {ι : Type} (actions : List (Exclusive.Action ι PostCall)) :
    DoubleEntry actions where
  snapshot := (holds_run actions).snapshot
  keys := by
    rw [(holds_run actions).map_idempotencyKey]
    exact (holds_run actions).keys
  raised := by
    intro before a after _ e error hfin hresult herror
    refine store_unchanged hfin ?_
    rw [hresult]
    exact herror
  refused := by
    intro before a after _ e d hfin hresult hd
    refine store_unchanged hfin ?_
    rw [hresult]
    exact hd

end LawFirmDigitalTwin.FinanceJournal
