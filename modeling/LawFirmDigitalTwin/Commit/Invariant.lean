import LawFirmDigitalTwin.Commit.History

/-!
# The invariant of the commit store

After any interleaving of calls, faults and acknowledgements the tables form one gapless hash chain
from the genesis hash to the head, with one command and one outbox row for each event. The snapshot,
which rebuilds the chain from the rows, finds no error, and neither does the checker of snapshots.
-/

namespace LawFirmDigitalTwin

/-- A command row is the one of an event. -/
def EventRow.OfCommand (e : EventRow) (c : CommandRow) : Prop :=
  c.eventSequence = e.eventSequence ∧ c.eventHash = e.eventHash ∧
    c.proposalHash = e.proposalHash ∧ c.commandCommitment = e.commandCommitment ∧
    c.dependencyHash = e.dependencyHash

/-- An outbox row is the one of an event. -/
def EventRow.OfOutbox (e : EventRow) (o : OutboxRow) : Prop :=
  o.eventSequence = e.eventSequence ∧ o.eventHash = e.eventHash

/-- The tables form one hash chain, with a command and an outbox row for each event. -/
structure StoreInvariant (db : CommitStore) : Prop where
  sequence : db.events.map (·.eventSequence) =
    (List.range db.events.length).map fun i : Nat => 1 + (i : Int)
  chained : ∃ head, db.headHash = .ok head ∧
    db.events.map (·.parentHash) ++ [head] = genesisHeadHash :: db.events.map (·.eventHash)
  hashes : ∀ e ∈ db.events, e.eventHash = digest e.payload
  commandCount : db.commands.length = db.events.length
  outboxCount : db.outbox.length = db.events.length
  commandOfEvent : ∀ e ∈ db.events, ∃! c, c ∈ db.commands ∧ e.OfCommand c
  eventOfCommand : ∀ c ∈ db.commands, ∃! e, e ∈ db.events ∧ e.OfCommand c
  outboxOfEvent : ∀ e ∈ db.events, ∃! o, o ∈ db.outbox ∧ e.OfOutbox o
  eventOfOutbox : ∀ o ∈ db.outbox, ∃! e, e ∈ db.events ∧ e.OfOutbox o

section
variable {db : CommitStore} {h : List CommitProposal}

/-! ## Rows and links -/

/-- The events are the links of the chain. -/
theorem Represents.mem_events (hr : Represents db h) {e : EventRow} :
    e ∈ db.events ↔ ∃ l ∈ chain h, eventRow l.sequence l.parent l.item = e := by
  rw [hr.events, List.mem_map]

/-- The commands are the links of the chain. -/
theorem Represents.mem_commands (hr : Represents db h) {c : CommandRow} :
    c ∈ db.commands ↔ ∃ l ∈ chain h, commandRow l.sequence l.parent l.item = c := by
  rw [hr.commands, List.mem_map]

/-- The outbox row of an event, whatever happened to it since. -/
theorem Represents.outbox_of_link (hr : Represents db h)
    {l : HashChain.Link String CommitProposal} (hl : l ∈ chain h) :
    ∃ o ∈ db.outbox, o.inserted = outboxRow l.sequence l.parent l.item := by
  have hmem : outboxRow l.sequence l.parent l.item ∈ db.outbox.map OutboxRow.inserted := by
    rw [hr.outbox]
    exact List.mem_map_of_mem hl
  exact List.mem_map.1 hmem

/-- An outbox row is of a link of the chain. -/
theorem Represents.link_of_outbox (hr : Represents db h) {o : OutboxRow} (ho : o ∈ db.outbox) :
    ∃ l ∈ chain h, outboxRow l.sequence l.parent l.item = o.inserted := by
  have hmem := List.mem_map_of_mem (f := OutboxRow.inserted) ho
  rw [hr.outbox] at hmem
  exact List.mem_map.1 hmem

/-- There are as many events as proposals in the history. -/
theorem Represents.length_events (hr : Represents db h) : db.events.length = h.length := by
  rw [hr.events, List.length_map]
  exact HashChain.length_links ..

/-- There are as many commands as proposals in the history. -/
theorem Represents.length_commands (hr : Represents db h) : db.commands.length = h.length := by
  rw [hr.commands, List.length_map]
  exact HashChain.length_links ..

/-- There are as many outbox rows as proposals in the history. -/
theorem Represents.length_outbox (hr : Represents db h) : db.outbox.length = h.length := by
  have := congrArg List.length hr.outbox
  rw [List.length_map, List.length_map] at this
  exact this.trans (HashChain.length_links ..)

/-- Links with the same number are the same. -/
theorem chain_eq_of_sequence {l l' : HashChain.Link String CommitProposal} (hl : l ∈ chain h)
    (hl' : l' ∈ chain h) (hs : l.sequence = l'.sequence) : l = l' :=
  HashChain.eq_of_sequence eventHash hl hl' hs

/-- **A store that holds a history satisfies the invariant.** -/
theorem Represents.storeInvariant (hr : Represents db h) : StoreInvariant db where
  sequence := by
    rw [hr.length_events, hr.events, List.map_map]
    exact HashChain.map_sequence_links ..
  chained := by
    refine ⟨_, hr.headHash, ?_⟩
    rw [hr.events, List.map_map, List.map_map]
    exact HashChain.parents_links ..
  hashes := by
    intro e he
    obtain ⟨l, -, rfl⟩ := hr.mem_events.1 he
    rfl
  commandCount := by rw [hr.length_commands, hr.length_events]
  outboxCount := by rw [hr.length_outbox, hr.length_events]
  commandOfEvent := by
    intro e he
    obtain ⟨l, hl, rfl⟩ := hr.mem_events.1 he
    refine ⟨_, ⟨hr.mem_commands.2 ⟨l, hl, rfl⟩, rfl, rfl, rfl, rfl, rfl⟩, ?_⟩
    rintro c ⟨hc, hs, -⟩
    obtain ⟨l', hl', rfl⟩ := hr.mem_commands.1 hc
    rw [chain_eq_of_sequence hl' hl hs]
  eventOfCommand := by
    intro c hc
    obtain ⟨l, hl, rfl⟩ := hr.mem_commands.1 hc
    refine ⟨_, ⟨hr.mem_events.2 ⟨l, hl, rfl⟩, rfl, rfl, rfl, rfl, rfl⟩, ?_⟩
    rintro e ⟨he, hs, -⟩
    obtain ⟨l', hl', rfl⟩ := hr.mem_events.1 he
    rw [chain_eq_of_sequence hl' hl hs.symm]
  outboxOfEvent := by
    intro e he
    obtain ⟨l, hl, rfl⟩ := hr.mem_events.1 he
    obtain ⟨o, ho, hins⟩ := hr.outbox_of_link hl
    refine ⟨o, ⟨ho, congrArg OutboxRow.eventSequence hins, congrArg OutboxRow.eventHash hins⟩, ?_⟩
    rintro o' ⟨ho', hs, -⟩
    refine eq_of_clash OutboxRow.Clashes.symm hr.constraints.outbox ho' ho (.inr ?_)
    exact hs.trans (congrArg OutboxRow.eventSequence hins).symm
  eventOfOutbox := by
    intro o ho
    obtain ⟨l, hl, hins⟩ := hr.link_of_outbox ho
    refine ⟨_, ⟨hr.mem_events.2 ⟨l, hl, rfl⟩, (congrArg OutboxRow.eventSequence hins).symm,
      (congrArg OutboxRow.eventHash hins).symm⟩, ?_⟩
    rintro e ⟨he, hs, -⟩
    obtain ⟨l', hl', rfl⟩ := hr.mem_events.1 he
    have hseq : l'.sequence = l.sequence :=
      hs.symm.trans (congrArg OutboxRow.eventSequence hins).symm
    rw [chain_eq_of_sequence hl' hl hseq]

/-! ## The snapshot -/

/-- The checker's loop finds no error in a chain that the writer's function built. -/
theorem chainErrors_links (n : Nat) (k : String) (h : List CommitProposal) :
    chainErrors n k ((HashChain.links eventHash n k h).map fun l =>
      eventRow l.sequence l.parent l.item) = ([], HashChain.head eventHash n k h) := by
  induction h generalizing n k with
  | nil => rfl
  | cons p h ih =>
    have hnext := ih (n + 1) (eventHash n k p)
    simp only [HashChain.links, HashChain.head, List.map_cons, chainErrors]
    push_cast at hnext
    have hsequence : (eventRow n k p).eventSequence = n := rfl
    have hparent : (eventRow n k p).parentHash = k := rfl
    have hhash : (eventRow n k p).eventHash = eventHash n k p := rfl
    have hpayload : digest (eventRow n k p).payload = eventHash n k p := rfl
    simp [hsequence, hparent, hhash, hpayload, hnext]

/-- A link is found under its sequence number. -/
theorem Represents.eventBySequence (hr : Represents db h)
    {l : HashChain.Link String CommitProposal} (hl : l ∈ chain h) :
    eventBySequence db.events l.sequence = some (eventRow l.sequence l.parent l.item) := by
  refine find?_unique (List.mem_reverse.2 (hr.mem_events.2 ⟨l, hl, rfl⟩)) (decide_eq_true rfl) ?_
  intro e he hs
  obtain ⟨l', hl', rfl⟩ := hr.mem_events.1 (List.mem_reverse.1 he)
  rw [chain_eq_of_sequence hl' hl (of_decide_eq_true hs)]

/-- The checks of the snapshot find no error. -/
theorem Represents.snapshotErrors (hr : Represents db h) {commands : List CommandRow}
    {outbox : List OutboxRow} (hcommands : commands.Perm db.commands)
    (houtbox : outbox.Perm db.outbox) :
    snapshotErrors (headAfter h) db.events commands outbox = [] := by
  have hchain : chainErrors 1 genesisHeadHash db.events = ([], headAfter h) := by
    rw [hr.events]
    exact chainErrors_links 1 genesisHeadHash h
  have hc : commands.length = db.events.length := by
    rw [hcommands.length_eq, hr.length_commands, hr.length_events]
  have ho : outbox.length = db.events.length := by
    rw [houtbox.length_eq, hr.length_outbox, hr.length_events]
  have hcbound : ∀ c ∈ commands, BoundTo db.events c.eventSequence c.eventHash := by
    intro c hmem
    obtain ⟨l, hl, rfl⟩ := hr.mem_commands.1 (hcommands.mem_iff.1 hmem)
    exact ⟨_, hr.eventBySequence hl, rfl⟩
  have hobound : ∀ o ∈ outbox, BoundTo db.events o.eventSequence o.eventHash := by
    intro o hmem
    obtain ⟨l, hl, hins⟩ := hr.link_of_outbox (houtbox.mem_iff.1 hmem)
    show BoundTo db.events o.inserted.eventSequence o.inserted.eventHash
    rw [← hins]
    exact ⟨_, hr.eventBySequence hl, rfl⟩
  unfold LawFirmDigitalTwin.snapshotErrors
  simp only [hchain, hc, ho, ne_eq, not_true_eq_false, if_false, List.nil_append]
  rw [List.filterMap_eq_nil_iff.2 fun c hmem => if_pos (hcbound c hmem),
    List.filterMap_eq_nil_iff.2 fun o hmem => if_pos (hobound o hmem)]
  rfl

/-- Every outbox row is pending or acknowledged. -/
theorem count_status (outbox : List OutboxRow) :
    outbox.length =
      outbox.countP (·.status = .pending) + outbox.countP (·.status = .acknowledged) := by
  rw [List.length_eq_countP_add_countP (fun o : OutboxRow => decide (o.status = .pending))]
  congr 1
  refine List.countP_congr fun o _ => ?_
  cases o.status <;> decide

end

/-- A head has 64 characters. -/
theorem headAfter_length (h : List CommitProposal) : (headAfter h).length = 64 := by
  rcases List.eq_nil_or_concat h with rfl | ⟨h', p, rfl⟩
  · exact digest_length genesisInput
  · rw [List.concat_eq_append, headAfter_concat]
    exact digest_length _

/-- **The snapshot of a store that holds a history** has no error, and the checker accepts it. -/
theorem Represents.snapshot {db : CommitStore} {h : List CommitProposal} (hr : Represents db h)
    (integrityCheck : CommitStore → String) (hok : integrityCheck db = "ok") :
    ∃ s, snapshot integrityCheck db = .ok s ∧ s.invariantErrors = [] ∧
      validateCommitSnapshot s = [] := by
  have hsorted : db.events.insertionSort (fun a b => a.eventSequence ≤ b.eventSequence) =
      db.events := by
    refine List.Pairwise.insertionSort_eq ?_
    rw [hr.events]
    refine List.pairwise_map.2 ((HashChain.pairwise_sequence eventHash 1 genesisHeadHash h).imp ?_)
    exact fun hlt => le_of_lt hlt
  have herrors := hr.snapshotErrors
    (List.perm_insertionSort (fun a b => a.idempotencyKey ≤ b.idempotencyKey) db.commands)
    (List.perm_insertionSort (fun a b => a.eventSequence ≤ b.eventSequence) db.outbox)
  unfold LawFirmDigitalTwin.snapshot
  rw [hr.headHash, Raising.ok_bind, hsorted]
  refine ⟨_, rfl, herrors, ?_⟩
  have hcounts := count_status
    (db.outbox.insertionSort fun a b => a.eventSequence ≤ b.eventSequence)
  have hc : db.events.length = db.commands.length := by
    rw [hr.length_commands, hr.length_events]
  have ho : db.commands.length = db.outbox.length := by
    rw [hr.length_commands, hr.length_outbox]
  have hhead : (headAfter h).length = 64 := headAfter_length h
  unfold validateCommitSnapshot
  simp only [herrors, hok, hhead, hc, ho, List.length_insertionSort, ← hcounts]
  simp

/-- **The invariant of the commit store.** After any interleaving of calls the store satisfies the
invariant, and its snapshot passes its own checks and the checker's. -/
theorem commit_store_invariant {ι : Type} (integrityCheck : CommitStore → String)
    (hcheck : ∀ db, db.Constraints → integrityCheck db = "ok")
    (actions : List (Exclusive.Action ι CommitCall)) :
    StoreInvariant (CommitRun actions).store ∧
      ∃ s, snapshot integrityCheck (CommitRun actions).store = .ok s ∧ s.invariantErrors = [] ∧
        validateCommitSnapshot s = [] := by
  have hr := represents_run actions
  exact ⟨hr.storeInvariant, hr.snapshot integrityCheck (hcheck _ hr.constraints)⟩

/-- Two clients one after the other, the second of which asks for the lock while the first holds
it. -/
def twoClients (first second : CommitCall) : List (Exclusive.Action Nat CommitCall) :=
  [.request 0 first, .acquire 0, .request 1 second, .finish, .acquire 0, .finish]

/-- A proposal on the empty store. -/
def firstProposal : CommitProposal where
  proposalId := "PROPOSAL-1"
  idempotencyKey := "KEY-1"
  commandCommitment := "cccccccccccccccccccccccccccccccccccccccccccccccccccccccccccccccc"
  expectedParentHash := genesisHeadHash
  dependencyHash := "dddddddddddddddddddddddddddddddddddddddddddddddddddddddddddddddd"
  eventType := "matter_opened"
  resultCommitment := "eeeeeeeeeeeeeeeeeeeeeeeeeeeeeeeeeeeeeeeeeeeeeeeeeeeeeeeeeeeeeeee"

/-- The hook of the first call raises after the commit, and the other client retries. -/
def faultedThenRetried : List (Exclusive.Action Nat CommitCall) :=
  twoClients (.commit firstProposal (some .afterCommitBeforeReturn)) (.commit firstProposal none)

/-- The invariant after a fault and a retry. -/
theorem commit_store_invariant_retried :
    StoreInvariant (CommitRun faultedThenRetried).store ∧
      ∃ s, snapshot (fun _ => "ok") (CommitRun faultedThenRetried).store = .ok s ∧
        s.invariantErrors = [] ∧ validateCommitSnapshot s = [] :=
  commit_store_invariant (fun _ => "ok") (fun _ _ => rfl) faultedThenRetried

end LawFirmDigitalTwin
