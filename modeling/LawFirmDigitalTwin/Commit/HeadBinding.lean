import LawFirmDigitalTwin.Commit.ExactlyOnce

/-!
# The head hash binds the history

Two stores with the same head hold the same proposals in the same order, whichever calls of
whichever clients filled them: the head determines the last event's payload and with it the hash
before it, and the proposal hash in the payload determines the proposal, its idempotency key
included. So the tables agree row by row, up to what acknowledgements changed in the outbox.
-/

namespace LawFirmDigitalTwin

/-- The dump of a proposal tells it from every other. -/
theorem CommitProposal.toJson_injective : Function.Injective CommitProposal.toJson := by
  intro p q h
  cases p
  cases q
  simp only [CommitProposal.toJson, Json.dict.injEq, List.cons.injEq, Prod.mk.injEq, Json.str.injEq,
    Json.bool.injEq, true_and, and_true] at h
  simp only [CommitProposal.mk.injEq]
  exact h

section
variable {ι ι' : Type}

/-- What the calls of a run have hashed into the chain: the genesis text, the payloads of the events
and the proposals written. -/
def Hashed (actions : List (Exclusive.Action ι CommitCall)) : Set Json :=
  insert genesisInput
    ({j | ∃ e ∈ (CommitRun actions).store.events, e.payload = j} ∪
      {j | ∃ p ∈ history (CommitRun actions).finished, p.toJson = j})

variable {actions : List (Exclusive.Action ι CommitCall)}
  {actions' : List (Exclusive.Action ι' CommitCall)}

/-- The payload of a link of the history is among what was hashed. -/
theorem payload_mem_hashed {l : HashChain.Link String CommitProposal}
    (hl : l ∈ chain (history (CommitRun actions).finished)) :
    eventPayload l.sequence l.parent l.item ∈ Hashed actions :=
  .inr (.inl ⟨_, (represents_run actions).mem_events.2 ⟨l, hl, rfl⟩, rfl⟩)

/-- So is the proposal of the link. -/
theorem proposal_mem_hashed {l : HashChain.Link String CommitProposal}
    (hl : l ∈ chain (history (CommitRun actions).finished)) : l.item.toJson ∈ Hashed actions := by
  refine .inr (.inr ⟨l.item, ?_, rfl⟩)
  rw [← HashChain.map_item_links eventHash 1 genesisHeadHash (history (CommitRun actions).finished)]
  exact List.mem_map_of_mem hl

/-- Links of the two chains with the same hash are the same. -/
theorem link_eq_of_hash (hinj : Set.InjOn digest (Hashed actions ∪ Hashed actions'))
    {l l' : HashChain.Link String CommitProposal}
    (hl : l ∈ chain (history (CommitRun actions).finished))
    (hl' : l' ∈ chain (history (CommitRun actions').finished))
    (h : l.hash eventHash = l'.hash eventHash) : l = l' := by
  have hpayload := hinj (.inl (payload_mem_hashed hl)) (.inr (payload_mem_hashed hl')) h
  simp only [eventPayload, Json.dict.injEq, List.cons.injEq, Prod.mk.injEq, Json.str.injEq,
    Json.int.injEq, true_and] at hpayload
  obtain ⟨hsequence, hparent, -, -, -, -, hproposal, -⟩ := hpayload
  have hitem : l.item = l'.item := CommitProposal.toJson_injective
    (hinj (.inl (proposal_mem_hashed hl)) (.inr (proposal_mem_hashed hl')) hproposal)
  cases l
  cases l'
  cases hsequence
  cases hparent
  cases hitem
  rfl

/-- No event of a run has the genesis hash. -/
theorem link_hash_ne_genesis (hinj : Set.InjOn digest (Hashed actions))
    {l : HashChain.Link String CommitProposal}
    (hl : l ∈ chain (history (CommitRun actions).finished)) :
    l.hash eventHash ≠ genesisHeadHash := by
  intro h
  have hpayload := hinj (payload_mem_hashed hl) (.inl rfl) h
  cases hpayload

/-- **The head hash binds the whole history** of a store. -/
theorem head_binds_history (actions : List (Exclusive.Action ι CommitCall))
    (actions' : List (Exclusive.Action ι' CommitCall))
    (hinj : Set.InjOn digest (Hashed actions ∪ Hashed actions'))
    (hhead : (CommitRun actions).store.headHash = (CommitRun actions').store.headHash) :
    (CommitRun actions).store.events = (CommitRun actions').store.events ∧
      (CommitRun actions).store.commands = (CommitRun actions').store.commands ∧
      (CommitRun actions).store.outbox.map OutboxRow.inserted =
        (CommitRun actions').store.outbox.map OutboxRow.inserted := by
  have hr := represents_run actions
  have hr' := represents_run actions'
  rw [hr.headHash, hr'.headHash] at hhead
  have hhistory : history (CommitRun actions).finished = history (CommitRun actions').finished :=
    HashChain.eq_of_head_eq eventHash (fun l hl l' hl' => link_eq_of_hash hinj hl hl')
      (fun l hl => link_hash_ne_genesis (hinj.mono Set.subset_union_left) hl)
      (fun l hl => link_hash_ne_genesis (hinj.mono Set.subset_union_right) hl)
      (Except.ok.inj hhead)
  rw [hr.events, hr.commands, hr.outbox, hr'.events, hr'.commands, hr'.outbox, hhistory]
  exact ⟨rfl, rfl, rfl⟩

end

/-! ## Two runs with the same head -/

/-- One client commits the proposal, and another acknowledges its outbox row. -/
def committedThenAcknowledged : List (Exclusive.Action Nat CommitCall) :=
  twoClients (.commit firstProposal none)
    (.acknowledgeOutbox (outboxIdOf (eventHash 1 genesisHeadHash firstProposal)))

/-- The two clients finish in the order in which they run. -/
theorem finished_twoClients (first second : CommitCall) :
    (CommitRun (twoClients first second)).finished =
      [⟨0, first, (first.run .fresh).1⟩, ⟨1, second, (second.run (first.run .fresh).2).1⟩] := rfl

/-- The response of a commit call is that of `commit`. -/
theorem response_commit (p : CommitProposal) (hook : Option FaultPoint) (db : CommitStore) :
    ((CommitCall.commit p hook).run db).1 = .ofResult (commit p hook db).1 := rfl

/-- A first call that writes the proposal, and a second one that writes nothing. -/
theorem history_twoClients {hook : Option FaultPoint}
    (hhook : hook = none ∨ hook = some .afterCommitBeforeReturn) {second : CommitCall}
    (hsecond : second.written (second.run firstStore).1 = none) :
    history (CommitRun (twoClients (.commit firstProposal hook) second)).finished =
      [firstProposal] := by
  have hstore := commit_firstProposal_of hhook
  have hfirst : (CommitCall.commit firstProposal hook).written
      (.ofResult (commit firstProposal hook .fresh).1) = some firstProposal := by
    rcases commit_cases firstProposal hook .fresh with ⟨hdb, -⟩ | ⟨-, -, -, -, hw⟩
    · rw [hstore] at hdb
      cases congrArg (fun db => db.events.length) hdb
    · exact hw
  rw [finished_twoClients, history, List.filterMap_cons, response_commit, hfirst,
    List.filterMap_cons, run_commit, hstore, hsecond]
  rfl

/-- A second call that writes nothing leaves the one event. -/
theorem events_twoClients {hook : Option FaultPoint}
    (hhook : hook = none ∨ hook = some .afterCommitBeforeReturn) {second : CommitCall}
    (hsecond : second.written (second.run firstStore).1 = none) :
    (CommitRun (twoClients (.commit firstProposal hook) second)).store.events =
      [eventRow 1 genesisHeadHash firstProposal] := by
  rw [(represents_run _).events, history_twoClients hhook hsecond]
  rfl

/-- What such a run hashes. -/
theorem hashed_twoClients {hook : Option FaultPoint}
    (hhook : hook = none ∨ hook = some .afterCommitBeforeReturn) {second : CommitCall}
    (hsecond : second.written (second.run firstStore).1 = none) :
    Hashed (twoClients (.commit firstProposal hook) second) =
      {genesisInput, eventPayload 1 genesisHeadHash firstProposal, firstProposal.toJson} := by
  ext j
  simp only [Hashed, events_twoClients hhook hsecond, history_twoClients hhook hsecond,
    List.mem_singleton, exists_eq_left, Set.mem_insert_iff, Set.mem_union, Set.mem_ofPred_eq,
    Set.mem_singleton_iff, eq_comm (b := j)]
  rfl

/-- An acknowledgement writes no proposal. -/
theorem written_acknowledgeOutbox (outboxId : String) (r : CommitResponse) :
    (CommitCall.acknowledgeOutbox outboxId).written r = none := rfl

/-- A replay writes no proposal. -/
theorem written_duplicateReplay (p q : CommitProposal) (hook : Option FaultPoint)
    (row : CommandRow) (head : String) :
    (CommitCall.commit p hook).written (.decision (duplicateReplay q row head)) = none := by
  have hdisposition : (duplicateReplay q row head).disposition ≠ .accepted := nofun
  rw [CommitCall.written, if_neg hdisposition]

/-- The retry of the first proposal writes nothing. -/
theorem retry_writes_nothing : (CommitCall.commit firstProposal none).written
    ((CommitCall.commit firstProposal none).run firstStore).1 = none := by
  have hlink : ⟨1, genesisHeadHash, firstProposal⟩ ∈ chain [firstProposal] := .head _
  have hhook : none ≠ some FaultPoint.afterBegin := by decide
  have hretry := represents_firstStore.commit_retry hlink hhook
  rw [response_commit, hretry]
  exact written_duplicateReplay ..

/-- Two runs that end at one head have the same history. -/
theorem head_binds_history_acknowledged :
    (CommitRun faultedThenRetried).store.events =
        (CommitRun committedThenAcknowledged).store.events ∧
      (CommitRun faultedThenRetried).store.commands =
        (CommitRun committedThenAcknowledged).store.commands ∧
      (CommitRun faultedThenRetried).store.outbox.map OutboxRow.inserted =
        (CommitRun committedThenAcknowledged).store.outbox.map OutboxRow.inserted := by
  refine head_binds_history faultedThenRetried committedThenAcknowledged ?_ ?_
  · rw [faultedThenRetried, hashed_twoClients (.inr rfl) retry_writes_nothing,
      committedThenAcknowledged, hashed_twoClients (.inl rfl) (written_acknowledgeOutbox _ _),
      Set.union_self]
    have hgp : digest genesisInput ≠ digest firstProposal.toJson := by
      have h : genesisHeadHash ≠ firstProposal.proposalHash := by
        rw [hashes_firstProposal.1, hashes_firstProposal.2.1]
        decide
      exact h
    have hep : digest (eventPayload 1 genesisHeadHash firstProposal) ≠
        digest firstProposal.toJson := by
      have h : eventHash 1 genesisHeadHash firstProposal ≠ firstProposal.proposalHash := by
        rw [hashes_firstProposal.2.2, hashes_firstProposal.2.1]
        decide
      exact h
    have hge : digest genesisInput ≠ digest (eventPayload 1 genesisHeadHash firstProposal) :=
      genesis_ne_eventHash
    rintro a (rfl | rfl | rfl) b (rfl | rfl | rfl) hab
    · rfl
    · exact absurd hab hge
    · exact absurd hab hgp
    · exact absurd hab.symm hge
    · rfl
    · exact absurd hab hep
    · exact absurd hab.symm hgp
    · exact absurd hab.symm hep
    · rfl
  · rw [(represents_run _).headHash, (represents_run _).headHash, faultedThenRetried,
      committedThenAcknowledged, history_twoClients (.inr rfl) retry_writes_nothing,
      history_twoClients (.inl rfl) (written_acknowledgeOutbox _ _)]

end LawFirmDigitalTwin
