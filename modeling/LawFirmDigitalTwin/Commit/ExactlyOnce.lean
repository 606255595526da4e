import LawFirmDigitalTwin.Commit.Invariant
import LawFirmDigitalTwin.Spelling

/-!
# Exactly-once commits

Over any interleaving of calls: a key owns at most one event, no two calls write on the same parent,
a call that raises before the commit leaves the tables as they were, and once a proposal was written
(in particular when the hook raised after the commit) every retry is answered with the event that
was written for it.
-/

namespace LawFirmDigitalTwin

/-- An event is the one that a key is bound to. -/
def CommitStore.Owns (db : CommitStore) (key : String) (e : EventRow) : Prop :=
  e ∈ db.events ∧ ∃ c ∈ db.commands, c.idempotencyKey = key ∧ c.eventSequence = e.eventSequence

/-- A decision answers a proposal with the one event that was written for it. -/
structure CommitStore.Replays (db : CommitStore) (p : CommitProposal) (d : CommitDecision) :
    Prop where
  disposition : d.disposition = .duplicateReplay
  event : ∃ e ∈ db.events, e.proposalHash = p.proposalHash ∧
    (∀ e' ∈ db.events, e'.proposalHash = p.proposalHash → e' = e) ∧
    d.eventSequence = some e.eventSequence ∧ d.eventHash = e.eventHash ∧
    ∃ o ∈ db.outbox, o.eventSequence = e.eventSequence ∧ d.outboxId = o.outboxId

/-- What exactly-once means for an interleaving of calls. -/
structure ExactlyOnce {ι : Type} (actions : List (Exclusive.Action ι CommitCall)) : Prop where
  recorded : (CommitRun actions).store.events.map (·.proposalHash) =
    (history (CommitRun actions).finished).map (·.proposalHash)
  owner : ∀ key e e', (CommitRun actions).store.Owns key e →
    (CommitRun actions).store.Owns key e' → e = e'
  keys : ((history (CommitRun actions).finished).map (·.idempotencyKey)).Nodup
  parents : ((history (CommitRun actions).finished).map (·.expectedParentHash)).Nodup
  faults : ∀ before a after, actions = before ++ a :: after → ∀ e err,
    (CommitRun (before ++ [a])).finished = (CommitRun before).finished ++ [e] →
    e.result = .raised err → err ≠ .injected .afterCommitBeforeReturn →
    (CommitRun (before ++ [a])).store = (CommitRun before).store
  retries : ∀ pre e mid e' post, (CommitRun actions).finished = pre ++ e :: mid ++ e' :: post →
    ∀ p hook hook', e.task = .commit p hook → e'.task = .commit p hook' →
    e.result = .raised (.injected .afterCommitBeforeReturn) → hook' ≠ some .afterBegin →
    ∃ d, e'.result = .decision d ∧ (CommitRun actions).store.Replays p d

section
variable {ι : Type} {db : CommitStore} {h : List CommitProposal}

/-! ## Keys and parents -/

/-- No two events own one key. -/
theorem Represents.owner (hr : Represents db h) {key : String} {e e' : EventRow}
    (he : db.Owns key e) (he' : db.Owns key e') : e = e' := by
  obtain ⟨hmem, c, hc, hkey, hs⟩ := he
  obtain ⟨hmem', c', hc', hkey', hs'⟩ := he'
  have hcc : c = c' :=
    eq_of_clash (fun hab => Eq.symm hab) hr.constraints.commands hc hc' (hkey.trans hkey'.symm)
  refine eq_of_clash EventRow.Clashes.symm hr.constraints.events hmem hmem' (.inl ?_)
  rw [← hs, ← hs', hcc]

/-- No key comes twice in the history. -/
theorem Represents.nodup_keys (hr : Represents db h) : (h.map (·.idempotencyKey)).Nodup := by
  have hkeys : h.map (·.idempotencyKey) = db.commands.map (·.idempotencyKey) := by
    rw [hr.commands, List.map_map, ← HashChain.map_item_links eventHash 1 genesisHeadHash h,
      List.map_map, HashChain.map_item_links]
    rfl
  rw [hkeys]
  exact List.pairwise_map.2 hr.constraints.commands

/-- The genesis hash is the hash of no event, when the digest does not collide on them. -/
theorem genesis_notMem (hinj : Set.InjOn digest
    (insert genesisInput {j | ∃ e ∈ db.events, e.payload = j})) (hr : Represents db h) :
    genesisHeadHash ∉ (chain h).map (·.hash eventHash) := by
  intro hmem
  obtain ⟨l, hl, heq⟩ := List.mem_map.1 hmem
  have he := hr.mem_events.2 ⟨l, hl, rfl⟩
  have hpayload := hinj (.inr ⟨_, he, rfl⟩) (.inl rfl) heq
  cases hpayload

/-- No parent comes twice in the history. -/
theorem Represents.nodup_parents (hr : Represents db h) (hinj : Set.InjOn digest
    (insert genesisInput {j | ∃ e ∈ db.events, e.payload = j})) :
    (h.map (·.expectedParentHash)).Nodup := by
  have hparents : h.map (·.expectedParentHash) = (chain h).map (·.parent) := by
    conv_lhs => rw [← HashChain.map_item_links eventHash 1 genesisHeadHash h, List.map_map]
    exact List.map_congr_left hr.parents
  have hhashes : ((chain h).map (·.hash eventHash)).Nodup := by
    have hevents := hr.constraints.events
    rw [hr.events] at hevents
    refine List.pairwise_map.2 ((List.pairwise_map.1 hevents).imp fun hclash heq => hclash ?_)
    exact .inr (.inr (.inl heq))
  rw [hparents]
  exact HashChain.nodup_parents eventHash (List.nodup_cons.2 ⟨genesis_notMem hinj hr, hhashes⟩)

/-! ## Faults and retries -/

/-- A call that raises anything but a fault after the commit leaves the store as it was. -/
theorem run_raised {call : CommitCall} {err : CommitError}
    (h : (call.run db).1 = .raised err) (herr : err ≠ .injected .afterCommitBeforeReturn) :
    (call.run db).2 = db := by
  cases call with
  | acknowledgeOutbox id => cases h
  | commit p hook =>
    rcases commit_cases p hook db with ⟨hdb, -⟩ | ⟨-, -, -, -, hw⟩
    · exact hdb
    · have hresult : CommitResponse.ofResult (commit p hook db).1 = .raised err := h
      rw [hresult, written_raised herr] at hw
      cases hw

/-- **A retry.** A commit of a proposal of the history returns the row that was written for it,
unless its own hook raises first. -/
theorem Represents.commit_retry (hr : Represents db h)
    {l : HashChain.Link String CommitProposal} (hl : l ∈ chain h) {hook : Option FaultPoint}
    (hhook : hook ≠ some .afterBegin) :
    commit l.item hook db = (.ok (duplicateReplay l.item
      (commandRow l.sequence l.parent l.item) (headAfter h)), db) := by
  have hrow := hr.commandFor? hl
  have hvalid : validateProposal l.item = .ok () := by
    refine hr.valid _ ?_
    rw [← HashChain.map_item_links eventHash 1 genesisHeadHash h]
    exact List.mem_map_of_mem hl
  have hout := commit_outcome l.item hook db
  generalize commit l.item hook db = out at hout ⊢
  obtain ⟨r, db'⟩ := out
  cases hout with
  | invalid hp _ => rw [hvalid] at hp; cases hp
  | interrupted _ hbegin => exact absurd hbegin hhook
  | headless _ hhead _ => rw [hr.headHash] at hhead; cases hhead
  | conflict _ _ hrow' hdiff =>
    rw [hrow] at hrow'
    cases hrow'
    exact absurd ⟨rfl, rfl, rfl⟩ hdiff
  | replay _ hhead hrow' _ =>
    rw [hr.headHash] at hhead
    rw [hrow] at hrow'
    cases hhead
    cases hrow'
    rfl
  | stale _ _ hrow' _ => rw [hrow] at hrow'; cases hrow'
  | failed _ _ _ hrow' _ => rw [hrow] at hrow'; cases hrow'
  | written _ _ hrow' _ _ => rw [hrow] at hrow'; cases hrow'

/-- The replay of a link answers with its event, in every store whose history extends the link's. -/
theorem Represents.replays (hr : Represents db h) {l : HashChain.Link String CommitProposal}
    (hl : l ∈ chain h) (head : String) :
    db.Replays l.item (duplicateReplay l.item (commandRow l.sequence l.parent l.item) head) where
  disposition := rfl
  event := by
    have he := hr.mem_events.2 ⟨l, hl, rfl⟩
    obtain ⟨o, ho, hins⟩ := hr.outbox_of_link hl
    refine ⟨_, he, rfl, fun e' he' hp => ?_, rfl, rfl, o, ho,
      congrArg OutboxRow.eventSequence hins, (congrArg OutboxRow.outboxId hins).symm⟩
    exact eq_of_clash EventRow.Clashes.symm hr.constraints.events he' he (.inr (.inr (.inr hp)))

/-- A history that grows keeps its links. -/
theorem mem_chain_append {l : HashChain.Link String CommitProposal} (hl : l ∈ chain h)
    (h' : List CommitProposal) : l ∈ chain (h ++ h') := by
  unfold chain
  rw [HashChain.links_append]
  exact List.mem_append_left _ hl

end

section
variable {ι : Type} {actions : List (Exclusive.Action ι CommitCall)}

/-- A call that raises before its commit leaves the store as it was. -/
theorem faulted_unchanged {before : List (Exclusive.Action ι CommitCall)}
    {a : Exclusive.Action ι CommitCall} {e : Exclusive.Finished ι CommitCall CommitResponse}
    {err : CommitError}
    (hfin : (CommitRun (before ++ [a])).finished = (CommitRun before).finished ++ [e])
    (hresult : e.result = .raised err) (herr : err ≠ .injected .afterCommitBeforeReturn) :
    (CommitRun (before ++ [a])).store = (CommitRun before).store := by
  obtain ⟨hgen, hstore⟩ := Exclusive.finished_concat CommitCall.run hfin
  rw [hstore]
  exact run_raised (hgen.symm.trans hresult) herr

/-- The retry of a call that raised after its commit is a replay of it. -/
theorem retry_replays {pre mid post : List (Exclusive.Finished ι CommitCall CommitResponse)}
    {e e' : Exclusive.Finished ι CommitCall CommitResponse}
    (hlog : (CommitRun actions).finished = pre ++ e :: mid ++ e' :: post) {p : CommitProposal}
    {hook hook' : Option FaultPoint} (he : e.task = .commit p hook) (he' : e'.task = .commit p hook')
    (hresult : e.result = .raised (.injected .afterCommitBeforeReturn))
    (hhook' : hook' ≠ some .afterBegin) :
    ∃ d, e'.result = .decision d ∧ (CommitRun actions).store.Replays p d := by
  obtain ⟨hall, -⟩ := Exclusive.serial CommitCall.run .fresh actions
  have hfinal := represents_run actions
  rw [hlog] at hall hfinal
  have hbefore := represents_fresh.log ((Machine.allSteps_append _ _ _).1 hall).1
  rw [List.nil_append] at hbefore
  have hgen := hall.at
  have hp : p ∈ history (pre ++ e :: mid) := by
    refine List.mem_filterMap.2 ⟨e, by simp, ?_⟩
    rw [he, hresult]
    rfl
  obtain ⟨l, hl, rfl⟩ : ∃ l ∈ chain (history (pre ++ e :: mid)), l.item = p := by
    rw [← HashChain.map_item_links eventHash 1 genesisHeadHash (history (pre ++ e :: mid))] at hp
    exact List.mem_map.1 hp
  have hretry := hbefore.commit_retry hl hhook'
  have hresult' : e'.result = .decision (duplicateReplay l.item
      (commandRow l.sequence l.parent l.item) (headAfter (history (pre ++ e :: mid)))) := by
    have hrun : e'.result = (e'.task.run _).1 := hgen
    rw [hrun, he']
    exact congrArg (fun out => CommitResponse.ofResult out.1) hretry
  refine ⟨_, hresult', hfinal.replays ?_ _⟩
  unfold history
  rw [List.filterMap_append]
  exact mem_chain_append hl _

/-- **Exactly-once commit.** -/
theorem exactly_once (actions : List (Exclusive.Action ι CommitCall))
    (hinj : Set.InjOn digest
      (insert genesisInput {j | ∃ e ∈ (CommitRun actions).store.events, e.payload = j})) :
    ExactlyOnce actions where
  recorded := by
    have hr := represents_run actions
    conv_rhs => rw [← HashChain.map_item_links eventHash 1 genesisHeadHash (history _), List.map_map]
    rw [hr.events, List.map_map]
    rfl
  owner _ _ _ he he' := (represents_run actions).owner he he'
  keys := (represents_run actions).nodup_keys
  parents := (represents_run actions).nodup_parents hinj
  faults _ _ _ _ _ _ hfin hresult herr := faulted_unchanged hfin hresult herr
  retries _ _ _ _ _ hlog _ _ _ he he' hresult hhook' := retry_replays hlog he he' hresult hhook'

end

/-- A commit call leaves what `commit` leaves. -/
theorem run_commit (p : CommitProposal) (hook : Option FaultPoint) (db : CommitStore) :
    (CommitCall.run (.commit p hook) db).2 = (commit p hook db).2 := rfl

/-- The second client runs over what the first leaves. -/
theorem store_twoClients (first second : CommitCall) :
    (CommitRun (twoClients first second)).store = (second.run (first.run .fresh).2).2 := rfl

/-- The store with the event of `firstProposal`. -/
def firstStore : CommitStore := CommitStore.fresh.append firstProposal genesisHeadHash

/-- The first proposal is valid. -/
theorem validate_firstProposal : validateProposal firstProposal = .ok () := by
  have hparent : firstProposal.expectedParentHash.length = 64 := digest_length genesisInput
  unfold validateProposal
  rw [hparent]
  decide

/-- The proposal is written, unless the hook raises before the commit. -/
theorem commit_firstProposal_of {hook : Option FaultPoint}
    (hhook : hook = none ∨ hook = some .afterCommitBeforeReturn) :
    (commit firstProposal hook .fresh).2 = firstStore := by
  refine commit_written validate_firstProposal represents_fresh.headHash rfl ?_ (by aesop)
  rintro (⟨point, h, -, hafter⟩ | hclash | hover)
  · rcases hhook with rfl | rfl <;> cases h
    exact hafter rfl
  · exact hclash ⟨nofun, nofun, nofun⟩
  · cases hover

/-- The first proposal leaves the first store. -/
theorem commit_firstProposal :
    (commit firstProposal (some .afterCommitBeforeReturn) .fresh).2 = firstStore :=
  commit_firstProposal_of (.inr rfl)

/-- The first store has a history of one proposal. -/
theorem represents_firstStore : Represents firstStore [firstProposal] :=
  represents_fresh.append validate_firstProposal represents_fresh.headHash ⟨nofun, nofun, nofun⟩

/-- The retry finds the event that the faulted call left. -/
theorem store_faultedThenRetried : (CommitRun faultedThenRetried).store = firstStore := by
  have hlink : ⟨1, genesisHeadHash, firstProposal⟩ ∈ chain [firstProposal] := .head _
  have hhook : none ≠ some FaultPoint.afterBegin := by decide
  have hretry := represents_firstStore.commit_retry hlink hhook
  rw [faultedThenRetried, store_twoClients, run_commit, run_commit, commit_firstProposal, hretry]

/-- The digests of the genesis, of the proposal, and of its event. -/
theorem hashes_firstProposal :
    genesisHeadHash = "bba8d061f828db8caaeba23bc956fcdcb75e7b8c1507da9bf8b8ec2bf852c33a" ∧
      firstProposal.proposalHash =
        "f9265c500be5172859137be7519a8599d4f47ecd05be44375289351b876c4c13" ∧
      eventHash 1 genesisHeadHash firstProposal =
        "474570b8071e29123d0509a3d343e19150139e6389f9c3871a87a41bf404c934" := by
  have hgenesis : genesisHeadHash =
      "bba8d061f828db8caaeba23bc956fcdcb75e7b8c1507da9bf8b8ec2bf852c33a" := by
    unfold genesisHeadHash
    exact Json.digest_eq_of_spells (by repeat' constructor) (by decide +kernel)
  have hproposal : firstProposal.proposalHash =
      "f9265c500be5172859137be7519a8599d4f47ecd05be44375289351b876c4c13" := by
    unfold CommitProposal.proposalHash CommitProposal.toJson firstProposal
    rw [hgenesis]
    exact Json.digest_eq_of_spells (by repeat' constructor) (by decide +kernel)
  refine ⟨hgenesis, hproposal, ?_⟩
  unfold eventHash eventPayload
  rw [hproposal, hgenesis]
  exact Json.digest_eq_of_spells (by repeat' constructor) (by decide +kernel)

/-- The genesis head is not the hash of the first event. -/
theorem genesis_ne_eventHash :
    genesisHeadHash ≠ eventHash 1 genesisHeadHash firstProposal := by
  obtain ⟨hgenesis, -, hevent⟩ := hashes_firstProposal
  rw [hevent, hgenesis]
  decide

/-- The schedule of two clients writes the proposal once. -/
theorem exactly_once_retried : ExactlyOnce faultedThenRetried := by
  refine exactly_once faultedThenRetried ?_
  rw [store_faultedThenRetried]
  rintro a (rfl | ⟨e, he, rfl⟩) b (rfl | ⟨e', he', rfl⟩) hab
  · rfl
  · rw [List.mem_singleton.1 he'] at hab
    exact absurd hab genesis_ne_eventHash
  · rw [List.mem_singleton.1 he] at hab
    exact absurd hab.symm genesis_ne_eventHash
  · rw [List.mem_singleton.1 he, List.mem_singleton.1 he']

end LawFirmDigitalTwin
