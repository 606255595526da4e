import LawFirmDigitalTwin.Lib.HashChain
import LawFirmDigitalTwin.Commit.Outcome

/-!
# The history of the commit store

What the store is for: it keeps the accepted proposals in order, each on top of the one before.
`Represents db h` says that the four tables hold the history `h`; a commit that writes appends its
proposal to the history and nothing else changes it. So after any interleaving of calls the tables
hold the proposals of exactly those calls that passed the commit, in the order of their commits
(`represents_run`).
-/

namespace LawFirmDigitalTwin

/-- The hash chain of a history. -/
def chain (h : List CommitProposal) : List (HashChain.Link String CommitProposal) :=
  HashChain.links eventHash 1 genesisHeadHash h

/-- The head of a history. -/
def headAfter (h : List CommitProposal) : String := HashChain.head eventHash 1 genesisHeadHash h

/-- One more proposal is one more link of the chain. -/
theorem chain_concat (h : List CommitProposal) (p : CommitProposal) :
    chain (h ++ [p]) = chain h ++ [⟨1 + h.length, headAfter h, p⟩] :=
  HashChain.links_concat eventHash 1 genesisHeadHash h p

/-- The head after one more proposal is the hash of its event. -/
theorem headAfter_concat (h : List CommitProposal) (p : CommitProposal) :
    headAfter (h ++ [p]) = eventHash (1 + h.length) (headAfter h) p :=
  HashChain.head_concat eventHash 1 genesisHeadHash h p

/-- An outbox row as it was inserted. -/
def OutboxRow.inserted (row : OutboxRow) : OutboxRow :=
  { row with status := .pending, deliveryAttempts := 0 }

/-- The tables hold the history `h`. -/
structure Represents (db : CommitStore) (h : List CommitProposal) : Prop where
  head : db.metadata.get? "head_hash" = some (headAfter h)
  events : db.events = (chain h).map fun l => eventRow l.sequence l.parent l.item
  commands : db.commands = (chain h).map fun l => commandRow l.sequence l.parent l.item
  outbox : db.outbox.map OutboxRow.inserted =
    (chain h).map fun l => outboxRow l.sequence l.parent l.item
  parents : ∀ l ∈ chain h, l.item.expectedParentHash = l.parent
  valid : ∀ p ∈ h, validateProposal p = .ok ()
  constraints : db.Constraints

/-! ## Constraints -/

/-- Clashes between events go both ways. -/
theorem EventRow.Clashes.symm {a b : EventRow} (h : a.Clashes b) : b.Clashes a := by
  unfold EventRow.Clashes at *
  tauto

/-- Clashes between outbox rows go both ways. -/
theorem OutboxRow.Clashes.symm {a b : OutboxRow} (h : a.Clashes b) : b.Clashes a := by
  unfold OutboxRow.Clashes at *
  tauto

/-- A row that clashes with no row of a table can be appended to it. -/
theorem pairwise_concat {α : Type} {R : α → α → Prop} {l : List α} {a : α} (h : l.Pairwise R)
    (ha : ∀ b ∈ l, R b a) : (l ++ [a]).Pairwise R := by
  refine List.pairwise_append.2 ⟨h, List.pairwise_singleton R a, fun b hb c hc => ?_⟩
  rw [List.mem_singleton.1 hc]
  exact ha b hb

/-- An accepted proposal keeps the constraints of the schema. -/
theorem CommitStore.Constraints.append {db : CommitStore} {p : CommitProposal} {head : String}
    (h : db.Constraints) (ha : db.Accepts p head) : (db.append p head).Constraints where
  events := pairwise_concat h.events fun e he hc => ha.event e he hc.symm
  commands := pairwise_concat h.commands fun c hc hcl => ha.command c hc (Eq.symm hcl)
  outbox := pairwise_concat h.outbox fun o ho hc => ha.outbox o ho hc.symm
  commandEvent := by
    intro c hc
    rcases List.mem_append.1 hc with hc | hc
    · obtain ⟨e, he, hs⟩ := h.commandEvent c hc
      exact ⟨e, List.mem_append_left _ he, hs⟩
    · rw [List.mem_singleton.1 hc]
      exact ⟨_, List.mem_append_right _ (.head _), rfl⟩
  outboxEvent := by
    intro o ho
    rcases List.mem_append.1 ho with ho | ho
    · obtain ⟨e, he, hs⟩ := h.outboxEvent o ho
      exact ⟨e, List.mem_append_left _ he, hs⟩
    · rw [List.mem_singleton.1 ho]
      exact ⟨_, List.mem_append_right _ (.head _), rfl⟩

/-! ## What a represented store reads -/

section
variable {db : CommitStore} {h : List CommitProposal}

/-- The head of a store is that of its history. -/
theorem Represents.headHash (hr : Represents db h) : db.headHash = .ok (headAfter h) := by
  unfold CommitStore.headHash
  rw [hr.head]

/-- The numbers of the events run from 1 to the length of the history. -/
theorem Represents.sequence_bounds (hr : Represents db h) {e : EventRow} (he : e ∈ db.events) :
    1 ≤ e.eventSequence ∧ e.eventSequence ≤ h.length := by
  rw [hr.events] at he
  obtain ⟨l, hl, rfl⟩ := List.mem_map.1 he
  have := HashChain.sequence_bounds eventHash hl
  simp only [eventRow]
  omega

/-- The next sequence number counts the history. -/
theorem Represents.nextSequence (hr : Represents db h) : db.nextSequence = 1 + h.length := by
  unfold CommitStore.nextSequence CommitStore.maxSequence?
  rcases List.eq_nil_or_concat h with rfl | ⟨h', p, rfl⟩
  · rw [hr.events]
    rfl
  · rw [List.concat_eq_append] at hr ⊢
    have hmax : (db.events.map (·.eventSequence)).max? = some ((h' ++ [p]).length : Int) := by
      rw [List.max?_eq_some_iff]
      constructor
      · rw [hr.events, chain_concat, List.map_append, List.map_append]
        refine List.mem_append_right _ (List.mem_singleton.2 ?_)
        simp only [eventRow, List.length_append, List.length_singleton]
        omega
      · intro n hn
        obtain ⟨e, he, rfl⟩ := List.mem_map.1 hn
        exact (hr.sequence_bounds he).2
    rw [hmax]
    simp only [Option.getD_some]
    omega

/-- A search that only one item can answer finds it. -/
theorem find?_unique {α : Type} {q : α → Bool} {as : List α} {a : α} (ha : a ∈ as) (hq : q a = true)
    (huniq : ∀ b ∈ as, q b = true → b = a) : as.find? q = some a := by
  cases hfind : as.find? q with
  | none => exact absurd hq (List.find?_eq_none.1 hfind a ha)
  | some b => rw [huniq b (List.mem_of_find?_eq_some hfind) (List.find?_some hfind)]

/-- Two rows of a table whose rows do not clash are equal when they do. -/
theorem eq_of_clash {α : Type} {R : α → α → Prop} (hsymm : ∀ {a b}, R a b → R b a) {as : List α}
    (h : as.Pairwise fun a b => ¬ R a b) {a b : α} (ha : a ∈ as) (hb : b ∈ as) (hab : R a b) :
    a = b := by
  by_contra hne
  have : Std.Symm fun a b => ¬ R a b := ⟨fun a b hn hba => hn (hsymm hba)⟩
  exact h.forall ha hb hne hab

/-- The key of a proposal of the history is bound to the row that was written for it. -/
theorem Represents.commandFor? (hr : Represents db h) {l : HashChain.Link String CommitProposal}
    (hl : l ∈ chain h) :
    db.commandFor? l.item.idempotencyKey = some (commandRow l.sequence l.parent l.item) := by
  have hmem : commandRow l.sequence l.parent l.item ∈ db.commands := by
    rw [hr.commands]
    exact List.mem_map_of_mem hl
  refine find?_unique hmem (decide_eq_true rfl) fun c hc hkey => ?_
  exact eq_of_clash (fun hab => Eq.symm hab) hr.constraints.commands hc hmem (of_decide_eq_true hkey)

/-! ## Steps -/

/-- A commit that writes appends its proposal to the history. -/
theorem Represents.append (hr : Represents db h) {p : CommitProposal}
    (hp : validateProposal p = .ok ()) (hhead : db.headHash = .ok p.expectedParentHash)
    (ha : db.Accepts p p.expectedParentHash) :
    Represents (db.append p p.expectedParentHash) (h ++ [p]) := by
  have hparent : p.expectedParentHash = headAfter h := by
    rw [hr.headHash] at hhead
    exact (Except.ok.inj hhead).symm
  have hnext := hr.nextSequence
  exact {
    head := by
      rw [headAfter_concat, ← hparent, ← hnext]
      exact PyDict.get?_set_self ..
    events := by
      rw [chain_concat, List.map_append, ← hr.events, ← hparent, ← hnext]
      rfl
    commands := by
      rw [chain_concat, List.map_append, ← hr.commands, ← hparent, ← hnext]
      rfl
    outbox := by
      rw [chain_concat, List.map_append, ← hr.outbox, ← hparent, ← hnext, CommitStore.append,
        List.map_append]
      rfl
    parents := by
      intro l hl
      rw [chain_concat] at hl
      rcases List.mem_append.1 hl with hl | hl
      · exact hr.parents l hl
      · rw [List.mem_singleton.1 hl]
        exact hparent
    valid := by
      intro q hq
      rcases List.mem_append.1 hq with hq | hq
      · exact hr.valid q hq
      · rw [List.mem_singleton.1 hq]
        exact hp
    constraints := hr.constraints.append ha }

end

/-- A fresh store has an empty history. -/
theorem represents_fresh : Represents .fresh [] where
  head := by
    show ((PyDict.set ∅ "head_hash" genesisHeadHash).set "schema_revision"
      commitSchemaRevision).get? "head_hash" = some genesisHeadHash
    rw [PyDict.get?_set_ne _ _ (by decide), PyDict.get?_set_self]
  events := rfl
  commands := rfl
  outbox := rfl
  parents := nofun
  valid := nofun
  constraints := ⟨.nil, .nil, .nil, nofun, nofun⟩

/-- The proposal that a call wrote: it was accepted, or the hook raised after the commit. -/
def CommitCall.written : CommitCall → CommitResponse → Option CommitProposal
  | .commit p _, .decision d => if d.disposition = .accepted then some p else none
  | .commit p _, .raised (.injected .afterCommitBeforeReturn) => some p
  | _, _ => none

/-- A call that raises before its commit writes nothing. -/
theorem written_raised {p : CommitProposal} {hook : Option FaultPoint} {e : CommitError}
    (he : e ≠ .injected .afterCommitBeforeReturn) :
    (CommitCall.commit p hook).written (.raised e) = none := by
  cases e with
  | injected point =>
    cases point with
    | afterCommitBeforeReturn => exact absurd rfl he
    | _ => rfl
  | _ => rfl

/-- A call of `commit` leaves the store as it was, or it writes its proposal on top of the head. -/
theorem commit_cases (p : CommitProposal) (hook : Option FaultPoint) (db : CommitStore) :
    (commit p hook db).2 = db ∧
        (CommitCall.commit p hook).written (.ofResult (commit p hook db).1) = none ∨
      validateProposal p = .ok () ∧ db.headHash = .ok p.expectedParentHash ∧
        db.Accepts p p.expectedParentHash ∧
        (commit p hook db).2 = db.append p p.expectedParentHash ∧
        (CommitCall.commit p hook).written (.ofResult (commit p hook db).1) = some p := by
  have hout := commit_outcome p hook db
  generalize commit p hook db = out at hout ⊢
  obtain ⟨r, db'⟩ := out
  cases hout with
  | invalid hp he => exact .inl ⟨rfl, written_raised (he _)⟩
  | interrupted hp hhook => exact .inl ⟨rfl, rfl⟩
  | headless hp hhead he => exact .inl ⟨rfl, written_raised (he _)⟩
  | conflict hp hhead hrow hdiff => exact .inl ⟨rfl, rfl⟩
  | replay hp hhead hrow hsame => exact .inl ⟨rfl, rfl⟩
  | stale hp hhead hrow hparent => exact .inl ⟨rfl, rfl⟩
  | failed hp hhead hobstructed hrow he => exact .inl ⟨rfl, written_raised he⟩
  | written hp hhead hrow ha hr =>
    refine .inr ⟨hp, hhead, ha, rfl, ?_⟩
    rw [hr]
    split <;> rfl

section
variable {ι : Type} {db : CommitStore} {h : List CommitProposal}

/-- An acknowledgement keeps the constraints of the schema. -/
theorem CommitStore.Constraints.acknowledge (hc : db.Constraints) (outboxId : String) :
    (db.acknowledge outboxId).Constraints where
  events := hc.events
  commands := hc.commands
  outbox := by
    refine List.pairwise_map.2 (hc.outbox.imp fun {a b} hab hclash => hab ?_)
    split at hclash <;> split at hclash <;> exact hclash
  commandEvent := hc.commandEvent
  outboxEvent := by
    intro o ho
    obtain ⟨o', ho', rfl⟩ := List.mem_map.1 ho
    obtain ⟨e, he, hs⟩ := hc.outboxEvent o' ho'
    refine ⟨e, he, hs.trans ?_⟩
    split <;> rfl

/-- An acknowledgement leaves the history as it is. -/
theorem Represents.acknowledgeOutbox (hr : Represents db h) (outboxId : String) :
    Represents (acknowledgeOutbox outboxId db).2 h := by
  unfold LawFirmDigitalTwin.acknowledgeOutbox
  split
  · exact hr
  split
  · refine { hr with outbox := ?_, constraints := hr.constraints.acknowledge outboxId }
    rw [← hr.outbox, CommitStore.acknowledge, List.map_map]
    refine List.map_congr_left fun o _ => ?_
    simp only [Function.comp_apply]
    split <;> rfl
  · exact hr

/-- **One call.** It appends to the history what it wrote. -/
theorem Represents.run (hr : Represents db h) (call : CommitCall) :
    Represents (call.run db).2 (h ++ (call.written (call.run db).1).toList) := by
  cases call with
  | acknowledgeOutbox id =>
    simp only [CommitCall.run, CommitCall.written, Option.toList_none, List.append_nil]
    exact hr.acknowledgeOutbox id
  | commit p hook =>
    simp only [CommitCall.run]
    rcases commit_cases p hook db with ⟨hdb, hw⟩ | ⟨hp, hhead, ha, hdb, hw⟩
    · rw [hdb, hw]
      simpa using hr
    · rw [hdb, hw]
      exact hr.append hp hhead ha

/-- The proposals that some finished calls wrote, in the order of their commits. -/
def history (log : List (Exclusive.Finished ι CommitCall CommitResponse)) : List CommitProposal :=
  log.filterMap fun e => e.task.written e.result

/-- Finished calls append to the history what they wrote. -/
theorem Represents.log (hr : Represents db h)
    {log : List (Exclusive.Finished ι CommitCall CommitResponse)}
    (hlog : Machine.AllSteps (Exclusive.effect CommitCall.run) (Exclusive.Genuine CommitCall.run)
      db log) :
    Represents (Machine.run (Exclusive.effect CommitCall.run) db log) (h ++ history log) :=
  Exclusive.history_log (fun _ _ call hr => hr.run call) hr hlog

/-- **The tables hold the proposals of the calls that passed the commit**, in the order of their
commits, after any interleaving of calls. -/
theorem represents_run (actions : List (Exclusive.Action ι CommitCall)) :
    Represents (CommitRun actions).store (history (CommitRun actions).finished) :=
  Exclusive.history_run (fun _ _ call hr => hr.run call) represents_fresh actions

end

end LawFirmDigitalTwin
