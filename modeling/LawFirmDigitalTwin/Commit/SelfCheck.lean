import Mathlib.Data.List.Perm.Subperm
import LawFirmDigitalTwin.Commit.ExactlyOnce
import LawFirmDigitalTwin.Spelling

/-!
# The self check of the commit store

What the checks of `snapshot` say of tables that satisfy the constraints of the schema, whoever
wrote them. The sequence number is unique in `outbox` but not in `commands`: the outbox rows are one
to one with the events (`selfCheck_sound`), while two commands may refer to one event and none to
another, and of the columns a command shares with its event only `event_hash` is compared
(`selfCheck_misses_commands`).
-/

namespace LawFirmDigitalTwin

section
variable {db : CommitStore}

/-- A row that is bound by the snapshot is bound to an event of the table. -/
theorem BoundTo.exists_event {events : List EventRow} {n : Int} {hash : String}
    (h : BoundTo events n hash) : ∃ e ∈ events, e.eventSequence = n ∧ hash = e.eventHash := by
  obtain ⟨e, he, hhash⟩ := h
  have hfind : events.reverse.find? (·.eventSequence = n) = some e := he
  refine ⟨e, List.mem_reverse.1 (List.mem_of_find?_eq_some hfind), ?_, hhash⟩
  simpa using List.find?_some hfind

/-- The checks of the rows, read off a snapshot without errors. -/
structure SelfChecked (db : CommitStore) : Prop where
  commandCount : db.commands.length = db.events.length
  outboxCount : db.outbox.length = db.events.length
  command : ∀ c ∈ db.commands,
    ∃ e ∈ db.events, e.eventSequence = c.eventSequence ∧ c.eventHash = e.eventHash
  outbox : ∀ o ∈ db.outbox,
    ∃ e ∈ db.events, e.eventSequence = o.eventSequence ∧ o.eventHash = e.eventHash

/-- A snapshot without errors is of a store that passes the self check. -/
theorem selfChecked_of_snapshot {integrityCheck : CommitStore → String} {s : CommitStoreSnapshot}
    (hs : snapshot integrityCheck db = .ok s) (herrors : s.invariantErrors = []) :
    SelfChecked db := by
  unfold snapshot at hs
  rcases hhead : db.headHash with e | head
  · rw [hhead] at hs
    cases hs
  rw [hhead, Raising.ok_bind] at hs
  cases hs
  have hevents := List.perm_insertionSort (fun a b => a.eventSequence ≤ b.eventSequence) db.events
  have hcommands :=
    List.perm_insertionSort (fun a b => a.idempotencyKey ≤ b.idempotencyKey) db.commands
  have houtbox := List.perm_insertionSort (fun a b => a.eventSequence ≤ b.eventSequence) db.outbox
  simp only [snapshotErrors, List.append_eq_nil_iff, List.filterMap_eq_nil_iff, ite_eq_right_iff,
    ite_eq_left_iff, reduceCtorEq, imp_false, not_not, ne_eq, List.cons_ne_self,
    List.length_insertionSort] at herrors
  obtain ⟨⟨⟨⟨-, hcommandCount⟩, houtboxCount⟩, hcommand⟩, hout⟩ := herrors
  refine ⟨hcommandCount, houtboxCount, fun c hc => ?_, fun o ho => ?_⟩
  · obtain ⟨e, he, hsequence, hhash⟩ := (hcommand c (hcommands.mem_iff.2 hc)).exists_event
    exact ⟨e, hevents.mem_iff.1 he, hsequence, hhash⟩
  · obtain ⟨e, he, hsequence, hhash⟩ := (hout o (houtbox.mem_iff.2 ho)).exists_event
    exact ⟨e, hevents.mem_iff.1 he, hsequence, hhash⟩

/-- Rows with distinct numbers, as many as the events and each with the number of one, hit every
event once. -/
theorem exists_unique_row {α : Type} {rows : List α} {sequence : α → Int}
    (hnodup : (rows.map sequence).Nodup) (hlength : rows.length = db.events.length)
    (hbound : ∀ r ∈ rows, ∃ e ∈ db.events, e.eventSequence = sequence r) {e : EventRow}
    (he : e ∈ db.events) : ∃! r, r ∈ rows ∧ sequence r = e.eventSequence := by
  have hsubset : rows.map sequence ⊆ db.events.map (·.eventSequence) := by
    intro n hn
    obtain ⟨r, hr, rfl⟩ := List.mem_map.1 hn
    obtain ⟨e, he, hsequence⟩ := hbound r hr
    exact List.mem_map.2 ⟨e, he, hsequence⟩
  have hperm := (hnodup.subperm hsubset).perm_of_length_le (by simp [hlength])
  obtain ⟨r, hr, hsequence⟩ := List.mem_map.1 (hperm.mem_iff.2 (List.mem_map_of_mem he))
  refine ⟨r, ⟨hr, hsequence⟩, fun r' ⟨hr', hsequence'⟩ => ?_⟩
  exact List.inj_on_of_nodup_map hnodup hr' hr (hsequence'.trans hsequence.symm)

/-- No two events have one sequence number. -/
theorem CommitStore.Constraints.event_eq (h : db.Constraints) {e e' : EventRow} (he : e ∈ db.events)
    (he' : e' ∈ db.events) (hsequence : e.eventSequence = e'.eventSequence) : e = e' :=
  eq_of_clash EventRow.Clashes.symm h.events he he' (.inl hsequence)

/-- **What a snapshot without errors says of the tables**, whatever they hold. -/
theorem selfCheck_sound (integrityCheck : CommitStore → String) (db : CommitStore)
    (s : CommitStoreSnapshot) (hdb : db.Constraints) (hs : snapshot integrityCheck db = .ok s)
    (herrors : s.invariantErrors = []) :
    (∀ e ∈ db.events, ∃! o, o ∈ db.outbox ∧ o.eventSequence = e.eventSequence) ∧
      (∀ o ∈ db.outbox, ∃! e, e ∈ db.events ∧ e.OfOutbox o) ∧
      db.commands.length = db.events.length ∧
      (∀ c ∈ db.commands,
        ∃! e, e ∈ db.events ∧ c.eventSequence = e.eventSequence ∧ c.eventHash = e.eventHash) ∧
      ((db.commands.map (·.eventSequence)).Nodup →
        ∀ e ∈ db.events, ∃! c, c ∈ db.commands ∧ c.eventSequence = e.eventSequence) := by
  have h := selfChecked_of_snapshot hs herrors
  have hdistinct : (db.outbox.map (·.eventSequence)).Nodup :=
    List.pairwise_map.2 (hdb.outbox.imp fun hclash heq => hclash (.inr heq))
  refine ⟨fun e he => ?_, fun o ho => ?_, h.commandCount, fun c hc => ?_, fun hnodup e he => ?_⟩
  · refine exists_unique_row hdistinct h.outboxCount (fun o ho => ?_) he
    obtain ⟨e, he, hsequence, -⟩ := h.outbox o ho
    exact ⟨e, he, hsequence⟩
  · obtain ⟨e, he, hsequence, hhash⟩ := h.outbox o ho
    exact ⟨e, ⟨he, hsequence.symm, hhash⟩,
      fun e' ⟨he', hsequence', _⟩ => hdb.event_eq he' he (hsequence'.symm.trans hsequence.symm)⟩
  · obtain ⟨e, he, hsequence, hhash⟩ := h.command c hc
    exact ⟨e, ⟨he, hsequence.symm, hhash⟩,
      fun e' ⟨he', hsequence', _⟩ => hdb.event_eq he' he (hsequence'.symm.trans hsequence.symm)⟩
  · refine exists_unique_row hnodup h.commandCount (fun c hc => ?_) he
    obtain ⟨e, he, hsequence, -⟩ := h.command c hc
    exact ⟨e, he, hsequence⟩

end

/-- The first store and what its self check says of it. -/
theorem selfCheck_sound_first :
    (∀ e ∈ firstStore.events, ∃! o, o ∈ firstStore.outbox ∧ o.eventSequence = e.eventSequence) ∧
      (∀ o ∈ firstStore.outbox, ∃! e, e ∈ firstStore.events ∧ e.OfOutbox o) ∧
      firstStore.commands.length = firstStore.events.length ∧
      (∀ c ∈ firstStore.commands, ∃! e, e ∈ firstStore.events ∧
        c.eventSequence = e.eventSequence ∧ c.eventHash = e.eventHash) ∧
      ((firstStore.commands.map (·.eventSequence)).Nodup →
        ∀ e ∈ firstStore.events,
          ∃! c, c ∈ firstStore.commands ∧ c.eventSequence = e.eventSequence) := by
  obtain ⟨s, hs, herrors, -⟩ := represents_firstStore.snapshot (fun _ => "ok") rfl
  exact selfCheck_sound (fun _ => "ok") firstStore s represents_firstStore.constraints hs herrors

/-! ## Two commands of one event -/

/-- The first event of a foreign writer. -/
def foreignFirst : EventRow where
  eventSequence := 1
  eventId := "e1"
  parentHash := "bba8d061f828db8caaeba23bc956fcdcb75e7b8c1507da9bf8b8ec2bf852c33a"
  eventHash := "6c4f6f4f44c0459c332fecbd9df635e021fc179f1c26aa1558f682ec9efd989b"
  commandCommitment := ""
  dependencyHash := ""
  eventType := ""
  resultCommitment := ""
  proposalHash := "p1"

/-- The second event of a foreign writer. -/
def foreignSecond : EventRow where
  eventSequence := 2
  eventId := "e2"
  parentHash := "6c4f6f4f44c0459c332fecbd9df635e021fc179f1c26aa1558f682ec9efd989b"
  eventHash := "51634952f105980c85e80d6b4cc0abc6b88ce68d74ed260536f34361e003e676"
  commandCommitment := ""
  dependencyHash := ""
  eventType := ""
  resultCommitment := ""
  proposalHash := "p2"

/-- A command of the first event. -/
def foreignCommand (key proposalHash : String) : CommandRow where
  idempotencyKey := key
  proposalHash := proposalHash
  commandCommitment := ""
  dependencyHash := ""
  eventSequence := 1
  eventHash := "6c4f6f4f44c0459c332fecbd9df635e021fc179f1c26aa1558f682ec9efd989b"
  outboxId := "o1"

/-- Two events; both commands refer to the first one, and the second of them has another proposal
hash. -/
def foreignStore : CommitStore where
  metadata := .ofEntries
    [("head_hash", "51634952f105980c85e80d6b4cc0abc6b88ce68d74ed260536f34361e003e676"),
     ("schema_revision", commitSchemaRevision)]
  events := [foreignFirst, foreignSecond]
  commands := [foreignCommand "k1" "p1", foreignCommand "k2" "forged"]
  outbox :=
    [{ outboxId := "o1"
       eventSequence := 1
       eventHash := "6c4f6f4f44c0459c332fecbd9df635e021fc179f1c26aa1558f682ec9efd989b"
       status := .pending
       deliveryAttempts := 0 },
     { outboxId := "o2"
       eventSequence := 2
       eventHash := "51634952f105980c85e80d6b4cc0abc6b88ce68d74ed260536f34361e003e676"
       status := .pending
       deliveryAttempts := 0 }]

/-- The foreign store keeps the constraints of the schema. -/
theorem foreignStore_constraints : foreignStore.Constraints where
  events := by decide
  commands := by decide
  outbox := by decide
  commandEvent := by decide
  outboxEvent := by decide

/-- The first foreign event bears the digest of its payload. -/
theorem foreignFirst_hash : foreignFirst.eventHash = digest foreignFirst.payload :=
  (Json.digest_eq_of_spells (by repeat' constructor) (by decide +kernel)).symm

/-- So does the second. -/
theorem foreignSecond_hash : foreignSecond.eventHash = digest foreignSecond.payload :=
  (Json.digest_eq_of_spells (by repeat' constructor) (by decide +kernel)).symm

/-- The loop over the events passes an event that continues the chain. -/
theorem chainErrors_cons {n : Nat} {k : String} {e : EventRow} {es : List EventRow}
    (hsequence : e.eventSequence = n) (hparent : e.parentHash = k)
    (hhash : e.eventHash = digest e.payload) :
    chainErrors n k (e :: es) = chainErrors (n + 1) e.eventHash es := by
  rw [chainErrors, if_neg (not_not.2 hsequence), if_neg (not_not.2 hparent),
    if_neg (not_not.2 hhash)]
  rfl

/-- The foreign events make a chain without errors. -/
theorem foreignStore_chain : chainErrors 1 genesisHeadHash foreignStore.events =
    ([], "51634952f105980c85e80d6b4cc0abc6b88ce68d74ed260536f34361e003e676") := by
  have hevents : foreignStore.events = [foreignFirst, foreignSecond] := rfl
  have hfirst : foreignFirst.eventSequence = (1 : Nat) := rfl
  have hsecond : foreignSecond.eventSequence = (1 + 1 : Nat) := rfl
  have hparent : foreignSecond.parentHash = foreignFirst.eventHash := rfl
  rw [hevents, chainErrors_cons hfirst hashes_firstProposal.1.symm foreignFirst_hash,
    chainErrors_cons hsecond hparent foreignSecond_hash]
  rfl

/-- **The self check misses commands.** Tables that satisfy the schema pass it with an event that no
command refers to, and with a command that has another proposal hash than its event. -/
theorem selfCheck_misses_commands :
    foreignStore.Constraints ∧
      (∃ s, snapshot (fun _ => "ok") foreignStore = .ok s ∧ s.invariantErrors = []) ∧
      (∃ e ∈ foreignStore.events, ∀ c ∈ foreignStore.commands, c.eventSequence ≠ e.eventSequence) ∧
      ∃ c ∈ foreignStore.commands, ∀ e ∈ foreignStore.events, e.eventSequence = c.eventSequence →
        c.proposalHash ≠ e.proposalHash := by
  refine ⟨foreignStore_constraints, ?_, by decide, by decide⟩
  have hhead : foreignStore.headHash =
      .ok "51634952f105980c85e80d6b4cc0abc6b88ce68d74ed260536f34361e003e676" := by decide +kernel
  have hevents : foreignStore.events.insertionSort
      (fun a b => a.eventSequence ≤ b.eventSequence) = foreignStore.events := by decide
  refine ⟨_, by unfold snapshot; rw [hhead, Raising.ok_bind]; rfl, ?_⟩
  simp only [snapshotErrors]
  rw [hevents, foreignStore_chain]
  decide

end LawFirmDigitalTwin
