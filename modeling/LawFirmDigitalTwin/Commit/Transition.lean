import LawFirmDigitalTwin.Commit.ExactlyOnce

/-!
# The checker of transitions

`validate_commit_transition` of `commit_protocol_validator.py`: it reads a proposal, the decision on
it and the snapshots before and after. In a store that holds a history the checker accepts every
decision `commit` returns (`transition_accepted`): three of the dispositions leave the store, hence
its snapshot, as it was, and the fourth adds one row to each table.
-/

namespace LawFirmDigitalTwin

def CommitStoreSnapshot.toJson (s : CommitStoreSnapshot) : Json :=
  .dict [
    ("adapter_revision", .str s.adapterRevision),
    ("schema_revision", .str s.schemaRevision),
    ("head_hash", .str s.headHash),
    ("event_count", .int s.eventCount),
    ("command_count", .int s.commandCount),
    ("outbox_count", .int s.outboxCount),
    ("pending_outbox_count", .int s.pendingOutboxCount),
    ("acknowledged_outbox_count", .int s.acknowledgedOutboxCount),
    ("event_chain_hash", .str s.eventChainHash),
    ("outbox_state_hash", .str s.outboxStateHash),
    ("invariant_errors", .strs s.invariantErrors),
    ("sqlite_integrity", .str s.sqliteIntegrity),
    ("ephemeral_test_only", .bool s.ephemeralTestOnly),
    ("canonical_store", .bool s.canonicalStore),
    ("external_effects", .bool s.externalEffects)]

/-- `CommitStoreSnapshot.checkpoint_hash`. -/
def CommitStoreSnapshot.checkpointHash (s : CommitStoreSnapshot) : String := digest s.toJson

/-- The checks of an accepted proposal. -/
def acceptedErrors (p : CommitProposal) (before : CommitStoreSnapshot) (d : CommitDecision)
    (after : CommitStoreSnapshot) : List String :=
  (if before.headHash ≠ p.expectedParentHash then ["CPT-003:accepted_stale_parent"] else [])
    ++ (if after.eventCount = before.eventCount + 1 ∧ after.commandCount = before.commandCount + 1 ∧
        after.outboxCount = before.outboxCount + 1 ∧
        after.pendingOutboxCount = before.pendingOutboxCount + 1 then []
      else ["CPT-004:accepted_commit_not_atomic"])
    ++ (if d.eventSequence ≠ some (after.eventCount : Int) ∨ d.eventHash ≠ after.headHash ∨
        d.headHash ≠ after.headHash ∨ d.duplicate ∨ d.rejectionCode ≠ "" then
        ["CPT-005:accepted_decision_invalid"] else [])

/-- The checks of a replayed proposal. -/
def duplicateErrors (before : CommitStoreSnapshot) (d : CommitDecision)
    (after : CommitStoreSnapshot) : List String :=
  (if before.checkpointHash ≠ after.checkpointHash then ["CPT-006:duplicate_changed_store"] else [])
    ++ (if ¬ d.duplicate ∨ d.eventHash = "" ∨ d.rejectionCode ≠ "" then
        ["CPT-007:duplicate_decision_invalid"] else [])

/-- The checks of a rejected proposal. -/
def rejectionErrors (before : CommitStoreSnapshot) (d : CommitDecision)
    (after : CommitStoreSnapshot) : List String :=
  (if before.checkpointHash ≠ after.checkpointHash then ["CPT-008:rejection_changed_store"] else [])
    ++ (if d.eventSequence ≠ none ∨ d.eventHash ≠ "" ∨ d.outboxId ≠ "" then
        ["CPT-009:rejection_claimed_event"] else [])
    ++ (if d.duplicate ∨ d.rejectionCode = "" then ["CPT-010:rejection_decision_invalid"] else [])

/-- `commit_protocol_validator.py` `validate_commit_transition`. -/
def validateCommitTransition (p : CommitProposal) (before : CommitStoreSnapshot)
    (d : CommitDecision) (after : CommitStoreSnapshot) : List String :=
  (validateCommitSnapshot before
    ++ validateCommitSnapshot after
    ++ (if d.proposalHash ≠ p.proposalHash then ["CPT-001:proposal_binding_invalid"] else [])
    ++ (if ¬ d.ephemeralTestOnly ∨ d.canonicalAdmission ∨ d.externalEffects then
        ["CPT-002:decision_authority_boundary_invalid"] else [])
    ++ (match d.disposition with
      | .accepted => acceptedErrors p before d after
      | .duplicateReplay => duplicateErrors before d after
      | .rejectedStaleParent => rejectionErrors before d after
      | .rejectedIdempotencyConflict => rejectionErrors before d after)).eraseDups

section
variable {db : CommitStore} {h : List CommitProposal} {integrityCheck : CommitStore → String}

/-- What the checker reads of the snapshot of a store that holds a history. -/
theorem Represents.snapshot_counts (hr : Represents db h) {s : CommitStoreSnapshot}
    (hs : LawFirmDigitalTwin.snapshot integrityCheck db = .ok s) :
    s.headHash = headAfter h ∧ s.eventCount = h.length ∧ s.commandCount = h.length ∧
      s.outboxCount = h.length ∧
      s.pendingOutboxCount = db.outbox.countP (·.status = .pending) := by
  unfold LawFirmDigitalTwin.snapshot at hs
  rw [hr.headHash, Raising.ok_bind] at hs
  cases hs
  refine ⟨rfl, ?_, ?_, ?_, ?_⟩
  · exact (List.length_insertionSort _ _).trans hr.length_events
  · exact (List.length_insertionSort _ _).trans hr.length_commands
  · exact (List.length_insertionSort _ _).trans hr.length_outbox
  · exact (List.perm_insertionSort _ db.outbox).countP_eq _

/-- The checks of an accepted proposal hold between the snapshots around its commit. -/
theorem acceptedErrors_append (hr : Represents db h) {p : CommitProposal}
    (hp : validateProposal p = .ok ()) (hhead : db.headHash = .ok p.expectedParentHash)
    (ha : db.Accepts p p.expectedParentHash) {s s' : CommitStoreSnapshot}
    (hs : LawFirmDigitalTwin.snapshot integrityCheck db = .ok s)
    (hs' : LawFirmDigitalTwin.snapshot integrityCheck (db.append p p.expectedParentHash) = .ok s') :
    acceptedErrors p s (acceptance p db.nextSequence
      (eventHash db.nextSequence p.expectedParentHash p)
      (outboxIdOf (eventHash db.nextSequence p.expectedParentHash p))) s' = [] := by
  obtain ⟨hhash, hevents, hcommands, houtbox, hpending⟩ := hr.snapshot_counts hs
  obtain ⟨hhash', hevents', hcommands', houtbox', hpending'⟩ :=
    (hr.append hp hhead ha).snapshot_counts hs'
  have hparent : p.expectedParentHash = headAfter h := by
    rw [hr.headHash] at hhead
    exact (Except.ok.inj hhead).symm
  have hnext := hr.nextSequence
  have hlength : (h ++ [p]).length = h.length + 1 := by simp
  have hadded : s'.pendingOutboxCount = s.pendingOutboxCount + 1 := by
    rw [hpending, hpending', CommitStore.append, List.countP_append]
    rfl
  have hhead' : s'.headHash = eventHash db.nextSequence p.expectedParentHash p := by
    rw [hhash', headAfter_concat, hnext, hparent]
  have hsequence : (s'.eventCount : Int) = db.nextSequence := by
    rw [hevents', hlength, hnext]
    push_cast
    omega
  unfold acceptedErrors
  rw [hhash, hparent, hevents, hcommands, houtbox, hcommands', houtbox', hadded, hsequence, hhead',
    hevents', hlength, hparent]
  simp [acceptance]

/-- The checks of a replay hold where the store is unchanged. -/
theorem duplicateErrors_self (s : CommitStoreSnapshot) (p : CommitProposal) {row : CommandRow}
    (hrow : row.eventHash ≠ "") (head : String) :
    duplicateErrors s (duplicateReplay p row head) s = [] := by
  simp [duplicateErrors, duplicateReplay, hrow]

/-- The checks of a rejection hold where the store is unchanged. -/
theorem rejectionErrors_self (s : CommitStoreSnapshot) (p : CommitProposal)
    (disposition : CommitDisposition) (head : String) {code : String} (hcode : code ≠ "") :
    rejectionErrors s (rejection p disposition head code) s = [] := by
  simp [rejectionErrors, rejection, hcode]

/-- The row that holds a key has the hash of an event. -/
theorem Represents.eventHash_ne_empty (hr : Represents db h) {key : String} {row : CommandRow}
    (hrow : db.commandFor? key = some row) : row.eventHash ≠ "" := by
  obtain ⟨l, -, rfl⟩ := hr.mem_commands.1 (List.mem_of_find?_eq_some hrow)
  intro he
  have hlength : (eventHash l.sequence l.parent l.item).length = 64 := digest_length _
  rw [show eventHash l.sequence l.parent l.item = "" from he] at hlength
  cases hlength

/-- Where every check finds nothing, so does the checker. -/
theorem validateCommitTransition_nil {p : CommitProposal} {s s' : CommitStoreSnapshot}
    {d : CommitDecision} (hs : validateCommitSnapshot s = []) (hs' : validateCommitSnapshot s' = [])
    (hproposal : d.proposalHash = p.proposalHash)
    (hauthority : ¬ (¬ d.ephemeralTestOnly ∨ d.canonicalAdmission ∨ d.externalEffects))
    (hdisposition : (match d.disposition with
      | .accepted => acceptedErrors p s d s'
      | .duplicateReplay => duplicateErrors s d s'
      | .rejectedStaleParent => rejectionErrors s d s'
      | .rejectedIdempotencyConflict => rejectionErrors s d s') = []) :
    validateCommitTransition p s d s' = [] := by
  unfold validateCommitTransition
  rw [hs, hs', hdisposition, if_neg (not_not.2 hproposal), if_neg hauthority]
  rfl

/-- **A decision in a store that holds a history is accepted by the checker.** -/
theorem Represents.transition (hcheck : ∀ db, db.Constraints → integrityCheck db = "ok")
    (hr : Represents db h) {p : CommitProposal} {hook : Option FaultPoint} {d : CommitDecision}
    (hd : (commit p hook db).1 = .ok d) :
    ∃ s s', LawFirmDigitalTwin.snapshot integrityCheck db = .ok s ∧
      LawFirmDigitalTwin.snapshot integrityCheck (commit p hook db).2 = .ok s' ∧
      validateCommitTransition p s d s' = [] := by
  obtain ⟨s, hs, -, hvalid⟩ := hr.snapshot integrityCheck (hcheck db hr.constraints)
  have hout := commit_outcome p hook db
  generalize commit p hook db = out at hout hd ⊢
  obtain ⟨r, db'⟩ := out
  cases hout with
  | invalid | interrupted | headless | failed => cases hd
  | conflict hp hhead hrow hdiff =>
    cases hd
    exact ⟨s, s, hs, hs, validateCommitTransition_nil hvalid hvalid rfl (by simp [rejection])
      (rejectionErrors_self s p _ _ (by decide))⟩
  | replay hp hhead hrow hsame =>
    cases hd
    exact ⟨s, s, hs, hs, validateCommitTransition_nil hvalid hvalid rfl (by simp [duplicateReplay])
      (duplicateErrors_self s p (hr.eventHash_ne_empty hrow) _)⟩
  | stale hp hhead hrow hparent =>
    cases hd
    exact ⟨s, s, hs, hs, validateCommitTransition_nil hvalid hvalid rfl (by simp [rejection])
      (rejectionErrors_self s p _ _ (by decide))⟩
  | written hp hhead hrow ha hresult =>
    have hr' := hr.append hp hhead ha
    obtain ⟨s', hs', -, hvalid'⟩ := hr'.snapshot integrityCheck (hcheck _ hr'.constraints)
    rw [show r = .ok d from hd] at hresult
    split at hresult
    · cases hresult
    · cases hresult
      exact ⟨s, s', hs, hs', validateCommitTransition_nil hvalid hvalid' rfl (by simp [acceptance])
        (acceptedErrors_append hr hp hhead ha hs hs')⟩

end

/-- **The checker accepts every transition of the store**: in every store that calls of clients can
reach, the snapshots around a call of `commit` that returns a decision pass with it. -/
theorem transition_accepted {ι : Type} (integrityCheck : CommitStore → String)
    (hcheck : ∀ db, db.Constraints → integrityCheck db = "ok")
    (actions : List (Exclusive.Action ι CommitCall)) (p : CommitProposal)
    (hook : Option FaultPoint) (d : CommitDecision)
    (hd : (commit p hook (CommitRun actions).store).1 = .ok d) :
    ∃ s s', snapshot integrityCheck (CommitRun actions).store = .ok s ∧
      snapshot integrityCheck (commit p hook (CommitRun actions).store).2 = .ok s' ∧
      validateCommitTransition p s d s' = [] :=
  (represents_run actions).transition hcheck hd

/-- The checker accepts the replay of a proposal that a faulted call has left. -/
theorem transition_accepted_retried :
    ∃ d s s', (commit firstProposal none (CommitRun faultedThenRetried).store).1 = .ok d ∧
      snapshot (fun _ => "ok") (CommitRun faultedThenRetried).store = .ok s ∧
      snapshot (fun _ => "ok") (commit firstProposal none (CommitRun faultedThenRetried).store).2 =
        .ok s' ∧
      validateCommitTransition firstProposal s d s' = [] := by
  have hlink : ⟨1, genesisHeadHash, firstProposal⟩ ∈ chain [firstProposal] := .head _
  have hhook : none ≠ some FaultPoint.afterBegin := by decide
  have hretry := represents_firstStore.commit_retry hlink hhook
  rw [← store_faultedThenRetried] at hretry
  have hd := congrArg Prod.fst hretry
  obtain ⟨s, s', hs, hs', hvalid⟩ := transition_accepted (fun _ => "ok") (fun _ _ => rfl)
    faultedThenRetried firstProposal none _ hd
  exact ⟨_, s, s', hd, hs, hs', hvalid⟩

end LawFirmDigitalTwin
