import LawFirmDigitalTwin.Commit.Adapter

/-!
# The outcomes of a commit

`CommitOutcome` lists what a call of `commit` can come to, with the store it leaves; every later
fact about `commit` is a case analysis on it. A call writes exactly in the last case, and then all
four tables at once.
-/

namespace LawFirmDigitalTwin

open Raising

/-- The store after the event of a proposal was written. -/
def CommitStore.append (db : CommitStore) (p : CommitProposal) (head : String) : CommitStore where
  metadata := db.metadata.set "head_hash" (eventHash db.nextSequence head p)
  events := db.events ++ [eventRow db.nextSequence head p]
  commands := db.commands ++ [commandRow db.nextSequence head p]
  outbox := db.outbox ++ [outboxRow db.nextSequence head p]

/-- The three rows of a proposal clash with no row of the store. -/
structure CommitStore.Accepts (db : CommitStore) (p : CommitProposal) (head : String) : Prop where
  event : ∀ e ∈ db.events, ¬ (eventRow db.nextSequence head p).Clashes e
  command : ∀ c ∈ db.commands, ¬ (commandRow db.nextSequence head p).Clashes c
  outbox : ∀ o ∈ db.outbox, ¬ (outboxRow db.nextSequence head p).Clashes o

/-- What keeps the writing part of a call from its commit: the hook raises, a row clashes, or the
number of the event does not fit its column. -/
def CommitStore.Obstructs (db : CommitStore) (p : CommitProposal) (head : String)
    (hook : Option FaultPoint) : Prop :=
  (∃ point, hook = some point ∧ point ≠ .afterBegin ∧ point ≠ .afterCommitBeforeReturn) ∨
    ¬ db.Accepts p head ∨ CommitStore.bindInteger db.nextSequence = .error .overflowError

/-- What a call of `commit` comes to. -/
inductive CommitOutcome (p : CommitProposal) (hook : Option FaultPoint) (db : CommitStore) :
    Except CommitError CommitDecision → CommitStore → Prop
  | invalid {e} (hp : validateProposal p = .error e) (he : ∀ point, e ≠ .injected point) :
    CommitOutcome p hook db (.error e) db
  | interrupted (hp : validateProposal p = .ok ()) (hhook : hook = some .afterBegin) :
    CommitOutcome p hook db (.error (.injected .afterBegin)) db
  | headless {e} (hp : validateProposal p = .ok ()) (hhead : db.headHash = .error e)
      (he : ∀ point, e ≠ .injected point) :
    CommitOutcome p hook db (.error e) db
  | conflict {head row} (hp : validateProposal p = .ok ()) (hhead : db.headHash = .ok head)
      (hrow : db.commandFor? p.idempotencyKey = some row) (hdiff : ¬ row.Matches p) :
    CommitOutcome p hook db (.ok (rejection p .rejectedIdempotencyConflict head
      "idempotency_key_reused_with_changed_input")) db
  | replay {head row} (hp : validateProposal p = .ok ()) (hhead : db.headHash = .ok head)
      (hrow : db.commandFor? p.idempotencyKey = some row) (hsame : row.Matches p) :
    CommitOutcome p hook db (.ok (duplicateReplay p row head)) db
  | stale {head} (hp : validateProposal p = .ok ()) (hhead : db.headHash = .ok head)
      (hrow : db.commandFor? p.idempotencyKey = none) (hparent : p.expectedParentHash ≠ head) :
    CommitOutcome p hook db (.ok (rejection p .rejectedStaleParent head
      "expected_parent_does_not_match_head")) db
  | failed {e} (hp : validateProposal p = .ok ())
      (hhead : db.headHash = .ok p.expectedParentHash)
      (hobstructed : db.Obstructs p p.expectedParentHash hook)
      (hrow : db.commandFor? p.idempotencyKey = none)
      (he : e ≠ .injected .afterCommitBeforeReturn) :
    CommitOutcome p hook db (.error e) db
  | written {r} (hp : validateProposal p = .ok ())
      (hhead : db.headHash = .ok p.expectedParentHash)
      (hrow : db.commandFor? p.idempotencyKey = none)
      (haccepts : db.Accepts p p.expectedParentHash)
      (hr : r = if hook = some .afterCommitBeforeReturn then
          .error (.injected .afterCommitBeforeReturn)
        else .ok (acceptance p db.nextSequence (eventHash db.nextSequence p.expectedParentHash p)
          (outboxIdOf (eventHash db.nextSequence p.expectedParentHash p)))) :
    CommitOutcome p hook db r (db.append p p.expectedParentHash)

/-! ## Statements and fault points -/

/-- Binding an integer raises an overflow or nothing. -/
theorem bindInteger_error {n : Int} {e : CommitError} (h : CommitStore.bindInteger n = .error e) :
    e = .overflowError := by
  unfold CommitStore.bindInteger at h
  split at h
  · cases h
  · cases h; rfl

/-- An insert binds its number and checks its constraints: it raises one of two errors, or does what
it says under the negated check. -/
theorem insert_cases {α : Type} {n : Int} {clash : Prop} [Decidable clash] {a : α}
    {r : Except CommitError α}
    (h : (do let _ ← CommitStore.bindInteger n; if clash then .error .integrityError else .ok a) = r) :
    (∃ e, r = .error e ∧ (∀ point, e ≠ .injected point) ∧
        (clash ∨ CommitStore.bindInteger n = .error .overflowError)) ∨
      r = .ok a ∧ ¬ clash := by
  subst h
  cases hn : CommitStore.bindInteger n with
  | error e =>
    obtain rfl := bindInteger_error hn
    refine .inl ⟨_, rfl, fun _ he => ?_, .inr rfl⟩
    cases he
  | ok m =>
    rw [ok_bind]
    by_cases hc : clash
    · rw [if_pos hc]
      refine .inl ⟨_, rfl, fun _ he => ?_, .inl hc⟩
      cases he
    · rw [if_neg hc]
      exact .inr ⟨rfl, hc⟩

section
variable (db : CommitStore)

/-- An event is inserted at the end, or it clashes or overflows. -/
theorem insertEvent_cases (row : EventRow) :
    (∃ e, db.insertEvent row = .error e ∧ (∀ point, e ≠ .injected point) ∧
        ((∃ e ∈ db.events, row.Clashes e) ∨
          CommitStore.bindInteger row.eventSequence = .error .overflowError)) ∨
      db.insertEvent row = .ok { db with events := db.events ++ [row] } ∧
        ¬ ∃ e ∈ db.events, row.Clashes e :=
  insert_cases rfl

/-- A command is inserted at the end, or it clashes, has no event or overflows. -/
theorem insertCommand_cases (row : CommandRow) :
    (∃ e, db.insertCommand row = .error e ∧ (∀ point, e ≠ .injected point) ∧
        (((∃ c ∈ db.commands, row.Clashes c) ∨ ¬ db.HasEvent row.eventSequence) ∨
          CommitStore.bindInteger row.eventSequence = .error .overflowError)) ∨
      db.insertCommand row = .ok { db with commands := db.commands ++ [row] } ∧
        ¬ ((∃ c ∈ db.commands, row.Clashes c) ∨ ¬ db.HasEvent row.eventSequence) :=
  insert_cases rfl

/-- An outbox row is inserted at the end, or it clashes, has no event or overflows. -/
theorem insertOutbox_cases (row : OutboxRow) :
    (∃ e, db.insertOutbox row = .error e ∧ (∀ point, e ≠ .injected point) ∧
        (((∃ o ∈ db.outbox, row.Clashes o) ∨ ¬ db.HasEvent row.eventSequence) ∨
          CommitStore.bindInteger row.eventSequence = .error .overflowError)) ∨
      db.insertOutbox row = .ok { db with outbox := db.outbox ++ [row] } ∧
        ¬ ((∃ o ∈ db.outbox, row.Clashes o) ∨ ¬ db.HasEvent row.eventSequence) :=
  insert_cases rfl

end

section
variable {β : Type} {k : Unit → Transaction β} {c : Connection}

/-- A statement that goes through changes the working store. -/
theorem execute_bind_ok {statement : CommitStore → Except CommitError CommitStore}
    {db : CommitStore} (h : statement c.working = .ok db) :
    (execute statement >>= k) c = k () { c with working := db } := by
  refine bind_run_ok (assign_ok ?_) k
  rw [h]; rfl

/-- A statement that fails ends the call. -/
theorem execute_bind_error {statement : CommitStore → Except CommitError CommitStore}
    {e : CommitError} (h : statement c.working = .error e) :
    (execute statement >>= k) c = .error e c := by
  refine bind_run_error (assign_error ?_) k
  rw [h]; rfl

/-- A fault point raises where the hook names it. -/
theorem fault_bind (hook : Option FaultPoint) (point : FaultPoint) :
    (fault hook point >>= k) c =
      if hook = some point then .error (.injected point) c else k () c := by
  unfold fault
  by_cases h : hook = some point
  · rw [if_pos h, decide_eq_true h]; rfl
  · rw [if_neg h, decide_eq_false h]; rfl

end

/-! ## The outcome of a call -/

/-- A transaction that raises before its commit, for a cause. -/
def Aborted (cause : Prop) (c : Connection)
    (r : EStateM.Result CommitError Connection CommitDecision) : Prop :=
  cause ∧ ∃ e c', r = .error e c' ∧ c'.durable = c.durable ∧
    e ≠ .injected .afterCommitBeforeReturn

/-- A fault before the commit aborts the call. -/
theorem aborted_fault {c c' : Connection} {p : CommitProposal} {head : String}
    {hook : Option FaultPoint} {point : FaultPoint} (hhook : hook = some point)
    (hc : c'.durable = c.durable) (hbegin : point ≠ .afterBegin)
    (hafter : point ≠ .afterCommitBeforeReturn) :
    Aborted (c.working.Obstructs p head hook) c (.error (.injected point) c') :=
  ⟨.inl ⟨point, hhook, hbegin, hafter⟩, _, _, rfl, hc, fun h => hafter (CommitError.injected.inj h)⟩

/-- A failed insertion aborts the call. -/
theorem aborted_insert {cause : Prop} {c c' : Connection} {e : CommitError} (hcause : cause)
    (hc : c'.durable = c.durable) (he : ∀ point, e ≠ .injected point) :
    Aborted cause c (.error e c') :=
  ⟨hcause, _, _, rfl, hc, he _⟩

/-- A head that can be read is a row of `metadata`. -/
theorem get?_of_headHash {db : CommitStore} {head : String} (h : db.headHash = .ok head) :
    db.metadata.get? "head_hash" = some head := by
  unfold CommitStore.headHash at h
  split at h
  · next hd => cases h; exact hd
  · cases h

/-- The writing part of a call raises before its commit, or writes all four tables. -/
theorem appendEvent_outcome (p : CommitProposal) (hook : Option FaultPoint) {head : String}
    {c : Connection} (hhead : c.working.headHash = .ok head) :
    Aborted (c.working.Obstructs p head hook) c (appendEvent p hook head c) ∨
      c.working.Accepts p head ∧
        ∃ c', c'.durable = c.working.append p head ∧
          appendEvent p hook head c =
            if hook = some .afterCommitBeforeReturn then
              .error (.injected .afterCommitBeforeReturn) c'
            else .ok (acceptance p c.working.nextSequence
              (eventHash c.working.nextSequence head p)
              (outboxIdOf (eventHash c.working.nextSequence head p))) c' := by
  have hrun : appendEvent p hook head c =
      (execute (CommitStore.insertEvent (eventRow c.working.nextSequence head p)) >>= _) c := rfl
  rw [hrun]
  rcases insertEvent_cases c.working (eventRow c.working.nextSequence head p) with
    ⟨e, he, hne, hcause⟩ | ⟨hev, hevent⟩
  · rw [execute_bind_error he]
    refine .inl (aborted_insert ?_ rfl hne)
    rcases hcause with ⟨e', he', hclash⟩ | hover
    · exact .inr (.inl fun ha => ha.event e' he' hclash)
    · exact .inr (.inr hover)
  rw [execute_bind_ok hev, fault_bind]
  split
  · next hhook => exact .inl (aborted_fault hhook rfl (by decide) (by decide))
  -- the foreign keys of the two rows below find the event just inserted
  have hkey : ∃ e ∈ c.working.events ++ [eventRow c.working.nextSequence head p],
      e.eventSequence = c.working.nextSequence :=
    ⟨_, List.mem_append_right _ (.head _), rfl⟩
  rcases insertCommand_cases _ (commandRow c.working.nextSequence head p) with
    ⟨e, he, hne, hcause⟩ | ⟨hcmd, hcommand⟩
  · rw [execute_bind_error he]
    refine .inl (aborted_insert ?_ rfl hne)
    rcases hcause with (⟨r, hr, hclash⟩ | hmissing) | hover
    · exact .inr (.inl fun ha => ha.command r hr hclash)
    · exact absurd hkey hmissing
    · exact .inr (.inr hover)
  rw [execute_bind_ok hcmd, fault_bind]
  split
  · next hhook => exact .inl (aborted_fault hhook rfl (by decide) (by decide))
  rcases insertOutbox_cases _ (outboxRow c.working.nextSequence head p) with
    ⟨e, he, hne, hcause⟩ | ⟨hout, houtbox⟩
  · rw [execute_bind_error he]
    refine .inl (aborted_insert ?_ rfl hne)
    rcases hcause with (⟨r, hr, hclash⟩ | hmissing) | hover
    · exact .inr (.inl fun ha => ha.outbox r hr hclash)
    · exact absurd hkey hmissing
    · exact .inr (.inr hover)
  rw [execute_bind_ok hout, fault_bind]
  split
  · next hhook => exact .inl (aborted_fault hhook rfl (by decide) (by decide))
  rw [bind_run_ok (modify_run _ _), fault_bind]
  split
  · next hhook => exact .inl (aborted_fault hhook rfl (by decide) (by decide))
  right
  refine ⟨⟨fun e he hc => hevent ⟨e, he, hc⟩, fun c hc hcl => hcommand (.inl ⟨c, hc, hcl⟩),
    fun o ho hcl => houtbox (.inl ⟨o, ho, hcl⟩)⟩, ?_⟩
  rw [commitWork, bind_run_ok (modify_run _ _), fault_bind]
  refine ⟨_, ?_, rfl⟩
  simp only [CommitStore.updateHead, get?_of_headHash hhead, Option.isSome_some, if_true]
  rfl

/-- Reading the head raises a type error or nothing. -/
theorem headHash_error {db : CommitStore} {e : CommitError} (h : db.headHash = .error e) :
    e = .typeError := by
  unfold CommitStore.headHash at h
  split at h
  · cases h
  · cases h; rfl

/-- `_validate_proposal` raises nothing but a `ValueError`. -/
theorem validateProposal_error {p : CommitProposal} {e : CommitError}
    (h : validateProposal p = .error e) (point : FaultPoint) : e ≠ .injected point := by
  rintro rfl
  unfold validateProposal at h
  repeat' split at h
  all_goals cases h

/-- **What a call of `commit` comes to.** -/
theorem commit_outcome (p : CommitProposal) (hook : Option FaultPoint) (db : CommitStore) :
    CommitOutcome p hook db (commit p hook db).1 (commit p hook db).2 := by
  unfold commit
  cases hp : validateProposal p with
  | error e => exact .invalid hp (validateProposal_error hp)
  | ok u =>
    have hrun : commitTransaction p hook ⟨db, db⟩ = (fault hook .afterBegin >>= _) ⟨db, db⟩ := rfl
    rw [hrun, fault_bind]
    by_cases hbegin : hook = some .afterBegin
    · rw [if_pos hbegin]
      exact .interrupted hp hbegin
    rw [if_neg hbegin, bind_run_ok (get_run _)]
    cases hhead : db.headHash with
    | error e =>
      have he : ∀ point, e ≠ .injected point := by
        rw [headHash_error hhead]
        exact fun _ he => by cases he
      exact .headless hp hhead he
    | ok head =>
      rw [bind_run_ok (attempt_ok head _), bind_run_ok (get_run _)]
      cases hrow : db.commandFor? p.idempotencyKey with
      | some row =>
        by_cases hsame : row.Matches p
        · simp only [hsame, not_true_eq_false, if_false]
          exact .replay hp hhead hrow hsame
        · simp only [hsame, not_false_eq_true, if_true]
          exact .conflict hp hhead hrow hsame
      | none =>
        by_cases hparent : p.expectedParentHash = head
        · simp only [hparent, ne_eq, not_true_eq_false, if_false]
          rcases appendEvent_outcome p hook (c := ⟨db, db⟩) hhead with
            ⟨hobstructed, e, c, hr, hc, he⟩ | ⟨haccepts, c, hc, hr⟩
          · rw [hr]
            subst hparent
            simp only [hc]
            exact .failed hp hhead hobstructed hrow he
          · rw [hr]
            subst hparent
            by_cases hafter : hook = some .afterCommitBeforeReturn
            · simp only [if_pos hafter, hc]
              exact .written hp hhead hrow haccepts (if_pos hafter).symm
            · simp only [if_neg hafter, hc]
              exact .written hp hhead hrow haccepts (if_neg hafter).symm
        · simp only [hparent, ne_eq, not_false_eq_true, if_true]
          exact .stale hp hhead hrow hparent

/-- A proposal on the head whose rows fit is written, unless the hook raises before the commit. -/
theorem commit_written {p : CommitProposal} {hook : Option FaultPoint} {db : CommitStore}
    (hp : validateProposal p = .ok ()) (hhead : db.headHash = .ok p.expectedParentHash)
    (hrow : db.commandFor? p.idempotencyKey = none)
    (hfree : ¬ db.Obstructs p p.expectedParentHash hook) (hbegin : hook ≠ some .afterBegin) :
    (commit p hook db).2 = db.append p p.expectedParentHash := by
  have hout := commit_outcome p hook db
  generalize commit p hook db = out at hout ⊢
  obtain ⟨r, db'⟩ := out
  cases hout with
  | invalid hp' _ => rw [hp] at hp'; cases hp'
  | interrupted _ hhook => exact absurd hhook hbegin
  | headless _ hhead' _ => rw [hhead] at hhead'; cases hhead'
  | conflict _ _ hrow' _ => rw [hrow] at hrow'; cases hrow'
  | replay _ _ hrow' _ => rw [hrow] at hrow'; cases hrow'
  | stale _ hhead' _ hparent =>
    rw [hhead] at hhead'
    exact absurd (Except.ok.inj hhead') hparent
  | failed _ _ hobstructed _ _ => exact absurd hobstructed hfree
  | written => rfl

end LawFirmDigitalTwin
