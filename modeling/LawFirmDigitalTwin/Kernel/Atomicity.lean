import LawFirmDigitalTwin.Kernel.Branches
import LawFirmDigitalTwin.Kernel.Evidence
import LawFirmDigitalTwin.Kernel.Workflow

/-!
# Atomic rejection

A command that the checks of `submit` refuse leaves a denial and nothing else. Past these checks the
clock has moved, so a call that raises in its transition, or while its event is hashed, is never
without effect: rejection is atomic exactly for the commands whose transition completes.
`Completes` says for each verb when that is, in terms of the projection and the payload.
-/

namespace LawFirmDigitalTwin

open Raising

/-- Two states are the same but for one more denial and, for `read_oracle`, the count of
attempts. -/
structure Unchanged (c : Command) (s s' : KernelState) : Prop where
  clock : s'.clock = s.clock
  events : s'.events = s.events
  authority : s'.authority = s.authority
  knowledge : s'.knowledge = s.knowledge
  denials : s'.denials = s.denials ∨ ∃ d, s'.denials = s.denials ++ [d]
  projection : s'.projection = s.projection ∨
    c.verb = Verb.readOracle.name ∧
      ∃ n, s'.projection = { s.projection with oracleAccessAttempts := n }

/-- A call that raises leaves the state unchanged. -/
def AtomicRejection (k : Kernel) (s : KernelState) (c : Command) : Prop :=
  returned (k.submit c s) = false → Unchanged c s (k.step s c)

/-- The transition of a command completes: its branch passes its own checks, and what the branch and
its grants read from the payload can be read. -/
def Completes (k : Kernel) (p : Projection) (c : Command) : Verb → Prop
  | .receiveReferral | .submitConflictResult | .issuePreservation => True
  | .recordLawyerGate =>
    (∃ gate, c.text "gate" = .ok gate ∧ gate ∈ p.authorityHolds) ∧
      ∃ token, c.text "grants" = .ok token
  | .openMatter => p.authorityHolds = ∅
  | .calculateDeadlines => ∃ day, c.filedDay = .ok day
  | .verifyDeadlines =>
    p.deadlineProposal ≠ ∅ ∧
      (∃ day, c.filedDay = .ok day ∧
        calculateDeadlinesSecondary k.bundle.matter.rulePack day = p.deadlineProposal) ∧
      p.deadlineAudit.get? "primary_actor" ≠ some c.actorId
  | .collectEvidence => ∀ a ∈ k.bundle.matter.evidenceInventory,
    p.evidenceStatus.get? a.artifactId = some .preserved
  | .reviewEvidence => ∀ a ∈ k.bundle.matter.evidenceInventory,
    p.evidenceStatus.get? a.artifactId = some .collected
  | .produceDiscovery => ∃ a ∈ k.bundle.matter.evidenceInventory,
    p.evidenceStatus.get? a.artifactId = some .reviewed
  | .takeDeposition | .retainExpert => True
  | .settleCase => k.route.resolutionVerb = .settleCase
  | .mediateToImpasse => k.route.resolutionVerb = .mediateToImpasse
  | .resolveDispositive => k.route.resolutionVerb = .resolveDispositive
  | .tryAndAppeal => k.route.resolutionVerb = .tryAndAppeal
  | .recordTime =>
    (∃ call, c.ledgerCall .recordTime = .ok (some call) ∧ call.Completes p.finance) ∧
      (∃ code, c.text "task_code" = .ok code) ∧ ∃ narrative, c.text "narrative" = .ok narrative
  | .submitInvoice =>
    ∃ call, c.ledgerCall .submitInvoice = .ok (some call) ∧ call.Completes p.finance
  | .carrierAudit =>
    ∃ call, c.ledgerCall .carrierAudit = .ok (some call) ∧ call.Completes p.finance
  | .appealReduction =>
    ∃ call, c.ledgerCall .appealReduction = .ok (some call) ∧ call.Completes p.finance
  | .applyPayment =>
    ∃ call, c.ledgerCall .applyPayment = .ok (some call) ∧ call.Completes p.finance
  | .finalizeCloseout => p.resolutionOutcome ≠ none ∧ ∃ b, p.finance.reconciled = .ok b
  | .closeMatter =>
    requiredConditions ⊆ p.closeConditions ∧ p.finance.invariantErrors = .ok []
  | .readOracle => False

/-! ## Refusals -/

section
variable {k : Kernel} {s : KernelState} {c : Command}

/-- Only `read_oracle` is refused at the oracle boundary. -/
theorem admit_oracleBoundary {missing : List String}
    (h : k.admit s c = .error (.denied .oracleBoundary missing)) :
    c.verb = Verb.readOracle.name := by
  unfold Kernel.admit at h
  split at h
  · cases h
  split at h
  · cases h
  split at h
  · cases h
  next v hv =>
  dsimp only at h
  split at h
  · cases h
  split at h
  · cases h
  split at h
  · next horacle => rw [← Verb.name_of_ofName? hv, horacle]
  split at h
  · cases h
  · cases h
  split at h
  · cases h
  split at h
  · cases h
  · cases h

/-- A command that the checks refuse leaves the state unchanged. -/
theorem unchanged_of_refused {r : Refusal} (h : k.admit s c = .error r) :
    Unchanged c s (k.step s c) := by
  unfold Kernel.step
  cases r with
  | raised e =>
    rw [submit_raised h]
    exact ⟨rfl, rfl, rfl, rfl, .inl rfl, .inl rfl⟩
  | denied reason missing =>
    rw [submit_denied h]
    unfold deny
    by_cases hr : reason = .oracleBoundary
    · rw [if_pos hr]
      rw [hr] at h
      exact ⟨rfl, rfl, rfl, rfl, .inr ⟨_, rfl⟩, .inr ⟨admit_oracleBoundary h, _, rfl⟩⟩
    · rw [if_neg hr]
      exact ⟨rfl, rfl, rfl, rfl, .inr ⟨_, rfl⟩, .inl rfl⟩

/-- An admitted call that raises is not without effect: the clock has moved. -/
theorem atomicRejection_admitted {a : Admission} (h : k.admit s c = .ok a) :
    AtomicRejection k s c ↔ returned (k.submit c s) = true := by
  constructor
  · intro hatomic
    cases hr : returned (k.submit c s) with
    | true => rfl
    | false =>
      have hsame := (hatomic hr).clock
      rw [(step_effect h).clock] at hsame
      omega
  · intro hr hraised
    rw [hr] at hraised
    cases hraised

end

/-! ## Logs of the artifacts that have a status -/

/-- Every artifact that has a status has a custody log. -/
def Logged (p : Projection) : Prop :=
  ∀ id, (p.evidenceStatus.get? id).isSome = true → (p.custodyLog.get? id).isSome = true

section
variable {p : Projection}

/-- Placing an artifact gives it a log. -/
theorem Logged.place (h : Logged p) (id : String) (status : EvidenceStatus)
    (log : List CustodyStep) : Logged (p.place id status log) := by
  intro id' hs
  unfold Projection.place at hs ⊢
  rw [PyDict.get?_set] at hs ⊢
  split
  · rfl
  · next hne => rw [if_neg hne] at hs; exact h id' hs

/-- Withholding an artifact that has a log. -/
theorem Logged.withhold (h : Logged p) {id : String}
    (hid : (p.custodyLog.get? id).isSome = true) : Logged (p.withhold id) := by
  intro id' hs
  by_cases heq : id' = id
  · rw [heq]; exact hid
  · refine h id' ?_
    unfold Projection.withhold at hs
    rwa [PyDict.get?_set_ne _ _ heq] at hs

/-- An artifact with a status has a log. -/
theorem Logged.log (h : Logged p) {id : String} {status : EvidenceStatus}
    (hs : p.evidenceStatus.get? id = some status) : ∃ log, p.custodyLog.get? id = some log :=
  Option.isSome_iff_exists.1 (h id (by rw [hs]; rfl))

end

/-! ## When the loops return -/

/-- The statuses of artifacts other than the one that was handled. -/
theorem forall_status_congr {rest : List EvidenceArtifact} {id : String} {p q : Projection}
    (hfresh : id ∉ rest.map (·.artifactId))
    (h : ∀ id', id' ≠ id → q.evidenceStatus.get? id' = p.evidenceStatus.get? id')
    (status : EvidenceStatus) :
    (∀ b ∈ rest, q.evidenceStatus.get? b.artifactId = some status) ↔
      ∀ b ∈ rest, p.evidenceStatus.get? b.artifactId = some status := by
  refine forall₂_congr fun b hb => ?_
  rw [h b.artifactId fun heq => hfresh (heq ▸ List.mem_map_of_mem hb)]

/-- A preservation always returns. -/
theorem returned_preserveAll {l : List EvidenceArtifact} (hc : ∀ a ∈ l, a.Custodied)
    {s : KernelState} (hs : Logged s.projection) :
    Logged (final (preserveAll l s)).projection ∧ returned (preserveAll l s) = true := by
  induction l generalizing s with
  | nil => exact ⟨hs, rfl⟩
  | cons a rest ih =>
    rw [preserveAll_cons (hc a (.head _))]
    exact ih (fun b hb => hc b (.tail _ hb)) (hs.place _ _ _)

/-- A collection returns when every artifact is preserved. -/
theorem returned_collectAll {l : List EvidenceArtifact} (hl : (l.map (·.artifactId)).Nodup)
    {s : KernelState} (hs : Logged s.projection) :
    Logged (final (collectAll l s)).projection ∧
      (returned (collectAll l s) = true ↔
        ∀ a ∈ l, s.projection.evidenceStatus.get? a.artifactId = some .preserved) := by
  induction l generalizing s with
  | nil => exact ⟨hs, by simp [collectAll]⟩
  | cons a rest ih =>
    obtain ⟨hfresh, hrest⟩ := List.nodup_cons.1 hl
    rw [List.forall_mem_cons]
    by_cases hst : s.projection.evidenceStatus.get? a.artifactId = some .preserved
    · obtain ⟨log, hlog⟩ := hs.log hst
      rw [collectAll_cons rest hst hlog]
      obtain ⟨hlogged, hret⟩ := ih hrest (s := { s with
        projection := s.projection.place a.artifactId .collected (log ++ a.custody.drop 1) })
        (hs.place _ _ _)
      refine ⟨hlogged, hret.trans ?_⟩
      rw [forall_status_congr hfresh (fun id hid => PyDict.get?_set_ne _ _ hid)]
      exact (and_iff_right hst).symm
    · obtain ⟨e, he⟩ := collectAll_refused rest hst
      rw [he]
      refine ⟨hs, ⟨fun h => ?_, fun h => absurd h.1 hst⟩⟩
      cases h

/-- A review returns when every artifact is collected. -/
theorem returned_reviewAll (c : Command) {l : List EvidenceArtifact}
    (hl : (l.map (·.artifactId)).Nodup) (hc : ∀ a ∈ l, a.Custodied) (selected : List String)
    (claims : PyDict (Finset String)) {s : KernelState} (hs : Logged s.projection) :
    Logged (final (reviewAll c l selected claims s)).projection ∧
      (returned (reviewAll c l selected claims s) = true ↔
        ∀ a ∈ l, s.projection.evidenceStatus.get? a.artifactId = some .collected) := by
  induction l generalizing s selected claims with
  | nil => exact ⟨hs, by simp [reviewAll]⟩
  | cons a rest ih =>
    obtain ⟨hfresh, hrest⟩ := List.nodup_cons.1 hl
    have hcrest : ∀ b ∈ rest, b.Custodied := fun b hb => hc b (.tail _ hb)
    rw [List.forall_mem_cons]
    by_cases hst : s.projection.evidenceStatus.get? a.artifactId = some .collected
    · obtain ⟨log, hlog⟩ := hs.log hst
      by_cases hr : a.responsive = true ∧ ¬ a.privileged = true
      · rw [reviewAll_reviewed (hc a (.head _)) c rest _ _ hst hlog hr]
        obtain ⟨hlogged, hret⟩ := ih hrest hcrest (selected ++ [a.artifactId])
          (addClaims claims a.claims) (s := { s with
            projection := s.projection.place a.artifactId .reviewed
              (log ++ [a.reviewedBy c.actorId]) }) (hs.place _ _ _)
        refine ⟨hlogged, hret.trans ?_⟩
        rw [forall_status_congr hfresh (fun id hid => PyDict.get?_set_ne _ _ hid)]
        exact (and_iff_right hst).symm
      · rw [reviewAll_withheld c rest _ _ hst hr]
        obtain ⟨hlogged, hret⟩ := ih hrest hcrest selected claims (s := { s with
          projection := s.projection.withhold a.artifactId }) (hs.withhold (by rw [hlog]; rfl))
        refine ⟨hlogged, hret.trans ?_⟩
        rw [forall_status_congr hfresh (fun id hid => PyDict.get?_set_ne _ _ hid)]
        exact (and_iff_right hst).symm
    · obtain ⟨e, he⟩ := reviewAll_refused c rest selected claims hst
      rw [he]
      refine ⟨hs, ⟨fun h => ?_, fun h => absurd h.1 hst⟩⟩
      cases h

section
variable {k : Kernel} {c : Command} (hk : k.bundle.Employment)

include hk

/-- A production of artifacts with a status always returns. -/
theorem returned_produceAll (c : Command) {ids : List String} {s : KernelState}
    (hs : Logged s.projection)
    (hids : ∀ id ∈ ids, (∃ a ∈ k.bundle.matter.evidenceInventory, a.artifactId = id) ∧
      (s.projection.evidenceStatus.get? id).isSome = true) :
    Logged (final (produceAll k c ids s)).projection ∧ returned (produceAll k c ids s) = true := by
  induction ids generalizing s with
  | nil => exact ⟨hs, rfl⟩
  | cons id rest ih =>
    obtain ⟨⟨a, ha, rfl⟩, hst⟩ := hids id (.head _)
    obtain ⟨log, hlog⟩ := Option.isSome_iff_exists.1 (hs a.artifactId hst)
    rw [produceAll_cons (custodied_inventory hk a ha) c rest
      (artifact_of_mem (nodup_inventory hk) ha) hlog]
    refine ih (s := { s with
      projection := s.projection.produce a (log ++ [a.producedBy c.actorId]) }) (hs.place _ _ _) ?_
    intro id hid
    refine ⟨(hids id (.tail _ hid)).1, ?_⟩
    have hget : (s.projection.produce a (log ++ [a.producedBy c.actorId])).evidenceStatus.get? id =
        if id = a.artifactId then some .produced else s.projection.evidenceStatus.get? id :=
      PyDict.get?_set _ _ _ _
    rw [hget]
    split
    · rfl
    · exact (hids id (.tail _ hid)).2

/-- The hashes of a production can be computed. -/
theorem production_ok {ids : List String}
    (hids : ∀ id ∈ ids, ∃ a ∈ k.bundle.matter.evidenceInventory, a.artifactId = id) :
    ∃ pairs, k.production ids = .ok pairs := by
  induction ids with
  | nil => exact ⟨[], rfl⟩
  | cons id rest ih =>
    obtain ⟨a, ha, rfl⟩ := hids id (.head _)
    obtain ⟨pairs, hpairs⟩ := ih fun id hid => hids id (.tail _ hid)
    rw [Kernel.production, artifact_of_mem (nodup_inventory hk) ha, hpairs]
    exact ⟨_, rfl⟩

/-! ## When the branches return -/

/-- From logged artifacts to logged artifacts. -/
def KeepsLogged (s s' : KernelState) : Prop := Logged s.projection → Logged s'.projection

instance : Std.Refl KeepsLogged where
  refl _ := id

instance : IsTrans KernelState KeepsLogged where
  trans _ _ _ h₁ h₂ := h₂ ∘ h₁

/-- A branch keeps the logs. -/
theorem keepsLogged_branch (c : Command) (v : Verb) (s : KernelState) :
    KeepsLogged s (final (branch k c v s)) := by
  cases v with
  | issuePreservation =>
    refine Keeps.after (fun hs => ?_) fun _ => .pure _
    exact (returned_preserveAll (custodied_inventory hk) hs).1
  | collectEvidence =>
    refine Keeps.after (fun hs => ?_) fun _ => .pure _
    exact (returned_collectAll (nodup_inventory hk) hs).1
  | reviewEvidence =>
    refine Keeps.after (fun hs => ?_) fun _ => .bind (.modify fun _ => id) fun _ => .pure _
    exact (returned_reviewAll c (nodup_inventory hk) (custodied_inventory hk) _ _ hs).1
  | produceDiscovery =>
    unfold branch produceDiscovery
    rw [final_get_bind, final_raiseIf_bind]
    split
    · refine Keeps.after (fun hs => ?_) fun _ => .bind (.attempt _) fun _ => .pure _
      refine (returned_produceAll hk c hs fun id hid => ?_).1
      exact ⟨(mem_selected hid).1, by rw [(mem_selected hid).2]; rfl⟩
    · exact id
  | _ =>
    obtain ⟨p, hp, hframe⟩ := keeps_branch k c _ s
    rw [hp]
    intro hs id
    have hevidence := hframe .evidence (by decide)
    show (p.evidenceStatus.get? id).isSome = true → (p.custodyLog.get? id).isSome = true
    rw [hevidence.1, hevidence.2]
    exact hs id

/-- A step keeps the logs. -/
theorem logged_step {s : KernelState} (hs : Logged s.projection) (c : Command) :
    Logged (k.step s c).projection := by
  cases h : k.admit s c with
  | error r =>
    rw [(step_idle h).projection]
    exact hs
  | ok a =>
    rw [(step_effect h).projection]
    exact keepsLogged_branch hk c a.verb s.tick hs

omit hk in
/-- An update of the projection cannot raise. -/
theorem returned_modifyProjection_bind {α : Type} {f : Projection → Projection}
    {m : Unit → KernelM α} {s : KernelState} :
    returned ((modifyProjection f >>= m) s) = true ↔
      returned (m () { s with projection := f s.projection }) = true := Iff.rfl

omit hk in
/-- The branch of `verify_deadlines` returns where its reads succeed. -/
theorem returned_verifyDeadlines {s : KernelState} :
    returned (verifyDeadlines k c s) = true ↔ Completes k s.projection c .verifyDeadlines := by
  simp only [verifyDeadlines, returned_get_bind, returned_raiseIf_bind, returned_attempt_bind,
    returned_modifyProjection_bind, pure_run, returned_ok, and_true, Except.ok.injEq,
    decide_eq_false_iff_not, ne_eq, not_not, Completes]
  refine and_congr_right fun _ => ?_
  constructor
  · rintro ⟨day, hday, hagree, hactor⟩
    exact ⟨⟨day, hday, hagree⟩, hactor⟩
  · rintro ⟨⟨day, hday, hagree⟩, hactor⟩
    exact ⟨day, hday, hagree, hactor⟩

omit hk in
/-- The postures the resolution verbs know have an outcome. -/
theorem outcomeOf_ok {posture : String} (h : posture ∈ targetPostures) :
    ∃ outcome, outcomeOf posture = .ok outcome := by
  simp only [targetPostures, List.mem_cons, List.not_mem_nil, or_false] at h
  rcases h with rfl | rfl | rfl <;> exact ⟨_, rfl⟩

/-- A resolution returns on the route that has it. -/
theorem returned_resolve {v : Verb} {s : KernelState} :
    returned (resolve k v s) = true ↔ k.route.resolutionVerb = v := by
  obtain ⟨outcome, ho⟩ := outcomeOf_ok hk.targetPosture
  simp only [resolve, returned_raiseIf_bind, returned_attempt_bind,
    returned_modifyProjection_bind, pure_run, returned_ok, and_true, Except.ok.injEq,
    decide_eq_false_iff_not, ne_eq, not_not, ho, exists_eq']
  exact eq_comm

/-- The branch of `produce_discovery` returns where its reads succeed. -/
theorem returned_produceDiscovery {s : KernelState} (hs : Logged s.projection) :
    returned (produceDiscovery k c s) = true ↔ Completes k s.projection c .produceDiscovery := by
  obtain ⟨pairs, hpairs⟩ := production_ok hk fun id hid =>
    (mem_selected (p := s.projection) hid).1
  have hloop := (returned_produceAll hk c hs fun id hid =>
    ⟨(mem_selected hid).1, by rw [(mem_selected (p := s.projection) hid).2]; rfl⟩).2
  have hrest : returned ((produceAll k c (k.selected s.projection) >>= fun _ =>
      attempt (k.production (k.selected s.projection)) >>= fun production =>
        pure [("produced_artifact_ids", Json.strs (k.selected s.projection)),
          ("production_hash", Json.str (digest (.list production)))]) s) = true := by
    refine (returned_bind_of_iff (Q := True) fun _ s' => ?_).2 ⟨hloop, trivial⟩
    rw [hpairs]
    exact ⟨fun _ => trivial, fun _ => rfl⟩
  have hselected : k.selected s.projection ≠ [] ↔ Completes k s.projection c .produceDiscovery := by
    simp [Kernel.selected, Completes]
  simp only [produceDiscovery, returned_get_bind, returned_raiseIf_bind, Except.ok.injEq,
    decide_eq_false_iff_not]
  exact (and_iff_left hrest).trans hselected

omit hk in
/-- A branch that reads an amount and makes a call of the ledger with it. -/
theorem returned_billing (x : Except PyError Decimal)
    (call : Decimal → FinanceLedger.Call Decimal) {rest : Decimal → Unit → KernelM Updates}
    {Q : Prop} (hrest : ∀ d u s', returned (rest d u s') = true ↔ Q) {s : KernelState} :
    returned ((attempt x >>= fun d => withFinance (call d).method >>= rest d) s) = true ↔
      (∃ made, (do return some (call (← x))) = Except.ok (some made) ∧
        made.Completes s.projection.finance) ∧ Q := by
  have hread : (∃ made, (do return some (call (← x))) = Except.ok (some made) ∧
      made.Completes s.projection.finance) ↔
      ∃ d, x = .ok d ∧ (call d).Completes s.projection.finance := by
    cases x <;> simp
  rw [hread, returned_attempt_bind, ← exists_and_right]
  refine exists_congr fun d => ?_
  rw [returned_bind_of_iff (hrest d), withFinance, returned_zoom, FinanceLedger.returned_method,
    and_assoc]

omit hk in
/-- A billing branch that reports a balance after its call. -/
theorem returned_billing_report (x : Except PyError Decimal)
    (call : Decimal → FinanceLedger.Call Decimal) (report : KernelState → Updates)
    {s : KernelState} :
    returned ((attempt x >>= fun d => withFinance (call d).method >>= fun _ =>
        get >>= fun s => pure (report s)) s) = true ↔
      ∃ made, (do return some (call (← x))) = Except.ok (some made) ∧
        made.Completes s.projection.finance :=
  (returned_billing x call (Q := True) fun _ _ _ => ⟨fun _ => trivial, fun _ => rfl⟩).trans
    (and_iff_left trivial)

omit hk in
/-- The branch of `submit_invoice` returns where the ledger does. -/
theorem returned_submitInvoice {s : KernelState} :
    returned (submitInvoice s) = true ↔ Completes k s.projection c .submitInvoice := by
  have hcall : Completes k s.projection c .submitInvoice ↔
      (FinanceLedger.Call.submit : FinanceLedger.Call Decimal).Completes s.projection.finance := by
    simp [Completes, Command.ledgerCall]
  have hrest (amount : Decimal) (s' : KernelState) : returned ((get >>= fun s : KernelState =>
      (pure [("submitted_amount", Json.str amount.toText),
        ("time_entry_count", Json.int s.projection.timeEntries.length)] : KernelM Updates)) s') =
      true ↔ True := ⟨fun _ => trivial, fun _ => rfl⟩
  rw [hcall, submitInvoice, returned_bind_of_iff hrest, withFinance, returned_zoom,
    FinanceLedger.returned_submit, and_true]

omit hk in
/-- The branch of `close_matter` returns where its reads succeed. -/
theorem returned_closeMatter {s : KernelState} :
    returned (closeMatter s) = true ↔ Completes k s.projection c .closeMatter := by
  have herrors : (s.projection.finance.invariantErrors.map fun errors => decide (errors ≠ [])) =
      .ok false ↔ s.projection.finance.invariantErrors = .ok [] := by
    cases s.projection.finance.invariantErrors <;> simp [Except.map]
  simp only [closeMatter, returned_get_bind, returned_raiseIf_bind,
    returned_modifyProjection_bind, pure_run, returned_ok, and_true, Except.ok.injEq,
    decide_eq_false_iff_not, ne_eq, not_not, Finset.sdiff_eq_empty_iff_subset, Completes]
  exact and_congr_right fun _ => by simpa using herrors

omit hk in
/-- The branch of `finalize_closeout` returns where its reads succeed. -/
theorem returned_finalizeCloseout {s : KernelState} :
    returned (finalizeCloseout s) = true ↔ Completes k s.projection c .finalizeCloseout := by
  simp only [finalizeCloseout, returned_get_bind, returned_raiseIf_bind, returned_attempt_bind,
    returned_modifyProjection_bind, pure_run, returned_ok, and_true, Except.ok.injEq,
    decide_eq_false_iff_not, ne_eq, Completes]

/-- **When a branch returns and its grants can be read**, for artifacts that are logged. -/
theorem returned_branch {v : Verb} {s : KernelState} (hs : Logged s.projection) :
    (returned (branch k c v s) = true ∧ ∃ gs, grantsOf c v = .ok gs) ↔
      Completes k s.projection c v := by
  have hgrants (hv : v ≠ .recordLawyerGate) : ∃ gs, grantsOf c v = .ok gs := by
    cases v with
    | recordLawyerGate => exact absurd rfl hv
    | _ => exact ⟨_, rfl⟩
  cases v with
  | recordLawyerGate =>
    have hread : (∃ gs, grantsOf c .recordLawyerGate = .ok gs) ↔
        ∃ token, c.text "grants" = .ok token := by
      unfold grantsOf
      cases c.text "grants" <;> simp
    rw [hread]
    simp only [branch, recordLawyerGate, returned_get_bind, returned_raiseIf_bind,
      returned_attempt_bind, returned_modifyProjection_bind, pure_run, returned_ok, and_true,
      Except.ok.injEq, decide_eq_false_iff_not, not_not, Completes]
  | receiveReferral => exact ⟨fun _ => trivial, fun _ => ⟨rfl, hgrants (by decide)⟩⟩
  | submitConflictResult => exact ⟨fun _ => trivial, fun _ => ⟨rfl, hgrants (by decide)⟩⟩
  | openMatter =>
    refine (and_iff_left (hgrants (by decide))).trans ?_
    simp only [branch, openMatter, returned_get_bind, returned_raiseIf_bind,
      returned_modifyProjection_bind, pure_run, returned_ok, and_true, Except.ok.injEq,
      decide_eq_false_iff_not, ne_eq, not_not, Completes]
  | calculateDeadlines =>
    refine (and_iff_left (hgrants (by decide))).trans ?_
    simp only [branch, calculateDeadlines, returned_attempt_bind, returned_modifyProjection_bind,
      pure_run, returned_ok, and_true, Completes]
  | verifyDeadlines => exact (and_iff_left (hgrants (by decide))).trans returned_verifyDeadlines
  | issuePreservation =>
    refine ⟨fun _ => trivial, fun _ => ⟨?_, hgrants (by decide)⟩⟩
    exact returned_bind_pure.2 (returned_preserveAll (custodied_inventory hk) hs).2
  | collectEvidence =>
    refine (and_iff_left (hgrants (by decide))).trans (returned_bind_pure.trans ?_)
    exact (returned_collectAll (nodup_inventory hk) hs).2
  | reviewEvidence =>
    refine (and_iff_left (hgrants (by decide))).trans ?_
    have hloop := (returned_reviewAll c (nodup_inventory hk) (custodied_inventory hk) [] ∅ hs).2
    refine Iff.trans (returned_bind_of_iff fun r s' => ?_) ((and_iff_left trivial).trans hloop)
    exact ⟨fun _ => trivial, fun _ => rfl⟩
  | produceDiscovery =>
    exact (and_iff_left (hgrants (by decide))).trans (returned_produceDiscovery hk hs)
  | takeDeposition =>
    refine ⟨fun _ => trivial, fun _ => ⟨?_, hgrants (by decide)⟩⟩
    have hwitness : (buildPersonas.get? "hr_witness").isSome = true := by decide
    obtain ⟨witness, hw⟩ := Option.isSome_iff_exists.1 hwitness
    refine returned_attempt_bind.2 ⟨witness, ?_, rfl⟩
    rw [PyDict.getItem_eq_ok, hk.actors, hw]
  | retainExpert => exact ⟨fun _ => trivial, fun _ => ⟨rfl, hgrants (by decide)⟩⟩
  | settleCase => exact (and_iff_left (hgrants (by decide))).trans (returned_resolve hk)
  | mediateToImpasse => exact (and_iff_left (hgrants (by decide))).trans (returned_resolve hk)
  | resolveDispositive => exact (and_iff_left (hgrants (by decide))).trans (returned_resolve hk)
  | tryAndAppeal => exact (and_iff_left (hgrants (by decide))).trans (returned_resolve hk)
  | recordTime =>
    refine (and_iff_left (hgrants (by decide))).trans ?_
    refine returned_billing (c.amount "amount") .record fun d _ s' => ?_
    simp only [returned_attempt_bind, returned_modifyProjection_bind, pure_run, returned_ok,
      and_true, exists_and_right]
  | submitInvoice => exact (and_iff_left (hgrants (by decide))).trans returned_submitInvoice
  | carrierAudit =>
    refine (and_iff_left (hgrants (by decide))).trans ?_
    exact returned_billing_report (c.amount "reduction") .audit _
  | appealReduction =>
    refine (and_iff_left (hgrants (by decide))).trans ?_
    exact returned_billing_report (c.amount "recovered") .appeal _
  | applyPayment =>
    refine (and_iff_left (hgrants (by decide))).trans ?_
    exact returned_billing_report (c.amount "cash") .applyPayment _
  | finalizeCloseout => exact (and_iff_left (hgrants (by decide))).trans returned_finalizeCloseout
  | closeMatter => exact (and_iff_left (hgrants (by decide))).trans returned_closeMatter
  | readOracle =>
    constructor
    · intro h; cases h.1
    · intro h; exact h.elim

/-- In every run the artifacts that have a status are logged, and every actor has its tokens. -/
theorem logged_run (cs : List Command) :
    Logged (k.run cs).projection ∧ AllSeated k (k.run cs) := by
  have h0 : Logged k.initial.projection := by
    intro id h
    simp [Kernel.initial] at h
  exact Machine.run_invariant (I := fun s => Logged s.projection ∧ AllSeated k s)
    (fun _ c h => ⟨logged_step hk h.1 c, h.2.step⟩) ⟨h0, allSeated_initial k⟩ cs

end

/-! ## A gate without a token to grant -/

/-- The gate that releases the hold of the workflow's conflict result, without the token that it
should grant. -/
def gateWithoutToken : Command where
  commandId := "CMD-003-record_lawyer_gate"
  verb := Verb.recordLawyerGate.name
  actorId := "responsible_lawyer"
  roleId := "lawyer"
  matterId := alphaKernel.bundle.matter.matterId
  payload := .ofEntries [("gate", .str "affected_client_consent")]
  requiresAuthority := ["lawyer_conflict_determination"]
  requiresKnowledge := ["conflict_result"]

end LawFirmDigitalTwin
