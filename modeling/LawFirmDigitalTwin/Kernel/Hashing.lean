import LawFirmDigitalTwin.Kernel.Submit

/-!
# The hashes of an event

`json.dumps` raises on an integer of more than 4300 digits, wherever it stands in the payload of a
command or in what the branch adds to it: the deadlines of a calculation or a verification, the
number of time entries of an invoice. By then the branch and its grants have taken effect.
`Hashable` says of a command, before its call, that the hashes of its event can be computed.
-/

namespace LawFirmDigitalTwin

open Raising

/-- Every value that updates leave in a payload can be written. -/
def Updates.Writable (u : Updates) : Prop :=
  ∀ key j, (PyDict.ofEntries u).get? key = some j → j.writable = true

/-- The deadlines of the filing day of a command can be written. -/
def Kernel.WritesDeadlines (k : Kernel) (c : Command) : Prop :=
  ∀ day, c.filedDay = .ok day →
    ((calculateDeadlinesPrimary k.bundle.matter.rulePack day).toJson .int).writable = true

instance (k : Kernel) (c : Command) : Decidable (k.WritesDeadlines c) :=
  match h : c.filedDay with
  | .ok day => decidable_of_iff
      (((calculateDeadlinesPrimary k.bundle.matter.rulePack day).toJson .int).writable = true)
      ⟨fun hw day' hday' => by cases h.symm.trans hday'; exact hw, fun hw => hw day h⟩
  | .error e => .isTrue fun day hday => by cases h.symm.trans hday

/-- What the branch of a command adds to its payload can be written. -/
def Kernel.WritesUpdates (k : Kernel) (p : Projection) (c : Command) : Verb → Prop
  | .calculateDeadlines | .verifyDeadlines => k.WritesDeadlines c
  | .submitInvoice => writableInt p.timeEntries.length = true
  | _ => True

/-- `json.dumps` raises neither on the payload of a command nor on what its branch adds. -/
def Kernel.Hashable (k : Kernel) (p : Projection) (c : Command) (v : Verb) : Prop :=
  c.payload.Writable ∧ k.WritesUpdates p c v

/-- The payload of a command, and the deadlines that it leads to, can be written. -/
def Command.WritableFor (k : Kernel) (c : Command) : Prop :=
  c.payload.Writable ∧
    (c.verb = Verb.calculateDeadlines.name ∨ c.verb = Verb.verifyDeadlines.name →
      k.WritesDeadlines c)

instance (k : Kernel) (c : Command) : Decidable (c.WritableFor k) :=
  inferInstanceAs (Decidable (_ ∧ _))

/-- Apart from the number that an invoice adds, that is all that can be too long. -/
theorem Command.WritableFor.hashable {k : Kernel} {c : Command} (h : c.WritableFor k) {v : Verb}
    (hname : v.name = c.verb) (hv : v ≠ .submitInvoice) (p : Projection) : k.Hashable p c v := by
  refine ⟨h.1, ?_⟩
  cases v with
  | submitInvoice => exact absurd rfl hv
  | calculateDeadlines => exact h.2 (.inl hname.symm)
  | verifyDeadlines => exact h.2 (.inr hname.symm)
  | _ => trivial

/-! ## The updates of the branches -/

/-- Updates whose values can be written can be written. -/
theorem updates_writable_of_forall {u : Updates} (h : ∀ e ∈ u, e.2.writable = true) :
    Updates.Writable u :=
  fun key j hj => h (key, j) (PyDict.mem_of_get?_ofEntries hj)

/-- Under distinct keys all updates are left in the payload. -/
theorem updates_writable_iff {u : Updates} (hnodup : (u.map (·.1)).Nodup) :
    Updates.Writable u ↔ ∀ e ∈ u, e.2.writable = true :=
  ⟨fun h e he => h e.1 e.2 (PyDict.get?_ofEntries_of_mem hnodup he), updates_writable_of_forall⟩

/-- The resolution of a matter adds texts. -/
theorem yields_resolve (k : Kernel) (v : Verb) : Yields Updates.Writable (resolve k v) := by
  refine .bind fun _ => .bind fun _ => .bind fun outcome => .bind fun _ => .pure ?_
  refine updates_writable_of_forall ?_
  simp

/-- What the branches add that neither derive deadlines nor count. -/
theorem yields_branch (k : Kernel) (c : Command) {v : Verb} (hcalculate : v ≠ .calculateDeadlines)
    (hverify : v ≠ .verifyDeadlines) (hsubmit : v ≠ .submitInvoice) :
    Yields Updates.Writable (branch k c v) := by
  have hempty : Updates.Writable [] := updates_writable_of_forall nofun
  have htext (key text : String) : Updates.Writable [(key, .str text)] :=
    updates_writable_of_forall (by simp)
  cases v with
  | calculateDeadlines => exact absurd rfl hcalculate
  | verifyDeadlines => exact absurd rfl hverify
  | submitInvoice => exact absurd rfl hsubmit
  | receiveReferral | submitConflictResult | issuePreservation | collectEvidence =>
    exact .bind fun _ => .pure hempty
  | recordLawyerGate =>
    exact .bind fun _ => .bind fun _ => .bind fun _ => .bind fun _ => .pure hempty
  | openMatter => exact .bind fun _ => .bind fun _ => .bind fun _ => .pure hempty
  | reviewEvidence =>
    refine .bind fun _ => .bind fun _ => .pure (updates_writable_of_forall ?_)
    simp
  | produceDiscovery =>
    refine .bind fun _ => .bind fun _ => .bind fun _ => .bind fun _ => .pure ?_
    refine updates_writable_of_forall ?_
    simp
  | takeDeposition | retainExpert => exact .bind fun _ => .bind fun _ => .pure hempty
  | settleCase => exact yields_resolve k _
  | mediateToImpasse => exact yields_resolve k _
  | resolveDispositive => exact yields_resolve k _
  | tryAndAppeal => exact yields_resolve k _
  | recordTime =>
    exact .bind fun _ => .bind fun _ => .bind fun _ => .bind fun _ => .bind fun _ =>
      .pure (htext _ _)
  | carrierAudit | appealReduction | applyPayment =>
    exact .bind fun _ => .bind fun _ => .bind fun _ => .pure (htext _ _)
  | finalizeCloseout =>
    exact .bind fun _ => .bind fun _ => .bind fun _ => .bind fun _ => .bind fun _ =>
      .bind fun _ => .pure hempty
  | closeMatter => exact .bind fun _ => .bind fun _ => .bind fun _ => .bind fun _ => .pure hempty
  | readOracle => exact .throw _

section
variable {k : Kernel} {c : Command} {s s' : KernelState} {u : Updates}

/-- A calculation adds the deadlines of its filing day. -/
theorem writable_calculateDeadlines (h : calculateDeadlines k c s = .ok u s') :
    Updates.Writable u ↔ k.WritesUpdates s.projection c .calculateDeadlines := by
  obtain ⟨day, s₁, hday, h⟩ := bind_eq_ok.1 h
  cases hd : c.filedDay with
  | error e => rw [hd] at hday; cases hday
  | ok day' =>
    rw [hd] at hday
    cases hday
    cases h
    rw [updates_writable_iff (by simp)]
    simp [Kernel.WritesUpdates, Kernel.WritesDeadlines, hd]

/-- So does a verification. -/
theorem writable_verifyDeadlines (h : verifyDeadlines k c s = .ok u s') :
    Updates.Writable u ↔ k.WritesUpdates s.projection c .verifyDeadlines := by
  obtain ⟨_, s₁, -, h⟩ := bind_eq_ok.1 h
  obtain ⟨_, s₂, -, h⟩ := bind_eq_ok.1 h
  obtain ⟨day, s₃, hday, h⟩ := bind_eq_ok.1 h
  cases hd : c.filedDay with
  | error e => rw [hd] at hday; cases hday
  | ok day' =>
    rw [hd] at hday
    cases hday
    obtain ⟨_, s₄, -, h⟩ := bind_eq_ok.1 h
    obtain ⟨_, s₅, -, h⟩ := bind_eq_ok.1 h
    cases h
    rw [updates_writable_iff (by simp)]
    simp [Kernel.WritesUpdates, Kernel.WritesDeadlines, hd, calculateDeadlines_agree]

/-- An invoice adds the number of the time entries. -/
theorem writable_submitInvoice (h : submitInvoice s = .ok u s') :
    Updates.Writable u ↔ k.WritesUpdates s.projection c .submitInvoice := by
  obtain ⟨amount, s₁, hamount, h⟩ := bind_eq_ok.1 h
  obtain ⟨finance, -, rfl⟩ := zoom_eq_ok.1 hamount
  cases h
  rw [updates_writable_iff (by simp)]
  simp [Kernel.WritesUpdates]

/-- **What a branch adds to the payload can be written** under the condition on its command. -/
theorem writable_branch {v : Verb} (h : branch k c v s = .ok u s') :
    Updates.Writable u ↔ k.WritesUpdates s.projection c v := by
  by_cases hcalculate : v = .calculateDeadlines
  · rw [hcalculate] at h ⊢
    exact writable_calculateDeadlines h
  by_cases hverify : v = .verifyDeadlines
  · rw [hverify] at h ⊢
    exact writable_verifyDeadlines h
  by_cases hsubmit : v = .submitInvoice
  · rw [hsubmit] at h ⊢
    exact writable_submitInvoice h
  refine iff_of_true (yields_branch k c hcalculate hverify hsubmit s u s' h) ?_
  cases v with
  | calculateDeadlines => exact absurd rfl hcalculate
  | verifyDeadlines => exact absurd rfl hverify
  | submitInvoice => exact absurd rfl hsubmit
  | _ => trivial

end

/-! ## When the hashes can be computed -/

/-- A command can be hashed exactly when its payload can be written. -/
theorem hash_command_iff {c : Command} :
    (∃ hash, (do digestOf (← c.toJson)) = .ok hash) ↔ c.payload.Writable := by
  unfold Command.toJson PyDict.canonical
  cases hjs : canonicalEntries c.payload.entries with
  | error e =>
    refine iff_of_false (by simp [Except.map]) fun hw => ?_
    obtain ⟨js, hok⟩ := c.payload.canonicalEntries_ok_iff.2 hw.isJson
    cases hjs.symm.trans hok
  | ok js =>
    rw [← PyDict.writable_canonicalEntries hjs]
    simp [Except.map, digestOf_ok_iff]

/-- A payload with updates can be written exactly when the updates can, if the payload can. -/
theorem writable_updated {d : PyDict Json} {u : Updates}
    (hd : ∀ key j, d.get? key = some j → j.writable = true) :
    ((u.foldl (fun d e => d.set e.1 e.2) d).toJson id).writable = true ↔ Updates.Writable u := by
  rw [PyDict.writable_toJson]
  constructor
  · intro h key j hj
    refine h key j ?_
    rw [PyDict.get?_foldl_set, hj]
    rfl
  · intro h key j hj
    rw [PyDict.get?_foldl_set] at hj
    rcases Option.or_eq_some_iff.1 hj with hj | ⟨-, hj⟩
    · exact h key j hj
    · exact hd key j hj

section
variable {k : Kernel} {s : KernelState} {c : Command} {a : Admission} {u : Updates}

/-- **When the event of a command exists**: its actor has an entry, and the payload and what the
branch adds to it can be written. -/
theorem event_ok_iff :
    (∃ event, k.event c a u s = .ok event) ↔
      (s.knowledge.get? c.actorId).isSome = true ∧ c.payload.Writable ∧ Updates.Writable u := by
  unfold Kernel.event PyDict.getItem
  cases s.knowledge.get? c.actorId with
  | none => simp
  | some knowledge =>
    by_cases hw : c.payload.Writable
    · obtain ⟨hash, hhash⟩ := hash_command_iff.2 hw
      obtain ⟨js, hjs⟩ := c.payload.canonicalEntries_ok_iff.2 hw.isJson
      have hcanonical := (PyDict.writable_canonicalEntries hjs).2 hw
      obtain ⟨input, hinput, hhash⟩ := except_bind_eq_ok.1 hhash
      have hpayload := @writable_updated (PyDict.ofEntries js) u fun key j hj =>
        hcanonical (key, j) (PyDict.mem_of_get?_ofEntries hj)
      simp only [ok_bind, hinput, hhash, hjs, hw, ← hpayload, true_and, Option.isSome_some]
      unfold digestOf
      split <;> simp_all
    · have hno := mt hash_command_iff.1 hw
      simp only [hw, false_and, and_false, iff_false]
      rintro ⟨event, hevent⟩
      obtain ⟨_, -, hevent⟩ := except_bind_eq_ok.1 hevent
      obtain ⟨input, hinput, hevent⟩ := except_bind_eq_ok.1 hevent
      obtain ⟨hash, hhash, -⟩ := except_bind_eq_ok.1 hevent
      exact hno ⟨hash, by rw [hinput]; exact hhash⟩

/-- Over a payload of JSON values nothing is raised but on an integer that is too long. -/
theorem event_error_of_isJson (hactor : (s.knowledge.get? c.actorId).isSome = true)
    (hjson : c.payload.IsJson) {e : PyError} (h : k.event c a u s = .error e) : e = digitLimitError := by
  obtain ⟨knowledge, hk⟩ := Option.isSome_iff_exists.1 hactor
  obtain ⟨js, hjs⟩ := c.payload.canonicalEntries_ok_iff.2 hjson
  unfold Kernel.event Command.toJson PyDict.canonical PyDict.getItem digestOf at h
  rw [hk, hjs] at h
  simp only [Except.map, ok_bind, pure_eq_ok] at h
  split at h
  · rw [ok_bind] at h
    split at h
    · cases h
    · cases h
      rfl
  · cases h
    rfl

end

end LawFirmDigitalTwin
