import LawFirmDigitalTwin.Kernel.Branches
import LawFirmDigitalTwin.Kernel.Workflow

/-!
# The human gate before opening

A conflict result places a hold, a lawyer's gate releases it, and `open_matter` refuses to open
while anything is held. The release comes before the last reads of `record_lawyer_gate`, and the
effects of a transition come before its event: a gate or a conflict result that raises in between
has taken effect without an event. `GateCompletes` excludes these calls, and `human_gate` shows that
then every opening has its gate on record; `opens_without_gate` is a run in which one such call
opens a matter.
-/

namespace LawFirmDigitalTwin

open Raising

/-- Every opening follows a conflict result, and a lawyer's gate follows the last of these. -/
def HumanGate (events : List Event) : Prop :=
  ∀ pre e post, events = pre ++ e :: post → Accepted .openMatter e →
    Trace.Answered (Accepted .submitConflictResult) (Accepted .recordLawyerGate) pre

/-- A conflict result, and a gate that releases a pending hold, do not raise after they took effect:
the payload can be written as JSON, and the token that the gate grants can be read from it. -/
def GateCompletes (k : Kernel) (s : KernelState) (c : Command) : Prop :=
  ∀ a, k.admit s c = .ok a →
    (a.verb = .submitConflictResult → c.payload.Writable) ∧
      (a.verb = .recordLawyerGate → ∀ gate, c.text "gate" = .ok gate →
        gate ∈ s.projection.authorityHolds →
        (∃ token, c.text "grants" = .ok token) ∧ c.payload.Writable)

/-- What ties the holds and the lawyer's authority to the events. -/
structure GateInvariant (s : KernelState) : Prop where
  held : s.projection.authorityHolds ≠ ∅ → Happened .submitConflictResult s
  authority : "matter_opening" ∈ tokens s.authority "responsible_lawyer" →
    Happened .submitConflictResult s
  pending : Trace.Pending (Accepted .submitConflictResult) (Accepted .recordLawyerGate) s.events →
    s.projection.authorityHolds ≠ ∅
  gated : HumanGate s.events

section
variable {k : Kernel} {s : KernelState} {c : Command}

/-- One more event keeps the gate, where it opens the matter only once the gate has answered. -/
theorem humanGate_concat {events : List Event} {e : Event} (h : HumanGate events)
    (he : Accepted .openMatter e →
      Trace.Answered (Accepted .submitConflictResult) (Accepted .recordLawyerGate) events) :
    HumanGate (events ++ [e]) := by
  intro pre x post hsplit hx
  rcases Trace.split_concat hsplit with ⟨rfl, rfl, rfl⟩ | ⟨post', rfl, h'⟩
  · exact he hx
  · exact h pre x post' h' hx

/-- Only the gate grants the lawyer the authority to open. -/
theorem matterOpening_granted {v : Verb} {gs : List Grant} (h : grantsOf c v = .ok gs) :
    ∀ g ∈ gs, g.actorId = "responsible_lawyer" → "matter_opening" ∈ g.authority →
      v = .recordLawyerGate := by
  cases v with
  | recordLawyerGate => exact fun _ _ _ _ => rfl
  | _ =>
    cases h
    decide

/-- A call that leaves the holds, gives the lawyer no authority to open and appends no conflict
result keeps the invariant, if the opening it may append is answered. -/
theorem GateInvariant.quiet (hi : GateInvariant s)
    (hholds : (k.step s c).projection.authorityHolds = s.projection.authorityHolds)
    (hauth : "matter_opening" ∈ tokens (k.step s c).authority "responsible_lawyer" →
      "matter_opening" ∈ tokens s.authority "responsible_lawyer")
    (hevents : (k.step s c).events = s.events ∨ ∃ e, (k.step s c).events = s.events ++ [e] ∧
      ¬ Accepted .submitConflictResult e ∧ (Accepted .openMatter e →
        Trace.Answered (Accepted .submitConflictResult) (Accepted .recordLawyerGate) s.events)) :
    GateInvariant (k.step s c) := by
  refine ⟨fun h => ?_, fun h => (hi.authority (hauth h)).step, fun h => ?_, ?_⟩
  · rw [hholds] at h
    exact (hi.held h).step
  · rw [hholds]
    rcases hevents with he | ⟨e, he, hno, -⟩
    · rw [he] at h
      exact hi.pending h
    · rw [he] at h
      rcases Trace.pending_concat.1 h with h | ⟨h, -⟩
      · exact absurd h hno
      · exact hi.pending h
  · rcases hevents with he | ⟨e, he, -, hopen⟩
    · rw [he]
      exact hi.gated
    · rw [he]
      exact humanGate_concat hi.gated hopen

/-- What a call of another verb than the gate's adds to the lawyer's authority. -/
theorem matterOpening_step {a : Admission} (h : k.admit s c = .ok a)
    (hg : a.verb = .recordLawyerGate → returned (branch k c a.verb s.tick) = false)
    (ht : "matter_opening" ∈ tokens (k.step s c).authority "responsible_lawyer") :
    "matter_opening" ∈ tokens s.authority "responsible_lawyer" := by
  obtain ⟨gs, hgs, hA, -⟩ := (step_effect h).tokens
  rcases hA.gained _ _ ht with ht | ⟨g, hmem, hactor, ht⟩
  · exact ht
  · rcases hgs with rfl | ⟨hb, hgs⟩
    · cases hmem
    · rw [hg (matterOpening_granted hgs g hmem hactor ht)] at hb
      cases hb

end

section
variable {k : Kernel} {s : KernelState} {c : Command} (hk : k.bundle.Employment)

include hk

/-- In the beginning there is no hold and nobody may open the matter. -/
theorem gateInvariant_initial : GateInvariant k.initial := by
  refine ⟨fun h => absurd rfl h, fun h => ?_, fun h => absurd h Trace.not_pending_nil, ?_⟩
  · have hno : ∀ e ∈ personaEntries, "matter_opening" ∉ e.2.initialAuthority := by decide
    obtain ⟨e, he, -, ht⟩ := initial_authority hk h
    exact absurd ht (hno e he)
  · intro pre e post h
    exact absurd (congrArg List.length h) (by simp [Kernel.initial])

/-- A conflict result that does not raise places a hold and is on record. -/
theorem GateInvariant.step_conflict (hi : GateInvariant s) (hs : AllSeated k s) {a : Admission}
    (h : k.admit s c = .ok a) (hv : a.verb = .submitConflictResult) (hw : c.payload.Writable) :
    GateInvariant (k.step s c) := by
  have hr : returned (k.submit c s) = true :=
    (returned_submit_employment hk hs h).2
      ⟨by rw [hv]; rfl, ⟨_, by rw [hv]; rfl⟩, hw, by rw [hv]; trivial⟩
  have hhappened : Happened .submitConflictResult (k.step s c) :=
    hv ▸ happened_of_returned h hr
  have hholds : (k.step s c).projection.authorityHolds ≠ ∅ := by
    rw [(step_effect h).projection, hv]
    exact Finset.insert_ne_empty _ _
  refine ⟨fun _ => hhappened, fun _ => hhappened, fun _ => hholds, ?_⟩
  obtain ⟨e, he, hevents⟩ := step_accepted h hr
  rw [hevents]
  refine humanGate_concat hi.gated fun hopen => ?_
  have heq : a.verb = .openMatter := Accepted.verb_eq he hopen
  rw [hv] at heq
  cases heq

/-- A gate that does not raise after its release is on record. -/
theorem GateInvariant.step_gate (hi : GateInvariant s) (hs : AllSeated k s) {a : Admission}
    (h : k.admit s c = .ok a) (hv : a.verb = .recordLawyerGate) {gate : String}
    (hheld : gate ∈ s.projection.authorityHolds)
    (hb : returned (branch k c a.verb s.tick) = true) {token : String}
    (ht : c.text "grants" = .ok token) (hw : c.payload.Writable) : GateInvariant (k.step s c) := by
  have hgs : ∃ gs, grantsOf c a.verb = .ok gs := by
    rw [hv, grantsOf, ht]
    exact ⟨_, rfl⟩
  have hr := (returned_submit_employment hk hs h).2 ⟨hb, hgs, hw, by rw [hv]; trivial⟩
  have hhappened : Happened .submitConflictResult s :=
    hi.held (Finset.ne_empty_of_mem hheld)
  obtain ⟨e, he, hevents⟩ := step_accepted h hr
  have hnot (v : Verb) (hne : v ≠ .recordLawyerGate) : ¬ Accepted v e := by
    intro hve
    exact hne ((hve.verb_eq he).trans hv)
  refine ⟨fun _ => hhappened.step, fun _ => hhappened.step, fun hp => ?_, ?_⟩
  · rw [hevents] at hp
    rcases Trace.pending_concat.1 hp with hp | ⟨-, hp⟩
    · exact absurd hp (hnot _ (by decide))
    · exact absurd (hv ▸ he) hp
  · rw [hevents]
    exact humanGate_concat hi.gated fun hopen => absurd hopen (hnot _ (by decide))

/-- An opening that is accepted finds the last conflict result answered. -/
theorem GateInvariant.answered (hi : GateInvariant s) {a : Admission} (h : k.admit s c = .ok a)
    (hv : a.verb = .openMatter) (hr : returned (k.submit c s) = true) :
    Trace.Answered (Accepted .submitConflictResult) (Accepted .recordLawyerGate) s.events := by
  have hadm := admit_ok h
  rw [hv] at hadm
  have hlawyer : ∀ e ∈ personaEntries, e.2.roleId ∈ (verbPolicy .openMatter).roles →
      e.1 = "responsible_lawyer" := by decide
  obtain ⟨e, he, hid, hrole⟩ := hadm.persona hk
  have hauth := hadm.authority "matter_opening" (by decide)
  rw [← hid, hlawyer e he hrole] at hauth
  refine Trace.answered_of_not_pending (hi.authority hauth) fun hp => hi.pending hp ?_
  have hb := ((returned_submit_iff h).1 hr).1
  rw [hv] at hb
  rcases openMatter_cases s.tick with ⟨e, he, -⟩ | ⟨hheld, -⟩
  · rw [branch, he] at hb
    cases hb
  · exact hheld

/-- One call that completes its gate keeps the invariant. -/
theorem GateInvariant.step (hi : GateInvariant s) (hs : AllSeated k s)
    (hc : GateCompletes k s c) : GateInvariant (k.step s c) := by
  cases h : k.admit s c with
  | error r =>
    have hidle := step_idle h
    exact hi.quiet (by rw [hidle.projection]) (by rw [hidle.authority]; exact id)
      (.inl hidle.events)
  | ok a =>
    by_cases hconflict : a.verb = .submitConflictResult
    · exact hi.step_conflict hk hs h hconflict ((hc a h).1 hconflict)
    by_cases hgate : a.verb = .recordLawyerGate
    · rcases recordLawyerGate_cases c s.tick with ⟨e, he, hno⟩ | ⟨gate, hg, hheld, hok⟩
      · -- no hold is released: the branch raised before it changed anything
        have hb : returned (branch k c a.verb s.tick) = false := by rw [hgate, branch, he]; rfl
        refine hi.quiet ?_ (matterOpening_step h fun _ => hb) (.inl (step_rejected ?_))
        · rw [(step_effect h).projection, hgate, branch, he]
          rfl
        · cases hr : returned (k.submit c s) with
          | false => rfl
          | true => rw [((returned_submit_iff h).1 hr).1] at hb; cases hb
      · obtain ⟨⟨token, ht⟩, hw⟩ := (hc a h).2 hgate gate hg hheld
        exact hi.step_gate hk hs h hgate hheld (by rw [hgate, branch, hok]; rfl) ht hw
    · have hw : Part.authorityHolds ∉ writes a.verb := by
        revert hconflict hgate
        cases a.verb <;> decide
      refine hi.quiet ((step_effect h).frame .authorityHolds hw)
        (matterOpening_step h fun hv => absurd hv hgate) ?_
      rcases step_events k s c with ⟨-, he⟩ | ⟨a', e, ha, hr, he, hevents⟩
      · exact .inl he
      · rw [h] at ha
        cases ha
        refine .inr ⟨e, hevents, fun hce => hconflict (he.verb_eq hce), fun hoe => ?_⟩
        exact hi.answered hk h (he.verb_eq hoe) hr

/-- **Human-gate safety.** Over a built bundle, in every run whose conflict results and gates
complete once they took effect, every opening is preceded by a conflict result, and a lawyer's gate
was accepted between the last conflict result and the opening. -/
theorem human_gate {cs : List Command}
    (hc : Machine.AllSteps k.step (GateCompletes k) k.initial cs) :
    HumanGate (k.run cs).events := by
  have hinv : AllSeated k (k.run cs) ∧ GateInvariant (k.run cs) := by
    refine Machine.run_invariant_of (I := fun s => AllSeated k s ∧ GateInvariant s)
      (fun s c hI hstep => ⟨hI.1.step, hI.2.step hk hI.1 hstep⟩)
      ⟨allSeated_initial k, gateInvariant_initial hk⟩ hc
  exact hinv.2.gated

end

/-- A call completes its gate when its payload can be written as JSON and, for a gate, the token to
grant can be read from it. -/
theorem gateCompletes_of_writable {k : Kernel} {s : KernelState} {c : Command}
    (hw : c.payload.Writable)
    (hg : c.verb = Verb.recordLawyerGate.name → (c.text "grants").isOk = true) :
    GateCompletes k s c := by
  refine fun a h => ⟨fun _ => hw, fun hv gate _ _ => ⟨?_, hw⟩⟩
  have hname := Verb.name_of_ofName? (admit_ok h).verb
  have hok := hg (by rw [← hname, hv])
  cases ht : c.text "grants" with
  | error e => rw [ht] at hok; cases hok
  | ok token => exact ⟨token, rfl⟩

/-- The scripted workflow keeps the human gate. -/
theorem human_gate_alpha : HumanGate (alphaKernel.run alphaWorkflow).events := by
  have hgrants : ∀ c ∈ alphaWorkflow, c.verb = Verb.recordLawyerGate.name →
      (c.text "grants").isOk = true := by
    decide +kernel
  refine human_gate alphaKernel_employment (.of_forall_mem (fun c hc s => ?_) _)
  exact gateCompletes_of_writable (alphaWorkflow_writable c hc).1 (hgrants c hc)

/-- The first three commands of the workflow, a second conflict result, a gate without the token to
grant, and the opening. -/
def ungatedOpening : List Command :=
  alphaWorkflow.take 3 ++ (alphaWorkflow.drop 1).take 1 ++
    ((alphaWorkflow.drop 2).take 1).map (fun c =>
      { c with payload := .ofEntries [("gate", .str "affected_client_consent")] }) ++
    (alphaWorkflow.drop 3).take 1

/-- The gate without a token raises after it released the second hold, and the matter opens with no
gate on record for the second conflict result. -/
theorem opens_without_gate :
    ¬ ∀ (k : Kernel) (cs : List Command), k.bundle.Employment →
      HumanGate (k.run cs).events := by
  intro h
  have hrun := h alphaKernel ungatedOpening alphaKernel_employment
  have hlast : (alphaKernel.run ungatedOpening).events.getLast?.map (·.eventType) =
      some Verb.openMatter.acceptedType := by decide +kernel
  have hprev : (alphaKernel.run ungatedOpening).events.dropLast.getLast?.map (·.eventType) =
      some Verb.submitConflictResult.acceptedType := by decide +kernel
  obtain ⟨e, he, hopen⟩ := Option.map_eq_some_iff.1 hlast
  obtain ⟨e', he', hconflict⟩ := Option.map_eq_some_iff.1 hprev
  refine Trace.not_answered_of_getLast? he' hconflict (hrun _ e [] ?_ hopen)
  exact (List.dropLast_append_getLast? e he).symm

end LawFirmDigitalTwin
