import LawFirmDigitalTwin.Kernel.Branches
import LawFirmDigitalTwin.Kernel.Workflow

/-!
# Where tokens come from

No verb looks at the history; the order of the workflow follows from the tokens that each verb needs
and each transition grants. `earnedAuthority` and `earnedKnowledge` list the tokens that only one
verb grants to an actor who does not start with them, `Provenance` says that whoever holds one of
them was granted it by a command accepted in the past, and `workflow_precedence` reads the order of
the verbs off the policies. The authority that `record_lawyer_gate` takes from its payload goes to
the responsible lawyer only, and none of the later stages depends on that actor's authority alone.
A payload that `json.dumps` cannot write makes its call raise after the grants: `earns_unrecorded`
is a run in which such a referral lets a conflict result through with no referral on record.
-/

namespace LawFirmDigitalTwin

open Raising

/-- A token, an actor who does not start with it, and the only verb that grants it to that actor. -/
structure Earned where
  actorId : String
  token : String
  verb : Verb

def earnedAuthority : List Earned :=
  [⟨"conflicts_analyst", "conflict_search", .receiveReferral⟩,
   ⟨"responsible_lawyer", "matter_opening", .recordLawyerGate⟩,
   ⟨"litigation_paralegal", "preservation", .openMatter⟩,
   ⟨"docketing_specialist", "deadline_proposal", .openMatter⟩,
   ⟨"deadline_reviewer", "deadline_verify", .openMatter⟩,
   ⟨"billing_specialist", "billing", .openMatter⟩]

def earnedKnowledge : List Earned :=
  [⟨"responsible_lawyer", "conflict_result", .submitConflictResult⟩,
   ⟨"responsible_lawyer", "initial_record", .openMatter⟩,
   ⟨"litigation_paralegal", "initial_record", .openMatter⟩,
   ⟨"deadline_reviewer", "deadline_proposal", .calculateDeadlines⟩,
   ⟨"litigation_paralegal", "preservation_issued", .issuePreservation⟩,
   ⟨"responsible_lawyer", "collected_evidence", .collectEvidence⟩,
   ⟨"litigation_paralegal", "review_complete", .reviewEvidence⟩,
   ⟨"responsible_lawyer", "produced_evidence", .produceDiscovery⟩,
   ⟨"responsible_lawyer", "deposition_transcript", .takeDeposition⟩,
   ⟨"responsible_lawyer", "expert_opinion", .retainExpert⟩]

/-! ## The tables are right -/

/-- Nobody starts with a token that is to be earned. -/
theorem earned_initial : ∀ e ∈ personaEntries,
    (∀ row ∈ earnedAuthority, e.1 = row.actorId → row.token ∉ e.2.initialAuthority) ∧
      ∀ row ∈ earnedKnowledge, e.1 = row.actorId → row.token ∉ e.2.initialKnowledge := by
  decide

section
variable {c : Command} {v : Verb} {gs : List Grant}

/-- An earned authority is granted by its verb. The authority named in the payload of
`record_lawyer_gate` may be any, but its actor earns only one by that verb. -/
theorem earnedAuthority_verb (h : grantsOf c v = .ok gs) :
    ∀ g ∈ gs, ∀ row ∈ earnedAuthority, g.actorId = row.actorId → row.token ∈ g.authority →
      row.verb = v := by
  cases v with
  | recordLawyerGate =>
    simp only [grantsOf] at h
    cases ht : c.text "grants" with
    | error e => rw [ht] at h; cases h
    | ok t =>
      rw [ht] at h
      cases h
      intro g hg row hrow hactor _
      rw [List.mem_singleton.1 hg] at hactor
      have hgate : ∀ row ∈ earnedAuthority, "responsible_lawyer" = row.actorId →
          row.verb = .recordLawyerGate := by decide
      exact hgate row hrow hactor
  | _ =>
    cases h
    decide

/-- An earned piece of knowledge is granted by its verb. -/
theorem earnedKnowledge_verb (h : grantsOf c v = .ok gs) :
    ∀ g ∈ gs, ∀ row ∈ earnedKnowledge, g.actorId = row.actorId → row.token ∈ g.knowledge →
      row.verb = v := by
  cases v with
  | recordLawyerGate =>
    simp only [grantsOf] at h
    cases ht : c.text "grants" with
    | error e => rw [ht] at h; cases h
    | ok t =>
      rw [ht] at h
      cases h
      intro g hg row _ _ hk
      rw [List.mem_singleton.1 hg] at hk
      cases hk
  | _ =>
    cases h
    decide

end

/-! ## The invariant -/

/-- What is held or recorded was earned by an accepted command. -/
structure Provenance (k : Kernel) (s : KernelState) : Prop where
  authority : ∀ row ∈ earnedAuthority, row.token ∈ tokens s.authority row.actorId →
    Happened row.verb s
  knowledge : ∀ row ∈ earnedKnowledge, row.token ∈ tokens s.knowledge row.actorId →
    Happened row.verb s
  outcome : s.projection.resolutionOutcome ≠ none → Happened k.route.resolutionVerb s
  reconciled : .financeReconciled ∈ s.projection.closeConditions → Happened .finalizeCloseout s

/-- A call that passes the checks of `submit` has a payload, and leads to deadlines, that can be
written. -/
def AdmitsWritable (k : Kernel) (s : KernelState) (c : Command) : Prop :=
  ∀ a, k.admit s c = .ok a → c.WritableFor k

section
variable {k : Kernel} {s : KernelState} {c : Command} (hk : k.bundle.Employment)

include hk

/-- In the beginning nothing that must be earned is held. -/
theorem provenance_initial : Provenance k k.initial := by
  refine ⟨fun row hrow h => ?_, fun row hrow h => ?_, fun h => absurd rfl h, fun h => ?_⟩
  · obtain ⟨e, he, hid, ht⟩ := initial_authority hk h
    exact absurd ht ((earned_initial e he).1 row hrow hid)
  · obtain ⟨e, he, hid, ht⟩ := initial_knowledge hk h
    exact absurd ht ((earned_initial e he).2 row hrow hid)
  · cases h

/-- A grant of an admitted command with a writable payload comes with the event of its verb. -/
theorem happened_of_grants (hs : AllSeated k s) {a : Admission} (h : k.admit s c = .ok a)
    (hw : c.WritableFor k) (hv : a.verb ≠ .submitInvoice)
    (hb : returned (branch k c a.verb s.tick) = true) {gs : List Grant}
    (hg : grantsOf c a.verb = .ok gs) : Happened a.verb (k.step s c) := by
  have hname := Verb.name_of_ofName? (admit_ok h).verb
  refine happened_of_returned h ((returned_submit_employment hk hs h).2 ⟨hb, ⟨gs, hg⟩, ?_⟩)
  exact hw.hashable hname hv s.projection

/-- After an admitted call, an outcome has its resolution: it is set by the resolution verb of the
route, in a branch that then returns. -/
theorem Provenance.outcome_step (hp : Provenance k s) (hs : AllSeated k s) {a : Admission}
    (h : k.admit s c = .ok a) (hw : c.WritableFor k)
    (ho : (k.step s c).projection.resolutionOutcome ≠ none) :
    Happened k.route.resolutionVerb (k.step s c) := by
  have heff := step_effect h
  by_cases hwrites : Part.outcome ∈ writes a.verb
  · have hb : branch k c a.verb = resolve k a.verb ∧ grantsOf c a.verb = .ok [] := by
      cases hv : a.verb with
      | settleCase | mediateToImpasse | resolveDispositive | tryAndAppeal => exact ⟨rfl, rfl⟩
      | _ => rw [hv] at hwrites; exact absurd hwrites (by decide)
    rcases resolve_cases k a.verb s.tick with ⟨e, s', he, ho', -⟩ | ⟨hv, u, s', hok⟩
    · rw [heff.projection, hb.1, he] at ho
      exact (hp.outcome (ho' ▸ ho)).step
    · rw [← hv]
      refine happened_of_grants hk hs h hw (fun hsubmit => ?_) (by rw [hb.1, hok]; rfl) hb.2
      rw [hsubmit] at hwrites
      exact absurd hwrites (by decide)
  · rw [(heff.frame .outcome hwrites).1] at ho
    exact (hp.outcome ho).step

/-- After an admitted call, reconciled finances have their closeout. -/
theorem Provenance.reconciled_step (hp : Provenance k s) (hs : AllSeated k s) {a : Admission}
    (h : k.admit s c = .ok a) (hw : c.WritableFor k)
    (hc : .financeReconciled ∈ (k.step s c).projection.closeConditions) :
    Happened .finalizeCloseout (k.step s c) := by
  have heff := step_effect h
  by_cases hwrites : Part.closeConditions ∈ writes a.verb
  · have hv : a.verb = .finalizeCloseout := by
      revert hwrites
      cases a.verb <;> decide
    rcases finalizeCloseout_cases s.tick with ⟨e, s', he, hc'⟩ | ⟨b, hb, ho, hok⟩
    · rw [heff.projection, hv, branch, he] at hc
      exact (hp.reconciled (hc' hc)).step
    · rw [← hv]
      exact happened_of_grants hk hs h hw (by rw [hv]; decide) (by rw [hv, branch, hok]; rfl)
        (by rw [hv]; rfl)
  · rw [heff.frame .closeConditions hwrites] at hc
    exact (hp.reconciled hc).step

/-- One call with a writable payload keeps the provenance of everything that is held. -/
theorem Provenance.step (hp : Provenance k s) (hs : AllSeated k s) (hw : AdmitsWritable k s c) :
    Provenance k (k.step s c) := by
  cases h : k.admit s c with
  | error r =>
    have hi := step_idle h
    refine ⟨?_, ?_, ?_, ?_⟩
    · rw [hi.authority]; exact fun row hrow ht => (hp.authority row hrow ht).step
    · rw [hi.knowledge]; exact fun row hrow ht => (hp.knowledge row hrow ht).step
    · rw [hi.projection]; exact fun ho => (hp.outcome ho).step
    · rw [hi.projection]; exact fun hc => (hp.reconciled hc).step
  | ok a =>
    have hw := hw a h
    have hearned : (∀ row ∈ earnedAuthority, row.verb ≠ .submitInvoice) ∧
        ∀ row ∈ earnedKnowledge, row.verb ≠ .submitInvoice := by decide
    obtain ⟨gs, hgs, hA, hK⟩ := (step_effect h).tokens
    refine ⟨fun row hrow ht => ?_, fun row hrow ht => ?_, hp.outcome_step hk hs h hw,
      hp.reconciled_step hk hs h hw⟩
    · rcases hA.gained _ _ ht with ht | ⟨g, hg, hactor, ht⟩
      · exact (hp.authority row hrow ht).step
      · rcases hgs with rfl | ⟨hb, hgs⟩
        · cases hg
        · have hverb := earnedAuthority_verb hgs g hg row hrow hactor ht
          rw [hverb]
          exact happened_of_grants hk hs h hw (hverb ▸ hearned.1 row hrow) hb hgs
    · rcases hK.gained _ _ ht with ht | ⟨g, hg, hactor, ht⟩
      · exact (hp.knowledge row hrow ht).step
      · rcases hgs with rfl | ⟨hb, hgs⟩
        · cases hg
        · have hverb := earnedKnowledge_verb hgs g hg row hrow hactor ht
          rw [hverb]
          exact happened_of_grants hk hs h hw (hverb ▸ hearned.2 row hrow) hb hgs

end

/-! ## The order of the workflow -/

/-- Whoever passes the role check of `B` needs a token for it that is earned by `A`. -/
def Requires (A B : Verb) : Prop :=
  ∀ e ∈ personaEntries, e.2.roleId ∈ (verbPolicy B).roles →
    (∃ row ∈ earnedAuthority,
      row.actorId = e.1 ∧ row.token ∈ (verbPolicy B).authority ∧ row.verb = A) ∨
    ∃ row ∈ earnedKnowledge,
      row.actorId = e.1 ∧ row.token ∈ (verbPolicy B).knowledge ∧ row.verb = A

instance (A B : Verb) : Decidable (Requires A B) :=
  inferInstanceAs (Decidable (∀ e ∈ personaEntries, _))

/-- The stages of the workflow on a route. -/
def stages (route : Route) : List Verb :=
  [.receiveReferral, .submitConflictResult, .recordLawyerGate, .openMatter, .issuePreservation,
   .collectEvidence, .reviewEvidence, .produceDiscovery, .takeDeposition, .retainExpert,
   route.resolutionVerb, .finalizeCloseout, .closeMatter]

/-- The verbs outside the chain that need an open matter. -/
def openMatterVerbs : List Verb :=
  [.calculateDeadlines, .verifyDeadlines, .recordTime, .submitInvoice, .appealReduction,
   .applyPayment]

/-- The events of a kernel are in order: each stage after all those before it, the other verbs of an
open matter after its opening, and a verification of deadlines after a calculation. -/
def InOrder (k : Kernel) (events : List Event) : Prop :=
  (stages k.route).Pairwise (fun A B => Trace.Precedes events (Accepted A) (Accepted B)) ∧
    (∀ B ∈ openMatterVerbs, Trace.Precedes events (Accepted .openMatter) (Accepted B)) ∧
    Trace.Precedes events (Accepted .calculateDeadlines) (Accepted .verifyDeadlines)

/-- In every state with provenance, a command with verb `B` is accepted only after one with
verb `A`. -/
def Guards (k : Kernel) (A B : Verb) : Prop :=
  ∀ s c a, Provenance k s → k.admit s c = .ok a → a.verb = B →
    returned (k.submit c s) = true → Happened A s

section
variable {k : Kernel}

/-- `finalize_closeout` needs an outcome. -/
theorem guards_finalizeCloseout : Guards k k.route.resolutionVerb .finalizeCloseout := by
  intro s c a hp h hv hr
  refine hp.outcome ?_
  have hb := ((returned_submit_iff h).1 hr).1
  rw [hv] at hb
  rcases finalizeCloseout_cases s.tick with ⟨e, s', he, -⟩ | ⟨b, -, ho, -⟩
  · rw [branch, he] at hb; cases hb
  · exact ho

/-- `close_matter` needs `finance_reconciled`, which only `finalize_closeout` records. -/
theorem guards_closeMatter : Guards k .finalizeCloseout .closeMatter := by
  intro s c a hp h hv hr
  refine hp.reconciled ?_
  have hb := ((returned_submit_iff h).1 hr).1
  rw [hv] at hb
  rcases closeMatter_cases s.tick with ⟨e, he⟩ | ⟨hsub, -⟩
  · rw [branch, he] at hb; cases hb
  · exact hsub (by decide)

section
variable (hk : k.bundle.Employment)

include hk

/-- A verb that requires another is guarded by it. -/
theorem guards_of_requires {A B : Verb} (hr : Requires A B) : Guards k A B := by
  rintro s c a hp h rfl -
  have hadm := admit_ok h
  obtain ⟨e, he, hid, hrole⟩ := hadm.persona hk
  rcases hr e he hrole with ⟨row, hrow, hactor, ht, rfl⟩ | ⟨row, hrow, hactor, ht, rfl⟩
  · exact hp.authority row hrow (by rw [hactor, hid]; exact hadm.authority _ ht)
  · exact hp.knowledge row hrow (by rw [hactor, hid]; exact hadm.knowledge _ ht)

/-- Each stage of the route guards the next one. -/
theorem guards_stages : (stages k.route).IsChain (Guards k) := by
  have hexpert : Requires .retainExpert k.route.resolutionVerb := by
    cases k.route <;> decide
  simp only [stages, List.isChain_cons_cons, List.isChain_singleton, and_true]
  refine ⟨?_, ?_, ?_, ?_, ?_, ?_, ?_, ?_, ?_, guards_of_requires hk hexpert,
    guards_finalizeCloseout, guards_closeMatter⟩ <;>
    exact guards_of_requires hk (by decide)

/-- The order of two verbs is kept along a run, where the policies guard it. -/
theorem precedes_run {A B : Verb} (hg : Guards k A B) {cs : List Command}
    (hw : Machine.AllSteps k.step (AdmitsWritable k) k.initial cs) :
    Trace.Precedes (k.run cs).events (Accepted A) (Accepted B) := by
  have hinv : AllSeated k (k.run cs) ∧ Provenance k (k.run cs) ∧
      Trace.Precedes (k.run cs).events (Accepted A) (Accepted B) := by
    refine Machine.run_invariant_of
      (I := fun s => AllSeated k s ∧ Provenance k s ∧
        Trace.Precedes s.events (Accepted A) (Accepted B)) (fun s c hI hc => ?_)
      ⟨allSeated_initial k, provenance_initial hk, Trace.precedes_nil⟩ hw
    obtain ⟨hs, hp, hprec⟩ := hI
    exact ⟨hs.step, hp.step hk hs hc, precedes_step hprec fun a ha hv hr => hg s c a hp ha hv hr⟩
  exact hinv.2.2

/-- **Workflow precedence.** Over a built bundle, on every route and in every run whose calls, once
admitted, have payloads that can be written, the stages are accepted in order. -/
theorem workflow_precedence {cs : List Command}
    (hw : Machine.AllSteps k.step (AdmitsWritable k) k.initial cs) :
    InOrder k (k.run cs).events := by
  have hopen : ∀ B ∈ openMatterVerbs, Requires .openMatter B := by decide
  refine ⟨?_, fun B hB => precedes_run hk (guards_of_requires hk (hopen B hB)) hw,
    precedes_run hk (guards_of_requires hk (by decide)) hw⟩
  have hchain := (guards_stages hk).imp fun A B hg => precedes_run hk hg hw
  have hpair := Trace.pairwise_of_isChain ((List.isChain_map Accepted).2 hchain)
  exact (List.pairwise_map).1 hpair

end

end

/-- The scripted workflow runs in order. -/
theorem workflow_precedence_alpha : InOrder alphaKernel (alphaKernel.run alphaWorkflow).events :=
  workflow_precedence alphaKernel_employment
    (.of_forall_mem (fun c hc _ _ _ => alphaWorkflow_writable c hc) _)

/-- The first command of the workflow, with an integer of 4301 digits in its payload, and the
second. -/
def longReferral : List Command :=
  (alphaWorkflow.take 1).map (fun c => { c with payload := .ofEntries [("n", .int (10 ^ 4300))] }) ++
    (alphaWorkflow.drop 1).take 1

/-- The referral raises when its event is hashed, after its grants, and the conflict result is
accepted with no referral on record. -/
theorem earns_unrecorded :
    ¬ ∀ (k : Kernel) (cs : List Command), k.bundle.Employment → (∀ c ∈ cs, c.payload.IsJson) →
      InOrder k (k.run cs).events := by
  intro h
  have hjson : ∀ c ∈ longReferral, c.payload.IsJson := by
    intro c hc
    rcases List.mem_append.1 hc with hc | hc
    · obtain ⟨c, -, rfl⟩ := List.mem_map.1 hc
      intro key v hv
      obtain ⟨-, rfl⟩ := Prod.mk.inj (List.mem_singleton.1 (PyDict.mem_of_get?_ofEntries hv))
      exact ⟨_, rfl⟩
    · have hmem : c ∈ alphaWorkflow := List.mem_of_mem_drop (List.mem_of_mem_take hc)
      exact (alphaWorkflow_writable c hmem).1.isJson
  have hevents : (alphaKernel.run longReferral).events.map (·.eventType) =
      [Verb.submitConflictResult.acceptedType] := by decide +kernel
  have horder := (h alphaKernel longReferral alphaKernel_employment hjson).1
  obtain ⟨e, he, htype⟩ := List.map_eq_singleton_iff.1 hevents
  have hfirst := (List.pairwise_cons.1 horder).1 .submitConflictResult (by decide)
  obtain ⟨a, ha, -⟩ := hfirst [] e [] he htype
  cases ha

end LawFirmDigitalTwin
