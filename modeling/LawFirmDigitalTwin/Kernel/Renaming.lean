import LawFirmDigitalTwin.Kernel.TwoRuns

/-!
# Renamed matters

A kernel knows its matter by the matter id, and reads of it the actors, the inventory and the rule
pack. Two kernels over matters that agree in these (`Renamed`), given calls that differ in the
matter they address (`Readdressed`), go through the same states but for the events (`Beside`): the
events name the matter, the run and what a referral said.
-/

namespace LawFirmDigitalTwin

open Raising

/-- Two kernels that read the same, of matters with identifiers of their own. -/
structure Renamed (k k' : Kernel) : Prop where
  actors : k'.bundle.matter.actors = k.bundle.matter.actors
  inventory : k'.bundle.matter.evidenceInventory = k.bundle.matter.evidenceInventory
  rulePack : k'.bundle.matter.rulePack = k.bundle.matter.rulePack
  frontier : k'.bundle.sealed.witnessFactFrontier = k.bundle.sealed.witnessFactFrontier
  authorized : k'.bundle.sealed.expertAuthorizedArtifacts = k.bundle.sealed.expertAuthorizedArtifacts
  posture : k'.bundle.sealed.targetPosture = k.bundle.sealed.targetPosture
  arm : k'.arm = k.arm
  route : k'.route = k.route

/-- One call, addressed to the matter of each kernel. What a referral says may differ. -/
structure Readdressed (k k' : Kernel) (c c' : Command) : Prop where
  same : c' = { c with matterId := c'.matterId, payload := c'.payload }
  own : c.matterId = k.bundle.matter.matterId
  other : c'.matterId = k'.bundle.matter.matterId
  payload : c'.payload = c.payload ∨
    c.verb = Verb.receiveReferral.name ∧ c.payload.Writable ∧ c'.payload.Writable

/-- Events of one call on the two kernels. -/
structure EventAlike (e e' : Event) : Prop where
  same : e' = { e with
    eventId := e'.eventId
    runId := e'.runId
    matterId := e'.matterId
    payload := e'.payload
    inputHash := e'.inputHash
    outputHash := e'.outputHash
    randomStreamKey := e'.randomStreamKey }
  payload : e'.payload = e.payload ∨ e.eventType = Verb.receiveReferral.acceptedType

/-- States that differ in their events, which are related by `E`. -/
inductive Beside (E : List Event → List Event → Prop) (s : KernelState) : KernelState → Prop
  | mk (es : List Event) (h : E s.events es) : Beside E s { s with events := es }

/-! ## What the events have no part in -/

section
variable {E : List Event → List Event → Prop}

/-- An update runs alike beside other events. -/
theorem beside_modifyProjection (f : Projection → Projection) :
    Related (Beside E) Eq (modifyProjection f) (modifyProjection f) := by
  refine .modify fun s s' hs => ?_
  obtain ⟨es, hes⟩ := hs
  exact .mk es hes

/-- A method of the ledger runs alike beside other events. -/
theorem beside_withFinance {α : Type} (m : FinanceLedger.Method Decimal α) :
    Related (Beside E) Eq (withFinance m) (withFinance m) := by
  refine .zoom (fun s s' hs => ?_) (fun s s' finance hs => ?_) m
  · obtain ⟨es, -⟩ := hs
    rfl
  · obtain ⟨es, hes⟩ := hs
    exact .mk es hes

/-- Extending a log runs alike beside other events. -/
theorem beside_extendLog (id : String) (steps : Except PyError (List CustodyStep)) :
    Related (Beside E) Eq (extendLog id steps) (extendLog id steps) := by
  refine .assign fun s s' hs => ?_
  obtain ⟨es, hes⟩ := hs
  dsimp only
  cases s.projection.custodyLog.getItem id with
  | error e => exact .error e
  | ok log =>
    cases steps with
    | error e => exact .error e
    | ok steps => exact .ok (.mk es hes)

/-- The loop of preservation runs alike beside other events. -/
theorem beside_preserveAll (artifacts : List EvidenceArtifact) :
    Related (Beside E) Eq (preserveAll artifacts) (preserveAll artifacts) := by
  induction artifacts with
  | nil => exact .pure rfl
  | cons a rest ih =>
    refine (beside_modifyProjection _).bind_eq fun _ => ?_
    refine (Related.attempt_self _).bind_eq fun created => ?_
    exact (beside_modifyProjection _).bind_eq fun _ => ih

/-- The loop of collection runs alike beside other events. -/
theorem beside_collectAll (artifacts : List EvidenceArtifact) :
    Related (Beside E) Eq (collectAll artifacts) (collectAll artifacts) := by
  induction artifacts with
  | nil => exact .pure rfl
  | cons a rest ih =>
    refine .bind .get fun s s' hs => ?_
    obtain ⟨es, -⟩ := hs
    refine (Related.raiseIf _ _).bind_eq fun _ => ?_
    exact (beside_modifyProjection _).bind_eq fun _ => (beside_extendLog _ _).bind_eq fun _ => ih

/-- The loop of review runs alike beside other events. -/
theorem beside_reviewAll (c : Command) (artifacts : List EvidenceArtifact) (selected : List String)
    (claims : PyDict (Finset String)) :
    Related (Beside E) Eq (reviewAll c artifacts selected claims)
      (reviewAll c artifacts selected claims) := by
  induction artifacts generalizing selected claims with
  | nil => exact .pure rfl
  | cons a rest ih =>
    refine .bind .get fun s s' hs => ?_
    obtain ⟨es, -⟩ := hs
    refine (Related.raiseIf _ _).bind_eq fun _ => ?_
    split
    · exact (beside_modifyProjection _).bind_eq fun _ =>
        (beside_extendLog _ _).bind_eq fun _ => ih _ _
    · exact (beside_modifyProjection _).bind_eq fun _ => ih _ _

/-- The loop of production runs alike beside other events. -/
theorem beside_produceAll (k : Kernel) (c : Command) (ids : List String) :
    Related (Beside E) Eq (produceAll k c ids) (produceAll k c ids) := by
  induction ids with
  | nil => exact .pure rfl
  | cons id rest ih =>
    refine (Related.attempt_self _).bind_eq fun a => ?_
    refine (beside_modifyProjection _).bind_eq fun _ => (beside_modifyProjection _).bind_eq fun _ => ?_
    exact (beside_extendLog _ _).bind_eq fun _ => ih

/-- A resolution runs alike beside other events. -/
theorem beside_resolve (k : Kernel) (v : Verb) :
    Related (Beside E) Eq (resolve k v) (resolve k v) := by
  refine (Related.raiseIf _ _).bind_eq fun _ => (beside_modifyProjection _).bind_eq fun _ => ?_
  refine (Related.attempt_self _).bind_eq fun outcome => ?_
  exact (beside_modifyProjection _).bind_eq fun _ => .pure rfl

/-- **No branch reads or writes the events.** -/
theorem beside_branch (k : Kernel) (c : Command) (v : Verb) :
    Related (Beside E) Eq (branch k c v) (branch k c v) := by
  cases v with
  | receiveReferral | submitConflictResult =>
    exact (beside_modifyProjection _).bind_eq fun _ => .pure rfl
  | recordLawyerGate =>
    refine (Related.attempt_self _).bind_eq fun gate => .bind .get fun s s' hs => ?_
    obtain ⟨es, -⟩ := hs
    refine (Related.raiseIf _ _).bind_eq fun _ => ?_
    exact (beside_modifyProjection _).bind_eq fun _ => .pure rfl
  | openMatter =>
    refine .bind .get fun s s' hs => ?_
    obtain ⟨es, -⟩ := hs
    refine (Related.raiseIf _ _).bind_eq fun _ => ?_
    exact (beside_modifyProjection _).bind_eq fun _ => .pure rfl
  | calculateDeadlines =>
    refine (Related.attempt_self _).bind_eq fun day => ?_
    exact (beside_modifyProjection _).bind_eq fun _ => .pure rfl
  | verifyDeadlines =>
    refine .bind .get fun s s' hs => ?_
    obtain ⟨es, -⟩ := hs
    refine (Related.raiseIf _ _).bind_eq fun _ => (Related.attempt_self _).bind_eq fun day => ?_
    refine (Related.raiseIf _ _).bind_eq fun _ => (Related.raiseIf _ _).bind_eq fun _ => ?_
    exact (beside_modifyProjection _).bind_eq fun _ => .pure rfl
  | issuePreservation => exact (beside_preserveAll _).bind_eq fun _ => .pure rfl
  | collectEvidence => exact (beside_collectAll _).bind_eq fun _ => .pure rfl
  | reviewEvidence =>
    refine (beside_reviewAll _ _ _ _).bind_eq fun r => ?_
    exact (beside_modifyProjection _).bind_eq fun _ => .pure rfl
  | produceDiscovery =>
    refine .bind .get fun s s' hs => ?_
    obtain ⟨es, -⟩ := hs
    refine (Related.raiseIf _ _).bind_eq fun _ => (beside_produceAll _ _ _).bind_eq fun _ => ?_
    exact (Related.attempt_self _).bind_eq fun _ => .pure rfl
  | takeDeposition =>
    refine (Related.attempt_self _).bind_eq fun witness => ?_
    exact (beside_modifyProjection _).bind_eq fun _ => .pure rfl
  | retainExpert =>
    refine .bind .get fun s s' hs => ?_
    obtain ⟨es, -⟩ := hs
    exact (beside_modifyProjection _).bind_eq fun _ => .pure rfl
  | settleCase | mediateToImpasse | resolveDispositive | tryAndAppeal => exact beside_resolve _ _
  | recordTime =>
    refine (Related.attempt_self _).bind_eq fun amount => (beside_withFinance _).bind_eq fun _ => ?_
    refine (Related.attempt_self _).bind_eq fun _ => (Related.attempt_self _).bind_eq fun _ => ?_
    exact (beside_modifyProjection _).bind_eq fun _ => .pure rfl
  | submitInvoice =>
    refine (beside_withFinance _).bind_eq fun amount => .bind .get fun s s' hs => ?_
    obtain ⟨es, -⟩ := hs
    exact .pure rfl
  | carrierAudit | appealReduction | applyPayment =>
    refine (Related.attempt_self _).bind_eq fun _ => (beside_withFinance _).bind_eq fun _ => ?_
    refine .bind .get fun s s' hs => ?_
    obtain ⟨es, -⟩ := hs
    exact .pure rfl
  | finalizeCloseout =>
    refine .bind .get fun s s' hs => ?_
    obtain ⟨es, -⟩ := hs
    refine (Related.raiseIf _ _).bind_eq fun _ => (beside_modifyProjection _).bind_eq fun _ => ?_
    refine .bind .get fun s s' hs => ?_
    obtain ⟨es, -⟩ := hs
    refine (Related.attempt_self _).bind_eq fun reconciled => ?_
    exact (beside_modifyProjection _).bind_eq fun _ => .pure rfl
  | closeMatter =>
    refine .bind .get fun s s' hs => ?_
    obtain ⟨es, -⟩ := hs
    refine (Related.raiseIf _ _).bind_eq fun _ => (Related.raiseIf _ _).bind_eq fun _ => ?_
    exact (beside_modifyProjection _).bind_eq fun _ => .pure rfl
  | readOracle => exact .throw _

/-- Grants run alike beside other events. -/
theorem beside_grantAll (gs : List Grant) : Related (Beside E) Eq (grantAll gs) (grantAll gs) := by
  induction gs with
  | nil => exact .pure rfl
  | cons g rest ih =>
    have hauthority : Related (Beside E) Eq (updateAuthority g.actorId g.authority)
        (updateAuthority g.actorId g.authority) := by
      refine .assign fun s s' hs => ?_
      obtain ⟨es, hes⟩ := hs
      dsimp only
      cases s.authority.getItem g.actorId with
      | error e => exact .error e
      | ok held => exact .ok (.mk es hes)
    have hknowledge : Related (Beside E) Eq (updateKnowledge g.actorId g.knowledge)
        (updateKnowledge g.actorId g.knowledge) := by
      refine .assign fun s s' hs => ?_
      obtain ⟨es, hes⟩ := hs
      dsimp only
      cases s.knowledge.getItem g.actorId with
      | error e => exact .error e
      | ok held => exact .ok (.mk es hes)
    exact hauthority.bind_eq fun _ => hknowledge.bind_eq fun _ => ih

end

/-! ## What the kernels read -/

/-- The review handles the artifacts in the name of the actor alone. -/
theorem reviewAll_readdressed (c : Command) (m : String) (artifacts : List EvidenceArtifact)
    (selected : List String) (claims : PyDict (Finset String)) :
    reviewAll { c with matterId := m } artifacts selected claims =
      reviewAll c artifacts selected claims := by
  induction artifacts generalizing selected claims with
  | nil => rfl
  | cons a rest ih =>
    unfold reviewAll
    simp only [ih]

section
variable {k k' : Kernel} {c c' : Command}

/-- A renamed kernel finds the same artifact. -/
theorem Renamed.artifact (h : Renamed k k') (id : String) : k'.artifact id = k.artifact id := by
  unfold Kernel.artifact
  rw [h.inventory]

/-- A renamed kernel produces the same artifacts. -/
theorem Renamed.production (h : Renamed k k') (ids : List String) :
    k'.production ids = k.production ids := by
  induction ids with
  | nil => rfl
  | cons id rest ih =>
    unfold Kernel.production
    rw [h.artifact, ih]

/-- A renamed kernel runs the same loop of production. -/
theorem Renamed.produceAll (h : Renamed k k') (m : String) (ids : List String) :
    produceAll k' { c with matterId := m } ids = produceAll k c ids := by
  induction ids with
  | nil => rfl
  | cons id rest ih =>
    unfold LawFirmDigitalTwin.produceAll
    rw [h.artifact, ih]

/-- No branch reads the matter a call is addressed to. -/
theorem Renamed.branch (h : Renamed k k') (m : String) (v : Verb) :
    branch k' { c with matterId := m } v = branch k c v := by
  cases v with
  | calculateDeadlines =>
    unfold LawFirmDigitalTwin.branch calculateDeadlines
    rw [h.rulePack]
    rfl
  | verifyDeadlines =>
    unfold LawFirmDigitalTwin.branch verifyDeadlines
    rw [h.rulePack]
    rfl
  | issuePreservation =>
    unfold LawFirmDigitalTwin.branch issuePreservation
    rw [h.inventory]
  | collectEvidence =>
    unfold LawFirmDigitalTwin.branch collectEvidence
    rw [h.inventory]
  | reviewEvidence =>
    unfold LawFirmDigitalTwin.branch reviewEvidence
    rw [h.inventory, reviewAll_readdressed]
  | produceDiscovery =>
    have hselected (p : Projection) : k'.selected p = k.selected p := by
      unfold Kernel.selected
      rw [h.inventory]
    unfold LawFirmDigitalTwin.branch produceDiscovery
    simp only [hselected, h.produceAll, h.production]
  | takeDeposition =>
    unfold LawFirmDigitalTwin.branch takeDeposition
    rw [h.actors, h.frontier]
  | retainExpert =>
    unfold LawFirmDigitalTwin.branch retainExpert
    rw [h.authorized]
  | settleCase | mediateToImpasse | resolveDispositive | tryAndAppeal =>
    unfold LawFirmDigitalTwin.branch resolve
    rw [h.route, h.posture]
  | recordTime =>
    unfold LawFirmDigitalTwin.branch recordTime
    rw [h.arm]
    rfl
  | receiveReferral | submitConflictResult | recordLawyerGate | openMatter | submitInvoice
  | carrierAudit | appealReduction | applyPayment | finalizeCloseout | closeMatter | readOracle =>
    rfl

/-- A readdressed call takes the same branch and makes the same grants. -/
theorem Readdressed.transition (h : Renamed k k') (hc : Readdressed k k' c c') {v : Verb}
    (hv : Verb.ofName? c.verb = some v) : transition k' c' v = transition k c v := by
  rcases hc.payload with hpayload | ⟨hverb, -, -⟩
  · have hsame := hc.same
    rw [hpayload] at hsame
    generalize c'.matterId = m at hsame
    subst hsame
    have hgrants : grantsOf { c with matterId := m } v = grantsOf c v := by cases v <;> rfl
    unfold LawFirmDigitalTwin.transition
    rw [h.branch m v, hgrants]
  · cases Verb.name_injective ((Verb.name_of_ofName? hv).trans hverb)
    rfl

/-- A readdressed command is admitted alike. -/
theorem Readdressed.admission (h : Renamed k k') (hc : Readdressed k k' c c')
    {E : List Event → List Event → Prop} {s s' : KernelState} (hs : Beside E s s') :
    k'.admit s' c' = k.admit s c := by
  obtain ⟨es, -⟩ := hs
  rw [hc.same]
  unfold Kernel.admit
  dsimp only
  rw [hc.other, hc.own, h.actors, if_neg (not_not.2 rfl), if_neg (not_not.2 rfl)]

/-! ## One call -/

/-- The canonical forms of the two payloads: the same error, or both. -/
theorem Readdressed.canonical (hc : Readdressed k k' c c') :
    ExceptRel (fun js js' => js' = js ∨ c.verb = Verb.receiveReferral.name ∧
        (∀ j ∈ js, j.2.writable = true) ∧ ∀ j ∈ js', j.2.writable = true)
      (canonicalEntries c.payload.entries) (canonicalEntries c'.payload.entries) := by
  rcases hc.payload with hpayload | ⟨hverb, hw, hw'⟩
  · rw [hpayload]
    exact match canonicalEntries c.payload.entries with
      | .ok js => .ok (.inl rfl)
      | .error e => .error e
  · obtain ⟨js, hjs⟩ := c.payload.canonicalEntries_ok_iff.2 hw.isJson
    obtain ⟨js', hjs'⟩ := c'.payload.canonicalEntries_ok_iff.2 hw'.isJson
    rw [hjs, hjs']
    exact .ok (.inr ⟨hverb, (PyDict.writable_canonicalEntries hjs).2 hw,
      (PyDict.writable_canonicalEntries hjs').2 hw'⟩)

/-- Both payloads of the events can be written, or neither can. -/
theorem writable_alike {js js' : List (String × Json)}
    (h : js' = js ∨ (∀ j ∈ js, j.2.writable = true) ∧ ∀ j ∈ js', j.2.writable = true) (u : Updates) :
    (Json.dict js').writable = (Json.dict js).writable ∧
      ((u.foldl (fun d e => d.set e.1 e.2) (PyDict.ofEntries js')).toJson id).writable =
        ((u.foldl (fun d e => d.set e.1 e.2) (PyDict.ofEntries js)).toJson id).writable := by
  rcases h with rfl | ⟨hjs, hjs'⟩
  · exact ⟨rfl, rfl⟩
  · have hvalues {js : List (String × Json)} (hjs : ∀ j ∈ js, j.2.writable = true) (key : String)
        (j : Json) (hj : (PyDict.ofEntries js).get? key = some j) : j.writable = true :=
      hjs (key, j) (PyDict.mem_of_get?_ofEntries hj)
    refine ⟨?_, ?_⟩
    · rw [Json.writable_dict.2 hjs, Json.writable_dict.2 hjs']
    · rw [Bool.eq_iff_iff, writable_updated (hvalues hjs), writable_updated (hvalues hjs')]

/-- The events of the two calls. -/
theorem Readdressed.event (h : Renamed k k') (hc : Readdressed k k' c c')
    {E : List Event → List Event → Prop} {s s' : KernelState} (hs : Beside E s s')
    (a : Admission) (u : Updates) :
    ExceptRel EventAlike (k.event c a u s) (k'.event c' a u s') := by
  obtain ⟨es, -⟩ := hs
  have hcanonical := hc.canonical
  have hsame := hc.same
  generalize hmatter : c'.matterId = m at hsame
  generalize hpayload : c'.payload = p at hsame hcanonical
  subst hsame
  unfold Kernel.event Command.toJson PyDict.canonical
  dsimp only
  refine .bind_same _ fun knowledge => ?_
  generalize canonicalEntries c.payload.entries = x at hcanonical
  generalize canonicalEntries p.entries = y at hcanonical
  cases hcanonical with
  | error e => exact .error e
  | @ok js js' hjs =>
    obtain ⟨hinput, houtput⟩ := writable_alike (hjs.imp_right And.right) u
    rw [Json.writable, Json.writable] at hinput
    simp only [Except.map, ok_bind, pure_eq_ok, digestOf, houtput, Json.writable,
      Json.writableEntries, Json.writable_strs, hinput, Bool.true_and, Bool.and_true]
    split
    · rw [ok_bind, ok_bind]
      split
      · refine .ok ⟨?_, ?_⟩
        · dsimp only
          rw [h.arm]
        · rcases hjs with rfl | ⟨hverb, -⟩
          · exact .inl rfl
          · right
            show c.verb ++ "_accepted" = Verb.receiveReferral.acceptedType
            rw [hverb, Verb.acceptedType]
      · exact .error _
    · exact .error _

variable (h : Renamed k k') (hc : Readdressed k k' c c')

include h hc

/-- **A readdressed call has the same effect**: it returns for both kernels, or raises the same for
both. -/
theorem readdressed_submit :
    Related (Beside (List.Forall₂ EventAlike)) EventAlike (k.submit c) (k'.submit c') := by
  refine .bind .get fun s s' hs => ?_
  rw [hc.admission h hs]
  cases hadmitted : k.admit s c with
  | error r =>
    cases r with
    | denied reason missing =>
      have hentry : denial c' reason missing = denial c reason missing := by
        rw [hc.same]
        rfl
      have hrest : Related (Beside (List.Forall₂ EventAlike)) EventAlike
          (do
            modify fun s => { s with denials := s.denials ++ [denial c reason missing] }
            throw (.gateError reason.value missing) : KernelM Event)
          (do
            modify fun s => { s with denials := s.denials ++ [denial c reason missing] }
            throw (.gateError reason.value missing) : KernelM Event) := by
        refine (Related.modify fun s s' hs => ?_).bind_eq fun _ => .throw _
        obtain ⟨es, hes⟩ := hs
        exact .mk es hes
      dsimp only
      unfold deny
      rw [hentry]
      split
      · exact (beside_modifyProjection _).bind_eq fun _ => hrest
      · exact hrest
    | raised e => exact .throw e
  | ok a =>
    refine (Related.modify fun s s' hs => ?_).bind_eq fun _ => ?_
    · obtain ⟨es, hes⟩ := hs
      exact .mk es hes
    rw [hc.transition h (admit_ok hadmitted).verb]
    have htransition : Related (Beside (List.Forall₂ EventAlike)) Eq (transition k c a.verb)
        (transition k c a.verb) := by
      refine (beside_branch k c a.verb).bind_eq fun u => (Related.attempt_self _).bind_eq fun gs => ?_
      exact (beside_grantAll gs).bind_eq fun _ => .pure rfl
    refine htransition.bind_eq fun u => .bind .get fun s₁ s₁' hs₁ => ?_
    refine (Related.attempt (hc.event h hs₁ a u)).bind fun e e' he => ?_
    refine (Related.modify fun s s' hs => ?_).bind_eq fun _ => .pure he
    obtain ⟨es, hes⟩ := hs
    exact .mk _ (List.rel_append hes (.cons he .nil))

end

/-! ## Runs -/

section
variable {k k' : Kernel} (h : Renamed k k')

include h

/-- Renamed kernels start alike. -/
theorem beside_initial : Beside (List.Forall₂ EventAlike) k.initial k'.initial := by
  have hinitial : k'.initial = { k.initial with events := [] } := by
    unfold Kernel.initial
    rw [h.actors, h.route]
  rw [hinitial]
  exact .mk [] .nil

/-- **Renamed runs.** After readdressed calls the kernels are in states that differ in their events,
having accepted and rejected the same ones. -/
theorem renamed_run {cs cs' : List Command} (hcs : List.Forall₂ (Readdressed k k') cs cs') :
    Beside (List.Forall₂ EventAlike) (k.run cs) (k'.run cs') ∧
      Machine.outputs k.step (fun s c => returned (k.submit c s)) k.initial cs =
        Machine.outputs k'.step (fun s c => returned (k'.submit c s)) k'.initial cs' := by
  refine Machine.run_outputs_forall₂ (Q := Readdressed k k') (fun s s' c c' hs hc => ?_)
    (beside_initial h) hcs
  have hsubmit := readdressed_submit h hc s s' hs
  exact ⟨hsubmit.returned, hsubmit.final⟩

end

end LawFirmDigitalTwin
