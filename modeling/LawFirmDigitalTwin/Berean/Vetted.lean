import LawFirmDigitalTwin.Berean.Report
import LawFirmDigitalTwin.Kernel.Closed
import LawFirmDigitalTwin.Kernel.EvidencePhase
import LawFirmDigitalTwin.Kernel.Marks
import LawFirmDigitalTwin.Spelling

/-!
# What the auditor asks for

Six of the eleven findings pass on every closed matter: what they look at is left behind by commands
that the policies put before the closing. The other five ask for more than the kernel does
(`Vetted`): the two probes of its boundaries, no hold that is pending again, the deadlines of day
zero, and a ledger that still reconciles, after an appeal.
-/

namespace LawFirmDigitalTwin

open Raising

/-- What the auditor asks of a closed matter that the kernel does not. -/
structure Vetted (k : Kernel) (s : KernelState) : Prop where
  closed : s.projection.closed = true
  oracleProbed : ∃ d ∈ s.denials, d.reason = .oracleBoundary
  openingProbed : ∃ d ∈ s.denials, d.reason = .missingAuthority ∧ "matter_opening" ∈ d.missing
  released : s.projection.authorityHolds = ∅
  deadlines : (deadlineFinding k s).status = "pass"
  errors : s.projection.finance.invariantErrors = .ok []
  appealed : Amount.lt Amount.zero s.projection.finance.appealRecovery = .ok true
  paid : Amount.eq s.projection.finance.accountsReceivable Amount.zero = .ok true

/-! ## What was produced -/

/-- The artifacts of the employment world that a review selects. -/
def selectedIds : List String := (employmentEvidence.filter (·.Selected)).map (·.artifactId)

/-- The selected evidence conflicts over the decision status. -/
theorem conflicts_of_selected :
    detectConflicts employmentEvidence selectedIds.toFinset = {"decision_status"} := by
  decide +kernel

/-- The voices of the authors whose artifacts a review selects are told apart. -/
theorem voices_of_selected : voicePairs employmentEvidence selectedIds.toFinset =
    [("hr_witness", "efed22bb7a703e99"), ("billing_specialist", "1e1efbb672eaa7e5"),
     ("manager_witness", "2d4903a236b1a92e")] := by
  have hmanager : managerWitness.voice.signature = "2d4903a236b1a92e" :=
    Json.firstChars_eq_of_spells (by repeat' constructor) (by decide +kernel)
  have hhr : hrWitness.voice.signature = "efed22bb7a703e99" :=
    Json.firstChars_eq_of_spells (by repeat' constructor) (by decide +kernel)
  have hbilling : billingSpecialist.voice.signature = "1e1efbb672eaa7e5" :=
    Json.firstChars_eq_of_spells (by repeat' constructor) (by decide +kernel)
  have hpairs : ((employmentEvidence.filter (·.artifactId ∈ selectedIds.toFinset)).map fun a =>
      (a.authorId, a.voiceSignature)) =
      [("manager_witness", managerWitness.voice.signature),
       ("hr_witness", hrWitness.voice.signature), ("hr_witness", hrWitness.voice.signature),
       ("manager_witness", managerWitness.voice.signature),
       ("hr_witness", hrWitness.voice.signature),
       ("billing_specialist", billingSpecialist.voice.signature),
       ("manager_witness", managerWitness.voice.signature)] := rfl
  rw [voicePairs, hpairs, hmanager, hhr, hbilling]
  decide

section
variable {k : Kernel} {cs : List Command} (hk : k.bundle.Employment)

include hk

/-- What was produced, if anything, is all that a review selects. -/
theorem produced_eq (h : (k.run cs).projection.producedArtifactIds ≠ []) :
    (k.run cs).projection.produced = selectedIds.toFinset := by
  have hstaged := staged_run (nodup_inventory hk) (fun a ha => by
    rw [(custodied_inventory hk a ha).custody]
    exact List.cons_ne_nil _ _) cs
  ext id
  rw [Projection.produced, List.mem_toFinset, List.mem_toFinset, (hstaged.produced h).2 id,
    hk.evidenceInventory]
  simp [selectedIds, and_assoc]

/-- The conflict check passes once artifacts are produced. -/
theorem conflictFinding_passes (h : (k.run cs).projection.producedArtifactIds ≠ []) :
    (conflictFinding k (k.run cs)).status = "pass" := by
  unfold conflictFinding
  have hdeclared : k.bundle.sealed.declaredConflicts =
      [⟨"C-DECISION-TIMING", "decision_status", ["E-MGREMAIL-004", "E-HREMAIL-005"],
        "test whether review finds incompatible contemporaneous accounts"⟩] := by
    obtain ⟨seed, rulePack, hbundle⟩ := hk
    rw [hbundle]
    rfl
  rw [auditCheck_status, produced_eq hk h, hk.evidenceInventory, conflicts_of_selected,
    declaredCovered, hdeclared]
  decide

/-- The voice check passes once artifacts are produced. -/
theorem voiceFinding_passes (h : (k.run cs).projection.producedArtifactIds ≠ []) :
    (voiceFinding k (k.run cs)).status = "pass" := by
  unfold voiceFinding
  rw [auditCheck_status, produced_eq hk h, hk.evidenceInventory, voices_of_selected]
  decide

end

/-! ## The chain of custody -/

/-- A complete chain has no custody errors. -/
theorem custodyErrorsOf_complete {inventory : List EvidenceArtifact} {p : Projection}
    {a : EvidenceArtifact} (hfound : inventory.find? (·.artifactId = a.artifactId) = some a)
    (h : ChainComplete a (p.log a.artifactId)) :
    custodyErrorsOf inventory p a.artifactId = .ok [] := by
  have horder := h.days.insertionSort_eq
  have hmissing : (requiredActions.filter fun action =>
      action ∉ (p.log a.artifactId).map (·.action)) = [] := by
    refine List.filter_eq_nil_iff.2 fun action haction => ?_
    obtain ⟨step, hstep, rfl⟩ := h.actions action haction
    simpa using ⟨step, hstep, rfl⟩
  have hhashes : ((p.log a.artifactId).map (·.objectHash)).toFinset = {a.contentHash} := by
    obtain ⟨step, hstep, -⟩ := h.actions "created" (.head _)
    ext hash
    rw [List.mem_toFinset, List.mem_map, Finset.mem_singleton]
    constructor
    · rintro ⟨step', hstep', rfl⟩
      exact h.objectHash step' hstep'
    · rintro rfl
      exact ⟨step, hstep, h.objectHash step hstep⟩
  unfold custodyErrorsOf
  dsimp only
  rw [hfound, if_neg (not_not.2 horder.symm), hmissing]
  dsimp only
  rw [if_neg (not_not.2 hhashes)]
  rfl

/-- The custody check passes where what is produced is in custody. -/
theorem custodyFinding_passes {k : Kernel} (hk : k.bundle.Employment) {s : KernelState}
    (hcustody : ProductionsInCustody k s.projection) (h : s.projection.producedArtifactIds ≠ []) :
    ∃ f, custodyFinding k s = .ok f ∧ f.status = "pass" := by
  have hnone : ∀ id ∈ sorted s.projection.produced,
      custodyErrorsOf k.bundle.matter.evidenceInventory s.projection id = .ok [] := by
    intro id hid
    obtain ⟨a, ha, rfl, hcomplete⟩ := hcustody.complete id (List.mem_toFinset.1 (mem_sorted.1 hid))
    refine custodyErrorsOf_complete ?_ hcomplete
    have hartifact := artifact_of_mem (nodup_inventory hk) ha
    unfold Kernel.artifact at hartifact
    cases hfind : k.bundle.matter.evidenceInventory.find? (·.artifactId = a.artifactId) with
    | none => rw [hfind] at hartifact; cases hartifact
    | some b => rw [hfind] at hartifact; rw [Except.ok.inj hartifact]
  have hmap : (sorted s.projection.produced).mapM
      (custodyErrorsOf k.bundle.matter.evidenceInventory s.projection) =
        .ok ((sorted s.projection.produced).map fun _ => []) :=
    except_mapM_eq_ok.2 (List.forall₂_map_right_iff.2 (List.forall₂_same.2 hnone))
  have herrors : custodyErrors k.bundle.matter.evidenceInventory s.projection = .ok [] := by
    unfold custodyErrors
    rw [hmap]
    simp [bind, Except.bind, pure, Except.pure]
  have hproduced : s.projection.produced ≠ ∅ := fun hempty =>
    h (List.toFinset_eq_empty_iff _ |>.1 hempty)
  refine ⟨_, by unfold custodyFinding; rw [herrors]; rfl, ?_⟩
  rw [auditCheck_status]
  exact decide_eq_true ⟨hproduced, rfl⟩

/-! ## Testimony and outcome -/

/-- The deposition check passes once the witnesses are deposed. -/
theorem depositionFinding_passes {k : Kernel} {s : KernelState} (h : Deposed k s.projection) :
    (depositionFinding k s).status = "pass" := by
  obtain ⟨r, hr, htokens, horacle⟩ := h
  unfold depositionFinding
  rw [auditCheck_status, hr]
  refine decide_eq_true ⟨rfl, ?_, ?_⟩
  · rw [Option.elim_some, htokens]
  · rw [Option.elim_some, horacle]
    exact Bool.false_ne_true

/-- The expert check passes once the expert has opined. -/
theorem expertFinding_passes {k : Kernel} {s : KernelState} (h : Opined k s.projection) :
    (expertFinding k s).status = "pass" := by
  obtain ⟨o, ho, hsources, horacle, hattested⟩ := h
  unfold expertFinding
  rw [auditCheck_status, ho]
  refine decide_eq_true ⟨rfl, fun id hid => ?_, fun id hid => ?_, ?_, hattested⟩
  · exact List.mem_toFinset.2 (hsources id (List.mem_toFinset.1 hid)).1
  · exact List.mem_toFinset.2 (hsources id (List.mem_toFinset.1 hid)).2
  · rw [Option.elim_some, horacle]
    exact Bool.false_ne_true

/-- The outcome check passes once the outcome is set. -/
theorem outcomeFinding_passes {k : Kernel} {s : KernelState} (h : OutcomeSet k s.projection) :
    (outcomeFinding s).status = "pass" := by
  obtain ⟨⟨o, -, ho⟩, hsource⟩ := h
  unfold outcomeFinding
  rw [auditCheck_status, ho]
  refine decide_eq_true ⟨hsource, ?_⟩
  cases o <;> decide

/-! ## The probes and the ledger -/

/-- An event of a verb is listed if one happened. -/
theorem acceptedEvents_ne_nil {v : Verb} {s : KernelState} :
    acceptedEvents s.events v ≠ [] ↔ Happened v s := by
  rw [acceptedEvents, Ne, List.filter_eq_nil_iff]
  push Not
  simp [Happened, Accepted]

/-- The oracle check passes just where a call was denied at the boundary. -/
theorem oracleFinding_passes_iff {k : Kernel} {cs : List Command} :
    (oracleFinding (k.run cs)).status = "pass" ↔
      ∃ d ∈ (k.run cs).denials, d.reason = .oracleBoundary := by
  have hnone : acceptedEvents (k.run cs).events .readOracle = [] :=
    not_not.1 fun h => not_happened_readOracle cs (acceptedEvents_ne_nil.1 h)
  unfold oracleFinding
  rw [auditCheck_status, hnone, decide_eq_true_iff, oracleDenials, Ne, List.filter_eq_nil_iff]
  push Not
  simp

/-- Where every opening has an earlier gate and the times are in order, the first gate is earlier
than the first opening. -/
theorem gateOrderOk_of_precedes {events : List Event}
    (hgated : Trace.Precedes events (Accepted .recordLawyerGate) (Accepted .openMatter))
    (htimes : events.Pairwise fun e e' => e.simulatedAt < e'.simulatedAt)
    (hopened : ∃ e ∈ events, Accepted .openMatter e) : gateOrderOk events = true := by
  obtain ⟨e, he, hev⟩ := hopened
  have hne : acceptedEvents events .openMatter ≠ [] := by
    intro hnil
    exact List.filter_eq_nil_iff.1 hnil e he (decide_eq_true hev)
  obtain ⟨opening, later, hopening⟩ := List.exists_cons_of_ne_nil hne
  have hmem : opening ∈ events.filter (·.eventType = Verb.openMatter.acceptedType) := by
    change opening ∈ acceptedEvents events .openMatter
    rw [hopening]
    exact .head _
  obtain ⟨hin, htype⟩ := List.mem_filter.1 hmem
  obtain ⟨pre, post, rfl⟩ := List.append_of_mem hin
  obtain ⟨g, hg, hgate⟩ := hgated pre opening post rfl (of_decide_eq_true htype)
  have hpre : pre.filter (·.eventType = Verb.recordLawyerGate.acceptedType) ≠ [] := by
    intro hnil
    exact List.filter_eq_nil_iff.1 hnil g hg (decide_eq_true hgate)
  obtain ⟨gate, gates, hgates⟩ := List.exists_cons_of_ne_nil hpre
  have hfirst : gate ∈ pre := by
    have hgate' : gate ∈ pre.filter (·.eventType = Verb.recordLawyerGate.acceptedType) := by
      rw [hgates]
      exact .head _
    exact (List.mem_filter.1 hgate').1
  have hall : acceptedEvents (pre ++ opening :: post) .recordLawyerGate = gate :: (gates ++
      (opening :: post).filter (·.eventType = Verb.recordLawyerGate.acceptedType)) := by
    rw [acceptedEvents, List.filter_append, hgates]
    rfl
  unfold gateOrderOk
  rw [hall, hopening]
  exact decide_eq_true ((List.pairwise_append.1 htimes).2.2 gate hfirst opening (.head _))

/-- The count of bypasses is never written. -/
theorem humanGateBypasses_run {k : Kernel} (cs : List Command) :
    (k.run cs).projection.humanGateBypasses = 0 := by
  refine Machine.run_invariant (I := fun s : KernelState => s.projection.humanGateBypasses = 0)
    (fun s c h => ?_) rfl cs
  rcases step_part k s c .constants (by decide) with hsame | ⟨a, -, hw⟩
  · exact hsame.2.1.trans h
  · exact absurd hw (by cases a.verb <;> decide)

/-- The gate check passes where opening was denied for want of authority and no hold is left. -/
theorem gateFinding_passes_iff {k : Kernel} {cs : List Command}
    (hgated : Trace.Precedes (k.run cs).events (Accepted .recordLawyerGate) (Accepted .openMatter))
    (hopened : Happened .openMatter (k.run cs)) :
    (gateFinding (k.run cs)).status = "pass" ↔
      (∃ d ∈ (k.run cs).denials, d.reason = .missingAuthority ∧ "matter_opening" ∈ d.missing) ∧
        (k.run cs).projection.authorityHolds = ∅ := by
  unfold gateFinding
  rw [auditCheck_status, decide_eq_true_iff, gateOrderOk_of_precedes hgated (timed_run cs).ordered
    hopened, humanGateBypasses_run, conflictDenials, Ne, List.filter_eq_nil_iff]
  push Not
  simp

/-- The finance check passes where the books balance, the appeal recovered something and nothing is
receivable. -/
theorem financeFinding_passes_iff {s : KernelState} :
    (∃ f, financeFinding s = .ok f ∧ f.status = "pass") ↔
      s.projection.finance.invariantErrors = .ok [] ∧
        Amount.lt Amount.zero s.projection.finance.appealRecovery = .ok true ∧
        Amount.eq s.projection.finance.accountsReceivable Amount.zero = .ok true := by
  constructor
  · rintro ⟨f, hf, hpass⟩
    unfold financeFinding at hf
    obtain ⟨errors, herrors, hf⟩ := except_bind_eq_ok.1 hf
    obtain ⟨passed, hpassed, hf⟩ := except_bind_eq_ok.1 hf
    cases hf
    rw [auditCheck_status] at hpass
    subst hpass
    unfold financeOk at hpassed
    split at hpassed
    · cases hpassed
    next hnil =>
    obtain ⟨appealed, happealed, hpaid⟩ := except_bind_eq_ok.1 hpassed
    cases appealed with
    | false => cases hpaid
    | true => exact ⟨not_not.1 hnil ▸ herrors, happealed, hpaid⟩
  · rintro ⟨herrors, happealed, hpaid⟩
    have hok : financeOk s.projection.finance [] = .ok true := by
      unfold financeOk
      rw [if_neg (not_not.2 rfl), happealed]
      exact hpaid
    unfold financeFinding
    dsimp only
    rw [herrors, ok_bind, hok, ok_bind]
    exact ⟨_, rfl, rfl⟩

/-! ## Runs that preserve once -/

/-- A run preserves first if it preserves once, and touches no evidence before. -/
theorem preservesFirst_of_once {k : Kernel} {pre post : List Command} {c : Command}
    (hpre : ∀ x ∈ pre, x.verb ∉ evidenceVerbs.map Verb.name)
    (hpost : ∀ x ∈ post, x.verb ≠ Verb.issuePreservation.name) :
    Machine.AllSteps k.step (PreservesFirst k) k.initial (pre ++ c :: post) := by
  have hempty : (k.run pre).projection.custodyLog = ∅ := by
    refine Machine.run_invariant_of (C := fun _ x => x.verb ∉ evidenceVerbs.map Verb.name)
      (I := fun s : KernelState => s.projection.custodyLog = ∅) (fun s x hs hx => ?_) rfl
      (.of_forall_mem (fun x hx _ => hpre x hx) _)
    rcases step_part k s x .evidence (by decide) with hsame | ⟨a, ha, hw⟩
    · exact hsame.2.trans hs
    · rw [← Verb.name_of_ofName? (admit_ok ha).verb] at hx
      exact absurd (List.mem_map_of_mem (mem_evidenceVerbs hw)) hx
  rw [Machine.allSteps_append]
  refine ⟨.of_forall_mem (fun x hx _ => preservesFirst_of_verb fun hv => ?_) _, ?_,
    .of_forall_mem (fun x hx _ => preservesFirst_of_verb (hpost x hx)) _⟩
  · exact hpre x hx (by rw [hv]; decide)
  · intro a _ _ id
    have hlog : (k.run pre).projection.log id = [] := by
      rw [Projection.log, hempty]
      rfl
    exact (congrArg List.length hlog).trans_le (Nat.zero_le 1)

/-! ## Closed matters -/

section
variable {k : Kernel} {cs : List Command} (hk : k.bundle.Employment)
  (hw : Machine.AllSteps k.step (AdmitsWritable k) k.initial cs)

include hk hw

/-- Every artifact of a run has its provenance. -/
theorem provenance_run : Provenance k (k.run cs) := by
  have hinv : AllSeated k (k.run cs) ∧ Provenance k (k.run cs) :=
    Machine.run_invariant_of (I := fun s => AllSeated k s ∧ Provenance k s)
      (fun _ _ hI hc => ⟨hI.1.step, hI.2.step hk hI.1 hc⟩)
      ⟨allSeated_initial k, provenance_initial hk⟩ hw
  exact hinv.2

/-- The stages of a closed matter, up to its resolution, all happened. -/
theorem stages_of_closed (hclosed : (k.run cs).projection.closed = true) :
    ∀ v ∈ (stages k.route).take 11, Happened v (k.run cs) := by
  have hfinal : Happened .finalizeCloseout (k.run cs) :=
    (provenance_run hk hw).reconciled (closedMet_run cs hclosed (by decide))
  have hchain := (guards_stages hk).imp fun A B hg => precedes_run hk hg hw
  have hpair := List.pairwise_map.1 (Trace.pairwise_of_isChain ((List.isChain_map Accepted).2 hchain))
  rw [← List.take_append_drop 11 (stages k.route)] at hpair
  intro v hv
  have hprecedes := (List.pairwise_append.1 hpair).2.2 v hv .finalizeCloseout (.head _)
  obtain ⟨e, he, hev⟩ := hfinal
  obtain ⟨pre, post, hsplit⟩ := List.append_of_mem he
  obtain ⟨x, hx, hxv⟩ := hprecedes pre e post hsplit hev
  exact ⟨x, hsplit ▸ List.mem_append_left _ hx, hxv⟩

/-- The lawyer gate comes before the opening of the matter. -/
theorem gated_run : Trace.Precedes (k.run cs).events (Accepted .recordLawyerGate)
    (Accepted .openMatter) :=
  precedes_run hk (guards_of_requires hk (by decide)) hw

/-- A report that passes is one of a vetted matter. -/
theorem vetted_of_passed (hpassed : (audit k (k.run cs)).map (·.passed) = .ok true) :
    Vetted k (k.run cs) := by
  obtain ⟨custody, finance, -, hfinance, hall⟩ := passed_iff.1 hpassed
  simp only [List.forall_mem_cons] at hall
  obtain ⟨horacle, hgate, hdeadlines, -, -, -, -, -, hpaid, hclose, -, -⟩ := hall
  have hclosed : (k.run cs).projection.closed = true := by
    unfold closeFinding at hclose
    rw [auditCheck_status, decide_eq_true_iff] at hclose
    exact hclose.1
  have hopened := stages_of_closed hk hw hclosed .openMatter (by simp [stages])
  obtain ⟨hprobed, hreleased⟩ := (gateFinding_passes_iff (gated_run hk hw) hopened).1 hgate
  obtain ⟨herrors, happealed, hzero⟩ := financeFinding_passes_iff.1 ⟨finance, hfinance, hpaid⟩
  exact ⟨hclosed, oracleFinding_passes_iff.1 horacle, hprobed, hreleased, hdeadlines, herrors,
    happealed, hzero⟩

/-- The report on a vetted matter passes. -/
theorem passed_of_vetted (hfirst : Machine.AllSteps k.step (PreservesFirst k) k.initial cs)
    (h : Vetted k (k.run cs)) : (audit k (k.run cs)).map (·.passed) = .ok true := by
  have hstages := stages_of_closed hk hw h.closed
  have hproduced := mark_production.run cs (hstages _ (by simp [stages]))
  have hcustody : ProductionsInCustody k (k.run cs).projection :=
    InCustody.productions hk (Machine.run_invariant_of
      (I := fun s => InCustody k.bundle.matter.evidenceInventory s.projection)
      (fun s c hi hc => (custody_step hk hc hi).1) inCustody_initial hfirst)
  obtain ⟨custody, hcustodyFinding, hcustodyPass⟩ := custodyFinding_passes hk hcustody hproduced
  obtain ⟨finance, hfinance, hfinancePass⟩ :=
    financeFinding_passes_iff.2 ⟨h.errors, h.appealed, h.paid⟩
  refine passed_iff.2 ⟨custody, finance, hcustodyFinding, hfinance, ?_⟩
  have hclose : (closeFinding (k.run cs)).status = "pass" := by
    unfold closeFinding
    rw [auditCheck_status]
    exact decide_eq_true ⟨h.closed, closedMet_run cs h.closed⟩
  simp only [List.forall_mem_cons, List.not_mem_nil, false_implies, implies_true, and_true]
  exact ⟨oracleFinding_passes_iff.2 h.oracleProbed,
    (gateFinding_passes_iff (gated_run hk hw) (hstages _ (by simp [stages]))).2
      ⟨h.openingProbed, h.released⟩,
    h.deadlines, conflictFinding_passes hk hproduced, hcustodyPass,
    depositionFinding_passes (mark_deposition.run cs (hstages _ (by simp [stages]))),
    expertFinding_passes (mark_opinion.run cs (hstages _ (by simp [stages]))),
    voiceFinding_passes hk hproduced, hfinancePass, hclose,
    outcomeFinding_passes (mark_outcome.run cs (hstages _ (by simp [stages])))⟩

/-- **What the auditor asks for.** Over a built bundle, after every run of writable payloads
that preserves first, a report passes exactly if the matter is closed and vetted. -/
theorem audit_passes_iff (hfirst : Machine.AllSteps k.step (PreservesFirst k) k.initial cs) :
    (audit k (k.run cs)).map (·.passed) = .ok true ↔ Vetted k (k.run cs) :=
  ⟨vetted_of_passed hk hw, passed_of_vetted hk hw hfirst⟩

end

/-- The scripted workflow is such a run. -/
theorem audit_passes_iff_alpha :
    (audit alphaKernel (alphaKernel.run alphaWorkflow)).map (·.passed) = .ok true ↔
      Vetted alphaKernel (alphaKernel.run alphaWorkflow) := by
  obtain ⟨preserve, hdrop⟩ : ∃ c, alphaWorkflow.drop 6 = c :: alphaWorkflow.drop 7 :=
    ⟨_, List.drop_eq_getElem_cons (by decide +kernel)⟩
  refine audit_passes_iff alphaKernel_employment
    (.of_forall_mem (fun c hc _ _ _ => alphaWorkflow_writable c hc) _) ?_
  rw [← List.take_append_drop 6 alphaWorkflow, hdrop]
  exact preservesFirst_of_once (by decide +kernel) (by decide +kernel)

end LawFirmDigitalTwin
