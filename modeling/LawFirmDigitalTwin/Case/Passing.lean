import LawFirmDigitalTwin.Evidence.Identity
import LawFirmDigitalTwin.Evidence.MeshDuties
import LawFirmDigitalTwin.Case.Rederivation

/-!
# Compilations without findings

What the forty-odd checks of `validate_case_compilation` come to for a plan on which none of them
reports anything: the plan has one capability, state, projection, artifact and receipt, and each of
them is the one that the plan determines (`PlanFits`).
-/

namespace LawFirmDigitalTwin

open Raising

/-- The checks of `validate_plan_authority`. -/
structure Authorized (plan : ArtifactPlan) (state : PersonaStateSnapshot)
    (capability : EvidenceFamilyCapability) : Prop where
  recipientPolicy : capability.recipientPolicyId = "case_scoped_relationship_grant.v1"
  revision : capability.revision = plan.capabilityRevision
  family : capability.familyId = plan.familyId
  capabilityId : capability.capabilityId = plan.capabilityId
  worldNamespace : state.worldNamespace = plan.worldNamespace
  matterNamespace : state.matterNamespace = plan.matterNamespace
  author : state.actorId = plan.authorId
  role : state.roleId ∈ capability.allowedAuthorRoles
  day : state.asOfDay = plan.createdDay
  assertions : plan.allowedAssertions.map (·.assertionId) ⊆ state.knowledgeAssertionIds
  recipients : plan.recipientIds.map (relationshipId plan.worldNamespace plan.authorId) ⊆
    state.relationshipIds

/-- A plan has its authority where the checks of it pass. -/
theorem validatePlanAuthority_eq_nil {plan : ArtifactPlan} {state : PersonaStateSnapshot}
    {capability : EvidenceFamilyCapability} :
    validatePlanAuthority plan state capability = [] ↔ Authorized plan state capability := by
  simp only [validatePlanAuthority, errorsIf_eq_nil, List.forall_mem_cons, List.not_mem_nil,
    false_implies, implies_true, and_true, decide_eq_false_iff_not, not_not, not_or]
  constructor
  · rintro ⟨hpolicy, hrevision, ⟨hfamily, hcapability⟩, hworld, hmatter, hauthor, hrole, hday,
      hassertions, hrecipients⟩
    exact ⟨hpolicy, hrevision, hfamily, hcapability, hworld, hmatter, hauthor, hrole, hday,
      hassertions, hrecipients⟩
  · rintro ⟨hpolicy, hrevision, hfamily, hcapability, hworld, hmatter, hauthor, hrole, hday,
      hassertions, hrecipients⟩
    exact ⟨hpolicy, hrevision, ⟨hfamily, hcapability⟩, hworld, hmatter, hauthor, hrole, hday,
      hassertions, hrecipients⟩

/-- A shape receipt has no findings where it is the one that is issued. -/
theorem validateLocalShapeReceipt_eq_nil {receipt : LocalArtifactShapeReceipt}
    {staged : StagedArtifact} {projection : RendererArtifactProjection} :
    validateLocalShapeReceipt receipt staged projection = [] ↔
      (validateStagedArtifact staged projection).passed = true ∧
        receipt = shapeReceiptOf staged (validateStagedArtifact staged projection) := by
  unfold validateLocalShapeReceipt
  by_cases hpassed : (validateStagedArtifact staged projection).passed = true
  · simp only [hpassed, Bool.true_eq_false, if_false, true_and]
    exact ite_eq_left_iff.trans ⟨fun h => by_contra fun hne => List.cons_ne_nil _ _ (h hne),
      fun h hne => absurd h hne⟩
  · rw [Bool.not_eq_true] at hpassed
    simp only [hpassed, if_true, Bool.false_eq_true, false_and, iff_false]
    exact List.cons_ne_nil _ _

/-- A staged artifact passes where it has no findings. -/
theorem validateStagedArtifact_findings {staged : StagedArtifact}
    {projection : RendererArtifactProjection} :
    (validateStagedArtifact staged projection).findings = [] ↔
      (validateStagedArtifact staged projection).passed = true := List.isEmpty_iff.symm

namespace CaseCompilation

variable {c : CaseCompilation} {registry : CapabilityRegistry} {plan : ArtifactPlan}

/-- A plan on which no check reports anything. -/
structure PlanFits (c : CaseCompilation) (registry : CapabilityRegistry) (plan : ArtifactPlan)
    (capability : EvidenceFamilyCapability) (state : PersonaStateSnapshot)
    (renderer : RendererArtifactProjection) (staged : StagedArtifact)
    (receipt : LocalArtifactShapeReceipt) : Prop where
  found : registry.evidenceById.get? plan.capabilityId = some capability
  active : capability.readiness = "active_g2"
  grounded : ∀ a ∈ plan.allowedAssertions, a.assertionId ∈ sealedAssertionGrantIds c.sealed
  worldNamespace : plan.worldNamespace = c.sealed.worldNamespace
  matterNamespace : plan.matterNamespace = c.sealed.matterNamespace
  stateOf : c.stateOf plan = some state
  stateValid : validatePersonaSnapshot state = []
  authorized : Authorized plan state capability
  bound : (projectionByPlan c.rendererProjections).get? plan.planId = some renderer
  trusted : c.viewById.get? renderer.personaView.viewId = some renderer.personaView
  renderable : Renderable plan renderer.personaView state
  canonical : renderer = projectionOf plan renderer.personaView
  stagedOf : (stagedByPlan c.stagedArtifacts).get? plan.planId = some staged
  stagedValid : (validateStagedArtifact staged renderer).passed = true
  receiptFound : (shapeByPlanHash c.localShapeReceipts).get? plan.planHash = some receipt
  receiptOf : receipt = shapeReceiptOf staged (validateStagedArtifact staged renderer)

/-- A plan has an active capability, in its revision. -/
theorem capabilityFindings_eq_nil :
    capabilityFindings registry plan = [] ↔
      ∃ capability, registry.evidenceById.get? plan.capabilityId = some capability ∧
        capability.readiness = "active_g2" ∧ plan.capabilityRevision = capability.revision := by
  unfold capabilityFindings
  cases registry.evidenceById.get? plan.capabilityId with
  | none => simp
  | some capability =>
    by_cases hactive : capability.readiness = "active_g2" <;> simp [hactive, errorsIf_eq_nil]

/-- A plan is grounded in the sealed state. -/
theorem groundingFindings_eq_nil :
    c.groundingFindings plan = [] ↔
      (∀ a ∈ plan.allowedAssertions, a.assertionId ∈ sealedAssertionGrantIds c.sealed) ∧
        plan.worldNamespace = c.sealed.worldNamespace ∧
          plan.matterNamespace = c.sealed.matterNamespace := by
  simp [groundingFindings, errorsIf_eq_nil]

/-- A plan has its state. -/
theorem stateFindings_eq_nil :
    c.stateFindings plan = [] ↔
      ∃ state, c.stateOf plan = some state ∧ state.stateHash = plan.personaStateHash ∧
        validatePersonaSnapshot state = [] ∧ state.matterNamespace = c.sealed.matterNamespace ∧
          ∀ a ∈ plan.allowedAssertions, a.assertionId ∈ state.knowledgeAssertionIds := by
  unfold stateFindings
  cases c.stateOf plan with
  | none => simp
  | some state =>
    by_cases hhash : state.stateHash = plan.personaStateHash
    · by_cases hvalid : validatePersonaSnapshot state = []
      · by_cases hmatter : state.matterNamespace = c.sealed.matterNamespace <;>
          simp [hhash, hvalid, hmatter, errorsIf_eq_nil]
      · simp [hhash, hvalid]
    · simp [hhash]

/-- A projection is of the sealed scope and of the plan's revision. -/
theorem rendererFindings_eq_nil {renderer : RendererArtifactProjection} :
    c.rendererFindings plan renderer = [] ↔
      renderer.worldNamespace = c.sealed.worldNamespace ∧
        renderer.matterNamespace = c.sealed.matterNamespace ∧
          renderer.capabilityRevision = plan.capabilityRevision := by
  simp [rendererFindings, errorsIf_eq_nil]

/-- Deriving view and projection again gives the same. -/
theorem rederivedFindings_eq_nil {renderer : RendererArtifactProjection}
    {state : PersonaStateSnapshot} :
    rederivedFindings plan renderer state = .ok [] ↔
      Renderable plan renderer.personaView state ∧
        renderer = projectionOf plan renderer.personaView := by
  unfold rederivedFindings
  rw [except_bind_eq_ok]
  constructor
  · rintro ⟨view, hview, h⟩
    by_cases hcanonical : renderer.personaView = view
    · rw [if_neg (not_not.2 hcanonical)] at h
      obtain ⟨expected, hexpected, h⟩ := except_bind_eq_ok.1 h
      obtain ⟨hrenderable, hprojection⟩ := buildRendererProjection_eq_ok.1 hexpected
      have hnil := Except.ok.inj h
      simp only [errorsIf_eq_nil, List.mem_singleton, forall_eq, decide_eq_false_iff_not,
        not_not] at hnil
      rw [hcanonical]
      exact ⟨hrenderable, hnil.trans hprojection⟩
    · rw [if_pos hcanonical] at h
      exact absurd (Except.ok.inj h) (List.cons_ne_nil _ _)
  · rintro ⟨hrenderable, hcanonical⟩
    refine ⟨renderer.personaView, projectPersonaForRenderer_eq_ok.2
      ⟨hrenderable.facts, hrenderable.assertions, hrenderable.canonical⟩, ?_⟩
    rw [if_neg (not_not.2 rfl), except_bind_eq_ok]
    refine ⟨_, buildRendererProjection_eq_ok.2 ⟨hrenderable, rfl⟩, congrArg Except.ok ?_⟩
    simp only [errorsIf_eq_nil, List.mem_singleton, forall_eq, decide_eq_false_iff_not, not_not]
    exact hcanonical

/-- A projection has a view of the compilation, derived from the state of its plan. -/
theorem viewFindings_eq_nil {renderer : RendererArtifactProjection} :
    c.viewFindings plan renderer = .ok [] ↔
      c.viewById.get? renderer.personaView.viewId = some renderer.personaView ∧
        ∃ state, c.stateOf plan = some state ∧
          renderer.personaView.personaStateHash = state.stateHash ∧
            Renderable plan renderer.personaView state ∧
              renderer = projectionOf plan renderer.personaView := by
  unfold viewFindings
  by_cases htrusted : c.viewById.get? renderer.personaView.viewId = some renderer.personaView
  · rw [if_neg (not_not.2 htrusted)]
    cases c.stateOf plan with
    | none => simp [htrusted, pure, Except.pure]
    | some state =>
      by_cases hhash : renderer.personaView.personaStateHash = state.stateHash
      · simp only [if_neg (not_not.2 hhash), rederivedFindings_eq_nil]
        constructor
        · exact fun h => ⟨htrusted, state, rfl, hhash, h⟩
        · rintro ⟨-, _, ⟨⟩, -, h⟩
          exact h
      · simp only [if_pos hhash]
        refine iff_of_false (fun h => List.cons_ne_nil _ _ (Except.ok.inj h)) ?_
        rintro ⟨-, _, ⟨⟩, h, -⟩
        exact hhash h
  · rw [if_pos htrusted]
    exact iff_of_false (fun h => List.cons_ne_nil _ _ (Except.ok.inj h)) fun h => htrusted h.1

/-- A plan has a staged artifact and its shape receipt. -/
theorem stagedFindings_eq_nil {renderer : RendererArtifactProjection} :
    c.stagedFindings plan renderer = [] ↔
      ∃ staged receipt, (stagedByPlan c.stagedArtifacts).get? plan.planId = some staged ∧
        (validateStagedArtifact staged renderer).passed = true ∧
          (shapeByPlanHash c.localShapeReceipts).get? plan.planHash = some receipt ∧
            receipt = shapeReceiptOf staged (validateStagedArtifact staged renderer) := by
  unfold stagedFindings
  cases (stagedByPlan c.stagedArtifacts).get? plan.planId with
  | none => simp
  | some staged =>
    simp only [List.append_eq_nil_iff, List.map_eq_nil_iff, validateStagedArtifact_findings,
      Option.some.injEq, exists_and_left, exists_eq_left']
    refine and_congr_right fun hpassed => ?_
    unfold receiptFindings
    cases (shapeByPlanHash c.localShapeReceipts).get? plan.planHash with
    | none => simp
    | some receipt =>
      simp only [Option.some.injEq, exists_eq_left']
      by_cases hadmission : receipt.canonicalAdmission = false
      · rw [if_neg (not_not.2 hadmission), List.map_eq_nil_iff, validateLocalShapeReceipt_eq_nil]
        exact and_iff_right hpassed
      · rw [if_pos hadmission]
        refine iff_of_false (List.cons_ne_nil _ _) ?_
        rintro rfl
        exact hadmission rfl

/-- What is checked of a plan by itself. -/
theorem planOnlyFindings_eq_nil :
    c.planOnlyFindings registry plan = [] ↔
      capabilityFindings registry plan = [] ∧ c.groundingFindings plan = [] ∧
        c.stateFindings plan = [] ∧ c.authorityFindings registry plan = [] := by
  simp only [planOnlyFindings, List.append_eq_nil_iff, and_assoc]

/-- **A pass without findings** is one over a plan that fits. -/
theorem planFindings_eq_nil :
    c.planFindings registry plan = .ok [] ↔
      ∃ capability state renderer staged receipt,
        PlanFits c registry plan capability state renderer staged receipt := by
  constructor
  · intro h
    unfold planFindings at h
    cases hbound : (projectionByPlan c.rendererProjections).get? plan.planId with
    | none => simp [hbound, pure, Except.pure] at h
    | some renderer =>
      simp only [hbound] at h
      by_cases hplanHash : renderer.planHash = plan.planHash
      · rw [if_neg (not_not.2 hplanHash)] at h
        obtain ⟨findings, hview, h⟩ := except_bind_eq_ok.1 h
        have hnil := Except.ok.inj h
        simp only [List.append_eq_nil_iff] at hnil
        obtain ⟨⟨⟨honly, -⟩, rfl⟩, hstaged⟩ := hnil
        obtain ⟨hcapability, hgrounding, hstate, hauthority⟩ := planOnlyFindings_eq_nil.1 honly
        obtain ⟨capability, hcapability, hactive, -⟩ := capabilityFindings_eq_nil.1 hcapability
        obtain ⟨hgrounded, hworld, hmatter⟩ := groundingFindings_eq_nil.1 hgrounding
        obtain ⟨state, hstateOf, -, hvalid, -⟩ := stateFindings_eq_nil.1 hstate
        obtain ⟨htrusted, state', hstateOf', -, hrenderable, hcanonical⟩ :=
          viewFindings_eq_nil.1 hview
        cases hstateOf.symm.trans hstateOf'
        obtain ⟨staged, receipt, hstaged, hstagedValid, hreceipt, hreceiptOf⟩ :=
          stagedFindings_eq_nil.1 hstaged
        simp only [authorityFindings, hstateOf, hcapability, List.map_eq_nil_iff,
          validatePlanAuthority_eq_nil] at hauthority
        exact ⟨capability, state, renderer, staged, receipt, hcapability, hactive, hgrounded,
          hworld, hmatter, hstateOf, hvalid, hauthority, hbound, htrusted, hrenderable, hcanonical,
          hstaged, hstagedValid, hreceipt, hreceiptOf⟩
      · rw [if_pos hplanHash] at h
        simp [pure, Except.pure] at h
  · rintro ⟨capability, state, renderer, staged, receipt, h⟩
    have hplanHash : renderer.planHash = plan.planHash := by rw [h.canonical]; rfl
    have honly : c.planOnlyFindings registry plan = [] := by
      refine planOnlyFindings_eq_nil.2 ⟨capabilityFindings_eq_nil.2
        ⟨capability, h.found, h.active, h.authorized.revision.symm⟩,
        groundingFindings_eq_nil.2 ⟨h.grounded, h.worldNamespace, h.matterNamespace⟩,
        stateFindings_eq_nil.2 ⟨state, h.stateOf, h.renderable.current, h.stateValid,
          h.authorized.matterNamespace.trans h.matterNamespace,
          List.forall_mem_map.1 h.renderable.assertions⟩, ?_⟩
      simp only [authorityFindings, h.stateOf, h.found, List.map_eq_nil_iff,
        validatePlanAuthority_eq_nil]
      exact h.authorized
    have hrenderer : c.rendererFindings plan renderer = [] := by
      rw [h.canonical]
      exact rendererFindings_eq_nil.2 ⟨h.worldNamespace, h.matterNamespace, rfl⟩
    have hhash : renderer.personaView.personaStateHash = state.stateHash :=
      h.renderable.stateHash.trans h.renderable.current.symm
    have hview : c.viewFindings plan renderer = .ok [] := viewFindings_eq_nil.2
      ⟨h.trusted, state, h.stateOf, hhash, h.renderable, h.canonical⟩
    have hstaged : c.stagedFindings plan renderer = [] := stagedFindings_eq_nil.2
      ⟨staged, receipt, h.stagedOf, h.stagedValid, h.receiptFound, h.receiptOf⟩
    unfold planFindings
    rw [h.bound]
    simp only [if_neg (not_not.2 hplanHash), hview, honly, hrenderer, hstaged]
    rfl

/-! ## The compilation as a whole -/

/-- A compilation without findings. -/
structure Passing (c : CaseCompilation) (registry : CapabilityRegistry) : Prop where
  hashable : c.Hashable registry
  identity : c.identityFindings = []
  leaks : c.leakFindings = []
  pipeline : c.pipelineFindings = []
  lineage : validateLineageGraph c.artifactPlans c.stagedArtifacts = []
  plans : ∀ plan ∈ c.artifactPlans, ∃ capability state renderer staged receipt,
    PlanFits c registry plan capability state renderer staged receipt
  scope : ∃ family, c.family registry = some family ∧ family.readiness = "active_g2" ∧
    c.limitFindings registry family = [] ∧ (c.mesh registry family).findings = []
  commitments : c.commitmentFindings = []

/-- **A compilation passes its validation** exactly when no part of it has a finding. -/
theorem validate_passed_iff :
    (∃ report, validateCaseCompilation c registry = .ok report ∧ report.passed = true) ↔
      Passing c registry := by
  have hscope : c.familyFindings registry = [] ∧ c.scopeFindings registry = [] ↔
      ∃ family, c.family registry = some family ∧ family.readiness = "active_g2" ∧
        c.limitFindings registry family = [] ∧ (c.mesh registry family).findings = [] := by
    unfold familyFindings scopeFindings
    cases c.family registry with
    | none => simp
    | some family =>
      simp [errorsIf_eq_nil, meshFindings, ArtifactMesh.validate]
  have hvalidate : (∃ report, validateCaseCompilation c registry = .ok report ∧
      report.passed = true) ↔ c.Hashable registry ∧ ∃ planFindings,
        c.artifactPlans.mapM (c.planFindings registry) = .ok planFindings ∧
          (c.familyFindings registry ++ c.identityFindings ++ c.leakFindings ++
            c.pipelineFindings ++ c.lineageFindings ++ planFindings.flatten ++
              c.scopeFindings registry ++ c.commitmentFindings) = [] := by
    unfold validateCaseCompilation
    constructor
    · rintro ⟨report, h, hpassed⟩
      obtain ⟨_, hhashes, h⟩ := except_bind_eq_ok.1 h
      obtain ⟨planFindings, hplans, h⟩ := except_bind_eq_ok.1 h
      cases h
      exact ⟨returns_checkHashes.1 ⟨_, hhashes⟩, planFindings, hplans, List.isEmpty_iff.1 hpassed⟩
    · rintro ⟨hhashable, planFindings, hplans, h⟩
      obtain ⟨u, hhashes⟩ := returns_checkHashes.2 hhashable
      exact ⟨_, except_bind_eq_ok.2 ⟨u, hhashes, except_bind_eq_ok.2 ⟨planFindings, hplans, rfl⟩⟩,
        List.isEmpty_iff.2 h⟩
  rw [hvalidate]
  simp only [List.append_eq_nil_iff]
  constructor
  · rintro ⟨hhashable, planFindings, hplans,
      ⟨⟨⟨⟨⟨⟨hfamily, hidentity⟩, hleaks⟩, hpipeline⟩, hlineage⟩, hflat⟩, hscoped⟩, hcommitments⟩
    exact ⟨hhashable, hidentity, hleaks, hpipeline, List.map_eq_nil_iff.1 hlineage,
      fun plan hplan => planFindings_eq_nil.1
        (mapM_flatten_eq_nil.1 ⟨planFindings, hplans, hflat⟩ plan hplan),
      hscope.1 ⟨hfamily, hscoped⟩, hcommitments⟩
  · intro h
    obtain ⟨planFindings, hplans, hflat⟩ := mapM_flatten_eq_nil.2 fun plan hplan =>
      planFindings_eq_nil.2 (h.plans plan hplan)
    obtain ⟨hfamily, hscoped⟩ := hscope.2 h.scope
    exact ⟨h.hashable, planFindings, hplans, ⟨⟨⟨⟨⟨⟨hfamily, h.identity⟩, h.leaks⟩, h.pipeline⟩,
      List.map_eq_nil_iff.2 h.lineage⟩, hflat⟩, hscoped⟩, h.commitments⟩

/-- What is checked of the parallel lists. -/
structure Aligned (c : CaseCompilation) : Prop where
  planIds : (c.artifactPlans.map (·.planId)).Nodup
  stagedIds : (c.stagedArtifacts.map (·.stagedArtifactId)).Nodup
  rendererPlanIds : (c.rendererProjections.map (·.planId)).Nodup
  receiptIds : (c.localShapeReceipts.map (·.receiptId)).Nodup
  receiptPlanHashes : (c.localShapeReceipts.map (·.planHash)).Nodup
  viewIds : (c.rendererViews.map (·.viewId)).Nodup
  projections : c.artifactPlans.length = c.rendererProjections.length
  staged : c.rendererProjections.length = c.stagedArtifacts.length
  receipts : c.stagedArtifacts.length = c.localShapeReceipts.length
  manifests : c.localShapeReceipts.length = c.artifactProductionManifests.length
  meshReceipts : c.artifactProductionManifests.length = c.artifactMeshReceipts.length

/-- A list has no repetition where its elements are distinct. -/
theorem repeats_eq_false {items : List String} : repeats items = false ↔ items.Nodup := by
  rw [repeats, decide_eq_false_iff_not, not_not, eq_comm, ArtifactMesh.toFinset_card_eq_length]

/-- The pipeline has no findings where the lists run parallel. -/
theorem pipelineFindings_eq_nil : c.pipelineFindings = [] ↔ c.Aligned := by
  simp only [pipelineFindings, errorsIf_eq_nil, List.forall_mem_cons, List.not_mem_nil,
    false_implies, implies_true, and_true, repeats_eq_false, decide_eq_false_iff_not, not_not]
  constructor
  · rintro ⟨hplans, hstagedIds, hrenderers, hreceipts, hhashes, hviews, hprojections, hstaged,
      hshapes, hmanifests, hmesh⟩
    exact ⟨hplans, hstagedIds, hrenderers, hreceipts, hhashes, hviews, hprojections, hstaged,
      hshapes, hmanifests, hmesh⟩
  · rintro ⟨hplans, hstagedIds, hrenderers, hreceipts, hhashes, hviews, hprojections, hstaged,
      hshapes, hmanifests, hmesh⟩
    exact ⟨hplans, hstagedIds, hrenderers, hreceipts, hhashes, hviews, hprojections, hstaged,
      hshapes, hmanifests, hmesh⟩

end CaseCompilation

end LawFirmDigitalTwin
