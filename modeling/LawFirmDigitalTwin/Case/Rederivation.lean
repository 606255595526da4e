import LawFirmDigitalTwin.Lib.Returns
import LawFirmDigitalTwin.Case.Compilation

/-!
# Where the validator raises

Of all that `validate_case_compilation` does, only the digests and the constructors raise that
derive the view and the projection of a renderer again: the digests where an integer has too many
digits to be written (`Hashable`). Whether a plan's state knows its assertions, and whether it is a
state of the plan's author and day, is checked before; but a check that fails leaves a finding and
the pass goes on. What guards the constructors is whether the renderer's view is one of the
compilation's and carries the hash of the state (`Reaches`).
-/

namespace LawFirmDigitalTwin

open Raising

namespace CaseCompilation

/-- The validator gets to derive the view of a plan's renderer again, from a state. -/
structure Reaches (c : CaseCompilation) (plan : ArtifactPlan) (renderer : RendererArtifactProjection)
    (state : PersonaStateSnapshot) : Prop where
  bound : (projectionByPlan c.rendererProjections).get? plan.planId = some renderer
  planHash : renderer.planHash = plan.planHash
  trusted : c.viewById.get? renderer.personaView.viewId = some renderer.personaView
  stateOf : c.stateOf plan = some state
  stateHash : renderer.personaView.personaStateHash = state.stateHash

/-- The state knows the assertions of the plan; and where the view is the one it gives of them, it
is a state of the plan's scope, author and day. -/
structure Rederivable (plan : ArtifactPlan) (view : RendererPersonaView)
    (state : PersonaStateSnapshot) : Prop where
  facts : plan.allowedAssertions.map (·.factId) ⊆ state.knowledgeFactIds
  assertions : plan.allowedAssertions.map (·.assertionId) ⊆ state.knowledgeAssertionIds
  agrees : view = state.viewOf (sorted (plan.allowedAssertions.map (·.factId)).toFinset)
      (sorted (plan.allowedAssertions.map (·.assertionId)).toFinset) →
    state.worldNamespace = plan.worldNamespace ∧ state.matterNamespace = plan.matterNamespace ∧
      state.actorId = plan.authorId ∧ state.asOfDay = plan.createdDay ∧
      state.stateHash = plan.personaStateHash ∧ state.coreRevision = personaCoreRevision

/-- The integers of a compilation, and of the manifest of its family, can be written. -/
def Hashable (c : CaseCompilation) (registry : CapabilityRegistry) : Prop :=
  c.toJson.writable = true ∧
    ∀ family, c.family registry = some family → family.toJson.writable = true

variable {c : CaseCompilation} {registry : CapabilityRegistry} {plan : ArtifactPlan}
  {renderer : RendererArtifactProjection} {state : PersonaStateSnapshot}

/-- The digests return exactly where the integers can be written. -/
theorem returns_checkHashes : Returns (c.checkHashes registry) ↔ c.Hashable registry := by
  unfold checkHashes Hashable
  rw [returns_bind]
  simp only [checkWritable_eq_ok, exists_const]
  refine and_congr_right fun _ => ?_
  cases c.family registry with
  | none => simp
  | some family => simp [Returns]

/-- The state that a plan names has the identity it names. -/
theorem stateId_of_stateOf (h : c.stateOf plan = some state) :
    state.stateId = plan.personaStateId := (PyDict.mem_of_get?_keyed h).2

/-- **Deriving the view and the projection again returns** exactly where state and plan fit. -/
theorem returns_rederivedFindings (hid : state.stateId = plan.personaStateId) :
    Returns (rederivedFindings plan renderer state) ↔
      Rederivable plan renderer.personaView state := by
  unfold rederivedFindings
  simp only [returns_bind, projectPersonaForRenderer_eq_ok]
  constructor
  · rintro ⟨view, ⟨hfacts, hassertions, rfl⟩, hreturns⟩
    refine ⟨hfacts, hassertions, fun hview => ?_⟩
    rw [if_neg (not_not.2 hview)] at hreturns
    obtain ⟨projection, hbuild, -⟩ := returns_bind.1 hreturns
    have h := (buildRendererProjection_eq_ok.1 hbuild).1
    exact ⟨h.worldNamespace, h.matterNamespace, h.author, h.day, h.current, h.coreRevision⟩
  · rintro ⟨hfacts, hassertions, hagrees⟩
    refine ⟨_, ⟨hfacts, hassertions, rfl⟩, ?_⟩
    by_cases hview : renderer.personaView = state.viewOf
        (sorted (plan.allowedAssertions.map (·.factId)).toFinset)
        (sorted (plan.allowedAssertions.map (·.assertionId)).toFinset)
    · obtain ⟨hworld, hmatter, hauthor, hday, hhash, hrevision⟩ := hagrees hview
      rw [if_neg (not_not.2 hview), returns_bind]
      exact ⟨_, buildRendererProjection_eq_ok.2 ⟨⟨hworld, hmatter, hauthor, hday, hid, hhash,
        hrevision, hhash, hfacts, hassertions, rfl⟩, rfl⟩, returns_pure _⟩
    · rw [if_pos hview]
      exact returns_pure _

/-- The check of a view returns where the view can be derived again. -/
theorem returns_viewFindings :
    Returns (c.viewFindings plan renderer) ↔
      (c.viewById.get? renderer.personaView.viewId = some renderer.personaView →
        ∀ state, c.stateOf plan = some state →
          renderer.personaView.personaStateHash = state.stateHash →
            Rederivable plan renderer.personaView state) := by
  unfold viewFindings
  split
  · next hview => exact iff_of_true (returns_pure _) fun h => absurd h hview
  · next hview =>
    rw [ne_eq, not_not] at hview
    cases hstate : c.stateOf plan with
    | none =>
      refine iff_of_true (returns_pure _) ?_
      rintro - _ ⟨⟩
    | some state =>
      by_cases hhash : renderer.personaView.personaStateHash = state.stateHash
      · simp only [if_neg (not_not.2 hhash), returns_rederivedFindings (stateId_of_stateOf hstate)]
        constructor
        · rintro h - _ ⟨⟩ -
          exact h
        · exact fun h => h hview state rfl hhash
      · simp only [if_pos hhash]
        refine iff_of_true (returns_pure _) ?_
        rintro - _ ⟨⟩ h
        exact absurd h hhash

/-- A pass of the loop returns exactly where what it reaches can be derived again. -/
theorem returns_planFindings :
    Returns (c.planFindings registry plan) ↔
      ∀ renderer state, c.Reaches plan renderer state →
        Rederivable plan renderer.personaView state := by
  unfold planFindings
  cases hrenderer : (projectionByPlan c.rendererProjections).get? plan.planId with
  | none =>
    refine iff_of_true (returns_pure _) fun renderer state h => ?_
    rw [h.bound] at hrenderer
    cases hrenderer
  | some found =>
    by_cases hhash : found.planHash = plan.planHash
    · simp only [hhash, ne_eq, not_true_eq_false, if_false]
      rw [returns_bind_of_forall fun findings => returns_pure _, returns_viewFindings]
      constructor
      · intro hreturns renderer state h
        cases hrenderer.symm.trans h.bound
        exact hreturns h.trusted state h.stateOf h.stateHash
      · exact fun h hview state hstate hstateHash =>
          h found state ⟨hrenderer, hhash, hview, hstate, hstateHash⟩
    · simp only [ne_eq, hhash, not_false_eq_true, if_true]
      refine iff_of_true (returns_pure _) fun renderer state h => ?_
      cases hrenderer.symm.trans h.bound
      exact absurd h.planHash hhash

end CaseCompilation

/-- **The validator reports** exactly where the integers of the compilation can be written and, for
every plan whose renderer's view is one of the compilation's and carries the hash of the plan's
state, the state knows what the plan asserts and fits the plan. -/
theorem validateCaseCompilation_reports_iff (c : CaseCompilation) (registry : CapabilityRegistry) :
    (∃ report, validateCaseCompilation c registry = .ok report ∧
      (report.passed = false ↔ report.findings ≠ [])) ↔
      c.Hashable registry ∧
        ∀ plan ∈ c.artifactPlans, ∀ renderer state, c.Reaches plan renderer state →
          CaseCompilation.Rederivable plan renderer.personaView state := by
  have hreturns : Returns (validateCaseCompilation c registry) ↔ c.Hashable registry ∧
      ∀ plan ∈ c.artifactPlans, Returns (c.planFindings registry plan) := by
    unfold validateCaseCompilation
    rw [returns_bind_of_iff fun _ _ => returns_bind_of_forall fun findings => returns_pure _,
      CaseCompilation.returns_checkHashes, returns_mapM]
  simp only [← @CaseCompilation.returns_planFindings c registry]
  rw [← hreturns]
  refine exists_congr fun report => and_iff_left_of_imp fun h => ?_
  obtain ⟨-, -, h⟩ := except_bind_eq_ok.1 h
  obtain ⟨findings, -, h⟩ := except_bind_eq_ok.1 h
  cases h
  rw [← Bool.not_eq_true, List.isEmpty_iff]

/-! ## A compilation that escapes -/

/-- A state that knows nothing. -/
def blankState : PersonaStateSnapshot where
  stateId := "PSTATE-1"
  worldNamespace := "WNS-1"
  matterNamespace := "MNS-1"
  actorId := "manager_witness"
  roleId := "manager"
  organization := "employer"
  asOfDay := 38
  revision := 1
  syntheticContext := ""
  trainingContext := ""
  activeGoals := []
  workingStyle := ""
  workloadBand := "low"
  stressBand := "settled"
  attentionFocus := ""
  memoryMode := []
  voiceConstraints := []
  channelHabits := []
  knowledgeFactIds := []
  knowledgeAssertionIds := []
  authorityIds := []
  relationshipIds := []
  priorStateHash := none

/-- A plan that asserts something the state does not know. -/
def strayPlan : ArtifactPlan where
  planId := "APLAN-1"
  worldNamespace := "WNS-1"
  matterNamespace := "MNS-1"
  capabilityId := "evidence.employment_email.v1"
  capabilityRevision := "1"
  familyId := "employment_email"
  channelKind := "email"
  authorId := "manager_witness"
  recipientIds := []
  createdDay := 38
  allowedAssertions := [⟨"WNS-1", "MNS-1", "manager_witness", "decision_status", "final",
    "sealed_synthetic_claim", "CLAIM-1", 38⟩]
  requiredMetadataKeys := []
  simulatedTargetNativeFormat := "application/json"
  responsive := true
  privileged := false
  availability := "discoverable"
  personaStateId := "PSTATE-1"
  personaStateHash := blankState.stateHash
  knowledgeFrontierHash := ""
  lineage := ⟨"ART-1", "ART-1-V1", 1, none, none, none⟩
  purposeCommitment := ""

/-- A compilation of the plan, with the view that the state gives of nothing. -/
def strayCompilation : CaseCompilation where
  compilationId := "COMPILE-1"
  compilerRevision := caseCompilerRevision
  schemaRevision := projectionSchemaRevision
  sourceBlueprint := ⟨"DESIGN-1", "seed-1", 1, "employment_retaliation", [], []⟩
  sourceBlueprintCommitment := ""
  presentationScopeCommitment := ""
  sealed := ⟨"SEALED-1", "WNS-1", "MNS-1", "employment_retaliation", "", [], [], "", "", "", "", [],
    [], "", caseCompilerRevision, projectionSchemaRevision⟩
  operating := ⟨"OPROJ-1", "employment_retaliation", "", "", caseCompilerRevision,
    projectionSchemaRevision, true, true, [], [], 1⟩
  evaluation := ⟨"EVAL-1", "employment_retaliation", [], [], [], [], "", caseCompilerRevision, true,
    false⟩
  personaStates := [blankState]
  rendererViews := [blankState.viewOf [] []]
  artifactPlans := [strayPlan]
  rendererProjections := [projectionOf strayPlan (blankState.viewOf [] [])]
  stagedArtifacts := []
  localShapeReceipts := []
  artifactProductionManifests := []
  artifactMeshReceipts := []

/-- The integers can be written, and yet there is no report: the plan asserts what its state does
not know. -/
theorem validateCaseCompilation_reports_iff_stray :
    strayCompilation.Hashable ⟨[], [], [], []⟩ ∧
      ¬ ∃ report, validateCaseCompilation strayCompilation ⟨[], [], [], []⟩ = .ok report ∧
        (report.passed = false ↔ report.findings ≠ []) := by
  have hreaches : strayCompilation.Reaches strayPlan
      (projectionOf strayPlan (blankState.viewOf [] [])) blankState :=
    { bound := PyDict.get?_keyed_singleton _ _
      planHash := rfl
      trusted := PyDict.get?_keyed_singleton _ _
      stateOf := PyDict.get?_keyed_singleton PersonaStateSnapshot.stateId blankState
      stateHash := rfl }
  refine ⟨⟨by decide +kernel, nofun⟩, fun h => ?_⟩
  have hrederivable := ((validateCaseCompilation_reports_iff _ _).1 h).2 strayPlan (.head _) _ _
    hreaches
  cases hrederivable.facts (.head _)

end LawFirmDigitalTwin
