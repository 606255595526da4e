import LawFirmDigitalTwin.Evidence.Staging

/-!
# Plans and renderer projections

The part of `evidence_contracts.py` before an artifact is rendered: `build_artifact_plan` binds an
artifact to the state of its author, `build_renderer_projection` hands the renderer what the plan
allows, and `validate_plan_authority` checks a plan against a state and a capability.
-/

namespace LawFirmDigitalTwin

/-- The relationship an author needs to write to a recipient. -/
def relationshipId (worldNamespace source target : String) : String :=
  "REL-" ++ firstChars 16 (digest (.dict
    [("world", .str worldNamespace), ("source", .str source), ("target", .str target)]))

/-- `evidence_contracts.py` `_required_metadata`. -/
def requiredMetadata (capability : EvidenceFamilyCapability) : List String :=
  sorted (["artifact_id", "created_day", "synthetic"] ++
    (if capability.requiresSender then ["author_id"] else []) ++
    (if capability.requiresRecipients then ["recipient_ids"] else []) ++
    (if capability.requiresContractLineage then ["version_id", "lineage_hash"] else [])).toFinset

/-- `evidence_contracts.py` `validate_plan_authority`. -/
def validatePlanAuthority (plan : ArtifactPlan) (state : PersonaStateSnapshot)
    (capability : EvidenceFamilyCapability) : List String :=
  errorsIf
    [(capability.recipientPolicyId ≠ "case_scoped_relationship_grant.v1",
        "recipient_policy_unsupported"),
     (capability.revision ≠ plan.capabilityRevision, "stale_capability_revision"),
     (capability.familyId ≠ plan.familyId ∨ capability.capabilityId ≠ plan.capabilityId,
        "capability_contract_mismatch"),
     (state.worldNamespace ≠ plan.worldNamespace, "cross_world_persona_state"),
     (state.matterNamespace ≠ plan.matterNamespace, "cross_matter_persona_state"),
     (state.actorId ≠ plan.authorId, "persona_author_mismatch"),
     (state.roleId ∉ capability.allowedAuthorRoles, "capability_author_unauthorized"),
     (state.asOfDay ≠ plan.createdDay, "persona_time_mismatch"),
     (¬ plan.allowedAssertions.map (·.assertionId) ⊆ state.knowledgeAssertionIds,
        "assertion_grant_violation"),
     (¬ plan.recipientIds.map (relationshipId plan.worldNamespace plan.authorId) ⊆
        state.relationshipIds, "recipient_relationship_unauthorized")]

/-- `evidence_contracts.py` `build_renderer_projection`: the projection it returns. -/
def projectionOf (plan : ArtifactPlan) (view : RendererPersonaView) :
    RendererArtifactProjection where
  projectionId := "RPROJ-" ++ firstChars 18 (digest (.dict
    [("plan", .str plan.planHash), ("persona", .str view.viewHash)]))
  planId := plan.planId
  planHash := plan.planHash
  worldNamespace := plan.worldNamespace
  matterNamespace := plan.matterNamespace
  capabilityId := plan.capabilityId
  capabilityRevision := plan.capabilityRevision
  familyId := plan.familyId
  channelKind := plan.channelKind
  authorId := plan.authorId
  recipientIds := plan.recipientIds
  createdDay := plan.createdDay
  allowedAssertions := plan.allowedAssertions
  requiredMetadataKeys := plan.requiredMetadataKeys
  simulatedTargetNativeFormat := plan.simulatedTargetNativeFormat
  personaView := view
  lineage := plan.lineage
  coreRevision := plan.coreRevision

/-- `evidence_contracts.py` `build_renderer_projection`. -/
def buildRendererProjection (plan : ArtifactPlan) (view : RendererPersonaView)
    (state : PersonaStateSnapshot) : Except ContractError RendererArtifactProjection := do
  if view.worldNamespace ≠ plan.worldNamespace then throw ⟨"cross_world_reference", []⟩
  if view.matterNamespace ≠ plan.matterNamespace then throw ⟨"cross_matter_reference", []⟩
  if view.actorId ≠ plan.authorId then throw ⟨"persona_author_mismatch", []⟩
  if view.asOfDay ≠ plan.createdDay then throw ⟨"persona_time_mismatch", []⟩
  if view.personaStateId ≠ plan.personaStateId then throw ⟨"stale_persona_state", []⟩
  if view.personaStateHash ≠ plan.personaStateHash then throw ⟨"stale_persona_state", []⟩
  if view.coreRevision ≠ personaCoreRevision then throw ⟨"stale_persona_revision", []⟩
  if state.stateHash ≠ plan.personaStateHash then throw ⟨"stale_persona_state", []⟩
  let expectedView ← projectPersonaForRenderer state (plan.allowedAssertions.map (·.factId))
    (plan.allowedAssertions.map (·.assertionId))
  if view ≠ expectedView then throw ⟨"noncanonical_persona_view", []⟩
  if ¬ plan.allowedAssertions.map (·.factId) ⊆ view.allowedFactIds then
    throw ⟨"knowledge_frontier_violation", []⟩
  if ¬ plan.allowedAssertions.map (·.assertionId) ⊆ view.allowedAssertionIds then
    throw ⟨"assertion_grant_violation", []⟩
  return projectionOf plan view

/-- What `build_renderer_projection` asks of a plan, a view and a state. -/
structure Renderable (plan : ArtifactPlan) (view : RendererPersonaView)
    (state : PersonaStateSnapshot) : Prop where
  worldNamespace : view.worldNamespace = plan.worldNamespace
  matterNamespace : view.matterNamespace = plan.matterNamespace
  author : view.actorId = plan.authorId
  day : view.asOfDay = plan.createdDay
  stateId : view.personaStateId = plan.personaStateId
  stateHash : view.personaStateHash = plan.personaStateHash
  coreRevision : view.coreRevision = personaCoreRevision
  current : state.stateHash = plan.personaStateHash
  facts : plan.allowedAssertions.map (·.factId) ⊆ state.knowledgeFactIds
  assertions : plan.allowedAssertions.map (·.assertionId) ⊆ state.knowledgeAssertionIds
  canonical : view = state.viewOf (sorted (plan.allowedAssertions.map (·.factId)).toFinset)
    (sorted (plan.allowedAssertions.map (·.assertionId)).toFinset)

/-- Sorting loses no element. -/
theorem subset_sorted_toFinset (l : List String) : l ⊆ sorted l.toFinset := fun _ ha =>
  mem_sorted.2 (List.mem_toFinset.2 ha)

/-- A plan that can be rendered from the view has its projection. -/
theorem buildRendererProjection_eq_ok {plan : ArtifactPlan} {view : RendererPersonaView}
    {state : PersonaStateSnapshot} {projection : RendererArtifactProjection} :
    buildRendererProjection plan view state = .ok projection ↔
      Renderable plan view state ∧ projection = projectionOf plan view := by
  unfold buildRendererProjection
  simp only [Raising.except_throw_if_eq_ok, Raising.except_bind_eq_ok,
    projectPersonaForRenderer_eq_ok, not_not]
  constructor
  · rintro ⟨hworld, hmatter, hauthor, hday, hid, hhash, hrevision, hcurrent, expected,
      ⟨hfacts, hassertions, rfl⟩, hview, -, -, h⟩
    exact ⟨⟨hworld, hmatter, hauthor, hday, hid, hhash, hrevision, hcurrent, hfacts, hassertions,
      hview⟩, (Except.ok.inj h).symm⟩
  · rintro ⟨h, rfl⟩
    have hallowed := h.canonical
    refine ⟨h.worldNamespace, h.matterNamespace, h.author, h.day, h.stateId, h.stateHash,
      h.coreRevision, h.current, _, ⟨h.facts, h.assertions, rfl⟩, h.canonical, ?_, ?_, rfl⟩
    · rw [hallowed]
      exact subset_sorted_toFinset _
    · rw [hallowed]
      exact subset_sorted_toFinset _

/-- `{item.plan_id: item for item in staged_artifacts}`. -/
def stagedByPlan (stagedArtifacts : List StagedArtifact) : PyDict StagedArtifact :=
  .ofEntries (stagedArtifacts.map fun item => (item.planId, item))

end LawFirmDigitalTwin
