import LawFirmDigitalTwin.Lib.Groups
import LawFirmDigitalTwin.Evidence.Planning

/-!
# Version lineages

`build_artifact_plan` of `evidence_contracts.py`, which takes the lineage of a plan over from the
artifact it supersedes, and `validate_lineage_graph`, which sees all the plans and artifacts at once
and knows nothing of how they were made.
-/

namespace LawFirmDigitalTwin

/-! ## Building a plan -/

/-- The arguments of `build_artifact_plan`. -/
structure ArtifactPlanRequest where
  worldNamespace : String
  matterNamespace : String
  capability : EvidenceFamilyCapability
  authorId : String
  recipientIds : List String
  createdDay : Int
  allowedAssertions : List FactAssertion
  personaState : PersonaStateSnapshot
  logicalArtifactId : String
  revision : Int := 1
  parentArtifact : Option StagedArtifact := none
  parentProjection : Option RendererArtifactProjection := none
  supersessionReason : Option String := none
  responsive : Bool := true
  privileged : Bool := false
  availability : String := "discoverable"
  simulatedTargetNativeFormat : String := "application/json"
  purpose : String := "synthetic business record"

namespace ArtifactPlanRequest

variable (r : ArtifactPlanRequest)

/-- The checks of the author's state and of the capability. -/
def checkAuthor : Except ContractError Unit := do
  if r.capability.readiness ≠ "active_g2" then throw ⟨"evidence_capability_not_active", []⟩
  if r.capability.recipientPolicyId ≠ "case_scoped_relationship_grant.v1" then
    throw ⟨"recipient_policy_unsupported", []⟩
  if r.worldNamespace = "" ∨ r.matterNamespace = "" then throw ⟨"case_namespace_required", []⟩
  if r.personaState.worldNamespace ≠ r.worldNamespace then throw ⟨"cross_world_persona_state", []⟩
  if r.personaState.matterNamespace ≠ r.matterNamespace then
    throw ⟨"cross_matter_persona_state", []⟩
  if r.personaState.roleId ∉ r.capability.allowedAuthorRoles then
    throw ⟨"capability_author_unauthorized", []⟩
  if r.personaState.actorId ≠ r.authorId then throw ⟨"persona_author_mismatch", []⟩
  if r.personaState.asOfDay ≠ r.createdDay then throw ⟨"persona_time_mismatch", []⟩
  if r.simulatedTargetNativeFormat ∉ r.capability.allowedNativeFormats then
    throw ⟨"native_format_not_allowed", []⟩

/-- `tuple(sorted(set(recipient_ids)))`. -/
def recipients : List String := sorted r.recipientIds.toFinset

/-- `tuple(sorted(set(allowed_assertions), key=lambda item: item.assertion_id))`. -/
def assertions : List FactAssertion := sortedAssertions r.allowedAssertions

/-- The checks of the assertions and of the recipients. -/
def checkScope : Except ContractError Unit := do
  if r.assertions.any fun item => item.worldNamespace ≠ r.worldNamespace ∨
      item.matterNamespace ≠ r.matterNamespace ∨ item.authorId ≠ r.authorId then
    throw ⟨"assertion_scope_mismatch", []⟩
  let unknown := sorted ((r.assertions.map (·.factId)).toFinset \
    r.personaState.knowledgeFactIds.toFinset)
  if unknown ≠ [] then throw ⟨"knowledge_frontier_violation", unknown⟩
  if r.assertions.any fun item => item.learnedDay > r.createdDay then
    throw ⟨"future_knowledge_violation", []⟩
  let ungranted := sorted ((r.assertions.map (·.assertionId)).toFinset \
    r.personaState.knowledgeAssertionIds.toFinset)
  if ungranted ≠ [] then throw ⟨"assertion_grant_violation", ungranted⟩
  if r.capability.requiresSender ∧ r.authorId = "" then throw ⟨"sender_required", []⟩
  if r.capability.requiresRecipients ∧ r.recipients = [] then throw ⟨"recipients_required", []⟩
  if ¬ r.recipients.map (relationshipId r.worldNamespace r.authorId) ⊆
      r.personaState.relationshipIds then
    throw ⟨"recipient_relationship_unauthorized", []⟩

/-- The checks of the artifact that is superseded. -/
def checkParent : Except ContractError Unit := do
  if r.revision = 1 ∧ r.parentArtifact ≠ none then throw ⟨"initial_version_has_parent", []⟩
  if r.revision = 1 ∧ r.parentProjection ≠ none then throw ⟨"initial_version_has_parent", []⟩
  if r.revision > 1 then
    match r.parentArtifact, r.parentProjection with
    | none, _ => throw ⟨"parent_artifact_required", []⟩
    | some _, none => throw ⟨"parent_projection_required", []⟩
    | some artifact, some projection =>
      if artifact.worldNamespace ≠ r.worldNamespace ∨
          artifact.matterNamespace ≠ r.matterNamespace then
        throw ⟨"cross_scope_parent_artifact", []⟩
      if artifact.lineage.logicalArtifactId ≠ r.logicalArtifactId then
        throw ⟨"parent_logical_artifact_mismatch", []⟩
      if artifact.lineage.revision ≠ r.revision - 1 then
        throw ⟨"parent_revision_not_contiguous", []⟩
      if (validateStagedArtifact artifact projection).passed = false then
        throw ⟨"parent_artifact_validation_failed", []⟩
      if artifact.rendererProjectionHash ≠ projection.projectionHash then
        throw ⟨"parent_projection_mismatch", []⟩

/-- The version of a logical artifact. -/
def versionId : String := r.logicalArtifactId ++ "-V" ++ toString r.revision

def lineage : ArtifactVersionLineage where
  logicalArtifactId := r.logicalArtifactId
  versionId := r.versionId
  revision := r.revision
  parentVersionId := r.parentArtifact.map (·.lineage.versionId)
  parentContentHash := r.parentArtifact.map (·.claimedContentHash)
  supersessionReason := r.supersessionReason

/-- What the identity of the plan is derived from. -/
def planForm : Json :=
  .dict
    [("world", .str r.worldNamespace), ("logical", .str r.logicalArtifactId),
     ("revision", .int r.revision)]

/-- The plan that `build_artifact_plan` returns. -/
def plan : ArtifactPlan where
  planId := "APLAN-" ++ firstChars 18 (digest r.planForm)
  worldNamespace := r.worldNamespace
  matterNamespace := r.matterNamespace
  capabilityId := r.capability.capabilityId
  capabilityRevision := r.capability.revision
  familyId := r.capability.familyId
  channelKind := r.capability.channelKind
  authorId := r.authorId
  recipientIds := r.recipients
  createdDay := r.createdDay
  allowedAssertions := r.assertions
  requiredMetadataKeys := requiredMetadata r.capability
  simulatedTargetNativeFormat := r.simulatedTargetNativeFormat
  responsive := r.responsive
  privileged := r.privileged
  availability := r.availability
  personaStateId := r.personaState.stateId
  personaStateHash := r.personaState.stateHash
  knowledgeFrontierHash := digest (.dict
    [("world", .str r.worldNamespace), ("matter", .str r.matterNamespace),
     ("actor", .str r.authorId), ("as_of_day", .int r.createdDay),
     ("facts", .strs r.personaState.knowledgeFactIds),
     ("assertions", .strs r.personaState.knowledgeAssertionIds)])
  lineage := r.lineage
  purposeCommitment := digest (.dict
    [("purpose", .str r.purpose), ("world", .str r.worldNamespace)])

end ArtifactPlanRequest

/-- `evidence_contracts.py` `build_artifact_plan`. -/
def buildArtifactPlan (r : ArtifactPlanRequest) : Except ContractError ArtifactPlan := do
  r.checkAuthor
  r.checkScope
  r.checkParent
  let lineageErrors := validateVersionLineage r.lineage
  if lineageErrors ≠ [] then throw ⟨String.intercalate ";" lineageErrors, []⟩
  return r.plan

/-- What `build_artifact_plan` asks of the artifact that is superseded. -/
structure ArtifactPlanRequest.Supersedes (r : ArtifactPlanRequest) (artifact : StagedArtifact)
    (projection : RendererArtifactProjection) : Prop where
  parent : r.parentArtifact = some artifact
  parentProjection : r.parentProjection = some projection
  worldNamespace : artifact.worldNamespace = r.worldNamespace
  matterNamespace : artifact.matterNamespace = r.matterNamespace
  logical : artifact.lineage.logicalArtifactId = r.logicalArtifactId
  revision : artifact.lineage.revision = r.revision - 1
  valid : (validateStagedArtifact artifact projection).passed = true
  bound : artifact.rendererProjectionHash = projection.projectionHash

/-- What `build_artifact_plan` asks of its arguments. -/
structure ArtifactPlanRequest.Allowed (r : ArtifactPlanRequest) : Prop where
  active : r.capability.readiness = "active_g2"
  recipientPolicy : r.capability.recipientPolicyId = "case_scoped_relationship_grant.v1"
  world : r.worldNamespace ≠ ""
  matter : r.matterNamespace ≠ ""
  stateWorld : r.personaState.worldNamespace = r.worldNamespace
  stateMatter : r.personaState.matterNamespace = r.matterNamespace
  role : r.personaState.roleId ∈ r.capability.allowedAuthorRoles
  author : r.personaState.actorId = r.authorId
  day : r.personaState.asOfDay = r.createdDay
  format : r.simulatedTargetNativeFormat ∈ r.capability.allowedNativeFormats
  inScope : ∀ a ∈ r.assertions, a.worldNamespace = r.worldNamespace ∧
    a.matterNamespace = r.matterNamespace ∧ a.authorId = r.authorId
  known : r.assertions.map (·.factId) ⊆ r.personaState.knowledgeFactIds
  learned : ∀ a ∈ r.assertions, a.learnedDay ≤ r.createdDay
  granted : r.assertions.map (·.assertionId) ⊆ r.personaState.knowledgeAssertionIds
  sender : r.capability.requiresSender = true → r.authorId ≠ ""
  recipients : r.capability.requiresRecipients = true → r.recipients ≠ []
  related : r.recipients.map (relationshipId r.worldNamespace r.authorId) ⊆
    r.personaState.relationshipIds
  initial : r.revision = 1 → r.parentArtifact = none ∧ r.parentProjection = none
  supersedes : 1 < r.revision → ∃ artifact projection, r.Supersedes artifact projection
  lineage : validateVersionLineage r.lineage = []

/-- Nothing is unknown where everything asked for is known. -/
theorem sorted_unknown_eq_nil {known asked : List String} :
    sorted (asked.toFinset \ known.toFinset) = [] ↔ asked ⊆ known := by
  rw [List.eq_nil_iff_forall_not_mem]
  simp only [mem_sorted, Finset.mem_sdiff, List.mem_toFinset, not_and, not_not]
  rfl

section
variable {r : ArtifactPlanRequest}

/-- What is checked of the author. -/
theorem ArtifactPlanRequest.checkAuthor_eq_ok : r.checkAuthor = .ok () ↔
    r.capability.readiness = "active_g2" ∧
      r.capability.recipientPolicyId = "case_scoped_relationship_grant.v1" ∧
      (r.worldNamespace ≠ "" ∧ r.matterNamespace ≠ "") ∧
      r.personaState.worldNamespace = r.worldNamespace ∧
      r.personaState.matterNamespace = r.matterNamespace ∧
      r.personaState.roleId ∈ r.capability.allowedAuthorRoles ∧
      r.personaState.actorId = r.authorId ∧ r.personaState.asOfDay = r.createdDay ∧
      r.simulatedTargetNativeFormat ∈ r.capability.allowedNativeFormats := by
  unfold checkAuthor
  simp only [Raising.except_throw_if_eq_ok, not_not, not_or, ne_eq]
  repeat' refine and_congr_right fun _ => ?_
  by_cases h : r.simulatedTargetNativeFormat ∈ r.capability.allowedNativeFormats
  · simp [h, pure, Except.pure]
  · simp [h]

/-- What is checked of the assertions and the recipients. -/
theorem ArtifactPlanRequest.checkScope_eq_ok : r.checkScope = .ok () ↔
    (∀ a ∈ r.assertions, a.worldNamespace = r.worldNamespace ∧
        a.matterNamespace = r.matterNamespace ∧ a.authorId = r.authorId) ∧
      r.assertions.map (·.factId) ⊆ r.personaState.knowledgeFactIds ∧
      (∀ a ∈ r.assertions, a.learnedDay ≤ r.createdDay) ∧
      r.assertions.map (·.assertionId) ⊆ r.personaState.knowledgeAssertionIds ∧
      (r.capability.requiresSender = true → r.authorId ≠ "") ∧
      (r.capability.requiresRecipients = true → r.recipients ≠ []) ∧
      r.recipients.map (relationshipId r.worldNamespace r.authorId) ⊆
        r.personaState.relationshipIds := by
  unfold checkScope
  simp only [Raising.except_throw_if_eq_ok, not_not, not_or, not_and, ne_eq, sorted_unknown_eq_nil,
    List.any_eq_true, decide_eq_true_iff, not_exists, gt_iff_lt, not_lt]
  repeat' refine and_congr_right fun _ => ?_
  by_cases h : r.recipients.map (relationshipId r.worldNamespace r.authorId) ⊆
      r.personaState.relationshipIds
  · simp [h, pure, Except.pure]
  · simp [h]

/-- What is checked of the artifact that is superseded. -/
theorem ArtifactPlanRequest.checkParent_eq_ok : r.checkParent = .ok () ↔
    (r.revision = 1 → r.parentArtifact = none ∧ r.parentProjection = none) ∧
      (1 < r.revision → ∃ artifact projection, r.Supersedes artifact projection) := by
  unfold checkParent
  simp only [Raising.except_throw_if_eq_ok, not_and, ne_eq, not_not]
  by_cases hrevision : r.revision > 1
  · have hfirst : r.revision ≠ 1 := by omega
    simp only [hfirst, false_implies, true_and, hrevision, if_true, true_implies]
    cases hparent : r.parentArtifact with
    | none =>
      refine iff_of_false (fun h => by cases h) ?_
      rintro ⟨artifact, projection, h⟩
      exact absurd (h.parent.symm.trans hparent) (by simp)
    | some artifact =>
      cases hprojection : r.parentProjection with
      | none =>
        refine iff_of_false (fun h => by cases h) ?_
        rintro ⟨_, projection, h⟩
        exact absurd (h.parentProjection.symm.trans hprojection) (by simp)
      | some projection =>
        dsimp only
        simp only [Raising.except_throw_if_eq_ok, not_or, not_not, Bool.not_eq_false]
        constructor
        · rintro ⟨⟨hworld, hmatter⟩, hlogical, hprevious, hvalid, hbound⟩
          refine ⟨artifact, projection, hparent, hprojection, hworld, hmatter, hlogical, hprevious,
            hvalid, by_contra fun h => ?_⟩
          rw [if_pos h] at hbound
          cases hbound
        · rintro ⟨artifact', projection', h⟩
          cases hparent.symm.trans h.parent
          cases hprojection.symm.trans h.parentProjection
          exact ⟨⟨h.worldNamespace, h.matterNamespace⟩, h.logical, h.revision, h.valid,
            by rw [if_neg (not_not.2 h.bound)]; rfl⟩
  · simp only [hrevision, if_false, false_implies, and_true]
    constructor
    · rintro ⟨hartifact, hprojection, -⟩ hone
      exact ⟨hartifact hone, hprojection hone⟩
    · exact fun h => ⟨fun hone => (h hone).1, fun hone => (h hone).2, rfl⟩

/-- An allowed request is built as its plan. -/
theorem buildArtifactPlan_eq_ok {plan : ArtifactPlan} :
    buildArtifactPlan r = .ok plan ↔ r.Allowed ∧ plan = r.plan := by
  unfold buildArtifactPlan
  simp only [Raising.except_seq_eq_ok, Raising.except_throw_if_eq_ok, ne_eq, not_not,
    ArtifactPlanRequest.checkAuthor_eq_ok, ArtifactPlanRequest.checkScope_eq_ok,
    ArtifactPlanRequest.checkParent_eq_ok]
  constructor
  · rintro ⟨⟨hactive, hpolicy, ⟨hworld, hmatter⟩, hstateWorld, hstateMatter, hrole, hauthor, hday,
      hformat⟩, ⟨hscope, hknown, hlearned, hgranted, hsender, hrecipients, hrelated⟩,
      ⟨hinitial, hsupersedes⟩, hlineage, h⟩
    exact ⟨⟨hactive, hpolicy, hworld, hmatter, hstateWorld, hstateMatter, hrole, hauthor, hday,
      hformat, hscope, hknown, hlearned, hgranted, hsender, hrecipients, hrelated, hinitial,
      hsupersedes, hlineage⟩, (Except.ok.inj h).symm⟩
  · rintro ⟨h, rfl⟩
    exact ⟨⟨h.active, h.recipientPolicy, ⟨h.world, h.matter⟩, h.stateWorld, h.stateMatter, h.role,
      h.author, h.day, h.format⟩, ⟨h.inScope, h.known, h.learned, h.granted, h.sender,
      h.recipients, h.related⟩, ⟨h.initial, h.supersedes⟩, h.lineage, rfl⟩

end

/-! ## The graph of the versions -/

/-- The logical artifact of a plan, in its scope. -/
def ArtifactPlan.logical (p : ArtifactPlan) : String × String × String :=
  (p.worldNamespace, p.matterNamespace, p.lineage.logicalArtifactId)

/-- The errors of a version and the next one. -/
def successionErrors (artifactByPlan : PyDict StagedArtifact) (parent child : ArtifactPlan) :
    List String :=
  match artifactByPlan.get? parent.planId with
  | none => ["lineage_parent_artifact_missing"]
  | some artifact =>
    errorsIf
      [(child.lineage.parentVersionId ≠ some parent.lineage.versionId,
          "lineage_parent_version_mismatch"),
       (child.lineage.parentContentHash ≠ some artifact.claimedContentHash,
          "lineage_parent_hash_mismatch")]

/-- `sorted(group, key=lambda item: item.lineage.revision)`. -/
def sortedVersions (group : List ArtifactPlan) : List ArtifactPlan :=
  group.insertionSort fun p q => p.lineage.revision ≤ q.lineage.revision

/-- `range(1, n + 1)`. -/
def revisionRange (n : Nat) : List Int := (List.range' 1 n).map Int.ofNat

/-- The errors of the versions of one logical artifact. -/
def versionErrors (artifactByPlan : PyDict StagedArtifact) (group : List ArtifactPlan) :
    List String :=
  let ordered := sortedVersions group
  if ordered.map (·.lineage.revision) ≠ revisionRange ordered.length then
    ["lineage_revision_gap_or_missing_root"]
  else (ordered.zip ordered.tail).flatMap fun e => successionErrors artifactByPlan e.1 e.2

/-- `evidence_contracts.py` `validate_lineage_graph`. -/
def validateLineageGraph (plans : List ArtifactPlan) (artifacts : List StagedArtifact) :
    List String :=
  let planKeys := plans.map fun item => (item.logical, item.lineage.versionId)
  let versionIds := plans.map (·.lineage.versionId)
  sorted (errorsIf
    [(planKeys.length ≠ planKeys.toFinset.card, "duplicate_logical_artifact_version"),
     (versionIds.length ≠ versionIds.toFinset.card, "duplicate_lineage_version_id")] ++
    (Groups.groups ArtifactPlan.logical plans).flatMap
      (versionErrors (stagedByPlan artifacts))).toFinset

end LawFirmDigitalTwin
