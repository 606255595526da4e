import LawFirmDigitalTwin.Evidence.Planning

/-!
# The specialist mesh

`specialist_mesh_contracts.py` and `specialist_mesh.py`: which specialists an artifact is assigned
to. A manifest is built from a plan, its projection and the state of its author; the validator
builds it again from the parts it is given and compares.
-/

namespace LawFirmDigitalTwin

def specialistMeshRevision : String := "artifact-specialist-mesh-g2-v1"

/-- `specialist_mesh_contracts.py` `MeshPhase`. -/
inductive MeshPhase
  | planner
  | writer
  | renderer
  | checker
  deriving DecidableEq

namespace MeshPhase

def text : MeshPhase → String
  | planner => "planner"
  | writer => "writer"
  | renderer => "renderer"
  | checker => "checker"

/-- The kind of capability that a phase asks for. -/
def kind : MeshPhase → String
  | writer => "generator"
  | phase => phase.text

/-- The contracts a phase reads. -/
def inputs : MeshPhase → List String
  | planner =>
    ["case_family_manifest_commitment", "evidence_capability_commitment",
      "artifact_plan_commitment"]
  | writer =>
    ["artifact_plan_commitment", "renderer_persona_view_commitment",
      "knowledge_frontier_commitment", "authority_frontier_commitment"]
  | renderer => ["renderer_artifact_projection_commitment", "writer_proposal_commitment"]
  | checker => ["staged_artifact_commitment", "artifact_production_manifest_commitment"]

/-- The contracts a phase hands on. -/
def outputs : MeshPhase → List String
  | planner => ["bounded_artifact_work_order"]
  | writer => ["staged_artifact_proposal", "assertion_set_proposal"]
  | renderer => ["deterministic_renderer_candidate"]
  | checker => ["immutable_findings", "abstentions"]

end MeshPhase

/-- `specialist_mesh_contracts.py` `EvidenceDomainPack`. -/
structure EvidenceDomainPack where
  packId : String
  revision : String
  caseFamilyId : String
  caseFamilyManifestHash : String
  readiness : String
  evidenceCapabilityIds : List String
  expertiseTopics : List String
  requiredValidatorIds : List String
  protectedFixtureId : String
  activationGate : String
  providerNeutral : Bool := true
  syntheticOnly : Bool := true
  externalSourceAccess : Bool := false

namespace EvidenceDomainPack

def toJson (p : EvidenceDomainPack) : Json :=
  .dict
    [("pack_id", .str p.packId), ("revision", .str p.revision),
     ("case_family_id", .str p.caseFamilyId),
     ("case_family_manifest_hash", .str p.caseFamilyManifestHash), ("readiness", .str p.readiness),
     ("evidence_capability_ids", .strs p.evidenceCapabilityIds),
     ("expertise_topics", .strs p.expertiseTopics),
     ("required_validator_ids", .strs p.requiredValidatorIds),
     ("protected_fixture_id", .str p.protectedFixtureId),
     ("activation_gate", .str p.activationGate), ("provider_neutral", .bool p.providerNeutral),
     ("synthetic_only", .bool p.syntheticOnly),
     ("external_source_access", .bool p.externalSourceAccess)]

/-- `EvidenceDomainPack.pack_hash`. -/
def packHash (p : EvidenceDomainPack) : String := digest p.toJson

end EvidenceDomainPack

/-- `specialist_mesh_contracts.py` `SpecialistAssignment`. -/
structure SpecialistAssignment where
  assignmentId : String
  phase : MeshPhase
  specialistCapabilityId : String
  specialistRevision : String
  specialistCapabilityContractHash : String
  capabilityClassification : String
  inputContractIds : List String
  outputContractIds : List String
  allowedTools : List String
  effectScope : String
  independentOfCapabilityIds : List String
  runtimeExecuted : Bool := false
  canonicalTruthWrite : Bool := false
  deriving DecidableEq

namespace SpecialistAssignment

def toJson (a : SpecialistAssignment) : Json :=
  .dict
    [("assignment_id", .str a.assignmentId), ("phase", .str a.phase.text),
     ("specialist_capability_id", .str a.specialistCapabilityId),
     ("specialist_revision", .str a.specialistRevision),
     ("specialist_capability_contract_hash", .str a.specialistCapabilityContractHash),
     ("capability_classification", .str a.capabilityClassification),
     ("input_contract_ids", .strs a.inputContractIds),
     ("output_contract_ids", .strs a.outputContractIds), ("allowed_tools", .strs a.allowedTools),
     ("effect_scope", .str a.effectScope),
     ("independent_of_capability_ids", .strs a.independentOfCapabilityIds),
     ("runtime_executed", .bool a.runtimeExecuted),
     ("canonical_truth_write", .bool a.canonicalTruthWrite)]

/-- `SpecialistAssignment.assignment_hash`. -/
def assignmentHash (a : SpecialistAssignment) : String := digest a.toJson

end SpecialistAssignment

/-- `specialist_mesh_contracts.py` `ArtifactProductionManifest`. -/
structure ArtifactProductionManifest where
  manifestId : String
  meshRevision : String
  worldNamespaceCommitment : String
  matterNamespaceCommitment : String
  caseFamilyId : String
  caseFamilyManifestHash : String
  domainPackId : String
  domainPackRevision : String
  domainPackHash : String
  evidenceCapabilityId : String
  evidenceCapabilityRevision : String
  evidenceCapabilityContractHash : String
  artifactFamilyId : String
  channelKind : String
  planId : String
  planHash : String
  rendererProjectionId : String
  rendererProjectionHash : String
  personaStateId : String
  personaStateHash : String
  personaViewHash : String
  assertionScopeCommitment : String
  knowledgeFrontierCommitment : String
  authorityFrontierCommitment : String
  relationshipScopeCommitment : String
  lineageCommitment : String
  requiredMetadataCommitment : String
  simulatedTargetNativeFormat : String
  assignments : List SpecialistAssignment
  requiredValidatorIds : List String
  excludedInputPlanes : List String
  proposalOnly : Bool := true
  syntheticOnly : Bool := true
  canonicalAdmission : Bool := false
  deriving DecidableEq

namespace ArtifactProductionManifest

def toJson (m : ArtifactProductionManifest) : Json :=
  .dict
    [("manifest_id", .str m.manifestId), ("mesh_revision", .str m.meshRevision),
     ("world_namespace_commitment", .str m.worldNamespaceCommitment),
     ("matter_namespace_commitment", .str m.matterNamespaceCommitment),
     ("case_family_id", .str m.caseFamilyId),
     ("case_family_manifest_hash", .str m.caseFamilyManifestHash),
     ("domain_pack_id", .str m.domainPackId), ("domain_pack_revision", .str m.domainPackRevision),
     ("domain_pack_hash", .str m.domainPackHash),
     ("evidence_capability_id", .str m.evidenceCapabilityId),
     ("evidence_capability_revision", .str m.evidenceCapabilityRevision),
     ("evidence_capability_contract_hash", .str m.evidenceCapabilityContractHash),
     ("artifact_family_id", .str m.artifactFamilyId), ("channel_kind", .str m.channelKind),
     ("plan_id", .str m.planId), ("plan_hash", .str m.planHash),
     ("renderer_projection_id", .str m.rendererProjectionId),
     ("renderer_projection_hash", .str m.rendererProjectionHash),
     ("persona_state_id", .str m.personaStateId), ("persona_state_hash", .str m.personaStateHash),
     ("persona_view_hash", .str m.personaViewHash),
     ("assertion_scope_commitment", .str m.assertionScopeCommitment),
     ("knowledge_frontier_commitment", .str m.knowledgeFrontierCommitment),
     ("authority_frontier_commitment", .str m.authorityFrontierCommitment),
     ("relationship_scope_commitment", .str m.relationshipScopeCommitment),
     ("lineage_commitment", .str m.lineageCommitment),
     ("required_metadata_commitment", .str m.requiredMetadataCommitment),
     ("simulated_target_native_format", .str m.simulatedTargetNativeFormat),
     ("assignments", .list (m.assignments.map SpecialistAssignment.toJson)),
     ("required_validator_ids", .strs m.requiredValidatorIds),
     ("excluded_input_planes", .strs m.excludedInputPlanes), ("proposal_only", .bool m.proposalOnly),
     ("synthetic_only", .bool m.syntheticOnly), ("canonical_admission", .bool m.canonicalAdmission)]

/-- `ArtifactProductionManifest.manifest_hash`. -/
def manifestHash (m : ArtifactProductionManifest) : String := digest m.toJson

end ArtifactProductionManifest

/-- `specialist_mesh_contracts.py` `ArtifactMeshLocalReceipt`. -/
structure ArtifactMeshLocalReceipt where
  receiptId : String
  meshRevision : String
  manifestId : String
  manifestHash : String
  planHash : String
  rendererProjectionHash : String
  stagedArtifactHash : String
  localShapeReceiptHash : String
  decision : String
  runtimeSpecialistsExecuted : Bool := false
  factAuthorityValidated : Bool := false
  lineageGraphValidated : Bool := false
  canonicalAdmission : Bool := false
  deriving DecidableEq

namespace ArtifactMeshLocalReceipt

def toJson (r : ArtifactMeshLocalReceipt) : Json :=
  .dict
    [("receipt_id", .str r.receiptId), ("mesh_revision", .str r.meshRevision),
     ("manifest_id", .str r.manifestId), ("manifest_hash", .str r.manifestHash),
     ("plan_hash", .str r.planHash), ("renderer_projection_hash", .str r.rendererProjectionHash),
     ("staged_artifact_hash", .str r.stagedArtifactHash),
     ("local_shape_receipt_hash", .str r.localShapeReceiptHash), ("decision", .str r.decision),
     ("runtime_specialists_executed", .bool r.runtimeSpecialistsExecuted),
     ("fact_authority_validated", .bool r.factAuthorityValidated),
     ("lineage_graph_validated", .bool r.lineageGraphValidated),
     ("canonical_admission", .bool r.canonicalAdmission)]

/-- `ArtifactMeshLocalReceipt.receipt_hash`. -/
def receiptHash (r : ArtifactMeshLocalReceipt) : String := digest r.toJson

end ArtifactMeshLocalReceipt

/-! ## Building a manifest -/

def plannerId : String := "specialist.case_type_evidence_architect.v1"

def rendererId : String := "adapter.artifact_renderer.v1"

/-- `(*COMMON_CHECKERS, VOICE_CHECKER_ID)`. -/
def checkerIds : List String :=
  ["specialist.continuity_custody_checker.v1", "specialist.domain_plausibility_checker.v1",
    "specialist.document_fidelity_checker.v1", "specialist.voice_representation_checker.v1"]

/-- `WRITER_BY_FAMILY.get`. -/
def writerByFamily : String → Option String
  | "employment_litigation" => some "specialist.employment_intake_record_writer.v1"
  | "employment_policy" => some "specialist.contract_policy_specialist.v1"
  | "employment_expert" => some "specialist.expert_witness_builder.v1"
  | "employment_email" => some "specialist.employment_business_record_writer.v1"
  | "employment_hr_record" => some "specialist.employment_business_record_writer.v1"
  | "employment_payroll" => some "specialist.employment_business_record_writer.v1"
  | "employment_calendar" => some "specialist.employment_business_record_writer.v1"
  | "employment_noise" => some "specialist.employment_business_record_writer.v1"
  | _ => none

def excludedInputPlanes : List String :=
  ["sealed_case_state", "evaluation_projection", "source_blueprint", "full_case_compilation",
    "raw_private_sources", "oracle_or_design_labels"]

/-- `specialist_mesh.py` `build_domain_pack`. -/
def buildDomainPack (family : CaseFamilyManifest) (registry : CapabilityRegistry) :
    EvidenceDomainPack where
  packId := "domain-pack." ++ family.familyId ++ ".v1"
  revision := "1"
  caseFamilyId := family.familyId
  caseFamilyManifestHash := family.manifestHash
  readiness := if family.readiness = "active_g2" then "active_g2" else "design_only"
  evidenceCapabilityIds :=
    ((registry.evidenceCapabilities.filter fun item =>
      item.familyId ∈ family.requiredEvidenceCapabilities).map (·.capabilityId)).insertionSort
        (· ≤ ·)
  expertiseTopics := (family.factDomains ++ family.expertDomains).insertionSort (· ≤ ·)
  requiredValidatorIds :=
    ["validate_domain_scope", "validate_capability_coverage", "validate_projection_separation"]
  protectedFixtureId := "fixture.domain-pack." ++ family.familyId ++ ".v1"
  activationGate := family.activationGate

/-- The assignment that `_assignment` returns. -/
def assignmentOf (capability : SpecialistCapability) (capabilityId : String) (phase : MeshPhase)
    (planHash : String) (independentOf : List String) : SpecialistAssignment where
  assignmentId := "MESH-ASG-" ++ firstChars 18 (digest (.dict
    [("plan_hash", .str planHash), ("phase", .str phase.text), ("capability_id", .str capabilityId),
     ("revision", .str capability.revision), ("inputs", .strs phase.inputs),
     ("outputs", .strs phase.outputs), ("independent_of", .strs independentOf),
     ("mesh_revision", .str specialistMeshRevision)]))
  phase := phase
  specialistCapabilityId := capabilityId
  specialistRevision := capability.revision
  specialistCapabilityContractHash := digest capability.toJson
  capabilityClassification := capability.classification
  inputContractIds := phase.inputs
  outputContractIds := phase.outputs
  allowedTools := capability.allowedTools
  effectScope := capability.effectScope
  independentOfCapabilityIds := independentOf

/-- `specialist_mesh.py` `_assignment`. -/
def assignment (specialists : PyDict SpecialistCapability) (planHash : String)
    (capabilityId : String) (phase : MeshPhase) (independentOf : List String) :
    Except ContractError SpecialistAssignment :=
  match specialists.get? capabilityId with
  | none => throw ⟨"missing_specialist_capability:" ++ capabilityId, []⟩
  | some capability => do
    if capability.kind ≠ phase.kind then
      throw ⟨"specialist_phase_mismatch:" ++ capabilityId ++ ":" ++ phase.text, []⟩
    return assignmentOf capability capabilityId phase planHash independentOf

/-- `{item.capability_id: item for item in registry.specialist_capabilities}`. -/
def CapabilityRegistry.specialists (registry : CapabilityRegistry) : PyDict SpecialistCapability :=
  .ofEntries (registry.specialistCapabilities.map fun item => (item.capabilityId, item))

/-- The assignments of an artifact: its planner, its writer, its renderer and its checkers. -/
def assignments (specialists : PyDict SpecialistCapability) (planHash writerId : String) :
    Except ContractError (List SpecialistAssignment) := do
  let planner ← assignment specialists planHash plannerId .planner []
  let writer ← assignment specialists planHash writerId .writer []
  let renderer ← assignment specialists planHash rendererId .renderer []
  let checkers ← checkerIds.mapM fun checkerId =>
    assignment specialists planHash checkerId .checker [writerId, rendererId]
  return [planner, writer, renderer] ++ checkers

section
variable (family : CaseFamilyManifest) (domainPack : EvidenceDomainPack)
  (evidenceCapability : EvidenceFamilyCapability) (plan : ArtifactPlan)
  (projection : RendererArtifactProjection) (personaState : PersonaStateSnapshot)
  (specialists : PyDict SpecialistCapability)

/-- The manifest that `build_artifact_production_manifest` returns for its assignments. Every
specialist that is assigned was found. -/
def productionManifestOf (assigned : List SpecialistAssignment) : ArtifactProductionManifest where
  manifestId := "MESH-MAN-" ++ firstChars 18 (digest (.dict
    [("plan_hash", .str plan.planHash), ("projection_hash", .str projection.projectionHash),
     ("domain_pack_hash", .str domainPack.packHash),
     ("assignments", .strs (assigned.map (·.assignmentHash))),
     ("mesh_revision", .str specialistMeshRevision)]))
  meshRevision := specialistMeshRevision
  worldNamespaceCommitment := digest (.str plan.worldNamespace)
  matterNamespaceCommitment := digest (.str plan.matterNamespace)
  caseFamilyId := family.familyId
  domainPackId := domainPack.packId
  caseFamilyManifestHash := family.manifestHash
  domainPackRevision := domainPack.revision
  domainPackHash := domainPack.packHash
  evidenceCapabilityId := evidenceCapability.capabilityId
  evidenceCapabilityRevision := evidenceCapability.revision
  artifactFamilyId := plan.familyId
  evidenceCapabilityContractHash := digest evidenceCapability.toJson
  channelKind := plan.channelKind
  planId := plan.planId
  planHash := plan.planHash
  rendererProjectionId := projection.projectionId
  rendererProjectionHash := projection.projectionHash
  personaStateId := personaState.stateId
  personaStateHash := personaState.stateHash
  personaViewHash := projection.personaView.viewHash
  assertionScopeCommitment := digest (.strs (projection.allowedAssertions.map (·.assertionId)))
  knowledgeFrontierCommitment := plan.knowledgeFrontierHash
  authorityFrontierCommitment := digest (.strs personaState.authorityIds)
  relationshipScopeCommitment := digest (.dict
    [("recipient_ids", .strs plan.recipientIds),
     ("relationship_ids", .strs projection.personaView.relationshipIds)])
  lineageCommitment := plan.lineage.lineageHash
  requiredMetadataCommitment := digest (.strs plan.requiredMetadataKeys)
  simulatedTargetNativeFormat := plan.simulatedTargetNativeFormat
  assignments := assigned
  requiredValidatorIds :=
    sorted (domainPack.requiredValidatorIds ++ evidenceCapability.validatorIds ++
      assigned.flatMap fun item =>
        ((specialists.get? item.specialistCapabilityId).map (·.validatorIds)).getD []).toFinset
  excludedInputPlanes := excludedInputPlanes

/-- `specialist_mesh.py` `build_artifact_production_manifest`. -/
def buildArtifactProductionManifest : Except ContractError ArtifactProductionManifest := do
  if family.readiness ≠ "active_g2" ∨ domainPack.readiness ≠ "active_g2" then
    throw ⟨"domain_pack_not_active_g2", []⟩
  if domainPack.caseFamilyId ≠ family.familyId then throw ⟨"domain_pack_family_mismatch", []⟩
  if plan.capabilityId ∉ domainPack.evidenceCapabilityIds then
    throw ⟨"domain_pack_capability_not_admitted", []⟩
  if plan.capabilityId ≠ evidenceCapability.capabilityId then
    throw ⟨"evidence_capability_mismatch", []⟩
  if projection.planHash ≠ plan.planHash ∨ projection.planId ≠ plan.planId then
    throw ⟨"detached_renderer_projection", []⟩
  if personaState.stateId ≠ plan.personaStateId ∨
      personaState.stateHash ≠ plan.personaStateHash then
    throw ⟨"detached_persona_state", []⟩
  let expectedProjection ← buildRendererProjection plan projection.personaView personaState
  if projection ≠ expectedProjection then throw ⟨"noncanonical_renderer_projection", []⟩
  match writerByFamily plan.familyId with
  | none => throw ⟨"unsupported_artifact_family:" ++ plan.familyId, []⟩
  | some writerId =>
    let assigned ← assignments specialists plan.planHash writerId
    checkWritable evidenceCapability.toJson
    return productionManifestOf family domainPack evidenceCapability plan projection personaState
      specialists assigned

end

/-- The receipt that `issue_artifact_mesh_local_receipt` returns. -/
def meshReceiptOf (manifest : ArtifactProductionManifest) (staged : StagedArtifact)
    (shapeReceipt : LocalArtifactShapeReceipt) : ArtifactMeshLocalReceipt where
  receiptId := "MESH-LOCAL-" ++ firstChars 18 (digest (.dict
    [("manifest_hash", .str manifest.manifestHash),
     ("staged_artifact_hash", .str (digest staged.toJson)),
     ("shape_receipt_hash", .str shapeReceipt.receiptHash),
     ("decision", .str "local_mesh_contract_validated_only"),
     ("mesh_revision", .str specialistMeshRevision)]))
  meshRevision := specialistMeshRevision
  manifestId := manifest.manifestId
  manifestHash := manifest.manifestHash
  planHash := manifest.planHash
  rendererProjectionHash := manifest.rendererProjectionHash
  stagedArtifactHash := digest staged.toJson
  localShapeReceiptHash := shapeReceipt.receiptHash
  decision := "local_mesh_contract_validated_only"

/-- `specialist_mesh.py` `issue_artifact_mesh_local_receipt`. -/
def issueArtifactMeshLocalReceipt (manifest : ArtifactProductionManifest) (staged : StagedArtifact)
    (shapeReceipt : LocalArtifactShapeReceipt) :
    Except ContractError ArtifactMeshLocalReceipt := do
  if staged.planHash ≠ manifest.planHash then throw ⟨"mesh_staged_plan_mismatch", []⟩
  if staged.rendererProjectionHash ≠ manifest.rendererProjectionHash then
    throw ⟨"mesh_staged_projection_mismatch", []⟩
  if shapeReceipt.planHash ≠ manifest.planHash then
    throw ⟨"mesh_shape_receipt_plan_mismatch", []⟩
  return meshReceiptOf manifest staged shapeReceipt

/-! ## Validating the mesh -/

/-- `specialist_mesh_contracts.py` `ArtifactMeshValidationFinding`; `listed` is what an error that
became a message lists. -/
structure ArtifactMeshValidationFinding where
  code : String
  subject : String
  message : String
  listed : List String := []

/-- `specialist_mesh_contracts.py` `ArtifactMeshValidationReport`. -/
structure ArtifactMeshValidationReport where
  passed : Bool
  findings : List ArtifactMeshValidationFinding
  meshCommitment : String
  validatorRevision : String := specialistMeshRevision

/-- The arguments of `validate_artifact_mesh`. -/
structure ArtifactMesh where
  family : CaseFamilyManifest
  registry : CapabilityRegistry
  plans : List ArtifactPlan
  projections : List RendererArtifactProjection
  states : List PersonaStateSnapshot
  stagedArtifacts : List StagedArtifact
  shapeReceipts : List LocalArtifactShapeReceipt
  manifests : List ArtifactProductionManifest
  meshReceipts : List ArtifactMeshLocalReceipt

/-- `{item.plan_id: item for item in projections}`. -/
def projectionByPlan (projections : List RendererArtifactProjection) :
    PyDict RendererArtifactProjection :=
  .ofEntries (projections.map fun item => (item.planId, item))

/-- `{item.state_id: item for item in states}`. -/
def stateById (states : List PersonaStateSnapshot) : PyDict PersonaStateSnapshot :=
  .ofEntries (states.map fun item => (item.stateId, item))

/-- `{item.plan_hash: item for item in shape_receipts}`. -/
def shapeByPlanHash (shapeReceipts : List LocalArtifactShapeReceipt) :
    PyDict LocalArtifactShapeReceipt :=
  .ofEntries (shapeReceipts.map fun item => (item.planHash, item))

/-- `{item.capability_id: item for item in registry.evidence_capabilities}`. -/
def CapabilityRegistry.evidenceById (registry : CapabilityRegistry) :
    PyDict EvidenceFamilyCapability :=
  .ofEntries (registry.evidenceCapabilities.map fun item => (item.capabilityId, item))

/-- What a plan depends on in the mesh. -/
structure MeshDependencies where
  projection : RendererArtifactProjection
  state : PersonaStateSnapshot
  staged : StagedArtifact
  shape : LocalArtifactShapeReceipt
  manifest : ArtifactProductionManifest

namespace ArtifactMesh

variable (m : ArtifactMesh)

def manifestByPlan : PyDict ArtifactProductionManifest :=
  .ofEntries (m.manifests.map fun item => (item.planId, item))

def receiptByManifest : PyDict ArtifactMeshLocalReceipt :=
  .ofEntries (m.meshReceipts.map fun item => (item.manifestId, item))

def dependencies (plan : ArtifactPlan) : Option MeshDependencies := do
  let projection ← (projectionByPlan m.projections).get? plan.planId
  let state ← (stateById m.states).get? plan.personaStateId
  let staged ← (stagedByPlan m.stagedArtifacts).get? plan.planId
  let shape ← (shapeByPlanHash m.shapeReceipts).get? plan.planHash
  let manifest ← m.manifestByPlan.get? plan.planId
  return ⟨projection, state, staged, shape, manifest⟩

/-- The findings about the phases of a manifest. -/
def phaseFindings (manifest : ArtifactProductionManifest) : List ArtifactMeshValidationFinding :=
  let phases := manifest.assignments.map (·.phase)
  let ids (phase : MeshPhase) :=
    ((manifest.assignments.filter (·.phase = phase)).map (·.specialistCapabilityId)).toFinset
  errorsIf
    [(¬ (phases.count .planner = 1 ∧ phases.count .writer = 1 ∧ phases.count .renderer = 1 ∧
        phases.count .checker = 4),
      ⟨"MESH-010", manifest.manifestId, "assignment phase coverage mismatch", []⟩),
     (ids .writer ∩ ids .checker ≠ ∅,
      ⟨"MESH-011", manifest.manifestId, "writer cannot self-check", []⟩)]

/-- The findings about the receipt of a manifest. -/
def receiptFindings (d : MeshDependencies) : List ArtifactMeshValidationFinding :=
  match m.receiptByManifest.get? d.manifest.manifestId with
  | none => [⟨"MESH-012", d.manifest.manifestId, "mesh receipt missing", []⟩]
  | some receipt =>
    match issueArtifactMeshLocalReceipt d.manifest d.staged d.shape with
    | .error error => [⟨"MESH-013", d.manifest.manifestId, error.code, error.listed⟩]
    | .ok expected =>
      errorsIf
        [(receipt ≠ expected,
          ⟨"MESH-014", receipt.receiptId, "mesh receipt is stale or overclaims", []⟩)]

/-- The findings about a plan. -/
def planFindings (plan : ArtifactPlan) : List ArtifactMeshValidationFinding :=
  match m.dependencies plan with
  | none => [⟨"MESH-006", plan.planId, "mesh dependency missing", []⟩]
  | some d =>
    match m.registry.evidenceById.get? plan.capabilityId with
    | none => [⟨"MESH-007", plan.planId, "evidence capability missing", []⟩]
    | some capability =>
      match buildArtifactProductionManifest m.family (buildDomainPack m.family m.registry)
          capability plan d.projection d.state m.registry.specialists with
      | .error error => [⟨"MESH-008", plan.planId, error.code, error.listed⟩]
      | .ok expected =>
        if d.manifest ≠ expected then
          [⟨"MESH-009", plan.planId, "manifest is stale, detached, or overbroad", []⟩]
        else phaseFindings d.manifest ++ m.receiptFindings d

/-- `specialist_mesh.py` `validate_artifact_mesh`: its findings. -/
def findings : List ArtifactMeshValidationFinding :=
  let domainPack := buildDomainPack m.family m.registry
  let lengths : List Nat := [m.plans.length, m.projections.length, m.stagedArtifacts.length,
    m.shapeReceipts.length, m.manifests.length, m.meshReceipts.length]
  errorsIf
    [(lengths.toFinset.card ≠ 1,
      ⟨"MESH-001", m.family.familyId, "artifact mesh cardinality mismatch", []⟩),
     (m.family.readiness ≠ "active_g2",
      ⟨"MESH-002", m.family.familyId, "design-only family cannot activate a specialist mesh", []⟩),
     (domainPack.readiness ≠ "active_g2",
      ⟨"MESH-003", domainPack.packId, "domain pack is not active G2", []⟩),
     ((m.manifests.map (·.planId)).toFinset.card ≠ m.manifests.length,
      ⟨"MESH-004", m.family.familyId, "duplicate manifest plan binding", []⟩),
     ((m.meshReceipts.map (·.manifestId)).toFinset.card ≠ m.meshReceipts.length,
      ⟨"MESH-005", m.family.familyId, "duplicate mesh receipt binding", []⟩)] ++
    m.plans.flatMap m.planFindings

/-- `specialist_mesh.py` `validate_artifact_mesh`. -/
def validate : ArtifactMeshValidationReport where
  passed := m.findings.isEmpty
  findings := m.findings
  meshCommitment := digest (.dict
    [("manifests", .strs (m.manifests.map (·.manifestHash))),
     ("receipts", .strs (m.meshReceipts.map (·.receiptHash))),
     ("revision", .str specialistMeshRevision)])

end ArtifactMesh

end LawFirmDigitalTwin
