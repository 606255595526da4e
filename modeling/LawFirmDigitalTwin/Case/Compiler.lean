import LawFirmDigitalTwin.Case.Design
import LawFirmDigitalTwin.Evidence.Fixture

/-!
# The case compiler

`compile_case_design` of `case_compiler.py`: every artifact of a design goes through the pipeline
from the assertions of its author to a receipt of the specialist mesh, and the operating and the
evaluation projection are taken of the result. What is assembled (`draftCaseDesign`) is validated
before it is returned.
-/

namespace LawFirmDigitalTwin

/-- An exception of the fact design as one of the contracts. -/
def ContractError.ofPyError : PyError → ContractError
  | .gateError text items => ⟨text, items⟩
  | .keyError key => ⟨"KeyError", [key]⟩
  | .valueError text => ⟨text, []⟩
  | _ => ⟨"", []⟩

/-- `{item.family_id: item for item in registry.evidence_capabilities if active}`. -/
def CapabilityRegistry.activeByFamily (registry : CapabilityRegistry) :
    PyDict EvidenceFamilyCapability :=
  .ofEntries ((registry.evidenceCapabilities.filter (·.readiness = "active_g2")).map fun item =>
    (item.familyId, item))

/-! ## The pipeline of an artifact -/

/-- What the artifacts of a case share. -/
structure CaseScope where
  worldNamespace : String
  matterNamespace : String
  facts : List CompiledFact
  family : CaseFamilyManifest
  registry : CapabilityRegistry

/-- What a pass of the loop over the artifacts appends to the lists of the compilation. -/
structure CompiledArtifact where
  personaState : PersonaStateSnapshot
  view : RendererPersonaView
  plan : ArtifactPlan
  projection : RendererArtifactProjection
  stagedArtifact : StagedArtifact
  shapeReceipt : LocalArtifactShapeReceipt
  manifest : ArtifactProductionManifest
  meshReceipt : ArtifactMeshLocalReceipt

namespace CaseScope

variable (scope : CaseScope) (spec : PlanSpec)

/-- The identity of the logical artifact of a plan. -/
def logicalArtifactId : String :=
  "ART-" ++ firstChars 18 (digest (.dict
    [("world", .str scope.worldNamespace), ("logical", .str spec.logical)]))

/-- The assertions the author of an artifact makes in it. -/
def authorAssertions : Except ContractError (List FactAssertion) :=
  (assertionsFor scope.facts scope.worldNamespace scope.matterNamespace spec.author spec.day
    spec.facts).mapError ContractError.ofPyError

/-- The state of the author, on the day of the artifact. -/
def snapshotRequest (profile : FullPersonaProfile) (assertions : List FactAssertion) :
    SnapshotRequest where
  worldNamespace := scope.worldNamespace
  matterNamespace := scope.matterNamespace
  asOfDay := spec.day
  knowledgeFactIds := knowledgeForActor scope.facts spec.author spec.day
  knowledgeAssertionIds := assertions.map (·.assertionId)
  authorityIds := profile.initialAuthority
  relationshipIds := spec.recipients.map (relationshipId scope.worldNamespace spec.author)

/-- The arguments of `build_artifact_plan`. -/
def planRequest (evidence : EvidenceFamilyCapability) (assertions : List FactAssertion)
    (personaState : PersonaStateSnapshot) : ArtifactPlanRequest where
  worldNamespace := scope.worldNamespace
  matterNamespace := scope.matterNamespace
  capability := evidence
  authorId := spec.author
  recipientIds := spec.recipients
  createdDay := spec.day
  allowedAssertions := assertions
  personaState := personaState
  logicalArtifactId := scope.logicalArtifactId spec
  responsive := spec.responsive
  privileged := false
  availability := spec.availability
  simulatedTargetNativeFormat := spec.format
  purpose := spec.family ++ ":" ++ spec.logical

/-- One pass of the loop over the artifacts. -/
def compileArtifact : Except ContractError CompiledArtifact :=
  match scope.registry.activeByFamily.get? spec.family with
  | none => throw ⟨"missing_evidence_capability:" ++ spec.family, []⟩
  | some evidence => do
    let profile ← fullPersonas.item spec.author
    let assertions ← scope.authorAssertions spec
    let personaState ← compilePersonaSnapshot profile
      (scope.snapshotRequest spec profile assertions)
    let view ← projectPersonaForRenderer personaState (assertions.map (·.factId))
      (assertions.map (·.assertionId))
    let plan ← buildArtifactPlan (scope.planRequest spec evidence assertions personaState)
    let projection ← buildRendererProjection plan view personaState
    let stagedArtifact ← renderDeterministicG2Fixture projection
    let shapeReceipt ← issueLocalShapeReceipt stagedArtifact projection
    let manifest ← buildArtifactProductionManifest scope.family
      (buildDomainPack scope.family scope.registry) evidence plan projection personaState
      scope.registry.specialists
    let meshReceipt ← issueArtifactMeshLocalReceipt manifest stagedArtifact shapeReceipt
    return ⟨personaState, view, plan, projection, stagedArtifact, shapeReceipt, manifest,
      meshReceipt⟩

end CaseScope

/-! ## The projections -/

/-- The latest state of each actor. -/
def latestByActor (personaStates : List PersonaStateSnapshot) : PyDict PersonaStateSnapshot :=
  personaStates.foldl (fun latest s =>
    match latest.get? s.actorId with
    | none => latest.set s.actorId s
    | some current =>
      if toLex (current.asOfDay, current.revision) < toLex (s.asOfDay, s.revision) then
        latest.set s.actorId s
      else latest) ∅

/-- The frontier of an actor, from his latest state. -/
def frontierOf (s : PersonaStateSnapshot) : OperatingActorFrontier where
  frontierId := "FRONTIER-" ++ firstChars 18 (digest (.dict
    [("world", .str s.worldNamespace), ("actor", .str s.actorId), ("day", .int s.asOfDay),
     ("surface", .str "operating")]))
  actorId := s.actorId
  roleId := s.roleId
  organization := s.organization
  asOfDay := s.asOfDay
  knownFactCount := s.knowledgeFactIds.length
  authorityCount := s.authorityIds.length

/-- The summary of an artifact that is there from the beginning. -/
def summaryOf (plan : ArtifactPlan) : Except ContractError OperatingArtifactSummary := do
  let profile ← fullPersonas.item plan.authorId
  return {
    publicPlanId := "OPLAN-" ++ firstChars 18 (digest (.dict
      [("logical", .str plan.lineage.logicalArtifactId), ("surface", .str "operating")]))
    capabilityId := plan.capabilityId
    familyId := plan.familyId
    createdDay := plan.createdDay
    authorRoleId := profile.roleId
    simulatedTargetNativeFormat := plan.simulatedTargetNativeFormat
    initial := true }

/-- `case_compiler.py` `_build_operating_projection`. -/
def buildOperatingProjection (caseFamilyId : String) (rulePack : RulePack)
    (personaStates : List PersonaStateSnapshot) (plans : List ArtifactPlan)
    (compilerRevision : String) : Except ContractError OperatingCaseProjection := do
  let initialArtifacts ← (plans.filter (·.availability = "initial")).mapM summaryOf
  let payload : OperatingCaseProjection :=
    { projectionId := ""
      caseFamilyId := caseFamilyId
      jurisdictionLabel := rulePack.jurisdictionLabel
      rulePackId := rulePack.rulePackId
      compilerRevision := compilerRevision
      schemaRevision := projectionSchemaRevision
      syntheticOnly := true
      nonPredictive := true
      initialArtifacts := initialArtifacts
      actorFrontiers := (latestByActor personaStates).entries.map fun e => frontierOf e.2
      plannedArtifactCount := plans.length }
  return { payload with projectionId := "OPROJ-" ++ firstChars 18 (digest (.dict payload.payload)) }

/-- `case_compiler.py` `_build_evaluation_projection`. -/
def buildEvaluationProjection (blueprint : CaseDesignBlueprint)
    (conflicts : List SealedConflictSpec) (facts : List CompiledFact) (compilerRevision : String) :
    EvaluationCaseProjection where
  evaluatorCaseId := "EVAL-" ++ firstChars 18 (digest (.dict
    [("blueprint", .str blueprint.sealedCommitmentHash), ("surface", .str "evaluation")]))
  caseFamilyId := blueprint.caseFamilyId
  axisLabels := blueprint.sealedAxisLabels
  designLabels := blueprint.designLabels
  conflictSpecs := conflicts
  factCommitments := facts.map fun item => digest item.toJson
  scoringRubricRevision := "synthetic-case-design-recovery-g2-v1"
  compilerRevision := compilerRevision

/-! ## The sealed state -/

/-- What the identity of a sealed case is derived from. -/
def SealedCaseState.payload (s : SealedCaseState) : Json :=
  .dict
    [("world_namespace", .str s.worldNamespace), ("matter_namespace", .str s.matterNamespace),
     ("case_family_id", .str s.caseFamilyId),
     ("source_blueprint_commitment", .str s.sourceBlueprintCommitment),
     ("axis_labels", .pairs s.axisLabels),
     ("design_labels", .list (s.designLabels.map SealedDesignLabel.toJson)),
     ("target_posture", .str s.targetPosture), ("resolution_track", .str s.resolutionTrack),
     ("procedural_quality", .str s.proceduralQuality),
     ("representation_quality", .str s.representationQuality),
     ("facts", .list (s.facts.map CompiledFact.toJson)),
     ("conflicts", .list (s.conflicts.map SealedConflictSpec.toJson)),
     ("rule_pack_commitment", .str s.rulePackCommitment),
     ("compiler_revision", .str s.compilerRevision), ("schema_revision", .str s.schemaRevision)]

namespace CompileRequest

variable (r : CompileRequest)

/-- The namespace of a surface of the case. -/
def namespaceOf (label surface : String) : String :=
  label ++ firstChars 18 (digest (.dict
    [("blueprint", .str r.blueprint.sealedCommitmentHash), ("surface", .str surface)]))

def worldNamespace : String := r.namespaceOf "WNS-" "world"

def matterNamespace : String := r.namespaceOf "MNS-" "matter"

def caseScope (facts : List CompiledFact) (family : CaseFamilyManifest) : CaseScope where
  worldNamespace := r.worldNamespace
  matterNamespace := r.matterNamespace
  facts := facts
  family := family
  registry := r.registry

/-- The sealed state of the case. -/
def sealedState (family : CaseFamilyManifest) (facts : List CompiledFact)
    (conflicts : List SealedConflictSpec) : Except ContractError SealedCaseState := do
  let targetPosture ← r.selected.item "merits_posture"
  let resolutionTrack ← r.selected.item "resolution_track"
  let proceduralQuality ← r.selected.item "procedural_quality"
  let representationQuality ← r.selected.item "representation_quality"
  let payload : SealedCaseState :=
    { sealedCaseId := ""
      worldNamespace := r.worldNamespace
      matterNamespace := r.matterNamespace
      caseFamilyId := family.familyId
      sourceBlueprintCommitment := r.blueprint.sealedCommitmentHash
      axisLabels := r.blueprint.sealedAxisLabels
      designLabels := r.blueprint.designLabels
      targetPosture := targetPosture
      resolutionTrack := resolutionTrack
      proceduralQuality := proceduralQuality
      representationQuality := representationQuality
      facts := facts
      conflicts := conflicts
      rulePackCommitment := digest r.rulePack.toJson
      compilerRevision := r.compilerRevision }
  checkWritable r.rulePack.toJson
  return { payload with sealedCaseId := "SEALED-" ++ firstChars 18 (digest payload.payload) }

/-- The compilation of the artifacts, with its identity. -/
def compilation (sealed : SealedCaseState) (operating : OperatingCaseProjection)
    (evaluation : EvaluationCaseProjection) (artifacts : List CompiledArtifact) :
    CaseCompilation :=
  let parts : CaseCompilation :=
    { compilationId := ""
      compilerRevision := r.compilerRevision
      schemaRevision := projectionSchemaRevision
      sourceBlueprint := r.blueprint
      sourceBlueprintCommitment := r.blueprint.sealedCommitmentHash
      presentationScopeCommitment := presentationScopeCommitment r.blueprint r.compilerRevision
      sealed := sealed
      operating := operating
      evaluation := evaluation
      personaStates := artifacts.map (·.personaState)
      rendererViews := artifacts.map (·.view)
      artifactPlans := artifacts.map (·.plan)
      rendererProjections := artifacts.map (·.projection)
      stagedArtifacts := artifacts.map (·.stagedArtifact)
      localShapeReceipts := artifacts.map (·.shapeReceipt)
      artifactProductionManifests := artifacts.map (·.manifest)
      artifactMeshReceipts := artifacts.map (·.meshReceipt) }
  { parts with compilationId := "COMPILE-" ++ firstChars 18 (digest parts.payload) }

end CompileRequest

/-! ## Compiling -/

/-- `case_compiler.py` `compile_case_design`, up to the validation of what it has assembled. -/
def draftCaseDesign (r : CompileRequest) : Except ContractError CaseCompilation := do
  let family ← r.validate
  checkWritable r.blueprint.toJson
  let (facts, conflicts) ← buildFactDesign r.selected
  checkWritable family.toJson
  let specs ← planSpecs r.selected
  let artifacts ← specs.mapM (r.caseScope facts family).compileArtifact
  let plans := artifacts.map (·.plan)
  if ¬ (family.requiredEvidenceCapabilities.map fun item => "evidence." ++ item ++ ".v1") ⊆
      plans.map (·.capabilityId) then
    throw ⟨"required_evidence_capability_missing", []⟩
  if (plans.length : Int) > family.maxArtifacts then
    throw ⟨"matter_artifact_capacity_exceeded", []⟩
  let operating ← buildOperatingProjection family.familyId r.rulePack
    (artifacts.map (·.personaState)) plans r.compilerRevision
  let evaluation := buildEvaluationProjection r.blueprint conflicts facts r.compilerRevision
  let sealed ← r.sealedState family facts conflicts
  return r.compilation sealed operating evaluation artifacts

/-- `case_compiler.py` `compile_case_design`. -/
def compileCaseDesign (r : CompileRequest) : Except ContractError CaseCompilation := do
  let compilation ← draftCaseDesign r
  let report ← validateCaseCompilation compilation r.registry
  if report.passed = false then
    throw ⟨String.intercalate ";" (report.findings.map (·.code)), []⟩
  return compilation

end LawFirmDigitalTwin
