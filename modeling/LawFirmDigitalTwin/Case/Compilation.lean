import LawFirmDigitalTwin.Case.Facts
import LawFirmDigitalTwin.Evidence.Lineage
import LawFirmDigitalTwin.Evidence.SpecialistMesh

/-!
# Case compilations

A `CaseCompilation` of `case_compiler.py` and its validator. The parts of a compilation have their
declared types and need not fit together. The validator collects findings; where it derives a
persona view or a projection again, the constructor it calls may raise.
-/

namespace LawFirmDigitalTwin

/-- `FORBIDDEN_OPERATING_FIELDS`. -/
def forbiddenOperatingFields : List String :=
  ["seed", "sealed_axis_labels", "design_labels", "target_posture", "target_strength",
    "declared_conflict", "conflict_purpose", "resolution_track", "representation_quality",
    "procedural_quality", "evaluator_case_id", "evaluation_projection", "oracle", "world_truth"]

/-- `case_compiler.py` `OperatingActorFrontier`. -/
structure OperatingActorFrontier where
  frontierId : String
  actorId : String
  roleId : String
  organization : String
  asOfDay : Int
  knownFactCount : Int
  authorityCount : Int

def OperatingActorFrontier.toJson (f : OperatingActorFrontier) : Json :=
  .dict
    [("frontier_id", .str f.frontierId), ("actor_id", .str f.actorId), ("role_id", .str f.roleId),
     ("organization", .str f.organization), ("as_of_day", .int f.asOfDay),
     ("known_fact_count", .int f.knownFactCount), ("authority_count", .int f.authorityCount)]

/-- `case_compiler.py` `OperatingArtifactSummary`. -/
structure OperatingArtifactSummary where
  publicPlanId : String
  capabilityId : String
  familyId : String
  createdDay : Int
  authorRoleId : String
  simulatedTargetNativeFormat : String
  initial : Bool
  syntheticOnly : Bool := true

def OperatingArtifactSummary.toJson (a : OperatingArtifactSummary) : Json :=
  .dict
    [("public_plan_id", .str a.publicPlanId), ("capability_id", .str a.capabilityId),
     ("family_id", .str a.familyId), ("created_day", .int a.createdDay),
     ("author_role_id", .str a.authorRoleId),
     ("simulated_target_native_format", .str a.simulatedTargetNativeFormat),
     ("initial", .bool a.initial), ("synthetic_only", .bool a.syntheticOnly)]

/-- `case_compiler.py` `OperatingCaseProjection`. -/
structure OperatingCaseProjection where
  projectionId : String
  caseFamilyId : String
  jurisdictionLabel : String
  rulePackId : String
  compilerRevision : String
  schemaRevision : String
  syntheticOnly : Bool
  nonPredictive : Bool
  initialArtifacts : List OperatingArtifactSummary
  actorFrontiers : List OperatingActorFrontier
  plannedArtifactCount : Int

namespace OperatingCaseProjection

/-- The fields apart from the identity. -/
def payload (p : OperatingCaseProjection) : List (String × Json) :=
  [("case_family_id", .str p.caseFamilyId), ("jurisdiction_label", .str p.jurisdictionLabel),
   ("rule_pack_id", .str p.rulePackId), ("compiler_revision", .str p.compilerRevision),
   ("schema_revision", .str p.schemaRevision), ("synthetic_only", .bool p.syntheticOnly),
   ("non_predictive", .bool p.nonPredictive),
   ("initial_artifacts", .list (p.initialArtifacts.map OperatingArtifactSummary.toJson)),
   ("actor_frontiers", .list (p.actorFrontiers.map OperatingActorFrontier.toJson)),
   ("planned_artifact_count", .int p.plannedArtifactCount)]

def toJson (p : OperatingCaseProjection) : Json :=
  .dict (("projection_id", .str p.projectionId) :: p.payload)

/-- `OperatingCaseProjection.projection_hash`. -/
def projectionHash (p : OperatingCaseProjection) : String := digest p.toJson

end OperatingCaseProjection

/-- `case_compiler.py` `EvaluationCaseProjection`. -/
structure EvaluationCaseProjection where
  evaluatorCaseId : String
  caseFamilyId : String
  axisLabels : List (String × String)
  designLabels : List SealedDesignLabel
  conflictSpecs : List SealedConflictSpec
  factCommitments : List String
  scoringRubricRevision : String
  compilerRevision : String
  syntheticOnly : Bool := true
  realWorldPrediction : Bool := false

namespace EvaluationCaseProjection

def toJson (p : EvaluationCaseProjection) : Json :=
  .dict
    [("evaluator_case_id", .str p.evaluatorCaseId), ("case_family_id", .str p.caseFamilyId),
     ("axis_labels", .pairs p.axisLabels),
     ("design_labels", .list (p.designLabels.map SealedDesignLabel.toJson)),
     ("conflict_specs", .list (p.conflictSpecs.map SealedConflictSpec.toJson)),
     ("fact_commitments", .strs p.factCommitments),
     ("scoring_rubric_revision", .str p.scoringRubricRevision),
     ("compiler_revision", .str p.compilerRevision), ("synthetic_only", .bool p.syntheticOnly),
     ("real_world_prediction", .bool p.realWorldPrediction)]

/-- `EvaluationCaseProjection.projection_hash`. -/
def projectionHash (p : EvaluationCaseProjection) : String := digest p.toJson

end EvaluationCaseProjection

/-- `case_compiler.py` `CaseCompilation`. -/
structure CaseCompilation where
  compilationId : String
  compilerRevision : String
  schemaRevision : String
  sourceBlueprint : CaseDesignBlueprint
  sourceBlueprintCommitment : String
  presentationScopeCommitment : String
  sealed : SealedCaseState
  operating : OperatingCaseProjection
  evaluation : EvaluationCaseProjection
  personaStates : List PersonaStateSnapshot
  rendererViews : List RendererPersonaView
  artifactPlans : List ArtifactPlan
  rendererProjections : List RendererArtifactProjection
  stagedArtifacts : List StagedArtifact
  localShapeReceipts : List LocalArtifactShapeReceipt
  artifactProductionManifests : List ArtifactProductionManifest
  artifactMeshReceipts : List ArtifactMeshLocalReceipt

/-- `case_compiler.py` `CompilationFinding`; `listed` are the items its message names. -/
structure CompilationFinding where
  code : String
  subject : String
  message : String
  listed : List String := []

/-- `case_compiler.py` `CompilationValidationReport`. -/
structure CompilationValidationReport where
  passed : Bool
  findings : List CompilationFinding
  compilationHash : String
  validatorRevision : String := caseCompilerRevision

/-- `{item.family_id: item for item in registry.case_families}`. -/
def CapabilityRegistry.familyById (registry : CapabilityRegistry) : PyDict CaseFamilyManifest :=
  .ofEntries (registry.caseFamilies.map fun item => (item.familyId, item))

/-- `case_compiler.py` `_presentation_scope_commitment`. -/
def presentationScopeCommitment (blueprint : CaseDesignBlueprint) (compilerRevision : String) :
    String :=
  digest (.dict
    [("design_id", .str blueprint.designId), ("ordinal", .int blueprint.ordinal),
     ("case_family_id", .str blueprint.caseFamilyId), ("compiler_revision", .str compilerRevision),
     ("policy", .str "presentation-scope-safe-inputs-g2-v1")])

/-- `len(items) != len(set(items))`. -/
def repeats (items : List String) : Bool := items.length ≠ items.toFinset.card

namespace CaseCompilation

variable (c : CaseCompilation) (registry : CapabilityRegistry)

def toJson : Json :=
  .dict
    [("compilation_id", .str c.compilationId), ("compiler_revision", .str c.compilerRevision),
     ("schema_revision", .str c.schemaRevision), ("source_blueprint", c.sourceBlueprint.toJson),
     ("source_blueprint_commitment", .str c.sourceBlueprintCommitment),
     ("presentation_scope_commitment", .str c.presentationScopeCommitment),
     ("sealed", c.sealed.toJson), ("operating", c.operating.toJson),
     ("evaluation", c.evaluation.toJson),
     ("persona_states", .list (c.personaStates.map PersonaStateSnapshot.toJson)),
     ("renderer_views", .list (c.rendererViews.map RendererPersonaView.toJson)),
     ("artifact_plans", .list (c.artifactPlans.map ArtifactPlan.toJson)),
     ("renderer_projections", .list (c.rendererProjections.map RendererArtifactProjection.toJson)),
     ("staged_artifacts", .list (c.stagedArtifacts.map StagedArtifact.toJson)),
     ("local_shape_receipts", .list (c.localShapeReceipts.map LocalArtifactShapeReceipt.toJson)),
     ("artifact_production_manifests",
       .list (c.artifactProductionManifests.map ArtifactProductionManifest.toJson)),
     ("artifact_mesh_receipts",
       .list (c.artifactMeshReceipts.map ArtifactMeshLocalReceipt.toJson))]

/-- `CaseCompilation.compilation_hash`. -/
def compilationHash : String := digest c.toJson

/-! ## The compilation as a whole -/

/-- The case family of the sealed state. -/
def family : Option CaseFamilyManifest := registry.familyById.get? c.sealed.caseFamilyId

def familyFindings : List CompilationFinding :=
  match c.family registry with
  | none => [⟨"CMP-001", "case_family", "unknown case family", []⟩]
  | some family =>
    errorsIf
      [(family.readiness ≠ "active_g2",
        ⟨"CMP-002", family.familyId, "case family is not active G2", []⟩)]

/-- The checks that the parts name one blueprint, one compiler and one family. -/
def identityFindings : List CompilationFinding :=
  errorsIf
    [(c.sourceBlueprintCommitment ≠ c.sealed.sourceBlueprintCommitment,
      ⟨"CMP-003", c.compilationId, "blueprint commitment mismatch", []⟩),
     (c.compilerRevision ≠ c.sealed.compilerRevision,
      ⟨"CMP-004", c.compilationId, "compiler revision mismatch", []⟩),
     (c.schemaRevision ≠ projectionSchemaRevision,
      ⟨"CMP-005", c.compilationId, "projection schema mismatch", []⟩),
     (c.operating.caseFamilyId ≠ c.sealed.caseFamilyId,
      ⟨"CMP-028", c.compilationId, "operating case family mismatch", []⟩),
     (c.evaluation.caseFamilyId ≠ c.sealed.caseFamilyId,
      ⟨"CMP-029", c.compilationId, "evaluation case family mismatch", []⟩),
     (c.operating.compilerRevision ≠ c.compilerRevision,
      ⟨"CMP-030", c.compilationId, "operating compiler revision mismatch", []⟩)]

/-- The text of the operating projection that is searched for sealed words. -/
def operatingText : String := lowerText (canonicalJson c.operating.toJson)

/-- The checks that nothing sealed is left in the operating projection. -/
def leakFindings : List CompilationFinding :=
  errorsIf (forbiddenOperatingFields.map fun term =>
    (textContains c.operatingText term,
      ⟨"CMP-006", c.operating.projectionId, "forbidden operating field: " ++ term, []⟩)) ++
  errorsIf (c.sealed.axisLabels.map fun label =>
    (textContains c.operatingText ("\"" ++ lowerText label.2 ++ "\""),
      ⟨"CMP-007", c.operating.projectionId, "axis value leaked", []⟩)) ++
  errorsIf
    [(textContains c.operatingText (lowerText c.evaluation.evaluatorCaseId),
      ⟨"CMP-008", c.operating.projectionId, "evaluation join leaked", []⟩),
     (c.evaluation.syntheticOnly = false ∨ c.evaluation.realWorldPrediction = true,
      ⟨"CMP-009", c.evaluation.evaluatorCaseId, "evaluation boundary invalid", []⟩)]

/-- The checks that the parallel lists have one length and no identity twice. -/
def pipelineFindings : List CompilationFinding :=
  errorsIf
    [(repeats (c.artifactPlans.map (·.planId)),
      ⟨"CMP-011", c.compilationId, "duplicate plan id", []⟩),
     (repeats (c.stagedArtifacts.map (·.stagedArtifactId)),
      ⟨"CMP-012", c.compilationId, "duplicate staged id", []⟩),
     (repeats (c.rendererProjections.map (·.planId)),
      ⟨"CMP-031", c.compilationId, "duplicate renderer plan id", []⟩),
     (repeats (c.localShapeReceipts.map (·.receiptId)),
      ⟨"CMP-032", c.compilationId, "duplicate receipt id", []⟩),
     (repeats (c.localShapeReceipts.map (·.planHash)),
      ⟨"CMP-033", c.compilationId, "duplicate receipt plan hash", []⟩),
     (repeats (c.rendererViews.map (·.viewId)),
      ⟨"CMP-034", c.compilationId, "duplicate renderer view id", []⟩),
     (¬ (c.artifactPlans.length = c.rendererProjections.length ∧
        c.rendererProjections.length = c.stagedArtifacts.length ∧
        c.stagedArtifacts.length = c.localShapeReceipts.length ∧
        c.localShapeReceipts.length = c.artifactProductionManifests.length ∧
        c.artifactProductionManifests.length = c.artifactMeshReceipts.length),
      ⟨"CMP-013", c.compilationId, "pipeline cardinality mismatch", []⟩)]

def lineageFindings : List CompilationFinding :=
  (validateLineageGraph c.artifactPlans c.stagedArtifacts).map fun error =>
    ⟨"CMP-LINEAGE", c.compilationId, error, []⟩

/-! ## The loop over the plans -/

/-- `{item.view_id: item for item in compilation.renderer_views}`. -/
def viewById : PyDict RendererPersonaView :=
  .ofEntries (c.rendererViews.map fun item => (item.viewId, item))

/-- The state that a plan names. -/
def stateOf (plan : ArtifactPlan) : Option PersonaStateSnapshot :=
  (stateById c.personaStates).get? plan.personaStateId

section
variable (plan : ArtifactPlan)

def capabilityFindings : List CompilationFinding :=
  match registry.evidenceById.get? plan.capabilityId with
  | none => [⟨"CMP-014", plan.planId, "inactive evidence capability", []⟩]
  | some capability =>
    if capability.readiness ≠ "active_g2" then
      [⟨"CMP-014", plan.planId, "inactive evidence capability", []⟩]
    else
      errorsIf
        [(plan.capabilityRevision ≠ capability.revision,
          ⟨"CMP-035", plan.planId, "stale evidence capability revision", []⟩)]

def groundingFindings : List CompilationFinding :=
  errorsIf
    [(plan.allowedAssertions.any fun item =>
        item.assertionId ∉ sealedAssertionGrantIds c.sealed,
      ⟨"CMP-036", plan.planId, "assertion is not grounded in sealed fact authority", []⟩),
     (plan.worldNamespace ≠ c.sealed.worldNamespace,
      ⟨"CMP-015", plan.planId, "cross-world plan", []⟩),
     (plan.matterNamespace ≠ c.sealed.matterNamespace,
      ⟨"CMP-016", plan.planId, "cross-matter plan", []⟩)]

def stateFindings : List CompilationFinding :=
  match c.stateOf plan with
  | none => [⟨"CMP-017", plan.planId, "missing or stale persona state", []⟩]
  | some state =>
    if state.stateHash ≠ plan.personaStateHash then
      [⟨"CMP-017", plan.planId, "missing or stale persona state", []⟩]
    else if validatePersonaSnapshot state ≠ [] then
      [⟨"CMP-018", plan.planId, "invalid persona state", []⟩]
    else if state.matterNamespace ≠ c.sealed.matterNamespace then
      [⟨"CMP-037", plan.planId, "cross-matter persona state", []⟩]
    else
      errorsIf
        [(plan.allowedAssertions.any fun item => item.assertionId ∉ state.knowledgeAssertionIds,
          ⟨"CMP-038", plan.planId, "plan assertion not granted to persona state", []⟩)]

def authorityFindings : List CompilationFinding :=
  match c.stateOf plan, registry.evidenceById.get? plan.capabilityId with
  | some state, some capability =>
    (validatePlanAuthority plan state capability).map fun error =>
      ⟨"CMP-AUTHORITY", plan.planId, error, []⟩
  | _, _ => []

variable (renderer : RendererArtifactProjection)

def rendererFindings : List CompilationFinding :=
  errorsIf
    [(renderer.worldNamespace ≠ c.sealed.worldNamespace,
      ⟨"CMP-020", plan.planId, "cross-world renderer", []⟩),
     (renderer.matterNamespace ≠ c.sealed.matterNamespace,
      ⟨"CMP-039", plan.planId, "cross-matter renderer", []⟩),
     (renderer.capabilityRevision ≠ plan.capabilityRevision,
      ⟨"CMP-040", plan.planId, "renderer capability revision mismatch", []⟩)]

/-- The renderer's view and projection, derived again from a state. -/
def rederivedFindings (state : PersonaStateSnapshot) :
    Except ContractError (List CompilationFinding) := do
  let expectedView ← projectPersonaForRenderer state (plan.allowedAssertions.map (·.factId))
    (plan.allowedAssertions.map (·.assertionId))
  if renderer.personaView ≠ expectedView then
    return [⟨"CMP-043", plan.planId, "renderer persona view is not derived from trusted state", []⟩]
  let expectedRenderer ← buildRendererProjection plan expectedView state
  return errorsIf
    [(renderer ≠ expectedRenderer,
      ⟨"CMP-048", plan.planId, "renderer projection is not canonical for plan", []⟩)]

def viewFindings : Except ContractError (List CompilationFinding) :=
  if c.viewById.get? renderer.personaView.viewId ≠ some renderer.personaView then
    return [⟨"CMP-041", plan.planId, "renderer persona view is missing or stale", []⟩]
  else
    match c.stateOf plan with
    | none => return [⟨"CMP-042", plan.planId, "renderer persona state commitment mismatch", []⟩]
    | some state =>
      if renderer.personaView.personaStateHash ≠ state.stateHash then
        return [⟨"CMP-042", plan.planId, "renderer persona state commitment mismatch", []⟩]
      else rederivedFindings plan renderer state

def receiptFindings (staged : StagedArtifact) : List CompilationFinding :=
  match (shapeByPlanHash c.localShapeReceipts).get? plan.planHash with
  | none => [⟨"CMP-022", plan.planId, "candidate receipt missing", []⟩]
  | some receipt =>
    if receipt.canonicalAdmission ≠ false then
      [⟨"CMP-023", plan.planId, "worker claimed canonical admission", []⟩]
    else
      (validateLocalShapeReceipt receipt staged renderer).map fun error =>
        ⟨"CMP-RECEIPT", receipt.receiptId, error, []⟩

def stagedFindings : List CompilationFinding :=
  match (stagedByPlan c.stagedArtifacts).get? plan.planId with
  | none => [⟨"CMP-021", plan.planId, "staged artifact missing", []⟩]
  | some staged =>
    ((validateStagedArtifact staged renderer).findings.map fun item =>
      ⟨"CMP-ART-" ++ item.code, item.subject, item.message, item.listed⟩) ++
      c.receiptFindings plan renderer staged

end

/-- The findings about a plan before its renderer is looked up. -/
def planOnlyFindings (plan : ArtifactPlan) : List CompilationFinding :=
  capabilityFindings registry plan ++ c.groundingFindings plan ++ c.stateFindings plan ++
    c.authorityFindings registry plan

/-- One pass of the loop over the plans. -/
def planFindings (plan : ArtifactPlan) : Except ContractError (List CompilationFinding) :=
  match (projectionByPlan c.rendererProjections).get? plan.planId with
  | none =>
    return c.planOnlyFindings registry plan ++
      [⟨"CMP-019", plan.planId, "renderer projection missing or stale", []⟩]
  | some renderer => do
    if renderer.planHash ≠ plan.planHash then
      return c.planOnlyFindings registry plan ++
        [⟨"CMP-019", plan.planId, "renderer projection missing or stale", []⟩]
    let viewFindings ← c.viewFindings plan renderer
    return c.planOnlyFindings registry plan ++ c.rendererFindings plan renderer ++ viewFindings ++
      c.stagedFindings plan renderer

/-! ## The family's limits and the mesh -/

/-- The arguments of the mesh validator. -/
def mesh (family : CaseFamilyManifest) : ArtifactMesh where
  family := family
  registry := registry
  plans := c.artifactPlans
  projections := c.rendererProjections
  states := c.personaStates
  stagedArtifacts := c.stagedArtifacts
  shapeReceipts := c.localShapeReceipts
  manifests := c.artifactProductionManifests
  meshReceipts := c.artifactMeshReceipts

/-- Whether a capability is used more often than it may be. -/
def overLimit (count : String × Nat) : Bool :=
  match registry.evidenceById.get? count.1 with
  | none => false
  | some capability => (count.2 : Int) > capability.maxPerMatter

def limitFindings (family : CaseFamilyManifest) : List CompilationFinding :=
  let observed := c.artifactPlans.map (·.capabilityId)
  errorsIf
    [(¬ (family.requiredEvidenceCapabilities.map fun item => "evidence." ++ item ++ ".v1") ⊆
        observed,
      ⟨"CMP-024", family.familyId, "required evidence capability missing", []⟩)] ++
  errorsIf ((Groups.tally observed).map fun count =>
    (overLimit registry count, ⟨"CMP-025", count.1, "capability limit exceeded", []⟩)) ++
  errorsIf
    [((c.artifactPlans.length : Int) > family.maxArtifacts,
      ⟨"CMP-026", family.familyId, "matter artifact limit exceeded", []⟩)]

def meshFindings (family : CaseFamilyManifest) : List CompilationFinding :=
  (c.mesh registry family).validate.findings.map fun item =>
    ⟨"CMP-" ++ item.code, item.subject, item.message, item.listed⟩

def scopeFindings : List CompilationFinding :=
  match c.family registry with
  | none => []
  | some family => c.limitFindings registry family ++ c.meshFindings registry family

/-! ## The commitments -/

/-- What the identity of a compilation is derived from. -/
def payload : Json :=
  .dict
    [("blueprint", .str c.sourceBlueprintCommitment), ("sealed", .str c.sealed.sealedStateHash),
     ("operating", .str c.operating.projectionHash),
     ("evaluation", .str c.evaluation.projectionHash),
     ("plans", .strs (c.artifactPlans.map (·.planHash))),
     ("persona_states", .strs (c.personaStates.map (·.stateHash))),
     ("renderers", .strs (c.rendererProjections.map (·.projectionHash))),
     ("staged", .strs (c.stagedArtifacts.map fun item => digest item.toJson)),
     ("receipts", .strs (c.localShapeReceipts.map (·.receiptHash))),
     ("compiler_revision", .str c.compilerRevision),
     ("presentation_scope_commitment", .str c.presentationScopeCommitment),
     ("specialist_manifests", .strs (c.artifactProductionManifests.map (·.manifestHash))),
     ("specialist_mesh_receipts", .strs (c.artifactMeshReceipts.map (·.receiptHash)))]

def commitmentFindings : List CompilationFinding :=
  errorsIf
    [(c.sourceBlueprint.sealedCommitmentHash ≠ c.sourceBlueprintCommitment,
      ⟨"CMP-045", c.compilationId, "source blueprint commitment mismatch", []⟩),
     (c.presentationScopeCommitment ≠
        LawFirmDigitalTwin.presentationScopeCommitment c.sourceBlueprint c.compilerRevision,
      ⟨"CMP-046", c.compilationId, "presentation scope derivation mismatch", []⟩),
     (c.presentationScopeCommitment.length ≠ 64,
      ⟨"CMP-044", c.compilationId, "presentation scope commitment invalid", []⟩),
     (c.compilationId ≠ "COMPILE-" ++ firstChars 18 (digest c.payload),
      ⟨"CMP-027", c.compilationId, "compilation mismatch", []⟩)]

/-- The digests of a compilation, of its parts and of its family's manifest. -/
def checkHashes : Except ContractError Unit := do
  checkWritable c.toJson
  match c.family registry with
  | none => return ()
  | some family => checkWritable family.toJson

end CaseCompilation

/-- `case_compiler.py` `validate_case_compilation`. The parts are hashed one after the other, the
whole at the end: where an integer cannot be written, one of these digests raises. -/
def validateCaseCompilation (c : CaseCompilation) (registry : CapabilityRegistry) :
    Except ContractError CompilationValidationReport := do
  c.checkHashes registry
  let planFindings ← c.artifactPlans.mapM (c.planFindings registry)
  let findings := c.familyFindings registry ++ c.identityFindings ++ c.leakFindings ++
    c.pipelineFindings ++ c.lineageFindings ++ planFindings.flatten ++ c.scopeFindings registry ++
    c.commitmentFindings
  return { passed := findings.isEmpty, findings := findings, compilationHash := c.compilationHash }

/-- `case_compiler.py` `CaseCompilationQualificationReceipt`. -/
structure CaseCompilationQualificationReceipt where
  receiptId : String
  compilationId : String
  compilationHash : String
  validatorRevision : String
  sealedAuthorityValidated : Bool
  lineageGraphValidated : Bool
  localShapeReceiptsValidated : Bool
  specialistMeshValidated : Bool
  canonicalAdmission : Bool := false
  deriving DecidableEq

/-- The receipt of a compilation whose report says that it passed. -/
def CompilationValidationReport.receipt (report : CompilationValidationReport)
    (compilationId : String) : CaseCompilationQualificationReceipt :=
  let payload : Json := .dict
    [("compilation_id", .str compilationId), ("compilation_hash", .str report.compilationHash),
     ("validator_revision", .str report.validatorRevision),
     ("sealed_authority_validated", .bool true), ("lineage_graph_validated", .bool true),
     ("local_shape_receipts_validated", .bool true), ("specialist_mesh_validated", .bool true)]
  { receiptId := "CASEQUAL-" ++ firstChars 18 (digest payload)
    compilationId
    compilationHash := report.compilationHash
    validatorRevision := report.validatorRevision
    sealedAuthorityValidated := true
    lineageGraphValidated := true
    localShapeReceiptsValidated := true
    specialistMeshValidated := true }

/-- `case_compiler.py` `qualify_case_compilation`. -/
def qualifyCaseCompilation (c : CaseCompilation) (registry : CapabilityRegistry) :
    Except ContractError CaseCompilationQualificationReceipt := do
  let report ← validateCaseCompilation c registry
  if report.passed = false then throw ⟨"case_compilation_validation_failed", []⟩
  return report.receipt c.compilationId

/-- `case_compiler.py` `validate_case_qualification_receipt`. What the validation raises is a
`ValueError`. -/
def validateCaseQualificationReceipt (receipt : CaseCompilationQualificationReceipt)
    (c : CaseCompilation) (registry : CapabilityRegistry) : Bool :=
  match qualifyCaseCompilation c registry with
  | .ok issued => decide (receipt = issued)
  | .error _ => false

end LawFirmDigitalTwin
