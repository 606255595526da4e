import LawFirmDigitalTwin.Evidence.Contracts
import LawFirmDigitalTwin.PyText

/-!
# Staged artifacts

The part of `evidence_contracts.py` about what a renderer hands in: `stage_artifact` commits to the
content, the identity and the custody of an artifact, `validate_staged_artifact` recomputes the
three commitments, and the local receipt commits to the whole artifact.
-/

namespace LawFirmDigitalTwin

/-- `evidence_contracts.py` `ArtifactValidationFinding`; `listed` are the keys its message names. -/
structure ArtifactValidationFinding where
  code : String
  subject : String
  message : String
  listed : List String := []

/-- `evidence_contracts.py` `ArtifactValidationReport`. -/
structure ArtifactValidationReport where
  passed : Bool
  findings : List ArtifactValidationFinding
  stagedArtifactHash : String
  validatorRevision : String := evidenceCoreRevision

/-- `evidence_contracts.py` `LocalArtifactShapeReceipt`. -/
structure LocalArtifactShapeReceipt where
  receiptId : String
  stagedArtifactId : String
  stagedArtifactHash : String
  planHash : String
  rendererProjectionHash : String
  validatorRevision : String
  decision : String
  authorityValidated : Bool := false
  lineageGraphValidated : Bool := false
  canonicalAdmission : Bool := false
  deriving DecidableEq

namespace LocalArtifactShapeReceipt

def toJson (r : LocalArtifactShapeReceipt) : Json :=
  .dict
    [("receipt_id", .str r.receiptId), ("staged_artifact_id", .str r.stagedArtifactId),
     ("staged_artifact_hash", .str r.stagedArtifactHash), ("plan_hash", .str r.planHash),
     ("renderer_projection_hash", .str r.rendererProjectionHash),
     ("validator_revision", .str r.validatorRevision), ("decision", .str r.decision),
     ("authority_validated", .bool r.authorityValidated),
     ("lineage_graph_validated", .bool r.lineageGraphValidated),
     ("canonical_admission", .bool r.canonicalAdmission)]

/-- `LocalArtifactShapeReceipt.receipt_hash`. -/
def receiptHash (r : LocalArtifactShapeReceipt) : String := digest r.toJson

end LocalArtifactShapeReceipt

/-! ## The commitments -/

/-- What `_content_commitment` hashes. -/
def contentForm (projection : RendererArtifactProjection) (body : String)
    (assertions : List FactAssertion) (metadata : List (String × String)) : Json :=
  .dict
    [("projection_hash", .str projection.projectionHash), ("body", .str body),
     ("assertions", assertionsJson assertions), ("metadata", .pairs metadata),
     ("simulated_target_native_format", .str projection.simulatedTargetNativeFormat),
     ("lineage", projection.lineage.toJson)]

/-- `evidence_contracts.py` `_content_commitment`. -/
def contentCommitment (projection : RendererArtifactProjection) (body : String)
    (assertions : List FactAssertion) (metadata : List (String × String)) : String :=
  digest (contentForm projection body assertions metadata)

/-- What the identity of a staged artifact is derived from. -/
def identityForm (projection : RendererArtifactProjection) (contentHash : String) : Json :=
  .dict [("projection", .str projection.projectionHash), ("content", .str contentHash)]

def stagedId (projection : RendererArtifactProjection) (contentHash : String) : String :=
  "STAGED-" ++ firstChars 18 (digest (identityForm projection contentHash))

/-- What the custody of a staged artifact is derived from. -/
def custodyForm (stagedArtifactId contentHash : String) (metadata : List (String × String))
    (lineageHash : String) : Json :=
  .dict
    [("action", .str "staged"), ("staged_artifact_id", .str stagedArtifactId),
     ("content_hash", .str contentHash), ("required_metadata", .pairs metadata),
     ("lineage_hash", .str lineageHash)]

/-- `not value` of an optional string. -/
def isUnset (value : Option String) : Bool := value = none ∨ value = some ""

/-- `evidence_contracts.py` `validate_version_lineage`. -/
def validateVersionLineage (lineage : ArtifactVersionLineage) : List String :=
  errorsIf [(lineage.revision < 1, "lineage_revision_invalid")] ++
    if lineage.revision = 1 then
      errorsIf
        [(¬ (isUnset lineage.parentVersionId ∧ isUnset lineage.parentContentHash ∧
            isUnset lineage.supersessionReason), "initial_version_has_parent")]
    else
      errorsIf
        [(isUnset lineage.parentVersionId ∨ isUnset lineage.parentContentHash,
            "parent_version_required"),
         (isUnset lineage.supersessionReason, "supersession_reason_required"),
         (lineage.parentVersionId = some lineage.versionId, "lineage_self_parent")]

section
variable (staged : StagedArtifact) (projection : RendererArtifactProjection)

/-- The checks of the fields that are taken over from the projection, and of the boundary. -/
def fieldChecks : List (Bool × String × String) :=
  [(staged.worldNamespace ≠ projection.worldNamespace, "cross_world_reference",
      "staged artifact and renderer projection worlds differ"),
   (staged.matterNamespace ≠ projection.matterNamespace, "cross_matter_reference",
      "staged artifact and renderer projection matters differ"),
   (staged.planId ≠ projection.planId ∨ staged.planHash ≠ projection.planHash,
      "plan_commitment_mismatch", "plan identity or commitment differs"),
   (staged.rendererProjectionHash ≠ projection.projectionHash, "renderer_projection_mismatch",
      "renderer projection commitment differs"),
   (staged.capabilityId ≠ projection.capabilityId ∨ staged.familyId ≠ projection.familyId,
      "family_contract_mismatch", "artifact family or capability differs"),
   (staged.capabilityRevision ≠ projection.capabilityRevision, "stale_capability_revision",
      "artifact capability revision differs"),
   (staged.authorId ≠ projection.authorId, "author_mismatch", "artifact author differs"),
   (staged.recipientIds ≠ projection.recipientIds, "recipient_mismatch",
      "artifact recipients differ"),
   (staged.createdDay ≠ projection.createdDay, "artifact_time_mismatch", "artifact time differs"),
   (staged.simulatedTargetNativeFormat ≠ projection.simulatedTargetNativeFormat,
      "target_native_format_mismatch", "simulated target format differs"),
   (staged.renderedMediaType ≠ "text/plain", "rendered_media_type_mismatch",
      "G2 fixture bytes are text/plain"),
   (staged.canonicalStatus ≠ "proposal_only", "worker_admission_forbidden",
      "only a future kernel adapter may admit artifacts"),
   (staged.syntheticOnly = false, "synthetic_boundary_missing", "artifact must remain synthetic"),
   (staged.rendererRevision = "", "renderer_revision_missing", "renderer revision is required"),
   ((strip staged.body.toList).length < 24, "placeholder_body",
      "body lacks substantive G2 content"),
   (["lorem ipsum", "todo", "placeholder document"].any (textContains (lowerText staged.body)),
      "placeholder_body", "body contains placeholder language")]

/-- The check of the assertions, which tells an added one from an omitted one. -/
def assertionChecks : List (Bool × String × String) :=
  let differs := canonicalJson (assertionsJson staged.assertions) ≠
    canonicalJson (assertionsJson projection.allowedAssertions)
  let expected := (projection.allowedAssertions.map (·.assertionId)).toFinset
  let observed := (staged.assertions.map (·.assertionId)).toFinset
  let added : Prop := observed \ expected ≠ ∅
  let omitted : Prop := expected \ observed ≠ ∅
  [(differs ∧ added, "renderer_fact_invention",
      "renderer added an assertion outside the projection"),
   (differs ∧ ¬ added ∧ omitted, "required_assertion_omitted",
      "renderer omitted an allowed required assertion"),
   (differs ∧ ¬ added ∧ ¬ omitted, "renderer_fact_mutation",
      "renderer changed an allowlisted assertion")]

/-- `sorted(set(projection.required_metadata_keys) - set(metadata))`. -/
def missingMetadata : List String :=
  sorted (projection.requiredMetadataKeys.toFinset \ (staged.metadata.map (·.1)).toFinset)

/-- The checks of the three commitments, apart from the lineage's own errors. -/
def commitmentChecks : List (Bool × String × String) :=
  let expected := contentCommitment projection staged.body staged.assertions staged.metadata
  [(staged.claimedContentHash ≠ expected, "content_hash_mismatch",
      "body, assertion, metadata, or lineage commitment changed"),
   (staged.stagedArtifactId ≠ stagedId projection expected, "staged_artifact_id_mismatch",
      "staged identity is not derived from projection and content"),
   (staged.claimedLineageHash ≠ staged.lineage.lineageHash, "lineage_hash_mismatch",
      "lineage commitment changed"),
   (staged.lineage ≠ projection.lineage, "lineage_projection_mismatch",
      "lineage differs from projection")]

/-- The check of the custody. -/
def custodyChecks : List (Bool × String × String) :=
  [(staged.custodyOriginHash ≠ digest (custodyForm staged.stagedArtifactId
      staged.claimedContentHash staged.metadata staged.claimedLineageHash),
    "custody_hash_mismatch", "custody origin does not authenticate staged bytes")]

/-- `evidence_contracts.py` `validate_staged_artifact`. -/
def validateStagedArtifact : ArtifactValidationReport :=
  let add (e : String × String) : ArtifactValidationFinding :=
    ⟨e.1, staged.stagedArtifactId, e.2, []⟩
  let missing := missingMetadata staged projection
  let findings :=
    (errorsIf (fieldChecks staged projection ++ assertionChecks staged projection)).map add ++
      errorsIf [(missing ≠ [], ⟨"required_metadata_missing", staged.stagedArtifactId,
        "missing metadata keys", missing⟩)] ++
      (errorsIf ((((staged.metadata.map (·.1)).toFinset.card ≠ staged.metadata.length : Bool),
        "duplicate_metadata_key", "metadata keys must be unique") ::
          commitmentChecks staged projection)).map add ++
      (validateVersionLineage staged.lineage).map (fun e => add (e, "version lineage is invalid")) ++
      (errorsIf (custodyChecks staged)).map add
  { passed := findings.isEmpty
    findings := findings
    stagedArtifactHash := digest staged.toJson }

end

/-- The artifact that `stage_artifact` makes, before it is validated. -/
def stagedOf (projection : RendererArtifactProjection) (body : String)
    (assertions : List FactAssertion) (metadata : List (String × String))
    (rendererRevision : String) : StagedArtifact :=
  let contentHash := contentCommitment projection body assertions metadata
  let id := stagedId projection contentHash
  { stagedArtifactId := id
    worldNamespace := projection.worldNamespace
    matterNamespace := projection.matterNamespace
    planId := projection.planId
    planHash := projection.planHash
    rendererProjectionHash := projection.projectionHash
    capabilityId := projection.capabilityId
    capabilityRevision := projection.capabilityRevision
    familyId := projection.familyId
    authorId := projection.authorId
    recipientIds := projection.recipientIds
    createdDay := projection.createdDay
    body := body
    assertions := assertions
    metadata := metadata
    simulatedTargetNativeFormat := projection.simulatedTargetNativeFormat
    renderedMediaType := "text/plain"
    lineage := projection.lineage
    claimedContentHash := contentHash
    claimedLineageHash := projection.lineage.lineageHash
    custodyOriginHash := digest (custodyForm id contentHash metadata projection.lineage.lineageHash)
    rendererRevision := rendererRevision }

/-- `sorted(set(assertions), key=lambda item: item.assertion_id)`. -/
def sortedAssertions (assertions : List FactAssertion) : List FactAssertion :=
  assertions.dedup.insertionSort fun a b => a.assertionId ≤ b.assertionId

/-- `sorted(set(metadata))`. -/
def sortedMetadata (metadata : List (String × String)) : List (String × String) :=
  metadata.dedup.insertionSort fun a b => toLex a ≤ toLex b

/-- `evidence_contracts.py` `stage_artifact`. -/
def stageArtifact (projection : RendererArtifactProjection) (body : String)
    (assertions : List FactAssertion) (metadata : List (String × String))
    (rendererRevision : String) : Except ContractError StagedArtifact := do
  let staged := stagedOf projection body (sortedAssertions assertions) (sortedMetadata metadata)
    rendererRevision
  let report := validateStagedArtifact staged projection
  if report.passed = false then
    throw ⟨String.intercalate ";" (report.findings.map (·.code)), []⟩
  return staged

/-- The receipt of a report on a staged artifact. -/
def shapeReceiptOf (staged : StagedArtifact) (report : ArtifactValidationReport) :
    LocalArtifactShapeReceipt where
  receiptId := "ACAND-" ++ firstChars 18 (digest (.dict
    [("artifact", .str report.stagedArtifactHash), ("validator", .str report.validatorRevision)]))
  stagedArtifactId := staged.stagedArtifactId
  stagedArtifactHash := report.stagedArtifactHash
  planHash := staged.planHash
  rendererProjectionHash := staged.rendererProjectionHash
  validatorRevision := report.validatorRevision
  decision := "local_shape_validated_only"

/-- `evidence_contracts.py` `issue_local_shape_receipt`. -/
def issueLocalShapeReceipt (staged : StagedArtifact) (projection : RendererArtifactProjection) :
    Except ContractError LocalArtifactShapeReceipt := do
  let report := validateStagedArtifact staged projection
  if report.passed = false then throw ⟨"artifact_validation_failed", []⟩
  return shapeReceiptOf staged report

/-- `evidence_contracts.py` `validate_local_shape_receipt`. -/
def validateLocalShapeReceipt (receipt : LocalArtifactShapeReceipt) (staged : StagedArtifact)
    (projection : RendererArtifactProjection) : List String :=
  let report := validateStagedArtifact staged projection
  if report.passed = false then ["receipt_artifact_not_valid"]
  else if receipt = shapeReceiptOf staged report then [] else ["candidate_receipt_mismatch"]

end LawFirmDigitalTwin
