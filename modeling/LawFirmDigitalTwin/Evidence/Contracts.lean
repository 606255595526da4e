import LawFirmDigitalTwin.CaseManifest

/-!
# Evidence contracts

The records of `evidence_contracts.py`: the assertions an artifact may make, its plan, what the
renderer is given of the plan, and the staged artifact. Every commitment is the digest of the
canonical form given here.
-/

namespace LawFirmDigitalTwin

def evidenceCoreRevision : String := "evidence-contracts-g2-v1"

/-- `evidence_contracts.py` `FactAssertion`. -/
structure FactAssertion where
  worldNamespace : String
  matterNamespace : String
  authorId : String
  factId : String
  value : String
  sourceKind : String
  sourceId : String
  learnedDay : Int
  deriving DecidableEq

namespace FactAssertion

def toJson (a : FactAssertion) : Json :=
  .dict
    [("world_namespace", .str a.worldNamespace), ("matter_namespace", .str a.matterNamespace),
     ("author_id", .str a.authorId), ("fact_id", .str a.factId), ("value", .str a.value),
     ("source_kind", .str a.sourceKind), ("source_id", .str a.sourceId),
     ("learned_day", .int a.learnedDay)]

/-- `FactAssertion.assertion_id`. -/
def assertionId (a : FactAssertion) : String := "ASSERT-" ++ firstChars 18 (digest a.toJson)

/-- An assertion is read off its form. -/
theorem toJson_injective : Function.Injective toJson := by
  rintro ⟨⟩ ⟨⟩ h
  simpa [toJson, and_assoc] using h

end FactAssertion

/-- The canonical form of a tuple of assertions. -/
def assertionsJson (assertions : List FactAssertion) : Json :=
  .list (assertions.map FactAssertion.toJson)

/-- `evidence_contracts.py` `ArtifactVersionLineage`. -/
structure ArtifactVersionLineage where
  logicalArtifactId : String
  versionId : String
  revision : Int
  parentVersionId : Option String
  parentContentHash : Option String
  supersessionReason : Option String
  deriving DecidableEq

namespace ArtifactVersionLineage

def toJson (l : ArtifactVersionLineage) : Json :=
  .dict
    [("logical_artifact_id", .str l.logicalArtifactId), ("version_id", .str l.versionId),
     ("revision", .int l.revision), ("parent_version_id", .optional l.parentVersionId),
     ("parent_content_hash", .optional l.parentContentHash),
     ("supersession_reason", .optional l.supersessionReason)]

/-- `ArtifactVersionLineage.lineage_hash`. -/
def lineageHash (l : ArtifactVersionLineage) : String := digest l.toJson

end ArtifactVersionLineage

/-- `evidence_contracts.py` `ArtifactPlan`. -/
structure ArtifactPlan where
  planId : String
  worldNamespace : String
  matterNamespace : String
  capabilityId : String
  capabilityRevision : String
  familyId : String
  channelKind : String
  authorId : String
  recipientIds : List String
  createdDay : Int
  allowedAssertions : List FactAssertion
  requiredMetadataKeys : List String
  simulatedTargetNativeFormat : String
  responsive : Bool
  privileged : Bool
  availability : String
  personaStateId : String
  personaStateHash : String
  knowledgeFrontierHash : String
  lineage : ArtifactVersionLineage
  purposeCommitment : String
  coreRevision : String := evidenceCoreRevision
  syntheticOnly : Bool := true

namespace ArtifactPlan

def toJson (p : ArtifactPlan) : Json :=
  .dict
    [("plan_id", .str p.planId), ("world_namespace", .str p.worldNamespace),
     ("matter_namespace", .str p.matterNamespace), ("capability_id", .str p.capabilityId),
     ("capability_revision", .str p.capabilityRevision), ("family_id", .str p.familyId),
     ("channel_kind", .str p.channelKind), ("author_id", .str p.authorId),
     ("recipient_ids", .strs p.recipientIds), ("created_day", .int p.createdDay),
     ("allowed_assertions", assertionsJson p.allowedAssertions),
     ("required_metadata_keys", .strs p.requiredMetadataKeys),
     ("simulated_target_native_format", .str p.simulatedTargetNativeFormat),
     ("responsive", .bool p.responsive), ("privileged", .bool p.privileged),
     ("availability", .str p.availability), ("persona_state_id", .str p.personaStateId),
     ("persona_state_hash", .str p.personaStateHash),
     ("knowledge_frontier_hash", .str p.knowledgeFrontierHash), ("lineage", p.lineage.toJson),
     ("purpose_commitment", .str p.purposeCommitment), ("core_revision", .str p.coreRevision),
     ("synthetic_only", .bool p.syntheticOnly)]

/-- `ArtifactPlan.plan_hash`. -/
def planHash (p : ArtifactPlan) : String := digest p.toJson

end ArtifactPlan

/-- `evidence_contracts.py` `RendererArtifactProjection`. -/
structure RendererArtifactProjection where
  projectionId : String
  planId : String
  planHash : String
  worldNamespace : String
  matterNamespace : String
  capabilityId : String
  capabilityRevision : String
  familyId : String
  channelKind : String
  authorId : String
  recipientIds : List String
  createdDay : Int
  allowedAssertions : List FactAssertion
  requiredMetadataKeys : List String
  simulatedTargetNativeFormat : String
  personaView : RendererPersonaView
  lineage : ArtifactVersionLineage
  coreRevision : String
  syntheticOnly : Bool := true
  deriving DecidableEq

namespace RendererArtifactProjection

def toJson (p : RendererArtifactProjection) : Json :=
  .dict
    [("projection_id", .str p.projectionId), ("plan_id", .str p.planId),
     ("plan_hash", .str p.planHash), ("world_namespace", .str p.worldNamespace),
     ("matter_namespace", .str p.matterNamespace), ("capability_id", .str p.capabilityId),
     ("capability_revision", .str p.capabilityRevision), ("family_id", .str p.familyId),
     ("channel_kind", .str p.channelKind), ("author_id", .str p.authorId),
     ("recipient_ids", .strs p.recipientIds), ("created_day", .int p.createdDay),
     ("allowed_assertions", assertionsJson p.allowedAssertions),
     ("required_metadata_keys", .strs p.requiredMetadataKeys),
     ("simulated_target_native_format", .str p.simulatedTargetNativeFormat),
     ("persona_view", p.personaView.toJson), ("lineage", p.lineage.toJson),
     ("core_revision", .str p.coreRevision), ("synthetic_only", .bool p.syntheticOnly)]

/-- `RendererArtifactProjection.projection_hash`. -/
def projectionHash (p : RendererArtifactProjection) : String := digest p.toJson

end RendererArtifactProjection

/-- `evidence_contracts.py` `StagedArtifact`. -/
structure StagedArtifact where
  stagedArtifactId : String
  worldNamespace : String
  matterNamespace : String
  planId : String
  planHash : String
  rendererProjectionHash : String
  capabilityId : String
  capabilityRevision : String
  familyId : String
  authorId : String
  recipientIds : List String
  createdDay : Int
  body : String
  assertions : List FactAssertion
  metadata : List (String × String)
  simulatedTargetNativeFormat : String
  renderedMediaType : String
  lineage : ArtifactVersionLineage
  claimedContentHash : String
  claimedLineageHash : String
  custodyOriginHash : String
  rendererRevision : String
  canonicalStatus : String := "proposal_only"
  syntheticOnly : Bool := true
  deriving DecidableEq

def StagedArtifact.toJson (a : StagedArtifact) : Json :=
  .dict
    [("staged_artifact_id", .str a.stagedArtifactId), ("world_namespace", .str a.worldNamespace),
     ("matter_namespace", .str a.matterNamespace), ("plan_id", .str a.planId),
     ("plan_hash", .str a.planHash), ("renderer_projection_hash", .str a.rendererProjectionHash),
     ("capability_id", .str a.capabilityId), ("capability_revision", .str a.capabilityRevision),
     ("family_id", .str a.familyId), ("author_id", .str a.authorId),
     ("recipient_ids", .strs a.recipientIds), ("created_day", .int a.createdDay),
     ("body", .str a.body), ("assertions", assertionsJson a.assertions),
     ("metadata", .pairs a.metadata),
     ("simulated_target_native_format", .str a.simulatedTargetNativeFormat),
     ("rendered_media_type", .str a.renderedMediaType), ("lineage", a.lineage.toJson),
     ("claimed_content_hash", .str a.claimedContentHash),
     ("claimed_lineage_hash", .str a.claimedLineageHash),
     ("custody_origin_hash", .str a.custodyOriginHash),
     ("renderer_revision", .str a.rendererRevision), ("canonical_status", .str a.canonicalStatus),
     ("synthetic_only", .bool a.syntheticOnly)]

end LawFirmDigitalTwin
