import LawFirmDigitalTwin.Population.Axis
import LawFirmDigitalTwin.Evidence.Persona

/-!
# Case families, capabilities and blueprints

`case_manifest.py`: the contracts a case is compiled against. A registry is a value of these types;
the compiler and its validators take any.
-/

namespace LawFirmDigitalTwin

/-- `case_manifest.py` `CaseFamilyManifest`. -/
structure CaseFamilyManifest where
  familyId : String
  revision : String
  label : String
  readiness : String
  fidelityLevel : String
  syntheticOnly : Bool
  factDomains : List String
  requiredRoles : List String
  requiredEvidenceCapabilities : List String
  supportedResolutionTracks : List String
  expertDomains : List String
  prohibitedCapabilities : List String
  maxRoles : Int
  maxRelationshipEdges : Int
  maxArtifacts : Int
  maxVersionsPerArtifact : Int
  activationGate : String

namespace CaseFamilyManifest

def toJson (f : CaseFamilyManifest) : Json :=
  .dict
    [("family_id", .str f.familyId), ("revision", .str f.revision), ("label", .str f.label),
     ("readiness", .str f.readiness), ("fidelity_level", .str f.fidelityLevel),
     ("synthetic_only", .bool f.syntheticOnly), ("fact_domains", .strs f.factDomains),
     ("required_roles", .strs f.requiredRoles),
     ("required_evidence_capabilities", .strs f.requiredEvidenceCapabilities),
     ("supported_resolution_tracks", .strs f.supportedResolutionTracks),
     ("expert_domains", .strs f.expertDomains),
     ("prohibited_capabilities", .strs f.prohibitedCapabilities), ("max_roles", .int f.maxRoles),
     ("max_relationship_edges", .int f.maxRelationshipEdges),
     ("max_artifacts", .int f.maxArtifacts),
     ("max_versions_per_artifact", .int f.maxVersionsPerArtifact),
     ("activation_gate", .str f.activationGate)]

/-- `CaseFamilyManifest.manifest_hash`. -/
def manifestHash (f : CaseFamilyManifest) : String := digest f.toJson

end CaseFamilyManifest

/-- `case_manifest.py` `EvidenceFamilyCapability`. -/
structure EvidenceFamilyCapability where
  capabilityId : String
  revision : String
  familyId : String
  channelKind : String
  schemaId : String
  requiredFields : List String
  allowedNativeFormats : List String
  allowedAuthorRoles : List String
  recipientPolicyId : String
  custodyPolicyId : String
  versioningPolicyId : String
  validatorIds : List String
  maxPerMatter : Int
  requiresSender : Bool
  requiresRecipients : Bool
  requiresContractLineage : Bool
  fidelityLevel : String
  prohibitedShortcuts : List String
  protectedFixtureId : String
  escalationCapabilityId : String
  readiness : String

def EvidenceFamilyCapability.toJson (c : EvidenceFamilyCapability) : Json :=
  .dict
    [("capability_id", .str c.capabilityId), ("revision", .str c.revision),
     ("family_id", .str c.familyId), ("channel_kind", .str c.channelKind),
     ("schema_id", .str c.schemaId), ("required_fields", .strs c.requiredFields),
     ("allowed_native_formats", .strs c.allowedNativeFormats),
     ("allowed_author_roles", .strs c.allowedAuthorRoles),
     ("recipient_policy_id", .str c.recipientPolicyId),
     ("custody_policy_id", .str c.custodyPolicyId),
     ("versioning_policy_id", .str c.versioningPolicyId), ("validator_ids", .strs c.validatorIds),
     ("max_per_matter", .int c.maxPerMatter), ("requires_sender", .bool c.requiresSender),
     ("requires_recipients", .bool c.requiresRecipients),
     ("requires_contract_lineage", .bool c.requiresContractLineage),
     ("fidelity_level", .str c.fidelityLevel), ("prohibited_shortcuts", .strs c.prohibitedShortcuts),
     ("protected_fixture_id", .str c.protectedFixtureId),
     ("escalation_capability_id", .str c.escalationCapabilityId), ("readiness", .str c.readiness)]

/-- `case_manifest.py` `SpecialistCapability`. -/
structure SpecialistCapability where
  capabilityId : String
  revision : String
  kind : String
  classification : String
  objective : String
  typedInputs : List String
  prohibitedInputs : List String
  outputs : List String
  errors : List String
  allowedTools : List String
  privacyClass : String
  effectScope : String
  canonicalTruthWrite : Bool
  dependencies : List String
  validatorIds : List String
  stopConditions : List String
  qualificationFixtureId : String
  qualificationExpiryTriggers : List String

def SpecialistCapability.toJson (c : SpecialistCapability) : Json :=
  .dict
    [("capability_id", .str c.capabilityId), ("revision", .str c.revision), ("kind", .str c.kind),
     ("classification", .str c.classification), ("objective", .str c.objective),
     ("typed_inputs", .strs c.typedInputs), ("prohibited_inputs", .strs c.prohibitedInputs),
     ("outputs", .strs c.outputs), ("errors", .strs c.errors),
     ("allowed_tools", .strs c.allowedTools), ("privacy_class", .str c.privacyClass),
     ("effect_scope", .str c.effectScope), ("canonical_truth_write", .bool c.canonicalTruthWrite),
     ("dependencies", .strs c.dependencies), ("validator_ids", .strs c.validatorIds),
     ("stop_conditions", .strs c.stopConditions),
     ("qualification_fixture_id", .str c.qualificationFixtureId),
     ("qualification_expiry_triggers", .strs c.qualificationExpiryTriggers)]

/-- `case_manifest.py` `SealedDesignLabel`. -/
structure SealedDesignLabel where
  labelId : String
  kind : String
  protectedFactIds : List String
  purpose : String
  evaluatorVisibility : String := "sealed_only"

def SealedDesignLabel.toJson (l : SealedDesignLabel) : Json :=
  .dict
    [("label_id", .str l.labelId), ("kind", .str l.kind),
     ("protected_fact_ids", .strs l.protectedFactIds), ("purpose", .str l.purpose),
     ("evaluator_visibility", .str l.evaluatorVisibility)]

/-- `case_manifest.py` `CaseDesignBlueprint`. -/
structure CaseDesignBlueprint where
  designId : String
  seed : String
  ordinal : Int
  caseFamilyId : String
  sealedAxisLabels : List (String × String)
  designLabels : List SealedDesignLabel

namespace CaseDesignBlueprint

def toJson (b : CaseDesignBlueprint) : Json :=
  .dict
    [("design_id", .str b.designId), ("seed", .str b.seed), ("ordinal", .int b.ordinal),
     ("case_family_id", .str b.caseFamilyId), ("sealed_axis_labels", .pairs b.sealedAxisLabels),
     ("design_labels", .list (b.designLabels.map SealedDesignLabel.toJson))]

/-- `CaseDesignBlueprint.sealed_commitment_hash`. -/
def sealedCommitmentHash (b : CaseDesignBlueprint) : String := digest b.toJson

end CaseDesignBlueprint

/-- `case_manifest.py` `CapabilityRegistry`: what the compiler reads of it. -/
structure CapabilityRegistry where
  caseFamilies : List CaseFamilyManifest
  evidenceCapabilities : List EvidenceFamilyCapability
  specialistCapabilities : List SpecialistCapability
  populationAxes : List PopulationAxis

end LawFirmDigitalTwin
