import LawFirmDigitalTwin.PyValue

/-!
# The contracts of the operational mesh

`operational_mesh_contracts.py`: roles, work requests, the records an authority ledger vouches for,
and routing decisions. A `Literal` that no code enforces is kept as a string or a Boolean.
-/

namespace LawFirmDigitalTwin

/-- `OPERATIONAL_MESH_REVISION`. -/
def operationalMeshRevision : String := "operational-expert-mesh-g2-v1"

/-- The canonical form of a value that may be `None`. -/
def optionalText : Option String → Json
  | none => .null
  | some s => .str s

/-- `OperationalRole`. -/
structure OperationalRole where
  roleId : String
  domain : String
  capabilityIds : List String
  inputContractIds : List String
  outputContractIds : List String
  checkerRoleId : String
  separationGroup : String
  requiredAuthorityKinds : List String := []
  requiredPrerequisiteKinds : List String := []
  humanGateIds : List String := []
  requiresSourceAdmission : Bool := false
  requiresReuseRelease : Bool := false
  adapterKind : Option String := none
  active : Bool := true
  providerNeutral : Bool := true
  simulationOnly : Bool := true
  canonicalTruthWrite : Bool := false
  externalEffects : Bool := false
  deriving DecidableEq

def OperationalRole.toJson (r : OperationalRole) : Json :=
  .dict [
    ("role_id", .str r.roleId),
    ("domain", .str r.domain),
    ("capability_ids", .strs r.capabilityIds),
    ("input_contract_ids", .strs r.inputContractIds),
    ("output_contract_ids", .strs r.outputContractIds),
    ("checker_role_id", .str r.checkerRoleId),
    ("separation_group", .str r.separationGroup),
    ("required_authority_kinds", .strs r.requiredAuthorityKinds),
    ("required_prerequisite_kinds", .strs r.requiredPrerequisiteKinds),
    ("human_gate_ids", .strs r.humanGateIds),
    ("requires_source_admission", .bool r.requiresSourceAdmission),
    ("requires_reuse_release", .bool r.requiresReuseRelease),
    ("adapter_kind", optionalText r.adapterKind),
    ("active", .bool r.active),
    ("provider_neutral", .bool r.providerNeutral),
    ("simulation_only", .bool r.simulationOnly),
    ("canonical_truth_write", .bool r.canonicalTruthWrite),
    ("external_effects", .bool r.externalEffects)]

/-- `OperationalRole.role_hash`. -/
def OperationalRole.roleHash (r : OperationalRole) : String := digest r.toJson

/-- `OperationalWorkRequest`. -/
structure OperationalWorkRequest where
  requestId : String
  matterCommitment : String
  capabilityId : String
  requesterRoleId : String
  dataClass : String := "synthetic"
  effectClass : String := "simulation_planning_only"
  sourceAdmissionReceiptIds : List String := []
  reuseReleaseReceiptIds : List String := []
  authorityArtifactIds : List String := []
  prerequisiteReceiptIds : List String := []
  requestedAdapter : Option String := none
  syntheticOnly : Bool := true
  externalIo : Bool := false

def OperationalWorkRequest.toJson (r : OperationalWorkRequest) : Json :=
  .dict [
    ("request_id", .str r.requestId),
    ("matter_commitment", .str r.matterCommitment),
    ("capability_id", .str r.capabilityId),
    ("requester_role_id", .str r.requesterRoleId),
    ("data_class", .str r.dataClass),
    ("effect_class", .str r.effectClass),
    ("source_admission_receipt_ids", .strs r.sourceAdmissionReceiptIds),
    ("reuse_release_receipt_ids", .strs r.reuseReleaseReceiptIds),
    ("authority_artifact_ids", .strs r.authorityArtifactIds),
    ("prerequisite_receipt_ids", .strs r.prerequisiteReceiptIds),
    ("requested_adapter", optionalText r.requestedAdapter),
    ("synthetic_only", .bool r.syntheticOnly),
    ("external_io", .bool r.externalIo)]

/-- `OperationalWorkRequest.request_hash`. -/
def OperationalWorkRequest.requestHash (r : OperationalWorkRequest) : String := digest r.toJson

/-- `VerifiedOperationalRecord`. -/
structure VerifiedOperationalRecord where
  recordId : String
  recordKind : String
  issuerId : String
  issuerClass : String
  subjectMatterCommitment : String
  scopeCapabilityIds : List String
  validFromRevision : String
  validThroughRevision : String
  assetDigest : String
  sourceClass : String
  approved : Bool

def VerifiedOperationalRecord.toJson (r : VerifiedOperationalRecord) : Json :=
  .dict [
    ("record_id", .str r.recordId),
    ("record_kind", .str r.recordKind),
    ("issuer_id", .str r.issuerId),
    ("issuer_class", .str r.issuerClass),
    ("subject_matter_commitment", .str r.subjectMatterCommitment),
    ("scope_capability_ids", .strs r.scopeCapabilityIds),
    ("valid_from_revision", .str r.validFromRevision),
    ("valid_through_revision", .str r.validThroughRevision),
    ("asset_digest", .str r.assetDigest),
    ("source_class", .str r.sourceClass),
    ("approved", .bool r.approved)]

/-- `OperationalAuthorityLedger`. -/
structure OperationalAuthorityLedger where
  ledgerId : String
  issuerId : String
  knownMatterCommitments : List String
  knownRequesterRoleIds : List String
  records : List VerifiedOperationalRecord

def OperationalAuthorityLedger.toJson (l : OperationalAuthorityLedger) : Json :=
  .dict [
    ("ledger_id", .str l.ledgerId),
    ("issuer_id", .str l.issuerId),
    ("known_matter_commitments", .strs l.knownMatterCommitments),
    ("known_requester_role_ids", .strs l.knownRequesterRoleIds),
    ("records", .list (l.records.map VerifiedOperationalRecord.toJson))]

/-- `OperationalAuthorityLedger.ledger_hash`. -/
def OperationalAuthorityLedger.ledgerHash (l : OperationalAuthorityLedger) : String :=
  digest l.toJson

/-- `RouteStatus`. -/
inductive RouteStatus
  | routed
  | blocked
  | humanGateRequired
  deriving DecidableEq

/-- `OperationalRoutingDecision`. -/
structure OperationalRoutingDecision where
  requestId : String
  requestHash : String
  status : RouteStatus
  workerRoleId : Option String
  checkerRoleId : Option String
  reasonCodes : List String
  requiredHumanGates : List String
  registryCommitment : String
  authorityLedgerCommitment : String
  meshRevision : String := operationalMeshRevision
  proposalOnly : Bool := true
  externalEffects : Bool := false
  canonicalAdmission : Bool := false

end LawFirmDigitalTwin
