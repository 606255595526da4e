import LawFirmDigitalTwin.CaseManifest
import LawFirmDigitalTwin.Lib.Groups

/-!
# The capability registry and the populations

`build_capability_registry` of `case_manifest.py`, the registry that the compiler takes by default,
and `build_population_blueprints`, which spreads the buckets of every axis over the matters of a
population.
-/

namespace LawFirmDigitalTwin

/-! ## Case families -/

def prohibitedFamilyCapabilities : List String :=
  ["external_retrieval", "real_person_or_client_identity", "jurisdiction_compliance_claim",
   "g3_native_rendering", "oracle_access_by_operating_actor"]

def commonTracks : List String :=
  ["early_settlement", "mediation", "dispositive_motion", "trial_and_appeal",
   "arbitration_design_only"]

/-- What the manifests of `build_case_family_manifests` have in common. -/
def familyManifest (familyId label readiness : String) (factDomains requiredRoles
    requiredEvidenceCapabilities expertDomains : List String) : CaseFamilyManifest where
  familyId := familyId
  revision := "1"
  label := label
  readiness := readiness
  fidelityLevel := "G2"
  syntheticOnly := true
  factDomains := factDomains
  requiredRoles := requiredRoles
  requiredEvidenceCapabilities := requiredEvidenceCapabilities
  supportedResolutionTracks := commonTracks
  expertDomains := expertDomains
  prohibitedCapabilities := prohibitedFamilyCapabilities
  maxRoles := 24
  maxRelationshipEdges := 72
  maxArtifacts := 250
  maxVersionsPerArtifact := 5
  activationGate :=
    if readiness = "active_g2" then "existing_g2_compatibility"
    else "human_case_family_activation_and_domain_fixture_qualification"

/-- `case_manifest.py` `build_case_family_manifests`. -/
def buildCaseFamilyManifests : List CaseFamilyManifest :=
  [
    familyManifest "employment_defense_g2" "Labor and employment defense" "active_g2"
      ["employment_action", "policy", "attendance", "protected_activity", "damages"]
      ["intake", "conflicts", "lawyer", "paralegal", "docketing", "carrier", "billing", "witness",
       "expert"]
      ["employment_email", "employment_hr_record", "employment_policy", "employment_payroll",
       "employment_calendar", "employment_litigation", "employment_expert", "employment_noise"]
      ["organizational_practices", "workplace_investigation"],
    familyManifest "medical_malpractice_design"
      "Medical malpractice defense" "design_only"
      ["standard_of_care", "causation", "clinical_timeline", "damages", "consent"]
      ["lawyer", "paralegal", "carrier", "patient_witness", "provider_witness", "medical_expert",
       "billing"]
      ["medical_record", "imaging", "lab", "medical_billing", "provider_message", "medical_expert",
       "litigation", "noise"]
      ["clinical_specialty", "life_care", "medical_billing"],
    familyManifest "construction_defect_design"
      "Construction defect defense" "design_only"
      ["scope", "schedule", "defect", "causation", "allocation", "damages"]
      ["lawyer", "paralegal", "carrier", "owner", "contractor", "subcontractor",
       "design_professional", "construction_expert"]
      ["contract", "drawing", "rfi", "submittal", "change_order", "inspection", "schedule_log",
       "construction_expert", "noise"]
      ["architecture", "engineering", "cost", "schedule"],
    familyManifest "premises_liability_design"
      "Premises and slip-fall defense" "design_only"
      ["condition", "notice", "inspection", "causation", "comparative_fault", "damages"]
      ["lawyer", "paralegal", "carrier", "claimant_witness", "employee_witness",
       "maintenance_vendor", "premises_expert"]
      ["incident_report", "maintenance_log", "inspection_log", "weather", "photo_video",
       "medical_summary", "premises_expert", "noise"]
      ["safety", "human_factors", "weather"],
    familyManifest "motor_vehicle_design" "Motor-vehicle liability defense" "design_only"
      ["collision", "fault", "roadway", "vehicle_condition", "injury", "damages"]
      ["lawyer", "paralegal", "carrier", "driver", "passenger", "dispatcher",
       "reconstruction_expert"]
      ["crash_report", "dispatch", "telematics", "maintenance", "roadway", "photo_video",
       "medical_summary", "reconstruction_expert", "noise"]
      ["accident_reconstruction", "biomechanics", "vehicle_systems"],
    familyManifest "trucking_transportation_design"
      "Trucking and transportation defense" "design_only"
      ["collision", "driver_conduct", "dispatch", "hours_of_service", "vehicle_condition", "cargo",
       "agency", "injury", "damages"]
      ["lawyer", "paralegal", "carrier", "driver", "dispatcher", "fleet_manager", "safety_manager",
       "cargo_witness", "trucking_expert"]
      ["loss_notice", "crash_report", "driver_statement", "driver_qualification", "eld_telematics",
       "dispatch", "maintenance", "cargo", "photo_video", "medical_summary", "trucking_expert",
       "noise"]
      ["accident_reconstruction", "human_factors", "telematics", "vehicle_systems",
       "trucking_practices"],
    familyManifest "products_liability_design" "Products-liability defense" "design_only"
      ["product_identity", "design", "manufacture", "warnings", "distribution", "failure",
       "causation", "injury", "damages"]
      ["lawyer", "paralegal", "carrier", "product_engineer", "quality_manager",
       "manufacturer_witness", "distributor_witness", "products_expert"]
      ["product_identity", "label_instructions", "design_specification", "change_control",
       "manufacturing_batch", "quality_control", "incident_complaint", "field_action",
       "service_record", "exemplar_custody", "products_expert", "noise"]
      ["mechanical_electrical_materials", "human_factors_warnings", "manufacturing_quality",
       "failure_analysis", "regulatory_framework"],
    familyManifest "insurance_coverage_bad_faith_design"
      "Insurance coverage and extra-contractual defense" "design_only"
      ["policy_identity", "coverage_terms", "notice", "claim_handling", "investigation", "payment",
       "delay", "damages"]
      ["lawyer", "paralegal", "carrier", "adjuster", "claims_supervisor", "coverage_counsel",
       "insured_witness", "broker_witness", "coverage_expert"]
      ["declarations", "policy_endorsement", "claim_notice", "reservation_rights",
       "coverage_analysis", "claim_diary", "adjuster_correspondence", "proof_of_loss",
       "investigation_assignment", "payment_record", "coverage_litigation", "coverage_expert",
       "noise"]
      ["coverage_language", "claims_handling_practices", "insurance_accounting",
       "operations_timeline", "digital_records"],
    familyManifest "software_professional_liability_design"
      "Software and professional-liability defense" "design_only"
      ["contract_scope", "system_behavior", "integration", "change_control", "security", "damages"]
      ["lawyer", "paralegal", "carrier", "product_owner", "engineer", "customer",
       "software_expert"]
      ["contract", "architecture", "api", "ticket", "deployment", "access_log", "audit_log",
       "software_expert", "noise"]
      ["software_architecture", "systems_integration", "security"]]

/-! ## Evidence capabilities -/

/-- What the capabilities of `build_evidence_capabilities` have in common. -/
def evidenceCapability (familyId channelKind : String)
    (requiredFields allowedAuthorRoles : List String)
    (requiresSender requiresRecipients requiresContractLineage : Bool) :
    EvidenceFamilyCapability where
  capabilityId := "evidence." ++ familyId ++ ".v1"
  revision := "1"
  familyId := familyId
  channelKind := channelKind
  schemaId := "schema." ++ familyId ++ ".v1"
  requiredFields := requiredFields
  allowedNativeFormats := ["text/plain", "application/json", "text/csv"]
  allowedAuthorRoles := allowedAuthorRoles
  recipientPolicyId := "case_scoped_relationship_grant.v1"
  custodyPolicyId := "custody.synthetic_hash_stable.v1"
  versioningPolicyId :=
    if requiresContractLineage then "version.parent_required.v1"
    else "version.optional_supersession.v1"
  validatorIds :=
    ["validate_fact_allowlist", "validate_knowledge_frontier",
     "validate_timeline_and_version_graph", "validate_custody_and_hashes",
     "validate_nonplaceholder"]
  maxPerMatter := if familyId = "employment_email" then 80 else 30
  requiresSender := requiresSender
  requiresRecipients := requiresRecipients
  requiresContractLineage := requiresContractLineage
  fidelityLevel := "G2"
  prohibitedShortcuts :=
    ["oracle_paraphrase", "random_typo_only_variation", "placeholder_body",
     "same_voice_for_all_authors", "untracked_copy_from_public_or_private_source"]
  protectedFixtureId := "fixture." ++ familyId ++ ".g2.v1"
  escalationCapabilityId := "specialist.domain_plausibility_checker.v1"
  readiness := "active_g2"

/-- `case_manifest.py` `build_evidence_capabilities`. -/
def buildEvidenceCapabilities : List EvidenceFamilyCapability :=
  [
    evidenceCapability "employment_email" "email"
      ["author_id", "recipient_ids", "subject", "body", "sent_at"]
      ["manager", "witness"]
      true true false,
    evidenceCapability "employment_hr_record" "hris_record"
      ["employee_id", "record_type", "effective_at", "content"]
      ["manager", "witness"]
      true false false,
    evidenceCapability "employment_policy" "policy_document"
      ["policy_id", "version_id", "effective_at", "content"]
      ["manager", "witness"]
      true false true,
    evidenceCapability "employment_payroll" "structured_table"
      ["employee_id", "period", "amount_or_hours", "source_system"]
      ["billing"]
      false false false,
    evidenceCapability "employment_calendar" "calendar"
      ["organizer_id", "invitees", "starts_at", "attendance_status"]
      ["manager", "witness"]
      true true false,
    evidenceCapability "employment_litigation" "litigation_record"
      ["document_type", "author_id", "created_at", "fact_claim_ids"]
      ["intake"]
      true true false,
    evidenceCapability "employment_expert" "expert_record"
      ["expert_id", "materials_considered", "method", "limitations", "opinion"]
      ["expert"]
      true true false,
    evidenceCapability "employment_noise" "irrelevant_record"
      ["author_id", "created_at", "content", "nonresponsive_basis"]
      ["manager", "witness"]
      true false false]

/-! ## Specialists -/

def specialistProhibitedInputs : List String :=
  ["oracle_truth", "hidden_design_labels", "cross_case_artifacts", "private_source_rows",
   "unadmitted_legal_rules", "credentials_or_secrets"]

def specialistErrors : List String :=
  ["stale_snapshot", "prohibited_input", "unsupported_domain", "schema_invalid",
   "deterministic_gate_failure", "qualification_missing", "authority_boundary"]

def specialistStopConditions : List String :=
  ["truth_boundary", "privacy_boundary", "source_not_admitted", "qualification_expired",
   "repeated_failure", "validation_inconclusive"]

def specialistExpiryTriggers : List String :=
  ["core_contract_change", "runtime_adapter_change", "schema_change",
   "persona_or_organization_pack_change", "validator_change", "privacy_or_authority_change"]

/-- The keyword arguments of `capability` and their defaults. -/
structure CapabilityOptions where
  effectScope : String := "proposal_only"
  dependencies : List String := []

/-- What the capabilities of `build_specialist_capabilities` have in common. -/
def specialistCapability (capabilityId kind classification objective : String)
    (inputs outputs validators : List String) (options : CapabilityOptions) :
    SpecialistCapability where
  capabilityId := capabilityId
  revision := "1"
  kind := kind
  classification := classification
  objective := objective
  typedInputs :=
    ["case_snapshot_hash", "knowledge_frontier_id", "authority_frontier_id", "seed_stream_id"] ++
      inputs
  prohibitedInputs := specialistProhibitedInputs
  outputs := outputs
  errors := specialistErrors
  allowedTools := ["repository_read", "typed_manifest_io", "deterministic_validator"]
  privacyClass := "synthetic_only"
  effectScope := options.effectScope
  canonicalTruthWrite := false
  dependencies := options.dependencies
  validatorIds := validators
  stopConditions := specialistStopConditions
  qualificationFixtureId := "fixture." ++ capabilityId ++ ".v1"
  qualificationExpiryTriggers := specialistExpiryTriggers

/-- `case_manifest.py` `build_specialist_capabilities`. -/
def buildSpecialistCapabilities : List SpecialistCapability :=
  [
    specialistCapability "specialist.world_causality_architect.v1" "planner" "portable_core"
      "Propose a sealed causal world for kernel admission."
      ["case_family_manifest_hash", "population_blueprint_commitment"]
      ["staged_world_proposal", "lineage_receipt"]
      ["validate_world_schema", "validate_no_oracle_projection"] {},
    specialistCapability "specialist.case_type_evidence_architect.v1" "planner" "portable_core"
      "Declare why each evidence artifact exists and what projection may generate it."
      ["case_family_manifest_hash", "evidence_capability_ids"]
      ["evidence_plan", "discoverability_plan"]
      ["validate_capability_coverage", "validate_complexity_budget"] {},
    specialistCapability "specialist.persona_relationship_architect.v1" "planner" "portable_core"
      "Build time-varying persona and relationship proposals without stereotypes."
      ["persona_dimension_contract_ids", "organization_state_id"]
      ["persona_state_proposals", "relationship_graph"]
      ["validate_persona_dimensions", "validate_stereotype_boundary"] {},
    specialistCapability "specialist.organization_culture_modeler.v1" "planner" "portable_core"
      "Model formal policies, practiced norms, systems, incentives, silos, and subcultures."
      ["organization_profile_id"]
      ["organization_state", "culture_constraints"]
      ["validate_organization_state"] {},
    specialistCapability "specialist.employment_intake_record_writer.v1" "generator" "portable_core"
      ("Stage synthetic employment-defense intake and litigation records from a " ++
        "bounded artifact projection.")
      ["artifact_contract_id", "renderer_persona_view_commitment", "allowed_assertion_ids"]
      ["staged_litigation_record_proposal", "assertion_set"]
      ["validate_fact_allowlist", "validate_family_schema", "validate_nonplaceholder"] {},
    specialistCapability "specialist.employment_business_record_writer.v1" "generator"
      "portable_core"
      ("Stage synthetic employment emails, HRIS records, payroll summaries, calendars, " ++
        "and nonresponsive business records from bounded projections.")
      ["artifact_contract_id", "renderer_persona_view_commitment", "allowed_assertion_ids"]
      ["staged_business_record_proposal", "assertion_set"]
      ["validate_fact_allowlist", "validate_family_schema", "validate_native_metadata",
       "validate_nonplaceholder"] {},
    specialistCapability "specialist.channel_native_planner.v1" "planner" "portable_core"
      "Plan channel structure and G2 native metadata."
      ["channel_contract_id", "persona_state_ids"]
      ["channel_plan", "native_metadata_plan"]
      ["validate_channel_permissions", "validate_native_metadata"] {},
    specialistCapability "specialist.contract_policy_specialist.v1" "generator" "portable_core"
      "Stage synthetic agreements, amendments, policies, and version lineage."
      ["artifact_contract_id", "allowed_fact_ids"]
      ["staged_contract_record", "assertion_set", "lineage_receipt"]
      ["validate_contract_lineage", "validate_fact_allowlist"] {},
    specialistCapability "specialist.expert_witness_builder.v1" "generator" "portable_core"
      "Stage source-bounded expert methods, materials, limitations, and opinions."
      ["expert_domain_id", "authorized_artifact_ids"]
      ["staged_expert_record", "source_boundary_receipt"]
      ["validate_expert_source_boundary", "validate_expert_independence"] {},
    specialistCapability "specialist.billing_lifecycle_architect.v1" "planner" "portable_core"
      "Plan time, invoice, reduction, appeal, payment, and write-off events."
      ["guideline_contract_id", "work_event_ids"]
      ["billing_event_plan", "finance_invariant_plan"]
      ["validate_finance_invariants"] {},
    specialistCapability "specialist.noise_imperfection_planner.v1" "planner" "portable_core"
      "Plan causal irrelevant, duplicate, missing, stale, corrected, or corrupted material."
      ["evidence_shape_label_commitment", "evidence_plan_id"]
      ["noise_plan", "imperfection_lineage"]
      ["validate_noise_nonleakage", "validate_noise_ratio"] {},
    specialistCapability "specialist.declared_conflict_controller.v1" "planner" "portable_core"
      "Seed evaluation-only conflicts without exposing their labels to writers."
      ["protected_fact_ids", "conflict_kind"]
      ["sealed_conflict_commitment", "projection_allowlists"]
      ["validate_design_label_nonleakage"] {},
    specialistCapability "adapter.artifact_renderer.v1" "renderer" "runtime_adapter"
      "Render one staged artifact from a bounded projection without changing facts."
      ["artifact_contract_id", "persona_state_ids", "channel_contract_id"]
      ["staged_artifact", "assertion_set", "native_metadata", "lineage_receipt"]
      ["validate_fact_allowlist", "validate_nonplaceholder", "validate_native_metadata"]
      { dependencies := ["specialist.case_type_evidence_architect.v1"] },
    specialistCapability "specialist.continuity_custody_checker.v1" "checker" "portable_core"
      "Check chronology, versions, lineage, references, hashes, and custody."
      ["staged_artifact_ids"]
      ["continuity_findings", "custody_findings"]
      ["validate_timeline_and_version_graph", "validate_custody_and_hashes"]
      { effectScope := "evaluation_only" },
    specialistCapability "specialist.domain_plausibility_checker.v1" "checker" "portable_core"
      "Check bounded domain plausibility without issuing legal or medical conclusions."
      ["domain_pack_id", "staged_artifact_ids"]
      ["plausibility_findings", "abstentions"]
      ["validate_domain_scope"]
      { effectScope := "evaluation_only" },
    specialistCapability "specialist.voice_representation_checker.v1" "checker" "portable_core"
      "Detect voice collapse, template concentration, caricature, and stereotype risk."
      ["persona_state_ids", "staged_artifact_ids"]
      ["voice_findings", "representation_findings"]
      ["validate_voice_corpus", "validate_stereotype_boundary"]
      { effectScope := "evaluation_only" },
    specialistCapability "specialist.document_fidelity_checker.v1" "checker" "portable_core"
      "Check schema, metadata, substantive density, and non-placeholder fidelity at G2."
      ["evidence_capability_id", "staged_artifact_ids"]
      ["fidelity_findings"]
      ["validate_nonplaceholder", "validate_family_schema"]
      { effectScope := "evaluation_only" },
    specialistCapability "specialist.whole_case_auditor.v1" "auditor" "portable_core"
      "Run Berean-style whole-case conflict, boundary, and continuity audit."
      ["operating_projection_hash", "evaluation_projection_hash"]
      ["whole_case_audit"]
      ["validate_projection_separation", "validate_cross_artifact_consistency"]
      { effectScope := "evaluation_only" },
    specialistCapability "specialist.population_designer.v1" "planner" "portable_core"
      "Allocate bounded varied case-design labels deterministically."
      ["population_axis_commitments", "matter_count"]
      ["sealed_population_blueprints", "distribution_receipt"]
      ["validate_population_bounds", "validate_cross_matter_isolation"] {},
    specialistCapability "probe.runtime_qualification.v1" "checker" "provider_probe"
      "Qualify a runtime adapter against revision-bound protected fixtures."
      ["core_revision", "adapter_revision", "fixture_ids"]
      ["qualification_receipt", "failure_receipts"]
      ["validate_qualification_receipt"]
      { effectScope := "evaluation_only" }]

/-! ## The registry -/

/-- `case_manifest.py` `build_population_axes`. -/
def buildPopulationAxes : List PopulationAxis :=
  [
    ⟨"merits_posture",
      [⟨"defense_favorable", 30⟩, ⟨"claimant_favorable", 30⟩, ⟨"balanced", 30⟩,
       ⟨"deeply_ambiguous", 10⟩]⟩,
    ⟨"evidence_shape",
      [⟨"directional_defense", 15⟩, ⟨"directional_claimant", 15⟩, ⟨"mixed_conflicting", 40⟩,
       ⟨"noisy_redundant", 20⟩, ⟨"sparse_or_corrupted", 10⟩]⟩,
    ⟨"procedural_quality",
      [⟨"merits_progressing", 82⟩, ⟨"curable_defect", 6⟩, ⟨"dismissal_without_prejudice", 4⟩,
       ⟨"dismissal_with_prejudice", 3⟩, ⟨"technical_dispute", 5⟩]⟩,
    ⟨"representation_quality",
      [⟨"well_handled", 55⟩, ⟨"uneven", 25⟩, ⟨"material_error", 15⟩, ⟨"systemic_failure", 5⟩]⟩,
    ⟨"resolution_track",
      [⟨"settlement", 28⟩, ⟨"mediation", 20⟩, ⟨"dispositive_motion", 18⟩, ⟨"trial", 17⟩,
       ⟨"trial_and_appeal", 7⟩, ⟨"arbitration", 10⟩]⟩]

/-- `case_manifest.py` `build_capability_registry`. -/
def buildCapabilityRegistry : CapabilityRegistry where
  caseFamilies := buildCaseFamilyManifests
  evidenceCapabilities := buildEvidenceCapabilities
  specialistCapabilities := buildSpecialistCapabilities
  populationAxes := buildPopulationAxes

/-! ## Populations -/

/-- `f"{ordinal:06d}"`. -/
def sixDigits (ordinal : Nat) : String :=
  let digits := (toString ordinal).toList
  String.ofList (List.replicate (6 - digits.length) '0' ++ digits)

/-- The sealed labels of a design, by the buckets that were drawn for it. -/
def designLabelsOf (ordinal : Nat) (selected : PyDict String) :
    Except PyError (List SealedDesignLabel) := do
  let label (suffix kind : String) (factIds : List String) (purpose : String) :
      SealedDesignLabel :=
    { labelId := "LBL-" ++ sixDigits ordinal ++ suffix, kind := kind
      protectedFactIds := factIds, purpose := purpose }
  let merits ← selected.getItem "merits_posture"
  let shape ← selected.getItem "evidence_shape"
  let procedural ← selected.getItem "procedural_quality"
  return [label "-MERITS" "evidence_direction" ["case_merits_posture"]
      ("Authorial target for " ++ merits ++ " evidence balance.")] ++
    (if shape = "mixed_conflicting" then
      [label "-CONFLICT" "designed_conflict" ["material_conflict"]
        "Require independently detectable incompatible evidence."] else []) ++
    (if shape = "sparse_or_corrupted" then
      [label "-OMISSION" "intentional_omission" ["missing_evidence"]
        "Require bounded missing or corrupted evidence with lineage."] else []) ++
    (if procedural = "merits_progressing" then [] else
      [label "-PROCEDURE" "procedural_defect" ["procedural_posture"]
        "Exercise an uncommon procedural issue without dominating the corpus."])

/-- `(axis_id, assignments[axis_id][ordinal])`. -/
def axisLabel (ordinal : Nat) (assignment : String × List String) :
    Except PyError (String × String) :=
  match assignment.2[ordinal]? with
  | some bucketId => .ok (assignment.1, bucketId)
  | none => .error .indexError

/-- A blueprint of the population, from the buckets assigned on each axis. -/
def populationBlueprint (seed caseFamilyId : String) (assignments : List (String × List String))
    (ordinal : Nat) : Except PyError CaseDesignBlueprint := do
  let axisLabels ← assignments.mapM (axisLabel ordinal)
  let labels ← designLabelsOf ordinal (.ofEntries axisLabels)
  return {
    designId := "DESIGN-" ++ firstChars 16 (digest (.dict
      [("seed", .str seed), ("ordinal", .int ordinal)]))
    seed := seed
    ordinal := ordinal
    caseFamilyId := caseFamilyId
    sealedAxisLabels := axisLabels
    designLabels := labels }

/-- `case_manifest.py` `build_population_blueprints`. -/
def buildPopulationBlueprints (seed : String) (count : Int)
    (caseFamilyId : String := "employment_defense_g2") :
    Except PyError (List CaseDesignBlueprint) :=
  let families : PyDict CaseFamilyManifest :=
    .ofEntries (buildCaseFamilyManifests.map fun item => (item.familyId, item))
  match families.get? caseFamilyId with
  | none => throw (.valueError ("unknown case family: " ++ caseFamilyId))
  | some family => do
    if family.readiness ≠ "active_g2" then
      throw (.valueError
        ("case family is design-only and cannot generate blueprints: " ++ caseFamilyId))
    let assignments ← buildPopulationAxes.mapM fun axis => do
      let labels ← allocateAxis axis seed count
      return (axis.axisId, labels)
    (List.range count.toNat).mapM (populationBlueprint seed caseFamilyId assignments)

end LawFirmDigitalTwin
