import LawFirmDigitalTwin.Lib.Raising
import LawFirmDigitalTwin.Mesh.Contracts

/-!
# The registry of operational roles

`operational_mesh_registry.py`: the roles of the mesh, and the validation that the builder runs on
them.
-/

namespace LawFirmDigitalTwin

open Raising

/-- `COMMON_INPUTS`. -/
def commonInputs : List String := ["operational_work_request", "matter_commitment"]

/-- `PROPOSAL_OUTPUT`. -/
def proposalOutput : List String := ["operational_handoff_proposal", "immutable_routing_receipt"]

/-- `_role`; its keyword arguments are set on top. -/
def role (roleId domain : String) (capabilities : List String) (checker separationGroup : String) :
    OperationalRole where
  roleId
  domain
  capabilityIds := capabilities
  inputContractIds := commonInputs
  outputContractIds := proposalOutput
  checkerRoleId := checker
  separationGroup

/-- The `roles` of `build_operational_role_registry`. -/
def operationalRoles : List OperationalRole :=
  [
    role "ops-practice-router" "control" ["ops.route.audit"] "ops-quality-checker" "routing",
    role "ops-intake-triage" "intake-risk" ["ops.intake.triage"] "ops-quality-checker" "intake",
    role "ops-conflicts-screen" "intake-risk" ["ops.conflicts.screen"]
      "conflicts-independent-checker" "conflicts",
    role "conflicts-independent-checker" "control" ["ops.conflicts.audit"]
      "ops-quality-checker" "conflicts-review",
    { role "ops-matter-opening-control" "intake-risk" ["ops.matter.opening.packet"]
      "ops-quality-checker" "matter-opening" with
      requiredAuthorityKinds :=
        ["responsible_lawyer_approval", "conflicts_clearance", "carrier_authority"],
      humanGateIds :=
        ["human.responsible_lawyer", "human.conflicts_authority", "human.carrier_authority"] },
    { role "ops-docket-calculator" "matter-operations" ["ops.docket.calculate"]
      "ops-deadline-independent-reviewer" "docketing" with
      requiresSourceAdmission := true },
    { role "ops-deadline-independent-reviewer" "control" ["ops.deadline.independent_review"]
      "ops-quality-checker" "deadline-review" with
      requiresSourceAdmission := true },
    role "ops-legal-assistant-coordinator" "matter-operations" ["ops.legal_assistant.coordinate"]
      "ops-quality-checker" "assistant",
    role "ops-litigation-paralegal" "matter-operations" ["ops.paralegal.support"]
      "information-governance-checker" "paralegal",
    { role "ops-deposition-coordinator" "matter-operations" ["ops.deposition.coordinate"]
      "ops-quality-checker" "deposition" with
      requiredAuthorityKinds := ["responsible_lawyer_approval", "activated_kernel_branch"],
      humanGateIds := ["human.responsible_lawyer"] },
    { role "ops-witness-logistics" "matter-operations" ["ops.witness.logistics"]
      "ops-quality-checker" "witness-logistics" with
      requiredAuthorityKinds := ["responsible_lawyer_approval"] },
    { role "ops-expert-vendor-coordinator" "matter-operations" ["ops.expert_vendor.coordinate"]
      "finance-control-reviewer" "expert-vendor" with
      requiredAuthorityKinds := ["responsible_lawyer_approval", "carrier_budget_authority"],
      humanGateIds := ["human.responsible_lawyer", "human.carrier_budget"] },
    { role "ops-filing-assembler" "matter-operations" ["ops.filing.assemble"]
      "ops-quality-checker" "filing-assembly" with
      requiredAuthorityKinds := ["responsible_lawyer_approval"],
      requiredPrerequisiteKinds := ["reconciled_deadline_receipt"],
      humanGateIds := ["human.responsible_lawyer"],
      outputContractIds := ["simulated_filing_intent_only", "immutable_routing_receipt"] },
    role "ops-quality-checker" "control" ["ops.quality.audit"]
      "legal-authority-boundary-checker" "operations-quality",
    role "legal-authority-boundary-checker" "control" ["ops.authority.audit"]
      "ops-practice-router" "legal-authority",
    { role "carrier-guideline-steward-public" "finance-carrier"
      ["finance.carrier_guideline.compile_public"] "finance-control-reviewer" "guideline" with
      requiresSourceAdmission := true },
    { role "carrier-guideline-steward-reuse" "finance-carrier"
      ["finance.carrier_guideline.compile_reused"] "finance-control-reviewer" "guideline-reuse" with
      requiresSourceAdmission := true,
      requiresReuseRelease := true },
    role "timekeeping-wip-analyst" "finance-carrier" ["finance.time_wip.propose"]
      "prebill-reviewer" "time-wip",
    { role "prebill-reviewer" "finance-carrier" ["finance.prebill.review"]
      "finance-control-reviewer" "prebill" with
      requiredPrerequisiteKinds := ["time_entry_proposal", "guideline_profile"] },
    { role "legal-invoice-compiler" "finance-carrier" ["finance.invoice.compile"]
      "finance-reconciler" "invoice" with
      requiredPrerequisiteKinds := ["approved_prebill_receipt", "ledes_utbms_mapping_receipt"] },
    { role "carrier-audit-interpreter" "finance-carrier" ["finance.carrier_audit.interpret"]
      "finance-control-reviewer" "carrier-audit" with
      requiredPrerequisiteKinds := ["synthetic_invoice_receipt", "guideline_profile"] },
    { role "billing-appeal-preparer" "finance-carrier" ["finance.appeal.prepare"]
      "finance-control-reviewer" "appeal" with
      requiredPrerequisiteKinds := ["reduction_assessment"] },
    role "revenue-ar-analyst" "finance-carrier" ["finance.revenue_ar.project"]
      "finance-reconciler" "revenue-ar",
    { role "cash-application-analyst" "finance-carrier" ["finance.cash_application.propose"]
      "finance-reconciler" "cash-application" with
      requiredPrerequisiteKinds := ["synthetic_remittance_advice", "ar_snapshot"] },
    { role "collections-coordinator" "finance-carrier" ["finance.collections.coordinate"]
      "finance-control-reviewer" "collections" with
      requiredPrerequisiteKinds := ["ar_aging_snapshot"] },
    { role "finance-reconciler" "finance-control" ["finance.reconcile"]
      "finance-control-reviewer" "finance-reconciliation" with
      requiredPrerequisiteKinds := ["immutable_journal_snapshot"] },
    role "finance-control-reviewer" "finance-control" ["finance.control.audit"]
      "legal-authority-boundary-checker" "finance-control",
    { role "trust-boundary-controller" "finance-control" ["finance.trust.classify"]
      "finance-control-reviewer" "trust-boundary" with
      active := false },
    role "dms-records-steward" "information-evidence" ["information.dms.lifecycle"]
      "information-governance-checker" "dms",
    { role "imanage-runtime-adapter" "technology-adapter" ["information.imanage.translate"]
      "adapter-contract-checker" "dms-adapter" with
      requiredPrerequisiteKinds := ["adapter_qualification_receipt", "cassette_replay_receipt"],
      adapterKind := some "imanage" },
    { role "km-curator" "information-evidence" ["information.km.curate"]
      "km-provenance-checker" "knowledge-management" with
      requiresSourceAdmission := true },
    { role "legal-hold-coordinator" "ediscovery" ["information.legal_hold.coordinate"]
      "information-governance-checker" "legal-hold" with
      requiredAuthorityKinds := ["responsible_lawyer_approval"],
      humanGateIds := ["human.responsible_lawyer"] },
    { role "esi-collection-custody-coordinator" "ediscovery" ["information.esi.collect"]
      "custody-provenance-checker" "esi-collection" with
      requiredAuthorityKinds := ["approved_collection_scope"] },
    { role "esi-processing-specialist" "ediscovery" ["information.esi.process"]
      "custody-provenance-checker" "esi-processing" with
      requiredPrerequisiteKinds := ["collection_custody_receipt"] },
    role "review-privilege-triage-specialist" "ediscovery" ["information.review_privilege.triage"]
      "privilege-boundary-checker" "review-triage",
    { role "production-litigation-support-coordinator" "ediscovery"
      ["information.production.prepare"] "production-lineage-checker" "production" with
      requiredAuthorityKinds := ["responsible_lawyer_approval"],
      humanGateIds := ["human.responsible_lawyer"],
      requiredPrerequisiteKinds := ["production_scope_receipt"] },
    { role "retention-disposition-steward" "information-evidence" ["information.retention.propose"]
      "information-governance-checker" "retention" with
      requiredAuthorityKinds := ["records_authority_approval"],
      requiredPrerequisiteKinds := ["hold_clearance_receipt"],
      humanGateIds := ["human.records_authority"] },
    role "legal-tech-integration-operator" "technology-adapter" ["technology.integration.plan"]
      "adapter-contract-checker" "legal-tech",
    role "information-governance-checker" "information-control" ["information.governance.audit"]
      "legal-authority-boundary-checker" "information-governance",
    role "custody-provenance-checker" "information-control" ["information.custody.audit"]
      "information-governance-checker" "custody-check",
    role "privilege-boundary-checker" "information-control" ["information.privilege_boundary.audit"]
      "legal-authority-boundary-checker" "privilege-check",
    role "production-lineage-checker" "information-control" ["information.production.audit"]
      "information-governance-checker" "production-check",
    role "adapter-contract-checker" "technology-control" ["technology.adapter.audit"]
      "information-governance-checker" "adapter-check",
    role "km-provenance-checker" "information-control" ["information.km_provenance.audit"]
      "information-governance-checker" "km-check"]

/-- The loop body of `_validate_registry`. -/
def checkSeparation (roleIds : List String) (byId : PyDict OperationalRole)
    (role : OperationalRole) : Except PyError Unit := do
  if role.checkerRoleId ∉ roleIds then
    throw (.valueError ("unknown_operational_checker:" ++ role.roleId))
  if role.checkerRoleId = role.roleId then
    throw (.valueError ("operational_self_check:" ++ role.roleId))
  let checker ← byId.getItem role.checkerRoleId
  if checker.separationGroup = role.separationGroup then
    throw (.valueError ("operational_checker_separation_collision:" ++ role.roleId))

/-- `_validate_registry`. -/
def validateRegistry (roles : List OperationalRole) : Except PyError Unit := do
  let roleIds := roles.map (·.roleId)
  if ¬ roleIds.Nodup then throw (.valueError "duplicate_operational_role_id")
  if ¬ (roles.flatMap (·.capabilityIds)).Nodup then
    throw (.valueError "duplicate_operational_capability_id")
  let byId := PyDict.ofEntries (roles.map fun role => (role.roleId, role))
  roles.forM (checkSeparation roleIds byId)

/-- `build_operational_role_registry`. -/
def buildOperationalRoleRegistry : Except PyError (List OperationalRole) := do
  validateRegistry operationalRoles
  return operationalRoles

/-- `operational_registry_commitment`. -/
def operationalRegistryCommitment (roles : List OperationalRole) : String :=
  digest (.strs (roles.map OperationalRole.roleHash))

/-- What a registry passes is a checker for every role, in another separation group. -/
theorem checker_of_validateRegistry {roles : List OperationalRole}
    (h : validateRegistry roles = .ok ()) {worker : OperationalRole} (hworker : worker ∈ roles) :
    ∃ checker ∈ roles, checker.roleId = worker.checkerRoleId ∧ checker.roleId ≠ worker.roleId ∧
      checker.separationGroup ≠ worker.separationGroup := by
  unfold validateRegistry at h
  simp only [except_throw_if_eq_ok] at h
  have hchecked := except_forM_eq_ok.1 h.2.2 worker hworker
  unfold checkSeparation at hchecked
  simp only [except_throw_if_eq_ok, except_bind_eq_ok, except_throw_last_eq_ok] at hchecked
  obtain ⟨-, hself, checker, hchecker, hgroup⟩ := hchecked
  obtain ⟨hmem, hid⟩ := PyDict.mem_of_get?_keyed (PyDict.getItem_eq_ok.1 hchecker)
  exact ⟨checker, hmem, hid, fun hsame => hself (hid.symm.trans hsame), hgroup⟩

end LawFirmDigitalTwin
