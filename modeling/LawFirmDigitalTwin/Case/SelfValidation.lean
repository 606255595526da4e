import LawFirmDigitalTwin.Case.Hashable
import LawFirmDigitalTwin.Case.Passing

/-!
# The compiler's own validation

`compile_case_design` validates what it has assembled before it returns it. Nearly all of what the
validator checks is what the constructors of the pipeline have made sure of: what it can still
report is that two parts have one identity, which are truncated digests, that the registry has two
capabilities of one identity or too few uses of one, and that a word of the sealed design stands in
the operating projection. A receipt is issued for what has no findings (`qualification_receipt_iff`).
-/

namespace LawFirmDigitalTwin

open Raising

/-! ## What a draft is made of -/

/-- What a pass of the compiler has returned. -/
def CaseScope.Passed (scope : CaseScope) (a : CompiledArtifact) : Prop :=
  ∃ spec i writerId assigned, scope.Compilable spec i ∧
    writerByFamily i.evidence.familyId = some writerId ∧
      assignments scope.registry.specialists (scope.madePlan spec i).planHash writerId =
        .ok assigned ∧ a = scope.madeArtifact spec i assigned

/-- The parts of an artifact name each other. -/
structure CompiledArtifact.Bound (a : CompiledArtifact) : Prop where
  state : a.plan.personaStateId = a.personaState.stateId
  projection : a.projection.planId = a.plan.planId
  view : a.projection.personaView = a.view
  staged : a.stagedArtifact.planId = a.plan.planId
  shape : a.shapeReceipt.planHash = a.plan.planHash
  manifest : a.manifest.planId = a.plan.planId
  receipt : a.meshReceipt.manifestId = a.manifest.manifestId

/-- The parts that a pass of the compiler returns name each other. -/
theorem CaseScope.Passed.bound {scope : CaseScope} {a : CompiledArtifact} (h : scope.Passed a) :
    a.Bound := by
  obtain ⟨spec, i, writerId, assigned, -, -, -, rfl⟩ := h
  exact ⟨rfl, rfl, rfl, rfl, rfl, rfl, rfl⟩

/-- A compilation of the artifacts of a scope. -/
structure CaseCompilation.Assembled (c : CaseCompilation) (scope : CaseScope)
    (artifacts : List CompiledArtifact) : Prop where
  states : c.personaStates = artifacts.map (·.personaState)
  views : c.rendererViews = artifacts.map (·.view)
  plans : c.artifactPlans = artifacts.map (·.plan)
  projections : c.rendererProjections = artifacts.map (·.projection)
  staged : c.stagedArtifacts = artifacts.map (·.stagedArtifact)
  shapes : c.localShapeReceipts = artifacts.map (·.shapeReceipt)
  manifests : c.artifactProductionManifests = artifacts.map (·.manifest)
  receipts : c.artifactMeshReceipts = artifacts.map (·.meshReceipt)
  worldNamespace : c.sealed.worldNamespace = scope.worldNamespace
  matterNamespace : c.sealed.matterNamespace = scope.matterNamespace
  facts : c.sealed.facts = scope.facts
  passed : ∀ a ∈ artifacts, scope.Passed a

/-- No two parts of a compilation have one identity. -/
structure CaseCompilation.Distinct (c : CaseCompilation) : Prop where
  planIds : (c.artifactPlans.map (·.planId)).Nodup
  planHashes : (c.artifactPlans.map (·.planHash)).Nodup
  versionIds : (c.artifactPlans.map (·.lineage.versionId)).Nodup
  stateIds : (c.personaStates.map (·.stateId)).Nodup
  viewIds : (c.rendererViews.map (·.viewId)).Nodup
  stagedIds : (c.stagedArtifacts.map (·.stagedArtifactId)).Nodup
  receiptIds : (c.localShapeReceipts.map (·.receiptId)).Nodup
  manifestIds : (c.artifactProductionManifests.map (·.manifestId)).Nodup

namespace CaseCompilation

variable {c : CaseCompilation} {scope : CaseScope} {artifacts : List CompiledArtifact}
  {a : CompiledArtifact}

section
variable (h : c.Assembled scope artifacts) (hd : c.Distinct) (ha : a ∈ artifacts)
include h

/-- Under distinct plans, whatever names its plan is found by it. -/
theorem Assembled.nodup_plan {β : Type} {part : CompiledArtifact → β} {key : β → String}
    (hd : c.Distinct) (hkey : ∀ a : CompiledArtifact, a.Bound → key (part a) = a.plan.planId) :
    ((artifacts.map part).map key).Nodup := by
  have hids := hd.planIds
  rw [h.plans, List.map_map] at hids
  rw [List.map_map]
  have heq : artifacts.map (key ∘ part) = artifacts.map ((·.planId) ∘ (·.plan)) :=
    List.map_congr_left fun a ha => hkey a (h.passed a ha).bound
  rwa [heq]

include hd ha

/-- The state of an artifact is found under the id that its plan names. -/
theorem Assembled.state_found : (stateById c.personaStates).get? a.plan.personaStateId =
    some a.personaState := by
  rw [(h.passed a ha).bound.state]
  exact PyDict.get?_keyed_of_mem hd.stateIds (h.states ▸ List.mem_map_of_mem ha)

/-- The projection of an artifact is found under its plan. -/
theorem Assembled.projection_found : (projectionByPlan c.rendererProjections).get? a.plan.planId =
    some a.projection := by
  rw [← (h.passed a ha).bound.projection, projectionByPlan, h.projections]
  exact PyDict.get?_keyed_of_mem (h.nodup_plan hd fun _ hb => hb.projection)
    (List.mem_map_of_mem ha)

/-- The view of an artifact is found under its id. -/
theorem Assembled.view_found : c.viewById.get? a.view.viewId = some a.view :=
  PyDict.get?_keyed_of_mem hd.viewIds (h.views ▸ List.mem_map_of_mem ha)

/-- The staged artifact is found under its plan. -/
theorem Assembled.staged_found : (stagedByPlan c.stagedArtifacts).get? a.plan.planId =
    some a.stagedArtifact := by
  rw [← (h.passed a ha).bound.staged, stagedByPlan, h.staged]
  exact PyDict.get?_keyed_of_mem (h.nodup_plan hd fun _ hb => hb.staged) (List.mem_map_of_mem ha)

/-- The shape receipt is found under the hash of the plan. -/
theorem Assembled.shape_found : (shapeByPlanHash c.localShapeReceipts).get? a.plan.planHash =
    some a.shapeReceipt := by
  have hhashes := hd.planHashes
  rw [h.plans, List.map_map] at hhashes
  have heq : (artifacts.map (·.shapeReceipt)).map (·.planHash) =
      artifacts.map ((·.planHash) ∘ (·.plan)) := by
    rw [List.map_map]
    exact List.map_congr_left fun a ha => (h.passed a ha).bound.shape
  rw [← (h.passed a ha).bound.shape, shapeByPlanHash, h.shapes]
  exact PyDict.get?_keyed_of_mem (heq ▸ hhashes) (List.mem_map_of_mem ha)

end

/-- The author's assertions are granted by the sealed case. -/
theorem Assembled.granted (h : c.Assembled scope artifacts) {spec : PlanSpec} {i : ArtifactInputs}
    (hassertions : scope.authorAssertions spec = .ok i.assertions) :
    ∀ item ∈ (scope.madePlan spec i).allowedAssertions,
      item.assertionId ∈ sealedAssertionGrantIds c.sealed := by
  intro item hitem
  have hlearned := CaseScope.firstLearned_of_authorAssertions hassertions item
    (CaseScope.mem_madeAssertions.1 hitem)
  rw [← h.facts, ← h.worldNamespace, ← h.matterNamespace] at hlearned
  exact hlearned.granted

/-- **Every plan of a draft fits.** -/
theorem Assembled.fits (h : c.Assembled scope artifacts) (hd : c.Distinct) (ha : a ∈ artifacts)
    (hcapabilities : (scope.registry.evidenceCapabilities.map (·.capabilityId)).Nodup) :
    ∃ capability, PlanFits c scope.registry a.plan capability a.personaState a.projection
      a.stagedArtifact a.shapeReceipt := by
  have hstate := h.state_found hd ha
  have hprojection := h.projection_found hd ha
  have hview := h.view_found hd ha
  have hstaged := h.staged_found hd ha
  have hshape := h.shape_found hd ha
  obtain ⟨spec, i, writerId, assigned, hi, -, -, rfl⟩ := h.passed a ha
  obtain ⟨hevidence, hactive, -⟩ := CaseScope.activeByFamily_found hi.evidence
  have hallowed := (CaseScope.madeRequest_allowed hi.assertions hi.profile hactive hi.world
    hi.matter).2 ⟨hi.recipientPolicy, hi.role, hi.format, hi.recipients⟩
  refine ⟨i.evidence, ?_⟩
  exact
    { found := PyDict.get?_keyed_of_mem hcapabilities hevidence
      active := hactive
      grounded := h.granted hi.assertions
      worldNamespace := h.worldNamespace.symm
      matterNamespace := h.matterNamespace.symm
      stateOf := hstate
      stateValid := validatePersonaSnapshot_snapshotOf _
        (CaseScope.snapshotRequest_allowed.2 ⟨hi.world, hi.matter, hi.day⟩)
      authorized :=
        { recipientPolicy := hi.recipientPolicy
          revision := rfl
          family := rfl
          capabilityId := rfl
          worldNamespace := rfl
          matterNamespace := rfl
          author := hallowed.author
          role := hallowed.role
          day := rfl
          assertions := hallowed.granted
          recipients := hallowed.related }
      bound := hprojection
      trusted := hview
      renderable := CaseScope.madePlan_renderable hi.assertions hi.profile
      canonical := rfl
      stagedOf := hstaged
      stagedValid := (@fixture_passed_iff (scope.madeProjection spec i) i.evidence rfl rfl).2
        hi.wholesome
      receiptFound := hshape
      receiptOf := rfl }

/-! ## The lists side by side -/

/-- The lists of an assembled compilation run parallel. -/
theorem Assembled.aligned (h : c.Assembled scope artifacts) (hd : c.Distinct) : c.Aligned where
  planIds := hd.planIds
  stagedIds := hd.stagedIds
  rendererPlanIds := h.projections ▸ h.nodup_plan hd fun _ hb => hb.projection
  receiptIds := hd.receiptIds
  receiptPlanHashes := by
    have hhashes := hd.planHashes
    have heq : (artifacts.map (·.shapeReceipt)).map (·.planHash) =
        (artifacts.map (·.plan)).map (·.planHash) := by
      rw [List.map_map, List.map_map]
      exact List.map_congr_left fun a ha => (h.passed a ha).bound.shape
    rw [h.shapes, heq, ← h.plans]
    exact hhashes
  viewIds := hd.viewIds
  projections := by rw [h.plans, h.projections, List.length_map, List.length_map]
  staged := by rw [h.projections, h.staged, List.length_map, List.length_map]
  receipts := by rw [h.staged, h.shapes, List.length_map, List.length_map]
  manifests := by rw [h.shapes, h.manifests, List.length_map, List.length_map]
  meshReceipts := by rw [h.manifests, h.receipts, List.length_map, List.length_map]

/-! ## The lineage -/

/-- A key that no other row has groups its row alone. -/
theorem members_of_nodup {α κ : Type} [DecidableEq κ] {key : α → κ} {rows : List α}
    (h : (rows.map key).Nodup) {row : α} (hrow : row ∈ rows) :
    Groups.members key rows (key row) = [row] := by
  induction rows with
  | nil => exact absurd hrow List.not_mem_nil
  | cons first rest ih =>
    rw [List.map_cons, List.nodup_cons] at h
    rw [Groups.members, List.filter_cons]
    rcases List.mem_cons.1 hrow with rfl | hrow
    · have hnone : rest.filter (fun r => key r = key row) = [] :=
        List.filter_eq_nil_iff.2 fun r hr heq =>
          h.1 (of_decide_eq_true heq ▸ List.mem_map_of_mem hr)
      rw [if_pos (decide_eq_true rfl), hnone]
    · have hne : key first ≠ key row := fun heq => h.1 (heq ▸ List.mem_map_of_mem hrow)
      rw [if_neg (by simpa using hne)]
      exact ih h.2 hrow

/-- Rows with distinct keys are groups of their own. -/
theorem groups_of_nodup {α κ : Type} [DecidableEq κ] {key : α → κ} {rows : List α}
    (h : (rows.map key).Nodup) : Groups.groups key rows = rows.map ([·]) := by
  rw [Groups.groups, Groups.keys, Groups.distinct_of_nodup h, List.map_map]
  exact List.map_congr_left fun row hrow => members_of_nodup h hrow

/-- Initial versions of different artifacts have no lineage to check. -/
theorem validateLineageGraph_initial {plans : List ArtifactPlan} {artifacts : List StagedArtifact}
    (hrevision : ∀ plan ∈ plans, plan.lineage.revision = 1)
    (hlogical : (plans.map ArtifactPlan.logical).Nodup)
    (hversions : (plans.map (·.lineage.versionId)).Nodup) :
    validateLineageGraph plans artifacts = [] := by
  have hkeys : (plans.map fun item => (item.logical, item.lineage.versionId)).Nodup :=
    .of_map Prod.fst (by rwa [List.map_map])
  have hgroups : (Groups.groups ArtifactPlan.logical plans).flatMap
      (versionErrors (stagedByPlan artifacts)) = [] := by
    rw [groups_of_nodup hlogical, List.flatMap_eq_nil_iff]
    intro group hgroup
    obtain ⟨plan, hplan, rfl⟩ := List.mem_map.1 hgroup
    have hrange : ([plan].map (·.lineage.revision)) = revisionRange 1 := by
      rw [List.map_singleton, hrevision plan hplan]
      rfl
    have hsorted : sortedVersions [plan] = [plan] := rfl
    rw [versionErrors, hsorted]
    exact if_neg (not_not.2 hrange)
  have hdistinct : errorsIf
      [((plans.map fun item => (item.logical, item.lineage.versionId)).length ≠
          (plans.map fun item => (item.logical, item.lineage.versionId)).toFinset.card,
        "duplicate_logical_artifact_version"),
       ((plans.map (·.lineage.versionId)).length ≠
          (plans.map (·.lineage.versionId)).toFinset.card, "duplicate_lineage_version_id")] = [] := by
    simp only [errorsIf_eq_nil, List.forall_mem_cons, List.not_mem_nil, false_implies, implies_true,
      and_true, decide_eq_false_iff_not, not_not]
    exact ⟨(List.toFinset_card_of_nodup hkeys).symm, (List.toFinset_card_of_nodup hversions).symm⟩
  unfold validateLineageGraph
  simp only [hdistinct, hgroups]
  rfl

/-- The lineage of an assembled compilation has no findings. -/
theorem Assembled.lineage (h : c.Assembled scope artifacts) (hd : c.Distinct) :
    validateLineageGraph c.artifactPlans c.stagedArtifacts = [] := by
  have hmade : ∀ plan ∈ c.artifactPlans, plan.lineage.revision = 1 ∧
      plan.lineage.versionId = plan.lineage.logicalArtifactId ++ "-V" ++ toString (1 : Int) := by
    intro plan hplan
    rw [h.plans] at hplan
    obtain ⟨a, ha, rfl⟩ := List.mem_map.1 hplan
    obtain ⟨spec, i, writerId, assigned, -, -, -, rfl⟩ := h.passed a ha
    exact ⟨rfl, rfl⟩
  have hversions : c.artifactPlans.map (·.lineage.versionId) =
      (c.artifactPlans.map ArtifactPlan.logical).map fun l =>
        l.2.2 ++ "-V" ++ toString (1 : Int) := by
    rw [List.map_map]
    exact List.map_congr_left fun plan hplan => (hmade plan hplan).2
  exact validateLineageGraph_initial (fun plan hplan => (hmade plan hplan).1)
    (.of_map _ (hversions ▸ hd.versionIds)) hd.versionIds

/-! ## The mesh -/

/-- Each mesh receipt is for a manifest of its own. -/
theorem Assembled.nodup_receipts (h : c.Assembled scope artifacts) (hd : c.Distinct) :
    (c.artifactMeshReceipts.map (·.manifestId)).Nodup := by
  have hids : (artifacts.map (·.meshReceipt)).map (·.manifestId) =
      (artifacts.map (·.manifest)).map (·.manifestId) := by
    rw [List.map_map, List.map_map]
    exact List.map_congr_left fun a ha => (h.passed a ha).bound.receipt
  rw [h.receipts, hids, ← h.manifests]
  exact hd.manifestIds

/-- The mesh has produced every plan. -/
theorem Assembled.produced (h : c.Assembled scope artifacts) (hd : c.Distinct)
    (hcapabilities : (scope.registry.evidenceCapabilities.map (·.capabilityId)).Nodup)
    (ha : a ∈ artifacts) :
    ∃ d capability, (c.mesh scope.registry scope.family).PlanProduced a.plan d capability := by
  have hstate := h.state_found hd ha
  have hprojection := h.projection_found hd ha
  have hstaged := h.staged_found hd ha
  have hshape := h.shape_found hd ha
  have hmanifest : (c.mesh scope.registry scope.family).manifestByPlan.get? a.plan.planId =
      some a.manifest := by
    have hlist : (c.mesh scope.registry scope.family).manifests = artifacts.map (·.manifest) :=
      h.manifests
    rw [← (h.passed a ha).bound.manifest, ArtifactMesh.manifestByPlan, hlist]
    exact PyDict.get?_keyed_of_mem (h.nodup_plan hd fun _ hb => hb.manifest)
      (List.mem_map_of_mem ha)
  have hreceipt : (c.mesh scope.registry scope.family).receiptByManifest.get?
      a.manifest.manifestId = some a.meshReceipt := by
    rw [← (h.passed a ha).bound.receipt]
    exact PyDict.get?_keyed_of_mem (h.nodup_receipts hd) (h.receipts ▸ List.mem_map_of_mem ha)
  refine ⟨⟨a.projection, a.personaState, a.stagedArtifact, a.shapeReceipt, a.manifest⟩, ?_⟩
  have hdepends : (c.mesh scope.registry scope.family).dependencies a.plan =
      some ⟨a.projection, a.personaState, a.stagedArtifact, a.shapeReceipt, a.manifest⟩ := by
    have hunfold : (c.mesh scope.registry scope.family).dependencies a.plan = (do
      let projection ← (projectionByPlan c.rendererProjections).get? a.plan.planId
      let state ← (stateById c.personaStates).get? a.plan.personaStateId
      let staged ← (stagedByPlan c.stagedArtifacts).get? a.plan.planId
      let shape ← (shapeByPlanHash c.localShapeReceipts).get? a.plan.planHash
      let manifest ← (c.mesh scope.registry scope.family).manifestByPlan.get? a.plan.planId
      return ⟨projection, state, staged, shape, manifest⟩) := rfl
    rw [hunfold, hprojection, hstate, hstaged, hshape, hmanifest]
    rfl
  obtain ⟨spec, i, writerId, assigned, hi, hwriter, hassigned, rfl⟩ := h.passed a ha
  obtain ⟨hevidence, hactive, -⟩ := CaseScope.activeByFamily_found hi.evidence
  exact ⟨i.evidence,
    { depends := hdepends
      found := PyDict.get?_keyed_of_mem hcapabilities hevidence
      built := (CaseScope.manifestMade_eq_ok hi.assertions hi.profile).2
        ⟨⟨hi.active, hi.admitted, hi.writable⟩, writerId, assigned, hwriter, hassigned, rfl⟩
      receipt := ⟨_, hreceipt, issueArtifactMeshLocalReceipt_eq_ok.2 ⟨⟨rfl, rfl, rfl⟩, rfl⟩⟩ }⟩

/-- The mesh of an assembled compilation has no findings. -/
theorem Assembled.meshed (h : c.Assembled scope artifacts) (hd : c.Distinct)
    (hactive : scope.family.readiness = "active_g2")
    (hcapabilities : (scope.registry.evidenceCapabilities.map (·.capabilityId)).Nodup) :
    (c.mesh scope.registry scope.family).findings = [] := by
  have hlength {β : Type} {parts : List β} {part : CompiledArtifact → β}
      (hparts : parts = artifacts.map part) : parts.length = c.artifactPlans.length := by
    rw [hparts, h.plans, List.length_map, List.length_map]
  have hlengths : (c.mesh scope.registry scope.family).Balanced :=
    ⟨hlength h.projections, hlength h.staged, hlength h.shapes, hlength h.manifests,
      hlength h.receipts⟩
  have hbound : (c.artifactProductionManifests.map (·.planId)).Nodup :=
    h.manifests ▸ h.nodup_plan hd fun _ hb => hb.manifest
  refine ArtifactMesh.findings_eq_nil.2 ⟨hlengths, hactive, hbound,
    h.nodup_receipts hd, fun plan hplan => ?_⟩
  have hplans : (c.mesh scope.registry scope.family).plans = artifacts.map (·.plan) := h.plans
  rw [hplans] at hplan
  obtain ⟨a, ha, rfl⟩ := List.mem_map.1 hplan
  exact h.produced hd hcapabilities ha

/-- What the validation of a draft can still refuse. -/
structure Admissible (c : CaseCompilation) (registry : CapabilityRegistry) : Prop where
  leaks : c.leakFindings = []
  distinct : c.Distinct
  capabilities : (registry.evidenceCapabilities.map (·.capabilityId)).Nodup
  limits : ∀ count ∈ Groups.tally (c.artifactPlans.map (·.capabilityId)),
    overLimit registry count = false

end CaseCompilation

/-! ## Drafts -/

/-- A valid request names an active family of the registry. -/
theorem CompileRequest.validate_eq_ok {r : CompileRequest} {family : CaseFamilyManifest}
    (h : r.validate = .ok family) :
    r.registry.familyById.get? r.blueprint.caseFamilyId = some family ∧
      family.readiness = "active_g2" := by
  unfold CompileRequest.validate at h
  cases hfound : r.registry.familyById.get? r.blueprint.caseFamilyId with
  | none =>
    rw [hfound] at h
    cases h
  | some found =>
    rw [hfound] at h
    simp only [except_bind_eq_ok, except_throw_if_eq_ok, ne_eq, not_not] at h
    obtain ⟨hactive, -, -, -, -, h⟩ := h
    obtain rfl := Except.ok.inj h
    exact ⟨rfl, hactive⟩

/-- The sealed state holds what it was built of. -/
theorem CompileRequest.sealedState_eq_ok {r : CompileRequest} {family : CaseFamilyManifest}
    {facts : List CompiledFact} {conflicts : List SealedConflictSpec} {s : SealedCaseState}
    (h : r.sealedState family facts conflicts = .ok s) :
    s.worldNamespace = r.worldNamespace ∧ s.matterNamespace = r.matterNamespace ∧
      s.facts = facts ∧ s.conflicts = conflicts ∧ s.caseFamilyId = family.familyId ∧
      s.sourceBlueprintCommitment = r.blueprint.sealedCommitmentHash ∧
      s.compilerRevision = r.compilerRevision ∧ s.axisLabels = r.blueprint.sealedAxisLabels := by
  unfold CompileRequest.sealedState at h
  simp only [except_bind_eq_ok] at h
  obtain ⟨_, -, _, -, _, -, _, -, -, -, h⟩ := h
  obtain rfl := Except.ok.inj h
  exact ⟨rfl, rfl, rfl, rfl, rfl, rfl, rfl, rfl⟩

/-- What a draft is put together from. -/
structure Drafted (r : CompileRequest) (c : CaseCompilation) (artifacts : List CompiledArtifact)
    (scope : CaseScope) : Prop where
  registry : scope.registry = r.registry
  family : r.registry.familyById.get? c.sealed.caseFamilyId = some scope.family
  active : scope.family.readiness = "active_g2"
  hashable : c.Hashable r.registry
  required : (scope.family.requiredEvidenceCapabilities.map fun item =>
    "evidence." ++ item ++ ".v1") ⊆ c.artifactPlans.map (·.capabilityId)
  capacity : (c.artifactPlans.length : Int) ≤ scope.family.maxArtifacts
  assembled : c.Assembled scope artifacts
  identity : c.identityFindings = []
  commitments : c.commitmentFindings = []

/-- A draft is put together from artifacts that have passed. -/
theorem draftCaseDesign_eq_ok {r : CompileRequest} {c : CaseCompilation}
    (h : draftCaseDesign r = .ok c) : ∃ artifacts scope, Drafted r c artifacts scope := by
  have hwritable := writable_of_draftCaseDesign h
  unfold draftCaseDesign at h
  simp only [except_bind_eq_ok, except_throw_if_eq_ok, checkWritable_eq_ok, not_not, gt_iff_lt,
    not_lt] at h
  obtain ⟨family, hfamily, -, -, design, hdesign, -, hfamilyWritable, specs, hspecs, artifacts,
    hartifacts, hrequired, hcapacity, operating, hoperating, sealed, hsealed, h⟩ := h
  obtain rfl := Except.ok.inj h
  obtain ⟨hfound, hactive⟩ := CompileRequest.validate_eq_ok hfamily
  obtain ⟨hworld, hmatter, hfacts, hconflicts, hsealedFamily, hblueprint, hrevision, haxes⟩ :=
    CompileRequest.sealedState_eq_ok hsealed
  have hfamilyId := familyId_of_validate hfamily
  obtain ⟨summaries, -, hshape⟩ := buildOperatingProjection_eq_ok hoperating
  have hfoundSealed : r.registry.familyById.get? sealed.caseFamilyId = some family := by
    rw [hsealedFamily.trans hfamilyId]
    exact hfound
  have hoperatingFamily : operating.caseFamilyId = family.familyId :=
    congrArg OperatingCaseProjection.caseFamilyId hshape
  have hoperatingRevision : operating.compilerRevision = r.compilerRevision :=
    congrArg OperatingCaseProjection.compilerRevision hshape
  refine ⟨artifacts, r.caseScope design.1 family, ?_⟩
  exact
    { registry := rfl
      family := hfoundSealed
      active := hactive
      hashable := ⟨hwritable, fun family' hfamily' => by
        obtain rfl := Option.some.inj (hfoundSealed.symm.trans hfamily')
        exact hfamilyWritable⟩
      required := hrequired
      capacity := hcapacity
      assembled :=
        { states := rfl
          views := rfl
          plans := rfl
          projections := rfl
          staged := rfl
          shapes := rfl
          manifests := rfl
          receipts := rfl
          worldNamespace := hworld
          matterNamespace := hmatter
          facts := hfacts
          passed := fun a ha => by
            obtain ⟨spec, hspec, hpass⟩ := (mem_of_except_mapM hartifacts a).1 ha
            obtain ⟨i, writerId, assigned, hi, hwriter, hassigned, rfl⟩ :=
              CaseScope.compileArtifact_eq_ok.1 hpass
            exact ⟨spec, i, writerId, assigned, hi, hwriter, hassigned, rfl⟩ }
      identity := by
        simp only [CaseCompilation.identityFindings, errorsIf_eq_nil, List.forall_mem_cons,
          List.not_mem_nil, false_implies, implies_true, and_true, decide_eq_false_iff_not, ne_eq,
          not_not]
        exact ⟨hblueprint.symm, hrevision.symm, rfl, hoperatingFamily.trans hsealedFamily.symm,
          hfamilyId.symm.trans hsealedFamily.symm, hoperatingRevision⟩
      commitments := by
        simp only [CaseCompilation.commitmentFindings, errorsIf_eq_nil, List.forall_mem_cons,
          List.not_mem_nil, false_implies, implies_true, and_true, decide_eq_false_iff_not, ne_eq,
          not_not]
        exact ⟨rfl, rfl, digest_length _, rfl⟩ }

/-- **A draft that is admissible passes its validation.** -/
theorem Drafted.passing {r : CompileRequest} {c : CaseCompilation}
    {artifacts : List CompiledArtifact} {scope : CaseScope} (h : Drafted r c artifacts scope)
    (ha : c.Admissible r.registry) : CaseCompilation.Passing c r.registry := by
  have hcapabilities := ha.capabilities
  have hregistry := h.registry
  have hhashable := h.hashable
  obtain ⟨leaks, hdistinct, -, hlimits⟩ := ha
  rw [← hregistry] at hhashable hcapabilities hlimits ⊢
  have hlimitFindings : c.limitFindings scope.registry scope.family = [] := by
    simp only [CaseCompilation.limitFindings, List.append_eq_nil_iff, errorsIf_eq_nil,
      List.forall_mem_cons, List.forall_mem_map, List.not_mem_nil, false_implies, implies_true,
      and_true, decide_eq_false_iff_not, not_not, gt_iff_lt, not_lt]
    exact ⟨⟨h.required, hlimits⟩, h.capacity⟩
  exact
    { hashable := hhashable
      identity := h.identity
      leaks := leaks
      pipeline := CaseCompilation.pipelineFindings_eq_nil.2 (h.assembled.aligned hdistinct)
      lineage := h.assembled.lineage hdistinct
      plans := fun plan hplan => by
        rw [h.assembled.plans] at hplan
        obtain ⟨a, hmem, rfl⟩ := List.mem_map.1 hplan
        obtain ⟨capability, hfits⟩ := h.assembled.fits hdistinct hmem hcapabilities
        exact ⟨capability, _, _, _, _, hfits⟩
      scope := ⟨scope.family, hregistry ▸ h.family, h.active, hlimitFindings,
        h.assembled.meshed hdistinct h.active hcapabilities⟩
      commitments := h.commitments }

/-- **Compiling is drafting**, unless the draft is not admissible: the compiler's own validation
refuses nothing else. -/
theorem compileCaseDesign_eq_draft (r : CompileRequest) :
    compileCaseDesign r = draftCaseDesign r ∨
      ∃ c, draftCaseDesign r = .ok c ∧ ¬ c.Admissible r.registry := by
  cases hdraft : draftCaseDesign r with
  | error e =>
    refine .inl ?_
    unfold compileCaseDesign
    rw [hdraft]
    rfl
  | ok c =>
    by_cases hadmissible : c.Admissible r.registry
    · obtain ⟨artifacts, scope, h⟩ := draftCaseDesign_eq_ok hdraft
      obtain ⟨report, hreport, hpassed⟩ :=
        CaseCompilation.validate_passed_iff.2 (h.passing hadmissible)
      refine .inl ?_
      unfold compileCaseDesign
      rw [hdraft]
      simp only [except_bind_eq_ok, except_throw_if_eq_ok]
      exact ⟨c, rfl, report, hreport, by simp [hpassed], rfl⟩
    · exact .inr ⟨c, rfl, hadmissible⟩

/-! ## Qualification -/

/-- The receipt that a compilation without findings is given. -/
def CaseCompilation.qualification (c : CaseCompilation) : CaseCompilationQualificationReceipt :=
  CompilationValidationReport.receipt
    { passed := true, findings := [], compilationHash := c.compilationHash } c.compilationId

/-- A compilation without findings is given its own receipt, and no other is. -/
theorem qualifyCaseCompilation_eq_ok {c : CaseCompilation} {registry : CapabilityRegistry}
    {receipt : CaseCompilationQualificationReceipt} :
    qualifyCaseCompilation c registry = .ok receipt ↔
      CaseCompilation.Passing c registry ∧ receipt = c.qualification := by
  rw [← CaseCompilation.validate_passed_iff]
  unfold qualifyCaseCompilation
  simp only [except_bind_eq_ok, except_throw_if_eq_ok, Bool.not_eq_false]
  have hreceipt {report : CompilationValidationReport}
      (h : validateCaseCompilation c registry = .ok report) :
      report.receipt c.compilationId = c.qualification := by
    unfold validateCaseCompilation at h
    simp only [except_bind_eq_ok] at h
    obtain ⟨_, -, _, -, h⟩ := h
    obtain rfl := Except.ok.inj h
    rfl
  constructor
  · rintro ⟨report, h, hpassed, hissued⟩
    obtain rfl := Except.ok.inj hissued
    exact ⟨⟨report, h, hpassed⟩, hreceipt h⟩
  · rintro ⟨⟨report, h, hpassed⟩, rfl⟩
    exact ⟨report, h, hpassed, congrArg Except.ok (hreceipt h)⟩

/-- **A qualification receipt stands for a compilation without findings.** The check accepts the one
receipt of a compilation, and that only where the validator finds nothing; what the compiler returns
has such a receipt. -/
theorem qualification_receipt_iff :
    (∀ receipt c registry, validateCaseQualificationReceipt receipt c registry = true ↔
      CaseCompilation.Passing c registry ∧ receipt = c.qualification) ∧
    ∀ r c, compileCaseDesign r = .ok c →
      validateCaseQualificationReceipt c.qualification c r.registry = true := by
  have haccepted (receipt : CaseCompilationQualificationReceipt) (c : CaseCompilation)
      (registry : CapabilityRegistry) :
      validateCaseQualificationReceipt receipt c registry = true ↔
        CaseCompilation.Passing c registry ∧ receipt = c.qualification := by
    rw [← qualifyCaseCompilation_eq_ok]
    unfold validateCaseQualificationReceipt
    cases qualifyCaseCompilation c registry with
    | error e => simp
    | ok issued => simp [eq_comm]
  refine ⟨haccepted, fun r c h => (haccepted _ _ _).2 ⟨?_, rfl⟩⟩
  unfold compileCaseDesign at h
  simp only [except_bind_eq_ok, except_throw_if_eq_ok, Bool.not_eq_false] at h
  obtain ⟨c', -, report, hreport, hpassed, h⟩ := h
  obtain rfl := Except.ok.inj h
  exact CaseCompilation.validate_passed_iff.1 ⟨report, hreport, hpassed⟩

end LawFirmDigitalTwin
