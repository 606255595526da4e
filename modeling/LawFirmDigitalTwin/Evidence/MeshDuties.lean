import LawFirmDigitalTwin.Evidence.SpecialistMesh

/-!
# Separate duties in the specialist mesh

The assignments of a built manifest are a planner, a writer, a renderer and four checkers, and the
writer of no family is one of the checkers (`phaseFindings_built`): the two findings about phases
never come up, since a manifest that is not the built one is refused before. So in a mesh without
findings every plan has one manifest, every manifest a plan, and nobody checks what he wrote.
-/

namespace LawFirmDigitalTwin

open Raising

variable {specialists : PyDict SpecialistCapability} {planHash writerId : String}

/-! ## The assignments of an artifact -/

/-- An assignment is of a specialist of the phase. -/
theorem assignment_eq_ok {capabilityId : String} {phase : MeshPhase} {independentOf : List String}
    {a : SpecialistAssignment} :
    assignment specialists planHash capabilityId phase independentOf = .ok a ↔
      ∃ capability, specialists.get? capabilityId = some capability ∧
        capability.kind = phase.kind ∧
          a = assignmentOf capability capabilityId phase planHash independentOf := by
  unfold assignment
  cases specialists.get? capabilityId with
  | none => exact iff_of_false (fun h => by cases h) fun ⟨_, h, _⟩ => by cases h
  | some capability =>
    simp only [except_throw_if_eq_ok, ne_eq, not_not, Option.some.injEq, exists_eq_left']
    exact and_congr_right fun _ => ⟨fun h => (Except.ok.inj h).symm, fun h => congrArg Except.ok h.symm⟩

/-- What `_assignment` takes over from its arguments. -/
theorem assignment_duty {capabilityId : String} {phase : MeshPhase} {independentOf : List String}
    {a : SpecialistAssignment}
    (h : assignment specialists planHash capabilityId phase independentOf = .ok a) :
    (a.phase, a.specialistCapabilityId, a.independentOfCapabilityIds) =
      (phase, capabilityId, independentOf) := by
  obtain ⟨capability, -, -, rfl⟩ := assignment_eq_ok.1 h
  rfl

/-- The duties of a list of assignments: phase, specialist, and whom it is independent of. -/
def duties (assigned : List SpecialistAssignment) : List (MeshPhase × String × List String) :=
  assigned.map fun a => (a.phase, a.specialistCapabilityId, a.independentOfCapabilityIds)

/-- The duties of an artifact whose writer is given. -/
def dutiesOf (writerId : String) : List (MeshPhase × String × List String) :=
  [(.planner, plannerId, []), (.writer, writerId, []), (.renderer, rendererId, [])] ++
    checkerIds.map fun checkerId => (.checker, checkerId, [writerId, rendererId])

/-- The duties of the assignments are those of the writer. -/
theorem duties_assignments {assigned : List SpecialistAssignment}
    (h : assignments specialists planHash writerId = .ok assigned) :
    duties assigned = dutiesOf writerId := by
  unfold assignments at h
  simp only [except_bind_eq_ok, except_mapM_eq_ok] at h
  obtain ⟨planner, hplanner, writer, hwriter, renderer, hrenderer, checkers, hcheckers, h⟩ := h
  cases h
  have hduties : duties checkers =
      checkerIds.map fun checkerId => (.checker, checkerId, [writerId, rendererId]) := by
    have heach : List.Forall₂ (fun checkerId (a : SpecialistAssignment) =>
        (MeshPhase.checker, checkerId, [writerId, rendererId]) =
          (a.phase, a.specialistCapabilityId, a.independentOfCapabilityIds)) checkerIds checkers :=
      hcheckers.imp fun _ _ h => (assignment_duty h).symm
    rw [duties, eq_comm]
    exact List.forall₂_eq_eq_eq ▸ (List.forall₂_map_left_iff.2 (List.forall₂_map_right_iff.2 heach))
  rw [duties, List.map_append, ← duties, ← duties, hduties, dutiesOf]
  simp only [duties, List.map_cons, List.map_nil, assignment_duty hplanner, assignment_duty hwriter,
    assignment_duty hrenderer]

/-- No family is written by one of the checkers. -/
theorem writer_notMem_checkerIds {familyId : String} (h : writerByFamily familyId = some writerId) :
    writerId ∉ checkerIds := by
  unfold writerByFamily at h
  split at h <;> cases h <;> decide

/-! ## Manifests -/

section
variable {family : CaseFamilyManifest} {domainPack : EvidenceDomainPack}
  {capability : EvidenceFamilyCapability} {plan : ArtifactPlan}
  {projection : RendererArtifactProjection} {state : PersonaStateSnapshot}
  {manifest : ArtifactProductionManifest}

/-- What `build_artifact_production_manifest` asks of the parts of an artifact. -/
structure Producible (family : CaseFamilyManifest) (domainPack : EvidenceDomainPack)
    (capability : EvidenceFamilyCapability) (plan : ArtifactPlan)
    (projection : RendererArtifactProjection) (state : PersonaStateSnapshot) : Prop where
  active : family.readiness = "active_g2"
  packActive : domainPack.readiness = "active_g2"
  packFamily : domainPack.caseFamilyId = family.familyId
  admitted : plan.capabilityId ∈ domainPack.evidenceCapabilityIds
  writable : capability.toJson.writable = true
  capability : plan.capabilityId = capability.capabilityId
  stateId : state.stateId = plan.personaStateId
  renderable : Renderable plan projection.personaView state
  canonical : projection = projectionOf plan projection.personaView

/-- A manifest is built exactly for parts that fit and specialists that are found. -/
theorem buildArtifactProductionManifest_eq_ok :
    buildArtifactProductionManifest family domainPack capability plan projection state specialists =
        .ok manifest ↔
      Producible family domainPack capability plan projection state ∧
        ∃ writerId assigned, writerByFamily plan.familyId = some writerId ∧
          assignments specialists plan.planHash writerId = .ok assigned ∧
            manifest = productionManifestOf family domainPack capability plan projection state
              specialists assigned := by
  unfold buildArtifactProductionManifest
  simp only [except_throw_if_eq_ok, except_bind_eq_ok, buildRendererProjection_eq_ok, not_or,
    not_not]
  constructor
  · rintro ⟨⟨hfamily, hpack⟩, hpackFamily, hadmitted, hcapability, -, ⟨hstateId, -⟩, expected,
      ⟨hrenderable, rfl⟩, hcanonical, h⟩
    cases hwriter : writerByFamily plan.familyId with
    | none => simp [hwriter] at h
    | some writerId =>
      simp only [hwriter, except_bind_eq_ok, checkWritable_eq_ok] at h
      obtain ⟨assigned, hassigned, -, hwrite, h⟩ := h
      exact ⟨⟨hfamily, hpack, hpackFamily, hadmitted, hwrite, hcapability, hstateId, hrenderable,
        hcanonical⟩, writerId, assigned, rfl, hassigned, (Except.ok.inj h).symm⟩
  · rintro ⟨h, writerId, assigned, hwriter, hassigned, rfl⟩
    have hhash : projection.planHash = plan.planHash := by rw [h.canonical]; rfl
    have hid : projection.planId = plan.planId := by rw [h.canonical]; rfl
    refine ⟨⟨h.active, h.packActive⟩, h.packFamily, h.admitted, h.capability, ⟨hhash, hid⟩,
      ⟨h.stateId, h.renderable.current⟩, _, ⟨h.renderable, rfl⟩, h.canonical, ?_⟩
    simp only [hwriter, except_bind_eq_ok, checkWritable_eq_ok]
    exact ⟨assigned, hassigned, (), h.writable, rfl⟩

/-- The assignments of a built manifest are the duties of its writer. -/
theorem duties_built
    (h : buildArtifactProductionManifest family domainPack capability plan projection state
      specialists = .ok manifest) :
    ∃ writerId, writerByFamily plan.familyId = some writerId ∧ writerId ∉ checkerIds ∧
      duties manifest.assignments = dutiesOf writerId := by
  obtain ⟨-, writerId, assigned, hwriter, hassigned, rfl⟩ :=
    buildArtifactProductionManifest_eq_ok.1 h
  exact ⟨writerId, hwriter, writer_notMem_checkerIds hwriter, duties_assignments hassigned⟩

/-- **A built manifest has no finding about its phases.** -/
theorem phaseFindings_built
    (h : buildArtifactProductionManifest family domainPack capability plan projection state
      specialists = .ok manifest) : ArtifactMesh.phaseFindings manifest = [] := by
  obtain ⟨writerId, -, hchecker, hduties⟩ := duties_built h
  have hphases : manifest.assignments.map (·.phase) = (dutiesOf writerId).map (·.1) := by
    rw [← hduties, duties, List.map_map]
    rfl
  have hids (phase : MeshPhase) :
      (manifest.assignments.filter (·.phase = phase)).map (·.specialistCapabilityId) =
        ((dutiesOf writerId).filter (·.1 = phase)).map (·.2.1) := by
    rw [← hduties, duties, List.filter_map, List.map_map]
    rfl
  simp only [ArtifactMesh.phaseFindings, errorsIf_eq_nil, List.forall_mem_cons, List.not_mem_nil,
    false_implies, implies_true, and_true, decide_eq_false_iff_not, not_not, hphases, hids]
  refine ⟨⟨rfl, rfl, rfl, rfl⟩, ?_⟩
  rw [← Finset.disjoint_iff_inter_eq_empty]
  refine Finset.disjoint_left.2 fun id hwriter hid => hchecker ?_
  have hwriter : id = writerId := List.mem_singleton.1 (List.mem_toFinset.1 hwriter)
  rw [← hwriter]
  exact List.mem_toFinset.1 hid

end

/-! ## The mesh as a whole -/

/-- A mesh receipt is issued for parts that name each other. -/
theorem issueArtifactMeshLocalReceipt_eq_ok {manifest : ArtifactProductionManifest}
    {staged : StagedArtifact} {shape : LocalArtifactShapeReceipt}
    {receipt : ArtifactMeshLocalReceipt} :
    issueArtifactMeshLocalReceipt manifest staged shape = .ok receipt ↔
      (staged.planHash = manifest.planHash ∧
        staged.rendererProjectionHash = manifest.rendererProjectionHash ∧
          shape.planHash = manifest.planHash) ∧ receipt = meshReceiptOf manifest staged shape := by
  unfold issueArtifactMeshLocalReceipt
  simp only [except_throw_if_eq_ok, ne_eq, not_not, and_assoc]
  refine and_congr_right fun _ => and_congr_right fun _ => and_congr_right fun _ => ?_
  exact ⟨fun h => (Except.ok.inj h).symm, fun h => congrArg Except.ok h.symm⟩

namespace ArtifactMesh

variable {m : ArtifactMesh} {plan : ArtifactPlan}

/-- A plan of the mesh about which there is no finding. -/
structure PlanProduced (m : ArtifactMesh) (plan : ArtifactPlan) (d : MeshDependencies)
    (capability : EvidenceFamilyCapability) : Prop where
  depends : m.dependencies plan = some d
  found : m.registry.evidenceById.get? plan.capabilityId = some capability
  built : buildArtifactProductionManifest m.family (buildDomainPack m.family m.registry)
    capability plan d.projection d.state m.registry.specialists = .ok d.manifest
  receipt : ∃ receipt, m.receiptByManifest.get? d.manifest.manifestId = some receipt ∧
    issueArtifactMeshLocalReceipt d.manifest d.staged d.shape = .ok receipt

/-- A manifest has the receipt that is issued for it. -/
theorem receiptFindings_eq_nil {d : MeshDependencies} :
    m.receiptFindings d = [] ↔
      ∃ receipt, m.receiptByManifest.get? d.manifest.manifestId = some receipt ∧
        issueArtifactMeshLocalReceipt d.manifest d.staged d.shape = .ok receipt := by
  unfold receiptFindings
  cases m.receiptByManifest.get? d.manifest.manifestId with
  | none => simp
  | some receipt =>
    cases issueArtifactMeshLocalReceipt d.manifest d.staged d.shape with
    | error error => simp
    | ok expected =>
      simp only [errorsIf_eq_nil, List.mem_singleton, forall_eq, decide_eq_false_iff_not, ne_eq,
        not_not, Option.some.injEq, exists_eq_left', Except.ok.injEq]
      exact eq_comm

/-- A plan has no findings where the mesh has produced it. -/
theorem planFindings_eq_nil :
    m.planFindings plan = [] ↔ ∃ d capability, PlanProduced m plan d capability := by
  unfold planFindings
  constructor
  · intro h
    cases hdependencies : m.dependencies plan with
    | none => simp [hdependencies] at h
    | some d =>
      cases hcapability : m.registry.evidenceById.get? plan.capabilityId with
      | none => simp [hdependencies, hcapability] at h
      | some capability =>
        simp only [hdependencies, hcapability] at h
        cases hbuilt : buildArtifactProductionManifest m.family
            (buildDomainPack m.family m.registry) capability plan d.projection d.state
              m.registry.specialists with
        | error error => simp [hbuilt] at h
        | ok expected =>
          by_cases hmanifest : d.manifest = expected
          · simp only [hbuilt, if_neg (not_not.2 hmanifest), List.append_eq_nil_iff,
              receiptFindings_eq_nil] at h
            exact ⟨d, capability, hdependencies, hcapability, hmanifest ▸ hbuilt, h.2⟩
          · simp [hbuilt, hmanifest] at h
  · rintro ⟨d, capability, h⟩
    have hphases := phaseFindings_built h.built
    rw [h.depends]
    dsimp only
    rw [h.found]
    dsimp only
    rw [h.built]
    dsimp only
    rw [if_neg (not_not.2 rfl), hphases, List.nil_append]
    exact receiptFindings_eq_nil.2 h.receipt

/-- All lists have one length. -/
structure Balanced (m : ArtifactMesh) : Prop where
  projections : m.projections.length = m.plans.length
  staged : m.stagedArtifacts.length = m.plans.length
  shapes : m.shapeReceipts.length = m.plans.length
  manifests : m.manifests.length = m.plans.length
  receipts : m.meshReceipts.length = m.plans.length

/-- A list has one value where all its elements are the first. -/
theorem card_toFinset_cons_eq_one {a : Nat} {l : List Nat} :
    (a :: l).toFinset.card = 1 ↔ ∀ b ∈ l, b = a := by
  rw [Finset.card_eq_one]
  constructor
  · rintro ⟨x, hx⟩ b hb
    have hmem (b : Nat) (hb : b ∈ a :: l) : b = x :=
      Finset.mem_singleton.1 (hx ▸ List.mem_toFinset.2 hb)
    rw [hmem b (.tail _ hb), hmem a (.head _)]
  · intro h
    refine ⟨a, Finset.ext fun b => ?_⟩
    rw [List.mem_toFinset, Finset.mem_singleton, List.mem_cons]
    exact ⟨fun hb => hb.elim id (h b), .inl⟩

/-- A list has as many values as elements where they are distinct. -/
theorem toFinset_card_eq_length {l : List String} : l.toFinset.card = l.length ↔ l.Nodup :=
  ⟨fun h => Multiset.toFinset_card_eq_card_iff_nodup.1 h, List.toFinset_card_of_nodup⟩

/-- A pack is active where its family is. -/
theorem buildDomainPack_active {family : CaseFamilyManifest} {registry : CapabilityRegistry} :
    (buildDomainPack family registry).readiness = "active_g2" ↔ family.readiness = "active_g2" := by
  unfold buildDomainPack
  dsimp only
  split
  · next h => exact iff_of_true rfl h
  · next h => exact iff_of_false (by decide) h

/-- **The mesh has no findings** exactly when its lists are balanced, its family is active, its
manifests and receipts have one binding each, and every plan is produced. -/
theorem findings_eq_nil :
    m.findings = [] ↔
      m.Balanced ∧ m.family.readiness = "active_g2" ∧ (m.manifests.map (·.planId)).Nodup ∧
        (m.meshReceipts.map (·.manifestId)).Nodup ∧
          ∀ plan ∈ m.plans, ∃ d capability, PlanProduced m plan d capability := by
  have hlength {α : Type} (f : α → String) (l : List α) :
      (l.map f).toFinset.card = l.length ↔ (l.map f).Nodup := by
    rw [← toFinset_card_eq_length, List.length_map]
  simp only [findings, List.append_eq_nil_iff, errorsIf_eq_nil, List.forall_mem_cons,
    List.not_mem_nil, false_implies, implies_true, and_true, decide_eq_false_iff_not, ne_eq, not_not,
    List.flatMap_eq_nil_iff, card_toFinset_cons_eq_one, buildDomainPack_active, hlength,
    planFindings_eq_nil]
  constructor
  · rintro ⟨⟨⟨hprojections, hstaged, hshapes, hmanifests, hreceipts⟩, hactive, -, hbound, hreceipt⟩,
      hplans⟩
    exact ⟨⟨hprojections, hstaged, hshapes, hmanifests, hreceipts⟩, hactive, hbound, hreceipt,
      hplans⟩
  · rintro ⟨⟨hprojections, hstaged, hshapes, hmanifests, hreceipts⟩, hactive, hbound, hreceipt,
      hplans⟩
    exact ⟨⟨⟨hprojections, hstaged, hshapes, hmanifests, hreceipts⟩, hactive, hactive, hbound,
      hreceipt⟩, hplans⟩

end ArtifactMesh

end LawFirmDigitalTwin
