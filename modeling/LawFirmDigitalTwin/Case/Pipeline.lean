import LawFirmDigitalTwin.Case.Compiler
import LawFirmDigitalTwin.Evidence.MeshDuties

/-!
# The pipeline of an artifact

A pass of the compiler goes through nine constructors that check what they are given, most of it
what an earlier one has just made. Stage by stage, the checks that are left are on the registry and
on the text: `Compilable` lists them, and a pass returns exactly where they hold
(`compileArtifact_eq_ok`).
-/

namespace LawFirmDigitalTwin

open Raising

/-- A persona is filed under its own identity. -/
theorem actorId_of_fullPersonas {id : String} {profile : FullPersonaProfile}
    (h : fullPersonas.get? id = some profile) : profile.actorId = id ∧ id ≠ "" := by
  have hall : ∀ e ∈ fullPersonaEntries, e.2.actorId = e.1 ∧ e.1 ≠ "" := by
    simp only [fullPersonaEntries, List.forall_mem_cons, List.not_mem_nil, false_implies,
      implies_true, and_true]
    repeat' apply And.intro
    all_goals first | rfl | decide
  exact hall _ (PyDict.mem_of_get?_ofEntries h)

/-- What a pass looks up before its first constructor. -/
structure ArtifactInputs where
  evidence : EvidenceFamilyCapability
  profile : FullPersonaProfile
  assertions : List FactAssertion

namespace CaseScope

variable (scope : CaseScope) (spec : PlanSpec) (i : ArtifactInputs)

/-! ## What a pass makes -/

/-- The author's state. -/
def madeState : PersonaStateSnapshot :=
  snapshotOf i.profile (scope.snapshotRequest spec i.profile i.assertions)

/-- The author's view of the artifact. -/
def madeView : RendererPersonaView :=
  (scope.madeState spec i).viewOf (sorted (i.assertions.map (·.factId)).toFinset)
    (sorted (i.assertions.map (·.assertionId)).toFinset)

def madeRequest : ArtifactPlanRequest :=
  scope.planRequest spec i.evidence i.assertions (scope.madeState spec i)

def madePlan : ArtifactPlan := (scope.madeRequest spec i).plan

def madeProjection : RendererArtifactProjection :=
  projectionOf (scope.madePlan spec i) (scope.madeView spec i)

def madeStaged : StagedArtifact :=
  stagedOf (scope.madeProjection spec i) (fixtureBody (scope.madeProjection spec i))
    (scope.madeProjection spec i).allowedAssertions (fixtureMetadata (scope.madeProjection spec i))
    fixtureRevision

def madeShape : LocalArtifactShapeReceipt :=
  shapeReceiptOf (scope.madeStaged spec i)
    (validateStagedArtifact (scope.madeStaged spec i) (scope.madeProjection spec i))

def madeManifest (assigned : List SpecialistAssignment) : ArtifactProductionManifest :=
  productionManifestOf scope.family (buildDomainPack scope.family scope.registry) i.evidence
    (scope.madePlan spec i) (scope.madeProjection spec i) (scope.madeState spec i)
    scope.registry.specialists assigned

/-- What a pass returns for its inputs and its assignments. -/
def madeArtifact (assigned : List SpecialistAssignment) : CompiledArtifact where
  personaState := scope.madeState spec i
  view := scope.madeView spec i
  plan := scope.madePlan spec i
  projection := scope.madeProjection spec i
  stagedArtifact := scope.madeStaged spec i
  shapeReceipt := scope.madeShape spec i
  manifest := scope.madeManifest spec i assigned
  meshReceipt := meshReceiptOf (scope.madeManifest spec i assigned) (scope.madeStaged spec i)
    (scope.madeShape spec i)

/-- What is left to check of a pass. -/
structure Compilable : Prop where
  evidence : scope.registry.activeByFamily.get? spec.family = some i.evidence
  profile : fullPersonas.get? spec.author = some i.profile
  assertions : scope.authorAssertions spec = .ok i.assertions
  world : scope.worldNamespace ≠ ""
  matter : scope.matterNamespace ≠ ""
  day : 0 ≤ spec.day
  recipientPolicy : i.evidence.recipientPolicyId = "case_scoped_relationship_grant.v1"
  role : i.profile.roleId ∈ i.evidence.allowedAuthorRoles
  format : spec.format ∈ i.evidence.allowedNativeFormats
  recipients : i.evidence.requiresRecipients = true → spec.recipients ≠ []
  wholesome : Wholesome (scope.madeProjection spec i)
  active : scope.family.readiness = "active_g2"
  admitted : i.evidence.capabilityId ∈
    (buildDomainPack scope.family scope.registry).evidenceCapabilityIds
  writable : i.evidence.toJson.writable = true

/-! ## The assertions -/

variable {scope spec i}

/-- What an author asserts is what was learned first. -/
theorem firstLearned_of_authorAssertions {assertions : List FactAssertion}
    (h : scope.authorAssertions spec = .ok assertions) :
    ∀ a ∈ assertions, FirstLearned scope.facts scope.worldNamespace scope.matterNamespace
      spec.author spec.day a := by
  unfold authorAssertions at h
  cases hloop : assertionsFor scope.facts scope.worldNamespace scope.matterNamespace spec.author
      spec.day spec.facts with
  | error e =>
    rw [hloop] at h
    cases h
  | ok made =>
    rw [hloop] at h
    cases h
    exact (assertionsLoop_ok hloop).2.2.2

/-- A fact an actor states is one that he knows. -/
theorem mem_knowledge_of_firstLearned {facts : List CompiledFact} {world matter actorId : String}
    {day : Int} {a : FactAssertion} (h : FirstLearned facts world matter actorId day a) :
    a.factId ∈ knowledgeForActor facts actorId day := by
  obtain ⟨f, hf, learned, rfl, hknown, hle, -⟩ := h
  refine mem_sorted.2 (List.mem_toFinset.2 (List.mem_map_of_mem (List.mem_filter.2 ⟨hf, ?_⟩)))
  exact List.any_eq_true.2 ⟨_, hknown, decide_eq_true ⟨rfl, hle⟩⟩

/-! ## Stage by stage -/

/-- The assertions of a plan, as a set. -/
theorem mem_madeAssertions {a : FactAssertion} :
    a ∈ (scope.madeRequest spec i).assertions ↔ a ∈ i.assertions := by
  have hmade : (scope.madeRequest spec i).assertions = sortedAssertions i.assertions := rfl
  rw [hmade, sortedAssertions, (List.perm_insertionSort _ _).mem_iff, List.mem_dedup]

/-- The request asks for the assertions of the plan. -/
theorem toFinset_madeAssertions (f : FactAssertion → String) :
    ((scope.madeRequest spec i).assertions.map f).toFinset = (i.assertions.map f).toFinset := by
  ext x
  simp only [List.mem_toFinset, List.mem_map, mem_madeAssertions]

/-- The request for the state of an author is allowed. -/
theorem snapshotRequest_allowed : (scope.snapshotRequest spec i.profile i.assertions).Allowed ↔
    scope.worldNamespace ≠ "" ∧ scope.matterNamespace ≠ "" ∧ 0 ≤ spec.day :=
  ⟨fun h => ⟨h.world, h.matter, h.day⟩, fun ⟨hworld, hmatter, hday⟩ =>
    ⟨hworld, hmatter, hday, le_refl _⟩⟩

/-- The state knows the facts that are asserted. -/
theorem facts_known (h : scope.authorAssertions spec = .ok i.assertions) :
    i.assertions.map (·.factId) ⊆ (scope.madeState spec i).knowledgeFactIds := by
  intro factId hfact
  obtain ⟨a, ha, rfl⟩ := List.mem_map.1 hfact
  exact mem_sorted.2 (List.mem_toFinset.2
    (mem_knowledge_of_firstLearned (firstLearned_of_authorAssertions h a ha)))

/-- The state has the assertions that are granted. -/
theorem assertions_granted :
    i.assertions.map (·.assertionId) ⊆ (scope.madeState spec i).knowledgeAssertionIds :=
  subset_sorted_toFinset _

/-- The plan of a pass is built where the registry and the format allow it. -/
theorem madeRequest_allowed (hassertions : scope.authorAssertions spec = .ok i.assertions)
    (hprofile : fullPersonas.get? spec.author = some i.profile)
    (hactive : i.evidence.readiness = "active_g2") (hworld : scope.worldNamespace ≠ "")
    (hmatter : scope.matterNamespace ≠ "") :
    (scope.madeRequest spec i).Allowed ↔
      i.evidence.recipientPolicyId = "case_scoped_relationship_grant.v1" ∧
        i.profile.roleId ∈ i.evidence.allowedAuthorRoles ∧
        spec.format ∈ i.evidence.allowedNativeFormats ∧
        (i.evidence.requiresRecipients = true → spec.recipients ≠ []) := by
  obtain ⟨hactor, hauthor⟩ := actorId_of_fullPersonas hprofile
  have hrecipients : (scope.madeRequest spec i).recipients = sorted spec.recipients.toFinset := rfl
  have hnil : sorted spec.recipients.toFinset = [] ↔ spec.recipients = [] := by
    rw [List.eq_nil_iff_forall_not_mem, List.eq_nil_iff_forall_not_mem]
    simp only [mem_sorted, List.mem_toFinset]
  constructor
  · intro h
    refine ⟨h.recipientPolicy, h.role, h.format, fun hrequired => ?_⟩
    have hne := h.recipients hrequired
    rwa [hrecipients, ne_eq, hnil] at hne
  · rintro ⟨hpolicy, hrole, hformat, hrequired⟩
    have hlearned := firstLearned_of_authorAssertions hassertions
    refine ⟨hactive, hpolicy, hworld, hmatter, rfl, rfl, hrole, hactor, rfl, hformat, ?_, ?_, ?_,
      ?_, fun _ => hauthor, ?_, ?_, fun _ => ⟨rfl, rfl⟩, fun h => absurd h (lt_irrefl (1 : Int)), rfl⟩
    · intro a ha
      obtain ⟨f, -, day, rfl, -⟩ := hlearned a (mem_madeAssertions.1 ha)
      exact ⟨rfl, rfl, rfl⟩
    · intro factId hfact
      obtain ⟨a, ha, rfl⟩ := List.mem_map.1 hfact
      exact facts_known hassertions (List.mem_map_of_mem (mem_madeAssertions.1 ha))
    · intro a ha
      obtain ⟨f, -, day, rfl, -, hle, -⟩ := hlearned a (mem_madeAssertions.1 ha)
      exact hle
    · intro id hid
      obtain ⟨a, ha, rfl⟩ := List.mem_map.1 hid
      exact assertions_granted (List.mem_map_of_mem (mem_madeAssertions.1 ha))
    · intro h
      rw [hrecipients, ne_eq, hnil]
      exact hrequired h
    · intro id hid
      obtain ⟨recipient, hrecipient, rfl⟩ := List.mem_map.1 hid
      rw [hrecipients, mem_sorted, List.mem_toFinset] at hrecipient
      exact mem_sorted.2 (List.mem_toFinset.2 (List.mem_map_of_mem hrecipient))

/-- The plan, the view and the state of a pass fit each other. -/
theorem madePlan_renderable (hassertions : scope.authorAssertions spec = .ok i.assertions)
    (hprofile : fullPersonas.get? spec.author = some i.profile) :
    Renderable (scope.madePlan spec i) (scope.madeView spec i) (scope.madeState spec i) where
  worldNamespace := rfl
  matterNamespace := rfl
  author := (actorId_of_fullPersonas hprofile).1
  day := rfl
  stateId := rfl
  stateHash := rfl
  coreRevision := rfl
  current := rfl
  facts := by
    intro factId hfact
    obtain ⟨a, ha, rfl⟩ := List.mem_map.1 hfact
    exact facts_known hassertions (List.mem_map_of_mem (mem_madeAssertions.1 ha))
  assertions := by
    intro id hid
    obtain ⟨a, ha, rfl⟩ := List.mem_map.1 hid
    exact assertions_granted (List.mem_map_of_mem (mem_madeAssertions.1 ha))
  canonical := by
    have hallowed : (scope.madePlan spec i).allowedAssertions =
      (scope.madeRequest spec i).assertions := rfl
    rw [hallowed, toFinset_madeAssertions, toFinset_madeAssertions]
    rfl

/-- The fixture renders a wholesome projection as its staged artifact. -/
theorem renderMade_eq_ok {staged : StagedArtifact} :
    renderDeterministicG2Fixture (scope.madeProjection spec i) = .ok staged ↔
      Wholesome (scope.madeProjection spec i) ∧ staged = scope.madeStaged spec i :=
  @renderDeterministicG2Fixture_eq_ok (scope.madeProjection spec i) i.evidence i.assertions rfl rfl
    rfl staged

/-- A shape receipt is issued for an artifact that passes. -/
theorem issueLocalShapeReceipt_eq_ok {staged : StagedArtifact}
    {projection : RendererArtifactProjection} {receipt : LocalArtifactShapeReceipt} :
    issueLocalShapeReceipt staged projection = .ok receipt ↔
      (validateStagedArtifact staged projection).passed = true ∧
        receipt = shapeReceiptOf staged (validateStagedArtifact staged projection) := by
  unfold issueLocalShapeReceipt
  simp only [except_throw_if_eq_ok, Bool.not_eq_false]
  exact and_congr_right fun _ =>
    ⟨fun h => (Except.ok.inj h).symm, fun h => congrArg Except.ok h.symm⟩

/-- The shape receipt of a wholesome projection. -/
theorem issueMade_eq_ok (h : Wholesome (scope.madeProjection spec i))
    {receipt : LocalArtifactShapeReceipt} :
    issueLocalShapeReceipt (scope.madeStaged spec i) (scope.madeProjection spec i) = .ok receipt ↔
      receipt = scope.madeShape spec i := by
  rw [issueLocalShapeReceipt_eq_ok]
  exact and_iff_right ((@fixture_passed_iff (scope.madeProjection spec i) i.evidence rfl rfl).2 h)

/-- The active capability of a family is one of the registry. -/
theorem activeByFamily_found {registry : CapabilityRegistry} {familyId : String}
    {evidence : EvidenceFamilyCapability}
    (h : registry.activeByFamily.get? familyId = some evidence) :
    evidence ∈ registry.evidenceCapabilities ∧ evidence.readiness = "active_g2" ∧
      evidence.familyId = familyId := by
  obtain ⟨hmem, hid⟩ := PyDict.mem_of_get?_keyed h
  obtain ⟨hmem, hactive⟩ := List.mem_filter.1 hmem
  exact ⟨hmem, of_decide_eq_true hactive, hid⟩

/-- The manifest of a pass is built where the family is active and admits the capability, and the
capability can be hashed. -/
theorem manifestMade_eq_ok (hassertions : scope.authorAssertions spec = .ok i.assertions)
    (hprofile : fullPersonas.get? spec.author = some i.profile)
    {manifest : ArtifactProductionManifest} :
    buildArtifactProductionManifest scope.family (buildDomainPack scope.family scope.registry)
        i.evidence (scope.madePlan spec i) (scope.madeProjection spec i) (scope.madeState spec i)
        scope.registry.specialists = .ok manifest ↔
      (scope.family.readiness = "active_g2" ∧ i.evidence.capabilityId ∈
          (buildDomainPack scope.family scope.registry).evidenceCapabilityIds ∧
            i.evidence.toJson.writable = true) ∧
        ∃ writerId assigned, writerByFamily i.evidence.familyId = some writerId ∧
          assignments scope.registry.specialists (scope.madePlan spec i).planHash writerId =
            .ok assigned ∧ manifest = scope.madeManifest spec i assigned := by
  rw [buildArtifactProductionManifest_eq_ok]
  refine and_congr ⟨fun h => ⟨h.active, h.admitted, h.writable⟩,
    fun ⟨hactive, hadmitted, hwrite⟩ => ?_⟩ Iff.rfl
  exact ⟨hactive, ArtifactMesh.buildDomainPack_active.2 hactive, rfl, hadmitted, hwrite, rfl, rfl,
    madePlan_renderable hassertions hprofile, rfl⟩

/-- **A pass returns** exactly where what is left to check holds, and returns what is made of its
inputs. -/
theorem compileArtifact_eq_ok {a : CompiledArtifact} :
    scope.compileArtifact spec = .ok a ↔
      ∃ i writerId assigned, scope.Compilable spec i ∧
        writerByFamily i.evidence.familyId = some writerId ∧
          assignments scope.registry.specialists (scope.madePlan spec i).planHash writerId =
            .ok assigned ∧ a = scope.madeArtifact spec i assigned := by
  unfold compileArtifact
  cases hevidence : scope.registry.activeByFamily.get? spec.family with
  | none =>
    refine iff_of_false (fun h => by cases h) ?_
    rintro ⟨i, _, _, h, -⟩
    rw [h.evidence] at hevidence
    cases hevidence
  | some evidence =>
    obtain ⟨-, hactive, -⟩ := activeByFamily_found hevidence
    simp only [except_bind_eq_ok, PyDict.item_eq_ok, compilePersonaSnapshot_eq_ok,
      projectPersonaForRenderer_eq_ok, buildArtifactPlan_eq_ok, buildRendererProjection_eq_ok]
    constructor
    · rintro ⟨profile, hprofile, assertions, hassertions, state, ⟨hsnapshot, rfl⟩, view,
        ⟨-, -, rfl⟩, plan, ⟨hplan, rfl⟩, projection, ⟨-, rfl⟩, staged, hstaged, receipt, hreceipt,
        manifest, hmanifest, meshReceipt, hmesh, h⟩
      let i : ArtifactInputs := ⟨evidence, profile, assertions⟩
      obtain ⟨hworld, hmatter, hday⟩ := (@snapshotRequest_allowed scope spec i).1 hsnapshot
      obtain ⟨hpolicy, hrole, hformat, hrecipients⟩ :=
        (@madeRequest_allowed scope spec i hassertions hprofile hactive hworld hmatter).1 hplan
      obtain ⟨hwholesome, rfl⟩ := (@renderMade_eq_ok scope spec i staged).1 hstaged
      obtain rfl := (@issueMade_eq_ok scope spec i hwholesome receipt).1 hreceipt
      obtain ⟨⟨hfamily, hadmitted, hwrite⟩, writerId, assigned, hwriter, hassigned, rfl⟩ :=
        (@manifestMade_eq_ok scope spec i hassertions hprofile manifest).1 hmanifest
      obtain ⟨-, rfl⟩ := issueArtifactMeshLocalReceipt_eq_ok.1 hmesh
      exact ⟨i, writerId, assigned, ⟨hevidence, hprofile, hassertions, hworld, hmatter, hday,
        hpolicy, hrole, hformat, hrecipients, hwholesome, hfamily, hadmitted, hwrite⟩, hwriter,
        hassigned,
        (Except.ok.inj h).symm⟩
    · rintro ⟨i, writerId, assigned, h, hwriter, hassigned, rfl⟩
      cases hevidence.symm.trans h.evidence
      have hrenderable := madePlan_renderable h.assertions h.profile
      have hplan := (madeRequest_allowed h.assertions h.profile hactive h.world h.matter).2
        ⟨h.recipientPolicy, h.role, h.format, h.recipients⟩
      refine ⟨i.profile, h.profile, i.assertions, h.assertions, scope.madeState spec i,
        ⟨snapshotRequest_allowed.2 ⟨h.world, h.matter, h.day⟩, rfl⟩, scope.madeView spec i,
        ⟨facts_known h.assertions, assertions_granted, rfl⟩, scope.madePlan spec i, ⟨hplan, rfl⟩,
        scope.madeProjection spec i, ⟨hrenderable, rfl⟩, scope.madeStaged spec i,
        renderMade_eq_ok.2 ⟨h.wholesome, rfl⟩, scope.madeShape spec i,
        (issueMade_eq_ok h.wholesome).2 rfl, scope.madeManifest spec i assigned,
        (manifestMade_eq_ok h.assertions h.profile).2
          ⟨⟨h.active, h.admitted, h.writable⟩, writerId, assigned, hwriter, hassigned, rfl⟩,
        _, issueArtifactMeshLocalReceipt_eq_ok.2 ⟨⟨rfl, rfl, rfl⟩, rfl⟩, rfl⟩

end CaseScope

end LawFirmDigitalTwin
