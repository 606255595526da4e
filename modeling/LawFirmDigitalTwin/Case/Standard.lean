import LawFirmDigitalTwin.Case.SelfValidation
import LawFirmDigitalTwin.Case.StandardDesigns
import LawFirmDigitalTwin.Population.Blueprints

/-!
# Requests to the standard registry

For the registry of `build_capability_registry` the compiler drafts every request that its own
check of requests lets through: every pass of the pipeline returns.
-/

namespace LawFirmDigitalTwin

open Raising

/-- A request to the standard registry. -/
def standardRequest (blueprint : CaseDesignBlueprint) (rulePack : RulePack)
    (compilerRevision : String := caseCompilerRevision) : CompileRequest where
  blueprint := blueprint
  registry := buildCapabilityRegistry
  rulePack := rulePack
  compilerRevision := compilerRevision

/-- The employment family is the only active one. -/
theorem active_standard {family : CaseFamilyManifest} (hmem : family ∈ buildCaseFamilyManifests)
    (hactive : family.readiness = "active_g2") : family = employmentFamily := by
  revert hactive
  revert family
  simp only [buildCaseFamilyManifests, List.forall_mem_cons, List.not_mem_nil, false_implies,
    implies_true, and_true]
  refine ⟨fun _ => rfl, ?_, ?_, ?_, ?_, ?_, ?_, ?_, ?_⟩
  all_goals exact fun h => absurd h (by decide)

section
variable {blueprint : CaseDesignBlueprint} {rulePack : RulePack} {compilerRevision : String}
  {family : CaseFamilyManifest}

/-- A bucket passes its check where the axis has it. -/
theorem checkBucket_eq_ok {r : CompileRequest} {axisId : String} :
    r.checkBucket axisId = .ok () ↔ ∃ bucketId axis, r.selected.get? axisId = some bucketId ∧
      r.registry.axisById.get? axisId = some axis ∧ bucketId ∈ axis.buckets.map (·.bucketId) := by
  unfold CompileRequest.checkBucket
  simp only [except_bind_eq_ok, PyDict.item_eq_ok]
  constructor
  · rintro ⟨bucketId, hbucket, axis, haxis, h⟩
    by_cases hmem : bucketId ∈ axis.buckets.map (·.bucketId)
    · exact ⟨bucketId, axis, hbucket, haxis, hmem⟩
    · rw [if_pos hmem] at h
      cases h
  · rintro ⟨bucketId, axis, hbucket, haxis, hmem⟩
    exact ⟨bucketId, hbucket, axis, haxis, by rw [if_neg (not_not.2 hmem)]; rfl⟩

/-- A request that is let through has a bucket of every axis. -/
theorem bucket_of_validate
    (h : (standardRequest blueprint rulePack compilerRevision).validate = .ok family) :
    family = employmentFamily ∧ ∀ axis ∈ buildPopulationAxes, ∃ bucketId,
      (standardRequest blueprint rulePack compilerRevision).selected.get? axis.axisId =
        some bucketId ∧ bucketId ∈ axis.buckets.map (·.bucketId) := by
  obtain ⟨hfound, hactive⟩ := CompileRequest.validate_eq_ok h
  refine ⟨active_standard (PyDict.mem_of_get?_keyed hfound).1 hactive, fun axis haxis => ?_⟩
  unfold CompileRequest.validate at h
  rw [hfound] at h
  simp only [except_bind_eq_ok, except_throw_if_eq_ok, ne_eq, not_not] at h
  obtain ⟨-, -, hkeys, checked, hchecked, -⟩ := h
  have haxisFound : (standardRequest blueprint rulePack compilerRevision).registry.axisById.get?
      axis.axisId = some axis :=
    PyDict.get?_keyed_of_mem (by decide : (buildPopulationAxes.map (·.axisId)).Nodup) haxis
  have hkey : axis.axisId ∈ (standardRequest blueprint rulePack compilerRevision).selected.keys := by
    rw [hkeys, Finmap.mem_keys, ← Finmap.lookup_isSome]
    exact Option.isSome_iff_exists.2 ⟨axis, haxisFound⟩
  have hlabel : axis.axisId ∈ Groups.distinct (blueprint.sealedAxisLabels.map (·.1)) := by
    rw [Groups.mem_distinct, ← List.mem_toFinset, ← PyDict.keys_ofEntries]
    exact hkey
  have hcheck : (standardRequest blueprint rulePack compilerRevision).checkBucket axis.axisId =
      .ok () := by
    obtain ⟨⟨⟩, hok⟩ := returns_mapM.1 ⟨checked, hchecked⟩ _ hlabel
    exact hok
  obtain ⟨bucketId, axis', hbucket, haxis', hmem⟩ := checkBucket_eq_ok.1 hcheck
  cases haxisFound.symm.trans haxis'
  exact ⟨bucketId, hbucket, hmem⟩

/-- The values that the buckets of a request choose. -/
structure Chosen (r : CompileRequest) (merits status : String × String) (evidenceShape
    proceduralQuality : String) : Prop where
  meritsEntry : merits ∈ meritsEntries
  statusEntry : status ∈ statusEntries
  proceduralBucket : proceduralQuality ∈ proceduralBuckets
  design : buildFactDesign r.selected = .ok (factsOf merits status proceduralQuality,
    conflictsOf (factsOf merits status proceduralQuality))
  specs : planSpecs r.selected = .ok (planSpecsOf evidenceShape)

/-- A valid request chooses a bucket of each of four axes. -/
theorem chosen_of_validate
    (h : (standardRequest blueprint rulePack compilerRevision).validate = .ok family) :
    ∃ merits status evidenceShape proceduralQuality, Chosen
      (standardRequest blueprint rulePack compilerRevision) merits status evidenceShape
        proceduralQuality := by
  obtain ⟨-, hbuckets⟩ := bucket_of_validate h
  simp only [buildPopulationAxes, List.forall_mem_cons, List.not_mem_nil, false_implies,
    implies_true, and_true] at hbuckets
  obtain ⟨⟨meritsPosture, hmerits, hmeritsMem⟩, ⟨evidenceShape, hshape, hshapeMem⟩,
    ⟨proceduralQuality, hquality, hqualityMem⟩, -⟩ := hbuckets
  have hmeritsFound : ∀ bucketId ∈ ["defense_favorable", "claimant_favorable", "balanced",
      "deeply_ambiguous"], ∃ merits ∈ meritsEntries, meritsValues.get? bucketId = some merits := by
    simp only [List.forall_mem_cons, List.not_mem_nil, false_implies, implies_true, and_true]
    decide
  have hstatusFound : ∀ bucketId ∈ ["directional_defense", "directional_claimant",
      "mixed_conflicting", "noisy_redundant", "sparse_or_corrupted"],
      ∃ status ∈ statusEntries, statusValues.get? bucketId = some status := by
    simp only [List.forall_mem_cons, List.not_mem_nil, false_implies, implies_true, and_true]
    decide
  obtain ⟨merits, hmeritsEntry, hmeritsValue⟩ := hmeritsFound meritsPosture hmeritsMem
  obtain ⟨status, hstatusEntry, hstatusValue⟩ := hstatusFound evidenceShape hshapeMem
  refine ⟨merits, status, evidenceShape, proceduralQuality, hmeritsEntry, hstatusEntry, hqualityMem,
    ?_, ?_⟩
  · unfold buildFactDesign
    simp only [except_bind_eq_ok, PyDict.item_eq_ok]
    exact ⟨meritsPosture, hmerits, evidenceShape, hshape, merits, hmeritsValue, status, hstatusValue,
      proceduralQuality, hquality, rfl⟩
  · unfold planSpecs
    simp only [except_bind_eq_ok, PyDict.item_eq_ok]
    exact ⟨evidenceShape, hshape, rfl⟩

end

/-! ## A pass over an artifact -/

/-- Whether the registry has a specialist for a phase. -/
def staffs (phase : MeshPhase) (capabilityId : String) : Bool :=
  match buildCapabilityRegistry.specialists.get? capabilityId with
  | some capability => decide (capability.kind = phase.kind)
  | none => false

/-- Whether the registry has the specialists for what a writer writes. -/
def staffed (writerId : String) : Bool :=
  staffs .planner plannerId && staffs .writer writerId && staffs .renderer rendererId &&
    checkerIds.all (staffs .checker)

/-- Whether the registry has what an artifact asks for. -/
def suits (spec : PlanSpec) : Bool :=
  match buildCapabilityRegistry.activeByFamily.get? spec.family, fullPersonas.get? spec.author with
  | some evidence, some profile =>
    decide (0 ≤ spec.day ∧ evidence.recipientPolicyId = "case_scoped_relationship_grant.v1" ∧
      profile.roleId ∈ evidence.allowedAuthorRoles ∧ spec.format ∈ evidence.allowedNativeFormats ∧
      (evidence.requiresRecipients = true → spec.recipients ≠ []) ∧ evidence.capabilityId ∈
        (buildDomainPack employmentFamily buildCapabilityRegistry).evidenceCapabilityIds ∧
      evidence.toJson.writable = true) &&
      ((writerByFamily evidence.familyId).map staffed).getD false
  | _, _ => false

/-- **The registry has what the artifacts of every design ask for.** -/
theorem suits_standard (evidenceShape : String) : ∀ spec ∈ planSpecsOf evidenceShape,
    suits spec = true := by
  have hsame : (planSpecsOf evidenceShape).map suits = (planSpecsOf "").map suits := rfl
  have hall : ∀ suited ∈ (planSpecsOf "").map suits, suited = true := by decide +kernel
  exact fun spec hspec => hall _ (hsame ▸ List.mem_map_of_mem hspec)

/-- A phase that is staffed has its assignment. -/
theorem staffs_returns {phase : MeshPhase} {capabilityId : String}
    (h : staffs phase capabilityId = true) (planHash : String) (independentOf : List String) :
    Returns (assignment buildCapabilityRegistry.specialists planHash capabilityId phase
      independentOf) := by
  unfold staffs at h
  cases hfound : buildCapabilityRegistry.specialists.get? capabilityId with
  | none => simp [hfound] at h
  | some capability =>
    simp only [hfound, decide_eq_true_iff] at h
    exact ⟨_, assignment_eq_ok.2 ⟨capability, hfound, h, rfl⟩⟩

/-- A writer that is staffed has all assignments. -/
theorem assignments_standard {writerId : String} (h : staffed writerId = true) (planHash : String) :
    Returns (assignments buildCapabilityRegistry.specialists planHash writerId) := by
  unfold staffed at h
  simp only [Bool.and_eq_true, List.all_eq_true] at h
  obtain ⟨⟨⟨hplanner, hwriter⟩, hrenderer⟩, hcheckers⟩ := h
  obtain ⟨planner, hplanner⟩ := staffs_returns hplanner planHash []
  obtain ⟨writer, hwriter⟩ := staffs_returns hwriter planHash []
  obtain ⟨renderer, hrenderer⟩ := staffs_returns hrenderer planHash []
  obtain ⟨checkers, hcheckers⟩ := returns_mapM.2 fun checkerId hchecker =>
    staffs_returns (hcheckers checkerId hchecker) planHash [writerId, rendererId]
  unfold assignments
  rw [hplanner, hwriter, hrenderer, hcheckers]
  exact returns_ok _

section
variable {r : CompileRequest} {merits status : String × String}
  {evidenceShape proceduralQuality : String}

/-- What an author writes in a design holds no placeholder. -/
theorem wholesome_standard (hchosen : Chosen r merits status evidenceShape proceduralQuality)
    {scope : CaseScope} {spec : PlanSpec} {i : ArtifactInputs}
    (hfacts : scope.facts = factsOf merits status proceduralQuality)
    (hprofile : fullPersonas.get? spec.author = some i.profile)
    (hassertions : scope.authorAssertions spec = .ok i.assertions) :
    Wholesome (scope.madeProjection spec i) := by
  have hline {line : String} (h : lineWholesome line = true) : ∀ word ∈ placeholderWords,
      textContains (lowerText line) word = false := fun word hword => by
    simpa using List.all_eq_true.1 h word hword
  have hvoice : voiceLine (scope.madeProjection spec i).personaView = "Author role: " ++
      i.profile.roleId ++ "; register: " ++ i.profile.voice.register ++ "." := by
    have hkeys : (scope.madeState spec i).voiceConstraints.map (·.1) =
        ["register", "sentence_style", "directness", "organization", "revision_habit",
          "signature"] := rfl
    have hregister : (PyDict.ofEntries (scope.madeState spec i).voiceConstraints).get? "register" =
        some i.profile.voice.register :=
      PyDict.get?_ofEntries_of_mem (hkeys ▸ by decide) (.head _)
    have hunfold : voiceLine (scope.madeProjection spec i).personaView = "Author role: " ++
      i.profile.roleId ++ "; register: " ++ ((PyDict.ofEntries
        (scope.madeState spec i).voiceConstraints).get? "register").getD "bounded" ++ "." := rfl
    rw [hunfold, hregister]
    rfl
  have hassertionLine : ∀ a ∈ (scope.madeProjection spec i).allowedAssertions,
      lineWholesome (assertionLine a) = true := by
    intro a ha
    obtain ⟨f, hf, day, rfl, -⟩ := CaseScope.firstLearned_of_authorAssertions hassertions a
      (CaseScope.mem_madeAssertions.1 ha)
    rw [hfacts] at hf
    have hstated := mem_statements hchosen.meritsEntry hchosen.statusEntry hchosen.proceduralBucket
      f hf
    have htext : assertionLine (f.assertion scope.worldNamespace scope.matterNamespace spec.author
        day) = titleText (spaced f.factId) ++ ": " ++ spaced f.value ++ "." := rfl
    rw [htext]
    exact statements_wholesome (f.factId, f.value) hstated
  have hvoiceWholesome := voice_wholesome _ (PyDict.mem_of_get?_ofEntries hprofile)
  unfold Wholesome bodyParts
  generalize (scope.madeProjection spec i).allowedAssertions = assertions at hassertionLine
  simp only [List.forall_mem_append, List.forall_mem_cons, List.not_mem_nil, false_implies,
    implies_true, and_true, hvoice]
  refine ⟨⟨⟨hline (channelOpener_wholesome _), hline hvoiceWholesome⟩, ?_⟩, hline closing_wholesome⟩
  intro line hmem
  split at hmem
  · rw [List.mem_singleton.1 hmem]
    exact hline ordinary_wholesome
  · obtain ⟨a, ha, rfl⟩ := List.mem_map.1 hmem
    exact hline (hassertionLine a ha)

/-- **A pass returns** for every artifact of a design. -/
theorem compileArtifact_returns
    (hchosen : Chosen r merits status evidenceShape proceduralQuality) {scope : CaseScope}
    (hfacts : scope.facts = factsOf merits status proceduralQuality)
    (hregistry : scope.registry = buildCapabilityRegistry)
    (hfamily : scope.family = employmentFamily) (hworld : scope.worldNamespace ≠ "")
    (hmatter : scope.matterNamespace ≠ "") {spec : PlanSpec}
    (hspec : spec ∈ planSpecsOf evidenceShape) : Returns (scope.compileArtifact spec) := by
  have hsuits := suits_standard evidenceShape spec hspec
  unfold suits at hsuits
  cases hevidence : buildCapabilityRegistry.activeByFamily.get? spec.family with
  | none => simp [hevidence] at hsuits
  | some evidence =>
    cases hprofile : fullPersonas.get? spec.author with
    | none => simp [hevidence, hprofile] at hsuits
    | some profile =>
      simp only [hevidence, hprofile, Bool.and_eq_true, decide_eq_true_iff] at hsuits
      obtain ⟨⟨hday, hpolicy, hrole, hformat, hrecipients, hadmitted, hwritable⟩, hstaffed⟩ :=
        hsuits
      cases hwriter : writerByFamily evidence.familyId with
      | none => simp [hwriter] at hstaffed
      | some writerId =>
        rw [hwriter] at hstaffed
        obtain ⟨assertions, hassertions⟩ := assertionsFor_standard hchosen.meritsEntry
          hchosen.statusEntry hchosen.proceduralBucket hspec scope.worldNamespace
            scope.matterNamespace
        have hmade : scope.authorAssertions spec = .ok assertions := by
          unfold CaseScope.authorAssertions
          rw [hfacts, hassertions]
          rfl
        let i : ArtifactInputs := ⟨evidence, profile, assertions⟩
        obtain ⟨assigned, hassigned⟩ := assignments_standard hstaffed
          (scope.madePlan spec i).planHash
        have hcompilable : scope.Compilable spec i :=
          { evidence := hregistry ▸ hevidence
            profile := hprofile
            assertions := hmade
            world := hworld
            matter := hmatter
            day := hday
            recipientPolicy := hpolicy
            role := hrole
            format := hformat
            recipients := hrecipients
            wholesome := wholesome_standard hchosen hfacts hprofile hmade
            active := hfamily ▸ rfl
            admitted := hfamily ▸ hregistry ▸ hadmitted
            writable := hwritable }
        exact ⟨_, CaseScope.compileArtifact_eq_ok.2 ⟨i, writerId, assigned, hcompilable, hwriter,
          hregistry ▸ hassigned, rfl⟩⟩

/-- The capability of an artifact is named after its family. -/
theorem capabilityId_standard {scope : CaseScope} (hregistry : scope.registry = buildCapabilityRegistry)
    {spec : PlanSpec} {a : CompiledArtifact} (h : scope.compileArtifact spec = .ok a) :
    a.plan.capabilityId = "evidence." ++ spec.family ++ ".v1" := by
  obtain ⟨i, -, -, hi, -, -, rfl⟩ := CaseScope.compileArtifact_eq_ok.1 h
  obtain ⟨hmem, -, hfamily⟩ := CaseScope.activeByFamily_found hi.evidence
  have hids : ∀ e ∈ buildEvidenceCapabilities,
      e.capabilityId = "evidence." ++ e.familyId ++ ".v1" := by
    simp only [buildEvidenceCapabilities, List.forall_mem_cons, List.not_mem_nil, false_implies,
      implies_true, and_true]
    exact ⟨rfl, rfl, rfl, rfl, rfl, rfl, rfl, rfl⟩
  rw [hregistry] at hmem
  exact (hids _ hmem).trans (by rw [hfamily])

end

section
variable {blueprint : CaseDesignBlueprint} {rulePack : RulePack} {compilerRevision : String}
  {family : CaseFamilyManifest}

/-- Of the sealed state of a request that is let through, only the digest of the rule pack may be
refused. -/
theorem sealedState_eq
    (h : (standardRequest blueprint rulePack compilerRevision).validate = .ok family)
    (facts : List CompiledFact) (conflicts : List SealedConflictSpec) :
    ∃ sealed, (standardRequest blueprint rulePack compilerRevision).sealedState family facts
      conflicts = (do checkWritable rulePack.toJson; return sealed) := by
  obtain ⟨-, hbuckets⟩ := bucket_of_validate h
  simp only [buildPopulationAxes, List.forall_mem_cons, List.not_mem_nil, false_implies,
    implies_true, and_true] at hbuckets
  obtain ⟨⟨_, hmerits, -⟩, -, ⟨_, hprocedural, -⟩, ⟨_, hrepresentation, -⟩, ⟨_, htrack, -⟩⟩ :=
    hbuckets
  unfold CompileRequest.sealedState
  rw [PyDict.item_eq_ok.2 hmerits, PyDict.item_eq_ok.2 htrack, PyDict.item_eq_ok.2 hprocedural,
    PyDict.item_eq_ok.2 hrepresentation]
  exact ⟨_, rfl⟩

/-- No namespace is empty. -/
theorem namespaceOf_ne_empty (r : CompileRequest) {label : String} (surface : String)
    (h : label ≠ "") : r.namespaceOf label surface ≠ "" := by
  unfold CompileRequest.namespaceOf
  intro hempty
  exact h (String.append_eq_empty_iff.1 hempty).1

/-- Of the draft of a request that is let through, only the digests of blueprint and rule pack may
be refused. -/
theorem draft_eq
    (h : (standardRequest blueprint rulePack compilerRevision).validate = .ok family) :
    ∃ c, draftCaseDesign (standardRequest blueprint rulePack compilerRevision) = (do
      checkWritable blueprint.toJson
      checkWritable rulePack.toJson
      return c) := by
  obtain ⟨rfl, -⟩ := bucket_of_validate h
  obtain ⟨merits, status, evidenceShape, proceduralQuality, hchosen⟩ := chosen_of_validate h
  let r := standardRequest blueprint rulePack compilerRevision
  let facts := factsOf merits status proceduralQuality
  obtain ⟨artifacts, hartifacts⟩ := returns_mapM.2 fun spec hspec =>
    @compileArtifact_returns r merits status evidenceShape proceduralQuality hchosen
      (r.caseScope facts employmentFamily) rfl rfl rfl
        (namespaceOf_ne_empty r "world" (by decide)) (namespaceOf_ne_empty r "matter" (by decide))
          spec hspec
  have hpasses := except_mapM_eq_ok.1 hartifacts
  have hcapabilities : (artifacts.map (·.plan)).map (·.capabilityId) =
      ((planSpecsOf evidenceShape).map (·.family)).map fun id => "evidence." ++ id ++ ".v1" := by
    rw [List.map_map, List.map_map]
    refine (List.forall₂_eq_eq_eq ▸ List.forall₂_map_left_iff.2 (List.forall₂_map_right_iff.2
      (hpasses.flip.imp fun a spec hpass => ?_)))
    exact capabilityId_standard rfl hpass
  have hrequired : (employmentFamily.requiredEvidenceCapabilities.map fun item =>
      "evidence." ++ item ++ ".v1") ⊆ (artifacts.map (·.plan)).map (·.capabilityId) := by
    have hfamilies : (planSpecsOf evidenceShape).map (·.family) = (planSpecsOf "").map (·.family) :=
      rfl
    have hsubset : employmentFamily.requiredEvidenceCapabilities ⊆
        (planSpecsOf "").map (·.family) := by decide
    rw [hcapabilities, hfamilies]
    exact List.map_subset _ hsubset
  have hcapacity : ¬ ((artifacts.map (·.plan)).length : Int) > employmentFamily.maxArtifacts := by
    rw [List.length_map, ← hpasses.length_eq]
    exact (by decide : ¬ (9 : Int) > 250)
  obtain ⟨operating, hoperating⟩ : Returns (buildOperatingProjection employmentFamily.familyId
      r.rulePack (artifacts.map (·.personaState)) (artifacts.map (·.plan)) r.compilerRevision) := by
    refine (returns_bind_of_forall fun summaries => returns_pure _).2 (returns_mapM.2 ?_)
    intro plan hplan
    obtain ⟨a, ha, rfl⟩ := List.mem_map.1 (List.mem_filter.1 hplan).1
    obtain ⟨spec, -, hpass⟩ := (mem_of_except_mapM hartifacts a).1 ha
    exact returns_map.1 ⟨_, (summaryOf_compileArtifact hpass).1⟩
  obtain ⟨sealed, hsealed⟩ := sealedState_eq h facts (conflictsOf facts)
  have hfamily : checkWritable employmentFamily.toJson = .ok () :=
    checkWritable_eq_ok.2 (by decide)
  refine ⟨r.compilation sealed operating (buildEvaluationProjection blueprint (conflictsOf facts)
    facts compilerRevision) artifacts, ?_⟩
  unfold draftCaseDesign
  rw [h]
  refine congrArg (checkWritable blueprint.toJson >>= ·) (funext fun _ => ?_)
  rw [hchosen.design, ok_bind]
  dsimp only
  rw [hfamily, ok_bind, hchosen.specs, ok_bind, hartifacts, ok_bind,
    if_neg (not_not.2 hrequired), if_neg hcapacity, hoperating, ok_bind, hsealed]
  cases checkWritable rulePack.toJson <;> rfl

/-- A request that is let through is drafted, where blueprint and rule pack can be hashed. -/
theorem draft_returns
    (h : (standardRequest blueprint rulePack compilerRevision).validate = .ok family)
    (hblueprint : blueprint.toJson.writable = true) (hrules : rulePack.toJson.writable = true) :
    Returns (draftCaseDesign (standardRequest blueprint rulePack compilerRevision)) := by
  obtain ⟨c, hc⟩ := draft_eq h
  rw [hc]
  exact returns_bind.2 ⟨(), checkWritable_eq_ok.2 hblueprint,
    returns_bind.2 ⟨(), checkWritable_eq_ok.2 hrules, returns_ok c⟩⟩

/-- **Drafting refuses a standard request exactly as the check of requests does**, and where
blueprint or rule pack cannot be hashed. -/
theorem draft_standard (blueprint : CaseDesignBlueprint) (rulePack : RulePack)
    (compilerRevision : String) :
    (draftCaseDesign (standardRequest blueprint rulePack compilerRevision)).map (fun _ => ()) = (do
      let _ ← (standardRequest blueprint rulePack compilerRevision).validate
      checkWritable blueprint.toJson
      checkWritable rulePack.toJson) := by
  cases hvalidate : (standardRequest blueprint rulePack compilerRevision).validate with
  | error e =>
    unfold draftCaseDesign
    rw [hvalidate]
    rfl
  | ok family =>
    obtain ⟨c, hc⟩ := draft_eq hvalidate
    rw [hc]
    generalize checkWritable blueprint.toJson = hblueprint
    generalize checkWritable rulePack.toJson = hrules
    cases hblueprint <;> cases hrules <;> rfl

end

end LawFirmDigitalTwin
