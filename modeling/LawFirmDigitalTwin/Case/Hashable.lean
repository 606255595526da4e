import LawFirmDigitalTwin.Case.Rederivation
import LawFirmDigitalTwin.Case.Separation

/-!
# The integers of a draft

A digest is refused where an integer has too many digits to be written. What a draft takes from its
request is hashed before it is used, and the days, the counts and the revisions of its own parts are
those of the compiler's tables: as a whole, a draft can be written (`writable_of_draftCaseDesign`).
-/

namespace LawFirmDigitalTwin

open Raising

/-! ## The integers of each part -/

@[simp] theorem Json.writable_pairs (items : List (String × String)) :
    (Json.pairs items).writable = true := by
  refine Json.writable_list.2 fun v hv => ?_
  obtain ⟨e, -, rfl⟩ := List.mem_map.1 hv
  exact Json.writable_strs _

@[simp] theorem Json.writable_optional (item : Option String) :
    (Json.optional item).writable = true := by cases item <;> rfl

@[simp] theorem FactAssertion.writable_toJson {a : FactAssertion} :
    a.toJson.writable = true ↔ writableInt a.learnedDay = true := by simp [toJson]

@[simp] theorem writable_assertionsJson {assertions : List FactAssertion} :
    (assertionsJson assertions).writable = true ↔
      ∀ a ∈ assertions, writableInt a.learnedDay = true := by simp [assertionsJson]

@[simp] theorem ArtifactVersionLineage.writable_toJson {l : ArtifactVersionLineage} :
    l.toJson.writable = true ↔ writableInt l.revision = true := by simp [toJson]

@[simp] theorem PersonaStateSnapshot.writable_toJson {s : PersonaStateSnapshot} :
    s.toJson.writable = true ↔ writableInt s.asOfDay = true ∧ writableInt s.revision = true := by
  simp [toJson]

@[simp] theorem RendererPersonaView.writable_toJson {v : RendererPersonaView} :
    v.toJson.writable = true ↔ writableInt v.asOfDay = true := by simp [toJson]

@[simp] theorem ArtifactPlan.writable_toJson {p : ArtifactPlan} :
    p.toJson.writable = true ↔ writableInt p.createdDay = true ∧
      (∀ a ∈ p.allowedAssertions, writableInt a.learnedDay = true) ∧
        writableInt p.lineage.revision = true := by simp [toJson]

@[simp] theorem RendererArtifactProjection.writable_toJson {p : RendererArtifactProjection} :
    p.toJson.writable = true ↔ writableInt p.createdDay = true ∧
      (∀ a ∈ p.allowedAssertions, writableInt a.learnedDay = true) ∧
        writableInt p.personaView.asOfDay = true ∧ writableInt p.lineage.revision = true := by
  simp [toJson]

@[simp] theorem StagedArtifact.writable_toJson {a : StagedArtifact} :
    a.toJson.writable = true ↔ writableInt a.createdDay = true ∧
      (∀ item ∈ a.assertions, writableInt item.learnedDay = true) ∧
        writableInt a.lineage.revision = true := by simp [toJson]

@[simp] theorem LocalArtifactShapeReceipt.writable_toJson (r : LocalArtifactShapeReceipt) :
    r.toJson.writable = true := by simp [toJson]

@[simp] theorem SpecialistAssignment.writable_toJson (a : SpecialistAssignment) :
    a.toJson.writable = true := by simp [toJson]

@[simp] theorem ArtifactProductionManifest.writable_toJson (m : ArtifactProductionManifest) :
    m.toJson.writable = true := by simp [toJson]

@[simp] theorem ArtifactMeshLocalReceipt.writable_toJson (r : ArtifactMeshLocalReceipt) :
    r.toJson.writable = true := by simp [toJson]

@[simp] theorem SealedDesignLabel.writable_toJson (l : SealedDesignLabel) :
    l.toJson.writable = true := by simp [toJson]

@[simp] theorem SealedConflictSpec.writable_toJson (c : SealedConflictSpec) :
    c.toJson.writable = true := by simp [toJson]

@[simp] theorem CompiledFact.writable_toJson {f : CompiledFact} :
    f.toJson.writable = true ↔
      writableInt f.occursDay = true ∧ ∀ k ∈ f.knownBy, writableInt k.2 = true := by
  have hknown : (Json.list (f.knownBy.map fun k => .list [.str k.1, .int k.2])).writable = true ↔
      ∀ k ∈ f.knownBy, writableInt k.2 = true := by
    rw [Json.writable_list, List.forall_mem_map]
    exact forall₂_congr fun k _ => by simp
  simp only [toJson, Json.writable_dict, List.forall_mem_cons, hknown]
  simp

@[simp] theorem SealedCaseState.writable_toJson {s : SealedCaseState} :
    s.toJson.writable = true ↔ ∀ f ∈ s.facts, f.toJson.writable = true := by simp [toJson]

@[simp] theorem EvaluationCaseProjection.writable_toJson (p : EvaluationCaseProjection) :
    p.toJson.writable = true := by simp [toJson]

@[simp] theorem OperatingCaseProjection.writable_toJson {p : OperatingCaseProjection} :
    p.toJson.writable = true ↔
      (∀ a ∈ p.initialArtifacts, writableInt a.createdDay = true) ∧
        (∀ f ∈ p.actorFrontiers, writableInt f.asOfDay = true ∧
          writableInt f.knownFactCount = true ∧ writableInt f.authorityCount = true) ∧
          writableInt p.plannedArtifactCount = true := by
  simp [toJson, payload, OperatingArtifactSummary.toJson, OperatingActorFrontier.toJson]

/-- The integers of a compilation. -/
theorem CaseCompilation.writable_toJson {c : CaseCompilation} :
    c.toJson.writable = true ↔ c.sourceBlueprint.toJson.writable = true ∧
      c.sealed.toJson.writable = true ∧ c.operating.toJson.writable = true ∧
        (∀ s ∈ c.personaStates, s.toJson.writable = true) ∧
          (∀ v ∈ c.rendererViews, v.toJson.writable = true) ∧
            (∀ p ∈ c.artifactPlans, p.toJson.writable = true) ∧
              (∀ p ∈ c.rendererProjections, p.toJson.writable = true) ∧
                ∀ a ∈ c.stagedArtifacts, a.toJson.writable = true := by
  simp [toJson]

/-- The identities that are digests hold no integer. -/
theorem OperatingCaseProjection.writable_erased (p : OperatingCaseProjection) :
    p.erased.toJson.writable = true ↔ p.toJson.writable = true := by
  simp [erased, OperatingArtifactSummary.erased, OperatingActorFrontier.erased]

/-! ## The tables of the compiler -/

/-- A claim can be written where its days can. -/
theorem writable_claim {factId value domain : String} {occursDay : Int}
    {knownBy : List (String × Int)} (hday : writableInt occursDay = true)
    (hknown : ∀ k ∈ knownBy, writableInt k.2 = true) :
    (claim factId value occursDay domain knownBy).toJson.writable = true :=
  CompiledFact.writable_toJson.2 ⟨hday, fun k hk =>
    hknown k ((List.perm_insertionSort _ knownBy).mem_iff.1 hk)⟩

/-- The axes choose values, and no day. -/
theorem writable_factsOf (merits status : String × String) (proceduralQuality : String) :
    ∀ f ∈ factsOf merits status proceduralQuality, f.toJson.writable = true := by
  simp only [factsOf, List.forall_mem_cons, List.not_mem_nil, false_implies, implies_true, and_true]
  refine ⟨?_, ?_, ?_, ?_, ?_, ?_, ?_, ?_, ?_, ?_, ?_⟩
  all_goals exact writable_claim (by decide) (by decide)

/-- The days of the specs can be written. -/
theorem writable_planSpecsOf (evidenceShape : String) :
    ∀ spec ∈ planSpecsOf evidenceShape, writableInt spec.day = true := by
  have hsame : (planSpecsOf evidenceShape).map (·.day) = [0, 1, 35, 36, 37, 38, 40, 44, 120] := rfl
  have hall : ∀ day ∈ ([0, 1, 35, 36, 37, 38, 40, 44, 120] : List Int), writableInt day = true := by
    decide
  exact fun spec hspec => hall _ (hsame ▸ List.mem_map_of_mem hspec)

/-- What the operating side is shown can be written. -/
theorem writable_operatingShape (registry : CapabilityRegistry) (rulePack : RulePack)
    (caseFamilyId compilerRevision : String) :
    (operatingShape registry rulePack caseFamilyId compilerRevision).toJson.writable = true := by
  rw [OperatingCaseProjection.writable_toJson]
  simp only [operatingShape, initialSummary, List.forall_mem_cons, List.not_mem_nil, false_implies,
    implies_true, and_true]
  decide

/-! ## A pass over an artifact -/

section
variable {scope : CaseScope} {spec : PlanSpec} {a : CompiledArtifact}

/-- The parts of an artifact that hold integers can be written. -/
structure CompiledArtifact.Writable (a : CompiledArtifact) : Prop where
  personaState : a.personaState.toJson.writable = true
  view : a.view.toJson.writable = true
  plan : a.plan.toJson.writable = true
  projection : a.projection.toJson.writable = true
  stagedArtifact : a.stagedArtifact.toJson.writable = true

/-- An author learned what he states on a day of a fact. -/
theorem writable_learnedDay (hfacts : ∀ f ∈ scope.facts, f.toJson.writable = true)
    {assertions : List FactAssertion} (h : scope.authorAssertions spec = .ok assertions) :
    ∀ a ∈ assertions, writableInt a.learnedDay = true := by
  intro a ha
  obtain ⟨f, hf, day, rfl, hknown, -⟩ := CaseScope.firstLearned_of_authorAssertions h a ha
  exact (CompiledFact.writable_toJson.1 (hfacts f hf)).2 _ hknown

/-- What a pass of the compiler returns can be written. -/
theorem writable_compileArtifact (hfacts : ∀ f ∈ scope.facts, f.toJson.writable = true)
    (hday : writableInt spec.day = true) (h : scope.compileArtifact spec = .ok a) : a.Writable := by
  obtain ⟨i, _, assigned, hi, -, -, rfl⟩ := CaseScope.compileArtifact_eq_ok.1 h
  have hfirst : writableInt 1 = true := by decide
  have hlearned : ∀ a ∈ (scope.madeRequest spec i).assertions, writableInt a.learnedDay = true :=
    fun a ha => writable_learnedDay hfacts hi.assertions a (CaseScope.mem_madeAssertions.1 ha)
  exact
    { personaState := PersonaStateSnapshot.writable_toJson.2 ⟨hday, hfirst⟩
      view := RendererPersonaView.writable_toJson.2 hday
      plan := ArtifactPlan.writable_toJson.2 ⟨hday, hlearned, hfirst⟩
      projection := RendererArtifactProjection.writable_toJson.2 ⟨hday, hlearned, hday, hfirst⟩
      stagedArtifact := StagedArtifact.writable_toJson.2 ⟨hday, hlearned, hfirst⟩ }

end

/-- **A draft can be written**: its digest as a whole is not refused. -/
theorem writable_of_draftCaseDesign {r : CompileRequest} {c : CaseCompilation}
    (h : draftCaseDesign r = .ok c) : c.toJson.writable = true := by
  have hoperating : c.operating.toJson.writable = true := by
    rw [← OperatingCaseProjection.writable_erased, operating_of_draftCaseDesign h]
    exact writable_operatingShape _ _ _ _
  unfold draftCaseDesign at h
  simp only [except_bind_eq_ok, except_throw_if_eq_ok, checkWritable_eq_ok] at h
  obtain ⟨family, -, -, hblueprint, design, hdesign, -, -, specs, hspecs, artifacts, hartifacts, -, -,
    operating, -, sealed, hsealed, h⟩ := h
  obtain ⟨merits, status, proceduralQuality, rfl⟩ := buildFactDesign_eq_ok hdesign
  obtain ⟨evidenceShape, rfl⟩ := planSpecs_eq_ok hspecs
  obtain rfl := Except.ok.inj h
  have hfacts := writable_factsOf merits status proceduralQuality
  have hsealedFacts : sealed.facts = factsOf merits status proceduralQuality := by
    unfold CompileRequest.sealedState at hsealed
    simp only [except_bind_eq_ok] at hsealed
    obtain ⟨_, -, _, -, _, -, _, -, -, -, hsealed⟩ := hsealed
    obtain rfl := Except.ok.inj hsealed
    rfl
  have hpasses : ∀ a ∈ artifacts, a.Writable := by
    intro a ha
    obtain ⟨spec, hspec, hpass⟩ := (mem_of_except_mapM hartifacts a).1 ha
    exact writable_compileArtifact hfacts (writable_planSpecsOf evidenceShape spec hspec) hpass
  refine CaseCompilation.writable_toJson.2 ⟨hblueprint, ?_, hoperating,
    List.forall_mem_map.2 fun a ha => (hpasses a ha).personaState,
    List.forall_mem_map.2 fun a ha => (hpasses a ha).view,
    List.forall_mem_map.2 fun a ha => (hpasses a ha).plan,
    List.forall_mem_map.2 fun a ha => (hpasses a ha).projection,
    List.forall_mem_map.2 fun a ha => (hpasses a ha).stagedArtifact⟩
  have hparts : (r.compilation sealed operating (buildEvaluationProjection r.blueprint
    (conflictsOf (factsOf merits status proceduralQuality))
    (factsOf merits status proceduralQuality) r.compilerRevision) artifacts).sealed = sealed := rfl
  rw [hparts, SealedCaseState.writable_toJson, hsealedFacts]
  exact hfacts

end LawFirmDigitalTwin
