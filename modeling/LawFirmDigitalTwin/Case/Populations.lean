import LawFirmDigitalTwin.Case.Leaks

/-!
# Compiling a population

`compile_population_fixture` of `case_compiler.py` compiles the blueprints of a population one after
the other. Nothing but two parts with one truncated digest can keep it from returning a compilation
of every blueprint.
-/

namespace LawFirmDigitalTwin

open Raising

/-- `case_compiler.py` `compile_population_fixture`. -/
def compilePopulationFixture (seed : String) (count : Int) (rulePack : RulePack)
    (registry : CapabilityRegistry := buildCapabilityRegistry) :
    Except ContractError (List CaseCompilation) := do
  let blueprints ← (buildPopulationBlueprints seed count).mapError ContractError.ofPyError
  blueprints.mapM fun blueprint =>
    compileCaseDesign { blueprint := blueprint, registry := registry, rulePack := rulePack }

/-! ## The requests of a population -/

section
variable {seed : String} {b : CaseDesignBlueprint} {rulePack : RulePack} {compilerRevision : String}
  {c : CaseCompilation}

/-- The check of requests lets a drawn blueprint through. -/
theorem Drawn.validate (h : Drawn seed b) :
    (standardRequest b rulePack compilerRevision).validate = .ok employmentFamily := by
  obtain ⟨hnodup, hfound⟩ := found_of_drawn h.buckets
  have hfamily : (standardRequest b rulePack compilerRevision).registry.familyById.get?
      b.caseFamilyId = some employmentFamily := by
    rw [h.family]
    exact PyDict.get?_keyed_of_mem (by decide : (buildCaseFamilyManifests.map (·.familyId)).Nodup)
      (.head _)
  have hids : b.sealedAxisLabels.map (·.1) = buildPopulationAxes.map (·.axisId) :=
    List.forall₂_eq_eq_eq ▸ List.forall₂_map_left_iff.2 (List.forall₂_map_right_iff.2
      (h.buckets.imp fun _ _ hlabel => hlabel.1))
  have hkeys : (standardRequest b rulePack compilerRevision).selected.keys =
      (standardRequest b rulePack compilerRevision).registry.axisById.keys := by
    unfold CompileRequest.selected CapabilityRegistry.axisById
    rw [PyDict.keys_ofEntries, PyDict.keys_ofEntries, List.map_map]
    exact congrArg List.toFinset hids
  have hchecks : ∀ axisId ∈ Groups.distinct (b.sealedAxisLabels.map (·.1)),
      Returns ((standardRequest b rulePack compilerRevision).checkBucket axisId) := by
    intro axisId hmem
    rw [Groups.mem_distinct, hids] at hmem
    obtain ⟨axis, haxis, rfl⟩ := List.mem_map.1 hmem
    obtain ⟨bucketId, hbucket, hin⟩ := hfound axis haxis
    exact ⟨(), checkBucket_eq_ok.2 ⟨bucketId, axis, hbucket,
      PyDict.get?_keyed_of_mem (by decide : (buildPopulationAxes.map (·.axisId)).Nodup) haxis,
        hin⟩⟩
  obtain ⟨checked, hchecked⟩ := returns_mapM.2 hchecks
  have hactive : employmentFamily.readiness = "active_g2" := rfl
  have hboundary : ¬ (employmentFamily.syntheticOnly = false ∨
      employmentFamily.fidelityLevel ≠ "G2") := by decide
  have hblueprint : (standardRequest b rulePack compilerRevision).blueprint = b := rfl
  unfold CompileRequest.validate
  rw [hblueprint, hfamily]
  dsimp only
  rw [if_neg (not_not.2 hactive), if_neg hboundary, if_neg (not_not.2 hkeys), hchecked]
  rfl

/-- Its labels are buckets of the axes. -/
theorem Drawn.mem_bucketIds (h : Drawn seed b) :
    ∀ label ∈ b.sealedAxisLabels, label.2 ∈ bucketIds := by
  intro label hlabel
  obtain ⟨i, hi, rfl⟩ := List.mem_iff_getElem.1 hlabel
  have hlt : i < buildPopulationAxes.length := h.buckets.length_eq ▸ hi
  obtain ⟨-, hbucket⟩ := h.buckets.get hi hlt
  rw [List.get_eq_getElem, List.get_eq_getElem] at hbucket
  exact List.mem_flatMap.2 ⟨_, List.getElem_mem hlt, hbucket⟩

/-- A draft keeps the blueprint that it was made of. -/
theorem sourceBlueprint_of_draft {r : CompileRequest} (h : draftCaseDesign r = .ok c) :
    c.sourceBlueprint = r.blueprint := by
  unfold draftCaseDesign at h
  simp only [except_bind_eq_ok, except_throw_if_eq_ok] at h
  obtain ⟨_, -, -, -, _, -, -, -, _, -, _, -, -, -, _, -, _, -, h⟩ := h
  obtain rfl := Except.ok.inj h
  rfl

/-- The capabilities that a standard draft uses. -/
theorem capabilityIds_of_draft
    (h : draftCaseDesign (standardRequest b rulePack compilerRevision) = .ok c) :
    c.artifactPlans.map (·.capabilityId) =
      ((planSpecsOf "").map (·.family)).map fun id => "evidence." ++ id ++ ".v1" := by
  unfold draftCaseDesign at h
  simp only [except_bind_eq_ok, except_throw_if_eq_ok] at h
  obtain ⟨family, -, -, -, design, -, -, -, specs, hspecs, artifacts, hartifacts, -, -, operating,
    -, sealed, -, h⟩ := h
  obtain rfl := Except.ok.inj h
  obtain ⟨evidenceShape, rfl⟩ := planSpecs_eq_ok hspecs
  have hplans : ((standardRequest b rulePack compilerRevision).compilation sealed operating
      (buildEvaluationProjection b design.2 design.1 compilerRevision) artifacts).artifactPlans =
    artifacts.map (·.plan) := rfl
  have hfamilies : (planSpecsOf evidenceShape).map (·.family) = (planSpecsOf "").map (·.family) :=
    rfl
  have hpasses := except_mapM_eq_ok.1 hartifacts
  have hcapabilities : (artifacts.map (·.plan)).map (·.capabilityId) =
      ((planSpecsOf evidenceShape).map (·.family)).map fun id => "evidence." ++ id ++ ".v1" := by
    rw [List.map_map, List.map_map]
    exact List.forall₂_eq_eq_eq ▸ List.forall₂_map_left_iff.2 (List.forall₂_map_right_iff.2
      (hpasses.flip.imp fun a spec hpass => capabilityId_standard rfl hpass))
  rw [← hfamilies, ← hcapabilities]
  exact congrArg (List.map (·.capabilityId)) hplans

/-- **A drawn blueprint compiles**, unless two parts of its draft have one identity. -/
theorem compile_drawn (h : Drawn seed b) (hordinal : writableInt b.ordinal = true)
    (hdistinct : ∀ c, draftCaseDesign (standardRequest b placeholderDataFirstRulePack) = .ok c →
      c.Distinct) :
    ∃ c, compileCaseDesign (standardRequest b placeholderDataFirstRulePack) = .ok c ∧
      c.sourceBlueprint = b := by
  have hblueprint : b.toJson.writable = true := by simp [CaseDesignBlueprint.toJson, hordinal]
  obtain ⟨c, hc⟩ := draft_returns (@Drawn.validate seed b placeholderDataFirstRulePack
    caseCompilerRevision h) hblueprint (by decide)
  have hadmissible : c.Admissible buildCapabilityRegistry :=
    { leaks := leakFindings_standard hc h.family h.mem_bucketIds
      distinct := hdistinct c hc
      capabilities := by decide
      limits := by
        rw [capabilityIds_of_draft hc]
        decide +kernel }
  rcases compileCaseDesign_eq_draft (standardRequest b placeholderDataFirstRulePack) with
    heq | ⟨c', hc', hnot⟩
  · exact ⟨c, heq.trans hc, sourceBlueprint_of_draft hc⟩
  · cases hc.symm.trans hc'
    exact absurd hadmissible hnot

end

/-- A population has at least one case. -/
theorem count_pos_of_blueprints {seed : String} {count : Int} {blueprints : List CaseDesignBlueprint}
    (h : buildPopulationBlueprints seed count = .ok blueprints) : 1 ≤ count := by
  by_contra hcount
  have hallocate (axis : PopulationAxis) : allocateAxis axis seed count =
      .error (.valueError "population count must be positive") := by
    unfold allocateAxis
    rw [if_pos (by omega)]
    rfl
  have hassign : (buildPopulationAxes.mapM fun axis => do
      let labels ← allocateAxis axis seed count
      return (axis.axisId, labels) : Except PyError _) =
        .error (.valueError "population count must be positive") := by
    unfold buildPopulationAxes
    rw [List.mapM_cons, hallocate]
    rfl
  unfold buildPopulationBlueprints at h
  simp only [hassign] at h
  split at h
  · cases h
  · split_ifs at h <;> cases h

/-- A smaller number has no more digits. -/
theorem writableInt_of_lt {i j : Int} (hi : 0 ≤ i) (hlt : i < j) (hj : writableInt j = true) :
    writableInt i = true := by
  rw [writableInt_iff] at hj ⊢
  omega

/-- A blueprint of a population compiles, and to a case of its own, unless two parts of the case have
one identity. -/
theorem compiles_of_distinct {seed : String} {count : Int} (hcount : writableInt count = true)
    {b : CaseDesignBlueprint} {blueprints : List CaseDesignBlueprint}
    (hblueprints : buildPopulationBlueprints seed count = .ok blueprints) (hb : b ∈ blueprints)
    (hdistinct : ∀ c, draftCaseDesign (standardRequest b placeholderDataFirstRulePack) = .ok c →
      c.Distinct) :
    ∃ c, compileCaseDesign (standardRequest b placeholderDataFirstRulePack) = .ok c ∧
      c.sourceBlueprint = b := by
  obtain ⟨drawn, hdrawn, hordinals, hall⟩ := buildPopulationBlueprints_ok seed
    (count_pos_of_blueprints hblueprints)
  cases hblueprints.symm.trans hdrawn
  have hmem : b.ordinal ∈ (List.range count.toNat).map Int.ofNat :=
    hordinals ▸ List.mem_map_of_mem hb
  obtain ⟨ordinal, hordinal, heq⟩ := List.mem_map.1 hmem
  have hlt : (ordinal : Int) < count := by
    rw [List.mem_range] at hordinal
    omega
  refine compile_drawn (hall b hb) ?_ hdistinct
  exact heq ▸ writableInt_of_lt (Int.natCast_nonneg ordinal) hlt hcount

/-- **A population compiles to its own blueprints**, in their order, unless two parts of one of the
cases have one identity. -/
theorem compilePopulationFixture_standard (seed : String) (count : Int)
    (hcount : writableInt count = true) :
    (compilePopulationFixture seed count placeholderDataFirstRulePack).map
        (·.map (·.sourceBlueprint)) =
        (buildPopulationBlueprints seed count).mapError ContractError.ofPyError ∨
      ∃ blueprints, buildPopulationBlueprints seed count = .ok blueprints ∧
        ∃ b ∈ blueprints, ∃ c,
          draftCaseDesign (standardRequest b placeholderDataFirstRulePack) = .ok c ∧
            ¬ c.Distinct := by
  cases hblueprints : buildPopulationBlueprints seed count with
  | error e =>
    refine .inl ?_
    unfold compilePopulationFixture
    rw [hblueprints]
    rfl
  | ok blueprints =>
    by_cases hdistinct : ∀ b ∈ blueprints, ∀ c,
        draftCaseDesign (standardRequest b placeholderDataFirstRulePack) = .ok c → c.Distinct
    · obtain ⟨compilations, hcompilations, hback⟩ := except_mapM_map_eq (k := id) fun b hb =>
        compiles_of_distinct hcount hblueprints hb (hdistinct b hb)
      have hmapped : compilePopulationFixture seed count placeholderDataFirstRulePack =
          .ok compilations := by
        unfold compilePopulationFixture
        rw [hblueprints]
        exact hcompilations
      rw [hmapped, Except.map, hback, List.map_id]
      exact .inl rfl
    · push Not at hdistinct
      obtain ⟨b, hb, c, hc, hnot⟩ := hdistinct
      exact .inr ⟨blueprints, rfl, b, hb, c, hc, hnot⟩

/-- A population of one case. -/
theorem compilePopulationFixture_standard_one :
    (compilePopulationFixture "alpha" 1 placeholderDataFirstRulePack).map
        (·.map (·.sourceBlueprint)) =
        (buildPopulationBlueprints "alpha" 1).mapError ContractError.ofPyError ∨
      ∃ blueprints, buildPopulationBlueprints "alpha" 1 = .ok blueprints ∧
        ∃ b ∈ blueprints, ∃ c,
          draftCaseDesign (standardRequest b placeholderDataFirstRulePack) = .ok c ∧
            ¬ c.Distinct :=
  compilePopulationFixture_standard "alpha" 1 (by decide)

end LawFirmDigitalTwin
