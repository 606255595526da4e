import LawFirmDigitalTwin.Case.Pipeline

/-!
# What the operating side sees of a case

The operating projection of a compiled case names actors, days, roles, formats and counts. None of
them depends on the sealed design: apart from the identities that are digests, the projection is the
one that `operatingShape` gives for the registry, the rule pack, the case family and the revision of
the compiler. The axes choose the values of facts and the availability of some artifacts; who knows
how many facts, and which artifacts are there from the beginning, is the same in all designs.
-/

namespace LawFirmDigitalTwin

open Raising

/-! ## Erasing the digests -/

def OperatingActorFrontier.erased (f : OperatingActorFrontier) : OperatingActorFrontier :=
  { f with frontierId := "" }

def OperatingArtifactSummary.erased (a : OperatingArtifactSummary) : OperatingArtifactSummary :=
  { a with publicPlanId := "" }

/-- The projection without the identities that are derived from digests. -/
def OperatingCaseProjection.erased (p : OperatingCaseProjection) : OperatingCaseProjection :=
  { p with
    projectionId := ""
    initialArtifacts := p.initialArtifacts.map OperatingArtifactSummary.erased
    actorFrontiers := p.actorFrontiers.map OperatingActorFrontier.erased }

/-- The summary of an artifact that is there from the beginning. -/
def initialSummary (registry : CapabilityRegistry) (familyId : String) (createdDay : Int)
    (authorRoleId : String) : OperatingArtifactSummary where
  publicPlanId := ""
  capabilityId := ((registry.activeByFamily.get? familyId).map (·.capabilityId)).getD ""
  familyId := familyId
  createdDay := createdDay
  authorRoleId := authorRoleId
  simulatedTargetNativeFormat := "application/json"
  initial := true

/-- The operating projection of every design of a family. -/
def operatingShape (registry : CapabilityRegistry) (rulePack : RulePack)
    (caseFamilyId compilerRevision : String) : OperatingCaseProjection where
  projectionId := ""
  caseFamilyId := caseFamilyId
  jurisdictionLabel := rulePack.jurisdictionLabel
  rulePackId := rulePack.rulePackId
  compilerRevision := compilerRevision
  schemaRevision := projectionSchemaRevision
  syntheticOnly := true
  nonPredictive := true
  initialArtifacts :=
    [initialSummary registry "employment_litigation" 0 "intake",
     initialSummary registry "employment_policy" 1 "witness",
     initialSummary registry "employment_hr_record" 44 "manager"]
  actorFrontiers :=
    [⟨"", "billing_specialist", "billing", "defense_firm", 35, 1, 0⟩,
     ⟨"", "hr_witness", "witness", "synthetic_insured", 40, 5, 0⟩,
     ⟨"", "independent_expert", "expert", "independent_practice", 120, 9, 0⟩,
     ⟨"", "intake_coordinator", "intake", "defense_firm", 0, 1, 1⟩,
     ⟨"", "manager_witness", "manager", "synthetic_insured", 44, 8, 0⟩]
  plannedArtifactCount := 9

/-! ## What an actor knows -/

/-- Sorting lists each element once. -/
theorem length_sorted (s : Finset String) : (sorted s).length = s.card :=
  congrArg Multiset.card (coe_sorted s)

/-- Whether one of the actors who learn a fact is the actor, by a day. -/
def learnedBy (knownBy : List (String × Int)) (actorId : String) (day : Int) : Bool :=
  knownBy.any fun k => k.1 = actorId ∧ k.2 ≤ day

/-- The facts of a design without their values. -/
def factTable : List (String × List (String × Int)) :=
  [("referral_summary", [("intake_coordinator", 0), ("claim_handler", 0)] ++ commonKnowledge),
   ("policy_process", [("hr_witness", 1), ("manager_witness", 1)] ++ commonKnowledge),
   ("protected_activity", [("hr_witness", 25), ("manager_witness", 27)] ++ commonKnowledge),
   ("attendance_support",
    [("billing_specialist", 35), ("hr_witness", 35), ("manager_witness", 35)] ++ commonKnowledge),
   ("hr_review_scheduled", [("manager_witness", 37), ("hr_witness", 37)] ++ commonKnowledge),
   ("decision_status", [("manager_witness", 38)] ++ commonKnowledge),
   ("decision_status", [("hr_witness", 40)] ++ commonKnowledge),
   ("termination_day", [("manager_witness", 44), ("hr_witness", 44)] ++ commonKnowledge),
   ("stated_reason", [("manager_witness", 44), ("hr_witness", 44)] ++ commonKnowledge),
   ("policy_alignment", [("manager_witness", 44), ("hr_witness", 44)] ++ commonKnowledge),
   ("procedural_posture", [("responsible_lawyer", 52), ("litigation_paralegal", 52)])]

/-- How many facts an actor knows on a day. -/
def knownCount (actorId : String) (day : Int) : Nat :=
  ((factTable.filter fun f => learnedBy f.2 actorId day).map (·.1)).toFinset.card

section
variable {merits status : String × String} {proceduralQuality : String}

/-- A claim is known to those who have learned it by then. -/
theorem knownTo_claim (factId value : String) (occursDay : Int) (domain : String)
    (knownBy : List (String × Int)) :
    (claim factId value occursDay domain knownBy).knownTo = learnedBy knownBy := by
  funext actorId day
  unfold CompiledFact.knownTo learnedBy claim
  rw [Bool.eq_iff_iff, List.any_eq_true, List.any_eq_true]
  exact exists_congr fun k => and_congr_left fun _ =>
    (List.perm_insertionSort _ knownBy).mem_iff

/-- Who learns what is the same in every design. -/
theorem knowledge_of_factsOf :
    (factsOf merits status proceduralQuality).map (fun f => (f.factId, f.knownTo)) =
      factTable.map fun f => (f.1, learnedBy f.2) := by
  simp only [factsOf, factTable, List.map_cons, List.map_nil, knownTo_claim]
  rfl

/-- How many facts an actor knows does not depend on the design. -/
theorem length_knowledgeForActor (actorId : String) (day : Int) :
    (knowledgeForActor (factsOf merits status proceduralQuality) actorId day).length =
      knownCount actorId day := by
  have hids (l : List CompiledFact) : (l.filter (·.knownTo actorId day)).map (·.factId) =
      ((l.map fun f => (f.factId, f.knownTo)).filter fun f => f.2 actorId day).map (·.1) := by
    rw [List.filter_map, List.map_map]
    rfl
  have htable : ((factTable.map fun f => (f.1, learnedBy f.2)).filter fun f =>
      f.2 actorId day).map (·.1) = (factTable.filter fun f =>
        learnedBy f.2 actorId day).map (·.1) := by
    rw [List.filter_map, List.map_map]
    rfl
  rw [knowledgeForActor, hids, knowledge_of_factsOf, htable, knownCount,
    length_eq_card_of_sorted rfl]
  congr 1
  ext factId
  rw [List.mem_toFinset, mem_sorted]

end

/-! ## What an artifact shows of itself -/

/-- The frontier of the author of an artifact, on its day. -/
def specFrontier (spec : PlanSpec) : OperatingActorFrontier where
  frontierId := ""
  actorId := spec.author
  roleId := ((fullPersonas.get? spec.author).map (·.roleId)).getD ""
  organization := ((fullPersonas.get? spec.author).map (·.organization)).getD ""
  asOfDay := spec.day
  knownFactCount := knownCount spec.author spec.day
  authorityCount := ((fullPersonas.get? spec.author).map fun profile =>
    profile.initialAuthority.toFinset.card).getD 0

/-- The summary of an artifact, were it there from the beginning. -/
def specSummary (registry : CapabilityRegistry) (spec : PlanSpec) : OperatingArtifactSummary where
  publicPlanId := ""
  capabilityId := ((registry.activeByFamily.get? spec.family).map (·.capabilityId)).getD ""
  familyId := spec.family
  createdDay := spec.day
  authorRoleId := ((fullPersonas.get? spec.author).map (·.roleId)).getD ""
  simulatedTargetNativeFormat := spec.format
  initial := true

section
variable {scope : CaseScope} {spec : PlanSpec} {a : CompiledArtifact}
  {merits status : String × String} {proceduralQuality : String}

/-- The frontier of an artifact's state is that of its spec. -/
theorem frontierOf_compileArtifact
    (hfacts : scope.facts = factsOf merits status proceduralQuality)
    (h : scope.compileArtifact spec = .ok a) :
    (frontierOf a.personaState).erased = specFrontier spec ∧ a.personaState.revision = 1 := by
  obtain ⟨i, -, -, hi, -, -, rfl⟩ := CaseScope.compileArtifact_eq_ok.1 h
  refine ⟨?_, rfl⟩
  have hknown : (scope.madeState spec i).knowledgeFactIds.length = knownCount spec.author spec.day := by
    have hids : (scope.madeState spec i).knowledgeFactIds =
        sorted (knowledgeForActor scope.facts spec.author spec.day).toFinset := rfl
    rw [hids, length_sorted, hfacts, ← length_knowledgeForActor]
    exact (length_eq_card_of_sorted rfl).symm
  have hauthorities : (scope.madeState spec i).authorityIds.length =
      i.profile.initialAuthority.toFinset.card := by
    have hids : (scope.madeState spec i).authorityIds =
        sorted i.profile.initialAuthority.toFinset := rfl
    rw [hids, length_sorted]
  have hactor : (scope.madeState spec i).actorId = spec.author :=
    (actorId_of_fullPersonas hi.profile).1
  unfold OperatingActorFrontier.erased frontierOf specFrontier
  simp only [hi.profile, Option.map_some, Option.getD_some]
  rw [← hknown, ← hauthorities, ← hactor]
  rfl

/-- The summary of an artifact's plan is that of its spec. -/
theorem summaryOf_compileArtifact (h : scope.compileArtifact spec = .ok a) :
    (summaryOf a.plan).map (·.erased) = .ok (specSummary scope.registry spec) ∧
      a.plan.availability = spec.availability := by
  obtain ⟨i, -, w, hi, -, -, rfl⟩ := CaseScope.compileArtifact_eq_ok.1 h
  refine ⟨?_, rfl⟩
  obtain ⟨-, -, hfamily⟩ := CaseScope.activeByFamily_found hi.evidence
  have hprofile : fullPersonas.item (scope.madePlan spec i).authorId = .ok i.profile :=
    PyDict.item_eq_ok.2 hi.profile
  have hplan : (scope.madeArtifact spec i w).plan = scope.madePlan spec i := rfl
  unfold summaryOf specSummary
  rw [hplan, hprofile, hi.profile, hi.evidence, ← hfamily]
  rfl

end

/-! ## The latest of each actor -/

section
variable {α β κ : Type} [LT κ] [DecidableLT κ]

/-- One pass of the loop that keeps the latest item of each key. -/
def keepLatest (key : α → String) (rank : α → κ) (latest : PyDict α) (item : α) : PyDict α :=
  match latest.get? (key item) with
  | none => latest.set (key item) item
  | some current => if rank current < rank item then latest.set (key item) item else latest

/-- The latest item of each key. -/
def latestBy (key : α → String) (rank : α → κ) (items : List α) : PyDict α :=
  items.foldl (keepLatest key rank) ∅

/-- The entries of a mapped dictionary. -/
theorem entries_mapValues (f : α → β) (d : PyDict α) :
    (d.mapValues f).entries = d.entries.map fun e => (e.1, f e.2) := by
  have hkeys : (d.mapValues f).keys = d.keys := by
    ext key
    rw [Finmap.mem_keys, Finmap.mem_keys, ← Finmap.lookup_isSome, ← Finmap.lookup_isSome]
    have hget := congrArg Option.isSome (PyDict.get?_mapValues f d key)
    rw [Option.isSome_map] at hget
    rw [Bool.eq_iff_iff] at hget
    exact hget
  unfold PyDict.entries
  rw [hkeys, List.map_filterMap]
  refine List.filterMap_congr fun key _ => ?_
  rw [PyDict.get?_mapValues, Option.map_map, Option.map_map]
  rfl

/-- Setting a key before or after a map. -/
theorem set_mapValues (f : α → β) (d : PyDict α) (key : String) (v : α) :
    (d.mapValues f).set key (f v) = (d.set key v).mapValues f :=
  PyDict.ext fun key' => by
    simp only [PyDict.get?_set, PyDict.get?_mapValues]
    split <;> rfl

/-- Whoever keeps key and rank may be applied before or after. -/
theorem latestBy_map {key : α → String} {rank : α → κ} {key' : β → String} {rank' : β → κ}
    {f : α → β} (hkey : ∀ a, key' (f a) = key a) (hrank : ∀ a, rank' (f a) = rank a)
    (items : List α) :
    latestBy key' rank' (items.map f) = (latestBy key rank items).mapValues f := by
  have hpass (d : PyDict α) (item : α) :
      keepLatest key' rank' (d.mapValues f) (f item) = (keepLatest key rank d item).mapValues f := by
    unfold keepLatest
    rw [hkey, PyDict.get?_mapValues]
    cases d.get? (key item) with
    | none => exact set_mapValues f d (key item) item
    | some current =>
      simp only [Option.map_some, hrank, set_mapValues]
      split <;> rfl
  have hloop (items : List α) : ∀ d : PyDict α,
      (items.map f).foldl (keepLatest key' rank') (d.mapValues f) =
        (items.foldl (keepLatest key rank) d).mapValues f := by
    induction items with
    | nil => exact fun _ => rfl
    | cons item items ih =>
      intro d
      rw [List.map_cons, List.foldl_cons, List.foldl_cons, hpass, ih]
  exact hloop items ∅

end

/-- The loop of the compiler is the general one. -/
theorem latestByActor_eq (states : List PersonaStateSnapshot) :
    latestByActor states =
      latestBy (·.actorId) (fun s => toLex (s.asOfDay, s.revision)) states := by
  unfold latestByActor latestBy
  congr 1
  funext latest s
  unfold keepLatest
  cases latest.get? s.actorId with
  | none => rfl
  | some current => rfl

/-! ## The projection -/

/-- The frontiers of the latest states, by actor. -/
def latestFrontiers (frontiers : List (OperatingActorFrontier × Int)) :
    List OperatingActorFrontier :=
  (latestBy (·.1.actorId) (fun f => toLex (f.1.asOfDay, f.2)) frontiers).entries.map (·.2.1)

/-- The frontiers of the latest states are the latest frontiers. -/
theorem frontiers_of_latestByActor (states : List PersonaStateSnapshot) :
    (latestByActor states).entries.map (fun e => (frontierOf e.2).erased) =
      latestFrontiers (states.map fun s => ((frontierOf s).erased, s.revision)) := by
  have hmap := @latestBy_map PersonaStateSnapshot (OperatingActorFrontier × Int) (Int ×ₗ Int) _ _
    (·.actorId) (fun s => toLex (s.asOfDay, s.revision)) (·.1.actorId)
    (fun f => toLex (f.1.asOfDay, f.2)) (fun s => ((frontierOf s).erased, s.revision))
    (fun _ => rfl) (fun _ => rfl) states
  rw [latestByActor_eq, latestFrontiers, hmap, entries_mapValues, List.map_map]
  rfl

deriving instance DecidableEq for OperatingActorFrontier

/-- The frontiers are the same in every design. -/
theorem latestFrontiers_planSpecsOf (evidenceShape : String) :
    latestFrontiers ((planSpecsOf evidenceShape).map fun spec => (specFrontier spec, 1)) =
      [⟨"", "billing_specialist", "billing", "defense_firm", 35, 1, 0⟩,
       ⟨"", "hr_witness", "witness", "synthetic_insured", 40, 5, 0⟩,
       ⟨"", "independent_expert", "expert", "independent_practice", 120, 9, 0⟩,
       ⟨"", "intake_coordinator", "intake", "defense_firm", 0, 1, 1⟩,
       ⟨"", "manager_witness", "manager", "synthetic_insured", 44, 8, 0⟩] := by
  have hsame : (planSpecsOf evidenceShape).map (fun spec => (specFrontier spec, (1 : Int))) =
      (planSpecsOf "").map fun spec => (specFrontier spec, 1) := rfl
  rw [hsame]
  decide

/-- So are the artifacts that are there from the beginning. -/
theorem initial_planSpecsOf (registry : CapabilityRegistry) (evidenceShape : String) :
    ((planSpecsOf evidenceShape).filter (·.availability = "initial")).map (specSummary registry) =
      [initialSummary registry "employment_litigation" 0 "intake",
       initialSummary registry "employment_policy" 1 "witness",
       initialSummary registry "employment_hr_record" 44 "manager"] := by
  unfold planSpecsOf
  generalize (evidenceShape == "sparse_or_corrupted") = sparse
  generalize (evidenceShape == "noisy_redundant") = noisy
  cases sparse <;> cases noisy <;> rfl

/-! ## Stage by stage -/

/-- The facts of a design are those of three of its axes. -/
theorem buildFactDesign_eq_ok {axis : PyDict String}
    {design : List CompiledFact × List SealedConflictSpec}
    (h : buildFactDesign axis = .ok design) :
    ∃ merits status proceduralQuality, design =
      (factsOf merits status proceduralQuality,
        conflictsOf (factsOf merits status proceduralQuality)) := by
  unfold buildFactDesign at h
  simp only [except_bind_eq_ok] at h
  obtain ⟨-, -, -, -, merits, -, status, -, proceduralQuality, -, h⟩ := h
  exact ⟨merits, status, proceduralQuality, (Except.ok.inj h).symm⟩

/-- The specs of a design are those of one of its axes. -/
theorem planSpecs_eq_ok {axis : PyDict String} {specs : List PlanSpec}
    (h : planSpecs axis = .ok specs) : ∃ evidenceShape, specs = planSpecsOf evidenceShape := by
  unfold planSpecs at h
  simp only [except_bind_eq_ok] at h
  obtain ⟨evidenceShape, -, h⟩ := h
  exact ⟨evidenceShape, (Except.ok.inj h).symm⟩

/-- A valid request is for the family that its blueprint names. -/
theorem familyId_of_validate {r : CompileRequest} {family : CaseFamilyManifest}
    (h : r.validate = .ok family) : family.familyId = r.blueprint.caseFamilyId := by
  unfold CompileRequest.validate at h
  cases hfound : r.registry.familyById.get? r.blueprint.caseFamilyId with
  | none =>
    rw [hfound] at h
    cases h
  | some found =>
    rw [hfound] at h
    simp only [except_bind_eq_ok, except_throw_if_eq_ok] at h
    obtain ⟨-, -, -, -, -, h⟩ := h
    obtain rfl := Except.ok.inj h
    exact (PyDict.mem_of_get?_keyed hfound).2

section
variable {scope : CaseScope} {merits status : String × String} {proceduralQuality : String}

/-- The frontiers of the artifacts are those of their specs. -/
theorem frontiers_of_mapM (hfacts : scope.facts = factsOf merits status proceduralQuality)
    {specs : List PlanSpec} {artifacts : List CompiledArtifact}
    (h : List.Forall₂ (fun spec a => scope.compileArtifact spec = .ok a) specs artifacts) :
    (artifacts.map (·.personaState)).map (fun s => ((frontierOf s).erased, s.revision)) =
      specs.map fun spec => (specFrontier spec, 1) := by
  induction h with
  | nil => rfl
  | cons hpass _ ih =>
    obtain ⟨hfrontier, hrevision⟩ := frontierOf_compileArtifact hfacts hpass
    simp only [List.map_cons, hfrontier, hrevision, ih]

/-- The summaries of the artifacts are those of their specs. -/
theorem summaries_of_mapM {specs : List PlanSpec} {artifacts : List CompiledArtifact}
    (h : List.Forall₂ (fun spec a => scope.compileArtifact spec = .ok a) specs artifacts)
    {summaries : List OperatingArtifactSummary}
    (hsummaries : List.Forall₂ (fun plan s => summaryOf plan = .ok s)
      ((artifacts.map (·.plan)).filter (·.availability = "initial")) summaries) :
    summaries.map (·.erased) =
      (specs.filter (·.availability = "initial")).map (specSummary scope.registry) := by
  induction h generalizing summaries with
  | nil =>
    cases hsummaries
    rfl
  | @cons spec a specs artifacts hpass _ ih =>
    obtain ⟨hsummary, havailability⟩ := summaryOf_compileArtifact hpass
    rw [List.map_cons, List.filter_cons, havailability] at hsummaries
    rw [List.filter_cons]
    split at hsummaries
    next hinitial =>
      cases hsummaries with
      | @cons _ summary _ summaries hfirst hrest =>
        rw [hfirst] at hsummary
        have herased : summary.erased = specSummary scope.registry spec := Except.ok.inj hsummary
        rw [if_pos hinitial, List.map_cons, List.map_cons, ih hrest, herased]
    next hinitial => rw [if_neg hinitial, ih hsummaries]

end

/-- The operating projection, without the identities that are digests. -/
theorem buildOperatingProjection_eq_ok {caseFamilyId : String} {rulePack : RulePack}
    {states : List PersonaStateSnapshot} {plans : List ArtifactPlan} {compilerRevision : String}
    {projection : OperatingCaseProjection}
    (h : buildOperatingProjection caseFamilyId rulePack states plans compilerRevision =
      .ok projection) :
    ∃ summaries, List.Forall₂ (fun plan s => summaryOf plan = .ok s)
        (plans.filter (·.availability = "initial")) summaries ∧
      projection.erased =
        { projectionId := ""
          caseFamilyId := caseFamilyId
          jurisdictionLabel := rulePack.jurisdictionLabel
          rulePackId := rulePack.rulePackId
          compilerRevision := compilerRevision
          schemaRevision := projectionSchemaRevision
          syntheticOnly := true
          nonPredictive := true
          initialArtifacts := summaries.map (·.erased)
          actorFrontiers :=
            latestFrontiers (states.map fun s => ((frontierOf s).erased, s.revision))
          plannedArtifactCount := plans.length } := by
  unfold buildOperatingProjection at h
  simp only [except_bind_eq_ok] at h
  obtain ⟨summaries, hsummaries, h⟩ := h
  obtain rfl := Except.ok.inj h
  refine ⟨summaries, except_mapM_eq_ok.1 hsummaries, ?_⟩
  rw [← frontiers_of_latestByActor]
  unfold OperatingCaseProjection.erased
  simp only [List.map_map]
  rfl

/-- A draft shows the shape of its family. -/
theorem operating_of_draftCaseDesign {r : CompileRequest} {c : CaseCompilation}
    (h : draftCaseDesign r = .ok c) :
    c.operating.erased = operatingShape r.registry r.rulePack r.blueprint.caseFamilyId
      r.compilerRevision := by
  unfold draftCaseDesign at h
  simp only [except_bind_eq_ok, except_throw_if_eq_ok] at h
  obtain ⟨family, hfamily, -, -, design, hdesign, -, -, specs, hspecs, artifacts, hartifacts, -, -,
    operating, hoperating, sealed, -, h⟩ := h
  obtain ⟨merits, status, proceduralQuality, rfl⟩ := buildFactDesign_eq_ok hdesign
  obtain ⟨evidenceShape, rfl⟩ := planSpecs_eq_ok hspecs
  obtain rfl := Except.ok.inj h
  have hpasses := except_mapM_eq_ok.1 hartifacts
  obtain ⟨summaries, hsummaries, herased⟩ := buildOperatingProjection_eq_ok hoperating
  have hoperatingOf : (r.compilation sealed operating
    (buildEvaluationProjection r.blueprint
      (conflictsOf (factsOf merits status proceduralQuality))
      (factsOf merits status proceduralQuality) r.compilerRevision) artifacts).operating =
    operating := rfl
  have hfamilyId := familyId_of_validate hfamily
  have hlength : (artifacts.map (·.plan)).length = 9 := by
    rw [List.length_map, ← hpasses.length_eq]
    rfl
  rw [hoperatingOf, herased, frontiers_of_mapM rfl hpasses, latestFrontiers_planSpecsOf,
    summaries_of_mapM hpasses hsummaries, initial_planSpecsOf, hfamilyId, hlength]
  rfl

/-- **The operating side sees the same of every design.** What a compiled case projects to the
operating side is, apart from the identities that are digests, the shape of its family. -/
theorem compileCaseDesign_operating (r : CompileRequest) :
    (compileCaseDesign r).map (·.operating.erased) =
      (compileCaseDesign r).map fun _ =>
        operatingShape r.registry r.rulePack r.blueprint.caseFamilyId r.compilerRevision := by
  cases hc : compileCaseDesign r with
  | error e => rfl
  | ok c =>
    unfold compileCaseDesign at hc
    simp only [except_bind_eq_ok, except_throw_if_eq_ok] at hc
    obtain ⟨draft, hdraft, -, -, -, h⟩ := hc
    obtain rfl := Except.ok.inj h
    exact congrArg Except.ok (operating_of_draftCaseDesign hdraft)

end LawFirmDigitalTwin
