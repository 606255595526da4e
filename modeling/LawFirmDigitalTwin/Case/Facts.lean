import LawFirmDigitalTwin.Evidence.Contracts

/-!
# The facts of a sealed case

The part of `case_compiler.py` that decides what an actor may state: `_assertions_for` takes, for
each fact asked for, a claim about it that the actor knew by the day and has not used yet, and
`_sealed_assertion_grant_ids` lists the assertions the sealed case allows. A request is refused
exactly when a fact is asked for more often than the actor has claims about it.
-/

namespace LawFirmDigitalTwin

def caseCompilerRevision : String := "case-compiler-g2-v1"

def projectionSchemaRevision : String := "projection-contract-g2-v1"

/-- `case_compiler.py` `CompiledFact`. -/
structure CompiledFact where
  claimId : String
  factId : String
  value : String
  occursDay : Int
  domain : String
  knownBy : List (String × Int)
  deriving DecidableEq

namespace CompiledFact

def toJson (f : CompiledFact) : Json :=
  .dict
    [("claim_id", .str f.claimId), ("fact_id", .str f.factId), ("value", .str f.value),
     ("occurs_day", .int f.occursDay), ("domain", .str f.domain),
     ("known_by", .list (f.knownBy.map fun k => .list [.str k.1, .int k.2]))]

/-- The days on which an actor learned the fact, up to a day. -/
def learnedDays (f : CompiledFact) (actorId : String) (asOfDay : Int) : List Int :=
  (f.knownBy.filter fun k => k.1 = actorId ∧ k.2 ≤ asOfDay).map (·.2)

/-- Whether an actor knew the fact by a day. -/
def knownTo (f : CompiledFact) (actorId : String) (asOfDay : Int) : Bool :=
  f.knownBy.any fun k => k.1 = actorId ∧ k.2 ≤ asOfDay

/-- The assertion of an actor that learned the fact on a day. -/
def assertion (f : CompiledFact) (worldNamespace matterNamespace actorId : String)
    (learnedDay : Int) : FactAssertion where
  worldNamespace := worldNamespace
  matterNamespace := matterNamespace
  authorId := actorId
  factId := f.factId
  value := f.value
  sourceKind := "sealed_synthetic_claim"
  sourceId := f.claimId
  learnedDay := learnedDay

end CompiledFact

/-- `case_compiler.py` `SealedConflictSpec`. -/
structure SealedConflictSpec where
  conflictId : String
  issueFactId : String
  claimIds : List String
  purpose : String

def SealedConflictSpec.toJson (c : SealedConflictSpec) : Json :=
  .dict
    [("conflict_id", .str c.conflictId), ("issue_fact_id", .str c.issueFactId),
     ("claim_ids", .strs c.claimIds), ("purpose", .str c.purpose)]

/-- `case_compiler.py` `SealedCaseState`. -/
structure SealedCaseState where
  sealedCaseId : String
  worldNamespace : String
  matterNamespace : String
  caseFamilyId : String
  sourceBlueprintCommitment : String
  axisLabels : List (String × String)
  designLabels : List SealedDesignLabel
  targetPosture : String
  resolutionTrack : String
  proceduralQuality : String
  representationQuality : String
  facts : List CompiledFact
  conflicts : List SealedConflictSpec
  rulePackCommitment : String
  compilerRevision : String
  schemaRevision : String := projectionSchemaRevision

namespace SealedCaseState

def toJson (s : SealedCaseState) : Json :=
  .dict
    [("sealed_case_id", .str s.sealedCaseId), ("world_namespace", .str s.worldNamespace),
     ("matter_namespace", .str s.matterNamespace), ("case_family_id", .str s.caseFamilyId),
     ("source_blueprint_commitment", .str s.sourceBlueprintCommitment),
     ("axis_labels", .pairs s.axisLabels),
     ("design_labels", .list (s.designLabels.map SealedDesignLabel.toJson)),
     ("target_posture", .str s.targetPosture), ("resolution_track", .str s.resolutionTrack),
     ("procedural_quality", .str s.proceduralQuality),
     ("representation_quality", .str s.representationQuality),
     ("facts", .list (s.facts.map CompiledFact.toJson)),
     ("conflicts", .list (s.conflicts.map SealedConflictSpec.toJson)),
     ("rule_pack_commitment", .str s.rulePackCommitment),
     ("compiler_revision", .str s.compilerRevision), ("schema_revision", .str s.schemaRevision)]

/-- `SealedCaseState.sealed_state_hash`. -/
def sealedStateHash (s : SealedCaseState) : String := digest s.toJson

end SealedCaseState

/-- `case_compiler.py` `_sealed_assertion_grant_ids`. -/
def sealedAssertionGrantIds (s : SealedCaseState) : Finset String :=
  (s.facts.flatMap fun f => f.knownBy.map fun k =>
    (f.assertion s.worldNamespace s.matterNamespace k.1 k.2).assertionId).toFinset

section
variable (facts : List CompiledFact) (worldNamespace matterNamespace actorId : String)
  (asOfDay : Int)

/-- The claims about a fact that are left to an actor, in the order they are taken. -/
def candidates (used : Finset String) (factId : String) : List CompiledFact :=
  (facts.filter fun f => f.factId = factId ∧ f.claimId ∉ used ∧
    f.knownTo actorId asOfDay).insertionSort
      fun a b => toLex (a.occursDay, a.claimId) ≤ toLex (b.occursDay, b.claimId)

/-- The loop of `_assertions_for`. -/
def assertionsLoop (used : Finset String) : List String → Except PyError (List FactAssertion)
  | [] => return []
  | factId :: rest => do
    match candidates facts actorId asOfDay used factId with
    | [] => throw (.valueError ("knowledge_frontier_violation:" ++ actorId ++ ":" ++ factId ++
        ":" ++ toString asOfDay))
    | fact :: _ =>
      match (fact.learnedDays actorId asOfDay).min? with
      | none => throw (.valueError "min() iterable argument is empty")
      | some learnedDay =>
        let assertions ← assertionsLoop (insert fact.claimId used) rest
        return fact.assertion worldNamespace matterNamespace actorId learnedDay :: assertions

/-- `case_compiler.py` `_assertions_for`. -/
def assertionsFor (factIds : List String) : Except PyError (List FactAssertion) :=
  assertionsLoop facts worldNamespace matterNamespace actorId asOfDay ∅ factIds

end

section
variable {facts : List CompiledFact} {worldNamespace matterNamespace actorId : String}
  {asOfDay : Int} {used : Finset String} {factId : String} {f : CompiledFact}

/-- The candidates for an assertion of a fact. -/
theorem mem_candidates : f ∈ candidates facts actorId asOfDay used factId ↔
    f ∈ facts ∧ f.factId = factId ∧ f.claimId ∉ used ∧ f.knownTo actorId asOfDay = true := by
  rw [candidates, (List.perm_insertionSort _ _).mem_iff, List.mem_filter, decide_eq_true_iff]

/-- The candidates, counted. -/
theorem length_candidates (facts : List CompiledFact) (actorId : String) (asOfDay : Int)
    (used : Finset String) (factId : String) :
    (candidates facts actorId asOfDay used factId).length =
      facts.countP fun f => f.factId = factId ∧ f.claimId ∉ used ∧ f.knownTo actorId asOfDay := by
  rw [candidates, (List.perm_insertionSort _ _).length_eq, List.countP_eq_length_filter]

/-- A fact known to an actor has a first day on which the actor learned it. -/
theorem exists_learnedDay (h : f.knownTo actorId asOfDay = true) :
    ∃ day, (f.learnedDays actorId asOfDay).min? = some day ∧ (actorId, day) ∈ f.knownBy ∧
      day ≤ asOfDay ∧ ∀ day', (actorId, day') ∈ f.knownBy → day' ≤ asOfDay → day ≤ day' := by
  have hmem (day : Int) : day ∈ f.learnedDays actorId asOfDay ↔
      (actorId, day) ∈ f.knownBy ∧ day ≤ asOfDay := by
    simp only [CompiledFact.learnedDays, List.mem_map, List.mem_filter, decide_eq_true_iff]
    constructor
    · rintro ⟨⟨_, _⟩, ⟨hk, rfl, hle⟩, rfl⟩
      exact ⟨hk, hle⟩
    · rintro ⟨hk, hle⟩
      exact ⟨_, ⟨hk, rfl, hle⟩, rfl⟩
  obtain ⟨⟨_, day⟩, hk, hknown⟩ := List.any_eq_true.1 h
  obtain ⟨rfl, hle⟩ := of_decide_eq_true hknown
  cases hmin : (f.learnedDays _ asOfDay).min? with
  | none =>
    rw [List.min?_eq_none_iff] at hmin
    exact absurd ((hmem day).2 ⟨hk, hle⟩) (hmin ▸ List.not_mem_nil)
  | some first =>
    rw [List.min?_eq_some_iff] at hmin
    obtain ⟨hfirst, hleast⟩ := hmin
    obtain ⟨hk, hle⟩ := (hmem first).1 hfirst
    exact ⟨first, rfl, hk, hle, fun day' hk' hle' => hleast day' ((hmem day').2 ⟨hk', hle'⟩)⟩

/-- Under distinct keys, one item is counted once. -/
theorem countP_eq_add {α β : Type} [DecidableEq β] {key : α → β} {p : α → Bool} {l : List α} {a : α}
    (hnd : (l.map key).Nodup) (ha : a ∈ l) :
    l.countP p = l.countP (fun b => p b ∧ key b ≠ key a) + if p a then 1 else 0 := by
  induction l with
  | nil => exact absurd ha List.not_mem_nil
  | cons b l ih =>
    rw [List.map_cons, List.nodup_cons] at hnd
    rw [List.countP_cons, List.countP_cons]
    rcases List.mem_cons.1 ha with rfl | ha
    · have hrest : l.countP (fun b => p b ∧ key b ≠ key a) = l.countP p :=
        List.countP_congr fun b hb => by
          have hne : key b ≠ key a := fun h => hnd.1 (h ▸ List.mem_map_of_mem hb)
          simp [hne]
      rw [hrest]
      simp
    · have hne : key b ≠ key a := fun h => hnd.1 (h ▸ List.mem_map_of_mem ha)
      rw [ih hnd.2 ha]
      simp only [hne, ne_eq, not_false_eq_true, and_true, Bool.decide_eq_true]
      omega

/-- Using a claim takes it from the candidates of its own fact, and from no other's. -/
theorem length_candidates_insert (hclaims : (facts.map (·.claimId)).Nodup)
    (hf : f ∈ candidates facts actorId asOfDay used factId) (other : String) :
    (candidates facts actorId asOfDay used other).length =
      (candidates facts actorId asOfDay (insert f.claimId used) other).length +
        if factId = other then 1 else 0 := by
  obtain ⟨hmem, hid, hunused, hknown⟩ := mem_candidates.1 hf
  rw [length_candidates, length_candidates, countP_eq_add hclaims hmem]
  congr 1
  · refine List.countP_congr fun g _ => ?_
    simp only [decide_eq_true_iff, Finset.mem_insert, not_or]
    tauto
  · simp [hid, hunused, hknown]

/-- One turn of the loop, where there is a candidate. -/
theorem assertionsLoop_cons {rest : List String} {others : List CompiledFact} {day : Int}
    (hf : candidates facts actorId asOfDay used factId = f :: others)
    (hday : (f.learnedDays actorId asOfDay).min? = some day) :
    assertionsLoop facts worldNamespace matterNamespace actorId asOfDay used (factId :: rest) =
      (assertionsLoop facts worldNamespace matterNamespace actorId asOfDay (insert f.claimId used)
        rest).map (f.assertion worldNamespace matterNamespace actorId day :: ·) := by
  rw [assertionsLoop, hf]
  dsimp only
  rw [hday]
  rfl

/-- **A request is refused when a fact is asked for too often.** -/
theorem assertionsLoop_error_iff (hclaims : (facts.map (·.claimId)).Nodup) {factIds : List String} :
    (∃ e, assertionsLoop facts worldNamespace matterNamespace actorId asOfDay used factIds =
      .error e) ↔ ∃ factId, (candidates facts actorId asOfDay used factId).length <
        factIds.count factId := by
  induction factIds generalizing used with
  | nil =>
    constructor
    · rintro ⟨e, he⟩
      cases he
    · rintro ⟨factId, hlt⟩
      exact absurd hlt (Nat.not_lt_zero _)
  | cons factId rest ih =>
    cases hf : candidates facts actorId asOfDay used factId with
    | nil =>
      refine iff_of_true ⟨_, by rw [assertionsLoop, hf]; rfl⟩ ⟨factId, ?_⟩
      rw [hf, List.count_cons_self]
      exact Nat.succ_pos _
    | cons f others =>
      have hmem : f ∈ candidates facts actorId asOfDay used factId := hf ▸ List.mem_cons_self
      obtain ⟨day, hday, -⟩ := exists_learnedDay (mem_candidates.1 hmem).2.2.2
      have hrest : (∃ e, assertionsLoop facts worldNamespace matterNamespace actorId asOfDay used
          (factId :: rest) = .error e) ↔ ∃ e, assertionsLoop facts worldNamespace matterNamespace
            actorId asOfDay (insert f.claimId used) rest = .error e := by
        rw [assertionsLoop_cons hf hday]
        cases assertionsLoop facts worldNamespace matterNamespace actorId asOfDay
          (insert f.claimId used) rest <;> simp [Except.map]
      rw [hrest, ih]
      refine exists_congr fun other => ?_
      rw [length_candidates_insert hclaims hmem other, List.count_cons]
      simp only [beq_iff_eq]
      omega

/-- An assertion of a fact that the actor knew, with the first day on which it was learned. -/
def FirstLearned (facts : List CompiledFact) (worldNamespace matterNamespace actorId : String)
    (asOfDay : Int) (a : FactAssertion) : Prop :=
  ∃ f ∈ facts, ∃ day, a = f.assertion worldNamespace matterNamespace actorId day ∧
    (actorId, day) ∈ f.knownBy ∧ day ≤ asOfDay ∧
      ∀ day', (actorId, day') ∈ f.knownBy → day' ≤ asOfDay → day ≤ day'

/-- The loop asserts each fact once, from what was learned first. -/
theorem assertionsLoop_ok {factIds : List String} {assertions : List FactAssertion}
    (h : assertionsLoop facts worldNamespace matterNamespace actorId asOfDay used factIds =
      .ok assertions) :
    assertions.map (·.factId) = factIds ∧ (assertions.map (·.sourceId)).Nodup ∧
      (∀ a ∈ assertions, a.sourceId ∉ used) ∧
        ∀ a ∈ assertions, FirstLearned facts worldNamespace matterNamespace actorId asOfDay a := by
  induction factIds generalizing used assertions with
  | nil =>
    cases h
    exact ⟨rfl, List.nodup_nil, nofun, nofun⟩
  | cons factId rest ih =>
    cases hf : candidates facts actorId asOfDay used factId with
    | nil =>
      rw [assertionsLoop, hf] at h
      cases h
    | cons f others =>
      have hmem : f ∈ candidates facts actorId asOfDay used factId := hf ▸ List.mem_cons_self
      obtain ⟨hfact, hid, hunused, hknown⟩ := mem_candidates.1 hmem
      obtain ⟨day, hday, hlearned⟩ := exists_learnedDay hknown
      rw [assertionsLoop_cons hf hday] at h
      cases hrest : assertionsLoop facts worldNamespace matterNamespace actorId asOfDay
          (insert f.claimId used) rest with
      | error e =>
        rw [hrest] at h
        cases h
      | ok tail =>
        rw [hrest] at h
        cases h
        obtain ⟨hids, hnodup, hfresh, hall⟩ := ih hrest
        refine ⟨?_, ?_, List.forall_mem_cons.2 ⟨hunused, fun a ha hin => ?_⟩,
          List.forall_mem_cons.2 ⟨⟨f, hfact, day, rfl, hlearned⟩, hall⟩⟩
        · rw [List.map_cons, hids]
          exact congrArg (· :: rest) hid
        · rw [List.map_cons, List.nodup_cons]
          refine ⟨fun hin => ?_, hnodup⟩
          obtain ⟨a, ha, hsource⟩ := List.mem_map.1 hin
          exact hfresh a ha (hsource ▸ Finset.mem_insert_self _ _)
        · exact hfresh a ha (Finset.mem_insert_of_mem hin)

/-- What an actor has learned is granted by the sealed case. -/
theorem FirstLearned.granted {s : SealedCaseState} {a : FactAssertion}
    (h : FirstLearned s.facts s.worldNamespace s.matterNamespace actorId asOfDay a) :
    a.assertionId ∈ sealedAssertionGrantIds s := by
  obtain ⟨f, hf, day, rfl, hknown, -⟩ := h
  rw [sealedAssertionGrantIds, List.mem_toFinset, List.mem_flatMap]
  exact ⟨f, hf, List.mem_map.2 ⟨(actorId, day), hknown, rfl⟩⟩

end

/-- **An actor asserts what it knew by the day, each claim once, and is refused only beyond
that.** -/
theorem knowledge_frontier (s : SealedCaseState) (hclaims : (s.facts.map (·.claimId)).Nodup)
    (actorId : String) (asOfDay : Int) (factIds : List String) :
    ((∃ e, assertionsFor s.facts s.worldNamespace s.matterNamespace actorId asOfDay factIds =
        .error e) ↔ ∃ factId, s.facts.countP (fun f => f.factId = factId ∧
          f.knownTo actorId asOfDay) < factIds.count factId) ∧
      ∀ assertions, assertionsFor s.facts s.worldNamespace s.matterNamespace actorId asOfDay
          factIds = .ok assertions →
        assertions.map (·.factId) = factIds ∧ (assertions.map (·.sourceId)).Nodup ∧
          ∀ a ∈ assertions,
            FirstLearned s.facts s.worldNamespace s.matterNamespace actorId asOfDay a ∧
              a.assertionId ∈ sealedAssertionGrantIds s := by
  constructor
  · rw [assertionsFor, assertionsLoop_error_iff hclaims]
    simp only [length_candidates, Finset.notMem_empty, not_false_eq_true, true_and]
  · intro assertions h
    obtain ⟨hids, hnodup, -, hall⟩ := assertionsLoop_ok h
    exact ⟨hids, hnodup, fun a ha => ⟨hall a ha, (hall a ha).granted⟩⟩

/-- A sealed case with two claims about one fact, both known to the expert. -/
def disputedCase : SealedCaseState where
  sealedCaseId := "SEALED-1"
  worldNamespace := "WNS-1"
  matterNamespace := "MNS-1"
  caseFamilyId := "employment_defense_g2"
  sourceBlueprintCommitment := ""
  axisLabels := []
  designLabels := []
  targetPosture := "balanced"
  resolutionTrack := "trial"
  proceduralQuality := "merits_progressing"
  representationQuality := "uneven"
  facts :=
    [⟨"CLAIM-1", "decision_status", "decision_final_on_day_38", 38, "employment_action",
      [("independent_expert", 100), ("manager_witness", 38)]⟩,
     ⟨"CLAIM-2", "decision_status", "review_in_progress_on_day_40", 40, "employment_action",
      [("hr_witness", 40), ("independent_expert", 100)]⟩]
  conflicts := []
  rulePackCommitment := ""
  compilerRevision := caseCompilerRevision

/-- The expert states the decision once for each claim, and not a third time. -/
theorem knowledge_frontier_disputed :
    (∃ e, assertionsFor disputedCase.facts disputedCase.worldNamespace
      disputedCase.matterNamespace "independent_expert" 120
        ["decision_status", "decision_status", "decision_status"] = .error e) ∧
    ∃ assertions, assertionsFor disputedCase.facts disputedCase.worldNamespace
        disputedCase.matterNamespace "independent_expert" 120
          ["decision_status", "decision_status"] = .ok assertions ∧
      (assertions.map (·.sourceId)).Nodup ∧
        ∀ a ∈ assertions, a.assertionId ∈ sealedAssertionGrantIds disputedCase := by
  have hclaims : (disputedCase.facts.map (·.claimId)).Nodup := by decide
  have hthrice := (knowledge_frontier disputedCase hclaims "independent_expert" 120
    ["decision_status", "decision_status", "decision_status"]).1.2 ⟨"decision_status", by decide⟩
  obtain ⟨assertions, htwice⟩ : ∃ assertions, assertionsFor disputedCase.facts
      disputedCase.worldNamespace disputedCase.matterNamespace "independent_expert" 120
        ["decision_status", "decision_status"] = .ok assertions := ⟨_, rfl⟩
  obtain ⟨-, hsources, hall⟩ := (knowledge_frontier disputedCase hclaims "independent_expert" 120
    ["decision_status", "decision_status"]).2 assertions htwice
  exact ⟨hthrice, assertions, htwice, hsources, fun a ha => (hall a ha).2⟩

end LawFirmDigitalTwin
