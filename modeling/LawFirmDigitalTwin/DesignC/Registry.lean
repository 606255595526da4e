import LawFirmDigitalTwin.Lib.CycleSearch
import LawFirmDigitalTwin.Lib.Groups
import LawFirmDigitalTwin.Models
import LawFirmDigitalTwin.PyText

/-!
# The Design C registry

`validate_design_c_registry` of `design_c_validator.py`. Among its findings is DCR-021, that the
assets depend on each other in a cycle: the search behind it is exact (`asset_cycle_iff`). It
recurses from asset to asset, and takes the depth it may go to; a level for each asset and one more
are enough.
-/

namespace LawFirmDigitalTwin

namespace DesignC

/-! ## The contracts -/

/-- `DESIGN_C_BASELINE_ID`. -/
def designCBaselineId : String := "design-c-baseline-v1"

/-- `DESIGN_C_REGISTRY_REVISION`. -/
def designCRegistryRevision : String := "design-c-unified-registry-v2"

/-- `HumanDecisionRecord`. -/
structure HumanDecisionRecord where
  decisionId : String
  title : String
  status : String
  owner : String
  selectedPolicy : String
  blocks : List String
  authoritySelfActivation : Bool := false

def HumanDecisionRecord.toJson (d : HumanDecisionRecord) : Json :=
  .dict
    [("decision_id", .str d.decisionId), ("title", .str d.title), ("status", .str d.status),
     ("owner", .str d.owner), ("selected_policy", .str d.selectedPolicy),
     ("blocks", .strs d.blocks), ("authority_self_activation", .bool d.authoritySelfActivation)]

/-- `DesignCAssetRecord`. -/
structure DesignCAssetRecord where
  assetId : String
  title : String
  portableClass : String
  phase : String
  status : String
  dependsOn : List String
  validatorIds : List String
  humanGateIds : List String
  doNotApply : List String

def DesignCAssetRecord.toJson (a : DesignCAssetRecord) : Json :=
  .dict
    [("asset_id", .str a.assetId), ("title", .str a.title),
     ("portable_class", .str a.portableClass), ("phase", .str a.phase), ("status", .str a.status),
     ("depends_on", .strs a.dependsOn), ("validator_ids", .strs a.validatorIds),
     ("human_gate_ids", .strs a.humanGateIds), ("do_not_apply", .strs a.doNotApply)]

/-- `GateAttachedObligation`. -/
structure GateAttachedObligation where
  obligationId : String
  statement : String
  gateId : String
  status : String
  sourceRef : String
  evidenceIds : List String
  supersedes : List String := []
  worldTruthAuthority : Bool := false
  selfActivation : Bool := false

def GateAttachedObligation.toJson (o : GateAttachedObligation) : Json :=
  .dict
    [("obligation_id", .str o.obligationId), ("statement", .str o.statement),
     ("gate_id", .str o.gateId), ("status", .str o.status), ("source_ref", .str o.sourceRef),
     ("evidence_ids", .strs o.evidenceIds), ("supersedes", .strs o.supersedes),
     ("world_truth_authority", .bool o.worldTruthAuthority),
     ("self_activation", .bool o.selfActivation)]

/-- `LearningLoopRegistryRow`. -/
structure LearningLoopRegistryRow where
  loopId : String
  title : String
  status : String
  gateId : String
  evidenceClass : String
  checkerId : String
  neverModifies : List String
  humanPromotionRequired : Bool := true
  selfPromotion : Bool := false

def LearningLoopRegistryRow.toJson (l : LearningLoopRegistryRow) : Json :=
  .dict
    [("loop_id", .str l.loopId), ("title", .str l.title), ("status", .str l.status),
     ("gate_id", .str l.gateId), ("evidence_class", .str l.evidenceClass),
     ("checker_id", .str l.checkerId), ("never_modifies", .strs l.neverModifies),
     ("human_promotion_required", .bool l.humanPromotionRequired),
     ("self_promotion", .bool l.selfPromotion)]

/-- `RuntimeQualificationPointer`. -/
structure RuntimeQualificationPointer where
  qualificationId : String
  capabilityId : String
  portableClass : String
  state : String
  contractRevision : String
  adapterRevision : String
  runtimeVersion : String
  evidencePaths : List String
  canonicalAuthority : Bool := false

def RuntimeQualificationPointer.toJson (q : RuntimeQualificationPointer) : Json :=
  .dict
    [("qualification_id", .str q.qualificationId), ("capability_id", .str q.capabilityId),
     ("portable_class", .str q.portableClass), ("state", .str q.state),
     ("contract_revision", .str q.contractRevision),
     ("adapter_revision", .str q.adapterRevision), ("runtime_version", .str q.runtimeVersion),
     ("evidence_paths", .strs q.evidencePaths),
     ("canonical_authority", .bool q.canonicalAuthority)]

/-- `DesignCUnifiedRegistry`. -/
structure DesignCUnifiedRegistry where
  registryId : String
  baselineId : String
  revision : String
  decisions : List HumanDecisionRecord
  assets : List DesignCAssetRecord
  obligations : List GateAttachedObligation
  loops : List LearningLoopRegistryRow
  runtimeQualifications : List RuntimeQualificationPointer
  sourceReceiptIds : List String
  containsSourceRows : Bool
  containsSecrets : Bool
  externalEffects : Bool
  unattendedExecutionAuthorized : Bool
  canonicalActivationAuthorized : Bool

def DesignCUnifiedRegistry.toJson (r : DesignCUnifiedRegistry) : Json :=
  .dict
    [("registry_id", .str r.registryId), ("baseline_id", .str r.baselineId),
     ("revision", .str r.revision),
     ("decisions", .list (r.decisions.map HumanDecisionRecord.toJson)),
     ("assets", .list (r.assets.map DesignCAssetRecord.toJson)),
     ("obligations", .list (r.obligations.map GateAttachedObligation.toJson)),
     ("loops", .list (r.loops.map LearningLoopRegistryRow.toJson)),
     ("runtime_qualifications",
       .list (r.runtimeQualifications.map RuntimeQualificationPointer.toJson)),
     ("source_receipt_ids", .strs r.sourceReceiptIds),
     ("contains_source_rows", .bool r.containsSourceRows),
     ("contains_secrets", .bool r.containsSecrets),
     ("external_effects", .bool r.externalEffects),
     ("unattended_execution_authorized", .bool r.unattendedExecutionAuthorized),
     ("canonical_activation_authorized", .bool r.canonicalActivationAuthorized)]

/-! ## The validator -/

/-- One finding, where the condition holds. -/
def errorIf (condition : Bool) (error : String) : List String := if condition then [error] else []

/-- `_duplicates`. -/
def duplicates (values : List String) : List String :=
  ((Groups.distinct values).filter fun value => 1 < values.count value).insertionSort (· ≤ ·)

/-- Two lists have the same elements. -/
def sameSet (values expected : List String) : Bool := values ⊆ expected ∧ expected ⊆ values

/-- The statuses that the decisions are to have. -/
def expectedStatuses : List (String × String) :=
  [("H-1", "delegated"), ("H-2", "adopted"), ("H-3", "adopted"), ("H-4", "pending"),
   ("H-5", "adopted"), ("H-6", "adopted"), ("H-7", "adopted"), ("H-8", "pending"),
   ("H-9", "pending"), ("H-10", "adopted"), ("H-11", "adopted"), ("H-12", "pending")]

/-- Whether a decision has another state than the expected status asks for. -/
def decisionInvalid (decision : Option HumanDecisionRecord) (expectedStatus : String) : Bool :=
  match decision with
  | none => true
  | some decision =>
    decision.status ≠ expectedStatus ∨
      (expectedStatus = "pending" ∧ ¬ startsWith decision.selectedPolicy "UNSET_") ∨
      (expectedStatus ≠ "pending" ∧ startsWith decision.selectedPolicy "UNSET_")

/-- The findings of one asset. -/
def assetErrors (assetIds : List String) (decisions : PyDict HumanDecisionRecord)
    (asset : DesignCAssetRecord) : List String :=
  errorIf (asset.validatorIds = [] ∨ asset.doNotApply = [])
    ("DCR-012:" ++ asset.assetId ++ ":asset_contract_incomplete") ++
  asset.dependsOn.flatMap (fun dependency =>
    errorIf (dependency ∉ assetIds ∨ dependency = asset.assetId)
      ("DCR-013:" ++ asset.assetId ++ ":asset_dependency_invalid")) ++
  asset.humanGateIds.flatMap fun gate =>
    errorIf (decisions.get? gate).isNone ("DCR-014:" ++ asset.assetId ++ ":unknown_human_gate")

/-- `graph`: the dependencies of each asset. -/
def assetGraph (registry : DesignCUnifiedRegistry) : PyDict (List String) :=
  PyDict.ofEntries (registry.assets.map fun asset => (asset.assetId, asset.dependsOn))

/-- The dependencies of an asset that are in the graph. -/
def dependenciesIn (graph : PyDict (List String)) (assetId : String) : List String :=
  ((graph.get? assetId).getD []).filter fun dependency => (graph.get? dependency).isSome

/-- `any(visit(asset_id) for asset_id in graph)`. -/
def assetCycle (depth : Nat) (registry : DesignCUnifiedRegistry) : Option Bool :=
  (CycleSearch.anyOf (CycleSearch.visit (dependenciesIn (assetGraph registry)) depth)
    (Groups.distinct (registry.assets.map (·.assetId))) ⟨[], []⟩).map (·.1)

/-- The findings of one obligation. -/
def obligationErrors (o : GateAttachedObligation) : List String :=
  errorIf (o.gateId = "" ∨ o.evidenceIds = [] ∨ o.worldTruthAuthority ∨ o.selfActivation)
    ("DCR-015:" ++ o.obligationId ++ ":obligation_invalid") ++
  errorIf (o.status = "proposed")
    ("DCR-016:" ++ o.obligationId ++ ":frozen_baseline_has_proposed_obligation")

/-- The findings of one loop. -/
def loopErrors (l : LearningLoopRegistryRow) : List String :=
  errorIf (l.status ≠ "proposed_active_g0c" ∨ ¬ l.humanPromotionRequired ∨ l.selfPromotion ∨
      "world_truth" ∉ l.neverModifies ∨ l.loopId = l.checkerId)
    ("DCR-017:" ++ l.loopId ++ ":loop_authority_invalid")

/-- The findings of one qualification. -/
def qualificationErrors (q : RuntimeQualificationPointer) : List String :=
  errorIf (q.canonicalAuthority ∨ q.state ≠ "qualified_optional_nondefault")
    ("DCR-018:" ++ q.qualificationId ++ ":qualification_authority_invalid") ++
  errorIf (q.evidencePaths = [])
    ("DCR-019:" ++ q.qualificationId ++ ":qualification_evidence_missing")

/-- The findings before those of the assets. -/
def headErrors (registry : DesignCUnifiedRegistry) : List String :=
  let decisionIds := registry.decisions.map (·.decisionId)
  let assetIds := registry.assets.map (·.assetId)
  let loopIds := registry.loops.map (·.loopId)
  errorIf (registry.revision ≠ designCRegistryRevision ∨ registry.baselineId ≠ designCBaselineId)
    "DCR-001:registry_revision_or_baseline_invalid" ++
  errorIf (registry.containsSourceRows ∨ registry.containsSecrets ∨ registry.externalEffects ∨
      registry.unattendedExecutionAuthorized ∨ registry.canonicalActivationAuthorized)
    "DCR-002:registry_authority_boundary_invalid" ++
  [("DCR-003", decisionIds), ("DCR-004", assetIds),
    ("DCR-005", registry.obligations.map (·.obligationId)), ("DCR-006", loopIds),
    ("DCR-007", registry.runtimeQualifications.map (·.qualificationId))].flatMap (fun row =>
      errorIf (duplicates row.2 ≠ []) (row.1 ++ ":duplicate_id")) ++
  errorIf (¬ sameSet decisionIds ["H-1", "H-2", "H-3", "H-4", "H-5", "H-6", "H-7", "H-8", "H-9",
    "H-10", "H-11", "H-12"]) "DCR-008:human_decision_coverage_invalid" ++
  errorIf (¬ sameSet assetIds ["A1", "A2", "A3", "A4", "A5", "A6", "A7", "A8", "A9", "A10", "A11",
    "A12", "A13", "A14"]) "DCR-009:asset_coverage_invalid" ++
  errorIf (¬ sameSet loopIds ["L0", "L1", "L2", "L3", "L4"]) "DCR-010:g0c_loop_scope_invalid"

/-- `validate_design_c_registry`. -/
def validateDesignCRegistry (depth : Nat) (registry : DesignCUnifiedRegistry) :
    Option (List String) := do
  let decisions := PyDict.ofEntries (registry.decisions.map fun d => (d.decisionId, d))
  let cycle ← assetCycle depth registry
  let text := lowerText (canonicalJson registry.toJson)
  return headErrors registry ++
    expectedStatuses.flatMap (fun row =>
      errorIf (decisionInvalid (decisions.get? row.1) row.2)
        ("DCR-011:" ++ row.1 ++ ":decision_state_invalid")) ++
    registry.assets.flatMap (assetErrors (registry.assets.map (·.assetId)) decisions) ++
    errorIf cycle "DCR-021:asset_dependency_cycle" ++
    registry.obligations.flatMap obligationErrors ++
    registry.loops.flatMap loopErrors ++
    registry.runtimeQualifications.flatMap qualificationErrors ++
    ["client_payload", "raw_email_body", "sealed_key_value", "canary_token_value",
      "pacer_purchase"].flatMap fun forbidden =>
        errorIf (textContains text forbidden) ("DCR-020:forbidden_registry_content:" ++ forbidden)

/-! ## The cycle of the assets -/

/-- An asset depends on another one of the registry. -/
def AssetDependsOn (registry : DesignCUnifiedRegistry) (a b : String) : Prop :=
  (∃ asset ∈ registry.assets, asset.assetId = a ∧ b ∈ asset.dependsOn) ∧
    ∃ asset ∈ registry.assets, asset.assetId = b

section
variable {registry : DesignCUnifiedRegistry}

/-- The nodes of the graph are the assets. -/
theorem map_fst_assetGraph :
    (registry.assets.map fun asset => (asset.assetId, asset.dependsOn)).map (·.1) =
      registry.assets.map (·.assetId) := by
  rw [List.map_map]
  rfl

/-- A node is in the graph where an asset has its id. -/
theorem isSome_get?_assetGraph (b : String) :
    ((assetGraph registry).get? b).isSome = true ↔ ∃ asset ∈ registry.assets, asset.assetId = b := by
  have hkeys : ((assetGraph registry).get? b).isSome = true ↔ b ∈ (assetGraph registry).keys := by
    rw [Finmap.mem_keys, ← Finmap.lookup_isSome]
    rfl
  rw [hkeys, assetGraph, PyDict.keys_ofEntries, map_fst_assetGraph, List.mem_toFinset, List.mem_map]

/-- With distinct ids, the graph has the edges of the registry. -/
theorem mem_dependenciesIn (hnodup : (registry.assets.map (·.assetId)).Nodup) {a b : String} :
    b ∈ dependenciesIn (assetGraph registry) a ↔ AssetDependsOn registry a b := by
  rw [dependenciesIn, List.mem_filter, isSome_get?_assetGraph, AssetDependsOn]
  refine and_congr_left fun _ => ?_
  constructor
  · intro hb
    cases hget : (assetGraph registry).get? a with
    | none =>
      rw [hget] at hb
      cases hb
    | some ds =>
      rw [hget] at hb
      obtain ⟨asset, hasset, heq⟩ := List.mem_map.1 (PyDict.mem_of_get?_ofEntries hget)
      cases heq
      exact ⟨asset, hasset, rfl, hb⟩
  · rintro ⟨asset, hasset, rfl, hb⟩
    have hget : (assetGraph registry).get? asset.assetId = some asset.dependsOn :=
      PyDict.get?_ofEntries_of_mem (map_fst_assetGraph ▸ hnodup)
        (List.mem_map.2 ⟨asset, hasset, rfl⟩)
    rwa [hget]

/-- **The search finds a cycle of the assets exactly when there is one.** -/
theorem assetCycle_spec (hnodup : (registry.assets.map (·.assetId)).Nodup) {depth : Nat}
    (hdepth : registry.assets.length < depth) :
    ∃ cycle, assetCycle depth registry = some cycle ∧
      (cycle = true ↔ ∃ a, Relation.TransGen (AssetDependsOn registry) a a) := by
  have hedge : Topological.DependsOn (registry.assets.map (·.assetId))
      (dependenciesIn (assetGraph registry)) = AssetDependsOn registry := by
    funext a b
    refine propext ⟨fun h => (mem_dependenciesIn hnodup).1 h.2, fun h => ⟨?_, ?_⟩⟩
    · obtain ⟨asset, hasset, rfl, -⟩ := h.1
      exact List.mem_map_of_mem hasset
    · exact (mem_dependenciesIn hnodup).2 h
  have hinside : ∀ a ∈ registry.assets.map (·.assetId),
      ∀ b ∈ dependenciesIn (assetGraph registry) a, b ∈ registry.assets.map (·.assetId) :=
    fun a _ b hb => List.mem_map.2 ((mem_dependenciesIn hnodup).1 hb).2
  obtain ⟨r, hr, hcycle⟩ := CycleSearch.search_spec hinside
    (by rwa [List.length_map] : (registry.assets.map (·.assetId)).length < depth)
  refine ⟨r.1, by rw [assetCycle, Groups.distinct_of_nodup hnodup, hr, Option.map_some], ?_⟩
  rw [hcycle, hedge, Topological.Acyclic, not_forall]
  exact exists_congr fun a => not_not

/-! ## The finding -/

/-- The error reported is the one named, where the condition holds. -/
theorem mem_errorIf {condition : Bool} {e error : String} :
    e ∈ errorIf condition error ↔ condition = true ∧ e = error := by
  unfold errorIf
  split
  · next h => simp [h]
  · next h => simp [h]

/-- A finding of another code is none of DCR-021. -/
theorem notMem_errorIf {code : String} (hlength : code.toList.length = 8)
    (hcode : code ≠ "DCR-021:") (condition : Bool) (subject text : String) :
    "DCR-021:asset_dependency_cycle" ∉ errorIf condition (code ++ subject ++ text) := by
  intro h
  have heq := (mem_errorIf.1 h).2
  have hsplit : "DCR-021:asset_dependency_cycle" = "DCR-021:" ++ "asset_dependency_cycle" := by decide
  rw [hsplit, String.append_assoc] at heq
  have hlist := congrArg String.toList heq
  simp only [String.toList_append] at hlist
  have hprefix := (List.append_inj hlist (by rw [hlength]; rfl)).1
  exact hcode (String.toList_inj.1 hprefix).symm

/-- The checks of the head never report a cycle. -/
theorem notMem_headErrors : "DCR-021:asset_dependency_cycle" ∉ headErrors registry := by
  simp only [headErrors, List.flatMap_cons, List.flatMap_nil, List.mem_append, mem_errorIf,
    List.not_mem_nil, not_or, not_and]
  refine ⟨⟨⟨⟨⟨fun _ => ?_, fun _ => ?_⟩, fun _ => ?_, fun _ => ?_, fun _ => ?_, fun _ => ?_,
    fun _ => ?_, not_false⟩, fun _ => ?_⟩, fun _ => ?_⟩, fun _ => ?_⟩
  all_goals decide

/-- Nor do the checks of an asset. -/
theorem notMem_assetErrors (assetIds : List String) (decisions : PyDict HumanDecisionRecord)
    (asset : DesignCAssetRecord) :
    "DCR-021:asset_dependency_cycle" ∉ assetErrors assetIds decisions asset := by
  simp only [assetErrors, List.mem_append, List.mem_flatMap, not_or, not_exists, not_and]
  exact ⟨⟨notMem_errorIf (by decide) (by decide) _ _ _,
    fun _ _ => notMem_errorIf (by decide) (by decide) _ _ _⟩,
    fun _ _ => notMem_errorIf (by decide) (by decide) _ _ _⟩

/-- Nor do those of an obligation. -/
theorem notMem_obligationErrors (o : GateAttachedObligation) :
    "DCR-021:asset_dependency_cycle" ∉ obligationErrors o := by
  simp only [obligationErrors, List.mem_append, not_or]
  exact ⟨notMem_errorIf (by decide) (by decide) _ _ _,
    notMem_errorIf (by decide) (by decide) _ _ _⟩

/-- Nor do those of a qualification. -/
theorem notMem_qualificationErrors (q : RuntimeQualificationPointer) :
    "DCR-021:asset_dependency_cycle" ∉ qualificationErrors q := by
  simp only [qualificationErrors, List.mem_append, not_or]
  exact ⟨notMem_errorIf (by decide) (by decide) _ _ _,
    notMem_errorIf (by decide) (by decide) _ _ _⟩

/-- Nor does the search for forbidden content. -/
theorem notMem_forbidden (text : String) :
    ∀ forbidden ∈ ["client_payload", "raw_email_body", "sealed_key_value", "canary_token_value",
      "pacer_purchase"], "DCR-021:asset_dependency_cycle" ∉
        errorIf (textContains text forbidden) ("DCR-020:forbidden_registry_content:" ++ forbidden) := by
  simp only [List.forall_mem_cons, mem_errorIf, not_and]
  refine ⟨fun _ => ?_, fun _ => ?_, fun _ => ?_, fun _ => ?_, fun _ => ?_, List.forall_mem_nil _⟩
  all_goals decide

end

/-- **The finding of a cycle is exact.** For assets with distinct ids, DCR-021 is reported exactly
when the registered assets depend on each other in a cycle. -/
theorem asset_cycle_iff {registry : DesignCUnifiedRegistry}
    (hnodup : (registry.assets.map (·.assetId)).Nodup) {depth : Nat}
    (hdepth : registry.assets.length < depth) :
    ∃ errors, validateDesignCRegistry depth registry = some errors ∧
      ("DCR-021:asset_dependency_cycle" ∈ errors ↔
        ∃ a, Relation.TransGen (AssetDependsOn registry) a a) := by
  obtain ⟨cycle, hcycle, hiff⟩ := assetCycle_spec hnodup hdepth
  refine ⟨_, by rw [validateDesignCRegistry, hcycle]; rfl, ?_⟩
  rw [← hiff]
  simp only [List.mem_append]
  constructor
  · -- no other finding has this code
    rintro (((((((h | h) | h) | h) | h) | h) | h) | h)
    · exact absurd h notMem_headErrors
    · obtain ⟨row, -, h⟩ := List.mem_flatMap.1 h
      exact absurd h (notMem_errorIf (by decide) (by decide) _ _ _)
    · obtain ⟨asset, -, h⟩ := List.mem_flatMap.1 h
      exact absurd h (notMem_assetErrors _ _ asset)
    · exact (mem_errorIf.1 h).1
    · obtain ⟨o, -, h⟩ := List.mem_flatMap.1 h
      exact absurd h (notMem_obligationErrors o)
    · obtain ⟨l, -, h⟩ := List.mem_flatMap.1 h
      exact absurd h (notMem_errorIf (by decide) (by decide) _ _ _)
    · obtain ⟨q, -, h⟩ := List.mem_flatMap.1 h
      exact absurd h (notMem_qualificationErrors q)
    · obtain ⟨forbidden, hforbidden, h⟩ := List.mem_flatMap.1 h
      exact absurd h (notMem_forbidden _ forbidden hforbidden)
  · exact fun h => .inl (.inl (.inl (.inl (.inr (mem_errorIf.2 ⟨h, rfl⟩)))))

/-- Two assets of a registry. -/
def assetPair : DesignCUnifiedRegistry where
  registryId := "registry"
  baselineId := designCBaselineId
  revision := designCRegistryRevision
  decisions := []
  assets := [⟨"A1", "", "portable_core", "", "proposed", ["A2"], ["V"], [], ["N"]⟩,
    ⟨"A2", "", "portable_core", "", "proposed", ["A1"], ["V"], [], ["N"]⟩]
  obligations := []
  loops := []
  runtimeQualifications := []
  sourceReceiptIds := []
  containsSourceRows := false
  containsSecrets := false
  externalEffects := false
  unattendedExecutionAuthorized := false
  canonicalActivationAuthorized := false

/-- Two assets that depend on each other make a cycle. -/
theorem asset_cycle_pair :
    ∃ errors, validateDesignCRegistry 3 assetPair = some errors ∧
      ("DCR-021:asset_dependency_cycle" ∈ errors ↔
        ∃ a, Relation.TransGen (AssetDependsOn assetPair) a a) :=
  asset_cycle_iff (by decide) (by decide)

end DesignC

end LawFirmDigitalTwin
