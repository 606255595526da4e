import LawFirmDigitalTwin.Lib.Returns
import LawFirmDigitalTwin.Campaign.Order

/-!
# Where the validator returns

The shape of the graph of phases is checked before the validator goes through it; what else the
validator reads it takes to have the right type. Part by part, what a manifest must be like for the
part to return (`Tame`).
-/

namespace LawFirmDigitalTwin

namespace Json

/-- A value that can be hashed. -/
def IsHashable : Json → Prop
  | .list _ | .dict _ => False
  | _ => True

/-- A value that can be compared with an integer. -/
def IsNumber : Json → Prop
  | .bool _ | .int _ | .float _ => True
  | _ => False

section
variable {B : Builtins} {v : Json}

/-- A value is hashed where it can be. -/
theorem returns_hashed : Raising.Returns (v.hashed B) ↔ v.IsHashable := by
  cases v <;> simp [hashed, key?, IsHashable]

/-- A value is compared with a number where it is one. -/
theorem returns_order {n : Int} : Raising.Returns (v.order B n) ↔ v.IsNumber := by
  cases v <;> simp [order, IsNumber]

/-- A value is used as an object where it is one. -/
theorem returns_asObject : Raising.Returns v.asObject ↔ ∃ d, v = .dict d := by
  cases v <;> simp [asObject]

/-- An object is used as itself. -/
theorem asObject_eq_ok {d : JsonObject} : v.asObject = .ok d ↔ v = .dict d := by
  cases v <;> simp [asObject]

end

end Json

namespace Campaign

open Raising

/-- The values that a value is iterated to can be hashed. -/
def HashableItems (v : Json) : Prop := ∃ items, v.iterate = .ok items ∧ ∀ item ∈ items, item.IsHashable

/-- A value may be looked up in another. -/
def MayBeIn (v : Json) : Json → Prop
  | .list _ => True
  | .dict _ => v.IsHashable
  | .str _ => ∃ s, v = .str s
  | _ => False

section
variable (B : Builtins)

/-- The dependencies of a job that are not known, as a set. -/
def unknownOf (known : List PyKey) (deps : List (PyKey × Json)) : List Json :=
  ((deps.filter fun d => d.1 ∉ known).eraseDupsBy fun d d' => d.1 = d'.1).map (·.2)

/-- What the loop over the jobs takes for granted of a job. -/
structure TameJob (known : List PyKey) (item : JsonObject) : Prop where
  dependencies : HashableItems (item.getD "depends_on" (.list []))
  sorted : ∀ deps, dependenciesOf B item = .ok deps → Returns (sortedValues B (unknownOf known deps))
  policy : ∃ policy, item.getD "retry_policy" (.dict []) = .dict policy
  outputs : ∀ outputs, outputsOf item = some outputs → ∀ output ∈ outputs,
    MayBeIn output (item.getD "allowed_paths" (.list []))
  acceptance : ∀ outputs, outputsOf item = some outputs →
    ∃ gates, (item.getD "acceptance" (.list [])).iterate = .ok gates ∧ ∀ gate ∈ gates,
      ∃ d : JsonObject, gate = .dict d ∧ HashableItems (d.getD "result_semantics" (.dict []))

end

section
variable {B : Builtins} {item : JsonObject} {known : List PyKey}

/-! ## The jobs -/

/-- A set is made of a value that can be iterated to values with hashes. -/
theorem returns_keySet {v : Json} : Returns (v.keySet B) ↔ HashableItems v := by
  unfold Json.keySet HashableItems
  simp only [returns_bind, returns_mapM, Json.returns_hashed]

/-- The dependencies of a job are made a set of. -/
theorem returns_dependenciesOf :
    Returns (dependenciesOf B item) ↔ HashableItems (item.getD "depends_on" (.list [])) := by
  unfold dependenciesOf HashableItems
  rw [returns_bind]
  refine exists_congr fun ds => and_congr_right fun _ => returns_mapM.trans ?_
  exact forall₂_congr fun d _ =>
    (returns_bind_of_forall fun _ => returns_pure _).trans Json.returns_hashed

/-- The check of the dependencies also sorts the unknown ones. -/
theorem returns_dependencyErrors :
    Returns (dependencyErrors B known item) ↔
      HashableItems (item.getD "depends_on" (.list [])) ∧
        ∀ deps, dependenciesOf B item = .ok deps →
          Returns (sortedValues B (unknownOf known deps)) := by
  unfold dependencyErrors
  rw [← returns_dependenciesOf]
  cases hdeps : dependenciesOf B item with
  | error e => exact iff_of_false (not_returns_error e) fun h => not_returns_error e h.1
  | ok deps =>
    simp only [ok_bind, returns_ok, true_and, Except.ok.injEq, forall_eq']
    split
    · next hempty =>
      rw [List.isEmpty_iff] at hempty
      refine iff_of_true (returns_ok _) ?_
      rw [unknownOf, hempty]
      exact returns_ok _
    · exact returns_bind_of_forall fun _ => returns_pure _

/-- The check of the fields asks for a policy that is an object. -/
theorem returns_fieldErrors :
    Returns (fieldErrors B item) ↔ ∃ policy, item.getD "retry_policy" (.dict []) = .dict policy :=
  (returns_bind_of_forall fun _ => returns_pure _).trans Json.returns_asObject

/-- A value is looked up in another where it may be. -/
theorem returns_isIn {v w : Json} : Returns (v.isIn B w) ↔ MayBeIn v w := by
  cases w with
  | dict entries => exact returns_map.trans Json.returns_hashed
  | str t => cases v <;> simp [Json.isIn, MayBeIn]
  | null | bool | int | float | list => simp [Json.isIn, MayBeIn]

/-- The check of an output looks it up in the allowed paths. -/
theorem returns_outputErrors {owner : PyDict String} {output : Json} :
    Returns (outputErrors B item owner output) ↔
      MayBeIn output (item.getD "allowed_paths" (.list [])) :=
  (returns_bind_of_forall fun _ => returns_pure _).trans returns_isIn

/-- The check of the outputs looks each of them up. -/
theorem returns_outputsErrors {owner : PyDict String} {outputs : List Json} :
    Returns (outputsErrors B item owner outputs) ↔
      ∀ output ∈ outputs, MayBeIn output (item.getD "allowed_paths" (.list [])) := by
  induction outputs generalizing owner with
  | nil => exact iff_of_true (returns_ok _) (List.forall_mem_nil _)
  | cons output outputs ih =>
    rw [outputsErrors, List.forall_mem_cons, ← @returns_outputErrors B item owner output]
    exact returns_bind_of_iff fun _ _ => (returns_bind_of_forall fun _ => returns_pure _).trans ih

/-- The check of a gate asks for an object whose results can be hashed. -/
theorem returns_gateErrors {gate : Json} :
    Returns (gateErrors B item gate) ↔
      ∃ d : JsonObject, gate = .dict d ∧ HashableItems (d.getD "result_semantics" (.dict [])) := by
  unfold gateErrors
  rw [returns_bind]
  refine exists_congr fun d => and_congr Json.asObject_eq_ok ?_
  exact (returns_bind_of_forall fun _ => returns_pure _).trans returns_keySet

/-- The check of the acceptance asks this of every gate. -/
theorem returns_acceptanceErrors :
    Returns (acceptanceErrors B item) ↔
      ∃ gates, (item.getD "acceptance" (.list [])).iterate = .ok gates ∧ ∀ gate ∈ gates,
        ∃ d : JsonObject, gate = .dict d ∧
          HashableItems (d.getD "result_semantics" (.dict [])) := by
  unfold acceptanceErrors
  rw [returns_bind]
  refine exists_congr fun gates => and_congr_right fun _ => ?_
  rw [returns_bind_of_forall fun _ => returns_pure _, returns_collect, List.forall_mem_map]
  exact forall₂_congr fun gate _ => returns_gateErrors

/-- **A pass of the loop over the jobs returns for the jobs that are tame.** -/
theorem returns_jobErrors {owner : PyDict String} :
    Returns (jobErrors B known owner item) ↔ TameJob B known item := by
  unfold jobErrors
  rw [returns_bind_of_iff (P := ∀ outputs, outputsOf item = some outputs →
    (∀ output ∈ outputs, MayBeIn output (item.getD "allowed_paths" (.list []))) ∧
      Returns (acceptanceErrors B item)) fun errors _ => ?_, returns_collect]
  swap
  · cases houtputs : outputsOf item with
    | none => exact iff_of_true (returns_pure _) fun _ h => by cases h
    | some outputs =>
      simp only [Option.some.injEq, forall_eq']
      rw [returns_bind_of_iff fun _ _ => returns_bind_of_forall fun _ => returns_pure _,
        returns_outputsErrors]
  simp only [List.forall_mem_cons, List.not_mem_nil, false_implies, implies_true, and_true,
    returns_dependencyErrors, returns_fieldErrors, returns_acceptanceErrors]
  constructor
  · rintro ⟨⟨⟨hdependencies, hsorted⟩, hpolicy⟩, houtputs⟩
    exact ⟨hdependencies, hsorted, hpolicy, fun outputs h => (houtputs outputs h).1,
      fun outputs h => (houtputs outputs h).2⟩
  · rintro ⟨hdependencies, hsorted, hpolicy, houtputs, hacceptance⟩
    exact ⟨⟨⟨hdependencies, hsorted⟩, hpolicy⟩, fun outputs h =>
      ⟨houtputs outputs h, hacceptance outputs h⟩⟩

/-- The check of the jobs returns for those that are tame. -/
theorem returns_jobsErrors {owner : PyDict String} {items : List JsonObject} :
    Returns (jobsErrors B known owner items) ↔ ∀ item ∈ items, TameJob B known item := by
  induction items generalizing owner with
  | nil => exact iff_of_true (returns_ok _) (List.forall_mem_nil _)
  | cons item items ih =>
    rw [jobsErrors, List.forall_mem_cons, ← @returns_jobErrors B item known owner]
    exact returns_bind_of_iff fun _ _ => (returns_bind_of_forall fun _ => returns_pure _).trans ih

end

/-! ## The other parts -/

/-- What the part about `execution` takes for granted. -/
structure TameExecution (execution : JsonObject) : Prop where
  mode : (execution.getD "mode" .null).IsHashable
  fields : execution.getD "mode" .null = .str "unattended" → ∀ field ∈ launchFields,
    (execution.getD field .null).IsHashable

section
variable {B : Builtins} {depth : Nat} {data : JsonObject}

/-- The check of the execution returns for one that is tame. -/
theorem returns_executionErrors :
    Returns (executionErrors B data) ↔
      ∀ execution, data.getD "execution" (.dict []) = .dict execution → TameExecution execution := by
  unfold executionErrors
  cases hexecution : data.getD "execution" (.dict []) with
  | dict execution =>
    simp only [Json.dict.injEq, forall_eq']
    cases hmode : (JsonObject.getD execution "mode" .null).hashed B with
    | error e =>
      refine iff_of_false (not_returns_error e) fun htame => ?_
      obtain ⟨key, hkey⟩ := Json.returns_hashed (B := B).2 htame.mode
      rw [hmode] at hkey
      cases hkey
    | ok key =>
      have hhashable : (JsonObject.getD execution "mode" .null).IsHashable :=
        Json.returns_hashed.1 ⟨key, hmode⟩
      rw [ok_bind]
      by_cases hspecification : key = .str "specification_only"
      · subst hspecification
        rw [Json.hashed_eq_str] at hmode
        refine iff_of_true ⟨_, rfl⟩ ⟨hhashable, fun hunattended => ?_⟩
        rw [hmode] at hunattended
        exact absurd hunattended (by simp)
      · rw [if_neg hspecification]
        by_cases hunattended : key = .str "unattended"
        · subst hunattended
          rw [Json.hashed_eq_str] at hmode
          simp only [if_true, ok_bind]
          rw [returns_bind_of_forall fun _ => returns_pure _, returns_collect, List.forall_mem_map]
          refine ⟨fun h => ⟨hhashable, fun _ field hfield => ?_⟩, fun h field hfield => ?_⟩
          · exact Json.returns_hashed.1
              ((returns_bind_of_forall fun _ => returns_pure _).1 (h field hfield))
          · exact (returns_bind_of_forall fun _ => returns_pure _).2
              (Json.returns_hashed.2 (h.fields hmode field hfield))
        · rw [if_neg hunattended]
          refine iff_of_true ⟨_, rfl⟩ ⟨hhashable, fun hmode' => ?_⟩
          rw [hmode', Json.hashed_str] at hmode
          exact absurd (Except.ok.inj hmode).symm hunattended
  | _ => exact iff_of_true ⟨_, rfl⟩ fun _ h => by cases h

/-- The check of the stops iterates them and hashes their codes. -/
theorem returns_stopErrors :
    Returns (stopErrors B data) ↔
      ∃ conditions, (data.getD "stop_conditions" (.list [])).iterate = .ok conditions ∧
        ∀ item ∈ objectsOf conditions, (item.getD "code" .null).IsHashable := by
  unfold stopErrors
  rw [returns_bind]
  refine exists_congr fun conditions => and_congr_right fun _ => ?_
  rw [returns_bind_of_forall fun _ => returns_pure _, returns_mapM]
  exact forall₂_congr fun item _ => Json.returns_hashed

/-- The check of the ids hashes them. -/
theorem returns_idErrors :
    Returns (idErrors B data) ↔ ∀ job ∈ jobs data, (job.getD "id" .null).IsHashable := by
  unfold idErrors
  rw [returns_bind_of_forall fun _ => returns_pure _, returns_mapM, List.forall_mem_map]
  exact forall₂_congr fun job _ => Json.returns_hashed

/-- The keys of the ids that can be hashed. -/
def knownKeys (B : Builtins) (data : JsonObject) : List PyKey :=
  (jobs data).filterMap fun item => (item.getD "id" .null).key? B

/-- Where the ids can be hashed they are all known. -/
theorem knownIds_eq (h : ∀ job ∈ jobs data, (job.getD "id" .null).IsHashable) :
    knownIds B data = .ok (knownKeys B data) := by
  unfold knownIds knownKeys
  generalize jobs data = items at h
  induction items with
  | nil => rfl
  | cons item items ih =>
    obtain ⟨key, hkey⟩ := Json.returns_hashed (B := B).2 (h item (.head _))
    have hkey? : (item.getD "id" .null).key? B = some key := by
      unfold Json.hashed at hkey
      split at hkey
      · next hsome => rw [hsome, Except.ok.inj hkey]
      · cases hkey
    rw [List.mapM_cons, hkey, ih fun job hjob => h job (.tail _ hjob), List.filterMap_cons, hkey?]
    rfl

/-- In the graph of the jobs' dependencies no more visits are nested than may be. -/
def SearchFits (B : Builtins) (depth : Nat) (data : JsonObject) : Prop :=
  ∀ graph, graphOf B (jobs data) = .ok graph → ∀ n,
    DepthFirst.Nests Prod.fst (leadsTo graph) ∅
      ((graph.map (·.1)).eraseDups.map fun node => (PyKey.str node, Json.str node)) n → n ≤ depth

/-- A search that may nest one call more than there are jobs fits. -/
theorem searchFits_of_length (h : (jobs data).length < depth) : SearchFits B depth data := by
  intro graph hgraph n hnests
  have hnames := (graphOf_eq_ok hgraph).1
  let inner : Finset PyKey := ((graph.map (·.1)).map PyKey.str).toFinset
  have hinner : ∀ a, leadsTo graph a ≠ [] → a ∈ inner := by
    intro a hne
    obtain ⟨d, hd⟩ := List.exists_mem_of_ne_nil _ hne
    obtain ⟨s, deps, rfl, hentry, -⟩ := mem_leadsTo hd
    exact List.mem_toFinset.2 (List.mem_map_of_mem (List.mem_map_of_mem hentry))
  have hcard : inner.card ≤ (jobs data).length := by
    refine (List.toFinset_card_le _).trans ?_
    rw [hnames, List.length_map, List.length_map]
  obtain ⟨entered, hsub, -, hle⟩ := hnests.le hinner
  have hless := Finset.card_le_card hsub
  omega

/-- The graph is built of dependencies that can be hashed. -/
theorem returns_graphOf {items : List JsonObject} :
    Returns (graphOf B items) ↔ ∀ item ∈ items, HashableItems (item.getD "depends_on" (.list [])) := by
  unfold graphOf
  rw [returns_mapM]
  exact forall₂_congr fun item _ =>
    (returns_bind_of_forall fun _ => returns_pure _).trans returns_dependenciesOf

/-- The search for cycles returns for such dependencies, where it fits. -/
theorem returns_cycleErrors :
    Returns (cycleErrors B depth data) ↔
      (∀ job ∈ jobs data, HashableItems (job.getD "depends_on" (.list []))) ∧
        SearchFits B depth data := by
  unfold cycleErrors SearchFits
  rw [← returns_graphOf (B := B)]
  cases hgraph : graphOf B (jobs data) with
  | error e => exact iff_of_false (not_returns_error e) fun h => not_returns_error e h.1
  | ok graph =>
    simp only [ok_bind, returns_ok, true_and, Except.ok.injEq, forall_eq']
    rw [← DepthFirst.search_isSome_iff]
    split
    · next hnone => simp [hnone]
    · next search hsome => simp [hsome]

/-- **The search for cycles does not run out of calls** where more may be nested than there are
jobs: it returns where every job's dependencies can be iterated to values that have hashes. -/
theorem cycleErrors_returns_iff (B : Builtins) (depth : Nat) (data : JsonObject)
    (h : (jobs data).length < depth) :
    Returns (cycleErrors B depth data) ↔
      ∀ job ∈ jobs data, HashableItems (job.getD "depends_on" (.list [])) := by
  rw [returns_cycleErrors, and_iff_left (searchFits_of_length h)]

/-- Two jobs, one of which depends on the other. -/
theorem cycleErrors_returns_iff_aliased :
    (jobs aliasedManifest).length = 2 ∧
      (Returns (cycleErrors fixtureBuiltins 3 aliasedManifest) ↔
        ∀ job ∈ jobs aliasedManifest, HashableItems (job.getD "depends_on" (.list []))) := by
  have hlength : (jobs aliasedManifest).length = 2 := rfl
  refine ⟨hlength, cycleErrors_returns_iff fixtureBuiltins 3 aliasedManifest ?_⟩
  rw [hlength]
  decide

/-- The check of the budgets asks for an object with two numbers. -/
theorem returns_budgetErrors :
    Returns (budgetErrors B data) ↔
      ∃ budgets : JsonObject, data.getD "budgets" (.dict []) = .dict budgets ∧
        (budgets.getD "max_parallel_jobs" (.int 0)).IsNumber ∧
        (budgets.getD "max_attempts_total" (.int 0)).IsNumber := by
  unfold budgetErrors
  rw [returns_bind]
  refine exists_congr fun budgets => and_congr Json.asObject_eq_ok ?_
  rw [returns_bind_of_iff fun _ _ => (returns_bind_of_forall fun _ => returns_pure _).trans
    Json.returns_order, Json.returns_order]

/-- The check of the mesh asks for an object. -/
theorem returns_meshErrors :
    Returns (meshErrors B data) ↔
      ∃ mesh : JsonObject, data.getD "specialist_mesh" (.dict []) = .dict mesh :=
  (returns_bind_of_forall fun _ => returns_pure _).trans Json.returns_asObject

end

/-! ## The manifest -/

/-- What the validator takes for granted of a manifest that is an object. -/
structure Tame (B : Builtins) (depth : Nat) (data : JsonObject) : Prop where
  execution : ∀ execution, data.getD "execution" (.dict []) = .dict execution →
    TameExecution execution
  stops : ∃ conditions, (data.getD "stop_conditions" (.list [])).iterate = .ok conditions ∧
    ∀ item ∈ objectsOf conditions, (item.getD "code" .null).IsHashable
  ids : ∀ job ∈ jobs data, (job.getD "id" .null).IsHashable
  jobs : ∀ job ∈ jobs data, TameJob B (knownKeys B data) job
  search : SearchFits B depth data
  budgets : ∃ budgets : JsonObject, data.getD "budgets" (.dict []) = .dict budgets ∧
    (budgets.getD "max_parallel_jobs" (.int 0)).IsNumber ∧
    (budgets.getD "max_attempts_total" (.int 0)).IsNumber
  mesh : ∃ mesh : JsonObject, data.getD "specialist_mesh" (.dict []) = .dict mesh

/-- **The validator returns for the manifests that are tame.** -/
theorem returns_validate {B : Builtins} {depth : Nat} {data : JsonObject} :
    Returns (validate B depth (.dict data)) ↔ Tame B depth data := by
  have hvalidate : validate B depth (.dict data) = (validateObject B depth data).map List.eraseDups :=
    rfl
  rw [hvalidate, returns_map]
  unfold validateObject
  rw [returns_collect]
  simp only [List.forall_mem_cons, returns_ok, true_and, returns_executionErrors, returns_stopErrors,
    returns_idErrors, returns_cycleErrors, returns_budgetErrors, returns_meshErrors,
    List.not_mem_nil, false_implies, implies_true, and_true]
  constructor
  · rintro ⟨hexecution, hstops, hids, hjobs, ⟨-, hsearch⟩, hbudgets, hmesh⟩
    rw [knownIds_eq hids, ok_bind, returns_jobsErrors] at hjobs
    exact ⟨hexecution, hstops, hids, hjobs, hsearch, hbudgets, hmesh⟩
  · rintro ⟨hexecution, hstops, hids, hjobs, hsearch, hbudgets, hmesh⟩
    refine ⟨hexecution, hstops, hids, ?_, ⟨fun job hjob => (hjobs job hjob).dependencies, hsearch⟩,
      hbudgets, hmesh⟩
    rw [knownIds_eq hids, ok_bind, returns_jobsErrors]
    exact hjobs

end Campaign

end LawFirmDigitalTwin
