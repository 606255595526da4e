import LawFirmDigitalTwin.Campaign.Returns
import LawFirmDigitalTwin.Campaign.Ownership

/-!
# Manifests without a fault

What a manifest has to be for the validator to find no error in it (`validate_eq_nil`): part by
part, in terms of the values of its fields.
-/

namespace LawFirmDigitalTwin

namespace Json

/-- Only a string equals a string. -/
theorem pyEq_str {B : Builtins} {v : Json} {s : String} : v.pyEq B (.str s) = true ↔ v = .str s := by
  have hsame : same B v (.str s) = true ↔ v = .str s := by
    cases v with
    | float r => cases h : B.integral r <;> simp [same, key?, h]
    | null | bool | int | str | list | dict => simp [same, key?]
  unfold pyEq
  split
  · exact iff_of_false (by simp) (by simp)
  · exact hsame

end Json

namespace Campaign

open Raising

/-! ## The graph of phases, waves and subwaves -/

/-- A list of objects. -/
def ListOf (P : JsonObject → Prop) : Option Json → Prop
  | some (.list items) => ∀ item ∈ items, ∃ d, item = .dict d ∧ P d
  | _ => False

/-- Lists of objects, four of them in each other. -/
def GraphShaped (data : JsonObject) : Prop :=
  ListOf (fun phase => ListOf (fun wave => ListOf (fun subwave =>
    ListOf (fun _ => True) (subwave.get? "jobs")) (wave.get? "subwaves")) (phase.get? "waves"))
      (data.get? "phases")

/-- A list has no errors where it is one and none of its items has. -/
theorem itemErrors_eq_nil {label : String} {place : Nat → String}
    {errors : Nat → JsonObject → List String} {P : JsonObject → Prop}
    (h : ∀ index d, errors index d = [] ↔ P d) {v : Option Json} :
    itemErrors label (fun index item => objectErrors (place index) (errors index) item) v = [] ↔
      ListOf P v := by
  have hobject (index : Nat) (item : Json) :
      objectErrors (place index) (errors index) item = [] ↔ ∃ d, item = .dict d ∧ P d := by
    cases item with
    | dict d => simp [objectErrors, h]
    | _ => simp [objectErrors]
  rcases v with - | v
  · simp [itemErrors, ListOf]
  cases v with
  | list items =>
    rw [itemErrors, ListOf, List.flatMap_eq_nil_iff]
    constructor
    · intro hall item hitem
      obtain ⟨i, hi, rfl⟩ := List.mem_iff_getElem.1 hitem
      exact (hobject i _).1 (hall (_, i) (List.mk_mem_zipIdx_iff_getElem?.2 (by simp [hi])))
    · intro hall e he
      exact (hobject e.2 e.1).2 (hall e.1 (List.fst_mem_of_mem_zipIdx he))
  | _ => simp [itemErrors, ListOf]

/-- The shape of the graph has no errors. -/
theorem graphShapeErrors_eq_nil {data : JsonObject} : graphShapeErrors data = [] ↔ GraphShaped data := by
  unfold graphShapeErrors GraphShaped
  refine itemErrors_eq_nil fun i phase => ?_
  refine itemErrors_eq_nil fun j wave => ?_
  refine itemErrors_eq_nil fun k subwave => ?_
  refine itemErrors_eq_nil fun l job => ?_
  exact iff_of_true rfl trivial

/-! ## What has no fault -/

/-- An execution that authorizes nothing. -/
structure FaultlessExecution (execution : JsonObject) : Prop where
  mode : execution.getD "mode" .null = .str "specification_only"
  fields : ∀ field ∈ launchFields, execution.getD field .null = .str "not-authorized"

section
variable (B : Builtins)

/-- An output at its allowed place. -/
structure FaultlessOutput (item : JsonObject) (output : Json) : Prop where
  safe : safeRelative output = true
  allowed : output.isIn B (item.getD "allowed_paths" (.list [])) = .ok true
  outside : startsWith B controllerPrefix output = false

/-- A gate with a checker, results and evidence of its own. -/
structure FaultlessGate (item gate : JsonObject) : Prop where
  checker : (gate.getD "checker_role" .null).pyEq B (item.getD "owner_role" .null) = false
  semantics : ∃ keys, (gate.getD "result_semantics" (.dict [])).keySet B = .ok keys ∧
    keys.toFinset = (results.map PyKey.str).toFinset
  evidence : safeRelative (gate.getD "evidence" .null) = true
  place : startsWith B "checks/g2-scale-v1/" (gate.getD "evidence" .null) = true
  human : gate.getD "type" .null = .str "human" → item.get? "auto_advance" = some (.bool false)

/-- A job that the loop finds no error in, but for its dependencies and for who else writes to its
outputs. -/
structure FaultlessJob (item : JsonObject) : Prop where
  roles : (item.getD "owner_role" .null).pyEq B (item.getD "checker_role" .null) = false
  attempts : (item.getD "max_attempts" .null).pyEq B (.int 2) = true
  repairs : (item.getD "repair_limit" .null).pyEq B (.int 1) = true
  policy : ∃ policy : JsonObject, item.getD "retry_policy" (.dict []) = .dict policy ∧
    policy.get? "same_state_deterministic_retry" = some (.bool false)
  outputs : ∃ outputs, item.getD "outputs" (.list []) = .list outputs ∧ outputs ≠ [] ∧
    ∀ output ∈ outputs, FaultlessOutput B item output
  accepted : (item.getD "acceptance" (.list [])).truthy B = true
  gates : ∃ gates, (item.getD "acceptance" (.list [])).iterate = .ok gates ∧
    ∀ gate ∈ gates, ∃ d, gate = .dict d ∧ FaultlessGate B item d

/-- A manifest that the validator finds no error in. -/
structure Faultless (data : JsonObject) : Prop where
  schema : data.getD "schema_version" .null = .str "long_run_campaign.v2"
  campaign : data.getD "campaign_id" .null = .str "law-firm-digital-twin-g2-scale-v1"
  execution : ∃ execution, data.getD "execution" (.dict []) = .dict execution ∧
    FaultlessExecution execution
  stops : ∃ conditions, (data.getD "stop_conditions" (.list [])).iterate = .ok conditions ∧
    ∀ stop ∈ requiredStops, ∃ item ∈ objectsOf conditions, item.getD "code" .null = .str stop
  shape : GraphShaped data
  schedulable : Schedulable data
  jobs : ∀ job ∈ jobs data, FaultlessJob B job
  apart : (Campaign.jobs data).Pairwise fun job job' =>
    ∀ a ∈ outputPaths job, ∀ b ∈ outputPaths job', a ≠ b
  budgets : ∃ budgets : JsonObject, data.getD "budgets" (.dict []) = .dict budgets ∧
    (budgets.getD "max_parallel_jobs" (.int 0)).order B 3 ≠ .ok (some .gt) ∧
    (budgets.getD "max_attempts_total" (.int 0)).order B ((Campaign.jobs data).length * 2) ≠
      .ok (some .lt)
  mesh : ∃ mesh : JsonObject, data.getD "specialist_mesh" (.dict []) = .dict mesh ∧
    mesh.getD "truth_authority" .null = .str "world-kernel-only"

end

section
variable {B : Builtins} {data item : JsonObject}

/-! ## The parts of the manifest -/

/-- A root field has no error where it is the text expected. -/
theorem rootErrors_eq_nil {field expected error : String} :
    rootErrors B data field expected error = [] ↔ data.getD field .null = .str expected := by
  rw [rootErrors, errorIf_eq_nil, decide_eq_false_iff_not, not_not, Json.pyEq_str]

/-- The execution has no errors. -/
theorem executionErrors_eq_nil :
    executionErrors B data = .ok [] ↔
      ∃ execution, data.getD "execution" (.dict []) = .dict execution ∧
        FaultlessExecution execution := by
  unfold executionErrors
  cases hexecution : data.getD "execution" (.dict []) with
  | dict execution =>
    simp only [Json.dict.injEq, exists_eq_left']
    by_cases hmode : JsonObject.getD execution "mode" .null = .str "specification_only"
    · simp only [hmode, Json.hashed_str, ok_bind, if_true, pure_eq_ok, Except.ok.injEq]
      simp only [List.nil_append, List.append_eq_nil_iff, errorIf_eq_nil, List.flatMap_eq_nil_iff,
        decide_eq_false_iff_not, not_not, Json.pyEq_str]
      exact ⟨fun h => ⟨hmode, h.2⟩, fun h => ⟨by simp, h.fields⟩⟩
    · refine iff_of_false (fun h => ?_) fun h => hmode h.mode
      obtain ⟨key, hkey, h⟩ := except_bind_eq_ok.1 h
      have hspecification : key ≠ .str "specification_only" := by
        rintro rfl
        exact hmode (Json.hashed_eq_str.1 hkey)
      rw [if_neg hspecification] at h
      by_cases hunattended : key = .str "unattended"
      · rw [if_pos hunattended] at h
        obtain ⟨lacking, -, h⟩ := except_bind_eq_ok.1 h
        simp at h
      · rw [if_neg hunattended] at h
        simp [hspecification, hunattended, errorIf] at h
  | _ => exact iff_of_false (fun h => by injection h with h; cases h) (by rintro ⟨_, h, -⟩; cases h)

/-- The stops have no errors where each required one is declared. -/
theorem stopErrors_eq_nil (h : Returns (stopErrors B data)) :
    stopErrors B data = .ok [] ↔
      ∃ conditions, (data.getD "stop_conditions" (.list [])).iterate = .ok conditions ∧
        ∀ stop ∈ requiredStops, ∃ item ∈ objectsOf conditions,
          item.getD "code" .null = .str stop := by
  obtain ⟨conditions, hconditions, hhashable⟩ := returns_stopErrors.1 h
  obtain ⟨declared, hdeclared⟩ := returns_mapM.2 fun item hitem =>
    Json.returns_hashed (B := B).2 (hhashable item hitem)
  have hmem (stop : String) : PyKey.str stop ∈ declared ↔
      ∃ item ∈ objectsOf conditions, item.getD "code" .null = .str stop := by
    rw [mem_of_except_mapM hdeclared]
    exact exists_congr fun item => and_congr_right fun _ => Json.hashed_eq_str
  have hmissing : (requiredStops.filter fun stop => PyKey.str stop ∉ declared).insertionSort
      (· ≤ ·) = [] ↔ ∀ stop ∈ requiredStops, PyKey.str stop ∈ declared := by
    rw [← List.length_eq_zero_iff, List.length_insertionSort, List.length_eq_zero_iff,
      List.filter_eq_nil_iff]
    simp only [decide_eq_true_eq, not_not]
  unfold stopErrors
  simp only [hconditions, ok_bind, hdeclared, pure_eq_ok, Except.ok.injEq, errorIf_eq_nil,
    decide_eq_false_iff_not, not_not, hmissing, hmem, exists_eq_left']

/-- The ids have no errors where they are distinct texts, none of them empty. -/
theorem idErrors_eq_nil :
    idErrors B data = .ok [] ↔ ∃ ids : List String,
      (jobs data).map (fun item => item.getD "id" .null) = ids.map .str ∧ ids.Nodup ∧ "" ∉ ids := by
  refine ⟨ids_of_idErrors, ?_⟩
  rintro ⟨ids, hids, hnodup, hnonempty⟩
  unfold idErrors
  simp only [hids, mapM_hashed_strs, ok_bind, pure_eq_ok, Except.ok.injEq, List.append_eq_nil_iff,
    errorIf_eq_nil, decide_eq_false_iff_not, not_not, List.any_eq_false]
  refine ⟨List.forall_mem_map.2 fun id hid => ?_, hnodup.map fun _ _ h => PyKey.str.inj h⟩
  rw [decide_eq_true_eq]
  rintro rfl
  exact hnonempty hid

/-- The budgets have no errors. -/
theorem budgetErrors_eq_nil (h : Returns (budgetErrors B data)) :
    budgetErrors B data = .ok [] ↔
      ∃ budgets : JsonObject, data.getD "budgets" (.dict []) = .dict budgets ∧
        (budgets.getD "max_parallel_jobs" (.int 0)).order B 3 ≠ .ok (some .gt) ∧
        (budgets.getD "max_attempts_total" (.int 0)).order B ((jobs data).length * 2) ≠
          .ok (some .lt) := by
  obtain ⟨budgets, hbudgets, hparallel, hattempts⟩ := returns_budgetErrors.1 h
  obtain ⟨parallel, hparallel⟩ := Json.returns_order (B := B) (n := 3) |>.2 hparallel
  obtain ⟨attempts, hattempts⟩ :=
    Json.returns_order (B := B) (n := (jobs data).length * 2) |>.2 hattempts
  unfold budgetErrors
  simp only [hbudgets, Json.asObject, ok_bind, hparallel, hattempts, pure_eq_ok, Except.ok.injEq,
    List.append_eq_nil_iff, errorIf_eq_nil, decide_eq_false_iff_not, Json.dict.injEq,
    exists_eq_left', ne_eq]

/-- The mesh has no errors. -/
theorem meshErrors_eq_nil :
    meshErrors B data = .ok [] ↔
      ∃ mesh : JsonObject, data.getD "specialist_mesh" (.dict []) = .dict mesh ∧
        mesh.getD "truth_authority" .null = .str "world-kernel-only" := by
  unfold meshErrors
  rw [except_bind_eq_ok]
  refine exists_congr fun mesh => and_congr Json.asObject_eq_ok ?_
  simp only [pure_eq_ok, Except.ok.injEq, errorIf_eq_nil, decide_eq_false_iff_not, not_not,
    Json.pyEq_str]

/-! ## The jobs -/

/-- The dependencies have no errors where each is a known id. -/
theorem dependencyErrors_eq_nil_iff {ids : List String} :
    dependencyErrors B (ids.map .str) item = .ok [] ↔
      ∃ ds, dependencies item = .ok ds ∧ ∀ d ∈ ds, ∃ s ∈ ids, d = .str s := by
  constructor
  · intro h
    obtain ⟨deps, hdeps, hmem⟩ := dependencyErrors_eq_nil h
    obtain ⟨ds, hds, rfl, -⟩ := dependenciesOf_eq_ok hdeps
    refine ⟨_, hds, List.forall_mem_map.2 fun d hd => ?_⟩
    obtain ⟨s, hs, rfl⟩ := hmem d hd
    exact ⟨s, hs, rfl⟩
  · rintro ⟨ds, hds, hknown⟩
    have hitems : HashableItems (item.getD "depends_on" (.list [])) := by
      refine ⟨ds, hds, fun d hd => ?_⟩
      obtain ⟨s, -, rfl⟩ := hknown d hd
      trivial
    obtain ⟨deps, hdeps⟩ := returns_dependenciesOf (B := B).2 hitems
    obtain ⟨ds', hds', rfl, hhash⟩ := dependenciesOf_eq_ok hdeps
    obtain rfl := Except.ok.inj (hds.symm.trans hds')
    have hunknown : deps.filter (fun d => d.1 ∉ ids.map PyKey.str) = [] := by
      refine List.filter_eq_nil_iff.2 fun d hd => ?_
      obtain ⟨s, hs, hd'⟩ := hknown d.2 (List.mem_map_of_mem hd)
      have hkey := hhash d hd
      rw [hd', Json.hashed_str] at hkey
      rw [← Except.ok.inj hkey]
      simpa using hs
    unfold dependencyErrors
    rw [hdeps, ok_bind, hunknown]
    rfl

/-- `value is not False`. -/
def isNotFalse : Option Json → Bool
  | some (.bool false) => false
  | _ => true

/-- Only `false` is false. -/
theorem isNotFalse_eq_false {v : Option Json} : isNotFalse v = false ↔ v = some (.bool false) := by
  unfold isNotFalse
  split
  · exact iff_of_true rfl rfl
  · next h => exact iff_of_false (by simp) h

/-- The fields of a job have no errors. -/
theorem fieldErrors_eq_nil :
    fieldErrors B item = .ok [] ↔
      (item.getD "owner_role" .null).pyEq B (item.getD "checker_role" .null) = false ∧
      ((item.getD "max_attempts" .null).pyEq B (.int 2) = true ∧
        (item.getD "repair_limit" .null).pyEq B (.int 1) = true) ∧
      ∃ policy : JsonObject, item.getD "retry_policy" (.dict []) = .dict policy ∧
        policy.get? "same_state_deterministic_retry" = some (.bool false) := by
  unfold fieldErrors
  simp only [except_bind_eq_ok, Json.asObject_eq_ok, pure_eq_ok, Except.ok.injEq,
    List.append_eq_nil_iff, errorIf_eq_nil, decide_eq_false_iff_not, not_not]
  constructor
  · rintro ⟨policy, hpolicy, ⟨hroles, hattempts⟩, hretry⟩
    exact ⟨hroles, hattempts, policy, hpolicy, isNotFalse_eq_false.1 hretry⟩
  · rintro ⟨hroles, hattempts, policy, hpolicy, hretry⟩
    exact ⟨policy, hpolicy, ⟨hroles, hattempts⟩, isNotFalse_eq_false.2 hretry⟩

/-- An output has no errors, where no other job has it. -/
theorem outputErrors_eq_nil {owner : PyDict String} {output : Json} :
    outputErrors B item owner output = .ok [] ↔
      FaultlessOutput B item output ∧
        ∀ prior, owner.get? (output.text B) = some prior → prior = "" ∨ prior = jobId B item := by
  unfold outputErrors
  cases howner : owner.get? (output.text B) with
  | none =>
    simp only [except_bind_eq_ok, pure_eq_ok, Except.ok.injEq, List.append_eq_nil_iff,
      errorIf_eq_nil, decide_eq_false_iff_not, not_not]
    constructor
    · rintro ⟨allowed, hallowed, ⟨⟨hsafe, rfl⟩, houtside⟩, -⟩
      exact ⟨⟨hsafe, hallowed, houtside⟩, fun _ h => by cases h⟩
    · rintro ⟨⟨hsafe, hallowed, houtside⟩, -⟩
      exact ⟨true, hallowed, ⟨⟨hsafe, rfl⟩, houtside⟩, trivial⟩
  | some prior =>
    have hfree : (if prior ≠ "" ∧ prior ≠ jobId B item then ["write scope collision: " ++ prior ++
        " and " ++ jobId B item ++ " own " ++ output.text B] else []) = [] ↔
        prior = "" ∨ prior = jobId B item := by
      rw [ite_eq_right_iff, imp_iff_not (List.cons_ne_nil _ _), not_and_or, not_not, not_not]
    simp only [except_bind_eq_ok, pure_eq_ok, Except.ok.injEq, List.append_eq_nil_iff,
      errorIf_eq_nil, decide_eq_false_iff_not, not_not, hfree, Option.some.injEq, forall_eq']
    constructor
    · rintro ⟨allowed, hallowed, ⟨⟨hsafe, rfl⟩, houtside⟩, hprior⟩
      exact ⟨⟨hsafe, hallowed, houtside⟩, hprior⟩
    · rintro ⟨⟨hsafe, hallowed, houtside⟩, hprior⟩
      exact ⟨true, hallowed, ⟨⟨hsafe, rfl⟩, houtside⟩, hprior⟩

/-- A gate has no errors. -/
theorem gateErrors_eq_nil {gate : Json} :
    gateErrors B item gate = .ok [] ↔ ∃ d, gate = .dict d ∧ FaultlessGate B item d := by
  unfold gateErrors
  simp only [except_bind_eq_ok, Json.asObject_eq_ok, pure_eq_ok, Except.ok.injEq,
    List.append_eq_nil_iff, errorIf_eq_nil, decide_eq_false_iff_not, not_not, not_or, ne_eq,
    Bool.and_eq_false_iff]
  refine exists_congr fun d => and_congr_right fun _ => ?_
  constructor
  · rintro ⟨keys, hkeys, ⟨⟨hchecker, hsemantics⟩, hevidence, hplace⟩, hhuman⟩
    refine ⟨hchecker, ⟨keys, hkeys, hsemantics⟩, hevidence, hplace, fun htype => ?_⟩
    refine isNotFalse_eq_false.1 (hhuman.resolve_left ?_)
    rw [htype, Json.pyEq_str.2 rfl]
    exact Bool.noConfusion
  · rintro ⟨hchecker, ⟨keys, hkeys, hsemantics⟩, hevidence, hplace, hhuman⟩
    refine ⟨keys, hkeys, ⟨⟨hchecker, hsemantics⟩, hevidence, hplace⟩, ?_⟩
    rw [← Bool.not_eq_true, Json.pyEq_str]
    exact not_or_of_imp fun htype => isNotFalse_eq_false.2 (hhuman htype)

/-- The acceptance has no errors. -/
theorem acceptanceErrors_eq_nil :
    acceptanceErrors B item = .ok [] ↔ (item.getD "acceptance" (.list [])).truthy B = true ∧
      ∃ gates, (item.getD "acceptance" (.list [])).iterate = .ok gates ∧
        ∀ gate ∈ gates, ∃ d, gate = .dict d ∧ FaultlessGate B item d := by
  unfold acceptanceErrors
  simp only [except_bind_eq_ok, pure_eq_ok, Except.ok.injEq, List.append_eq_nil_iff, errorIf_eq_nil,
    decide_eq_false_iff_not, not_not]
  constructor
  · rintro ⟨gates, hgates, errors, herrors, haccepted, rfl⟩
    rw [collect_eq_nil, List.forall_mem_map] at herrors
    exact ⟨haccepted, gates, hgates, fun gate hgate => gateErrors_eq_nil.1 (herrors gate hgate)⟩
  · rintro ⟨haccepted, gates, hgates, hfaultless⟩
    refine ⟨gates, hgates, [], ?_, haccepted, rfl⟩
    rw [collect_eq_nil, List.forall_mem_map]
    exact fun gate hgate => gateErrors_eq_nil.2 (hfaultless gate hgate)

/-! ## Who writes what -/

/-- The outputs are a list that is not empty. -/
theorem outputsOf_eq_some {outputs : List Json} :
    outputsOf item = some outputs ↔
      item.getD "outputs" (.list []) = .list outputs ∧ outputs ≠ [] := by
  unfold outputsOf
  generalize item.getD "outputs" (.list []) = v
  cases v with
  | list items =>
    cases items with
    | nil => exact iff_of_false (by simp) fun h => h.2 (Json.list.inj h.1).symm
    | cons output rest =>
      rw [Option.some.injEq, Json.list.injEq]
      refine ⟨?_, fun h => h.1⟩
      rintro rfl
      exact ⟨rfl, List.cons_ne_nil _ _⟩
  | _ => exact iff_of_false (by simp) (by simp)

/-- The outputs of a job without a fault are its paths. -/
theorem FaultlessJob.outputs_eq (h : FaultlessJob B item) :
    outputsOf item = some ((outputPaths item).map .str) ∧
      ∀ path ∈ outputPaths item, FaultlessOutput B item (.str path) := by
  obtain ⟨outputs, houtputs, hne, hfaultless⟩ := h.outputs
  have hstr : ∀ output ∈ outputs, ∃ s, output = .str s := by
    intro output houtput
    have hsafe := (hfaultless output houtput).safe
    cases output with
    | str s => exact ⟨s, rfl⟩
    | _ => cases hsafe
  obtain ⟨paths, rfl⟩ : ∃ paths : List String, outputs = paths.map .str := by
    clear houtputs hne hfaultless
    induction outputs with
    | nil => exact ⟨[], rfl⟩
    | cons output outputs ih =>
      obtain ⟨s, rfl⟩ := hstr output (.head _)
      obtain ⟨paths, rfl⟩ := ih fun o ho => hstr o (.tail _ ho)
      exact ⟨s :: paths, rfl⟩
  have hpaths : outputPaths item = paths := by
    rw [outputPaths, houtputs]
    simp only [List.filterMap_map]
    exact List.filterMap_some
  refine ⟨?_, fun path hpath => ?_⟩
  · rw [hpaths]
    exact outputsOf_eq_some.2 ⟨houtputs, hne⟩
  · rw [hpaths] at hpath
    exact hfaultless _ (List.mem_map_of_mem hpath)

/-- The loop over outputs that are free finds no error in them, and notes them. -/
theorem outputsErrors_of_free {owner : PyDict String} {paths : List String}
    (hfaultless : ∀ path ∈ paths, FaultlessOutput B item (.str path))
    (hfree : ∀ path ∈ paths, ∀ prior, owner.get? path = some prior →
      prior = "" ∨ prior = jobId B item) :
    ∃ owner', outputsErrors B item owner (paths.map .str) = .ok ([], owner') ∧
      ∀ path, path ∉ paths → owner'.get? path = owner.get? path := by
  induction paths generalizing owner with
  | nil => exact ⟨owner, rfl, fun _ _ => rfl⟩
  | cons path paths ih =>
    have hhead : outputErrors B item owner (.str path) = .ok [] :=
      outputErrors_eq_nil.2 ⟨hfaultless path (.head _), hfree path (.head _)⟩
    obtain ⟨owner', howner', hkept⟩ := @ih (owner.set path (jobId B item))
      (fun p hp => hfaultless p (.tail _ hp)) fun p hp prior hprior => by
        rw [PyDict.get?_set] at hprior
        split at hprior
        · exact .inr (Option.some.inj hprior).symm
        · exact hfree p (.tail _ hp) prior hprior
    refine ⟨owner', ?_, fun p hp => ?_⟩
    · rw [List.map_cons, outputsErrors, hhead, ok_bind, Json.text_str, howner']
      rfl
    · rw [List.mem_cons, not_or] at hp
      rw [hkept p hp.2, PyDict.get?_set_ne _ _ hp.1]

/-- **Jobs without a fault that write to different paths pass the loop.** -/
theorem jobsErrors_of_faultless {known : List PyKey} {owner : PyDict String}
    {items : List JsonObject} (hdependencies : ∀ item ∈ items, dependencyErrors B known item = .ok [])
    (hfaultless : ∀ item ∈ items, FaultlessJob B item)
    (hapart : items.Pairwise fun item item' => ∀ a ∈ outputPaths item, ∀ b ∈ outputPaths item', a ≠ b)
    (hfree : ∀ item ∈ items, ∀ path ∈ outputPaths item, ∀ prior, owner.get? path = some prior →
      prior = "" ∨ prior = jobId B item) :
    jobsErrors B known owner items = .ok [] := by
  induction items generalizing owner with
  | nil => rfl
  | cons item items ih =>
    have hjob := hfaultless item (.head _)
    obtain ⟨houtputs, hpaths⟩ := hjob.outputs_eq
    obtain ⟨owner', howner', hkept⟩ := outputsErrors_of_free hpaths (hfree item (.head _))
    rw [List.pairwise_cons] at hapart
    have hfields : fieldErrors B item = .ok [] :=
      fieldErrors_eq_nil.2 ⟨hjob.roles, ⟨hjob.attempts, hjob.repairs⟩, hjob.policy⟩
    have hpass : jobErrors B known owner item = .ok ([], owner') := by
      have hcollect : collect [dependencyErrors B known item, fieldErrors B item] = .ok [] := by
        rw [collect_eq_nil, List.forall_mem_cons, List.forall_mem_singleton]
        exact ⟨hdependencies item (.head _), hfields⟩
      rw [jobErrors, hcollect, ok_bind, houtputs]
      dsimp only
      rw [howner', ok_bind]
      dsimp only
      rw [acceptanceErrors_eq_nil.2 ⟨hjob.accepted, hjob.gates⟩]
      rfl
    have hrest : jobsErrors B known owner' items = .ok [] := by
      refine ih (fun i hi => hdependencies i (.tail _ hi)) (fun i hi => hfaultless i (.tail _ hi))
        hapart.2 fun i hi path hpath prior hprior => ?_
      have hother : path ∉ outputPaths item := fun hmem => hapart.1 i hi path hmem path hpath rfl
      rw [hkept path hother] at hprior
      exact hfree i (.tail _ hi) path hpath prior hprior
    rw [jobsErrors, hpass, ok_bind]
    dsimp only
    rw [hrest]
    rfl

/-- Outputs without errors are faultless. -/
theorem faultlessOutput_of_outputsErrors {owner owner' : PyDict String} {outputs : List Json}
    (h : outputsErrors B item owner outputs = .ok ([], owner')) :
    ∀ output ∈ outputs, FaultlessOutput B item output := by
  induction outputs generalizing owner with
  | nil => exact fun _ h => by cases h
  | cons output outputs ih =>
    obtain ⟨errors, herrors, h⟩ := except_bind_eq_ok.1 h
    obtain ⟨⟨rest, last⟩, hrest, h⟩ := except_bind_eq_ok.1 h
    obtain ⟨hnil, rfl⟩ := Prod.mk.inj (Except.ok.inj h)
    obtain ⟨rfl, rfl⟩ := List.append_eq_nil_iff.1 hnil
    rw [List.forall_mem_cons]
    exact ⟨(outputErrors_eq_nil.1 herrors).1, ih hrest⟩

/-- What a pass over a job without an error says of it. -/
theorem faultlessJob_of_jobErrors {known : List PyKey} {owner owner' : PyDict String}
    (h : jobErrors B known owner item = .ok ([], owner')) : FaultlessJob B item := by
  obtain ⟨-, hfields, outputs, houtputs, hloop, hacceptance⟩ := jobErrors_parts h
  obtain ⟨hroles, ⟨hattempts, hrepairs⟩, hpolicy⟩ := fieldErrors_eq_nil.1 hfields
  obtain ⟨haccepted, hgates⟩ := acceptanceErrors_eq_nil.1 hacceptance
  obtain ⟨houtputs, hne⟩ := outputsOf_eq_some.1 houtputs
  exact ⟨hroles, hattempts, hrepairs, hpolicy, ⟨outputs, houtputs, hne,
    faultlessOutput_of_outputsErrors hloop⟩, haccepted, hgates⟩

/-- Jobs without errors are faultless. -/
theorem faultlessJob_of_jobsErrors {known : List PyKey} {owner : PyDict String}
    {items : List JsonObject} (h : jobsErrors B known owner items = .ok []) :
    ∀ item ∈ items, FaultlessJob B item := by
  induction items generalizing owner with
  | nil => exact fun _ h => by cases h
  | cons item items ih =>
    obtain ⟨⟨errors, last⟩, hjob, h⟩ := except_bind_eq_ok.1 h
    obtain ⟨rest, hrest, h⟩ := except_bind_eq_ok.1 h
    obtain ⟨rfl, rfl⟩ := List.append_eq_nil_iff.1 (Except.ok.inj h)
    rw [List.forall_mem_cons]
    exact ⟨faultlessJob_of_jobErrors hjob, ih hrest⟩

end

/-! ## The manifest -/

section
variable {B : Builtins} {depth : Nat} {data : JsonObject}

/-- **What the validator finds no error in.** -/
theorem validate_eq_nil (h : Tame B depth data) :
    validate B depth (.dict data) = .ok [] ↔ Faultless B data := by
  have hstops : Returns (stopErrors B data) := returns_stopErrors.2 h.stops
  have hbudgets : Returns (budgetErrors B data) := returns_budgetErrors.2 h.budgets
  have hcycles : Returns (cycleErrors B depth data) :=
    returns_cycleErrors.2 ⟨fun job hjob => (h.jobs job hjob).dependencies, h.search⟩
  constructor
  · intro hnil
    obtain ⟨_, ids, hdata, haccepts⟩ := accepts_of_validate hnil
    obtain rfl := Json.dict.inj hdata
    have hparts : validateObject B depth data = .ok [] := by
      rw [validate] at hnil
      cases hobject : validateObject B depth data with
      | error e =>
        rw [hobject] at hnil
        cases hnil
      | ok errors =>
        rw [hobject] at hnil
        rw [eraseDups_eq_nil.1 (Except.ok.inj hnil)]
    have hpart := collect_eq_nil.1 hparts
    simp only [List.forall_mem_cons] at hpart
    obtain ⟨hschema, hexecution, hstop, -, -, -, -, hbudget, hmesh, hcampaign, -⟩ := hpart
    exact ⟨rootErrors_eq_nil.1 (Except.ok.inj hschema), rootErrors_eq_nil.1 (Except.ok.inj hcampaign),
      executionErrors_eq_nil.1 hexecution, (stopErrors_eq_nil hstops).1 hstop,
      graphShapeErrors_eq_nil.1 haccepts.shape, haccepts.schedulable,
      faultlessJob_of_jobsErrors haccepts.clean, haccepts.outputs.1,
      (budgetErrors_eq_nil hbudgets).1 hbudget, meshErrors_eq_nil.1 hmesh⟩
  · intro hfaultless
    obtain ⟨ids, hids, hnodup, hnonempty⟩ := hfaultless.schedulable.named
    have hknown : knownIds B data = .ok (ids.map .str) := by
      rw [← mapM_hashed_strs ids, ← hids, List.mapM_map]
      rfl
    have hjobs : jobsErrors B (ids.map .str) ∅ (jobs data) = .ok [] := by
      refine jobsErrors_of_faultless (fun job hjob => ?_) hfaultless.jobs hfaultless.apart
        fun _ _ _ _ prior hprior => by cases hprior
      obtain ⟨ds, hds, hjobs⟩ := hfaultless.schedulable.known job hjob
      refine dependencyErrors_eq_nil_iff.2 ⟨ds, hds, fun d hd => ?_⟩
      obtain ⟨job', hjob', rfl⟩ := hjobs d hd
      exact List.mem_map.1 (hids ▸ List.mem_map_of_mem hjob') |>.imp fun s hs => ⟨hs.1, hs.2.symm⟩
    obtain ⟨cycles, hcycles⟩ := hcycles
    have hparts : validateObject B depth data = .ok [] := by
      unfold validateObject
      rw [collect_eq_nil]
      simp only [List.forall_mem_cons]
      refine ⟨congrArg _ (rootErrors_eq_nil.2 hfaultless.schema),
        executionErrors_eq_nil.2 hfaultless.execution, (stopErrors_eq_nil hstops).2 hfaultless.stops,
        congrArg _ (graphShapeErrors_eq_nil.2 hfaultless.shape),
        idErrors_eq_nil.2 ⟨ids, hids, hnodup, hnonempty⟩, ?_, ?_,
        (budgetErrors_eq_nil hbudgets).2 hfaultless.budgets,
        meshErrors_eq_nil.2 hfaultless.mesh,
        congrArg _ (rootErrors_eq_nil.2 hfaultless.campaign), List.forall_mem_nil _⟩
      · rw [hknown, ok_bind, hjobs]
      · rw [hcycles, hfaultless.schedulable.cycleErrors hcycles]
    rw [validate, hparts]
    rfl

end

end Campaign

end LawFirmDigitalTwin
