import LawFirmDigitalTwin.Lib.DepthFirst
import LawFirmDigitalTwin.PyJson
import LawFirmDigitalTwin.PyPath

/-!
# The campaign manifest validator

`campaigns/g2-scale-v1/checks/validate_manifest_contract.py`. The manifest is any JSON value. The
validator lists its errors, or it raises where a value does not have the type that the code takes
for granted. `depth` is how many calls of `visit` can be nested.
-/

namespace LawFirmDigitalTwin

namespace Campaign

/-- `REQUIRED_STOPS`. -/
def requiredStops : List String :=
  ["user_interrupt", "budget_exhausted", "authority_boundary", "human_gate_required",
    "repeated_failure", "gold_standard_failure", "security_or_privacy", "dependency_stale",
    "write_conflict", "validation_inconclusive"]

/-- `RESULTS`. -/
def results : List String :=
  ["pass", "fail_repairable", "fail_terminal", "blocked_human", "inconclusive"]

/-- `CONTROLLER_PREFIX`. -/
def controllerPrefix : String := ".campaign-state/g2-scale-v1/"

/-! ## The graph of phases, waves and subwaves -/

/-- The items that are objects. -/
def objectsOf (items : List Json) : List JsonObject :=
  items.filterMap fun item =>
    match item with
    | .dict entries => some entries
    | _ => none

/-- The objects in the list under a key. -/
def objectsIn (key : String) (d : JsonObject) : List JsonObject :=
  match d.getD key (.list []) with
  | .list items => objectsOf items
  | _ => []

/-- `jobs`. -/
def jobs (data : JsonObject) : List JsonObject :=
  (objectsIn "phases" data).flatMap fun phase =>
    (objectsIn "waves" phase).flatMap fun wave =>
      (objectsIn "subwaves" wave).flatMap (objectsIn "jobs")

/-- The errors about the items of a list, or that there is none. -/
def itemErrors (label : String) (errors : Nat → Json → List String) : Option Json → List String
  | some (.list items) => items.zipIdx.flatMap fun (item, index) => errors index item
  | _ => [label ++ " must be a list"]

/-- The errors in an object, or that there is none. -/
def objectErrors (place : String) (errors : JsonObject → List String) : Json → List String
  | .dict entries => errors entries
  | _ => [place ++ " must be an object"]

/-- The place of an item of a list. -/
def placeOf (place : String) (index : Nat) : String := place ++ "[" ++ toString index ++ "]"

/-- `graph_shape_errors`. -/
def graphShapeErrors (data : JsonObject) : List String :=
  data.get? "phases" |> itemErrors "phases" fun i phase =>
    let atPhase := placeOf "phase" i
    phase |> objectErrors atPhase fun phase =>
      phase.get? "waves" |> itemErrors (atPhase ++ ".waves") fun j wave =>
        let atWave := placeOf (atPhase ++ ".wave") j
        wave |> objectErrors atWave fun wave =>
          wave.get? "subwaves" |> itemErrors (atWave ++ ".subwaves") fun k subwave =>
            let atSubwave := placeOf (atWave ++ ".subwave") k
            subwave |> objectErrors atSubwave fun subwave =>
              subwave.get? "jobs" |> itemErrors (atSubwave ++ ".jobs") fun l job =>
                job |> objectErrors (placeOf (atSubwave ++ ".job") l) fun _ => []

/-! ## Paths -/

/-- `value.replace("\\", "/")`. -/
def forwardSlashes (value : String) : List Char :=
  value.toList.map fun c => if c = '\\' then '/' else c

/-- The components of a path: what stands between slashes, without the empty ones and `.`. -/
def pathParts (path : List Char) : List (List Char) :=
  (path.splitOn '/').filter fun part => part ≠ [] ∧ part ≠ ['.']

local instance lawfulBEq_name : LawfulBEq (List Char) := List.instLawfulBEq

/-- `safe_relative`. The text of a POSIX path without a root is never empty, and is `.` where it has
no names. -/
def safeRelative : Json → Bool
  | .str value =>
    let normalized := forwardSlashes value
    let posixPath := PyPath.posixPath normalized
    let windowsPath := PyPath.windowsPath normalized
    strip value.toList ≠ [] ∧ ¬ PyPath.posixAbsolute posixPath ∧
      ¬ PyPath.windowsAbsolute windowsPath ∧ ['.', '.'] ∉ posixPath.parts ∧
        ['.', '.'] ∉ windowsPath.parts ∧ posixPath.names ≠ []
  | _ => false

/-- `str(value).replace("\\", "/").startswith(start)`. -/
def startsWith (B : Builtins) (start : String) (value : Json) : Bool :=
  start.toList.isPrefixOf (forwardSlashes (value.text B))

/-! ## The sections of the manifest -/

section
variable (B : Builtins)

/-- The error, if the check fails. -/
def errorIf (bad : Bool) (error : String) : List String := if bad then [error] else []

/-- The fields that a launch needs. -/
def launchFields : List String :=
  ["launch_command", "shutdown_command", "qualification_evidence", "dry_run_evidence",
    "authorization_receipt", "independent_launch_review"]

/-- The part of `validate` about `execution`. -/
def executionErrors (data : JsonObject) : Except PyError (List String) := do
  let (shape, execution) : List String × JsonObject :=
    match data.getD "execution" (.dict []) with
    | .dict entries => ([], entries)
    | _ => (["execution must be an object"], [])
  let mode := execution.getD "mode" .null
  let key ← mode.hashed B
  let invalid := errorIf (key ∉ [.str "specification_only", .str "unattended"])
    "execution.mode is invalid"
  let fields ←
    if key = .str "specification_only" then
      .ok (launchFields.flatMap fun field =>
        errorIf (¬ (execution.getD field .null).pyEq B (.str "not-authorized"))
          ("specification_only requires " ++ field ++ "=not-authorized"))
    else if key = .str "unattended" then do
      let lacking ← Raising.collect (launchFields.map fun field => do
        let value ← (execution.getD field .null).hashed B
        return errorIf (value ∈ [.none, .str "", .str "not-authorized"])
          ("unattended mode lacks " ++ field))
      .ok ("local specification validator cannot authorize unattended execution" :: lacking)
    else .ok []
  return shape ++ invalid ++ fields

/-- The part of `validate` about `stop_conditions`. -/
def stopErrors (data : JsonObject) : Except PyError (List String) := do
  let conditions ← (data.getD "stop_conditions" (.list [])).iterate
  let declared ← (objectsOf conditions).mapM fun item => (item.getD "code" .null).hashed B
  let missing := (requiredStops.filter fun stop => .str stop ∉ declared).insertionSort (· ≤ ·)
  return errorIf (missing ≠ [])
    ("missing mandatory stops: " ++ (Json.list (missing.map .str)).text B)

/-- The part of `validate` about the ids of the jobs. -/
def idErrors (data : JsonObject) : Except PyError (List String) := do
  let ids := (jobs data).map fun item => item.getD "id" .null
  let unnamed := ids.any fun id =>
    match id with
    | .str s => s = ""
    | _ => true
  let keys ← ids.mapM (Json.hashed B)
  return errorIf unnamed "every job needs an id" ++
    errorIf (¬ keys.Nodup) "job ids must be unique"

/-! ## The jobs -/

/-- `job_id`. -/
def jobId (item : JsonObject) : String := (item.getD "id" (.str "unknown")).text B

/-- `dependencies`, with their hashes. -/
def dependenciesOf (item : JsonObject) : Except PyError (List (PyKey × Json)) := do
  (← (item.getD "depends_on" (.list [])).iterate).mapM fun d => return (← d.hashed B, d)

/-- `sorted` of values that can be hashed. -/
def sortedValues (values : List Json) : Except PyError (List Json) :=
  if values.all fun v => match v with
    | .str _ => true
    | _ => false
  then .ok ((values.map (Json.text B)).insertionSort (· ≤ ·) |>.map .str)
  else B.sorted values

/-- The part of the loop about the dependencies, given the ids that are known. -/
def dependencyErrors (known : List PyKey) (item : JsonObject) : Except PyError (List String) := do
  let dependencies ← dependenciesOf B item
  let unknown := (dependencies.filter fun d => d.1 ∉ known).eraseDupsBy fun d d' => d.1 = d'.1
  if unknown.isEmpty then .ok []
  else do
    let order ← sortedValues B (unknown.map (·.2))
    return [jobId B item ++ " has unknown dependencies: " ++ (Json.list order).text B]

/-- The part of the loop about the fields of a job. -/
def fieldErrors (item : JsonObject) : Except PyError (List String) := do
  let same := (item.getD "owner_role" .null).pyEq B (item.getD "checker_role" .null)
  let attempts := (item.getD "max_attempts" .null).pyEq B (.int 2) ∧
    (item.getD "repair_limit" .null).pyEq B (.int 1)
  let policy ← (item.getD "retry_policy" (.dict [])).asObject
  let retried := match policy.get? "same_state_deterministic_retry" with
    | some (.bool false) => false
    | _ => true
  return errorIf same (jobId B item ++ " writer and checker must differ")
    ++ errorIf (¬ attempts) (jobId B item ++ " must use one original plus one repair")
    ++ errorIf retried (jobId B item ++ " permits same-state deterministic retry")

/-- `outputs`, if it is a list that is not empty. -/
def outputsOf (item : JsonObject) : Option (List Json) :=
  match item.getD "outputs" (.list []) with
  | .list [] => none
  | .list items => some items
  | _ => none

/-- The part of the loop about one output. -/
def outputErrors (item : JsonObject) (owner : PyDict String) (output : Json) :
    Except PyError (List String) := do
  let allowed ← output.isIn B (item.getD "allowed_paths" (.list []))
  let collision := match owner.get? (output.text B) with
    | some prior => if prior ≠ "" ∧ prior ≠ jobId B item then
      ["write scope collision: " ++ prior ++ " and " ++ jobId B item ++ " own " ++ output.text B]
      else []
    | none => []
  return errorIf (¬ safeRelative output) (jobId B item ++ " has unsafe output: " ++ output.text B)
    ++ errorIf (¬ allowed)
      (jobId B item ++ " output is outside its allowed paths: " ++ output.text B)
    ++ errorIf (startsWith B controllerPrefix output)
      (jobId B item ++ " worker output enters controller state")
    ++ collision

/-- The loop over the outputs of a job. It notes who owns which output. -/
def outputsErrors (item : JsonObject) :
    PyDict String → List Json → Except PyError (List String × PyDict String)
  | owner, [] => .ok ([], owner)
  | owner, output :: outputs => do
    let errors ← outputErrors B item owner output
    let (rest, owner) ← outputsErrors item (owner.set (output.text B) (jobId B item)) outputs
    return (errors ++ rest, owner)

/-- The part of the loop about one acceptance gate. -/
def gateErrors (item : JsonObject) (gate : Json) : Except PyError (List String) := do
  let gate ← gate.asObject
  let writer := (gate.getD "checker_role" .null).pyEq B (item.getD "owner_role" .null)
  let semantics ← (gate.getD "result_semantics" (.dict [])).keySet B
  let evidence := gate.getD "evidence" .null
  let advances := match item.get? "auto_advance" with
    | some (.bool false) => false
    | _ => true
  return errorIf writer (jobId B item ++ " gate checker equals writer")
    ++ errorIf (semantics.toFinset ≠ (results.map .str).toFinset)
      (jobId B item ++ " gate result semantics are incomplete")
    ++ errorIf (¬ safeRelative evidence ∨ ¬ startsWith B "checks/g2-scale-v1/" evidence)
      (jobId B item ++ " gate evidence is outside checks")
    ++ errorIf ((gate.getD "type" .null).pyEq B (.str "human") && advances)
      (jobId B item ++ " human gate cannot auto-advance")

/-- The part of the loop about the acceptance gates. -/
def acceptanceErrors (item : JsonObject) : Except PyError (List String) := do
  let acceptance := item.getD "acceptance" (.list [])
  let gates ← acceptance.iterate
  let errors ← Raising.collect (gates.map (gateErrors B item))
  return errorIf (¬ acceptance.truthy B) (jobId B item ++ " has no acceptance gate") ++ errors

/-- One pass of the loop over the jobs. -/
def jobErrors (known : List PyKey) (owner : PyDict String) (item : JsonObject) :
    Except PyError (List String × PyDict String) := do
  let errors ← Raising.collect [dependencyErrors B known item, fieldErrors B item]
  match outputsOf item with
  | none => return (errors ++ [jobId B item ++ " has no outputs"], owner)
  | some outputs => do
    let (outputErrors, owner) ← outputsErrors B item owner outputs
    let gates ← acceptanceErrors B item
    return (errors ++ outputErrors ++ gates, owner)

/-- The loop over the jobs. -/
def jobsErrors (known : List PyKey) :
    PyDict String → List JsonObject → Except PyError (List String)
  | _, [] => .ok []
  | owner, item :: items => do
    let (errors, owner) ← jobErrors B known owner item
    return errors ++ (← jobsErrors known owner items)

/-! ## The dependency graph -/

/-- `graph`: the ids of the jobs with their dependencies. -/
def graphOf (items : List JsonObject) : Except PyError (List (String × List (PyKey × Json))) :=
  items.mapM fun item => return (jobId B item, ← dependenciesOf B item)

/-- `graph.get(node, ())`. -/
def leadsTo (graph : List (String × List (PyKey × Json))) : PyKey → List (PyKey × Json)
  | .str node => (graph.reverse.lookup node).getD []
  | _ => []

/-- The part of `validate` that visits the graph. -/
def cycleErrors (depth : Nat) (data : JsonObject) : Except PyError (List String) := do
  let graph ← graphOf B (jobs data)
  let nodes := (graph.map (·.1)).eraseDups.map fun node => (PyKey.str node, Json.str node)
  match DepthFirst.visitAll (DepthFirst.visit Prod.fst (leadsTo graph) depth) nodes ⟨[], [], []⟩ with
  | none => .error (.other "RecursionError")
  | some search =>
    return search.cycles.map fun node => "dependency cycle includes " ++ node.2.text B

/-! ## The rest of the manifest -/

/-- The part of `validate` about `budgets`. -/
def budgetErrors (data : JsonObject) : Except PyError (List String) := do
  let budgets ← (data.getD "budgets" (.dict [])).asObject
  let parallel ← (budgets.getD "max_parallel_jobs" (.int 0)).order B 3
  let attempts ← (budgets.getD "max_attempts_total" (.int 0)).order B ((jobs data).length * 2)
  return errorIf (parallel = some .gt) "parallelism exceeds the reviewed ceiling of 3"
    ++ errorIf (attempts = some .lt) "campaign attempt budget cannot fund declared job attempts"

/-- The part of `validate` about `specialist_mesh`. -/
def meshErrors (data : JsonObject) : Except PyError (List String) := do
  let mesh ← (data.getD "specialist_mesh" (.dict [])).asObject
  return errorIf (¬ (mesh.getD "truth_authority" .null).pyEq B (.str "world-kernel-only"))
    "specialist mesh truth authority must be world-kernel-only"

/-- The part of `validate` about one field of the manifest. -/
def rootErrors (data : JsonObject) (field expected error : String) : List String :=
  errorIf (¬ (data.getD field .null).pyEq B (.str expected)) error

/-- The keys of the ids, `known`. -/
def knownIds (data : JsonObject) : Except PyError (List PyKey) :=
  (jobs data).mapM fun item => (item.getD "id" .null).hashed B

/-- `validate`, of an object. -/
def validateObject (depth : Nat) (data : JsonObject) : Except PyError (List String) :=
  Raising.collect [
    .ok (rootErrors B data "schema_version" "long_run_campaign.v2"
      "schema_version must be long_run_campaign.v2"),
    executionErrors B data,
    stopErrors B data,
    .ok (graphShapeErrors data),
    idErrors B data,
    do jobsErrors B (← knownIds B data) ∅ (jobs data),
    cycleErrors B depth data,
    budgetErrors B data,
    meshErrors B data,
    .ok (rootErrors B data "campaign_id" "law-firm-digital-twin-g2-scale-v1"
      "unexpected campaign identity")]

/-- `validate`. -/
def validate (depth : Nat) (data : Json) : Except PyError (List String) :=
  match data with
  | .dict data => (validateObject B depth data).map List.eraseDups
  | _ => .ok ["manifest root must be an object"]

end

end Campaign

end LawFirmDigitalTwin
