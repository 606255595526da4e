import LawFirmDigitalTwin.Campaign.Manifest

/-!
# Accepted manifests

What it says of a manifest that the validator finds no error: part by part, then job by job.
-/

namespace LawFirmDigitalTwin

namespace Campaign

/-- A check adds no error where it passes. -/
theorem errorIf_eq_nil {bad : Bool} {error : String} : errorIf bad error = [] ↔ bad = false := by
  cases bad <;> simp [errorIf]

/-- No errors are left only where there were none. -/
theorem eraseDups_eq_nil {errors : List String} : errors.eraseDups = [] ↔ errors = [] := by
  cases errors <;> simp [List.eraseDups_cons]

/-- The parts of the validator that say something about the jobs, each without an error. -/
structure Accepts (B : Builtins) (depth : Nat) (data : JsonObject) (ids : List String) : Prop where
  shape : graphShapeErrors data = []
  named : (jobs data).map (fun item => item.getD "id" .null) = ids.map .str
  nodup : ids.Nodup
  nonempty : "" ∉ ids
  clean : jobsErrors B (ids.map .str) ∅ (jobs data) = .ok []
  acyclic : cycleErrors B depth data = .ok []

section
variable {B : Builtins} {depth : Nat} {data : JsonObject}

/-- Texts are hashed as themselves. -/
theorem mapM_hashed_strs (ids : List String) :
    (ids.map Json.str).mapM (Json.hashed B) = .ok (ids.map .str) := by
  induction ids with
  | nil => rfl
  | cons id ids ih =>
    rw [List.map_cons, List.mapM_cons, ih]
    rfl

/-- Ids without errors are distinct texts, none of them empty. -/
theorem ids_of_idErrors (h : idErrors B data = .ok []) :
    ∃ ids : List String, (jobs data).map (fun item => item.getD "id" .null) = ids.map .str ∧
      ids.Nodup ∧ "" ∉ ids := by
  unfold idErrors at h
  obtain ⟨keys, hkeys, h⟩ := Raising.except_bind_eq_ok.1 h
  simp only [Raising.pure_eq_ok, Except.ok.injEq, List.append_eq_nil_iff, errorIf_eq_nil,
    decide_eq_false_iff_not, not_not, List.any_eq_false] at h
  obtain ⟨hnamed, hnodup⟩ := h
  have hstr : ∀ v ∈ (jobs data).map (fun item => item.getD "id" .null),
      ∃ s : String, v = .str s ∧ s ≠ "" := by
    intro v hv
    have := hnamed v hv
    cases v with
    | str s => exact ⟨s, rfl, by simpa using this⟩
    | null | bool | int | float | list | dict => simp at this
  obtain ⟨ids, hids⟩ : ∃ ids : List String,
      (jobs data).map (fun item => item.getD "id" .null) = ids.map .str := by
    generalize (jobs data).map (fun item => item.getD "id" .null) = vs at hstr
    induction vs with
    | nil => exact ⟨[], rfl⟩
    | cons v vs ih =>
      obtain ⟨s, rfl, -⟩ := hstr v (.head _)
      obtain ⟨ids, rfl⟩ := ih fun w hw => hstr w (.tail _ hw)
      exact ⟨s :: ids, rfl⟩
  rw [hids, mapM_hashed_strs] at hkeys
  refine ⟨ids, hids, ?_, fun hmem => ?_⟩
  · rw [← Except.ok.inj hkeys] at hnodup
    exact hnodup.of_map _
  · obtain ⟨s, hs, hne⟩ := hstr (.str "") (hids ▸ List.mem_map_of_mem hmem)
    cases hs
    exact hne rfl

/-- The id of a job that has one. -/
theorem jobId_of_id {item : JsonObject} {id : String} (h : item.getD "id" .null = .str id) :
    jobId B item = id := by
  unfold JsonObject.getD at h
  unfold jobId JsonObject.getD
  cases hget : item.get? "id" with
  | none =>
    rw [hget] at h
    cases h
  | some v =>
    rw [hget] at h
    obtain rfl : v = .str id := h
    rfl

/-- A job whose id is a text has it for a name. -/
theorem jobIds_of_named {items : List JsonObject} {ids : List String}
    (h : items.map (fun item => item.getD "id" .null) = ids.map .str) :
    items.map (jobId B) = ids := by
  induction items generalizing ids with
  | nil => exact (List.map_eq_nil_iff.1 h.symm).symm
  | cons item items ih =>
    cases ids with
    | nil => cases h
    | cons id ids =>
      obtain ⟨hid, hrest⟩ := List.cons.inj h
      rw [List.map_cons, jobId_of_id hid, ih hrest]

/-- **What acceptance says.** -/
theorem accepts_of_validate {m : Json} (h : validate B depth m = .ok []) :
    ∃ data ids, m = .dict data ∧ Accepts B depth data ids := by
  cases m with
  | null | bool | int | float | str | list => cases h
  | dict data =>
    have h : (validateObject B depth data).map List.eraseDups = .ok [] := h
    cases hparts : validateObject B depth data with
    | error e =>
      rw [hparts] at h
      cases h
    | ok errors =>
      rw [hparts] at h
      obtain rfl := eraseDups_eq_nil.1 (Except.ok.inj h)
      have hpart := Raising.collect_eq_nil.1 hparts
      simp only [List.forall_mem_cons] at hpart
      obtain ⟨-, -, -, hshape, hnames, hjobs, hcycles, -⟩ := hpart
      obtain ⟨ids, hids, hnodup, hnonempty⟩ := ids_of_idErrors hnames
      have hknown : knownIds B data = .ok (ids.map .str) := by
        rw [← mapM_hashed_strs ids, ← hids, List.mapM_map]
        rfl
      rw [hknown] at hjobs
      exact ⟨data, ids, rfl, Except.ok.inj hshape, hids, hnodup, hnonempty, hjobs, hcycles⟩

/-- A pass of the loop over the jobs without an error has none in its parts. -/
theorem jobErrors_parts {known : List PyKey} {owner owner' : PyDict String} {item : JsonObject}
    (h : jobErrors B known owner item = .ok ([], owner')) :
    dependencyErrors B known item = .ok [] ∧ fieldErrors B item = .ok [] ∧
      ∃ outputs, outputsOf item = some outputs ∧
        outputsErrors B item owner outputs = .ok ([], owner') ∧ acceptanceErrors B item = .ok [] := by
  unfold jobErrors at h
  obtain ⟨errors, herrors, h⟩ := Raising.except_bind_eq_ok.1 h
  cases houtputs : outputsOf item with
  | none =>
    rw [houtputs] at h
    exact absurd (Prod.mk.inj (Except.ok.inj h)).1 (by simp)
  | some outputs =>
    rw [houtputs] at h
    obtain ⟨⟨outputErrors, last⟩, hlast, h⟩ := Raising.except_bind_eq_ok.1 h
    obtain ⟨gates, hgates, h⟩ := Raising.except_bind_eq_ok.1 h
    obtain ⟨hnil, rfl⟩ := Prod.mk.inj (Except.ok.inj h)
    obtain ⟨hfirst, rfl⟩ := List.append_eq_nil_iff.1 hnil
    obtain ⟨rfl, rfl⟩ := List.append_eq_nil_iff.1 hfirst
    have hpart := Raising.collect_eq_nil.1 herrors
    exact ⟨hpart _ (.head _), hpart _ (.tail _ (.head _)), outputs, rfl, hlast, hgates⟩

end

/-! ## An accepted manifest -/

/-- The texts of values that no accepted manifest prints, and floats that it has not. -/
def fixtureBuiltins : Builtins where
  str v := canonicalJson v
  sorted values := .ok values
  integral _ := none
  compare _ _ := none

/-- A job with the fields that the validator asks for. -/
def fixtureJob (id : String) (dependencies outputs : List String) : Json :=
  .dict [
    ("id", .str id),
    ("depends_on", .strs dependencies),
    ("owner_role", .str "writer"),
    ("checker_role", .str "checker"),
    ("max_attempts", .int 2),
    ("repair_limit", .int 1),
    ("retry_policy", .dict [("same_state_deterministic_retry", .bool false)]),
    ("outputs", .strs outputs),
    ("allowed_paths", .strs outputs),
    ("acceptance", .list [.dict [
      ("checker_role", .str "checker"),
      ("result_semantics", .strs results),
      ("evidence", .str "checks/g2-scale-v1/evidence.json")]])]

/-- A manifest with some jobs. -/
def fixtureManifest (items : List Json) : JsonObject :=
  [("schema_version", .str "long_run_campaign.v2"),
    ("campaign_id", .str "law-firm-digital-twin-g2-scale-v1"),
    ("execution", .dict (("mode", .str "specification_only") ::
      launchFields.map fun field => (field, .str "not-authorized"))),
    ("stop_conditions", .list (requiredStops.map fun stop => .dict [("code", .str stop)])),
    ("phases", .list [.dict [("waves", .list [.dict [("subwaves", .list [
      .dict [("jobs", .list items)]])]])]]),
    ("budgets", .dict [("max_parallel_jobs", .int 1), ("max_attempts_total", .int 8)]),
    ("specialist_mesh", .dict [("truth_authority", .str "world-kernel-only")])]

/-- Two jobs that write one file, and one of them into the controller's directory. -/
def aliasedManifest : JsonObject :=
  fixtureManifest [fixtureJob "J1" [] ["out/a.json"],
    fixtureJob "J2" ["J1"] ["out//a.json", "./.campaign-state/g2-scale-v1/forged.json"]]

/-- The manifest is accepted. -/
theorem validate_aliasedManifest :
    validate fixtureBuiltins 100 (.dict aliasedManifest) = .ok [] := by
  decide +kernel

end Campaign

end LawFirmDigitalTwin
