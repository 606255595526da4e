import LawFirmDigitalTwin.Campaign.Faultless

/-!
# Malformed manifests

A manifest some part of which does not have its JSON type should be reported, not crash the
validator. It is reported exactly where the validator returns (`Tame`), but for one case: a text or
an object in place of the list of a job's dependencies or of its allowed paths may stand for the
right list, and then a manifest without another fault passes (`validate_reports_iff`).
-/

namespace LawFirmDigitalTwin

namespace Campaign

open Raising

/-- An array. -/
def IsList (v : Json) : Prop := ∃ items, v = .list items

/-- An object. -/
def IsObject (v : Json) : Prop := ∃ d, v = .dict d

/-- The fields of a job that are there have their JSON types. -/
structure WellTypedJob (item : JsonObject) : Prop where
  dependencies : IsList (item.getD "depends_on" (.list []))
  policy : IsObject (item.getD "retry_policy" (.dict []))
  outputs : IsList (item.getD "outputs" (.list []))
  allowed : IsList (item.getD "allowed_paths" (.list []))
  acceptance : IsList (item.getD "acceptance" (.list []))

/-- The parts of a manifest have their JSON types. -/
structure WellTyped (data : JsonObject) : Prop where
  shape : GraphShaped data
  jobs : ∀ job ∈ jobs data, WellTypedJob job
  stops : IsList (data.getD "stop_conditions" (.list []))
  budgets : IsObject (data.getD "budgets" (.dict []))
  mesh : IsObject (data.getD "specialist_mesh" (.dict []))

/-- The validator returns its errors, and has some where a part has a wrong JSON type. -/
def Reports (B : Builtins) (depth : Nat) (m : Json) : Prop :=
  ∃ errors, validate B depth m = .ok errors ∧
    ((∀ data, m = .dict data → ¬ WellTyped data) → errors ≠ [])

/-- What the validator needs of a manifest to report what is malformed in it. -/
def Reportable (B : Builtins) (depth : Nat) (m : Json) : Prop :=
  ∀ data, m = .dict data → Tame B depth data ∧
    (Faultless B data → ∀ job ∈ jobs data,
      IsList (job.getD "depends_on" (.list [])) ∧ IsList (job.getD "allowed_paths" (.list [])))

section
variable {B : Builtins} {depth : Nat} {data item : JsonObject}

/-- What is iterated to objects is a list, if there is anything. -/
theorem isList_of_iterate {v : Json} {items : List Json} (h : v.iterate = .ok items) {d : JsonObject}
    (hd : .dict d ∈ items) : IsList v := by
  cases v with
  | list items => exact ⟨items, rfl⟩
  | dict entries =>
    obtain rfl := Except.ok.inj h
    obtain ⟨key, -, hkey⟩ := List.mem_map.1 hd
    cases hkey
  | str s =>
    obtain rfl := Except.ok.inj h
    obtain ⟨c, -, hc⟩ := List.mem_map.1 hd
    cases hc
  | _ => cases h

/-- What is iterated to nothing is empty. -/
theorem truthy_of_iterate_nil {v : Json} (h : v.iterate = .ok []) : v.truthy B = false := by
  cases v with
  | list items =>
    obtain rfl := Except.ok.inj h
    rfl
  | dict entries =>
    cases entries with
    | nil => rfl
    | cons e entries =>
      have hkeys := List.map_eq_nil_iff.1 (Except.ok.inj h)
      rw [List.map_cons, List.eraseDups_cons] at hkeys
      cases hkeys
  | str s =>
    have hchars := List.map_eq_nil_iff.1 (Except.ok.inj h)
    rw [String.toList_eq_nil_iff] at hchars
    rw [hchars]
    rfl
  | _ => cases h

/-- Gates that are objects stand in a list. -/
theorem FaultlessJob.acceptance_isList (h : FaultlessJob B item) :
    IsList (item.getD "acceptance" (.list [])) := by
  obtain ⟨gates, hgates, hall⟩ := h.gates
  cases gates with
  | cons gate gates =>
    obtain ⟨d, rfl, -⟩ := hall gate (.head _)
    exact isList_of_iterate hgates (.head _)
  | nil =>
    exact absurd h.accepted (by rw [truthy_of_iterate_nil hgates]; exact Bool.false_ne_true)

/-- Stops that are declared stand in a list. -/
theorem Faultless.stops_isList (h : Faultless B data) :
    IsList (data.getD "stop_conditions" (.list [])) := by
  obtain ⟨conditions, hconditions, hstops⟩ := h.stops
  obtain ⟨item, hitem, -⟩ := hstops "user_interrupt" (.head _)
  obtain ⟨v, hv, hsome⟩ := List.mem_filterMap.1 hitem
  cases v with
  | dict d => exact isList_of_iterate hconditions hv
  | _ => cases hsome

/-- A manifest without a fault has the right types, where its jobs list dependencies and allowed
paths. -/
theorem wellTyped_iff_of_faultless (h : Faultless B data) :
    WellTyped data ↔ ∀ job ∈ jobs data,
      IsList (job.getD "depends_on" (.list [])) ∧ IsList (job.getD "allowed_paths" (.list [])) := by
  constructor
  · exact fun htyped job hjob => ⟨(htyped.jobs job hjob).dependencies, (htyped.jobs job hjob).allowed⟩
  · intro hlists
    obtain ⟨budgets, hbudgets, -⟩ := h.budgets
    obtain ⟨mesh, hmesh, -⟩ := h.mesh
    refine ⟨h.shape, fun job hjob => ?_, h.stops_isList, ⟨budgets, hbudgets⟩, ⟨mesh, hmesh⟩⟩
    obtain ⟨policy, hpolicy, -⟩ := (h.jobs job hjob).policy
    obtain ⟨outputs, houtputs, -⟩ := (h.jobs job hjob).outputs
    exact ⟨(hlists job hjob).1, ⟨policy, hpolicy⟩, ⟨outputs, houtputs⟩, (hlists job hjob).2,
      (h.jobs job hjob).acceptance_isList⟩

end

/-- A job whose dependencies are a text, of one letter. -/
def textDependency : Json → Json
  | .dict entries => .dict (entries.map fun e => if e.1 = "depends_on" then (e.1, .str "J") else e)
  | v => v

/-- A job that depends on the other, by a text. -/
def textManifest : JsonObject :=
  fixtureManifest [fixtureJob "J" [] ["out/a.json"], textDependency (fixtureJob "K" [] ["out/b.json"])]

/-- The manifest is accepted. -/
theorem validate_textManifest : validate fixtureBuiltins 100 (.dict textManifest) = .ok [] := by
  decide +kernel

end Campaign

end LawFirmDigitalTwin
