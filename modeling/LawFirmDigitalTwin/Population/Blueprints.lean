import LawFirmDigitalTwin.Lib.Returns
import LawFirmDigitalTwin.Population.Registry

/-!
# The blueprints of a population

What `build_population_blueprints` returns: one blueprint for every matter, with one bucket of each
axis, in the order of the axes, and the labels that these buckets call for.
-/

namespace LawFirmDigitalTwin

open Raising

/-- The family that is active in the standard registry. -/
def employmentFamily : CaseFamilyManifest :=
  familyManifest "employment_defense_g2" "Labor and employment defense" "active_g2"
    ["employment_action", "policy", "attendance", "protected_activity", "damages"]
    ["intake", "conflicts", "lawyer", "paralegal", "docketing", "carrier", "billing", "witness",
     "expert"]
    ["employment_email", "employment_hr_record", "employment_policy", "employment_payroll",
     "employment_calendar", "employment_litigation", "employment_expert", "employment_noise"]
    ["organizational_practices", "workplace_investigation"]

/-- A blueprint as it is drawn for a population. -/
structure Drawn (seed : String) (b : CaseDesignBlueprint) : Prop where
  seedOf : b.seed = seed
  family : b.caseFamilyId = "employment_defense_g2"
  buckets : List.Forall₂ (fun label axis => label.1 = axis.axisId ∧
    label.2 ∈ axis.buckets.map (·.bucketId)) b.sealedAxisLabels buildPopulationAxes
  labels : designLabelsOf b.ordinal.toNat (.ofEntries b.sealedAxisLabels) = .ok b.designLabels

/-- The axes are apportioned as `_allocate_axis` asks. -/
theorem axes_apportioned : ∀ axis ∈ buildPopulationAxes, (axis.buckets.map (·.bucketId)).Nodup ∧
    (∀ b ∈ axis.buckets, 0 ≤ b.weight) ∧ (axis.buckets.map (·.weight)).sum = 100 := by
  simp only [buildPopulationAxes, List.forall_mem_cons, List.not_mem_nil, false_implies,
    implies_true, and_true]
  decide

section
variable {seed : String} {count : Int}

/-- The buckets of an axis, one for each matter. -/
theorem allocateAxis_drawn (seed : String) (hcount : 1 ≤ count) {axis : PopulationAxis}
    (haxis : axis ∈ buildPopulationAxes) :
    ∃ labels, allocateAxis axis seed count = .ok labels ∧ (labels.length : Int) = count ∧
      ∀ l ∈ labels, l ∈ axis.buckets.map (·.bucketId) := by
  obtain ⟨hids, hweights, htotal⟩ := axes_apportioned axis haxis
  obtain ⟨labels, k, hlabels, hk, hallotted⟩ :=
    allocateAxis_ok seed hids hweights htotal hcount
  have hfair := hallotted.fair (falls_remainderOrder axis seed count) hids htotal hk
  exact ⟨labels, hlabels, hfair.total, hfair.label⟩

/-- What is assigned on the axes. -/
def Assigned (count : Int) (assignments : List (String × List String)) : Prop :=
  List.Forall₂ (fun a axis => a.1 = axis.axisId ∧ (a.2.length : Int) = count ∧
    ∀ l ∈ a.2, l ∈ axis.buckets.map (·.bucketId)) assignments buildPopulationAxes

/-- Every axis is allocated. -/
theorem assigned_returns (seed : String) (hcount : 1 ≤ count) :
    ∃ assignments, (buildPopulationAxes.mapM fun axis => do
        let labels ← allocateAxis axis seed count
        return (axis.axisId, labels) : Except PyError _) = .ok assignments ∧
      Assigned count assignments := by
  have hpass : ∀ axis ∈ buildPopulationAxes, Returns (do
      let labels ← allocateAxis axis seed count
      return (axis.axisId, labels) : Except PyError _) := by
    intro axis haxis
    obtain ⟨labels, hlabels, -⟩ := allocateAxis_drawn seed hcount haxis
    rw [hlabels]
    exact returns_ok _
  obtain ⟨assignments, hassignments⟩ := returns_mapM.2 hpass
  refine ⟨assignments, hassignments, ?_⟩
  have hpasses := except_mapM_eq_ok.1 hassignments
  refine (List.forall₂_iff_zip.2 ⟨hpasses.length_eq, fun {axis a} hmem => ?_⟩).flip
  obtain ⟨labels, hlabels, hlength, hbuckets⟩ :=
    allocateAxis_drawn seed hcount (List.of_mem_zip hmem).1
  have hmade := (List.forall₂_iff_zip.1 hpasses).2 hmem
  rw [hlabels] at hmade
  obtain rfl := Except.ok.inj hmade
  exact ⟨rfl, hlength, hbuckets⟩

/-- The labels of a matter, axis by axis. -/
theorem axisLabels_returns {assignments : List (String × List String)}
    (h : Assigned count assignments) {ordinal : Nat} (hordinal : (ordinal : Int) < count) :
    ∃ labels, assignments.mapM (axisLabel ordinal) = .ok labels ∧
      List.Forall₂ (fun label axis => label.1 = axis.axisId ∧
        label.2 ∈ axis.buckets.map (·.bucketId)) labels buildPopulationAxes := by
  unfold Assigned at h
  generalize buildPopulationAxes = axes at h
  induction h with
  | nil => exact ⟨[], rfl, .nil⟩
  | @cons a axis assignments axes ha _ ih =>
    obtain ⟨hid, hlength, hbuckets⟩ := ha
    obtain ⟨labels, hlabels, hdrawn⟩ := ih
    have hlt : ordinal < a.2.length := by omega
    have hlabel : axisLabel ordinal a = .ok (a.1, a.2[ordinal]) := by
      rw [axisLabel, List.getElem?_eq_getElem hlt]
    refine ⟨(a.1, a.2[ordinal]) :: labels, ?_,
      .cons ⟨hid, hbuckets _ (List.getElem_mem hlt)⟩ hdrawn⟩
    rw [List.mapM_cons, hlabel, hlabels]
    rfl

/-- The buckets of a drawn design are found under its axes. -/
theorem found_of_drawn {labels : List (String × String)} (h : List.Forall₂ (fun label axis =>
    label.1 = axis.axisId ∧ label.2 ∈ axis.buckets.map (·.bucketId)) labels buildPopulationAxes) :
    (labels.map (·.1)).Nodup ∧ ∀ axis ∈ buildPopulationAxes, ∃ bucketId,
      (PyDict.ofEntries labels).get? axis.axisId = some bucketId ∧
        bucketId ∈ axis.buckets.map (·.bucketId) := by
  have hids : labels.map (·.1) = buildPopulationAxes.map (·.axisId) :=
    List.forall₂_eq_eq_eq ▸ List.forall₂_map_left_iff.2 (List.forall₂_map_right_iff.2
      (h.imp fun _ _ hlabel => hlabel.1))
  have hnodup : (labels.map (·.1)).Nodup := hids ▸ (by decide)
  refine ⟨hnodup, fun axis haxis => ?_⟩
  obtain ⟨i, hi, rfl⟩ := List.mem_iff_getElem.1 haxis
  have hlt : i < labels.length := by rwa [h.length_eq]
  obtain ⟨hid, hbucket⟩ := h.get hlt hi
  rw [List.get_eq_getElem, List.get_eq_getElem] at hid hbucket
  refine ⟨labels[i].2, hid ▸ PyDict.get?_ofEntries_of_mem hnodup (List.getElem_mem hlt), hbucket⟩

/-- Every case of the population has its blueprint. -/
theorem populationBlueprint_returns {assignments : List (String × List String)}
    (h : Assigned count assignments) {ordinal : Nat} (hordinal : (ordinal : Int) < count) :
    ∃ b, populationBlueprint seed "employment_defense_g2" assignments ordinal = .ok b ∧
      Drawn seed b ∧ b.ordinal = ordinal := by
  obtain ⟨labels, hlabels, hdrawn⟩ := axisLabels_returns h hordinal
  obtain ⟨-, hfound⟩ := found_of_drawn hdrawn
  have hitem {axisId : String} (haxis : axisId ∈ buildPopulationAxes.map (·.axisId)) :
      ∃ bucketId, (PyDict.ofEntries labels).getItem axisId = .ok bucketId := by
    obtain ⟨axis, hmem, rfl⟩ := List.mem_map.1 haxis
    obtain ⟨bucketId, hbucket, -⟩ := hfound axis hmem
    exact ⟨bucketId, by rw [PyDict.getItem, hbucket]⟩
  obtain ⟨merits, hmerits⟩ := @hitem "merits_posture" (by decide)
  obtain ⟨shape, hshape⟩ := @hitem "evidence_shape" (by decide)
  obtain ⟨procedural, hprocedural⟩ := @hitem "procedural_quality" (by decide)
  obtain ⟨designLabels, hdesign⟩ : Returns (designLabelsOf ordinal (.ofEntries labels)) := by
    unfold designLabelsOf
    rw [hmerits, hshape, hprocedural]
    exact returns_ok _
  unfold populationBlueprint
  rw [hlabels, ok_bind, hdesign, ok_bind]
  exact ⟨_, rfl, ⟨rfl, rfl, hdrawn, hdesign⟩, rfl⟩

/-- **A population has a blueprint for every matter.** -/
theorem buildPopulationBlueprints_ok (seed : String) (hcount : 1 ≤ count) :
    ∃ blueprints, buildPopulationBlueprints seed count = .ok blueprints ∧
      blueprints.map (·.ordinal) = (List.range count.toNat).map Int.ofNat ∧
        ∀ b ∈ blueprints, Drawn seed b := by
  obtain ⟨assignments, hassignments, hassigned⟩ := assigned_returns seed hcount
  have hpass : ∀ ordinal ∈ List.range count.toNat,
      ∃ b, populationBlueprint seed "employment_defense_g2" assignments ordinal = .ok b ∧
        Drawn seed b ∧ b.ordinal = ordinal := fun ordinal hordinal =>
    populationBlueprint_returns hassigned (by rw [List.mem_range] at hordinal; omega)
  obtain ⟨blueprints, hblueprints⟩ := returns_mapM.2 fun ordinal hordinal =>
    (hpass ordinal hordinal).imp fun _ h => h.1
  have hpasses := except_mapM_eq_ok.1 hblueprints
  refine ⟨blueprints, ?_, ?_, fun b hb => ?_⟩
  · have hfamily : (PyDict.ofEntries (buildCaseFamilyManifests.map fun item =>
        (item.familyId, item))).get? "employment_defense_g2" = some employmentFamily :=
      PyDict.get?_keyed_of_mem (by decide) (.head _)
    have hactive : employmentFamily.readiness = "active_g2" := rfl
    unfold buildPopulationBlueprints
    dsimp only
    rw [hfamily]
    dsimp only
    rw [if_neg (not_not.2 hactive), hassignments]
    exact hblueprints
  · refine List.forall₂_eq_eq_eq ▸ List.forall₂_map_left_iff.2 (List.forall₂_map_right_iff.2 ?_)
    refine (List.forall₂_iff_zip.2 ⟨hpasses.length_eq, fun {ordinal b} hmem => ?_⟩).flip
    obtain ⟨b', hb', -, hordinal⟩ := hpass ordinal (List.of_mem_zip hmem).1
    cases ((List.forall₂_iff_zip.1 hpasses).2 hmem).symm.trans hb'
    exact hordinal
  · obtain ⟨ordinal, hordinal, hmade⟩ := (mem_of_except_mapM hblueprints b).1 hb
    obtain ⟨b', hb', hdrawn, -⟩ := hpass ordinal hordinal
    cases hmade.symm.trans hb'
    exact hdrawn

end

end LawFirmDigitalTwin
