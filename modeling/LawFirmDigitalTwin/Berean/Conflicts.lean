import LawFirmDigitalTwin.Berean.Auditor
import LawFirmDigitalTwin.Kernel.EvidencePhase

/-!
# The two detectors of conflicts

The kernel compares the claims of the artifacts that a review selects, at the time of the review;
the auditor those of the artifacts that were produced, at the time of the audit. They are the same
artifacts, since a production is of everything that the review has selected (`Staged.produced`).
-/

namespace LawFirmDigitalTwin

/-! ## The same conflicts, listed and as a set -/

/-- Filtering and sorting go either way round. -/
theorem sorted_filter (s : Finset String) (p : String → Prop) [DecidablePred p] :
    sorted (s.filter p) = (sorted s).filter p := by
  refine List.Perm.eq_of_pairwise' (pairwise_sorted _) ((pairwise_sorted s).filter _) ?_
  rw [← Multiset.coe_eq_coe, coe_sorted, ← Multiset.filter_coe, coe_sorted]
  rfl

/-- The candidates of a review are the conflicts, sorted. -/
theorem conflictCandidates_eq (values : PyDict (Finset String)) :
    conflictCandidates values = sorted (conflictSet values) := by
  unfold conflictCandidates conflictSet PyDict.entries
  rw [sorted_filter]
  induction sorted values.keys with
  | nil => rfl
  | cons factId rest ih =>
    cases hvalue : values.get? factId with
    | none =>
      rw [List.filterMap_cons_none (by rw [hvalue]; rfl), ih,
        List.filter_cons_of_neg (by rw [hvalue]; simp)]
    | some observed =>
      rw [List.filterMap_cons_some (b := (factId, observed)) (by rw [hvalue]; rfl)]
      by_cases hcard : 1 < observed.card
      · rw [List.filter_cons_of_pos (by simpa using hcard), List.map_cons, ih,
          List.filter_cons_of_pos (by rw [hvalue]; simpa using hcard)]
      · rw [List.filter_cons_of_neg (by simpa using hcard), ih,
          List.filter_cons_of_neg (by rw [hvalue]; simpa using hcard)]

/-- The claims that the auditor compares. -/
theorem observedValues_eq (produced : Finset String) (artifacts : List EvidenceArtifact)
    (values : PyDict (Finset String)) :
    observedValues produced artifacts values =
      claimsOf (artifacts.filter (·.artifactId ∈ produced)) values := by
  induction artifacts generalizing values with
  | nil => rfl
  | cons a rest ih =>
    unfold observedValues
    by_cases ha : a.artifactId ∈ produced
    · have hfilter : (a :: rest).filter (·.artifactId ∈ produced) =
          a :: rest.filter (·.artifactId ∈ produced) := List.filter_cons_of_pos (by simpa using ha)
      rw [if_neg (not_not_intro ha), ih, hfilter]
      rfl
    · have hfilter : (a :: rest).filter (·.artifactId ∈ produced) =
          rest.filter (·.artifactId ∈ produced) := List.filter_cons_of_neg (by simpa using ha)
      rw [if_pos ha, ih, hfilter]

/-! ## Every run -/

end LawFirmDigitalTwin
