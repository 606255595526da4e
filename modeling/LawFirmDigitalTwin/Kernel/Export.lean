import LawFirmDigitalTwin.Blinding
import LawFirmDigitalTwin.Kernel.Skeleton

/-!
# The evaluator export

`run_all_routes` of `g2.py`: the skeleton is run for both arms on every route, and the runs are
blinded and exported. A seed shows in the export through the outcome of its posture alone
(`exportAllRoutes_eq`).
-/

namespace LawFirmDigitalTwin

open Raising

/-- What the export reads of a run. -/
def SkeletonRun.internal (run : SkeletonRun) : InternalRun where
  route := run.route
  closed := run.closed
  financeErrors := run.financeErrors
  bereanAuditPassed := run.bereanAudit.passed
  resolutionOutcome := run.resolutionOutcome
  jurisdictionLabel := run.jurisdictionLabel
  workValue := run.workValue
  auditPassed := run.auditPassed

/-- `internal_runs`. -/
def internalRuns (observe : Json → PyObject) (seed : String) : Except PyError (List InternalRun) := do
  let pairs := [Arm.traditional, .aiFirst].flatMap fun arm => routes.map (arm, ·)
  let runs ← pairs.mapM fun pair => runWalkingSkeleton observe seed pair.1 pair.2
  return runs.map SkeletonRun.internal

/-- `g2.py` `run_all_routes`. -/
def exportAllRoutes (observe : Json → PyObject) (seed : String) : Except PyError EvaluatorExport := do
  runAllRoutes (← internalRuns observe seed)

/-! ## The runs of a script -/

/-- What the export reads of a verified run. -/
def verifiedRun (outcome : Outcome) (arm : Arm) (route : Route) : InternalRun where
  route := route.value
  closed := true
  financeErrors := []
  bereanAuditPassed := true
  resolutionOutcome := outcome.value
  jurisdictionLabel := placeholderDataFirstRulePack.jurisdictionLabel
  workValue := arm.work
  auditPassed := true

/-- The internal run of a verified skeleton run. -/
theorem SkeletonRun.Verified.internal {run : SkeletonRun} {arm : Arm} {route : Route}
    {outcome : Outcome} (h : run.Verified arm route outcome) :
    run.internal = verifiedRun outcome arm route := by
  unfold SkeletonRun.internal verifiedRun
  rw [h.route, h.closed, h.reconciled, h.audited.1, h.outcome, h.jurisdiction, h.work, h.audited.2]

/-- The runs that are exported. -/
def verifiedRuns (outcome : Outcome) : List InternalRun :=
  [Arm.traditional, .aiFirst].flatMap fun arm => routes.map (verifiedRun outcome arm)

/-- The internal runs of a seed are the verified runs of its outcome. -/
theorem internalRuns_eq (observe : Json → PyObject) (seed : String) :
    ∃ outcome, outcomeOf (targetOf seed).1 = .ok outcome ∧
      internalRuns observe seed = .ok (verifiedRuns outcome) := by
  obtain ⟨outcome, houtcome⟩ := outcomeOf_valid (targetOf_mem seed)
  have hverified (pair : Arm × Route) : ∃ run,
      runWalkingSkeleton observe seed pair.1 pair.2 = .ok run ∧
        run.internal = verifiedRun outcome pair.1 pair.2 := by
    obtain ⟨run, outcome', hrun, houtcome', hverified⟩ :=
      runWalkingSkeleton_returns observe seed pair.1 pair.2
    cases houtcome.symm.trans houtcome'
    exact ⟨run, hrun, hverified.internal⟩
  obtain ⟨runs, hruns, hinternal⟩ := except_mapM_map_eq fun pair
    (_ : pair ∈ [Arm.traditional, .aiFirst].flatMap fun arm => routes.map (arm, ·)) =>
      hverified pair
  refine ⟨outcome, houtcome, ?_⟩
  unfold internalRuns
  dsimp only
  rw [hruns, ok_bind, hinternal]
  rfl

/-! ## The export of a script -/

/-- The comparison of the arms on a route. -/
def comparisonOn (route : Route) : BlindComparison :=
  let records := blindLabels.map fun label =>
    { blindLabel := label, auditPassed := true, closed := true : BlindRecord }
  let pairedMetrics : PairedMetrics :=
    { workValueMultiset := ["700.00", "900.00"], absoluteWorkValueDifference := "200.00" }
  { route := route.value
    records := records
    pairedUnorderedMetrics := pairedMetrics
    comparisonHash := digest (.dict [
      ("records", .list (records.map BlindRecord.toJson)),
      ("paired_unordered_metrics", pairedMetrics.toJson)]) }

/-- The record of a route under a label. -/
def blindedRunOn (outcome : Outcome) (route : Route) (label : String) : BlindedRun where
  blindLabel := label
  route := route.value
  closed := true
  financeErrors := []
  auditPassed := true
  resolutionOutcome := outcome.value
  jurisdictionLabel := placeholderDataFirstRulePack.jurisdictionLabel

/-- The export of a seed whose posture has this outcome. -/
def exportOf (outcome : Outcome) : EvaluatorExport :=
  let runs := routes.flatMap fun route => blindLabels.map (blindedRunOn outcome route)
  let comparisons := routes.map comparisonOn
  { runs := runs
    treatmentBlindComparisons := comparisons
    bundleHash := digest (.dict [
      ("runs", .list (runs.map BlindedRun.toJson)),
      ("comparisons", .list (comparisons.map BlindComparison.toJson))]) }

/-- A route has two verified runs, one of each arm. -/
theorem runsOf_verifiedRuns (outcome : Outcome) (route : Route) :
    runsOf (verifiedRuns outcome) route =
      [verifiedRun outcome .traditional route, verifiedRun outcome .aiFirst route] := by
  cases route <;> rfl

/-- The work values of the arms, sorted, and their difference. -/
theorem workValues_sorted :
    (do Decimal.sorted (← [Arm.traditional, .aiFirst].mapM fun arm : Arm => Decimal.ofText arm.work)) =
        .ok [.finite false 70000 (-2), .finite false 90000 (-2)] ∧
      workValueDifference [.finite false 70000 (-2), .finite false 90000 (-2)] =
        .ok (.finite false 20000 (-2)) := by
  constructor <;> decide +kernel

/-- The two verified runs of a route compare as on every other one. -/
theorem blindPair_verified (outcome : Outcome) (route : Route) :
    blindPair route [verifiedRun outcome .traditional route, verifiedRun outcome .aiFirst route] =
      .ok (comparisonOn route) := by
  have htexts : [Decimal.finite false 70000 (-2), .finite false 90000 (-2)].map Decimal.toText =
      ["700.00", "900.00"] ∧ (Decimal.finite false 20000 (-2)).toText = "200.00" := by
    decide +kernel
  have hsorted : (do Decimal.sorted (← [verifiedRun outcome .traditional route,
      verifiedRun outcome .aiFirst route].mapM fun run : InternalRun =>
        Decimal.ofText run.workValue)) =
        .ok [.finite false 70000 (-2), .finite false 90000 (-2)] := workValues_sorted.1
  unfold blindPair
  rw [except_bind_eq_ok] at hsorted
  obtain ⟨values, hvalues, hsorted⟩ := hsorted
  rw [hvalues, ok_bind, hsorted, ok_bind]
  unfold comparisonOf comparisonOn
  dsimp only
  rw [workValues_sorted.2, ok_bind, htexts.1, htexts.2]
  rfl

/-- The two verified runs of a route are blinded alike. -/
theorem blindedRecords_verified (outcome : Outcome) (route : Route) :
    blindedRecords route [verifiedRun outcome .traditional route, verifiedRun outcome .aiFirst route] =
      blindLabels.map (blindedRunOn outcome route) := by
  cases route <;> cases outcome <;> decide

/-- **What the evaluator is shown of a seed.** For every seed the export is that of the outcome of
its posture: all runs closed, audited and reconciled, with the same comparison on every route. -/
theorem exportAllRoutes_eq (observe : Json → PyObject) (seed : String) :
    ∃ outcome, outcomeOf (targetOf seed).1 = .ok outcome ∧
      exportAllRoutes observe seed = .ok (exportOf outcome) := by
  obtain ⟨outcome, houtcome, hruns⟩ := internalRuns_eq observe seed
  refine ⟨outcome, houtcome, ?_⟩
  have hcomparisons : (routes.mapM fun route => blindPair route (runsOf (verifiedRuns outcome) route)) =
      .ok (routes.map comparisonOn) := by
    rw [except_mapM_eq_ok, List.forall₂_map_right_iff]
    exact List.forall₂_same.2 fun route _ => by
      rw [runsOf_verifiedRuns, blindPair_verified]
  have hblinded : blindedRuns (verifiedRuns outcome) =
      routes.flatMap fun route => blindLabels.map (blindedRunOn outcome route) := by
    unfold blindedRuns
    refine List.flatMap_congr fun route _ => ?_
    rw [runsOf_verifiedRuns, blindedRecords_verified]
  unfold exportAllRoutes runAllRoutes
  rw [hruns, ok_bind, hcomparisons, ok_bind]
  dsimp only
  rw [hblinded]
  rfl

end LawFirmDigitalTwin
