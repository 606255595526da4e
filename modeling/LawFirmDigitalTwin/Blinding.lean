import LawFirmDigitalTwin.Decimal
import LawFirmDigitalTwin.Lib.Raising
import LawFirmDigitalTwin.Models

/-!
# Treatment blinding

`_blind_pair` and the export of `run_all_routes` of `g2.py`. The two runs of a route are exported
under labels that do not tell the arms apart: their flags are combined, their outcomes are merged as
sets, and their work values are sorted. Sorting is stable, so two work values that are equal but
written differently keep the order of the arms.
-/

namespace LawFirmDigitalTwin

open Raising

/-- What the export reads of a run of `run_walking_skeleton`. -/
structure InternalRun where
  route : String
  closed : Bool
  financeErrors : List String
  /-- `run["berean_audit"]["passed"]` -/
  bereanAuditPassed : Bool
  resolutionOutcome : String
  /-- `run["matter"]["rule_pack"]["jurisdiction_label"]` -/
  jurisdictionLabel : String
  /-- `run["treatment_metrics"]["work_value"]` -/
  workValue : String
  /-- `run["treatment_metrics"]["audit_passed"]` -/
  auditPassed : Bool

/-- The labels of the two arms. -/
def blindLabels : List String := ["arm_a", "arm_b"]

/-- A record of a comparison. -/
structure BlindRecord where
  blindLabel : String
  evaluationStatus : String := "sealed_pending_controlled_reveal"
  auditPassed : Bool
  closed : Bool
  deriving DecidableEq

def BlindRecord.toJson (r : BlindRecord) : Json :=
  .dict [
    ("blind_label", .str r.blindLabel),
    ("evaluation_status", .str r.evaluationStatus),
    ("audit_passed", .bool r.auditPassed),
    ("closed", .bool r.closed)]

/-- `paired_unordered_metrics`. -/
structure PairedMetrics where
  workValueMultiset : List String
  absoluteWorkValueDifference : String
  mappingToLabels : String := "withheld"
  deriving DecidableEq

def PairedMetrics.toJson (p : PairedMetrics) : Json :=
  .dict [
    ("work_value_multiset", .strs p.workValueMultiset),
    ("absolute_work_value_difference", .str p.absoluteWorkValueDifference),
    ("mapping_to_labels", .str p.mappingToLabels)]

/-- What `_blind_pair` returns. -/
structure BlindComparison where
  route : String
  records : List BlindRecord
  pairedUnorderedMetrics : PairedMetrics
  treatmentMappingDisclosed : Bool := false
  label : String := "synthetic treatment-blind comparison; non-predictive"
  comparisonHash : String
  deriving DecidableEq

def BlindComparison.toJson (c : BlindComparison) : Json :=
  .dict [
    ("route", .str c.route),
    ("records", .list (c.records.map BlindRecord.toJson)),
    ("paired_unordered_metrics", c.pairedUnorderedMetrics.toJson),
    ("treatment_mapping_disclosed", .bool c.treatmentMappingDisclosed),
    ("label", .str c.label),
    ("comparison_hash", .str c.comparisonHash)]

/-- `abs(work_values[1] - work_values[0])`. -/
def workValueDifference : List Decimal → Except PyError Decimal
  | low :: high :: _ => do Decimal.abs (← Decimal.sub high low)
  | _ => .error .indexError

/-- The part of `_blind_pair` after the work values are sorted. -/
def comparisonOf (route : Route) (auditPassed closed : Bool) (workValues : List Decimal) :
    Except PyError BlindComparison := do
  let records := blindLabels.map fun label =>
    { blindLabel := label, auditPassed := auditPassed, closed := closed : BlindRecord }
  let difference ← workValueDifference workValues
  let pairedMetrics : PairedMetrics :=
    { workValueMultiset := workValues.map Decimal.toText
      absoluteWorkValueDifference := difference.toText }
  return {
    route := route.value
    records := records
    pairedUnorderedMetrics := pairedMetrics
    comparisonHash := digest (.dict [
      ("records", .list (records.map BlindRecord.toJson)),
      ("paired_unordered_metrics", pairedMetrics.toJson)]) }

/-- `g2.py` `_blind_pair`. -/
def blindPair (route : Route) (pair : List InternalRun) : Except PyError BlindComparison := do
  let workValues ← Decimal.sorted (← pair.mapM fun run => Decimal.ofText run.workValue)
  comparisonOf route (pair.all (·.auditPassed)) (pair.all (·.closed)) workValues

/-- A record of `runs` of the export. -/
structure BlindedRun where
  blindLabel : String
  route : String
  closed : Bool
  financeErrors : List String
  auditPassed : Bool
  resolutionOutcome : String
  jurisdictionLabel : String
  syntheticNonPredictive : Bool := true
  deriving DecidableEq

def BlindedRun.toJson (r : BlindedRun) : Json :=
  .dict [
    ("blind_label", .str r.blindLabel),
    ("route", .str r.route),
    ("closed", .bool r.closed),
    ("finance_errors", .strs r.financeErrors),
    ("audit_passed", .bool r.auditPassed),
    ("resolution_outcome", .str r.resolutionOutcome),
    ("jurisdiction_label", .str r.jurisdictionLabel),
    ("synthetic_non_predictive", .bool r.syntheticNonPredictive)]

/-- `next(iter(values)) if len(values) == 1 else "divergent_withheld"`. -/
def onlyOne (values : Finset String) : String :=
  match sorted values with
  | [value] => value
  | _ => "divergent_withheld"

/-- The records of a route under the two labels. -/
def blindedRecords (route : Route) (pair : List InternalRun) : List BlindedRun :=
  blindLabels.map fun label =>
    { blindLabel := label
      route := route.value
      closed := pair.all (·.closed)
      financeErrors := sorted (pair.flatMap (·.financeErrors)).toFinset
      auditPassed := pair.all (·.bereanAuditPassed)
      resolutionOutcome := onlyOne (pair.map (·.resolutionOutcome)).toFinset
      jurisdictionLabel := onlyOne (pair.map (·.jurisdictionLabel)).toFinset }

/-- `for route in Route`. -/
def routes : List Route := [.earlySettlement, .mediationImpasse, .dispositive, .trialAppeal]

/-- The runs of a route. -/
def runsOf (internalRuns : List InternalRun) (route : Route) : List InternalRun :=
  internalRuns.filter fun run => run.route = route.value

/-- `blinded_runs` of `run_all_routes`. -/
def blindedRuns (internalRuns : List InternalRun) : List BlindedRun :=
  routes.flatMap fun route => blindedRecords route (runsOf internalRuns route)

/-- What `run_all_routes` returns. -/
structure EvaluatorExport where
  simulator : String := "Law Firm Digital Twin"
  scope : String := "G0-G2 evaluator export"
  runs : List BlindedRun
  treatmentBlindComparisons : List BlindComparison
  bundleHash : String
  blindingNote : String := "No per-arm hashes, values, or join keys are exported; reveal mapping is a separate controlled artifact and is not produced at G2."
  syntheticNonPredictive : Bool := true

/-- `g2.py` `run_all_routes`, once it has run every arm on every route. -/
def runAllRoutes (internalRuns : List InternalRun) : Except PyError EvaluatorExport := do
  let comparisons ← routes.mapM fun route => blindPair route (runsOf internalRuns route)
  let runs := blindedRuns internalRuns
  return {
    runs := runs
    treatmentBlindComparisons := comparisons
    bundleHash := digest (.dict [
      ("runs", .list (runs.map BlindedRun.toJson)),
      ("comparisons", .list (comparisons.map BlindComparison.toJson))]) }

/-! ## Exchanging the arms -/

section
variable {d d' : Decimal} {r r' : InternalRun} {route : Route}

/-- Equal work values have one difference, whichever comes first. -/
theorem workValueDifference_of_eq (hd : d.IsFinite) (hd' : d'.IsFinite)
    (heq : d.eq d' = .ok true) :
    ∃ z, workValueDifference [d, d'] = .ok z ∧ workValueDifference [d', d] = .ok z := by
  have heq' : d'.eq d = .ok true := by
    rcases Decimal.lt_cases hd hd' with ⟨-, -, hne⟩ | ⟨-, -, hne⟩ | ⟨hlt, hlt', -⟩
    · cases hne.symm.trans heq
    · cases hne.symm.trans heq
    · rcases Decimal.lt_cases hd' hd with ⟨h, -⟩ | ⟨-, h, -⟩ | ⟨-, -, h⟩
      · cases h.symm.trans hlt'
      · cases h.symm.trans hlt
      · exact h
  cases d with
  | infinity | nan => exact hd.elim
  | finite s a e =>
    cases d' with
    | infinity | nan => exact hd'.elim
    | finite t b f =>
      obtain ⟨neg, hsub⟩ := Decimal.sub_of_eq heq
      obtain ⟨neg', hsub'⟩ := Decimal.sub_of_eq heq'
      rw [min_comm f e] at hsub'
      simp only [workValueDifference, hsub, hsub', ok_bind]
      exact ⟨_, rfl, rfl⟩

/-- `_blind_pair` of two runs, from their work values. -/
theorem blindPair_pair (hr : Decimal.ofText r.workValue = .ok d)
    (hr' : Decimal.ofText r'.workValue = .ok d') :
    blindPair route [r, r'] = Decimal.sorted [d, d'] >>=
      comparisonOf route (r.auditPassed && r'.auditPassed) (r.closed && r'.closed) := by
  have hvalues : [r, r'].mapM (fun run => Decimal.ofText run.workValue) = .ok [d, d'] := by
    simp only [List.mapM_cons, List.mapM_nil, hr, hr', pure_eq_ok, ok_bind]
  unfold blindPair
  rw [hvalues, ok_bind]
  simp

/-- Where the difference can be computed there is a comparison, with the values in their order. -/
theorem comparisonOf_ok (route : Route) (auditPassed closed : Bool) {values : List Decimal}
    {z : Decimal} (hz : workValueDifference values = .ok z) :
    ∃ c, comparisonOf route auditPassed closed values = .ok c ∧
      c.pairedUnorderedMetrics.workValueMultiset = values.map Decimal.toText := by
  unfold comparisonOf
  rw [hz]
  exact ⟨_, rfl, rfl⟩

/-- Equal work values that are written the same way make the same comparison. -/
theorem comparisonOf_swap {auditPassed closed : Bool} {z : Decimal}
    (hz : workValueDifference [d, d'] = .ok z) (hz' : workValueDifference [d', d] = .ok z)
    (htext : d.toText = d'.toText) :
    comparisonOf route auditPassed closed [d, d'] =
      comparisonOf route auditPassed closed [d', d] := by
  unfold comparisonOf
  rw [hz, hz']
  simp only [List.map_cons, List.map_nil, htext]

/-- **When `_blind_pair` forgets the order.** The two work values are different, or written the same
way. -/
theorem blindPair_swap_iff (hr : Decimal.ofText r.workValue = .ok d)
    (hr' : Decimal.ofText r'.workValue = .ok d') (hd : d.IsFinite) (hd' : d'.IsFinite) :
    blindPair route [r, r'] = blindPair route [r', r] ↔
      (d.eq d' = .ok true → d.toText = d'.toText) := by
  rw [blindPair_pair hr hr', blindPair_pair hr' hr, Bool.and_comm r'.auditPassed,
    Bool.and_comm r'.closed]
  rcases Decimal.lt_cases hd hd' with ⟨hlt, hlt', hne⟩ | ⟨hlt, hlt', hne⟩ | ⟨hlt, hlt', heq⟩
  · rw [Decimal.sorted_pair hlt', Decimal.sorted_pair hlt]
    refine iff_of_true rfl fun heq => ?_
    cases hne.symm.trans heq
  · rw [Decimal.sorted_pair hlt', Decimal.sorted_pair hlt]
    refine iff_of_true rfl fun heq => ?_
    cases hne.symm.trans heq
  · -- sorting leaves equal values in the order of the arms
    rw [Decimal.sorted_pair hlt', Decimal.sorted_pair hlt]
    obtain ⟨z, hz, hz'⟩ := workValueDifference_of_eq hd hd' heq
    simp only [Bool.false_eq_true, if_false, ok_bind]
    constructor
    · intro hsame _
      obtain ⟨c, hc, hmultiset⟩ :=
        comparisonOf_ok route (r.auditPassed && r'.auditPassed) (r.closed && r'.closed) hz
      obtain ⟨c', hc', hmultiset'⟩ :=
        comparisonOf_ok route (r.auditPassed && r'.auditPassed) (r.closed && r'.closed) hz'
      rw [hc, hc'] at hsame
      rw [Except.ok.inj hsame, hmultiset'] at hmultiset
      exact (List.cons.inj hmultiset).1.symm
    · intro htext
      exact comparisonOf_swap hz hz' (htext heq)

end

/-! ## The export -/

/-- The second list holds the runs of the first, with the two runs of each route exchanged. -/
def Exchanged (runs runs' : List InternalRun) : Prop :=
  ∀ route, runsOf runs' route = (runsOf runs route).reverse

/-- The records of a route do not depend on the order of its runs. -/
theorem blindedRecords_perm {route : Route} {pair pair' : List InternalRun}
    (h : pair'.Perm pair) : blindedRecords route pair' = blindedRecords route pair := by
  have hall (p : InternalRun → Bool) : pair'.all p = pair.all p := h.all_eq
  have hset (f : InternalRun → String) :
      (pair'.map f).toFinset = (pair.map f).toFinset := List.toFinset_eq_of_perm _ _ (h.map f)
  have herrors : (pair'.flatMap (·.financeErrors)).toFinset =
      (pair.flatMap (·.financeErrors)).toFinset :=
    List.toFinset_eq_of_perm _ _ (h.flatMap_right _)
  unfold blindedRecords
  rw [hall, hall, hset, hset, herrors]

/-- Exchanging the two runs of each route leaves the blinded runs as they are. -/
theorem blindedRuns_of_exchanged {runs runs' : List InternalRun} (h : Exchanged runs runs') :
    blindedRuns runs' = blindedRuns runs := by
  refine List.flatMap_congr fun route _ => blindedRecords_perm ?_
  rw [h route]
  exact List.reverse_perm _

/-- A run whose work value is a finite decimal. -/
def InternalRun.FiniteWork (r : InternalRun) : Prop :=
  ∃ d, Decimal.ofText r.workValue = .ok d ∧ d.IsFinite

/-- The work values of two runs are different, or written the same way. -/
def SpelledAlike (r r' : InternalRun) : Prop :=
  ∀ d d', Decimal.ofText r.workValue = .ok d → Decimal.ofText r'.workValue = .ok d' →
    d.eq d' = .ok true → d.toText = d'.toText

/-- **When the blinding is symmetric.** A comparison forgets the order of its two runs exactly where
equal work values are written the same way; the records of the runs always do. -/
theorem blinding_symmetric_iff (route : Route) {r r' : InternalRun} (hwork : r.FiniteWork)
    (hwork' : r'.FiniteWork) :
    (blindPair route [r, r'] = blindPair route [r', r] ↔ SpelledAlike r r') ∧
      ∀ runs runs', Exchanged runs runs' → blindedRuns runs' = blindedRuns runs := by
  refine ⟨?_, fun runs runs' h => blindedRuns_of_exchanged h⟩
  obtain ⟨d, hr, hd⟩ := hwork
  obtain ⟨d', hr', hd'⟩ := hwork'
  rw [blindPair_swap_iff hr hr' hd hd']
  constructor
  · intro h e e' he he' heq
    rw [hr] at he
    rw [hr'] at he'
    cases he
    cases he'
    exact h heq
  · exact fun h => h d d' hr hr'

/-- A run of the early settlement route with a work value. -/
def settledRun (workValue : String) : InternalRun where
  route := "early_settlement"
  closed := true
  financeErrors := []
  bereanAuditPassed := true
  resolutionOutcome := "settled"
  jurisdictionLabel := "DATA_FIRST_PENDING"
  workValue := workValue
  auditPassed := true

/-- One and one hundred hundredths are exported in the order of the arms. -/
theorem comparison_tells_order :
    blindPair .earlySettlement [settledRun "1.0", settledRun "1.00"] ≠
      blindPair .earlySettlement [settledRun "1.00", settledRun "1.0"] := by
  intro h
  have hmultiset := congrArg (Except.map (·.pairedUnorderedMetrics.workValueMultiset)) h
  revert hmultiset
  decide +kernel

/-- Two runs whose values are written differently, exchanged. -/
theorem blinding_symmetric_iff_settled :
    blindPair .earlySettlement [settledRun "1.0", settledRun "2.50"] =
        blindPair .earlySettlement [settledRun "2.50", settledRun "1.0"] ∧
      blindedRuns [settledRun "2.50", settledRun "1.0"] =
        blindedRuns [settledRun "1.0", settledRun "2.50"] := by
  have hfirst : Decimal.ofText (settledRun "1.0").workValue = .ok (.finite false 10 (-1)) := by
    decide +kernel
  have hsecond : Decimal.ofText (settledRun "2.50").workValue = .ok (.finite false 250 (-2)) := by
    decide +kernel
  have hblind := blinding_symmetric_iff .earlySettlement ⟨_, hfirst, trivial⟩ ⟨_, hsecond, trivial⟩
  refine ⟨hblind.1.2 fun d d' hd hd' heq => ?_, hblind.2 _ _ fun route => ?_⟩
  · rw [hfirst] at hd
    rw [hsecond] at hd'
    cases hd
    cases hd'
    revert heq
    decide +kernel
  · cases route <;> rfl

end LawFirmDigitalTwin
