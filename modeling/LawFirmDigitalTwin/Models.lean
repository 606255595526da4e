import Mathlib.Algebra.Order.Ring.Int
import LawFirmDigitalTwin.PyValue

/-!
# Shared records

`models.py` and `rules.py`: treatment arms, routes, rule packs, commands and events, and the two
deadline calculators.
-/

namespace LawFirmDigitalTwin

/-- `models.py` `Arm`. -/
inductive Arm
  | traditional
  | aiFirst
  deriving DecidableEq

def Arm.value : Arm → String
  | .traditional => "traditional"
  | .aiFirst => "ai_first"

/-- `Arm(text)`. -/
def Arm.ofText (text : String) : Except PyError Arm :=
  match [traditional, aiFirst].find? (·.value = text) with
  | some arm => .ok arm
  | none => .error (.valueError "is not a valid Arm")

/-- The text of an arm is read back. -/
theorem Arm.ofText_value (arm : Arm) : Arm.ofText arm.value = .ok arm := by cases arm <;> rfl

/-- `models.py` `Route`. -/
inductive Route
  | earlySettlement
  | mediationImpasse
  | dispositive
  | trialAppeal
  deriving DecidableEq

def Route.value : Route → String
  | .earlySettlement => "early_settlement"
  | .mediationImpasse => "mediation_impasse"
  | .dispositive => "dispositive"
  | .trialAppeal => "trial_appeal"

/-- `Route(text)`. -/
def Route.ofText (text : String) : Except PyError Route :=
  match [earlySettlement, mediationImpasse, dispositive, trialAppeal].find? (·.value = text) with
  | some route => .ok route
  | none => .error (.valueError "is not a valid Route")

/-- The text of a route is read back. -/
theorem Route.ofText_value (route : Route) : Route.ofText route.value = .ok route := by
  cases route <;> rfl

/-- `models.py` `SourceReceipt`. -/
structure SourceReceipt where
  sourceId : String
  stableSource : String
  authority : String
  retrievalDate : String
  effectiveDate : String
  licensePosture : String
  intendedUse : String
  prohibitedUse : String
  sourceHash : String
  validator : String
  status : String

def SourceReceipt.toJson (r : SourceReceipt) : Json :=
  .dict
    [("source_id", .str r.sourceId), ("stable_source", .str r.stableSource),
     ("authority", .str r.authority), ("retrieval_date", .str r.retrievalDate),
     ("effective_date", .str r.effectiveDate), ("license_posture", .str r.licensePosture),
     ("intended_use", .str r.intendedUse), ("prohibited_use", .str r.prohibitedUse),
     ("source_hash", .str r.sourceHash), ("validator", .str r.validator), ("status", .str r.status)]

/-- `models.py` `RulePack`. -/
structure RulePack where
  rulePackId : String
  jurisdictionLabel : String
  sourceReceipts : List SourceReceipt
  responseDays : Int
  disclosureDays : Int
  discoveryCutoffDays : Int

def RulePack.toJson (p : RulePack) : Json :=
  .dict
    [("rule_pack_id", .str p.rulePackId), ("jurisdiction_label", .str p.jurisdictionLabel),
     ("source_receipts", .list (p.sourceReceipts.map SourceReceipt.toJson)),
     ("response_days", .int p.responseDays), ("disclosure_days", .int p.disclosureDays),
     ("discovery_cutoff_days", .int p.discoveryCutoffDays)]

/-- `models.py` `Command`. -/
structure Command where
  commandId : String
  verb : String
  actorId : String
  roleId : String
  matterId : String
  payload : PyDict PyValue
  requiresAuthority : List String := []
  requiresKnowledge : List String := []

/-- `asdict(command)` in canonical form, or what is raised on a payload that has none. -/
def Command.toJson (c : Command) : Except PyError Json := do
  let payload ← c.payload.canonical
  return .dict
    [("command_id", .str c.commandId), ("verb", .str c.verb), ("actor_id", .str c.actorId),
     ("role_id", .str c.roleId), ("matter_id", .str c.matterId), ("payload", payload),
     ("requires_authority", .strs c.requiresAuthority),
     ("requires_knowledge", .strs c.requiresKnowledge)]

/-- `models.py` `Event`. The values of the payload are in canonical form: an event exists only when
they had one, and only the canonical form is ever read back. -/
structure Event where
  eventId : String
  runId : String
  matterId : String
  simulatedAt : Nat
  eventType : String
  commandId : String
  actorId : String
  roleId : String
  knowledgeScope : String
  authorityBasis : String
  payload : PyDict Json
  inputHash : String
  outputHash : String
  randomStreamKey : String
  treatmentArm : String

/-! ## Deadlines -/

/-- `rules.py` `PRIMARY_DEADLINE_CALCULATOR`. -/
def primaryDeadlineCalculator : String := "primary_deadline_calculator_v1"

/-- `rules.py` `SECONDARY_DEADLINE_CALCULATOR`. -/
def secondaryDeadlineCalculator : String := "secondary_deadline_calculator_v1"

/-- `rules.py` `placeholder_data_first_rule_pack`. -/
def placeholderDataFirstRulePack : RulePack where
  rulePackId := "RULEPACK-DATA-FIRST-PENDING-v0"
  jurisdictionLabel := "DATA_FIRST_PENDING"
  sourceReceipts :=
    [{ sourceId := "SRC-DATA-FIRST-PENDING"
       stableSource := "docs/jurisdiction_data_rubric.md"
       authority := "Lowell decision H-1; jurisdiction not locked"
       retrievalDate := "2026-07-18"
       effectiveDate := "pending"
       licensePosture := "local project policy"
       intendedUse := "placeholder deadlines for deterministic skeleton only"
       prohibitedUse := "real legal deadline authority or public claim of jurisdiction correctness"
       sourceHash := digest (.dict
         [("doc", .str "jurisdiction_data_rubric"), ("date", .str "2026-07-18")])
       validator := "placeholder_rule_pack_validator"
       status := "hold_for_real_jurisdiction" }]
  responseDays := 21
  disclosureDays := 30
  discoveryCutoffDays := 180

/-- `rules.py` `calculate_deadlines_primary`. -/
def calculateDeadlinesPrimary (rulePack : RulePack) (filedDay : Int) : PyDict Int :=
  .ofEntries
    [("response_due", filedDay + rulePack.responseDays),
     ("initial_disclosures_due", filedDay + rulePack.disclosureDays),
     ("discovery_cutoff", filedDay + rulePack.discoveryCutoffDays)]

/-- `rules.py` `calculate_deadlines_secondary`. -/
def calculateDeadlinesSecondary (rulePack : RulePack) (filedDay : Int) : PyDict Int :=
  let namedOffsets :=
    [("discovery_cutoff", rulePack.discoveryCutoffDays),
     ("response_due", rulePack.responseDays),
     ("initial_disclosures_due", rulePack.disclosureDays)]
  namedOffsets.foldl (fun derived e => derived.set e.1 ([filedDay, e.2].sum)) ∅

/-- The two calculators agree on every rule pack and filing day. -/
theorem calculateDeadlines_agree (rulePack : RulePack) (filedDay : Int) :
    calculateDeadlinesSecondary rulePack filedDay = calculateDeadlinesPrimary rulePack filedDay := by
  apply PyDict.ext
  intro key
  simp only [calculateDeadlinesSecondary, calculateDeadlinesPrimary, PyDict.ofEntries,
    List.foldl_cons, List.foldl_nil, PyDict.get?_set, List.sum_cons, List.sum_nil, add_zero]
  by_cases h₁ : key = "discovery_cutoff"
  · subst h₁; simp
  by_cases h₂ : key = "initial_disclosures_due"
  · subst h₂; simp
  simp [h₁, h₂]

end LawFirmDigitalTwin
