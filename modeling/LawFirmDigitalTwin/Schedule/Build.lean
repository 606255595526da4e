import LawFirmDigitalTwin.JsonReading
import LawFirmDigitalTwin.Schedule.Reference

/-!
# Building a manifest from a cassette

`build_g2_schedule_manifest` of `simulation_schedule_core.py`: the serialized cassette is parsed,
and every attempt of it becomes a proposal. `str(v)` of a value that is not a string is a parameter.
-/

namespace LawFirmDigitalTwin

open JsonText

/-- The members of an object. -/
abbrev Members := List (List Nat × Value)

/-- What `build_g2_schedule_manifest` raises. -/
inductive BuildError
  | valueError (text : String)
  /-- `ValueError(f"schedule_manifest_invalid:{errors}")` -/
  | manifestInvalid (errors : List String)
  | attributeError
  | keyError (key : String)
  deriving DecidableEq

/-- `ROLE_RESOURCE`. -/
def roleResource : List (String × String) :=
  [("intake", "intake_operations"), ("conflicts", "conflicts_operations"),
   ("lawyer", "responsible_counsel"), ("docketing", "docketing_operations"),
   ("deadline_reviewer", "independent_deadline_review"), ("paralegal", "litigation_support"),
   ("billing", "billing_operations"), ("carrier", "carrier_review")]

/-- `VERB_SCHEDULING_CLASS`. -/
def verbSchedulingClass : List (String × String) :=
  [("receive_referral", "intake_work"), ("submit_conflict_result", "conflicts_work"),
   ("record_lawyer_gate", "authority_review_work"), ("open_matter", "matter_opening_work"),
   ("calculate_deadlines", "deadline_calculation_work"),
   ("verify_deadlines", "deadline_verification_work"),
   ("issue_preservation", "preservation_work"), ("collect_evidence", "collection_work"),
   ("review_evidence", "evidence_review_work"), ("produce_discovery", "production_work"),
   ("take_deposition", "deposition_support_work"), ("retain_expert", "expert_coordination_work"),
   ("settle_case", "resolution_work"), ("mediate_to_impasse", "resolution_work"),
   ("resolve_dispositive", "resolution_work"), ("try_and_appeal", "resolution_work"),
   ("record_time", "timekeeping_work"), ("submit_invoice", "billing_submission_work"),
   ("carrier_audit", "carrier_audit_work"), ("appeal_reduction", "billing_appeal_work"),
   ("apply_payment", "payment_processing_work"), ("finalize_closeout", "closeout_work"),
   ("close_matter", "closure_work"), ("read_oracle", "boundary_probe_work")]

/-- `default_scheduler_resources`. -/
def defaultSchedulerResources : List SchedulerResourceSpec :=
  resourceClasses.map fun value => { resourceClass := value, capacity := 1 }

/-- `table.get(key, "")`. -/
def tableGet (table : List (String × String)) (key : List Nat) : String :=
  ((table.find? fun e => codes e.1 = key).map (·.2)).getD ""

/-- `d.get(key, default)`. -/
def memberOr (d : Members) (key : String) (default : Value) : Value :=
  (d.lookup (codes key)).getD default

/-- `digest` of a parsed value. -/
@[irreducible] def digestValue (v : Value) : String :=
  String.ofList (Sha256.hexdigest (utf8 (String.ofList v.canonicalize.dumps)))

@[simp] theorem digestValue_length (v : Value) : (digestValue v).length = 64 := by
  unfold digestValue
  rw [String.length_ofList, Sha256.length_hexdigest]

/-- `f"{n:04d}"`. -/
def paddedOrdinal (n : Nat) : String :=
  let digits := Nat.toDigits 10 n
  String.ofList (List.replicate (4 - digits.length) '0' ++ digits)

section
variable (str : Value → List Nat)

/-- `str(v)`. -/
def strOf : Value → List Nat
  | .str s => s
  | v => str v

/-- `str(d.get(key, ""))`. -/
def memberText (d : Members) (key : String) : List Nat := strOf str (memberOr d key (.str []))

/-- An entry of `raw_rows`. -/
structure RawRow where
  entry : Members
  command : Members
  matterId : List Nat

/-- The checks of one attempt. -/
def rawRow (attempt : Value) : Except BuildError RawRow :=
  match attempt with
  | .dict entry =>
    match memberOr entry "command" .null with
    | .dict command =>
      if memberText str command "matter_id" = [] then
        .error (.valueError "schedule_cassette_matter_missing")
      else if memberText str entry "expected" ≠ codes "accepted" ∧
          memberText str entry "expected" ≠ codes "denied" then
        .error (.valueError "schedule_cassette_disposition_invalid")
      else .ok ⟨entry, command, memberText str command "matter_id"⟩
    | _ => .error (.valueError "schedule_cassette_attempt_invalid")
  | _ => .error (.valueError "schedule_cassette_attempt_invalid")

/-- The proposal of one attempt. -/
def proposalOf (sourceCommitment matterCommitment : String) (row : RawRow) (ordinal : Nat) :
    Except BuildError ScheduledCommandProposal :=
  let denied := memberText str row.entry "expected" = codes "denied"
  let schedulingClass := if denied then "boundary_probe_work"
    else tableGet verbSchedulingClass (memberText str row.command "verb")
  let resourceClass := tableGet roleResource (memberText str row.command "role_id")
  if schedulingClass = "" ∨ resourceClass = "" then
    .error (.valueError "schedule_cassette_command_not_mappable")
  else
    let commandCommitment := digestValue (.dict row.command)
    let proposalId := "SPROP-" ++ firstChars 18 (digest (.dict
      [("cassette", .str sourceCommitment), ("matter", .str matterCommitment),
       ("command", .str commandCommitment), ("ordinal", .int ordinal),
       ("class", .str schedulingClass)]))
    match serviceTicksOf.lookup schedulingClass with
    | none => .error (.keyError schedulingClass)
    | some serviceTicks =>
      .ok
        { proposalId := proposalId
          matterCommitment := matterCommitment
          commandCommitment := commandCommitment
          schedulingClass := schedulingClass
          readyTick := (((ordinal - 1) / 2 : Nat) : Int)
          serviceTicks := serviceTicks
          resourceClass := resourceClass
          priority := if denied then 0 else 10
          submissionOrdinal := ordinal
          tieBreakKey := paddedOrdinal ordinal ++ ":" ++ proposalId
          expectedDisposition := if denied then "denied_boundary_probe" else "accepted"
          sourceCassetteCommitment := sourceCommitment }

/-- The manifest of the proposals, before it is checked. -/
def manifestOf (sourceCommitment matterCommitment : String)
    (resources : List SchedulerResourceSpec) (proposals : List ScheduledCommandProposal)
    (maxWaitTicks maxFinishTick : Int) : SimulationScheduleManifest :=
  let manifest : SimulationScheduleManifest :=
    { manifestId := ""
      schedulerCoreRevision := LawFirmDigitalTwin.schedulerCoreRevision
      normalizationRevision := scheduleNormalizationRevision
      sourceCassetteCommitment := sourceCommitment
      matterCommitment := matterCommitment
      resources := resources
      proposals := proposals
      maxWaitTicks := maxWaitTicks
      maxFinishTick := maxFinishTick
      routeBlind := true
      sourceBodiesIncluded := false
      externalIo := false
      canonicalTimeAuthority := false
      worldTruthWrite := false
      branchAuthority := false
      outcomeAuthority := false }
  { manifest with manifestId := manifest.expectedId }

/-- `resources or default_scheduler_resources()`. -/
def resourcesOr : Option (List SchedulerResourceSpec) → List SchedulerResourceSpec
  | none | some [] => defaultSchedulerResources
  | some resources => resources

/-- The commitment to the matter of a cassette. -/
def matterCommitmentOf (matterId : List Nat) : String :=
  digestValue (.dict
    [(codes "matter_id", .str matterId), (codes "surface", .str (codes "scheduler_only"))])

/-- `build_g2_schedule_manifest`, once the text is parsed. -/
def buildFromCassette (cassette : Members) (resources : Option (List SchedulerResourceSpec))
    (maxWaitTicks maxFinishTick : Int) : Except BuildError SimulationScheduleManifest :=
  match memberOr cassette "revision" .null with
  | .str revision =>
    if revision ≠ codes "g2_attempt_cassette_v2" then
      .error (.valueError "schedule_cassette_revision_invalid")
    else
      match memberOr cassette "attempts" .null with
      | .list [] => .error (.valueError "schedule_cassette_attempts_invalid")
      | .list attempts => do
        let rows ← attempts.mapM (rawRow str)
        match (rows.map (·.matterId)).dedup with
        | [matterId] =>
          let source := digestValue (.dict cassette)
          let matter := matterCommitmentOf matterId
          let proposals ← (rows.zipIdx 1).mapM fun e => proposalOf str source matter e.1 e.2
          let manifest :=
            manifestOf source matter (resourcesOr resources) proposals maxWaitTicks maxFinishTick
          match validateScheduleManifest manifest with
          | [] => return manifest
          | errors => throw (.manifestInvalid errors)
        | _ => throw (.valueError "schedule_cassette_cross_matter")
      | _ => .error (.valueError "schedule_cassette_attempts_invalid")
  | _ => .error (.valueError "schedule_cassette_revision_invalid")

/-- `build_g2_schedule_manifest`. -/
def buildG2ScheduleManifest (H : Host) (serializedCassette : String)
    (resources : Option (List SchedulerResourceSpec)) (maxWaitTicks maxFinishTick : Int) :
    Except BuildError SimulationScheduleManifest :=
  match loads H serializedCassette.toList with
  | .error .decode => .error (.valueError "schedule_cassette_json_invalid")
  | .error .digits => .error (.valueError "Exceeds the limit for integer string conversion")
  | .ok (.dict cassette) => buildFromCassette str cassette resources maxWaitTicks maxFinishTick
  | .ok _ => .error .attributeError

end

end LawFirmDigitalTwin
