import LawFirmDigitalTwin.PyValue

/-!
# Schedule contracts

`simulation_schedule_contracts.py`: resources, proposals, manifests, decisions and traces, with the
canonical form their hashes cover.
-/

namespace LawFirmDigitalTwin

def schedulerCoreRevision : String := "simulation-scheduler-core-g2-v1"
def scheduleNormalizationRevision : String := "simulation-schedule-normalization-g2-v1"
def referenceSchedulerRevision : String := "reference-integer-scheduler-g2-v1"
def simpyAdapterRevision : String := "simpy-scheduler-adapter-g2-v1"

/-- `simulation_schedule_contracts.py` `SchedulerResourceSpec`. -/
structure SchedulerResourceSpec where
  resourceClass : String
  capacity : Int
  queuePolicy : String := "deterministic_fifo"
  nonPreemptive : Bool := true

def SchedulerResourceSpec.toJson (r : SchedulerResourceSpec) : Json :=
  .dict
    [("resource_class", .str r.resourceClass), ("capacity", .int r.capacity),
     ("queue_policy", .str r.queuePolicy), ("non_preemptive", .bool r.nonPreemptive)]

/-- `simulation_schedule_contracts.py` `ScheduledCommandProposal`. -/
structure ScheduledCommandProposal where
  proposalId : String
  matterCommitment : String
  commandCommitment : String
  schedulingClass : String
  readyTick : Int
  serviceTicks : Int
  resourceClass : String
  priority : Int
  submissionOrdinal : Int
  tieBreakKey : String
  expectedDisposition : String
  sourceCassetteCommitment : String
  payloadIncluded : Bool := false
  kernelAcceptanceClaimed : Bool := false
  deriving DecidableEq

def ScheduledCommandProposal.toJson (p : ScheduledCommandProposal) : Json :=
  .dict
    [("proposal_id", .str p.proposalId), ("matter_commitment", .str p.matterCommitment),
     ("command_commitment", .str p.commandCommitment),
     ("scheduling_class", .str p.schedulingClass), ("ready_tick", .int p.readyTick),
     ("service_ticks", .int p.serviceTicks), ("resource_class", .str p.resourceClass),
     ("priority", .int p.priority), ("submission_ordinal", .int p.submissionOrdinal),
     ("tie_break_key", .str p.tieBreakKey), ("expected_disposition", .str p.expectedDisposition),
     ("source_cassette_commitment", .str p.sourceCassetteCommitment),
     ("payload_included", .bool p.payloadIncluded),
     ("kernel_acceptance_claimed", .bool p.kernelAcceptanceClaimed)]

/-- `simulation_schedule_contracts.py` `SimulationScheduleManifest`. -/
structure SimulationScheduleManifest where
  manifestId : String
  schedulerCoreRevision : String
  normalizationRevision : String
  sourceCassetteCommitment : String
  matterCommitment : String
  resources : List SchedulerResourceSpec
  proposals : List ScheduledCommandProposal
  maxWaitTicks : Int
  maxFinishTick : Int
  routeBlind : Bool
  sourceBodiesIncluded : Bool
  externalIo : Bool
  canonicalTimeAuthority : Bool
  worldTruthWrite : Bool
  branchAuthority : Bool
  outcomeAuthority : Bool

namespace SimulationScheduleManifest

def toJson (m : SimulationScheduleManifest) : Json :=
  .dict
    [("manifest_id", .str m.manifestId),
     ("scheduler_core_revision", .str m.schedulerCoreRevision),
     ("normalization_revision", .str m.normalizationRevision),
     ("source_cassette_commitment", .str m.sourceCassetteCommitment),
     ("matter_commitment", .str m.matterCommitment),
     ("resources", .list (m.resources.map SchedulerResourceSpec.toJson)),
     ("proposals", .list (m.proposals.map ScheduledCommandProposal.toJson)),
     ("max_wait_ticks", .int m.maxWaitTicks), ("max_finish_tick", .int m.maxFinishTick),
     ("route_blind", .bool m.routeBlind),
     ("source_bodies_included", .bool m.sourceBodiesIncluded),
     ("external_io", .bool m.externalIo),
     ("canonical_time_authority", .bool m.canonicalTimeAuthority),
     ("world_truth_write", .bool m.worldTruthWrite), ("branch_authority", .bool m.branchAuthority),
     ("outcome_authority", .bool m.outcomeAuthority)]

/-- `SimulationScheduleManifest.manifest_hash`. -/
def manifestHash (m : SimulationScheduleManifest) : String := digest m.toJson

end SimulationScheduleManifest

/-- `simulation_schedule_contracts.py` `QueueDecision`. -/
structure QueueDecision where
  proposalId : String
  schedulingClass : String
  resourceClass : String
  plannedStartTick : Int
  plannedFinishTick : Int
  deterministicOrdinal : Int
  expectedDisposition : String
  kernelAcceptance : Bool := false

def QueueDecision.toJson (d : QueueDecision) : Json :=
  .dict
    [("proposal_id", .str d.proposalId), ("scheduling_class", .str d.schedulingClass),
     ("resource_class", .str d.resourceClass), ("planned_start_tick", .int d.plannedStartTick),
     ("planned_finish_tick", .int d.plannedFinishTick),
     ("deterministic_ordinal", .int d.deterministicOrdinal),
     ("expected_disposition", .str d.expectedDisposition),
     ("kernel_acceptance", .bool d.kernelAcceptance)]

/-- `simulation_schedule_contracts.py` `SchedulerTrace`. -/
structure SchedulerTrace where
  traceId : String
  adapterId : String
  adapterRevision : String
  runtimeVersion : String
  schedulerCoreRevision : String
  normalizationRevision : String
  manifestHash : String
  decisions : List QueueDecision
  decisionSemanticsHash : String
  runtimeAdapterExecuted : Bool
  externalIo : Bool
  kernelAcceptanceClaimed : Bool
  canonicalTimeAuthority : Bool
  worldTruthValidated : Bool
  branchAuthority : Bool
  outcomeAuthority : Bool
  canonicalAdmission : Bool

/-- `digest(decisions)`. -/
def decisionsHash (decisions : List QueueDecision) : String :=
  digest (.list (decisions.map QueueDecision.toJson))

/-- The trace both schedulers return for their decisions. -/
def makeTrace (adapterId adapterRevision runtimeVersion : String) (runtimeAdapterExecuted : Bool)
    (m : SimulationScheduleManifest) (decisions : List QueueDecision) : SchedulerTrace where
  traceId := "SCHED-TRACE-" ++ firstChars 18 (digest (.dict
    [("adapter_id", .str adapterId), ("adapter_revision", .str adapterRevision),
     ("runtime_version", .str runtimeVersion), ("manifest_hash", .str m.manifestHash),
     ("semantics", .str (decisionsHash decisions))]))
  adapterId := adapterId
  adapterRevision := adapterRevision
  runtimeVersion := runtimeVersion
  schedulerCoreRevision := LawFirmDigitalTwin.schedulerCoreRevision
  normalizationRevision := scheduleNormalizationRevision
  manifestHash := m.manifestHash
  decisions := decisions
  decisionSemanticsHash := decisionsHash decisions
  runtimeAdapterExecuted := runtimeAdapterExecuted
  externalIo := false
  kernelAcceptanceClaimed := false
  canonicalTimeAuthority := false
  worldTruthValidated := false
  branchAuthority := false
  outcomeAuthority := false
  canonicalAdmission := false

end LawFirmDigitalTwin
