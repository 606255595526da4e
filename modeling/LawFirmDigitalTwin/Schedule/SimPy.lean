import LawFirmDigitalTwin.Lib.Calendar
import LawFirmDigitalTwin.Schedule.Reference

/-!
# The SimPy adapter

`SimPyScheduleAdapter.plan` of `simpy_schedule_adapter.py`. The generator `execute` is a function of
the point it is suspended at. The simulation library is not part of the repository; it is taken with
the three properties the adapter relies on. Events run in the order of their times, those of equal
time in the order in which they were scheduled (`Calendar.schedule`). A resource grants the request
at the head of its queue, and only while it has fewer users than its capacity (`grant`). The clock
does not move on while a resource could grant a request (`step`). When, within a tick, a request is
granted is left to the library: it is what `granting` says.
-/

namespace LawFirmDigitalTwin

open Calendar

/-- Where a process is suspended: before its first statement, or at one of the `yield`s. -/
inductive Point
  | created
  | delayed
  | requested
  | serving (start : Int)
  deriving DecidableEq

/-- What a process does when it runs: it waits for a timeout, requests its resource, or leaves the
`with` block with its decision recorded. -/
inductive Yield
  | timeout (delay : Int) (next : Point)
  | request
  | returned (decision : QueueDecision)

/-- `execute` of `SimPyScheduleAdapter.plan`, from the point it is suspended at to the next one. -/
def Process.execute (m : SimulationScheduleManifest) (p : Process) (now : Int) :
    Point → Except ScheduleError Yield
  | .created =>
    if p.proposal.readyTick ≠ 0 then .ok (.timeout p.proposal.readyTick .delayed)
    else .ok .request
  | .delayed => .ok .request
  | .requested =>
    let start := now
    let wait := start - p.proposal.readyTick
    if wait > m.maxWaitTicks then .error (.valueError "schedule_starvation_ceiling_exceeded")
    else .ok (.timeout p.proposal.serviceTicks (.serving start))
  | .serving start =>
    let finish := now
    if finish > m.maxFinishTick then .error (.valueError "schedule_finish_ceiling_exceeded")
    else .ok (.returned (p.decision start finish))

/-- A `simpy.Resource`: the processes that use it and those whose requests wait. -/
structure SimResource where
  capacity : Int
  users : List Process
  queue : List Process

/-- A `simpy.Environment`, the resources of the plan, and what its processes have recorded. -/
structure Environment where
  now : Int
  calendar : List (Calendar.Event Process Point)
  resources : PyDict SimResource
  recorded : PyDict QueueDecision

namespace Environment

/-- The environment before `run`: every process is to be started at tick zero. -/
def initial (m : SimulationScheduleManifest) (processes : List Process) : Environment where
  now := 0
  calendar := processes.map fun p => (0, p, .created)
  resources := m.capacities.mapValues fun capacity => ⟨capacity, [], []⟩
  recorded := ∅

/-- A resource grants the request at the head of its queue, where it has a user to spare. -/
def grant (env : Environment) (resourceClass : String) : Option Environment :=
  match env.resources.get? resourceClass with
  | none => none
  | some resource =>
    match resource.queue with
    | [] => none
    | p :: waiting =>
      if (resource.users.length : Int) < resource.capacity then
        some { env with
          resources := env.resources.set resourceClass
            ⟨resource.capacity, resource.users ++ [p], waiting⟩
          calendar := schedule (env.now, p, .requested) env.calendar }
      else none

/-- A process runs at the current tick. -/
def resume (m : SimulationScheduleManifest) (env : Environment) (p : Process) (point : Point) :
    Except ScheduleError Environment :=
  match p.execute m env.now point with
  | .error e => .error e
  | .ok (.timeout delay next) =>
    .ok { env with calendar := schedule (env.now + delay, p, next) env.calendar }
  | .ok .request =>
    match env.resources.get? p.proposal.resourceClass with
    | none => .error (.keyError p.proposal.resourceClass)
    | some resource =>
      .ok { env with
        resources := env.resources.set p.proposal.resourceClass
          ⟨resource.capacity, resource.users, resource.queue ++ [p]⟩ }
  | .ok (.returned decision) =>
    match env.resources.get? p.proposal.resourceClass with
    | none => .error (.keyError p.proposal.resourceClass)
    | some resource =>
      .ok { env with
        recorded := env.recorded.set p.proposal.proposalId decision
        resources := env.resources.set p.proposal.resourceClass
          ⟨resource.capacity, resource.users.filter (· ≠ p), resource.queue⟩ }

/-- The first of the resources that can grant a request does so. -/
def grantAny (m : SimulationScheduleManifest) (env : Environment) : Option Environment :=
  m.resources.findSome? fun item => env.grant item.resourceClass

/-- What a step of the simulation comes to. -/
inductive Progress
  | moved (env : Environment)
  | raised (e : ScheduleError)
  | finished

def Progress.ofExcept : Except ScheduleError Environment → Progress
  | .ok env => .moved env
  | .error e => .raised e

/-- A step: the grant that the library chooses to make now, or the next event. The clock moves to
the event's time only when no resource can grant a request. -/
def step (m : SimulationScheduleManifest) (choice : Option String) (env : Environment) : Progress :=
  match choice.bind env.grant with
  | some env' => .moved env'
  | none =>
    match env.calendar with
    | [] =>
      match grantAny m env with
      | some env' => .moved env'
      | none => .finished
    | (t, p, point) :: rest =>
      if t = env.now then .ofExcept (resume m { env with calendar := rest } p point)
      else
        match grantAny m env with
        | some env' => .moved env'
        | none => .ofExcept (resume m { env with now := t, calendar := rest } p point)

/-- `environment.run()`, for as many steps as there is fuel. -/
def run (m : SimulationScheduleManifest) (granting : Nat → Option String) :
    Nat → Environment → Option (Except ScheduleError Environment)
  | 0, _ => none
  | fuel + 1, env =>
    match step m (granting fuel) env with
    | .moved env' => run m granting fuel env'
    | .raised e => some (.error e)
    | .finished => some (.ok env)

end Environment

/-- `recorded[proposal.proposal_id] for proposal in proposals`. -/
def recordedDecisions (recorded : PyDict QueueDecision) :
    List ScheduledCommandProposal → Except ScheduleError (List QueueDecision)
  | [] => .ok []
  | proposal :: rest =>
    match recorded.get? proposal.proposalId with
    | none => .error (.keyError proposal.proposalId)
    | some decision => (recordedDecisions recorded rest).map (decision :: ·)

/-- `simpy_schedule_adapter.py` `SimPyScheduleAdapter.plan`. A process takes at most five steps;
`none` would say that this does not suffice. -/
def simpyPlan (granting : Nat → Option String) (m : SimulationScheduleManifest) :
    Option (Except ScheduleError SchedulerTrace) :=
  match m.normalizedProposals with
  | .error e => some (.error e)
  | .ok proposals =>
    let processes := enumerateProposals proposals
    (Environment.run m granting (5 * processes.length + 1) (.initial m processes)).map fun result =>
      do
        let env ← result
        let decisions ← recordedDecisions env.recorded proposals
        return makeTrace "scheduler.simpy_integer_ticks" simpyAdapterRevision "4.1.2" true m
          decisions

end LawFirmDigitalTwin
