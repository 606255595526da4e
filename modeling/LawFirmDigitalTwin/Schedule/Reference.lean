import Mathlib.Data.List.Nodup
import LawFirmDigitalTwin.Lib.Fcfs
import LawFirmDigitalTwin.Schedule.Manifest

/-!
# The integer reference scheduler

`plan_with_reference_scheduler` of `simulation_schedule_core.py`: the proposals in normalized order,
each on the slot of its resource that is free first. It keeps the ceilings by raising; without them
its slots are those of the greedy assignment (`planLoop_eq_ok_iff`), so that the plan is first come,
first served (`reference_firstCome`).
-/

namespace LawFirmDigitalTwin

open Fcfs

/-- The exceptions of the schedulers. -/
inductive ScheduleError
  /-- `ValueError(f"schedule_manifest_invalid:{errors}")` -/
  | manifestInvalid (errors : List String)
  | valueError (text : String)
  | keyError (key : String)
  deriving DecidableEq

/-- The key `_normalized_proposals` sorts by. -/
def ScheduledCommandProposal.sortKey (item : ScheduledCommandProposal) :
    Int ×ₗ Int ×ₗ Int ×ₗ String ×ₗ String :=
  toLex (item.readyTick, toLex (item.priority, toLex (item.submissionOrdinal,
    toLex (item.tieBreakKey, item.proposalId))))

namespace SimulationScheduleManifest

/-- The proposals in the order of their keys. -/
def sortedProposals (m : SimulationScheduleManifest) : List ScheduledCommandProposal :=
  m.proposals.insertionSort fun a b => a.sortKey ≤ b.sortKey

/-- `simulation_schedule_core.py` `_normalized_proposals`. -/
def normalizedProposals (m : SimulationScheduleManifest) :
    Except ScheduleError (List ScheduledCommandProposal) :=
  match validateScheduleManifest m with
  | [] => .ok m.sortedProposals
  | errors => .error (.manifestInvalid errors)

/-- `{item.resource_class: item.capacity for item in manifest.resources}`. -/
def capacities (m : SimulationScheduleManifest) : PyDict Int :=
  .ofEntries (m.resources.map fun item => (item.resourceClass, item.capacity))

end SimulationScheduleManifest

/-- A proposal with its place in the normalized order. -/
structure Process where
  proposal : ScheduledCommandProposal
  deterministicOrdinal : Nat
  deriving DecidableEq

/-- `enumerate(proposals, start=1)`. -/
def enumerateProposals (proposals : List ScheduledCommandProposal) : List Process :=
  (proposals.zipIdx 1).map fun e => ⟨e.1, e.2⟩

/-- The decision for a proposal that starts at a tick. -/
def Process.decision (p : Process) (start finish : Int) : QueueDecision where
  proposalId := p.proposal.proposalId
  schedulingClass := p.proposal.schedulingClass
  resourceClass := p.proposal.resourceClass
  plannedStartTick := start
  plannedFinishTick := finish
  deterministicOrdinal := p.deterministicOrdinal
  expectedDisposition := p.proposal.expectedDisposition
  kernelAcceptance := false

/-- The loop of `plan_with_reference_scheduler`, from the slots it has reached. -/
def planLoop (m : SimulationScheduleManifest) :
    PyDict (List Int) → List Process → Except ScheduleError (List QueueDecision)
  | _, [] => .ok []
  | slots, p :: rest =>
    match slots.get? p.proposal.resourceClass with
    | none => .error (.keyError p.proposal.resourceClass)
    | some resourceSlots =>
      match earliest resourceSlots with
      | none => .error (.valueError "min() arg is an empty sequence")
      | some slotIndex =>
        let start := max p.proposal.readyTick (resourceSlots.getD slotIndex 0)
        let finish := start + p.proposal.serviceTicks
        let wait := start - p.proposal.readyTick
        if wait > m.maxWaitTicks then .error (.valueError "schedule_starvation_ceiling_exceeded")
        else if finish > m.maxFinishTick then
          .error (.valueError "schedule_finish_ceiling_exceeded")
        else
          (planLoop m (slots.set p.proposal.resourceClass (resourceSlots.set slotIndex finish))
            rest).map (p.decision start finish :: ·)

/-- `simulation_schedule_core.py` `plan_with_reference_scheduler`. -/
def planWithReferenceScheduler (m : SimulationScheduleManifest) :
    Except ScheduleError SchedulerTrace := do
  let proposals ← m.normalizedProposals
  let slots := m.capacities.mapValues fun capacity => List.replicate capacity.toNat 0
  let decisions ← planLoop m slots (enumerateProposals proposals)
  return makeTrace "scheduler.reference_integer_ticks" referenceSchedulerRevision
    "python-integer-reference-v1" false m decisions

/-! ## The plan as a schedule -/

section
variable {m : SimulationScheduleManifest}

/-- The processes of a manifest. -/
def SimulationScheduleManifest.processes (m : SimulationScheduleManifest) : List Process :=
  enumerateProposals m.sortedProposals

/-- The demands of the processes, and the capacity of each class. -/
def SimulationScheduleManifest.load (m : SimulationScheduleManifest) : Load Process String where
  ready p := p.proposal.readyTick
  service p := p.proposal.serviceTicks
  cls p := p.proposal.resourceClass
  capacity c := ((m.capacities.get? c).getD 0).toNat

/-- A process that starts at `start` keeps both ceilings. -/
def Process.Within (m : SimulationScheduleManifest) (p : Process) (start : Int) : Prop :=
  start - p.proposal.readyTick ≤ m.maxWaitTicks ∧
    start + p.proposal.serviceTicks ≤ m.maxFinishTick

/-- The decision for a process under a schedule. -/
def Process.planned (start : Process → Int) (p : Process) : QueueDecision :=
  p.decision (start p) (start p + p.proposal.serviceTicks)

/-- **The loop returns a plan exactly when the greedy starts keep the ceilings**, and the plan is
theirs. -/
theorem planLoop_eq_ok_iff {start : Process → Int} {slots : PyDict (List Int)}
    {own : String → List Int} {rest : List Process}
    (hslots : ∀ p ∈ rest, slots.get? p.proposal.resourceClass = some (own p.proposal.resourceClass))
    (hne : ∀ p ∈ rest, own p.proposal.resourceClass ≠ [])
    (hstart : rest.map start = m.load.greedy own rest) (ds : List QueueDecision) :
    planLoop m slots rest = .ok ds ↔
      (∀ p ∈ rest, p.Within m (start p)) ∧ ds = rest.map (Process.planned start) := by
  induction rest generalizing slots own ds with
  | nil => simp [planLoop, eq_comm]
  | cons p rest ih =>
    obtain ⟨k, hk⟩ := Option.ne_none_iff_exists'.1
      (mt earliest_eq_none.1 (hne p (.head _)))
    have hcls : m.load.cls p = p.proposal.resourceClass := rfl
    simp only [List.map_cons, Load.greedy, hcls, hk, Option.getD_some, List.cons.injEq] at hstart
    obtain ⟨hp, hrest⟩ := hstart
    rw [← hp] at hrest
    have hp' : max p.proposal.readyTick ((own p.proposal.resourceClass).getD k 0) = start p :=
      hp.symm
    have hset : ∀ q ∈ rest,
        (slots.set p.proposal.resourceClass ((own p.proposal.resourceClass).set k
          (start p + p.proposal.serviceTicks))).get? q.proposal.resourceClass =
          some (Function.update own p.proposal.resourceClass
            ((own p.proposal.resourceClass).set k (start p + m.load.service p))
            q.proposal.resourceClass) := by
      intro q hq
      rw [PyDict.get?_set]
      split
      · next h => rw [h, Function.update_self]; rfl
      · next h => rw [Function.update_of_ne h, hslots q (.tail _ hq)]
    have hne' : ∀ q ∈ rest, Function.update own p.proposal.resourceClass
        ((own p.proposal.resourceClass).set k (start p + m.load.service p))
        q.proposal.resourceClass ≠ [] := by
      intro q hq
      by_cases h : q.proposal.resourceClass = p.proposal.resourceClass
      · rw [h, Function.update_self, Ne, List.set_eq_nil_iff]
        exact hne p (.head _)
      · rw [Function.update_of_ne h]
        exact hne q (.tail _ hq)
    rw [planLoop, hslots p (.head _)]
    simp only [hk, hp']
    rw [List.forall_mem_cons, List.map_cons]
    split
    · next hwait =>
      refine iff_of_false (fun h => by cases h) fun h => ?_
      exact absurd h.1.1.1 (not_le.2 hwait)
    split
    · next hfinish =>
      refine iff_of_false (fun h => by cases h) fun h => ?_
      exact absurd h.1.1.2 (not_le.2 hfinish)
    next hwait hfinish =>
    have hwithin : p.Within m (start p) := ⟨not_lt.1 hwait, not_lt.1 hfinish⟩
    have hih := fun ds => ih hset hne' hrest ds
    cases hloop : planLoop m (slots.set p.proposal.resourceClass
        ((own p.proposal.resourceClass).set k (start p + p.proposal.serviceTicks))) rest with
    | error e =>
      refine iff_of_false (fun h => by cases h) fun h => ?_
      have := (hih (rest.map (Process.planned start))).2 ⟨h.1.2, rfl⟩
      rw [hloop] at this
      cases this
    | ok ds' =>
      obtain ⟨hall, rfl⟩ := (hih ds').1 hloop
      rw [and_iff_right ⟨hwithin, hall⟩]
      simp [Except.map, Process.planned, eq_comm]

/-! ## The processes of a manifest -/

/-- Enumerating keeps the proposals in their order. -/
theorem map_proposal_enumerate (proposals : List ScheduledCommandProposal) :
    (enumerateProposals proposals).map (·.proposal) = proposals := by
  simp [enumerateProposals, Function.comp_def]

/-- The ordinals count from one. -/
theorem map_ordinal_enumerate (proposals : List ScheduledCommandProposal) :
    (enumerateProposals proposals).map (·.deterministicOrdinal) =
      List.range' 1 proposals.length := by
  rw [enumerateProposals, List.map_map, ← List.zipIdx_map_snd 1 proposals]
  rfl

/-- The processes are those of the proposals, sorted. -/
theorem perm_processes : (m.processes.map (·.proposal)).Perm m.proposals := by
  rw [SimulationScheduleManifest.processes, map_proposal_enumerate]
  exact List.perm_insertionSort _ _

/-- A process is of a proposal of the manifest. -/
theorem proposal_mem {p : Process} (hp : p ∈ m.processes) : p.proposal ∈ m.proposals :=
  perm_processes.mem_iff.1 (List.mem_map_of_mem hp)

/-- There are as many processes as proposals. -/
theorem length_processes : m.processes.length = m.proposals.length := by
  rw [← perm_processes.length_eq, List.length_map]

/-- The processes are numbered in their order. -/
theorem pairwise_ordinal :
    m.processes.Pairwise fun p q => p.deterministicOrdinal < q.deterministicOrdinal := by
  have h := List.pairwise_lt_range' (s := 1) (n := m.sortedProposals.length)
  rw [← map_ordinal_enumerate, List.pairwise_map] at h
  exact h

/-- The processes are in the order in which they become ready. -/
theorem pairwise_ready :
    m.processes.Pairwise fun p q => p.proposal.readyTick ≤ q.proposal.readyTick := by
  have hsorted : m.sortedProposals.Pairwise fun a b => a.sortKey ≤ b.sortKey :=
    List.pairwise_insertionSort _ _
  have hready : m.sortedProposals.Pairwise fun a b => a.readyTick ≤ b.readyTick := by
    refine hsorted.imp fun {a b} h => ?_
    rcases Prod.Lex.toLex_le_toLex.1 h with hlt | ⟨heq, -⟩
    · exact hlt.le
    · exact heq.le
  rw [← map_proposal_enumerate m.sortedProposals, List.pairwise_map] at hready
  exact hready

/-- No two processes have one ordinal. -/
theorem ordinal_inj {p q : Process} (hp : p ∈ m.processes) (hq : q ∈ m.processes)
    (h : p.deterministicOrdinal = q.deterministicOrdinal) : p = q := by
  have hnd : (m.processes.map (·.deterministicOrdinal)).Nodup := by
    rw [SimulationScheduleManifest.processes, map_ordinal_enumerate]
    exact List.nodup_range'
  exact List.inj_on_of_nodup_map hnd hp hq h

/-- The processes before one are those with smaller numbers. -/
theorem mem_pre_iff {pre post : List Process} {p q : Process}
    (hsplit : m.processes = pre ++ p :: post) :
    q ∈ pre ↔ q ∈ m.processes ∧ q.deterministicOrdinal < p.deterministicOrdinal := by
  have h := pairwise_ordinal (m := m)
  rw [hsplit, List.pairwise_append, List.pairwise_cons] at h
  obtain ⟨-, ⟨hpost, -⟩, hpre⟩ := h
  rw [hsplit, List.mem_append, List.mem_cons]
  constructor
  · exact fun hq => ⟨.inl hq, hpre q hq p (.head _)⟩
  · rintro ⟨hq | rfl | hq, hlt⟩
    · exact hq
    · exact absurd hlt (lt_irrefl _)
    · exact absurd (hpost q hq) (lt_asymm hlt)

/-- A process of a lower ordinal is ready no later. -/
theorem ready_le_of_lt {p q : Process} (hp : p ∈ m.processes) (hq : q ∈ m.processes)
    (hlt : q.deterministicOrdinal < p.deterministicOrdinal) :
    q.proposal.readyTick ≤ p.proposal.readyTick := by
  obtain ⟨pre, post, hsplit⟩ := List.append_of_mem hp
  have h := pairwise_ready (m := m)
  rw [hsplit, List.pairwise_append] at h
  exact h.2.2 q ((mem_pre_iff hsplit).2 ⟨hq, hlt⟩) p (.head _)

/-- No process comes twice. -/
theorem nodup_processes : m.processes.Nodup :=
  pairwise_ordinal.imp fun h he => by rw [he] at h; exact lt_irrefl _ h

/-- No two processes of a valid manifest are of one proposal id. -/
theorem proposalId_inj (h : ValidManifest m) {p q : Process} (hp : p ∈ m.processes)
    (hq : q ∈ m.processes) (hid : p.proposal.proposalId = q.proposal.proposalId) : p = q := by
  have hnd : (m.processes.map (·.proposal.proposalId)).Nodup := by
    have hperm := (perm_processes (m := m)).map (·.proposalId)
    rw [List.map_map] at hperm
    exact hperm.nodup_iff.2 h.idNodup
  exact List.inj_on_of_nodup_map hnd hp hq hid

/-- The greedy starts are the values of a function of the processes. -/
theorem exists_starts :
    ∃ start : Process → Int, m.processes.map start =
      m.load.greedy (fun c => List.replicate (m.load.capacity c) 0) m.processes :=
  exists_map_eq nodup_processes (Load.length_greedy _ _)

/-! ## The plan of a valid manifest -/

namespace ValidManifest

variable (h : ValidManifest m)
include h

/-- Each process has a class of positive capacity. -/
theorem exists_capacity {p : Process} (hp : p ∈ m.processes) :
    ∃ n, m.capacities.get? p.proposal.resourceClass = some n ∧ 0 < n := by
  obtain ⟨r, hr⟩ := Option.isSome_iff_exists.1 (h.resource p.proposal (proposal_mem hp))
  obtain ⟨hr, hcls⟩ := PyDict.mem_of_get?_keyed hr
  refine ⟨r.capacity, PyDict.get?_ofEntries_of_mem ?_ (List.mem_map.2 ⟨r, hr, ?_⟩),
    h.capacity r hr⟩
  · rw [List.map_map]
    exact h.resourceNodup
  · rw [← hcls]

/-- The load gives the class of each process a positive capacity. -/
theorem load_capacity_pos {p : Process} (hp : p ∈ m.processes) :
    0 < m.load.capacity (m.load.cls p) := by
  obtain ⟨n, hn, hpos⟩ := h.exists_capacity hp
  have hcls : m.load.cls p = p.proposal.resourceClass := rfl
  rw [SimulationScheduleManifest.load] at hcls ⊢
  simp only [hn, Option.getD_some]
  omega

variable {start : Process → Int}
  (hstart : m.processes.map start =
    m.load.greedy (fun c => List.replicate (m.load.capacity c) 0) m.processes)
include hstart

/-- **The reference plan is first come, first served.** -/
theorem firstCome : FirstCome m.load start m.processes :=
  greedy_firstCome (fun _ hp => h.ready _ (proposal_mem hp))
    (fun _ hp => (h.service _ (proposal_mem hp)).le) (fun _ hp => h.load_capacity_pos hp) hstart

/-- The loop of the reference scheduler, from free slots. -/
theorem planLoop_eq_ok_iff (ds : List QueueDecision) :
    planLoop m (m.capacities.mapValues fun capacity => List.replicate capacity.toNat 0)
        m.processes = .ok ds ↔
      (∀ p ∈ m.processes, p.Within m (start p)) ∧ ds = m.processes.map (Process.planned start) := by
  refine LawFirmDigitalTwin.planLoop_eq_ok_iff (fun p hp => ?_) (fun p hp => ?_) hstart ds
  · obtain ⟨n, hn, -⟩ := h.exists_capacity hp
    rw [PyDict.get?_mapValues, hn]
    simp [SimulationScheduleManifest.load, hn]
  · have hpos : 0 < m.load.capacity p.proposal.resourceClass := h.load_capacity_pos hp
    rw [Ne, List.replicate_eq_nil_iff]
    omega

end ValidManifest

/-- **The reference scheduler returns a trace exactly when the greedy starts keep the ceilings.** -/
theorem planWithReferenceScheduler_eq_ok_iff (h : validateScheduleManifest m = [])
    {start : Process → Int}
    (hstart : m.processes.map start =
      m.load.greedy (fun c => List.replicate (m.load.capacity c) 0) m.processes)
    (t : SchedulerTrace) :
    planWithReferenceScheduler m = .ok t ↔
      (∀ p ∈ m.processes, p.Within m (start p)) ∧
        t = makeTrace "scheduler.reference_integer_ticks" referenceSchedulerRevision
          "python-integer-reference-v1" false m (m.processes.map (Process.planned start)) := by
  have hloop := (validManifest_of_nil h).planLoop_eq_ok_iff hstart
  have hnorm : m.normalizedProposals = .ok m.sortedProposals := by
    rw [SimulationScheduleManifest.normalizedProposals, h]
  rw [planWithReferenceScheduler, hnorm]
  change Except.bind (planLoop m _ m.processes) _ = _ ↔ _
  cases hr : planLoop m (m.capacities.mapValues fun capacity => List.replicate capacity.toNat 0)
      m.processes with
  | error e =>
    refine iff_of_false nofun fun hall => ?_
    have := (hloop _).2 ⟨hall.1, rfl⟩
    rw [hr] at this
    cases this
  | ok ds =>
    obtain ⟨hall, rfl⟩ := (hloop ds).1 hr
    rw [and_iff_right hall]
    exact ⟨fun he => (Except.ok.inj he).symm, fun he => congrArg Except.ok he.symm⟩

end

end LawFirmDigitalTwin
