import LawFirmDigitalTwin.Schedule.Checker

/-!
# Fairness of the reference scheduler

Within a resource class nobody overtakes, and no slot idles while work waits: the two properties of
a first come, first served schedule (`FirstCome.pairwise_start`, `FirstCome.active_eq`), read off
the decisions of a trace.
-/

namespace LawFirmDigitalTwin

open Fcfs

/-- The decisions of a trace are one for each proposal, and fair: within a class they start in the
order of their ordinals, and while a proposal that is ready waits, its class has as many active
decisions as capacity. -/
structure FairTrace (m : SimulationScheduleManifest) (t : SchedulerTrace) : Prop where
  complete : (t.decisions.map (·.proposalId)).Perm (m.proposals.map (·.proposalId))
  fifo : ∀ d ∈ t.decisions, ∀ d' ∈ t.decisions, d.resourceClass = d'.resourceClass →
    d.deterministicOrdinal ≤ d'.deterministicOrdinal → d.plannedStartTick ≤ d'.plannedStartTick
  busy : ∀ d ∈ t.decisions, ∃ p ∈ m.proposals, p.proposalId = d.proposalId ∧
    ∃ r ∈ m.resources, r.resourceClass = d.resourceClass ∧
      ∀ tick, p.readyTick ≤ tick → tick < d.plannedStartTick →
        (activeDecisions t.decisions d.resourceClass tick : Int) = r.capacity

section
variable {m : SimulationScheduleManifest} {start : Process → Int}

/-- The processes of a class start in the order of their numbers. -/
theorem start_le_of_ordinal (hfcfs : FirstCome m.load start m.processes) {p q : Process}
    (hp : p ∈ m.processes) (hq : q ∈ m.processes)
    (hcls : p.proposal.resourceClass = q.proposal.resourceClass)
    (hordinal : p.deterministicOrdinal ≤ q.deterministicOrdinal) : start p ≤ start q := by
  rcases hordinal.eq_or_lt with heq | hlt
  · rw [ordinal_inj hp hq heq]
  · obtain ⟨pre, post, hsplit⟩ := List.append_of_mem hq
    have hstarts := hfcfs.pairwise_start pairwise_ready
    rw [hsplit, List.pairwise_append] at hstarts
    exact hstarts.2.2 p ((mem_pre_iff hsplit).2 ⟨hp, hlt⟩) q (.head _) hcls

/-- A process that is ready waits for a class whose capacity is taken. -/
theorem active_eq_capacity (hvalid : ValidManifest m)
    (hfcfs : FirstCome m.load start m.processes) {p : Process} (hp : p ∈ m.processes) :
    ∃ r ∈ m.resources, r.resourceClass = p.proposal.resourceClass ∧
      ∀ tick, p.proposal.readyTick ≤ tick → tick < start p →
        (m.load.active start m.processes p.proposal.resourceClass tick : Int) = r.capacity := by
  obtain ⟨r, hr⟩ := Option.isSome_iff_exists.1 (hvalid.resource p.proposal (proposal_mem hp))
  obtain ⟨hr, hcls⟩ := PyDict.mem_of_get?_keyed hr
  refine ⟨r, hr, hcls, fun tick hready hstart => ?_⟩
  have hactive := hfcfs.active_eq pairwise_ready hp hready hstart
  have hcapacity : m.load.capacity p.proposal.resourceClass = r.capacity.toNat := by
    rw [SimulationScheduleManifest.load]
    simp only [← hcls, capacity_of_mem hvalid hr, Option.getD_some]
  have hpos := hvalid.capacity r hr
  have hactive : m.load.active start m.processes p.proposal.resourceClass tick =
      m.load.capacity p.proposal.resourceClass := hactive
  rw [hactive, hcapacity]
  omega

end

/-- **The plans of the reference scheduler are fair.** -/
theorem reference_fair (m : SimulationScheduleManifest) (t : SchedulerTrace)
    (hm : validateScheduleManifest m = []) (ht : planWithReferenceScheduler m = .ok t) :
    FairTrace m t := by
  have hvalid := validManifest_of_nil hm
  obtain ⟨start, hstart⟩ := exists_starts (m := m)
  obtain ⟨-, rfl⟩ := (planWithReferenceScheduler_eq_ok_iff hm hstart t).1 ht
  have hfcfs := hvalid.firstCome hstart
  refine ⟨?_, ?_, ?_⟩
  · have hids := (perm_processes (m := m)).map (·.proposalId)
    rw [List.map_map] at hids
    have hdecisions : (m.processes.map (Process.planned start)).map (·.proposalId) =
        m.processes.map fun p => p.proposal.proposalId := by
      rw [List.map_map]
      rfl
    exact hdecisions ▸ hids
  · intro d hd d' hd' hcls hordinal
    obtain ⟨p, hp, rfl⟩ := List.mem_map.1 hd
    obtain ⟨q, hq, rfl⟩ := List.mem_map.1 hd'
    exact start_le_of_ordinal hfcfs hp hq hcls (Int.ofNat_le.1 hordinal)
  · intro d hd
    obtain ⟨p, hp, rfl⟩ := List.mem_map.1 hd
    obtain ⟨r, hr, hcls, hbusy⟩ := active_eq_capacity hvalid hfcfs hp
    refine ⟨p.proposal, proposal_mem hp, rfl, r, hr, hcls, fun tick hready hstart => ?_⟩
    rw [← hbusy tick hready hstart]
    exact congrArg Nat.cast (activeDecisions_planned start m.processes _ tick)

/-! ## Two proposals for one server -/

/-- An intake proposal that is ready at tick zero. -/
def contender (id : String) (ordinal : Int) : ScheduledCommandProposal where
  proposalId := id
  matterCommitment := intakeManifest.matterCommitment
  commandCommitment := id
  schedulingClass := "intake_work"
  readyTick := 0
  serviceTicks := 2
  resourceClass := "intake_operations"
  priority := 10
  submissionOrdinal := ordinal
  tieBreakKey := id
  expectedDisposition := "accepted"
  sourceCassetteCommitment := intakeManifest.sourceCassetteCommitment

/-- Two proposals that want the same server at once. -/
def contendedManifest : SimulationScheduleManifest :=
  { intakeManifest with
    manifestId := "SCHED-MANIFEST-0996713355a12894a8"
    proposals := [contender "p1" 1, contender "p2" 2] }

/-- The contended manifest bears the id of its content. -/
theorem contendedManifest_id : contendedManifest.manifestId = contendedManifest.expectedId := by
  refine congrArg ("SCHED-MANIFEST-" ++ ·)
    (?_ : "0996713355a12894a8" = firstChars 18 (digest _))
  exact (Json.firstChars_eq_of_spells (by repeat' constructor) (by decide +kernel)).symm

/-- Nothing of the contended manifest is forbidden. -/
theorem contendedManifest_forbidden :
    forbiddenSchedulerContent.filter
      (textContains (canonicalJson contendedManifest.toJson).toLower) = [] := by
  refine List.filter_eq_nil_iff.2 fun value hvalue => Bool.eq_false_iff.1 ?_
  refine not_textContains (by repeat' constructor) ?_
  revert value
  decide +kernel

/-- The contended manifest has no errors. -/
theorem contendedManifest_valid : validateScheduleManifest contendedManifest = [] := by
  rw [validateScheduleManifest, contendedManifest_forbidden, ← contendedManifest_id]
  decide +kernel

/-- The contended manifest has a greedy plan. -/
theorem contendedManifest_planned : ∃ t, planWithReferenceScheduler contendedManifest = .ok t :=
  exists_trace contendedManifest_valid (by decide +kernel)

/-- The plan of two proposals that contend for one unit is fair. -/
theorem reference_fair_contended : ∃ t, planWithReferenceScheduler contendedManifest = .ok t ∧
    FairTrace contendedManifest t := by
  obtain ⟨t, ht⟩ := contendedManifest_planned
  exact ⟨t, ht, reference_fair contendedManifest t contendedManifest_valid ht⟩

end LawFirmDigitalTwin
