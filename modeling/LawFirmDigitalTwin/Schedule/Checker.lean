import Mathlib.Data.List.Dedup
import LawFirmDigitalTwin.Schedule.Reference

/-!
# The trace checker

`validate_scheduler_trace` of `simulation_schedule_validator.py`. Its two loops, over the decisions
and over the intervals of each resource, have one lemma each on when they report nothing
(`checkLoop_nil_iff`, `capacityErrors_nil_iff`). A trace without errors is sound
(`checked_sound`), and the plan of the reference scheduler has no errors (`reference_checked`).
-/

namespace LawFirmDigitalTwin

open Fcfs

/-- A dictionary of interval lists, in the order its keys were first used. -/
abbrev IntervalTable := List (String × List (Int × Int))

namespace IntervalTable

/-- `intervals.setdefault(key, []).append(interval)`. -/
def append (key : String) (interval : Int × Int) : IntervalTable → IntervalTable
  | [] => [(key, [interval])]
  | (k, own) :: rest =>
    if k = key then (k, own ++ [interval]) :: rest else (k, own) :: append key interval rest

end IntervalTable

/-- `{item.proposal_id: item for item in manifest.proposals}`. -/
def SimulationScheduleManifest.proposalDict (m : SimulationScheduleManifest) :
    PyDict ScheduledCommandProposal :=
  .ofEntries (m.proposals.map fun item => (item.proposalId, item))

/-- The checks of a decision against its proposal. -/
def decisionErrors (m : SimulationScheduleManifest) (proposal : ScheduledCommandProposal)
    (decision : QueueDecision) (ordinal : Nat) : List String :=
  errorIf (decision.deterministicOrdinal ≠ ordinal)
    ("STR-008:" ++ decision.proposalId ++ ":ordinal_invalid") ++
  errorIf (decision.schedulingClass ≠ proposal.schedulingClass ∨
      decision.resourceClass ≠ proposal.resourceClass ∨
      decision.expectedDisposition ≠ proposal.expectedDisposition ∨ decision.kernelAcceptance)
    ("STR-009:" ++ decision.proposalId ++ ":proposal_semantics_invalid") ++
  errorIf (decision.plannedStartTick < proposal.readyTick ∨
      decision.plannedFinishTick - decision.plannedStartTick ≠ proposal.serviceTicks ∨
      decision.plannedStartTick - proposal.readyTick > m.maxWaitTicks ∨
      decision.plannedFinishTick > m.maxFinishTick)
    ("STR-010:" ++ decision.proposalId ++ ":timing_invalid")

/-- The interval of a decision. -/
def QueueDecision.interval (d : QueueDecision) : Int × Int :=
  (d.plannedStartTick, d.plannedFinishTick)

/-- The loop over the decisions: its errors, and the intervals it has collected. -/
def checkLoop (m : SimulationScheduleManifest) :
    List String → IntervalTable → List (QueueDecision × Nat) → List String × IntervalTable
  | _, intervals, [] => ([], intervals)
  | seen, intervals, (decision, ordinal) :: rest =>
    let skipped := checkLoop m seen intervals rest
    let unbound := "STR-007:" ++ decision.proposalId ++ ":decision_binding_invalid"
    match m.proposalDict.get? decision.proposalId with
    | none => (unbound :: skipped.1, skipped.2)
    | some proposal =>
      if decision.proposalId ∈ seen then (unbound :: skipped.1, skipped.2)
      else
        let checked := checkLoop m (decision.proposalId :: seen)
          (intervals.append decision.resourceClass decision.interval) rest
        (decisionErrors m proposal decision ordinal ++ checked.1, checked.2)

/-- `sorted({point for interval in intervals for point in interval})`. -/
def eventPoints (intervals : List (Int × Int)) : List Int :=
  (intervals.flatMap fun i => [i.1, i.2]).dedup.insertionSort (· ≤ ·)

/-- The check of the intervals of one resource: at most one error. -/
def capacityErrors (m : SimulationScheduleManifest) (e : String × List (Int × Int)) : List String :=
  errorIf ((eventPoints e.2).any fun point =>
      (activeAt e.2 point : Int) > (m.capacities.get? e.1).getD 0)
    ("STR-011:" ++ e.1 ++ ":capacity_exceeded")

/-- `simulation_schedule_validator.py` `validate_scheduler_trace`. -/
def validateSchedulerTrace (m : SimulationScheduleManifest) (t : SchedulerTrace) : List String :=
  let checked := checkLoop m [] [] (t.decisions.zipIdx 1)
  errorIf (t.manifestHash ≠ m.manifestHash) "STR-001:manifest_binding_invalid" ++
  errorIf (t.schedulerCoreRevision ≠ m.schedulerCoreRevision) "STR-002:core_revision_invalid" ++
  errorIf (t.normalizationRevision ≠ m.normalizationRevision)
    "STR-003:normalization_revision_invalid" ++
  errorIf (t.decisions.length ≠ m.proposals.length) "STR-004:decision_count_invalid" ++
  errorIf (t.decisionSemanticsHash ≠ decisionsHash t.decisions)
    "STR-005:decision_semantics_hash_invalid" ++
  errorIf (t.externalIo ∨ t.kernelAcceptanceClaimed ∨ t.canonicalTimeAuthority ∨
      t.worldTruthValidated ∨ t.branchAuthority ∨ t.outcomeAuthority ∨ t.canonicalAdmission)
    "STR-006:authority_boundary_invalid" ++
  checked.1 ++
  checked.2.flatMap (capacityErrors m)

/-! ## The intervals by class -/

namespace IntervalTable

/-- The intervals of a class. -/
def get (tbl : IntervalTable) (c : String) : List (Int × Int) :=
  (tbl.find? fun e => e.1 = c).elim [] (·.2)

/-- Appending an interval to a class leaves the other classes alone. -/
theorem get_append (key : String) (interval : Int × Int) (tbl : IntervalTable) (c : String) :
    get (append key interval tbl) c =
      if c = key then get tbl c ++ [interval] else get tbl c := by
  induction tbl with
  | nil =>
    by_cases h : c = key
    · simp [append, get, h]
    · simp [append, get, h, Ne.symm h]
  | cons e rest ih =>
    obtain ⟨k, own⟩ := e
    simp only [get, append] at ih ⊢
    by_cases hk : k = key
    · subst hk
      by_cases hc : k = c
      · simp [hc]
      · simp [hc, Ne.symm hc]
    · rw [if_neg hk]
      by_cases hc : k = c
      · subst hc; simp [hk]
      · simpa [hc] using ih

/-- The keys are distinct, and no list is empty. -/
structure Proper (tbl : IntervalTable) : Prop where
  keys : (tbl.map (·.1)).Nodup
  nonempty : ∀ e ∈ tbl, e.2 ≠ []

/-- Appending to a class makes it a key. -/
theorem mem_keys_append {key : String} {interval : Int × Int} {tbl : IntervalTable} {c : String} :
    c ∈ (append key interval tbl).map (·.1) ↔ c = key ∨ c ∈ tbl.map (·.1) := by
  induction tbl with
  | nil => simp [append]
  | cons e rest ih =>
    obtain ⟨k, own⟩ := e
    rw [append]
    split
    · next h => subst h; simp
    · rw [List.map_cons, List.mem_cons, ih, List.map_cons, List.mem_cons]
      exact or_left_comm

/-- Appending keeps each class once and none empty. -/
theorem Proper.append {tbl : IntervalTable} (h : tbl.Proper) (key : String)
    (interval : Int × Int) : (append key interval tbl).Proper := by
  induction tbl with
  | nil => exact ⟨List.nodup_singleton key, by simp [IntervalTable.append]⟩
  | cons e rest ih =>
    obtain ⟨k, own⟩ := e
    obtain ⟨hk, hrest⟩ := List.nodup_cons.1 h.keys
    have htail : Proper rest := ⟨hrest, fun e he => h.nonempty e (.tail _ he)⟩
    rw [IntervalTable.append]
    split
    · refine ⟨h.keys, fun e he => ?_⟩
      rcases List.mem_cons.1 he with rfl | he
      · simp
      · exact h.nonempty e (.tail _ he)
    · next hne =>
      refine ⟨List.nodup_cons.2 ⟨fun hmem => ?_, (ih htail).keys⟩, fun e he => ?_⟩
      · rcases mem_keys_append.1 hmem with heq | hmem
        · exact hne heq
        · exact hk hmem
      · rcases List.mem_cons.1 he with rfl | he
        · exact h.nonempty _ (.head _)
        · exact (ih htail).nonempty e he

/-- An entry of a proper table is what the table says of its class. -/
theorem Proper.mem_iff {tbl : IntervalTable} (h : tbl.Proper) {e : String × List (Int × Int)} :
    e ∈ tbl ↔ e.2 = tbl.get e.1 ∧ e.2 ≠ [] := by
  induction tbl with
  | nil => simp [get]
  | cons e' rest ih =>
    obtain ⟨hk, hrest⟩ := List.nodup_cons.1 h.keys
    have htail : Proper rest := ⟨hrest, fun e he => h.nonempty e (.tail _ he)⟩
    by_cases hc : e'.1 = e.1
    · have hget : get (e' :: rest) e.1 = e'.2 := by simp [get, hc]
      rw [hget]
      constructor
      · intro hmem
        rcases List.mem_cons.1 hmem with rfl | hmem
        · exact ⟨rfl, h.nonempty e (.head _)⟩
        · exact absurd (List.mem_map.2 ⟨e, hmem, hc.symm⟩) hk
      · rintro ⟨heq, -⟩
        have : e = e' := Prod.ext hc.symm heq
        exact this ▸ .head _
    · have hget : get (e' :: rest) e.1 = get rest e.1 := by simp [get, hc]
      rw [hget, ← ih htail, List.mem_cons, or_iff_right fun he => hc (by rw [he])]

end IntervalTable

/-- The intervals that a list of decisions takes of a class. -/
def intervalsOf (c : String) (ds : List QueueDecision) : List (Int × Int) :=
  (ds.filter fun d => d.resourceClass = c).map QueueDecision.interval

/-- The intervals of a class count the decisions of the class in service. -/
theorem activeAt_intervalsOf (c : String) (ds : List QueueDecision) (tick : Int) :
    activeAt (intervalsOf c ds) tick = ds.countP fun d =>
      d.resourceClass = c ∧ d.plannedStartTick ≤ tick ∧ tick < d.plannedFinishTick := by
  rw [activeAt, intervalsOf, List.countP_map, List.countP_filter]
  refine List.countP_congr fun d _ => ?_
  rw [Bool.and_eq_true, decide_eq_true_eq, decide_eq_true_eq, and_comm]
  exact and_congr_right fun _ => decide_eq_true_iff

/-! ## When the loops report nothing -/

section
variable {m : SimulationScheduleManifest}

/-- A decision passes the checks of its place. -/
def Passes (m : SimulationScheduleManifest) (e : QueueDecision × Nat) : Prop :=
  ∃ p, m.proposalDict.get? e.1.proposalId = some p ∧ decisionErrors m p e.1 e.2 = []

/-- The loop reports nothing where each decision passes and no proposal comes twice. -/
theorem checkLoop_nil_iff (seen : List String) (intervals : IntervalTable)
    (es : List (QueueDecision × Nat)) :
    (checkLoop m seen intervals es).1 = [] ↔
      (∀ e ∈ es, Passes m e ∧ e.1.proposalId ∉ seen) ∧ (es.map (·.1.proposalId)).Nodup := by
  induction es generalizing seen intervals with
  | nil => simp [checkLoop]
  | cons e rest ih =>
    obtain ⟨d, n⟩ := e
    rw [List.forall_mem_cons, List.map_cons, List.nodup_cons, checkLoop]
    rcases hp : m.proposalDict.get? d.proposalId with _ | p
    · refine iff_of_false (List.cons_ne_nil _ _) ?_
      rintro ⟨⟨⟨⟨p, hp', -⟩, -⟩, -⟩, -⟩
      rw [hp] at hp'
      cases hp'
    by_cases hseen : d.proposalId ∈ seen
    · simp only [if_pos hseen]
      exact iff_of_false (List.cons_ne_nil _ _) fun h => h.1.1.2 hseen
    · have hpass : Passes m (d, n) ↔ decisionErrors m p d n = [] :=
        ⟨fun ⟨p', hp', he⟩ => by rw [hp] at hp'; cases hp'; exact he, fun he => ⟨p, hp, he⟩⟩
      simp only [if_neg hseen, List.append_eq_nil_iff, ih, hpass, List.mem_cons, not_or,
        List.mem_map, not_exists, not_and]
      constructor
      · rintro ⟨herr, hall, hnd⟩
        exact ⟨⟨⟨herr, hseen⟩, fun e he => ⟨(hall e he).1, (hall e he).2.2⟩⟩,
          fun e he => (hall e he).2.1, hnd⟩
      · rintro ⟨⟨⟨herr, -⟩, hall⟩, hne, hnd⟩
        exact ⟨herr, fun e he => ⟨(hall e he).1, hne e he, (hall e he).2⟩, hnd⟩

/-- A loop without errors has collected the intervals of all decisions. -/
theorem checkLoop_intervals {seen : List String} {intervals : IntervalTable}
    {es : List (QueueDecision × Nat)} (h : (checkLoop m seen intervals es).1 = [])
    (hproper : intervals.Proper) :
    (checkLoop m seen intervals es).2.Proper ∧ ∀ c,
      (checkLoop m seen intervals es).2.get c =
        intervals.get c ++ intervalsOf c (es.map (·.1)) := by
  induction es generalizing seen intervals with
  | nil => exact ⟨hproper, fun c => by simp [checkLoop, intervalsOf]⟩
  | cons e rest ih =>
    obtain ⟨d, n⟩ := e
    rw [checkLoop] at h ⊢
    rcases hp : m.proposalDict.get? d.proposalId with _ | p
    · rw [hp] at h
      exact absurd h (List.cons_ne_nil _ _)
    rw [hp] at h
    by_cases hseen : d.proposalId ∈ seen
    · simp only [if_pos hseen] at h
      exact absurd h (List.cons_ne_nil _ _)
    · simp only [if_neg hseen] at h ⊢
      obtain ⟨htail, hget⟩ := ih (List.append_eq_nil_iff.1 h).2
        (hproper.append d.resourceClass d.interval)
      refine ⟨htail, fun c => ?_⟩
      rw [hget, IntervalTable.get_append]
      by_cases hc : d.resourceClass = c
      · simp [intervalsOf, hc]
      · simp [intervalsOf, hc, Ne.symm hc]

/-- A class is free of capacity errors where no end of its intervals is over the capacity. -/
theorem capacityErrors_nil_iff (e : String × List (Int × Int)) :
    capacityErrors m e = [] ↔
      ∀ i ∈ e.2, ∀ point, point = i.1 ∨ point = i.2 →
        (activeAt e.2 point : Int) ≤ (m.capacities.get? e.1).getD 0 := by
  simp only [capacityErrors, errorIf_eq_nil, List.any_eq_false, eventPoints,
    List.mem_insertionSort, List.mem_dedup, List.mem_flatMap, List.mem_cons, List.not_mem_nil,
    or_false, decide_eq_true_eq, not_lt, gt_iff_lt]
  exact ⟨fun h i hi point hpoint => h point ⟨i, hi, hpoint⟩,
    fun h point ⟨i, hi, hpoint⟩ => h i hi point hpoint⟩

/-! ## Soundness -/

/-- A decision carries out a proposal. -/
structure CarriesOut (m : SimulationScheduleManifest) (p : ScheduledCommandProposal)
    (d : QueueDecision) : Prop where
  id : d.proposalId = p.proposalId
  resource : d.resourceClass = p.resourceClass
  ready : p.readyTick ≤ d.plannedStartTick
  service : d.plannedFinishTick = d.plannedStartTick + p.serviceTicks
  wait : d.plannedStartTick - p.readyTick ≤ m.maxWaitTicks
  finish : d.plannedFinishTick ≤ m.maxFinishTick

/-- The decisions of a resource class that are active at a tick. -/
def activeDecisions (ds : List QueueDecision) (c : String) (tick : Int) : Nat :=
  ds.countP fun d =>
    d.resourceClass = c ∧ d.plannedStartTick ≤ tick ∧ tick < d.plannedFinishTick

/-- The decisions carry out the proposals one to one, and no class exceeds its capacity at any
tick. -/
structure SoundTrace (m : SimulationScheduleManifest) (t : SchedulerTrace) : Prop where
  nodup : (t.decisions.map (·.proposalId)).Nodup
  bijection : ∃ ps, ps.Perm m.proposals ∧ List.Forall₂ (CarriesOut m) ps t.decisions
  capacity : ∀ r ∈ m.resources, ∀ tick : Int,
    (activeDecisions t.decisions r.resourceClass tick : Int) ≤ r.capacity

/-- The proposal found under an id has that id. -/
theorem mem_proposalDict {id : String} {p : ScheduledCommandProposal}
    (h : m.proposalDict.get? id = some p) : p ∈ m.proposals ∧ p.proposalId = id :=
  PyDict.mem_of_get?_keyed h

/-- What the checks of a decision establish. -/
theorem carriesOut_of_passes {e : QueueDecision × Nat} (h : Passes m e) :
    ∃ p ∈ m.proposals, CarriesOut m p e.1 := by
  obtain ⟨p, hp, herr⟩ := h
  obtain ⟨hmem, hid⟩ := mem_proposalDict hp
  simp only [decisionErrors, List.append_eq_nil_iff, errorIf_eq_nil, decide_eq_false_iff_not,
    not_or, not_not, not_lt, gt_iff_lt] at herr
  obtain ⟨⟨-, hsemantics⟩, hready, hservice, hwait, hfinish⟩ := herr
  exact ⟨p, hmem, ⟨hid.symm, hsemantics.2.1, hready, by omega, hwait, hfinish⟩⟩

/-- Items that match distinct entries of a list, as many as there are, are its entries in some
order. -/
theorem exists_perm_forall₂ {α β : Type*} {R : α → β → Prop} {xs : List α} {ys : List β}
    {key : α → String} {key' : β → String} (hkey : ∀ x y, R x y → key' y = key x)
    (hmatch : ∀ y ∈ ys, ∃ x ∈ xs, R x y) (hnd : (ys.map key').Nodup)
    (hlen : ys.length = xs.length) : ∃ zs, zs.Perm xs ∧ List.Forall₂ R zs ys := by
  have main : ∀ ys : List β, (∀ y ∈ ys, ∃ x ∈ xs, R x y) →
      ∃ zs, (∀ z ∈ zs, z ∈ xs) ∧ List.Forall₂ R zs ys ∧ zs.map key = ys.map key' := by
    intro ys
    induction ys with
    | nil => exact fun _ => ⟨[], by simp, .nil, rfl⟩
    | cons y ys ih =>
      intro h
      obtain ⟨x, hx, hxy⟩ := h y (.head _)
      obtain ⟨zs, hzs, hall, hmap⟩ := ih fun y hy => h y (.tail _ hy)
      refine ⟨x :: zs, List.forall_mem_cons.2 ⟨hx, hzs⟩, .cons hxy hall, ?_⟩
      rw [List.map_cons, List.map_cons, hmap, hkey x y hxy]
  obtain ⟨zs, hzs, hall, hmap⟩ := main ys hmatch
  have hznd : zs.Nodup := List.Nodup.of_map key (hmap ▸ hnd)
  refine ⟨zs, (hznd.subperm hzs).perm_of_length_le ?_, hall⟩
  rw [hall.length_eq, hlen]

/-- A valid manifest gives each resource's class the capacity of that resource. -/
theorem capacity_of_mem (h : ValidManifest m) {r : SchedulerResourceSpec} (hr : r ∈ m.resources) :
    m.capacities.get? r.resourceClass = some r.capacity := by
  refine PyDict.get?_ofEntries_of_mem ?_ (List.mem_map_of_mem hr)
  rw [List.map_map]
  exact h.resourceNodup

/-- **A trace without errors is sound**, at every tick and not only at the checked points. -/
theorem checked_sound (m : SimulationScheduleManifest) (t : SchedulerTrace)
    (hm : validateScheduleManifest m = []) (ht : validateSchedulerTrace m t = []) :
    SoundTrace m t := by
  have hvalid := validManifest_of_nil hm
  simp only [validateSchedulerTrace, List.append_eq_nil_iff, errorIf_eq_nil,
    decide_eq_false_iff_not, not_not] at ht
  obtain ⟨⟨⟨⟨⟨-, hcount⟩, -⟩, -⟩, hloop⟩, hcapacity⟩ := ht
  obtain ⟨hpasses, hnd⟩ := (checkLoop_nil_iff [] [] _).1 hloop
  obtain ⟨hproper, htable⟩ := checkLoop_intervals hloop ⟨List.nodup_nil, by simp⟩
  have hfst : (t.decisions.zipIdx 1).map (·.1) = t.decisions := List.zipIdx_map_fst 1 t.decisions
  have hids : (t.decisions.map (·.proposalId)).Nodup := by
    rw [← hfst, List.map_map]
    exact hnd
  have hmatch : ∀ d ∈ t.decisions, ∃ p ∈ m.proposals, CarriesOut m p d := by
    intro d hd
    rw [← hfst] at hd
    obtain ⟨e, he, rfl⟩ := List.mem_map.1 hd
    exact carriesOut_of_passes (hpasses e he).1
  refine ⟨hids, exists_perm_forall₂ (fun p d h => h.id) hmatch hids hcount, ?_⟩
  intro r hr tick
  have hpos := hvalid.capacity r hr
  have hget : (checkLoop m [] [] (t.decisions.zipIdx 1)).2.get r.resourceClass =
      intervalsOf r.resourceClass t.decisions := by
    rw [htable, hfst]
    rfl
  rw [activeDecisions, ← activeAt_intervalsOf]
  by_cases hnil : intervalsOf r.resourceClass t.decisions = []
  · rw [hnil]
    simpa [activeAt] using hpos.le
  -- the class has an entry in the table, which was checked at every start
  have hentry : (r.resourceClass, intervalsOf r.resourceClass t.decisions) ∈
      (checkLoop m [] [] (t.decisions.zipIdx 1)).2 := hproper.mem_iff.2 ⟨hget.symm, hnil⟩
  have hchecked := (capacityErrors_nil_iff _).1
    (List.flatMap_eq_nil_iff.1 hcapacity _ hentry)
  have hle : activeAt (intervalsOf r.resourceClass t.decisions) tick ≤ r.capacity.toNat := by
    refine activeAt_le_of_starts (fun i hi => ?_) tick
    have := hchecked i hi i.1 (.inl rfl)
    rw [capacity_of_mem hvalid hr, Option.getD_some] at this
    simp only at this
    omega
  omega

/-! ## The reference scheduler's plans -/

/-- Counted from one, the decision of a process stands at its ordinal. -/
theorem mem_zipIdx_planned {start : Process → Int} {e : QueueDecision × Nat}
    (he : e ∈ (m.processes.map (Process.planned start)).zipIdx 1) :
    ∃ p ∈ m.processes, e = (p.planned start, p.deterministicOrdinal) := by
  have hzip : (m.processes.map (Process.planned start)).zipIdx 1 =
      m.processes.map fun p => (p.planned start, p.deterministicOrdinal) := by
    refine List.ext_getElem (by simp) fun n h1 h2 => ?_
    simp [SimulationScheduleManifest.processes, enumerateProposals, Nat.add_comm]
  rw [hzip] at he
  obtain ⟨p, hp, rfl⟩ := List.mem_map.1 he
  exact ⟨p, hp, rfl⟩

/-- A planned decision passes the checks of its proposal. -/
theorem passes_planned (hm : ValidManifest m) {start : Process → Int}
    (hfcfs : FirstCome m.load start m.processes) {p : Process} (hp : p ∈ m.processes)
    (hwithin : p.Within m (start p)) : Passes m (p.planned start, p.deterministicOrdinal) := by
  have hready : p.proposal.readyTick ≤ start p := hfcfs.ready_le hp
  refine ⟨p.proposal, PyDict.get?_keyed_of_mem hm.idNodup (proposal_mem hp), ?_⟩
  obtain ⟨hwait, hfinish⟩ := hwithin
  simp only [decisionErrors, Process.planned, Process.decision, List.append_eq_nil_iff,
    errorIf_eq_nil, decide_eq_false_iff_not, ne_eq, not_true_eq_false, not_false_eq_true,
    Bool.false_eq_true, or_self, true_and, not_or, not_not, not_lt, gt_iff_lt]
  refine ⟨hready, ?_, hwait, hfinish⟩
  omega

/-- The decisions in service are those of the processes in service. -/
theorem activeDecisions_planned (start : Process → Int) (ps : List Process) (c : String)
    (tick : Int) :
    activeDecisions (ps.map (Process.planned start)) c tick = m.load.active start ps c tick := by
  rw [activeDecisions, List.countP_map]
  rfl

/-- A plan that is first come, first served and keeps the ceilings passes the checker, whichever
adapter it is from. -/
theorem makeTrace_checked (hvalid : ValidManifest m) {start : Process → Int}
    (hfcfs : FirstCome m.load start m.processes)
    (hwithin : ∀ p ∈ m.processes, p.Within m (start p)) (adapterId adapterRevision version : String)
    (executed : Bool) :
    validateSchedulerTrace m (makeTrace adapterId adapterRevision version executed m
      (m.processes.map (Process.planned start))) = [] := by
  let decisions := m.processes.map (Process.planned start)
  have hlen : decisions.length = m.proposals.length := by
    rw [List.length_map, length_processes]
  have hids : (decisions.map (·.proposalId)).Nodup := by
    have h := (perm_processes (m := m)).map (·.proposalId)
    rw [List.map_map] at h
    rw [List.map_map]
    exact h.nodup_iff.2 hvalid.idNodup
  have hfst : (decisions.zipIdx 1).map (·.1) = decisions := List.zipIdx_map_fst 1 decisions
  have hloop : (checkLoop m [] [] (decisions.zipIdx 1)).1 = [] := by
    refine (checkLoop_nil_iff [] [] _).2 ⟨fun e he => ?_, ?_⟩
    · obtain ⟨p, hp, rfl⟩ := mem_zipIdx_planned he
      exact ⟨passes_planned hvalid hfcfs hp (hwithin p hp), List.not_mem_nil⟩
    · rw [← hfst, List.map_map] at hids
      exact hids
  have hcapacity : (checkLoop m [] [] (decisions.zipIdx 1)).2.flatMap (capacityErrors m) = [] := by
    obtain ⟨hproper, htable⟩ := checkLoop_intervals hloop ⟨List.nodup_nil, by simp⟩
    refine List.flatMap_eq_nil_iff.2 fun e he => (capacityErrors_nil_iff e).2 ?_
    obtain ⟨heq, hne⟩ := hproper.mem_iff.1 he
    have hown : e.2 = intervalsOf e.1 decisions := by
      rw [heq, htable, hfst]
      rfl
    intro i hi point _
    rw [hown] at hi ⊢
    -- a class with an interval is the class of a process, so that its capacity is positive
    obtain ⟨d, hd, -⟩ := List.mem_map.1 hi
    obtain ⟨hd, hcls⟩ := List.mem_filter.1 hd
    obtain ⟨p, hp, rfl⟩ := List.mem_map.1 hd
    obtain ⟨n, hn, hpos⟩ := hvalid.exists_capacity hp
    have hcls : p.proposal.resourceClass = e.1 := of_decide_eq_true hcls
    rw [hcls] at hn
    have hle := hfcfs.active_le e.1 point
    rw [← activeDecisions_planned, activeDecisions, ← activeAt_intervalsOf,
      SimulationScheduleManifest.load] at hle
    simp only [hn, Option.getD_some] at hle ⊢
    have hle : activeAt (intervalsOf e.1 decisions) point ≤ n.toNat := hle
    omega
  simp only [validateSchedulerTrace, List.append_eq_nil_iff, errorIf_eq_nil,
    decide_eq_false_iff_not, not_not]
  exact ⟨⟨⟨⟨⟨⟨⟨rfl, hvalid.coreRevision.symm⟩, hvalid.normalizationRevision.symm⟩, hlen⟩, rfl⟩,
    by simp [makeTrace]⟩, hloop⟩, hcapacity⟩

/-- **Every plan of the reference scheduler passes the checker.** -/
theorem reference_checked (m : SimulationScheduleManifest) (t : SchedulerTrace)
    (hm : validateScheduleManifest m = []) (ht : planWithReferenceScheduler m = .ok t) :
    validateSchedulerTrace m t = [] := by
  have hvalid := validManifest_of_nil hm
  obtain ⟨start, hstart⟩ := exists_starts (m := m)
  obtain ⟨hwithin, rfl⟩ := (planWithReferenceScheduler_eq_ok_iff hm hstart t).1 ht
  exact makeTrace_checked hvalid (hvalid.firstCome hstart) hwithin _ _ _ _

/-- The reference scheduler returns a trace where its loop returns decisions. -/
theorem exists_trace (hm : validateScheduleManifest m = [])
    (hok : (planLoop m (m.capacities.mapValues fun capacity => List.replicate capacity.toNat 0)
      m.processes).toOption.isSome = true) : ∃ t, planWithReferenceScheduler m = .ok t := by
  obtain ⟨start, hstart⟩ := exists_starts (m := m)
  have hloop := (validManifest_of_nil hm).planLoop_eq_ok_iff hstart
  obtain ⟨ds, hds⟩ : ∃ ds, planLoop m
      (m.capacities.mapValues fun capacity => List.replicate capacity.toNat 0) m.processes =
        .ok ds := by
    revert hok
    rcases planLoop m _ m.processes with e | ds
    · exact nofun
    · exact fun _ => ⟨ds, rfl⟩
  exact ⟨_, (planWithReferenceScheduler_eq_ok_iff hm hstart _).2 ⟨((hloop ds).1 hds).1, rfl⟩⟩

/-- The reference scheduler plans the intake manifest. -/
theorem intakeManifest_planned : ∃ t, planWithReferenceScheduler intakeManifest = .ok t :=
  exists_trace intakeManifest_valid (by decide +kernel)

/-- The greedy plan of the intake manifest passes the checker. -/
theorem reference_checked_intake : ∃ t, planWithReferenceScheduler intakeManifest = .ok t ∧
    validateSchedulerTrace intakeManifest t = [] := by
  obtain ⟨t, ht⟩ := intakeManifest_planned
  exact ⟨t, ht, reference_checked intakeManifest t intakeManifest_valid ht⟩

/-- The intake manifest has a trace without errors. -/
theorem intakeManifest_checked : ∃ t, validateSchedulerTrace intakeManifest t = [] := by
  obtain ⟨t, ht⟩ := intakeManifest_planned
  have hvalid := validManifest_of_nil intakeManifest_valid
  obtain ⟨start, hstart⟩ := exists_starts (m := intakeManifest)
  have hwithin := ((planWithReferenceScheduler_eq_ok_iff intakeManifest_valid hstart t).1 ht).1
  exact ⟨_, makeTrace_checked hvalid (hvalid.firstCome hstart) hwithin "" "" "" false⟩

/-- A sound trace of the intake manifest: what its plan passes is so. -/
theorem checked_sound_intake : ∃ t, validateSchedulerTrace intakeManifest t = [] ∧
    SoundTrace intakeManifest t := by
  obtain ⟨t, ht⟩ := intakeManifest_checked
  exact ⟨t, ht, checked_sound intakeManifest t intakeManifest_valid ht⟩

end

end LawFirmDigitalTwin
