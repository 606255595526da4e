import Mathlib.Algebra.Order.BigOperators.Group.List
import LawFirmDigitalTwin.Schedule.SimPy

/-!
# The invariant of the simulation

Every process of a simulated plan is in one phase, and the environment follows from the phases: the
calendar holds the next event of each process that has one, the users of a resource are its
processes that are granted or served, its queue those that wait, in their order (`Inv`). The times
are those of a first come, first served schedule. A process starts exactly at its start in the
schedule because the head of a queue is granted only once the processes before it leave a user to
spare, and the clock does not pass a start while the process waits (`Inv.advance`).
-/

namespace LawFirmDigitalTwin

open Fcfs Calendar

/-- How far a process has come. -/
inductive Phase
  | created
  | delayed
  | waiting
  | granted
  | serving
  | ended
  deriving DecidableEq

namespace Phase

/-- Processes pass from one rank to the next in their order. -/
def rank : Phase → Nat
  | created => 0
  | delayed => 1
  | waiting => 2
  | granted => 3
  | serving => 3
  | ended => 3

/-- The steps a process can still take. -/
def weight : Phase → Nat
  | created => 5
  | delayed => 4
  | waiting => 3
  | granted => 2
  | serving => 1
  | ended => 0

/-- The process is a user of its resource. -/
def Uses (ph : Phase) : Prop := ph = granted ∨ ph = serving

/-- A process that holds a unit is past its grant. -/
theorem rank_of_uses {ph : Phase} (h : ph.Uses) : ph.rank = 3 := by
  rcases h with rfl | rfl <;> rfl

end Phase

section
variable (m : SimulationScheduleManifest) (start : Process → Int)

/-- The next event of a process in a phase. -/
def pendingOf (p : Process) : Phase → Option (Int × Point)
  | .created => some (0, .created)
  | .delayed => some (p.proposal.readyTick, .delayed)
  | .waiting => none
  | .granted => some (start p, .requested)
  | .serving => some (start p + p.proposal.serviceTicks, .serving (start p))
  | .ended => none

/-- What a phase says of the times of a process. -/
def Timely (env : Environment) (p : Process) : Phase → Prop
  | .created => True
  | .delayed => 0 < p.proposal.readyTick
  | .waiting => p.proposal.readyTick ≤ env.now ∧ env.now ≤ start p
  | .granted => start p ≤ env.now
  | .serving => start p ≤ env.now ∧ start p - p.proposal.readyTick ≤ m.maxWaitTicks
  | .ended =>
    start p + p.proposal.serviceTicks ≤ env.now ∧ p.Within m (start p) ∧
      env.recorded.get? p.proposal.proposalId = some (p.planned start)

/-- Events are in the order of their times, the starts and the ends of delays also in the order of
the processes. -/
def Before (a b : Calendar.Event Process Point) : Prop :=
  a.1 ≤ b.1 ∧ (a.2.2 = b.2.2 → b.2.2 = .created ∨ b.2.2 = .delayed →
    a.2.1.deterministicOrdinal < b.2.1.deterministicOrdinal)

/-- Processes start, request and, within a class, are granted in their order. -/
def Ordered (phase : Process → Phase) : Prop :=
  ∀ p ∈ m.processes, ∀ q ∈ m.processes, q.deterministicOrdinal < p.deterministicOrdinal →
    (1 ≤ (phase p).rank → 1 ≤ (phase q).rank) ∧ (2 ≤ (phase p).rank → 2 ≤ (phase q).rank) ∧
      (q.proposal.resourceClass = p.proposal.resourceClass →
        3 ≤ (phase p).rank → 3 ≤ (phase q).rank)

/-- The users and the queue of a resource are those of its processes that use it and wait. -/
structure Holds (phase : Process → Phase) (c : String) (r : SimResource) : Prop where
  capacity : m.capacities.get? c = some r.capacity
  users_nodup : r.users.Nodup
  mem_users : ∀ p, p ∈ r.users ↔
    p ∈ m.processes ∧ p.proposal.resourceClass = c ∧ (phase p).Uses
  queue_sorted : r.queue.Pairwise fun p q => p.deterministicOrdinal < q.deterministicOrdinal
  mem_queue : ∀ p, p ∈ r.queue ↔
    p ∈ m.processes ∧ p.proposal.resourceClass = c ∧ phase p = .waiting

/-- The environment follows from the phases of the processes. -/
structure Inv (phase : Process → Phase) (env : Environment) : Prop where
  tracks : Tracks m.processes (fun p => pendingOf start p (phase p)) env.calendar
  sorted : env.calendar.Pairwise Before
  ahead : ∀ e ∈ env.calendar, env.now ≤ e.1
  ordered : Ordered m phase
  timely : ∀ p ∈ m.processes, Timely m start env p (phase p)
  resource : ∀ p ∈ m.processes, (env.resources.get? p.proposal.resourceClass).isSome
  holds : ∀ c r, env.resources.get? c = some r → Holds m phase c r

/-- The steps all processes can still take. -/
def remaining (phase : Process → Phase) : Nat :=
  (m.processes.map fun p => (phase p).weight).sum

variable {m start}

/-! ## Changing the phase of one process -/

/-- What a process waits for in each phase, and when. -/
theorem pendingOf_eq_some {p : Process} {ph : Phase} {t : Int} {point : Point}
    (h : pendingOf start p ph = some (t, point)) :
    (ph = .created ∧ t = 0 ∧ point = .created) ∨
      (ph = .delayed ∧ t = p.proposal.readyTick ∧ point = .delayed) ∨
      (ph = .granted ∧ t = start p ∧ point = .requested) ∨
      (ph = .serving ∧ t = start p + p.proposal.serviceTicks ∧ point = .serving (start p)) := by
  cases ph <;> simp_all [pendingOf, eq_comm]

/-- Moving one process on changes what that process waits for and no other. -/
theorem pending_update (phase : Process → Phase) (p : Process) (x : Phase) :
    (fun q => pendingOf start q (Function.update phase p x q)) =
      Function.update (fun q => pendingOf start q (phase q)) p (pendingOf start p x) := by
  funext q
  by_cases h : q = p
  · subst h; simp
  · simp [Function.update_of_ne h]

/-- Moving a process on leaves fewer events to come. -/
theorem remaining_update {phase : Process → Phase} {p : Process} (hp : p ∈ m.processes) {x : Phase}
    (h : x.weight < (phase p).weight) :
    remaining m (Function.update phase p x) < remaining m phase := by
  refine List.sum_lt_sum _ _ (fun q _ => ?_) ⟨p, hp, by rwa [Function.update_self]⟩
  by_cases hq : q = p
  · rw [hq, Function.update_self]; exact h.le
  · rw [Function.update_of_ne hq]

/-- Timeliness rests on the clock and on the process's own record. -/
theorem Timely.congr {env env' : Environment} {p : Process} {ph : Phase}
    (h : Timely m start env p ph) (hnow : env'.now = env.now)
    (hrecorded : env'.recorded.get? p.proposal.proposalId =
      env.recorded.get? p.proposal.proposalId) : Timely m start env' p ph := by
  cases ph with
  | created => trivial
  | _ => simpa only [Timely, hnow, hrecorded] using h

/-- A process that passes no earlier one keeps the order. -/
theorem Ordered.update {phase : Process → Phase} (h : Ordered m phase) {p : Process}
    (hp : p ∈ m.processes) {x : Phase} (hle : (phase p).rank ≤ x.rank)
    (hbefore : ∀ q ∈ m.processes, q.deterministicOrdinal < p.deterministicOrdinal →
      (1 ≤ x.rank → 1 ≤ (phase q).rank) ∧ (2 ≤ x.rank → 2 ≤ (phase q).rank) ∧
        (q.proposal.resourceClass = p.proposal.resourceClass →
          3 ≤ x.rank → 3 ≤ (phase q).rank)) : Ordered m (Function.update phase p x) := by
  intro a ha b hb hlt
  by_cases hap : a = p
  · subst hap
    have hne : b ≠ a := fun he => by rw [he] at hlt; exact lt_irrefl _ hlt
    rw [Function.update_self, Function.update_of_ne hne]
    exact hbefore b hb hlt
  · rw [Function.update_of_ne hap]
    obtain ⟨h1, h2, h3⟩ := h a ha b hb hlt
    by_cases hbp : b = p
    · subst hbp
      rw [Function.update_self]
      exact ⟨fun hr => (h1 hr).trans hle, fun hr => (h2 hr).trans hle,
        fun hc hr => (h3 hc hr).trans hle⟩
    · rw [Function.update_of_ne hbp]
      exact ⟨h1, h2, h3⟩

/-- A resource does not see a change of phase that neither its users nor its queue are about. -/
theorem Holds.update {phase : Process → Phase} {c : String} {r : SimResource}
    (h : Holds m phase c r) {p : Process} {x : Phase}
    (hsame : p.proposal.resourceClass = c →
      (x.Uses ↔ (phase p).Uses) ∧ (x = .waiting ↔ phase p = .waiting)) :
    Holds m (Function.update phase p x) c r where
  capacity := h.capacity
  users_nodup := h.users_nodup
  queue_sorted := h.queue_sorted
  mem_users q := by
    rw [h.mem_users]
    refine and_congr_right fun _ => and_congr_right fun hc => ?_
    by_cases hq : q = p
    · subst hq; rw [Function.update_self]; exact (hsame hc).1.symm
    · rw [Function.update_of_ne hq]
  mem_queue q := by
    rw [h.mem_queue]
    refine and_congr_right fun _ => and_congr_right fun hc => ?_
    by_cases hq : q = p
    · subst hq; rw [Function.update_self]; exact (hsame hc).2.symm
    · rw [Function.update_of_ne hq]

/-- A request joins the queue behind those that wait. -/
theorem Holds.enqueue {phase : Process → Phase} {p : Process} {r : SimResource}
    (h : Holds m phase p.proposal.resourceClass r) (hp : p ∈ m.processes)
    (hrank : (phase p).rank < 2) (hordered : Ordered m phase) :
    Holds m (Function.update phase p .waiting) p.proposal.resourceClass
      ⟨r.capacity, r.users, r.queue ++ [p]⟩ where
  capacity := h.capacity
  users_nodup := h.users_nodup
  mem_users q := by
    rw [h.mem_users]
    refine and_congr_right fun _ => and_congr_right fun _ => ?_
    by_cases hq : q = p
    · subst hq
      rw [Function.update_self]
      exact iff_of_false (fun hu => by rw [Phase.rank_of_uses hu] at hrank; omega)
        (by simp [Phase.Uses])
    · rw [Function.update_of_ne hq]
  queue_sorted := by
    refine List.pairwise_append.2 ⟨h.queue_sorted, List.pairwise_singleton _ p, ?_⟩
    intro q hq p' hp'
    rw [List.mem_singleton] at hp'
    subst hp'
    obtain ⟨hq, -, hwaiting⟩ := (h.mem_queue q).1 hq
    rcases lt_trichotomy q.deterministicOrdinal p'.deterministicOrdinal with hlt | heq | hgt
    · exact hlt
    · rw [← ordinal_inj hq hp heq, hwaiting] at hrank
      exact absurd hrank (by decide)
    · have := (hordered q hq p' hp hgt).2.1 (by rw [hwaiting]; exact le_rfl)
      omega
  mem_queue q := by
    rw [List.mem_append, h.mem_queue, List.mem_singleton]
    by_cases hq : q = p
    · subst hq
      rw [Function.update_self]
      simp [hp]
    · rw [Function.update_of_ne hq, or_iff_left hq]

/-- The head of the queue becomes a user. -/
theorem Holds.grant {phase : Process → Phase} {c : String} {capacity : Int} {users : List Process}
    {p : Process} {waiting : List Process} (h : Holds m phase c ⟨capacity, users, p :: waiting⟩) :
    Holds m (Function.update phase p .granted) c ⟨capacity, users ++ [p], waiting⟩ := by
  obtain ⟨hp, hc, hphase⟩ := (h.mem_queue p).1 (.head _)
  obtain ⟨hhead, hsorted⟩ := List.pairwise_cons.1 h.queue_sorted
  exact
    { capacity := h.capacity
      users_nodup := by
        refine List.nodup_append.2 ⟨h.users_nodup, List.nodup_singleton p, fun q hq p' hp' he => ?_⟩
        rw [List.mem_singleton] at hp'
        have huses := ((h.mem_users q).1 hq).2.2
        rw [he, hp', hphase] at huses
        simp [Phase.Uses] at huses
      mem_users := fun q => by
        have hmem := h.mem_users q
        simp only at hmem ⊢
        rw [List.mem_append, hmem, List.mem_singleton]
        by_cases hq : q = p
        · subst hq
          rw [Function.update_self]
          simp [hp, hc, Phase.Uses]
        · rw [Function.update_of_ne hq, or_iff_left hq]
      queue_sorted := hsorted
      mem_queue := fun q => by
        have hmem := h.mem_queue q
        simp only [List.mem_cons] at hmem ⊢
        by_cases hq : q = p
        · subst hq
          rw [Function.update_self]
          exact iff_of_false (fun hw => lt_irrefl _ (hhead q hw)) (by simp)
        · rw [Function.update_of_ne hq, ← hmem, or_iff_right hq] }

/-- A user leaves. -/
theorem Holds.release {phase : Process → Phase} {c : String} {r : SimResource}
    (h : Holds m phase c r) {p : Process} (hphase : phase p = .serving) :
    Holds m (Function.update phase p .ended) c
      ⟨r.capacity, r.users.filter (· ≠ p), r.queue⟩ where
  capacity := h.capacity
  users_nodup := h.users_nodup.filter _
  mem_users q := by
    rw [List.mem_filter, h.mem_users]
    by_cases hq : q = p
    · subst hq
      simp [Phase.Uses]
    · simp [hq]
  queue_sorted := h.queue_sorted
  mem_queue q := by
    rw [h.mem_queue]
    by_cases hq : q = p
    · subst hq
      simp [hphase]
    · rw [Function.update_of_ne hq]

/-! ## What the invariant says of the first event -/

section
variable {phase : Process → Phase} {env : Environment}

/-- The events behind the first one. -/
theorem Inv.before (h : Inv m start phase env) {e e' : Calendar.Event Process Point}
    {rest : List (Calendar.Event Process Point)} (hcal : env.calendar = e :: rest)
    (he : e' ∈ rest) :
    Before e e' := by
  have := h.sorted
  rw [hcal] at this
  exact (List.pairwise_cons.1 this).1 e' he

/-- When a process is started, those before it have been. -/
theorem Inv.rank_of_created (h : Inv m start phase env) {p : Process} {t : Int}
    {rest : List (Calendar.Event Process Point)} (hcal : env.calendar = (t, p, .created) :: rest)
    {q : Process} (hq : q ∈ m.processes)
    (hlt : q.deterministicOrdinal < p.deterministicOrdinal) : 1 ≤ (phase q).rank := by
  have htracks := h.tracks
  rw [hcal] at htracks
  by_contra hrank
  have hne : q ≠ p := fun he => by rw [he] at hlt; exact lt_irrefl _ hlt
  have hphase : phase q = .created := by
    cases hph : phase q <;> simp_all [Phase.rank]
  have hmem := htracks.mem_rest hq hne (by simp only [hphase]; rfl)
  have := (h.before hcal hmem).2 rfl (.inl rfl)
  exact lt_asymm this hlt

/-- When a process requests its resource, those before it have. -/
theorem Inv.rank_of_ready (h : Inv m start phase env) {p : Process} {t : Int} {point : Point}
    {rest : List (Calendar.Event Process Point)} (hcal : env.calendar = (t, p, point) :: rest)
    (hp : p ∈ m.processes)
    (hpoint : point = .created ∧ p.proposal.readyTick ≤ 0 ∨
      point = .delayed ∧ 0 < t ∧ t = p.proposal.readyTick)
    {q : Process} (hq : q ∈ m.processes)
    (hlt : q.deterministicOrdinal < p.deterministicOrdinal) : 2 ≤ (phase q).rank := by
  have htracks := h.tracks
  rw [hcal] at htracks
  have hne : q ≠ p := fun he => by rw [he] at hlt; exact lt_irrefl _ hlt
  have hready := ready_le_of_lt hp hq hlt
  have htime := h.timely q hq
  cases hph : phase q with
  | waiting | granted | serving | ended => decide
  | created =>
    have hmem := htracks.mem_rest hq hne (by simp only [hph]; rfl)
    have hbefore := h.before hcal hmem
    rcases hpoint with ⟨rfl, -⟩ | ⟨rfl, hpos, -⟩
    · exact absurd (hbefore.2 rfl (.inl rfl)) (lt_asymm hlt)
    · exact absurd hbefore.1 (not_le.2 hpos)
  | delayed =>
    have hmem := htracks.mem_rest hq hne (by simp only [hph]; rfl)
    have hbefore := h.before hcal hmem
    rw [hph] at htime
    have hpos : 0 < q.proposal.readyTick := htime
    rcases hpoint with ⟨rfl, hzero⟩ | ⟨rfl, -, -⟩
    · omega
    · exact absurd (hbefore.2 rfl (.inr rfl)) (lt_asymm hlt)

/-! ## The steps of a process -/

/-- The other processes do not see the step of one. -/
theorem Inv.timely_update (h : Inv m start phase env) {p : Process} {env' : Environment} {x : Phase}
    (hnow : env'.now = env.now)
    (hp : Timely m start env' p x)
    (hrecorded : ∀ q ∈ m.processes, q ≠ p → env'.recorded.get? q.proposal.proposalId =
      env.recorded.get? q.proposal.proposalId) :
    ∀ q ∈ m.processes, Timely m start env' q (Function.update phase p x q) := by
  intro q hq
  by_cases hqp : q = p
  · subst hqp; rwa [Function.update_self]
  · rw [Function.update_of_ne hqp]
    exact (h.timely q hq).congr hnow (hrecorded q hq hqp)

section
variable {p : Process} {point : Point} {rest : List (Calendar.Event Process Point)}
  (h : Inv m start phase env) (hcal : env.calendar = (env.now, p, point) :: rest)
include h hcal

/-- The next event is that of a process of the manifest. -/
theorem Inv.mem_head : p ∈ m.processes := by
  have := h.tracks
  rw [hcal] at this
  exact this.head.1

/-- The next event is what its process waits for. -/
theorem Inv.pending_head : pendingOf start p (phase p) = some (env.now, point) := by
  have := h.tracks
  rw [hcal] at this
  exact this.head.2

/-- The rest of the queue is sorted. -/
theorem Inv.sorted_rest : rest.Pairwise Before := by
  have := h.sorted
  rw [hcal] at this
  exact (List.pairwise_cons.1 this).2

/-- Nothing in the rest of the queue is in the past. -/
theorem Inv.ahead_rest : ∀ e ∈ rest, env.now ≤ e.1 := fun e he =>
  h.ahead e (by rw [hcal]; exact .tail _ he)

/-- The calendar after the first event, where its process gets a later one. -/
theorem Inv.tracks_move {x : Phase} {t : Int} {next : Point}
    (hx : pendingOf start p x = some (t, next)) :
    Tracks m.processes (fun q => pendingOf start q (Function.update phase p x q))
      (schedule (t, p, next) rest) := by
  have htracks := h.tracks
  rw [hcal] at htracks
  rw [pending_update, hx]
  exact htracks.move t next

/-- The calendar after the first event, where its process gets none. -/
theorem Inv.tracks_pop {x : Phase} (hx : pendingOf start p x = none) :
    Tracks m.processes (fun q => pendingOf start q (Function.update phase p x q)) rest := by
  have htracks := h.tracks
  rw [hcal] at htracks
  rw [pending_update, hx]
  exact htracks.pop

/-- A later event that is neither a start nor the end of a delay keeps the order. -/
theorem Inv.sorted_schedule {t : Int} {next : Point} (hnext : next ≠ .created ∧ next ≠ .delayed) :
    (schedule (t, p, next) rest).Pairwise Before := by
  have hrest := h.sorted_rest hcal
  refine pairwise_schedule hrest (hrest.imp And.left) (fun x _ hle => ⟨hle, fun _ hpoint => ?_⟩)
    fun x _ hlt => ⟨hlt.le, fun heq hpoint => ?_⟩
  · exact absurd hpoint (by simp [hnext])
  · have heq : next = x.2.2 := heq
    rw [← heq] at hpoint
    exact absurd hpoint (by simp [hnext])

/-- Nor is anything after one more event is scheduled. -/
theorem Inv.ahead_schedule {t : Int} {next : Point} (ht : env.now ≤ t) :
    ∀ e ∈ schedule (t, p, next) rest, env.now ≤ e.1 := by
  intro e he
  rcases mem_schedule.1 he with rfl | he
  · exact ht
  · exact h.ahead_rest hcal e he

end

/-- A process that is not ready waits for its ready tick. -/
theorem Inv.delay {p : Process} {rest : List (Calendar.Event Process Point)}
    (h : Inv m start phase env) (hcal : env.calendar = (env.now, p, .created) :: rest)
    (hpos : 0 < p.proposal.readyTick) :
    Inv m start (Function.update phase p .delayed)
      { env with calendar := schedule (env.now + p.proposal.readyTick, p, .delayed) rest } := by
  have hp := h.mem_head hcal
  obtain ⟨hphase, hnow, -⟩ | ⟨-, -, hpt⟩ | ⟨-, -, hpt⟩ | ⟨-, -, hpt⟩ :=
    pendingOf_eq_some (h.pending_head hcal) <;> try cases hpt
  have hrest := h.sorted_rest hcal
  have hbefore : ∀ q ∈ m.processes, q.deterministicOrdinal < p.deterministicOrdinal →
      1 ≤ (phase q).rank := fun q hq hlt => h.rank_of_created hcal hq hlt
  -- a process that is delayed already has been started before this one
  have hdelayed : ∀ x ∈ rest, x.2.2 = .delayed →
      x.2.1.deterministicOrdinal < p.deterministicOrdinal ∧ x.2.1 ∈ m.processes ∧
        x.1 = x.2.1.proposal.readyTick := by
    rintro ⟨t, q, point⟩ hx rfl
    have hmem : (t, q, Point.delayed) ∈ env.calendar := by rw [hcal]; exact .tail _ hx
    obtain ⟨hq, hpending⟩ := (h.tracks.mem_iff t q .delayed).1 hmem
    obtain ⟨-, -, hpt⟩ | ⟨hph, ht, -⟩ | ⟨-, -, hpt⟩ | ⟨-, -, hpt⟩ :=
      pendingOf_eq_some hpending <;> try cases hpt
    refine ⟨?_, hq, ht⟩
    rcases lt_trichotomy q.deterministicOrdinal p.deterministicOrdinal with hlt | heq | hgt
    · exact hlt
    · rw [ordinal_inj hq hp heq, hphase] at hph
      cases hph
    · have := (h.ordered q hq p hp hgt).1 (by rw [hph]; exact le_rfl)
      rw [hphase] at this
      cases this
  refine
    { tracks := h.tracks_move hcal (by rw [hnow, zero_add]; rfl)
      sorted :=
        pairwise_schedule hrest (hrest.imp And.left) (fun x hx hle => ⟨hle, fun heq _ => ?_⟩)
        fun x hx hlt => ⟨hlt.le, fun heq _ => ?_⟩
      ahead := h.ahead_schedule hcal (by omega)
      ordered := h.ordered.update hp (by rw [hphase]; decide) fun q hq hlt =>
        ⟨fun _ => hbefore q hq hlt, fun hr => absurd hr (by decide),
          fun _ hr => absurd hr (by decide)⟩
      timely := h.timely_update rfl hpos fun _ _ _ => rfl
      resource := h.resource
      holds := fun c r hr => (h.holds c r hr).update fun _ => by
        rw [hphase]; simp [Phase.Uses] }
  · exact (hdelayed x hx heq).1
  · obtain ⟨hlt', hx', hready⟩ := hdelayed x hx heq.symm
    have := ready_le_of_lt hp hx' hlt'
    simp only at hlt
    omega

/-- A process requests its resource when it is ready. -/
theorem Inv.request {p : Process} {point : Point} {rest : List (Calendar.Event Process Point)}
    {r : SimResource} (h : Inv m start phase env)
    (hcal : env.calendar = (env.now, p, point) :: rest)
    (hready : p.proposal.readyTick = env.now) (hstart : p.proposal.readyTick ≤ start p)
    (hrank : (phase p).rank < 2)
    (hbefore : ∀ q ∈ m.processes, q.deterministicOrdinal < p.deterministicOrdinal →
      2 ≤ (phase q).rank)
    (hr : env.resources.get? p.proposal.resourceClass = some r) :
    Inv m start (Function.update phase p .waiting)
      { env with
        calendar := rest
        resources := env.resources.set p.proposal.resourceClass
          ⟨r.capacity, r.users, r.queue ++ [p]⟩ } := by
  have hp := h.mem_head hcal
  have hown := h.holds _ _ hr
  refine
    { tracks := h.tracks_pop hcal rfl
      sorted := h.sorted_rest hcal
      ahead := h.ahead_rest hcal
      ordered := h.ordered.update hp hrank.le fun q hq hlt =>
        ⟨fun _ => le_trans one_le_two (hbefore q hq hlt), fun _ => hbefore q hq hlt,
          fun _ hr => absurd hr (by decide)⟩
      timely := h.timely_update rfl ⟨hready.le, hready ▸ hstart⟩ fun _ _ _ => rfl
      resource := fun q hq => ?_
      holds := fun c r' hr' => ?_ }
  · rw [PyDict.get?_set]
    split
    · rfl
    · exact h.resource q hq
  · rw [PyDict.get?_set] at hr'
    split at hr'
    · next hc =>
      subst hc
      cases hr'
      exact hown.enqueue hp hrank h.ordered
    · next hc =>
      exact (h.holds c r' hr').update fun he => absurd he.symm hc

/-- A granted process is served from the current tick on. -/
theorem Inv.serve {p : Process} {rest : List (Calendar.Event Process Point)}
    (h : Inv m start phase env) (hcal : env.calendar = (env.now, p, .requested) :: rest)
    (hservice : 0 ≤ p.proposal.serviceTicks)
    (hwait : env.now - p.proposal.readyTick ≤ m.maxWaitTicks) :
    Inv m start (Function.update phase p .serving)
      { env with
        calendar := schedule (env.now + p.proposal.serviceTicks, p, .serving env.now) rest } := by
  have hp := h.mem_head hcal
  obtain ⟨-, -, hpt⟩ | ⟨-, -, hpt⟩ | ⟨hphase, hnow, -⟩ | ⟨-, -, hpt⟩ :=
    pendingOf_eq_some (h.pending_head hcal) <;> try cases hpt
  exact
    { tracks := h.tracks_move hcal (by rw [hnow]; rfl)
      sorted := h.sorted_schedule hcal ⟨nofun, nofun⟩
      ahead := h.ahead_schedule hcal (by omega)
      ordered := h.ordered.update hp (by rw [hphase]; decide) fun q hq hlt => by
        have := h.ordered p hp q hq hlt
        rwa [hphase] at this
      timely := h.timely_update rfl ⟨hnow.ge, hnow ▸ hwait⟩ fun _ _ _ => rfl
      resource := h.resource
      holds := fun c r hr => (h.holds c r hr).update fun _ => by
        rw [hphase]; simp [Phase.Uses] }

/-- A served process leaves, with its decision recorded. -/
theorem Inv.leave (hvalid : ValidManifest m) {p : Process} {s : Int}
    {rest : List (Calendar.Event Process Point)} {r : SimResource} (h : Inv m start phase env)
    (hcal : env.calendar = (env.now, p, .serving s) :: rest) (hfinish : env.now ≤ m.maxFinishTick)
    (hr : env.resources.get? p.proposal.resourceClass = some r) :
    Inv m start (Function.update phase p .ended)
      { env with
        calendar := rest
        recorded := env.recorded.set p.proposal.proposalId (p.decision s env.now)
        resources := env.resources.set p.proposal.resourceClass
          ⟨r.capacity, r.users.filter (· ≠ p), r.queue⟩ } := by
  have hp := h.mem_head hcal
  obtain ⟨-, -, hpt⟩ | ⟨-, -, hpt⟩ | ⟨-, -, hpt⟩ | ⟨hphase, hnow, hs⟩ :=
    pendingOf_eq_some (h.pending_head hcal) <;> try cases hpt
  cases hs
  have hserved := h.timely p hp
  rw [hphase] at hserved
  refine
    { tracks := h.tracks_pop hcal rfl
      sorted := h.sorted_rest hcal
      ahead := h.ahead_rest hcal
      ordered := h.ordered.update hp (by rw [hphase]; decide) fun q hq hlt => by
        have := h.ordered p hp q hq hlt
        rwa [hphase] at this
      timely := h.timely_update rfl
        ⟨hnow.ge, ⟨hserved.2, hnow ▸ hfinish⟩, by rw [hnow]; exact PyDict.get?_set_self _ _ _⟩
        fun q hq hqp => PyDict.get?_set_ne _ _ fun hid => hqp (proposalId_inj hvalid hq hp hid)
      resource := fun q hq => ?_
      holds := fun c r' hr' => ?_ }
  · rw [PyDict.get?_set]
    split
    · rfl
    · exact h.resource q hq
  · rw [PyDict.get?_set] at hr'
    split at hr'
    · next hc =>
      subst hc
      cases hr'
      exact (h.holds _ _ hr).release hphase
    · next hc =>
      exact (h.holds c r' hr').update fun he => absurd he.symm hc

/-! ## Grants, and the clock -/

/-- Every user is unfinished as long as the next event is ahead, so that as many processes of its
class before a waiting one are unfinished as the resource has users. -/
theorem Inv.users_le_busy (h : Inv m start phase env) {p : Process} {r : SimResource}
    {pre post : List Process} (hsplit : m.processes = pre ++ p :: post)
    (hphase : phase p = .waiting) (hr : env.resources.get? p.proposal.resourceClass = some r)
    {t : Int} (hnow : env.now ≤ t) (hnext : ∀ e ∈ env.calendar, t < e.1) :
    r.users.length ≤ m.load.busy start pre p.proposal.resourceClass t := by
  have hp : p ∈ m.processes := by rw [hsplit]; simp
  have hown := h.holds _ _ hr
  rw [Load.busy, List.countP_eq_length_filter]
  refine (hown.users_nodup.subperm fun q hq => ?_).length_le
  obtain ⟨hq, hc, huses⟩ := (hown.mem_users q).1 hq
  have hrank := Phase.rank_of_uses huses
  have hlt : q.deterministicOrdinal < p.deterministicOrdinal := by
    rcases lt_trichotomy q.deterministicOrdinal p.deterministicOrdinal with hlt | heq | hgt
    · exact hlt
    · rw [ordinal_inj hq hp heq, hphase] at hrank
      cases hrank
    · have := (h.ordered q hq p hp hgt).2.2 hc.symm hrank.ge
      rw [hphase] at this
      exact absurd this (by decide)
  refine List.mem_filter.2 ⟨(mem_pre_iff hsplit).2 ⟨hq, hlt⟩, decide_eq_true ⟨hc, ?_⟩⟩
  have htime := h.timely q hq
  rcases huses with hph | hph
  · have hev := hnext _ ((h.tracks.mem_iff (start q) q .requested).2 ⟨hq, by simp only [hph]; rfl⟩)
    rw [hph] at htime
    have htime : start q ≤ env.now := htime
    simp only at hev
    omega
  · exact hnext _ ((h.tracks.mem_iff _ q (.serving (start q))).2 ⟨hq, by simp only [hph]; rfl⟩)

/-- The processes of the class before the head of a queue have been granted. -/
theorem Inv.rank_before_head (h : Inv m start phase env) {c : String} {p : Process}
    {r : SimResource} {waiting : List Process} (hr : env.resources.get? c = some r)
    (hqueue : r.queue = p :: waiting) {q : Process} (hq : q ∈ m.processes)
    (hqc : q.proposal.resourceClass = c)
    (hlt : q.deterministicOrdinal < p.deterministicOrdinal) : 3 ≤ (phase q).rank := by
  have hown := h.holds _ _ hr
  obtain ⟨hp, -, hphase⟩ := (hown.mem_queue p).1 (by rw [hqueue]; exact .head _)
  have hrank := (h.ordered p hp q hq hlt).2.1 (by rw [hphase]; exact le_rfl)
  cases hph : phase q with
  | created | delayed => rw [hph] at hrank; exact absurd hrank (by decide)
  | granted | serving | ended => decide
  | waiting =>
    -- it would be in front of the head
    have hmem := (hown.mem_queue q).2 ⟨hq, hqc, hph⟩
    have hsorted := hown.queue_sorted
    rw [hqueue] at hmem hsorted
    rcases List.mem_cons.1 hmem with rfl | hmem
    · exact absurd hlt (lt_irrefl _)
    · exact absurd ((List.pairwise_cons.1 hsorted).1 q hmem) (lt_asymm hlt)

/-- The unfinished processes of the class before the head of a queue are users. -/
theorem Inv.busy_le_users (h : Inv m start phase env) {c : String} {p : Process} {r : SimResource}
    {pre post waiting : List Process} (hsplit : m.processes = pre ++ p :: post)
    (hr : env.resources.get? c = some r) (hqueue : r.queue = p :: waiting) :
    m.load.busy start pre c env.now ≤ r.users.length := by
  have hown := h.holds _ _ hr
  have hnd : pre.Nodup := by
    have := nodup_processes (m := m)
    rw [hsplit] at this
    exact this.of_append_left
  rw [Load.busy, List.countP_eq_length_filter]
  refine ((hnd.filter _).subperm fun q hq => ?_).length_le
  obtain ⟨hpre, hbusy⟩ := List.mem_filter.1 hq
  obtain ⟨hqc, hfinish⟩ := of_decide_eq_true hbusy
  have hqc : q.proposal.resourceClass = c := hqc
  have hfinish : env.now < start q + q.proposal.serviceTicks := hfinish
  obtain ⟨hq, hlt⟩ := (mem_pre_iff hsplit).1 hpre
  refine (hown.mem_users q).2 ⟨hq, hqc, ?_⟩
  have hrank := h.rank_before_head hr hqueue hq hqc hlt
  have htime := h.timely q hq
  cases hph : phase q with
  | created | delayed | waiting => rw [hph] at hrank; exact absurd hrank (by decide)
  | granted => exact .inl rfl
  | serving => exact .inr rfl
  | ended =>
    rw [hph] at htime
    exact absurd htime.1 (not_le.2 hfinish)

/-- The capacity of a resource is that of its class in the load. -/
theorem Holds.load_capacity {phase : Process → Phase} {c : String} {r : SimResource}
    (h : Holds m phase c r) : m.load.capacity c = r.capacity.toNat := by
  rw [SimulationScheduleManifest.load]
  simp only [h.capacity, Option.getD_some]

/-- The head of a queue is granted exactly at its start in the schedule. -/
theorem Inv.start_eq_now (hfcfs : FirstCome m.load start m.processes) (h : Inv m start phase env)
    {c : String} {p : Process} {r : SimResource} {waiting : List Process}
    (hr : env.resources.get? c = some r) (hqueue : r.queue = p :: waiting)
    (hfree : (r.users.length : Int) < r.capacity) : start p = env.now := by
  have hown := h.holds _ _ hr
  obtain ⟨hp, hc, hphase⟩ := (hown.mem_queue p).1 (by rw [hqueue]; exact .head _)
  have htime := h.timely p hp
  rw [hphase] at htime
  obtain ⟨hready, hnow⟩ := htime
  obtain ⟨pre, post, hsplit⟩ := List.append_of_mem hp
  have hbusy := h.busy_le_users hsplit hr hqueue
  have hcap := hown.load_capacity
  have hcls : m.load.cls p = c := hc
  have hle := (hfcfs pre p post hsplit env.now).2 ⟨hready, by rw [hcls]; omega⟩
  exact le_antisymm hle hnow

/-- **A grant keeps the invariant.** -/
theorem Inv.grant (hfcfs : FirstCome m.load start m.processes) (h : Inv m start phase env)
    {c : String} {env' : Environment} (hgrant : env.grant c = some env') :
    ∃ p ∈ m.processes, phase p = .waiting ∧
      Inv m start (Function.update phase p .granted) env' := by
  rw [Environment.grant] at hgrant
  rcases hr : env.resources.get? c with _ | ⟨capacity, users, queue⟩
  · rw [hr] at hgrant; cases hgrant
  rw [hr] at hgrant
  cases queue with
  | nil => cases hgrant
  | cons p waiting =>
    simp only at hgrant
    split at hgrant
    · next hfree =>
      cases hgrant
      have hstart := h.start_eq_now hfcfs hr rfl hfree
      have hown := h.holds _ _ hr
      obtain ⟨hp, hc, hphase⟩ := (hown.mem_queue p).1 (.head _)
      refine ⟨p, hp, hphase, ?_⟩
      refine
        { tracks := ?_
          sorted := ?_
          ahead := ?_
          ordered := h.ordered.update hp (by rw [hphase]; decide) fun q hq hlt => ?_
          timely := h.timely_update rfl hstart.le fun _ _ _ => rfl
          resource := fun q hq => ?_
          holds := fun c' r' hr' => ?_ }
      · have hnone : pendingOf start p (phase p) = none := by rw [hphase]; rfl
        rw [pending_update, show pendingOf start p .granted = some (env.now, .requested) by
          rw [← hstart]; rfl]
        exact h.tracks.push hp hnone _ _
      · refine pairwise_schedule h.sorted (h.sorted.imp And.left)
          (fun x _ hle => ⟨hle, fun _ hpoint => by simp at hpoint⟩)
          fun x _ hlt => ⟨hlt.le, fun heq hpoint => ?_⟩
        simp only at heq
        rw [← heq] at hpoint
        simp at hpoint
      · intro e he
        rcases mem_schedule.1 he with rfl | he
        · exact le_rfl
        · exact h.ahead e he
      · obtain ⟨h1, h2, -⟩ := h.ordered p hp q hq hlt
        rw [hphase] at h1 h2
        exact ⟨fun _ => h1 (by decide), fun _ => h2 (by decide),
          fun hqc _ => h.rank_before_head hr rfl hq (hqc.trans hc) hlt⟩
      · rw [PyDict.get?_set]
        split
        · rfl
        · exact h.resource q hq
      · rw [PyDict.get?_set] at hr'
        split at hr'
        · next he =>
          subst he
          cases hr'
          exact hown.grant
        · next he =>
          exact (h.holds c' r' hr').update fun hc' => absurd (hc'.symm.trans hc) he
    · cases hgrant

/-- No resource can grant a request. -/
def Settled (m : SimulationScheduleManifest) (env : Environment) : Prop :=
  ∀ p ∈ m.processes, env.grant p.proposal.resourceClass = none

/-- In a settled environment the resource of a waiting process is taken. -/
theorem Inv.taken (h : Inv m start phase env) (hsettled : Settled m env) {p : Process}
    (hp : p ∈ m.processes) (hphase : phase p = .waiting) :
    ∃ r, env.resources.get? p.proposal.resourceClass = some r ∧
      r.capacity ≤ r.users.length := by
  obtain ⟨r, hr⟩ := Option.isSome_iff_exists.1 (h.resource p hp)
  have hmem := ((h.holds _ _ hr).mem_queue p).2 ⟨hp, rfl, hphase⟩
  have hnone := hsettled p hp
  rw [Environment.grant, hr] at hnone
  obtain ⟨capacity, users, queue⟩ := r
  cases queue with
  | nil => cases hmem
  | cons q waiting =>
    simp only at hnone
    split at hnone
    · cases hnone
    · next hfull => exact ⟨_, hr, not_lt.1 hfull⟩

/-- **The clock moves to the next event** where no resource can grant a request. -/
theorem Inv.advance (hfcfs : FirstCome m.load start m.processes) (h : Inv m start phase env)
    (hsettled : Settled m env) {t : Int} (hnow : env.now ≤ t)
    (hnext : ∀ e ∈ env.calendar, t ≤ e.1) : Inv m start phase { env with now := t } where
  tracks := h.tracks
  sorted := h.sorted
  ahead := hnext
  ordered := h.ordered
  resource := h.resource
  holds := h.holds
  timely p hp := by
    have htime := h.timely p hp
    cases hph : phase p with
    | created => trivial
    | delayed => rw [hph] at htime; exact htime
    | granted => rw [hph] at htime; exact le_trans htime hnow
    | serving => rw [hph] at htime; exact ⟨le_trans htime.1 hnow, htime.2⟩
    | ended => rw [hph] at htime; exact ⟨le_trans htime.1 hnow, htime.2⟩
    | waiting =>
      rw [hph] at htime
      refine ⟨le_trans htime.1 hnow, le_of_not_gt fun hlt => ?_⟩
      -- at its start in the schedule the processes before it would leave a user to spare
      obtain ⟨r, hr, htaken⟩ := h.taken hsettled hp hph
      obtain ⟨pre, post, hsplit⟩ := List.append_of_mem hp
      have hbusy := ((hfcfs pre p post hsplit (start p)).1 le_rfl).2
      have husers := h.users_le_busy hsplit hph hr htime.2
        fun e he => lt_of_lt_of_le hlt (hnext e he)
      have hcap := (h.holds _ _ hr).load_capacity
      have hcls : m.load.cls p = p.proposal.resourceClass := rfl
      rw [hcls] at hbusy
      omega

/-! ## Steps and runs -/

/-- A process that violates a ceiling in the schedule. -/
def Violated (m : SimulationScheduleManifest) (start : Process → Int) : Prop :=
  ∃ p ∈ m.processes, ¬ p.Within m (start p)

/-- **What a process does at the current tick keeps the invariant**, and it raises only where a
ceiling is violated. -/
theorem Inv.resume (hvalid : ValidManifest m) (hfcfs : FirstCome m.load start m.processes)
    (h : Inv m start phase env) {p : Process} {point : Point}
    {rest : List (Calendar.Event Process Point)}
    (hcal : env.calendar = (env.now, p, point) :: rest) :
    match Environment.resume m { env with calendar := rest } p point with
    | .ok env' => ∃ x, x.weight < (phase p).weight ∧ Inv m start (Function.update phase p x) env'
    | .error _ => Violated m start := by
  have hp := h.mem_head hcal
  have hpending := h.pending_head hcal
  have htime := h.timely p hp
  obtain ⟨r, hr⟩ := Option.isSome_iff_exists.1 (h.resource p hp)
  have hready := hvalid.ready _ (proposal_mem hp)
  have hservice := hvalid.service _ (proposal_mem hp)
  have hstart : p.proposal.readyTick ≤ start p := hfcfs.ready_le hp
  rcases pendingOf_eq_some hpending with ⟨hphase, hnow, rfl⟩ | ⟨hphase, hnow, rfl⟩ |
    ⟨hphase, hnow, rfl⟩ | ⟨hphase, hnow, rfl⟩
  · rw [hphase]
    by_cases hzero : p.proposal.readyTick = 0
    · simp only [Environment.resume, Process.execute, hzero, ne_eq, not_true_eq_false, if_false, hr]
      exact ⟨.waiting, by decide, h.request hcal (by rw [hzero, hnow]) hstart
        (by rw [hphase]; decide)
        (fun q hq hlt => h.rank_of_ready hcal hp (.inl ⟨rfl, hzero.le⟩) hq hlt) hr⟩
    · simp only [Environment.resume, Process.execute, hzero, ne_eq, not_false_eq_true, if_true]
      exact ⟨.delayed, by decide, h.delay hcal (by omega)⟩
  · rw [hphase] at htime ⊢
    simp only [Environment.resume, Process.execute, hr]
    exact ⟨.waiting, by decide, h.request hcal hnow.symm hstart (by rw [hphase]; decide)
      (fun q hq hlt => h.rank_of_ready hcal hp (.inr ⟨rfl, by rw [hnow]; exact htime, hnow⟩) hq hlt)
      hr⟩
  · rw [hphase]
    by_cases hwait : env.now - p.proposal.readyTick > m.maxWaitTicks
    · simp only [Environment.resume, Process.execute, if_pos hwait]
      exact ⟨p, hp, fun hwithin => absurd hwithin.1 (by omega)⟩
    · simp only [Environment.resume, Process.execute, if_neg hwait]
      exact ⟨.serving, by decide, h.serve hcal hservice.le (not_lt.1 hwait)⟩
  · rw [hphase]
    by_cases hfinish : env.now > m.maxFinishTick
    · simp only [Environment.resume, Process.execute, if_pos hfinish]
      exact ⟨p, hp, fun hwithin => absurd hwithin.2 (by omega)⟩
    · simp only [Environment.resume, Process.execute, if_neg hfinish, hr]
      exact ⟨.ended, by decide, h.leave hvalid hcal (not_lt.1 hfinish) hr⟩

/-- Where no grant is left to make, the resources are settled. -/
theorem settled_of_grantAny (hvalid : ValidManifest m) (hnone : Environment.grantAny m env = none) :
    Settled m env := by
  intro p hp
  obtain ⟨r, hr⟩ := Option.isSome_iff_exists.1 (hvalid.resource p.proposal (proposal_mem hp))
  obtain ⟨hr, hcls⟩ := PyDict.mem_of_get?_keyed hr
  rw [← hcls]
  exact List.findSome?_eq_none_iff.1 hnone r hr

/-- A grant that is made is made by some class. -/
theorem grant_of_grantAny {env' : Environment} (hsome : Environment.grantAny m env = some env') :
    ∃ c, env.grant c = some env' := by
  obtain ⟨r, -, hr⟩ := List.exists_of_findSome?_eq_some hsome
  exact ⟨r.resourceClass, hr⟩

/-- A settled environment without events has served every process. -/
theorem Inv.all_ended (hvalid : ValidManifest m) (h : Inv m start phase env)
    (hsettled : Settled m env) (hcal : env.calendar = []) :
    ∀ p ∈ m.processes, phase p = .ended := by
  intro p hp
  have hnone : ∀ q ∈ m.processes, pendingOf start q (phase q) = none := by
    intro q hq
    rw [Option.eq_none_iff_forall_ne_some]
    rintro ⟨t, point⟩ hpending
    have := (h.tracks.mem_iff t q point).2 ⟨hq, hpending⟩
    rw [hcal] at this
    cases this
  have hpending := hnone p hp
  cases hph : phase p with
  | ended => rfl
  | created | delayed | granted | serving => rw [hph] at hpending; cases hpending
  | waiting =>
    -- a user of its resource would have an event
    obtain ⟨r, hr, htaken⟩ := h.taken hsettled hp hph
    have hown := h.holds _ _ hr
    have hpos := hvalid.load_capacity_pos hp
    have hcap := hown.load_capacity
    have hcls : m.load.cls p = p.proposal.resourceClass := rfl
    rw [hcls] at hpos
    have husers : r.users ≠ [] := by
      rintro he
      rw [he] at htaken
      simp only [List.length_nil] at htaken
      omega
    obtain ⟨q, hq⟩ := List.exists_mem_of_ne_nil _ husers
    obtain ⟨hq, -, hph | hph⟩ := (hown.mem_users q).1 hq
    all_goals
      have := hnone q hq
      rw [hph] at this
      cases this

/-- What a run of the simulation comes to. -/
def RunOutcome (m : SimulationScheduleManifest) (start : Process → Int) :
    Except ScheduleError Environment → Prop
  | .error _ => Violated m start
  | .ok env => ∀ p ∈ m.processes, p.Within m (start p) ∧
      env.recorded.get? p.proposal.proposalId = some (p.planned start)

/-- **A step keeps the invariant and uses up a step of some process**, raises where a ceiling is
violated, or finds every process served. -/
theorem Inv.step (hvalid : ValidManifest m) (hfcfs : FirstCome m.load start m.processes)
    (h : Inv m start phase env) (choice : Option String) :
    match Environment.step m choice env with
    | .moved env' => ∃ phase', remaining m phase' < remaining m phase ∧ Inv m start phase' env'
    | .raised _ => Violated m start
    | .finished => RunOutcome m start (.ok env) := by
  have hgranted : ∀ {c env'}, env.grant c = some env' →
      ∃ phase', remaining m phase' < remaining m phase ∧ Inv m start phase' env' := by
    intro c env' hgrant
    obtain ⟨p, hp, hphase, hinv⟩ := h.grant hfcfs hgrant
    exact ⟨_, remaining_update hp (by rw [hphase]; decide), hinv⟩
  have hresumed : ∀ {env₁ : Environment} {p : Process} {point : Point}
      {rest : List (Calendar.Event Process Point)}, Inv m start phase env₁ →
      env₁.calendar = (env₁.now, p, point) :: rest →
      match Environment.Progress.ofExcept
        (Environment.resume m { env₁ with calendar := rest } p point) with
      | .moved env' => ∃ phase', remaining m phase' < remaining m phase ∧ Inv m start phase' env'
      | .raised _ => Violated m start
      | .finished => RunOutcome m start (.ok env) := by
    intro env₁ p point rest h₁ hcal
    have := h₁.resume hvalid hfcfs hcal
    generalize Environment.resume m { env₁ with calendar := rest } p point = result at this ⊢
    cases result with
    | error e => exact this
    | ok env' =>
      obtain ⟨x, hx, hinv⟩ := this
      exact ⟨_, remaining_update (h₁.mem_head hcal) hx, hinv⟩
  rw [Environment.step]
  rcases hchoice : choice.bind env.grant with _ | env'
  · rcases hcal : env.calendar with _ | ⟨⟨t, p, point⟩, rest⟩
    · rcases hany : Environment.grantAny m env with _ | env'
      · have hended := h.all_ended hvalid (settled_of_grantAny hvalid hany) hcal
        intro p hp
        have htime := h.timely p hp
        rw [hended p hp] at htime
        exact htime.2
      · obtain ⟨c, hc⟩ := grant_of_grantAny hany
        exact hgranted hc
    · by_cases ht : t = env.now
      · subst ht
        simp only [if_true]
        exact hresumed h hcal
      · simp only [if_neg ht]
        rcases hany : Environment.grantAny m env with _ | env'
        · have hle : env.now ≤ t := h.ahead (t, p, point) (by rw [hcal]; exact .head _)
          have hnext : ∀ e ∈ env.calendar, t ≤ e.1 := by
            intro e he
            rw [hcal] at he
            rcases List.mem_cons.1 he with rfl | he
            · exact le_rfl
            · exact (h.before hcal he).1
          exact hresumed (h.advance hfcfs (settled_of_grantAny hvalid hany) hle hnext) hcal
        · obtain ⟨c, hc⟩ := grant_of_grantAny hany
          exact hgranted hc
  · obtain ⟨c, -, hc⟩ := Option.bind_eq_some_iff.1 hchoice
    exact hgranted hc

/-- **A run**: with fuel for the steps the processes can still take, it comes to an outcome. -/
theorem Inv.run (hvalid : ValidManifest m) (hfcfs : FirstCome m.load start m.processes)
    (granting : Nat → Option String) (fuel : Nat) {phase : Process → Phase} {env : Environment}
    (h : Inv m start phase env) (hfuel : remaining m phase < fuel) :
    ∃ result, Environment.run m granting fuel env = some result ∧ RunOutcome m start result := by
  induction fuel generalizing phase env with
  | zero => exact absurd hfuel (Nat.not_lt_zero _)
  | succ fuel ih =>
    have hstep := h.step hvalid hfcfs (granting fuel)
    rw [Environment.run]
    generalize Environment.step m (granting fuel) env = progress at hstep ⊢
    cases progress with
    | moved env' =>
      obtain ⟨phase', hlt, hinv⟩ := hstep
      exact ih hinv (by omega)
    | raised e => exact ⟨_, rfl, hstep⟩
    | finished => exact ⟨_, rfl, hstep⟩

/-- Before the run every process is created. -/
theorem Inv.initial (hvalid : ValidManifest m) :
    Inv m start (fun _ => .created) (.initial m m.processes) where
  tracks :=
    { nodup := by
        have : ((fun e : Calendar.Event Process Point => e.2.1) ∘
            fun p => (0, p, Point.created)) = id := rfl
        rw [Environment.initial, List.map_map, this, List.map_id]
        exact nodup_processes
      mem_iff := fun t p point => by
        simp only [Environment.initial, List.mem_map, Prod.mk.injEq, pendingOf, Option.some.injEq]
        constructor
        · rintro ⟨q, hq, rfl, rfl, rfl⟩
          exact ⟨hq, rfl, rfl⟩
        · rintro ⟨hp, rfl, rfl⟩
          exact ⟨p, hp, rfl, rfl, rfl⟩ }
  sorted := List.pairwise_map.2 (pairwise_ordinal.imp fun hlt => ⟨le_rfl, fun _ _ => hlt⟩)
  ahead e he := by
    obtain ⟨p, -, rfl⟩ := List.mem_map.1 he
    exact le_rfl
  ordered _ _ _ _ _ :=
    ⟨fun hr => absurd hr (Nat.not_succ_le_zero 0), fun hr => absurd hr (Nat.not_succ_le_zero 1),
      fun _ hr => absurd hr (Nat.not_succ_le_zero 2)⟩
  timely _ _ := trivial
  resource p hp := by
    obtain ⟨n, hn, -⟩ := hvalid.exists_capacity hp
    rw [Environment.initial, PyDict.get?_mapValues, hn]
    rfl
  holds c r hr := by
    rw [Environment.initial, PyDict.get?_mapValues] at hr
    obtain ⟨n, hn, rfl⟩ := Option.map_eq_some_iff.1 hr
    exact
      { capacity := hn
        users_nodup := List.nodup_nil
        mem_users := fun p => by simp [Phase.Uses]
        queue_sorted := .nil
        mem_queue := fun p => by simp }

/-- Each process has five events to come at the start. -/
theorem remaining_initial : remaining m (fun _ => .created) = 5 * m.processes.length := by
  rw [remaining, List.map_const', List.sum_replicate, Nat.nsmul_eq_mul, Nat.mul_comm]
  rfl

/-! ## The two schedulers agree -/

/-- The recorded decisions come back in the order of the proposals. -/
theorem recordedDecisions_eq {recorded : PyDict QueueDecision} {ps : List Process}
    (h : ∀ p ∈ ps, recorded.get? p.proposal.proposalId = some (p.planned start)) :
    recordedDecisions recorded (ps.map (·.proposal)) = .ok (ps.map (Process.planned start)) := by
  induction ps with
  | nil => rfl
  | cons p ps ih =>
    rw [List.map_cons, recordedDecisions, h p (.head _)]
    simp only [ih fun q hq => h q (.tail _ hq)]
    rfl

/-- **The SimPy adapter refines the reference scheduler**, however the library orders the grants of
a tick: it raises exactly when the reference does, and otherwise makes the same decisions. -/
theorem simpy_refines_reference (granting : Nat → Option String) (m : SimulationScheduleManifest)
    (hm : validateScheduleManifest m = []) :
    ∃ result, simpyPlan granting m = some result ∧
      ((∃ e, result = .error e) ↔ ∃ e, planWithReferenceScheduler m = .error e) ∧
      ∀ t t', result = .ok t → planWithReferenceScheduler m = .ok t' →
        t.decisions = t'.decisions := by
  have hvalid := validManifest_of_nil hm
  obtain ⟨start, hstart⟩ := exists_starts (m := m)
  have hfcfs := hvalid.firstCome hstart
  have href := planWithReferenceScheduler_eq_ok_iff hm hstart
  have hnorm : m.normalizedProposals = .ok m.sortedProposals := by
    rw [SimulationScheduleManifest.normalizedProposals, hm]
  have hsorted : m.processes.map (·.proposal) = m.sortedProposals := map_proposal_enumerate _
  have hinit : Inv m start (fun _ => .created) (.initial m m.processes) := Inv.initial hvalid
  obtain ⟨result, hrun, houtcome⟩ := hinit.run hvalid hfcfs granting (5 * m.processes.length + 1)
    (by rw [remaining_initial]; exact Nat.lt_succ_self _)
  have hplan : simpyPlan granting m = some (do
      let env ← result
      let decisions ← recordedDecisions env.recorded m.sortedProposals
      return makeTrace "scheduler.simpy_integer_ticks" simpyAdapterRevision "4.1.2" true m
        decisions) := by
    rw [simpyPlan, hnorm]
    change Option.map _ (Environment.run m granting (5 * m.processes.length + 1)
      (.initial m m.processes)) = _
    rw [hrun]
    rfl
  refine ⟨_, hplan, ?_⟩
  cases result with
  | error e =>
    obtain ⟨p, hp, hviolated⟩ := houtcome
    refine ⟨iff_of_true ⟨e, rfl⟩ ?_, fun t t' ht => by cases ht⟩
    cases hr : planWithReferenceScheduler m with
    | error e' => exact ⟨e', rfl⟩
    | ok t => exact absurd (((href t).1 hr).1 p hp) hviolated
  | ok env =>
    have hdecisions : recordedDecisions env.recorded m.sortedProposals =
        .ok (m.processes.map (Process.planned start)) := by
      rw [← hsorted]
      exact recordedDecisions_eq fun p hp => (houtcome p hp).2
    have hok := (href _).2 ⟨fun p hp => (houtcome p hp).1, rfl⟩
    simp only [bind, Except.bind, hdecisions]
    refine ⟨iff_of_false ?_ ?_, fun t t' ht ht' => ?_⟩
    · rintro ⟨e, he⟩
      cases he
    · rintro ⟨e, he⟩
      rw [hok] at he
      cases he
    · rw [hok] at ht'
      cases ht
      cases ht'
      rfl

/-- The simulation of the intake manifest agrees with its greedy plan. -/
theorem simpy_refines_reference_intake :
    ∃ result, simpyPlan (fun _ => none) intakeManifest = some result ∧
      ((∃ e, result = .error e) ↔ ∃ e, planWithReferenceScheduler intakeManifest = .error e) ∧
      ∀ t t', result = .ok t → planWithReferenceScheduler intakeManifest = .ok t' →
        t.decisions = t'.decisions :=
  simpy_refines_reference (fun _ => none) intakeManifest intakeManifest_valid

end

end

end LawFirmDigitalTwin
