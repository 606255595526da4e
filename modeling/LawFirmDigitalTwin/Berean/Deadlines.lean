import LawFirmDigitalTwin.Berean.Auditor
import LawFirmDigitalTwin.Kernel.DualControl
import LawFirmDigitalTwin.Kernel.Provenance

/-!
# The finding on the deadlines

The kernel derives the deadlines from the rule pack and the day of filing; the auditor expects the
offsets of the rule pack alone. The finding passes for the day 0 only, in the runs in which one
calculation and one verification were accepted. A deadline call may also raise after it has written
to the projection, when its event cannot be hashed or its grant finds no actor; the runs here have
none that does (`DeadlineCallsComplete`).
-/

namespace LawFirmDigitalTwin

open Raising

/-! ## The accepted calls of a run -/

/-- The commands of a run that were accepted, in their order. -/
def Kernel.acceptedCalls (k : Kernel) : KernelState → List Command → List Command
  | _, [] => []
  | s, c :: cs =>
    if returned (k.submit c s) then c :: k.acceptedCalls (k.step s c) cs
    else k.acceptedCalls (k.step s c) cs

/-- Those with a verb. -/
def Kernel.acceptedOf (k : Kernel) (v : Verb) (cs : List Command) : List Command :=
  (k.acceptedCalls k.initial cs).filter (·.verb = v.name)

section
variable {k : Kernel} {s : KernelState} {c : Command}

/-- One more command is one more accepted call where it returns. -/
theorem acceptedCalls_concat (cs : List Command) (c : Command) :
    k.acceptedCalls s (cs ++ [c]) = k.acceptedCalls s cs ++
      if returned (k.submit c (Machine.run k.step s cs)) then [c] else [] := by
  induction cs generalizing s with
  | nil =>
    rw [List.nil_append, Kernel.acceptedCalls]
    rfl
  | cons c' cs ih =>
    rw [List.cons_append, Kernel.acceptedCalls, Kernel.acceptedCalls, ih, Machine.run_cons]
    split
    · rw [List.cons_append]
    · rfl

/-- One more accepted call with the verb. -/
theorem acceptedOf_accepted {v : Verb} {cs : List Command} (hv : c.verb = v.name)
    (hr : returned (k.submit c (k.run cs)) = true) :
    k.acceptedOf v (cs ++ [c]) = k.acceptedOf v cs ++ [c] := by
  unfold Kernel.acceptedOf
  rw [acceptedCalls_concat, List.filter_append, show Machine.run k.step k.initial cs = k.run cs from rfl,
    if_pos hr, List.filter_cons_of_pos (by simpa using hv)]
  rfl

/-- A call that is rejected, or has another verb. -/
theorem acceptedOf_other {v : Verb} {cs : List Command}
    (h : c.verb = v.name → returned (k.submit c (k.run cs)) = false) :
    k.acceptedOf v (cs ++ [c]) = k.acceptedOf v cs := by
  unfold Kernel.acceptedOf
  rw [acceptedCalls_concat, List.filter_append, show Machine.run k.step k.initial cs = k.run cs from rfl]
  by_cases hv : c.verb = v.name
  · rw [h hv]
    simp
  · split
    · rw [List.filter_cons_of_neg (by simpa using hv)]
      simp
    · simp

/-- An event names the actor of its command. -/
theorem event_actorId {a : Admission} {u : Updates} {event : Event}
    (h : k.event c a u s = .ok event) : event.actorId = c.actorId := by
  unfold Kernel.event at h
  obtain ⟨knowledge, -, h⟩ := except_bind_eq_ok.1 h
  obtain ⟨input, -, h⟩ := except_bind_eq_ok.1 h
  obtain ⟨inputHash, -, h⟩ := except_bind_eq_ok.1 h
  obtain ⟨canonical, -, h⟩ := except_bind_eq_ok.1 h
  obtain ⟨outputHash, -, h⟩ := except_bind_eq_ok.1 h
  cases h
  rfl

/-- The event of a call that was accepted. -/
theorem step_event (hr : returned (k.submit c s) = true) : ∃ (v : Verb) (event : Event),
    c.verb = v.name ∧ event.eventType = v.acceptedType ∧ event.actorId = c.actorId ∧
      (k.step s c).events = s.events ++ [event] := by
  rcases step_appended k s c with hevents | ⟨a, u, s₁, s₂, event, ha, -, he, hevents⟩
  · exfalso
    cases ha : k.admit s c with
    | error r => cases (returned_submit_refused ha).symm.trans hr
    | ok a =>
      obtain ⟨event, -, happended⟩ := step_accepted ha hr
      simp [hevents] at happended
  · have hv := Verb.name_of_ofName? (admit_ok ha).verb
    refine ⟨a.verb, event, hv.symm, ?_, event_actorId he, hevents⟩
    rw [(event_records he).eventType, Verb.acceptedType, hv]

/-- The actors of the events of a verb are those of its accepted calls. -/
theorem actors_acceptedEvents (v : Verb) (cs : List Command) :
    (acceptedEvents (k.run cs).events v).map (·.actorId) =
      (k.acceptedOf v cs).map (·.actorId) := by
  induction cs using List.reverseRecOn with
  | nil => rfl
  | append_singleton cs c ih =>
    rw [Kernel.run, Machine.run_concat]
    change (acceptedEvents (k.step (k.run cs) c).events v).map (·.actorId) = _
    cases hr : returned (k.submit c (k.run cs)) with
    | false => rw [step_rejected hr, acceptedOf_other fun _ => hr, ih]
    | true =>
      obtain ⟨w, event, hw, htype, hactor, hevents⟩ := step_event hr
      rw [hevents, acceptedEvents, List.filter_append, List.map_append]
      by_cases hvw : w = v
      · rw [hvw] at hw htype
        rw [acceptedOf_accepted hw hr, List.map_append, ← ih,
          List.filter_cons_of_pos (by simpa using htype), List.filter_nil]
        simp [hactor, acceptedEvents]
      · have hne : event.eventType ≠ v.acceptedType := fun h =>
          hvw (Verb.acceptedType_injective (htype.symm.trans h))
        rw [acceptedOf_other fun h => absurd (Verb.name_injective (hw.symm.trans h)) hvw, ← ih,
          List.filter_cons_of_neg (by simpa using hne)]
        simp [acceptedEvents]

end

/-! ## What the projection records -/

/-- A deadline call whose branch goes through is accepted. -/
def DeadlineCallsComplete (k : Kernel) (s : KernelState) (c : Command) : Prop :=
  ∀ a, k.admit s c = .ok a → a.verb = .calculateDeadlines ∨ a.verb = .verifyDeadlines →
    returned (branch k c a.verb s.tick) = true → returned (k.submit c s) = true

/-- What the projection records of the calculations and the verifications that were accepted, as
long as there is at most one of each. -/
inductive DeadlineRecord (k : Kernel) : List Command → List Command → Projection → Prop
  | initial {p : Projection} (hproposal : p.deadlineProposal = ∅) : DeadlineRecord k [] [] p
  | proposed {p : Projection} {c : Command} {day : Int} (hday : c.filedDay = .ok day)
      (hproposal : p.deadlineProposal = calculateDeadlinesPrimary k.bundle.matter.rulePack day)
      (haudit : p.deadlineAudit = .ofEntries
        [("primary_actor", c.actorId), ("primary_calculator", primaryDeadlineCalculator)]) :
    DeadlineRecord k [c] [] p
  | verified {p : Projection} {c v : Command} {day : Int} (hday : c.filedDay = .ok day)
      (hdeadlines : p.deadlines = calculateDeadlinesPrimary k.bundle.matter.rulePack day)
      (haudit : p.deadlineAudit = .ofEntries
        [("primary_actor", c.actorId), ("primary_calculator", primaryDeadlineCalculator),
         ("secondary_actor", v.actorId), ("secondary_calculator", secondaryDeadlineCalculator)])
      (hother : c.actorId ≠ v.actorId) : DeadlineRecord k [c] [v] p
  | more {p : Projection} {calculated verified : List Command}
      (h : 1 < calculated.length ∨ 1 < verified.length) : DeadlineRecord k calculated verified p

section
variable {k : Kernel} {calculated verified : List Command} {p p' : Projection}

/-- The record is in three fields. -/
theorem DeadlineRecord.of_same (h : DeadlineRecord k calculated verified p)
    (hdeadlines : p'.deadlines = p.deadlines) (hproposal : p'.deadlineProposal = p.deadlineProposal)
    (haudit : p'.deadlineAudit = p.deadlineAudit) : DeadlineRecord k calculated verified p' := by
  cases h with
  | initial h => exact .initial (hproposal.trans h)
  | proposed hday h h' => exact .proposed hday (hproposal.trans h) (haudit.trans h')
  | verified hday h h' hother => exact .verified hday (hdeadlines.trans h) (haudit.trans h') hother
  | more h => exact .more h

/-- One more calculation. -/
theorem DeadlineRecord.propose (h : DeadlineRecord k calculated verified p) {c : Command} {day : Int}
    (hday : c.filedDay = .ok day) :
    DeadlineRecord k (calculated ++ [c]) verified (p.propose k c day) := by
  cases h with
  | initial => exact .proposed hday rfl rfl
  | proposed | verified => exact .more (.inl (by simp))
  | more h => exact .more (h.imp_left fun h => by simp; omega)

/-- One more verification, which finds a proposal by another actor. -/
theorem DeadlineRecord.verify (h : DeadlineRecord k calculated verified p) {v : Command}
    (hproposal : p.deadlineProposal ≠ ∅)
    (hother : p.deadlineAudit.get? "primary_actor" ≠ some v.actorId) :
    DeadlineRecord k calculated (verified ++ [v]) (p.verify v) := by
  cases h with
  | initial h => exact absurd h hproposal
  | @proposed _ c day hday h haudit =>
    refine .verified hday h ?_ fun heq => hother ?_
    · rw [Projection.verify, haudit]
      rfl
    · rw [haudit, heq]
      simp [PyDict.ofEntries, PyDict.get?_set]
  | verified => exact .more (.inr (by simp))
  | more h => exact .more (h.imp_right fun h => by simp; omega)

/-- A call that is rejected without effect on the record, or has another verb. -/
theorem DeadlineRecord.skip {cs : List Command} {c : Command}
    (h : DeadlineRecord k (k.acceptedOf .calculateDeadlines cs) (k.acceptedOf .verifyDeadlines cs) p')
    (hskip : c.verb = Verb.calculateDeadlines.name ∨ c.verb = Verb.verifyDeadlines.name →
      returned (k.submit c (k.run cs)) = false) :
    DeadlineRecord k (k.acceptedOf .calculateDeadlines (cs ++ [c]))
      (k.acceptedOf .verifyDeadlines (cs ++ [c])) p' := by
  rw [acceptedOf_other fun hv => hskip (.inl hv), acceptedOf_other fun hv => hskip (.inr hv)]
  exact h

/-- One call keeps the record, if it is accepted whenever its branch goes through. -/
theorem DeadlineRecord.step {cs : List Command} {c : Command}
    (h : DeadlineRecord k (k.acceptedOf .calculateDeadlines cs) (k.acceptedOf .verifyDeadlines cs)
      (k.run cs).projection)
    (hc : DeadlineCallsComplete k (k.run cs) c) :
    DeadlineRecord k (k.acceptedOf .calculateDeadlines (cs ++ [c]))
      (k.acceptedOf .verifyDeadlines (cs ++ [c])) (k.step (k.run cs) c).projection := by
  cases ha : k.admit (k.run cs) c with
  | error r =>
    rw [(step_idle ha).projection]
    refine DeadlineRecord.skip ?_ fun _ => returned_submit_refused ha
    exact h.of_same rfl rfl rfl
  | ok a =>
    have hname := Verb.name_of_ofName? (admit_ok ha).verb
    have hraised (he : returned (branch k c a.verb (k.run cs).tick) = false) :
        returned (k.submit c (k.run cs)) = false := by
      rw [← Bool.not_eq_true, returned_submit_iff ha, he]
      simp
    rw [(step_effect ha).projection]
    have hreturned := hc a ha
    have hframe := (step_effect ha).frame
    rw [(step_effect ha).projection] at hframe
    cases hv : a.verb with
    | calculateDeadlines =>
      rw [hv] at hname hraised hreturned
      rcases calculateDeadlines_cases k c (k.run cs).tick with ⟨e, -, he⟩ | ⟨day, u, hday, hok⟩
      · rw [branch, he]
        exact h.skip fun _ => hraised (by rw [branch, he]; rfl)
      · have hr := hreturned (.inl rfl) (by rw [branch, hok]; rfl)
        rw [branch, hok, acceptedOf_accepted hname.symm hr,
          acceptedOf_other fun hverb => absurd (hname.trans hverb) (by decide)]
        exact h.propose hday
    | verifyDeadlines =>
      rw [hv] at hname hraised hreturned
      rcases verifyDeadlines_cases k c (k.run cs).tick with ⟨e, he⟩ | ⟨hproposal, hother, u, hok⟩
      · rw [branch, he]
        exact h.skip fun _ => hraised (by rw [branch, he]; rfl)
      · have hr := hreturned (.inr rfl) (by rw [branch, hok]; rfl)
        rw [branch, hok, acceptedOf_accepted hname.symm hr,
          acceptedOf_other fun hverb => absurd (hname.trans hverb) (by decide)]
        exact h.verify hproposal hother
    | _ =>
      rw [hv] at hname hframe
      refine (h.of_same (hframe .deadlines (by decide)).1 (hframe .deadlineProposal (by decide))
        (hframe .deadlineAudit (by decide))).skip ?_
      rintro (hverb | hverb)
      · exact absurd (hname.trans hverb) (by decide)
      · exact absurd (hname.trans hverb) (by decide)

/-- What a run records. -/
theorem deadlineRecord_run {cs : List Command}
    (hc : Machine.AllSteps k.step (DeadlineCallsComplete k) k.initial cs) :
    DeadlineRecord k (k.acceptedOf .calculateDeadlines cs) (k.acceptedOf .verifyDeadlines cs)
      (k.run cs).projection := by
  induction cs using List.reverseRecOn with
  | nil => exact .initial rfl
  | append_singleton cs c ih =>
    obtain ⟨hcs, hlast⟩ := (Machine.allSteps_append k.initial cs [c]).1 hc
    rw [show k.run (cs ++ [c]) = k.step (k.run cs) c from Machine.run_concat k.step k.initial cs c]
    exact (ih hcs).step hlast.1

end

/-! ## The finding -/

/-- The deadlines of a day are the expected ones for the day 0 only. -/
theorem primary_eq_expected_iff (rulePack : RulePack) (day : Int) :
    calculateDeadlinesPrimary rulePack day = expectedDeadlines rulePack ↔ day = 0 := by
  constructor
  · intro h
    have hresponse := congrArg (PyDict.get? · "response_due") h
    simpa [calculateDeadlinesPrimary, expectedDeadlines, PyDict.ofEntries, PyDict.get?_set]
      using hresponse
  · rintro rfl
    unfold calculateDeadlinesPrimary expectedDeadlines
    simp only [Int.zero_add]

/-- Where one calculation and one verification are on record, two actors have made them. -/
theorem independentDeadlineOk_run {k : Kernel} {cs : List Command} {c v : Command}
    (hc : k.acceptedOf .calculateDeadlines cs = [c]) (hv : k.acceptedOf .verifyDeadlines cs = [v])
    (hother : c.actorId ≠ v.actorId)
    (haudit : (k.run cs).projection.deadlineAudit = .ofEntries
        [("primary_actor", c.actorId), ("primary_calculator", primaryDeadlineCalculator),
         ("secondary_actor", v.actorId), ("secondary_calculator", secondaryDeadlineCalculator)]) :
    independentDeadlineOk (k.run cs).events (k.run cs).projection.deadlineAudit = true := by
  have hcalculator := actors_acceptedEvents (k := k) .calculateDeadlines cs
  have hverifier := actors_acceptedEvents (k := k) .verifyDeadlines cs
  rw [hc, List.map_singleton, List.map_eq_singleton_iff] at hcalculator
  rw [hv, List.map_singleton, List.map_eq_singleton_iff] at hverifier
  obtain ⟨calculator, hcalculator, hcactor⟩ := hcalculator
  obtain ⟨verifier, hverifier, hvactor⟩ := hverifier
  unfold independentDeadlineOk
  rw [hcalculator, hverifier, haudit]
  dsimp only
  rw [hcactor, hvactor]
  refine decide_eq_true ⟨hother, ?_⟩
  simp [PyDict.ofEntries, PyDict.get?_set, primaryDeadlineCalculator, secondaryDeadlineCalculator]

/-- Over a built bundle a deadline call is accepted if its branch goes through and its payload and
its deadlines can be written. -/
theorem deadlineCallsComplete_of_writable {k : Kernel} {s : KernelState} {c : Command}
    (hk : k.bundle.Employment) (hs : AllSeated k s) (hw : AdmitsWritable k s c) :
    DeadlineCallsComplete k s c := by
  intro a ha hv hb
  have hname := Verb.name_of_ofName? (admit_ok ha).verb
  refine (returned_submit_employment hk hs ha).2 ⟨hb, ?_, (hw a ha).hashable hname ?_ _⟩
  · rcases hv with hv | hv
    · rw [hv]
      exact ⟨_, rfl⟩
    · rw [hv]
      exact ⟨_, rfl⟩
  · rcases hv with hv | hv
    · rw [hv]
      decide
    · rw [hv]
      decide

/-- In every run over a built bundle whose payloads and deadlines can be written the condition on
the deadline calls is met. -/
theorem deadlineCallsComplete_run {k : Kernel} (hk : k.bundle.Employment) {cs : List Command}
    (hw : Machine.AllSteps k.step (AdmitsWritable k) k.initial cs) :
    Machine.AllSteps k.step (DeadlineCallsComplete k) k.initial cs :=
  hw.imp_of (I := AllSeated k)
    (fun _ _ hs hc => ⟨deadlineCallsComplete_of_writable hk hs hc, hs.step⟩) (allSeated_initial k)

/-- The workflow up to the verification, with another filing day. -/
def filedLater : List Command :=
  alphaWorkflow.take 4 ++ ((alphaWorkflow.drop 4).take 2).map fun c =>
    { c with payload := .ofEntries [("complaint_filed_day", .int 7)] }

end LawFirmDigitalTwin
