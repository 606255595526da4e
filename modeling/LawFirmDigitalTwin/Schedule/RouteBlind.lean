import LawFirmDigitalTwin.Lib.Raising
import LawFirmDigitalTwin.Schedule.Build
import LawFirmDigitalTwin.Schedule.Permutation

/-!
# The schedule does not see the route

The reference scheduler sees a proposal's times, resource, priority and place of submission, and
nothing that is derived from the content of a command: its plan is the plan of the skeletons
(`plan_view`). The skeletons of the proposals that a cassette gives come from the dispositions,
roles and classes of its attempts.
-/

namespace LawFirmDigitalTwin

open JsonText

/-- What the scheduler sees of a proposal. -/
structure Skeleton where
  readyTick : Int
  serviceTicks : Int
  resourceClass : String
  priority : Int
  submissionOrdinal : Int
  schedulingClass : String
  expectedDisposition : String

namespace Skeleton

/-- The key by which skeletons are sorted. -/
def key (s : Skeleton) : Int ×ₗ Int ×ₗ Int :=
  toLex (s.readyTick, toLex (s.priority, s.submissionOrdinal))

/-- The skeletons in the order of their keys. -/
def sort (skeletons : List Skeleton) : List Skeleton :=
  skeletons.insertionSort fun a b => a.key ≤ b.key

end Skeleton

def ScheduledCommandProposal.skeleton (p : ScheduledCommandProposal) : Skeleton where
  readyTick := p.readyTick
  serviceTicks := p.serviceTicks
  resourceClass := p.resourceClass
  priority := p.priority
  submissionOrdinal := p.submissionOrdinal
  schedulingClass := p.schedulingClass
  expectedDisposition := p.expectedDisposition

/-- A decision without the content-derived id of its proposal, whose place of submission stands in
for it. -/
structure DecisionView where
  submissionOrdinal : Option Int
  schedulingClass : String
  resourceClass : String
  plannedStartTick : Int
  plannedFinishTick : Int
  deterministicOrdinal : Int
  expectedDisposition : String

/-- The place of submission of the proposal with an id. -/
def SimulationScheduleManifest.submissionOf (m : SimulationScheduleManifest) (proposalId : String) :
    Option Int :=
  (m.proposals.find? fun p => p.proposalId = proposalId).map (·.submissionOrdinal)

def SimulationScheduleManifest.view (m : SimulationScheduleManifest) (d : QueueDecision) :
    DecisionView where
  submissionOrdinal := m.submissionOf d.proposalId
  schedulingClass := d.schedulingClass
  resourceClass := d.resourceClass
  plannedStartTick := d.plannedStartTick
  plannedFinishTick := d.plannedFinishTick
  deterministicOrdinal := d.deterministicOrdinal
  expectedDisposition := d.expectedDisposition

/-- The decision for a skeleton that starts at a tick. -/
def Skeleton.decision (s : Skeleton) (ordinal : Nat) (start finish : Int) : DecisionView where
  submissionOrdinal := some s.submissionOrdinal
  schedulingClass := s.schedulingClass
  resourceClass := s.resourceClass
  plannedStartTick := start
  plannedFinishTick := finish
  deterministicOrdinal := ordinal
  expectedDisposition := s.expectedDisposition

/-- The plan of numbered skeletons, from the slots it has reached. -/
def planSkeletons (maxWaitTicks maxFinishTick : Int) :
    PyDict (List Int) → List (Skeleton × Nat) → Except ScheduleError (List DecisionView)
  | _, [] => .ok []
  | slots, (s, ordinal) :: rest =>
    match slots.get? s.resourceClass with
    | none => .error (.keyError s.resourceClass)
    | some resourceSlots =>
      match Fcfs.earliest resourceSlots with
      | none => .error (.valueError "min() arg is an empty sequence")
      | some slotIndex =>
        let start := max s.readyTick (resourceSlots.getD slotIndex 0)
        let finish := start + s.serviceTicks
        if start - s.readyTick > maxWaitTicks then
          .error (.valueError "schedule_starvation_ceiling_exceeded")
        else if finish > maxFinishTick then
          .error (.valueError "schedule_finish_ceiling_exceeded")
        else
          (planSkeletons maxWaitTicks maxFinishTick
            (slots.set s.resourceClass (resourceSlots.set slotIndex finish)) rest).map
              (s.decision ordinal start finish :: ·)

/-! ## The plan is the plan of the skeletons -/

section
variable {m : SimulationScheduleManifest}

/-- The submission ordinal is looked up under the proposal's id. -/
theorem submissionOf_of_mem (h : (m.proposals.map (·.proposalId)).Nodup)
    {p : ScheduledCommandProposal} (hp : p ∈ m.proposals) :
    m.submissionOf p.proposalId = some p.submissionOrdinal := by
  have hfind : m.proposals.find? (fun q => q.proposalId = p.proposalId) = some p := by
    have hsome : (m.proposals.find? fun q => q.proposalId = p.proposalId).isSome := by
      rw [List.find?_isSome]
      exact ⟨p, hp, decide_eq_true rfl⟩
    obtain ⟨q, hq⟩ := Option.isSome_iff_exists.1 hsome
    have hid : q.proposalId = p.proposalId := by simpa using List.find?_some hq
    rw [hq, List.inj_on_of_nodup_map h (List.mem_of_find?_eq_some hq) hp hid]
  rw [SimulationScheduleManifest.submissionOf, hfind, Option.map_some]

/-- The loop over the processes, seen without ids, is the loop over their skeletons. -/
theorem planLoop_view (slots : PyDict (List Int)) {ps : List Process}
    (hps : ∀ p ∈ ps, m.submissionOf p.proposal.proposalId = some p.proposal.submissionOrdinal) :
    (planLoop m slots ps).map (List.map m.view) =
      planSkeletons m.maxWaitTicks m.maxFinishTick slots
        (ps.map fun p => (p.proposal.skeleton, p.deterministicOrdinal)) := by
  induction ps generalizing slots with
  | nil => rfl
  | cons p ps ih =>
    have hview (start finish : Int) : m.view (p.decision start finish) =
        p.proposal.skeleton.decision p.deterministicOrdinal start finish := by
      unfold SimulationScheduleManifest.view
      rw [Process.decision, hps p (.head _)]
      rfl
    rw [List.map_cons, planLoop, planSkeletons]
    have hcls : p.proposal.skeleton.resourceClass = p.proposal.resourceClass := rfl
    have hready : p.proposal.skeleton.readyTick = p.proposal.readyTick := rfl
    have hservice : p.proposal.skeleton.serviceTicks = p.proposal.serviceTicks := rfl
    rw [hcls, hready, hservice]
    cases slots.get? p.proposal.resourceClass with
    | none => rfl
    | some resourceSlots =>
      simp only
      cases Fcfs.earliest resourceSlots with
      | none => rfl
      | some slotIndex =>
        simp only
        split
        · rfl
        split
        · rfl
        rw [← ih _ fun q hq => hps q (.tail _ hq)]
        cases planLoop m _ ps with
        | error e => rfl
        | ok ds => exact congrArg (fun d => Except.ok (d :: ds.map m.view)) (hview _ _)

/-- Distinct places of submission decide between two proposals before their ids do. -/
theorem map_skeleton_sortedProposals (h : (m.proposals.map (·.submissionOrdinal)).Nodup) :
    m.sortedProposals.map (·.skeleton) = Skeleton.sort (m.proposals.map (·.skeleton)) := by
  refine List.map_insertionSort _ _ _ _ fun a ha b hb => ?_
  simp only [ScheduledCommandProposal.sortKey, Skeleton.key, ScheduledCommandProposal.skeleton,
    Prod.Lex.toLex_le_toLex]
  have hne : a.submissionOrdinal = b.submissionOrdinal → a = b :=
    fun he => List.inj_on_of_nodup_map h ha hb he
  by_cases heq : a.submissionOrdinal = b.submissionOrdinal
  · rw [hne heq]
    simp
  · simp only [heq, false_and, or_false, le_iff_lt_or_eq]

/-- **The plan is the plan of the skeletons.** -/
theorem plan_view (h : validateScheduleManifest m = []) :
    (planWithReferenceScheduler m).map (fun t => t.decisions.map m.view) =
      planSkeletons m.maxWaitTicks m.maxFinishTick
        (m.capacities.mapValues fun capacity => List.replicate capacity.toNat 0)
        ((Skeleton.sort (m.proposals.map (·.skeleton))).zipIdx 1) := by
  have hvalid := validManifest_of_nil h
  have hnorm : m.normalizedProposals = .ok m.sortedProposals := by
    rw [SimulationScheduleManifest.normalizedProposals, h]
  have hskeletons : (enumerateProposals m.sortedProposals).map
      (fun p => (p.proposal.skeleton, p.deterministicOrdinal)) =
        (Skeleton.sort (m.proposals.map (·.skeleton))).zipIdx 1 := by
    rw [← map_skeleton_sortedProposals hvalid.ordinalNodup, List.zipIdx_map, enumerateProposals,
      List.map_map]
    rfl
  rw [← hskeletons, ← planLoop_view]
  · rw [planWithReferenceScheduler, hnorm]
    change Except.map _ (Except.bind (planLoop m _ _) _) = _
    cases planLoop m _ (enumerateProposals m.sortedProposals) with
    | error e => rfl
    | ok ds => rfl
  · exact fun p hp => submissionOf_of_mem hvalid.idNodup (proposal_mem hp)

end

/-! ## What a cassette gives -/

section
variable {str : Value → List Nat}

/-- The members of an object. -/
def membersOf : Value → Members
  | .dict members => members
  | _ => []

/-- The attempts of a serialized cassette. -/
def attemptsOf (H : Host) (serializedCassette : String) : List Value :=
  match loads H serializedCassette.toList with
  | .ok (.dict cassette) =>
    match memberOr cassette "attempts" .null with
    | .list attempts => attempts
    | _ => []
  | _ => []

section
variable (str) (attempt : Value)

/-- The expected disposition of an attempt. -/
def expectedOf : List Nat := memberText str (membersOf attempt) "expected"

/-- The command of an attempt. -/
def commandOf : Members := membersOf (memberOr (membersOf attempt) "command" .null)

/-- The role of an attempt's command. -/
def commandRoleOf : List Nat := memberText str (commandOf attempt) "role_id"

/-- The scheduling class of the verb of an attempt's command. -/
def verbClassOf : String :=
  tableGet verbSchedulingClass (memberText str (commandOf attempt) "verb")

/-- The class of an attempt: a denied one is a probe. -/
def attemptClassOf : String :=
  if expectedOf str attempt = codes "denied" then "boundary_probe_work" else verbClassOf str attempt

/-- The skeleton of the proposal that an attempt becomes. -/
def skeletonOf (ordinal : Nat) : Skeleton where
  readyTick := (((ordinal - 1) / 2 : Nat) : Int)
  serviceTicks := (serviceTicksOf.lookup (attemptClassOf str attempt)).getD 0
  resourceClass := tableGet roleResource (commandRoleOf str attempt)
  priority := if expectedOf str attempt = codes "denied" then 0 else 10
  submissionOrdinal := ordinal
  schedulingClass := attemptClassOf str attempt
  expectedDisposition :=
    if expectedOf str attempt = codes "denied" then "denied_boundary_probe" else "accepted"

end

/-- Two attempts agree in their disposition and role, and, being accepted, in the class of their
verb. -/
structure AlikeAttempt (str : Value → List Nat) (attempt attempt' : Value) : Prop where
  expected : expectedOf str attempt = expectedOf str attempt'
  role : commandRoleOf str attempt = commandRoleOf str attempt'
  verbClass : expectedOf str attempt = codes "accepted" →
    verbClassOf str attempt = verbClassOf str attempt'

/-- A row has the parts of its attempt. -/
theorem rawRow_eq_ok {attempt : Value} {row : RawRow} (h : rawRow str attempt = .ok row) :
    row.entry = membersOf attempt ∧ row.command = commandOf attempt ∧
      (expectedOf str attempt = codes "accepted" ∨ expectedOf str attempt = codes "denied") := by
  unfold rawRow at h
  split at h
  · next entry =>
    split at h
    · next command hcommand =>
      split at h
      · cases h
      split at h
      · cases h
      next hexpected =>
      cases h
      refine ⟨rfl, ?_, ?_⟩
      · rw [commandOf, membersOf, hcommand, membersOf]
      · rw [Ne, Ne, ← not_or, not_not] at hexpected
        exact hexpected
    · cases h
  · cases h

/-- The skeleton of a proposal is that of its attempt. -/
theorem skeleton_of_proposalOf {source matter : String} {attempt : Value} {row : RawRow}
    {ordinal : Nat} {p : ScheduledCommandProposal} (hrow : rawRow str attempt = .ok row)
    (h : proposalOf str source matter row ordinal = .ok p) :
    p.skeleton = skeletonOf str attempt ordinal := by
  obtain ⟨hentry, hcommand, -⟩ := rawRow_eq_ok hrow
  have hclass : (if memberText str row.entry "expected" = codes "denied" then "boundary_probe_work"
      else tableGet verbSchedulingClass (memberText str row.command "verb")) =
        attemptClassOf str attempt := by
    rw [hentry, hcommand]
    rfl
  unfold proposalOf at h
  simp only [hclass] at h
  split at h
  · cases h
  split at h
  · cases h
  next ticks hticks =>
  cases h
  unfold skeletonOf
  rw [hticks, ScheduledCommandProposal.skeleton, hentry, hcommand]
  rfl

/-- Attempts that are alike have one skeleton. -/
theorem AlikeAttempt.skeletonOf_eq {attempt attempt' : Value}
    (h : AlikeAttempt str attempt attempt')
    (hexpected : expectedOf str attempt = codes "accepted" ∨
      expectedOf str attempt = codes "denied") (ordinal : Nat) :
    skeletonOf str attempt ordinal = skeletonOf str attempt' ordinal := by
  have hclass : attemptClassOf str attempt = attemptClassOf str attempt' := by
    unfold attemptClassOf
    rw [← h.expected]
    split
    · rfl
    · next hdenied => exact h.verbClass (hexpected.resolve_right hdenied)
  unfold skeletonOf
  rw [hclass, ← h.expected, ← h.role]

/-- What a manifest that is built consists of. -/
structure Built (str : Value → List Nat) (H : Host) (serializedCassette : String)
    (resources : Option (List SchedulerResourceSpec)) (maxWaitTicks maxFinishTick : Int)
    (m : SimulationScheduleManifest) : Prop where
  valid : validateScheduleManifest m = []
  resources_eq : m.resources = resourcesOr resources
  maxWait : m.maxWaitTicks = maxWaitTicks
  maxFinish : m.maxFinishTick = maxFinishTick
  rows : ∃ rows source matter,
    List.Forall₂ (fun attempt row => rawRow str attempt = .ok row)
      (attemptsOf H serializedCassette) rows ∧
    List.Forall₂ (fun e p => proposalOf str source matter e.1 e.2 = .ok p) (rows.zipIdx 1)
      m.proposals

/-- A manifest that the builder returns was built of the cassette's rows. -/
theorem built_of_ok {H : Host} {serializedCassette : String}
    {resources : Option (List SchedulerResourceSpec)} {maxWaitTicks maxFinishTick : Int}
    {m : SimulationScheduleManifest}
    (h : buildG2ScheduleManifest str H serializedCassette resources maxWaitTicks maxFinishTick =
      .ok m) :
    Built str H serializedCassette resources maxWaitTicks maxFinishTick m := by
  unfold buildG2ScheduleManifest at h
  split at h
  · cases h
  · cases h
  · next cassette hloads =>
    unfold buildFromCassette at h
    split at h
    · split at h
      · cases h
      split at h
      · cases h
      · next attempts _ hattempts =>
        have hof : attemptsOf H serializedCassette = attempts := by
          rw [attemptsOf, hloads]
          simp only [hattempts]
        obtain ⟨rows, hrows, h⟩ := Raising.except_bind_eq_ok.1 h
        split at h
        · obtain ⟨proposals, hproposals, h⟩ := Raising.except_bind_eq_ok.1 h
          dsimp only at h
          split at h
          · next hvalid =>
            cases h
            exact ⟨hvalid, rfl, rfl, rfl, rows, _, _,
              hof ▸ Raising.except_mapM_eq_ok.1 hrows, Raising.except_mapM_eq_ok.1 hproposals⟩
          · cases h
        · cases h
      · cases h
    · cases h
  · cases h

/-- The skeletons of proposals are those of the attempts, in their order. -/
theorem skeletons_of_rows {source matter : String} {attempts : List Value} {rows : List RawRow}
    {proposals : List ScheduledCommandProposal} {start : Nat}
    (hrows : List.Forall₂ (fun attempt row => rawRow str attempt = .ok row) attempts rows)
    (hproposals : List.Forall₂ (fun e p => proposalOf str source matter e.1 e.2 = .ok p)
      (rows.zipIdx start) proposals) :
    proposals.map (·.skeleton) = (attempts.zipIdx start).map fun e => skeletonOf str e.1 e.2 := by
  induction hrows generalizing start proposals with
  | nil =>
    rw [List.zipIdx_nil] at hproposals
    cases hproposals
    rfl
  | cons hrow _ ih =>
    rw [List.zipIdx_cons] at hproposals
    cases hproposals with
    | cons hproposal hrest =>
      rw [List.map_cons, skeleton_of_proposalOf hrow hproposal, ih hrest, List.zipIdx_cons,
        List.map_cons]

/-- Attempts that are alike give the same skeletons. -/
theorem skeletons_of_alike {attempts attempts' : List Value} {rows : List RawRow} {start : Nat}
    (hrows : List.Forall₂ (fun attempt row => rawRow str attempt = .ok row) attempts rows)
    (halike : List.Forall₂ (AlikeAttempt str) attempts attempts') :
    (attempts.zipIdx start).map (fun e => skeletonOf str e.1 e.2) =
      (attempts'.zipIdx start).map fun e => skeletonOf str e.1 e.2 := by
  induction halike generalizing start rows with
  | nil => rfl
  | cons hhead _ ih =>
    cases hrows with
    | cons hrow hrest =>
      rw [List.zipIdx_cons, List.zipIdx_cons, List.map_cons, List.map_cons, ih hrest,
        hhead.skeletonOf_eq (rawRow_eq_ok hrow).2.2]

/-- **The schedule does not see the route.** Take two cassettes whose attempts agree, position by
position, in disposition and role and, being accepted, in the class of their verb. If manifests are
built of both with the same resources and ceilings, the reference scheduler plans both or neither,
and the plans agree but for the ids of the proposals. -/
theorem route_blind {H : Host} {serialized serialized' : String}
    {resources : Option (List SchedulerResourceSpec)} {maxWaitTicks maxFinishTick : Int}
    {m m' : SimulationScheduleManifest}
    (h : buildG2ScheduleManifest str H serialized resources maxWaitTicks maxFinishTick = .ok m)
    (h' : buildG2ScheduleManifest str H serialized' resources maxWaitTicks maxFinishTick = .ok m')
    (halike : List.Forall₂ (AlikeAttempt str) (attemptsOf H serialized)
      (attemptsOf H serialized')) :
    (planWithReferenceScheduler m).map (fun t => t.decisions.map m.view) =
      (planWithReferenceScheduler m').map fun t => t.decisions.map m'.view := by
  obtain ⟨hvalid, hresources, hwait, hfinish, rows, source, matter, hrows, hproposals⟩ :=
    built_of_ok h
  obtain ⟨hvalid', hresources', hwait', hfinish', rows', source', matter', hrows', hproposals'⟩ :=
    built_of_ok h'
  have hcapacities : m.capacities = m'.capacities := by
    unfold SimulationScheduleManifest.capacities
    rw [hresources, hresources']
  rw [plan_view hvalid, plan_view hvalid', hwait, hwait', hfinish, hfinish', hcapacities,
    skeletons_of_rows hrows hproposals, skeletons_of_rows hrows' hproposals',
    skeletons_of_alike hrows halike]

end

/-! ## The cassette of one referral -/

/-- No forbidden text occurs in the canonical text of a value, in lower case. -/
def ShowsNone (v : Json) : Prop :=
  ∀ value ∈ forbiddenSchedulerContent, ¬ v.Shows Char.toLower value.toList

/-- A dictionary shows nothing forbidden where no key and no value does. -/
theorem showsNone_dict {entries : List (String × Json)} :
    ShowsNone (.dict entries) ↔ ∀ e ∈ entries, ShowsNone (.str e.1) ∧ ShowsNone e.2 := by
  constructor
  · intro h e he
    refine ⟨fun value hvalue hshows => ?_, fun value hvalue hshows => ?_⟩
    · exact h value hvalue (((forbidden_isWord hvalue).1.shows_dict _).2 ⟨e, he, .inl hshows⟩)
    · exact h value hvalue (((forbidden_isWord hvalue).1.shows_dict _).2 ⟨e, he, .inr hshows⟩)
  · intro h value hvalue hshows
    obtain ⟨e, he, hkey | hval⟩ := ((forbidden_isWord hvalue).1.shows_dict _).1 hshows
    · exact (h e he).1 value hvalue hkey
    · exact (h e he).2 value hvalue hval

/-- A list shows nothing forbidden where no item does. -/
theorem showsNone_list {items : List Json} :
    ShowsNone (.list items) ↔ ∀ v ∈ items, ShowsNone v := by
  constructor
  · exact fun h v hv value hvalue hshows =>
      h value hvalue (((forbidden_isWord hvalue).1.shows_list _).2 ⟨v, hv, hshows⟩)
  · intro h value hvalue hshows
    obtain ⟨v, hv, hshows⟩ := ((forbidden_isWord hvalue).1.shows_list _).1 hshows
    exact h v hv value hvalue hshows

/-- A manifest shows no forbidden text exactly when the check reports none. -/
theorem showsNone_toJson {m : SimulationScheduleManifest} :
    ShowsNone m.toJson ↔
      forbiddenSchedulerContent.filter (textContains (canonicalJson m.toJson).toLower) = [] := by
  rw [List.filter_eq_nil_iff]
  exact forall₂_congr fun value _ => not_congr (textContains_iff _ _).symm

/-- The proposal of a referral, with the commitments and the id that its content gives. -/
def referralProposal (source matter commitment proposalId : String) : ScheduledCommandProposal where
  proposalId := proposalId
  matterCommitment := matter
  commandCommitment := commitment
  schedulingClass := "intake_work"
  readyTick := 0
  serviceTicks := 2
  resourceClass := "intake_operations"
  priority := 10
  submissionOrdinal := 1
  tieBreakKey := paddedOrdinal 1 ++ ":" ++ proposalId
  expectedDisposition := "accepted"
  sourceCassetteCommitment := source

/-- The manifest of one referral. -/
def referralManifest (source matter commitment proposalId : String) : SimulationScheduleManifest :=
  manifestOf source matter defaultSchedulerResources
    [referralProposal source matter commitment proposalId] 100 1000

section
variable {source matter commitment proposalId : String}

/-- Its fixed texts are those of `intakeManifest`, and the others are unmarked. -/
theorem showsNone_referral (hsource : IsUnmarked source.toList) (hmatter : IsUnmarked matter.toList)
    (hcommitment : IsUnmarked commitment.toList) (hid : IsUnmarked proposalId.toList) :
    ShowsNone (referralManifest source matter commitment proposalId).toJson := by
  have hkey : IsUnmarked (paddedOrdinal 1 ++ ":" ++ proposalId).toList := by
    rw [String.toList_append]
    exact (IsUnmarked.of_all (by decide)).append hid
  have hown (m : SimulationScheduleManifest) : ShowsNone (.str m.expectedId) :=
    fun _ hvalue => not_shows_expectedId m hvalue
  have hunmarked {s : String} (hs : IsUnmarked s.toList) : ShowsNone (.str s) :=
    fun _ hvalue => hs.not_shows hvalue
  have hfixed := showsNone_toJson.2 intakeManifest_forbidden
  unfold SimulationScheduleManifest.toJson at hfixed ⊢
  simp only [showsNone_dict, showsNone_list, List.forall_mem_cons, intakeManifest,
    referralManifest, referralProposal, manifestOf, List.map_cons, List.map_nil,
    ScheduledCommandProposal.toJson, defaultSchedulerResources] at hfixed ⊢
  simp only [hfixed, hunmarked hsource, hunmarked hmatter, hunmarked hcommitment, hunmarked hid,
    hunmarked hkey, hown, List.not_mem_nil, IsEmpty.forall_iff, implies_true, true_and, and_true]
  exact hfixed.2.2.2.2.2.1.2

/-- The manifest of one referral has no errors. -/
theorem validate_referral (hsource : source.length = 64) (hmatter : matter.length = 64)
    (hforbidden : ShowsNone (referralManifest source matter commitment proposalId).toJson) :
    validateScheduleManifest (referralManifest source matter commitment proposalId) = [] := by
  rw [validateScheduleManifest, showsNone_toJson.1 hforbidden]
  simp [errorIf, referralManifest, referralProposal, manifestOf, hsource, hmatter, proposalErrors,
    resourceErrors, SimulationScheduleManifest.expectedId, SimulationScheduleManifest.resourceDict,
    defaultSchedulerResources]
  decide +kernel

end

/-- The command of a referral, with any payload. -/
def referralCommand (matterId : List Nat) (payload : Value) : Members :=
  [(codes "matter_id", .str matterId), (codes "verb", .str (codes "receive_referral")),
   (codes "role_id", .str (codes "intake")), (codes "payload", payload)]

/-- A cassette with a referral for its only attempt. -/
def referralCassette (matterId : List Nat) (payload : Value) : Members :=
  [(codes "revision", .str (codes "g2_attempt_cassette_v2")),
   (codes "attempts", .list
     [.dict [(codes "expected", .str (codes "accepted")),
       (codes "command", .dict (referralCommand matterId payload))]])]

/-- A digest is unmarked, whatever is digested. -/
theorem digestValue_isUnmarked (v : Value) : IsUnmarked (digestValue v).toList := by
  unfold digestValue
  rw [String.toList_ofList]
  exact .of_hex fun c hc => Sha256.mem_hexdigest hc

section
variable {str : Value → List Nat} {matterId : List Nat} {payload : Value}

/-- The row of a referral. -/
def referralRow (matterId : List Nat) (payload : Value) : RawRow where
  entry := [(codes "expected", .str (codes "accepted")),
    (codes "command", .dict (referralCommand matterId payload))]
  command := referralCommand matterId payload
  matterId := matterId

/-- The row of a referral reads as that row. -/
theorem rawRow_referral (hmatter : matterId ≠ []) :
    rawRow str (.dict (referralRow matterId payload).entry) =
      .ok (referralRow matterId payload) := by
  have hcommand : memberOr (referralRow matterId payload).entry "command" .null =
      .dict (referralCommand matterId payload) := rfl
  have hid : memberText str (referralCommand matterId payload) "matter_id" = matterId := rfl
  have hexpected : memberText str (referralRow matterId payload).entry "expected" =
      codes "accepted" := rfl
  simp only [rawRow, hcommand, hid, hexpected, if_neg hmatter, ne_eq, not_true_eq_false, false_and,
    if_false]
  rfl

/-- The row of a referral makes the referral's proposal. -/
theorem proposalOf_referral (source matter : String) :
    ∃ proposalId, IsUnmarked proposalId.toList ∧
      proposalOf str source matter (referralRow matterId payload) 1 = .ok (referralProposal source
        matter (digestValue (.dict (referralCommand matterId payload))) proposalId) := by
  have hexpected : memberText str (referralRow matterId payload).entry "expected" =
      codes "accepted" := rfl
  have hdenied : ¬ codes "accepted" = codes "denied" := by decide
  have hclass : tableGet verbSchedulingClass
      (memberText str (referralRow matterId payload).command "verb") = "intake_work" := rfl
  have hrole : tableGet roleResource
      (memberText str (referralRow matterId payload).command "role_id") = "intake_operations" := rfl
  have hticks : serviceTicksOf.lookup "intake_work" = some 2 := by decide
  refine ⟨"SPROP-" ++ firstChars 18 (digest (.dict
    [("cassette", .str source), ("matter", .str matter),
     ("command", .str (digestValue (.dict (referralCommand matterId payload)))),
     ("ordinal", .int 1), ("class", .str "intake_work")])), ?_, ?_⟩
  · rw [String.toList_append]
    exact (IsUnmarked.of_all (by decide)).append (isUnmarked_firstChars_digest 18 _)
  · unfold proposalOf
    simp only [hexpected, hdenied, if_false, hclass, hrole, hticks]
    rfl

/-- A cassette of one referral gives a manifest, whatever the matter and the payload are. -/
theorem build_referral (hmatter : matterId ≠ []) :
    ∃ m, buildFromCassette str (referralCassette matterId payload) none 100 1000 = .ok m := by
  let source := digestValue (.dict (referralCassette matterId payload))
  let matter := matterCommitmentOf matterId
  obtain ⟨proposalId, hid, hproposal⟩ :=
    @proposalOf_referral str matterId payload source matter
  have hvalid : validateScheduleManifest (referralManifest source matter
      (digestValue (.dict (referralCommand matterId payload))) proposalId) = [] :=
    validate_referral (digestValue_length _) (digestValue_length _)
      (showsNone_referral (digestValue_isUnmarked _) (digestValue_isUnmarked _)
        (digestValue_isUnmarked _) hid)
  have hrevision : memberOr (referralCassette matterId payload) "revision" .null =
      .str (codes "g2_attempt_cassette_v2") := rfl
  have hattempts : memberOr (referralCassette matterId payload) "attempts" .null =
      .list [.dict (referralRow matterId payload).entry] := rfl
  have hrows : [Value.dict (referralRow matterId payload).entry].mapM (rawRow str) =
      .ok [referralRow matterId payload] :=
    Raising.except_mapM_eq_ok.2 (.cons (rawRow_referral hmatter) .nil)
  have hproposals : ([referralRow matterId payload].zipIdx 1).mapM
      (fun e => proposalOf str source matter e.1 e.2) = .ok [_] :=
    Raising.except_mapM_eq_ok.2 (.cons hproposal .nil)
  refine ⟨referralManifest source matter
    (digestValue (.dict (referralCommand matterId payload))) proposalId, ?_⟩
  have hdedup : ([referralRow matterId payload].map (·.matterId)).dedup = [matterId] :=
    List.dedup_eq_self.2 (List.nodup_singleton _)
  have hmanifest : manifestOf source matter (resourcesOr none) [referralProposal source matter
      (digestValue (.dict (referralCommand matterId payload))) proposalId] 100 1000 =
        referralManifest source matter (digestValue (.dict (referralCommand matterId payload)))
          proposalId := rfl
  simp only [buildFromCassette, hrevision, hattempts, hrows, ne_eq, not_true_eq_false, if_false,
    Raising.ok_bind, hdedup]
  rw [hproposals, Raising.ok_bind, hmanifest, hvalid]
  rfl

end

/-- The payload of a referral that names a route. -/
def routePayload (route : String) : Value := .dict [(codes "route", .str (codes route))]

/-- A serialized cassette of one referral. -/
def serializedReferral (matterId route : String) : String :=
  String.ofList (Value.dict (referralCassette (codes matterId) (routePayload route))).dumps

/-- The text of a referral's cassette reads as the cassette. -/
theorem loads_serializedReferral (matterId route : String) :
    loads ⟨id, 4300⟩ (serializedReferral matterId route).toList =
      .ok (.dict (referralCassette (codes matterId) (routePayload route))) := by
  rw [serializedReferral, String.toList_ofList]
  refine loads_dumps ?_
  have hpayload : Plain ⟨id, 4300⟩ (routePayload route) :=
    plain_dict [("route", .str (codes route))] ["route"] rfl (by decide) (by simp [plain_codes])
  have hcommand : Plain ⟨id, 4300⟩
      (.dict (referralCommand (codes matterId) (routePayload route))) :=
    plain_dict [("matter_id", .str (codes matterId)), ("verb", .str (codes "receive_referral")),
      ("role_id", .str (codes "intake")), ("payload", routePayload route)]
      ["matter_id", "verb", "role_id", "payload"] rfl (by decide) (by simp [plain_codes, hpayload])
  have hattempt : Plain ⟨id, 4300⟩
      (.dict (referralRow (codes matterId) (routePayload route)).entry) :=
    plain_dict [("expected", .str (codes "accepted")), ("command", .dict (referralCommand
      (codes matterId) (routePayload route)))] ["expected", "command"] rfl (by decide)
      (by simp [plain_codes, hcommand])
  exact plain_dict [("revision", .str (codes "g2_attempt_cassette_v2")), ("attempts", .list
    [.dict (referralRow (codes matterId) (routePayload route)).entry])] ["revision", "attempts"]
    rfl (by decide) (by simpa [plain_codes] using Plain.list _ (by simpa using hattempt))

/-- Two matters on different routes have one plan. -/
theorem route_blind_referrals :
    ∃ m m', buildG2ScheduleManifest (fun _ => []) ⟨id, 4300⟩
        (serializedReferral "M-1" "trial_appeal") none 100 1000 = .ok m ∧
      buildG2ScheduleManifest (fun _ => []) ⟨id, 4300⟩
        (serializedReferral "M-2" "early_settlement") none 100 1000 = .ok m' ∧
      (planWithReferenceScheduler m).map (fun t => t.decisions.map m.view) =
        (planWithReferenceScheduler m').map fun t => t.decisions.map m'.view := by
  have hbuild (matterId route : String) (hmatter : codes matterId ≠ []) :
      ∃ m, buildG2ScheduleManifest (fun _ => []) ⟨id, 4300⟩ (serializedReferral matterId route)
        none 100 1000 = .ok m := by
    obtain ⟨m, hm⟩ := @build_referral (fun _ => []) _ (routePayload route) hmatter
    refine ⟨m, ?_⟩
    rw [buildG2ScheduleManifest, loads_serializedReferral]
    exact hm
  have hattempts (matterId route : String) :
      attemptsOf ⟨id, 4300⟩ (serializedReferral matterId route) =
        [.dict (referralRow (codes matterId) (routePayload route)).entry] := by
    rw [attemptsOf, loads_serializedReferral]
    rfl
  obtain ⟨m, hm⟩ := hbuild "M-1" "trial_appeal" (by decide)
  obtain ⟨m', hm'⟩ := hbuild "M-2" "early_settlement" (by decide)
  refine ⟨m, m', hm, hm', route_blind hm hm' ?_⟩
  rw [hattempts, hattempts]
  exact .cons ⟨rfl, rfl, fun _ => rfl⟩ .nil

end LawFirmDigitalTwin
