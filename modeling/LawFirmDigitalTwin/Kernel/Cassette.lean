import LawFirmDigitalTwin.Kernel.Workflow

/-!
# Cassettes

`_execute_serialized_cassette` in `g2.py`: a cassette lists attempts with what is expected of each,
and is executed on a fresh kernel over the built world, whose commitments it has to match. The text
of the cassette has been read by `json.loads`. A `Command` holds texts, so that a record with a
token or a payload key that is not one makes no command.
-/

namespace LawFirmDigitalTwin

open Raising

/-! ## Parsed values -/

namespace Json

/-- `v[key]`. -/
def item (key : String) : Json → Except PyError Json
  | .dict entries => match entries.lookup key with
    | some v => .ok v
    | none => .error (.keyError key)
  | .str _ | .list _ => .error (.typeError "indices must be integers or slices")
  | _ => .error (.typeError "object is not subscriptable")

/-- `v.get(key, default)`. -/
def getD (v : Json) (key : String) (default : Json) : Except PyError Json :=
  match v with
  | .dict entries => .ok ((entries.lookup key).getD default)
  | _ => .error (.other "AttributeError")

/-- The items of `iter(v)`. -/
def iter : Json → Except PyError (List Json)
  | .list items => .ok items
  | .dict entries => .ok (entries.map fun e => .str e.1)
  | .str s => .ok (s.toList.map fun c => .str (String.singleton c))
  | _ => .error (.typeError "object is not iterable")

/-- A parsed value as a value of a payload; `observe` is what the program can observe of those that
are not scalars. -/
def toPy (observe : Json → PyObject) : Json → PyValue
  | .null => .none
  | .bool b => .bool b
  | .int i => .int i
  | .str s => .str s
  | v => .object (observe v)

/-- A text. -/
def toText : Json → Except PyError String
  | .str s => .ok s
  | _ => .error (.typeError "expected str")

/-- `tuple(v)`, of texts. -/
def texts (v : Json) : Except PyError (List String) := do
  (← v.iter).mapM toText

/-- A key and a value, as `dict(v)` takes them from the items of `v`. -/
def keyValue (v : Json) : Except PyError (String × Json) := do
  match ← v.iter with
  | [key, value] => return (← key.toText, value)
  | _ => .error (.valueError "dictionary update sequence element has wrong length")

/-- `dict(v)`. -/
def toDict : Json → Except PyError (List (String × Json))
  | .dict entries => .ok entries
  | v => do (← v.iter).mapM keyValue

end Json

/-! ## Attempts -/

section
variable (observe : Json → PyObject)

/-- `str(v[key])`. -/
def Json.textOf (key : String) (v : Json) : Except PyError String := do
  ((← v.item key).toPy observe).toStr

/-- `g2.py` `_command_from_record`. -/
def commandFromRecord (record : Json) : Except PyError Command := do
  return {
    commandId := ← record.textOf observe "command_id"
    verb := ← record.textOf observe "verb"
    actorId := ← record.textOf observe "actor_id"
    roleId := ← record.textOf observe "role_id"
    matterId := ← record.textOf observe "matter_id"
    payload := .ofEntries
      ((← (← record.getD "payload" (.dict [])).toDict).map fun e => (e.1, e.2.toPy observe))
    requiresAuthority := ← (← record.getD "requires_authority" (.list [])).texts
    requiresKnowledge := ← (← record.getD "requires_knowledge" (.list [])).texts }

/-- The command of an attempt. -/
def attemptCommand (entry : Json) : Except PyError Command := do
  commandFromRecord observe (← entry.item "command")

/-- The reason of the last denial, or the reason of a rejection without any. -/
def lastReason (s : KernelState) : String :=
  match s.denials.getLast? with
  | some d => d.reason.value
  | none => "transition_rejection"

/-- The body of the loop over the attempts: the state after an attempt whose outcome is the expected
one, and its command. -/
def executeAttempt (k : Kernel) (s : KernelState) (entry : Json) :
    Except PyError (KernelState × Command) := do
  let command ← attemptCommand observe entry
  let expected ← entry.textOf observe "expected"
  match k.submit command s with
  | .ok _ s' =>
    if expected ≠ "accepted" then
      .error (.gateError "cassette expected denial but accepted" [command.commandId])
    else .ok (s', command)
  | .error (.gateError text items) s' =>
    if expected ≠ "denied" then .error (.gateError text items)
    else match ← entry.getD "reason" .null with
      | .str reason =>
        if lastReason s' ≠ reason then .error (.gateError text items) else .ok (s', command)
      | _ => .error (.gateError text items)
  | .error e _ => .error e

/-- The loop over the attempts, with the list `attempted`. -/
def executeAttempts (k : Kernel) :
    List Json → KernelState → List Command → Except PyError (KernelState × List Command)
  | [], s, attempted => .ok (s, attempted)
  | entry :: rest, s, attempted => do
    let (s', command) ← executeAttempt observe k s entry
    executeAttempts k rest s' (attempted ++ [command])

/-- An item of `artifact_commitments` commits to an artifact. -/
def commitsTo : Json → EvidenceArtifact → Bool
  | .dict entries, a =>
    match entries.lookup "artifact_id", entries.lookup "content_hash",
      entries.lookup "voice_signature" with
    | some (.str id), some (.str contentHash), some (.str voiceSignature) =>
      entries.length = 3 ∧ id = a.artifactId ∧ contentHash = a.contentHash ∧
        voiceSignature = a.voiceSignature
    | _, _, _ => false
  | _, _ => false

/-- `cassette["artifact_commitments"] == actual_commitments`. -/
def commitsToAll : List Json → List EvidenceArtifact → Bool
  | [], [] => true
  | item :: items, a :: rest => commitsTo item a && commitsToAll items rest
  | _, _ => false

/-- The two commitment checks. -/
def checkCommitments (cassette : Json) (bundle : WorldBundle) : Except PyError Unit := do
  match ← cassette.getD "rule_pack_hash" .null with
  | .str hash =>
    if hash ≠ digest bundle.matter.rulePack.toJson then
      .error (.gateError "cassette rule-pack commitment mismatch" [])
  | _ => .error (.gateError "cassette rule-pack commitment mismatch" [])
  match ← cassette.getD "artifact_commitments" .null with
  | .list items =>
    if ¬ commitsToAll items bundle.matter.evidenceInventory then
      .error (.gateError "cassette artifact commitment mismatch" [])
  | _ => .error (.gateError "cassette artifact commitment mismatch" [])

/-- The kernel a cassette is executed on. -/
def cassetteKernel (cassette : Json) (runSuffix : String) : Except PyError Kernel := do
  let seed ← cassette.textOf observe "seed"
  let arm ← Arm.ofText (← cassette.textOf observe "arm")
  let route ← Route.ofText (← cassette.textOf observe "route")
  let bundle := buildEmploymentWorld seed placeholderDataFirstRulePack
  checkCommitments cassette bundle
  return {
    runId := "RUN-" ++ arm.value ++ "-" ++ route.value ++ "-" ++ seed ++ "-" ++ runSuffix
    bundle := bundle
    arm := arm
    route := route }

/-- `g2.py` `_execute_serialized_cassette`, after `json.loads`: the kernel, its state and the
commands that were attempted. -/
def executeSerializedCassette (cassette : Json) (runSuffix : String) :
    Except PyError (Kernel × KernelState × List Command) := do
  let kernel ← cassetteKernel observe cassette runSuffix
  let attempts ← (← cassette.item "attempts").iter
  let (s, attempted) ← executeAttempts observe kernel attempts kernel.initial []
  return (kernel, s, attempted)

end

/-! ## What an attempt leaves behind -/

/-- The call appended one event, for the command, and no denial. -/
structure Kernel.Accepts (k : Kernel) (s : KernelState) (c : Command) : Prop where
  event : ∃ event, event.commandId = c.commandId ∧ (k.step s c).events = s.events ++ [event]
  denials : (k.step s c).denials = s.denials

/-- The call appended no event and one denial, of the command, with a reason. -/
structure Kernel.Denies (k : Kernel) (s : KernelState) (c : Command) (reason : String) : Prop where
  events : (k.step s c).events = s.events
  denial : ∃ d : Denial, d.commandId = c.commandId ∧ d.reason.value = reason ∧
    (k.step s c).denials = s.denials ++ [d]

/-- The call passed the checks of `submit` and its transition rejected it, which no denial records.
While there are no denials the reason is that of a rejected transition. -/
structure Kernel.Rejects (k : Kernel) (s : KernelState) (c : Command) (reason : String) : Prop where
  events : (k.step s c).events = s.events
  denials : (k.step s c).denials = s.denials
  first : s.denials = [] → reason = "transition_rejection"

/-- An attempt whose outcome is recorded as it was expected. -/
structure Kernel.Faithful (observe : Json → PyObject) (k : Kernel) (s : KernelState) (entry : Json)
    (c : Command) : Prop where
  accepted : entry.textOf observe "expected" = .ok "accepted" → k.Accepts s c
  denied : entry.textOf observe "expected" = .ok "denied" →
    ∃ reason, entry.getD "reason" .null = .ok (.str reason) ∧ k.Denies s c reason

/-- An attempt that was accepted as expected, or denied as expected by the checks of `submit` or by
its transition. -/
structure Kernel.Executed (observe : Json → PyObject) (k : Kernel) (s : KernelState) (entry : Json)
    (c : Command) : Prop where
  command : attemptCommand observe entry = .ok c
  expected : entry.textOf observe "expected" = .ok "accepted" ∨
    entry.textOf observe "expected" = .ok "denied"
  accepted : entry.textOf observe "expected" = .ok "accepted" → k.Accepts s c
  denied : entry.textOf observe "expected" = .ok "denied" →
    ∃ reason, entry.getD "reason" .null = .ok (.str reason) ∧
      ((∃ r, k.admit s c = .error r) ∧ k.Denies s c reason ∨
        (∃ a, k.admit s c = .ok a) ∧ k.Rejects s c reason)

section
variable {observe : Json → PyObject} {k : Kernel} {s s' : KernelState} {entry : Json} {c : Command}

/-- A command whose submission returns is accepted. -/
theorem accepts_of_returned {event : Event} (h : k.submit c s = .ok event s') :
    k.Accepts s c := by
  have hr : returned (k.submit c s) = true := by rw [h]; rfl
  cases hchecks : k.admit s c with
  | error r => rw [returned_submit_refused hchecks] at hr; cases hr
  | ok a =>
    refine ⟨?_, (step_effect hchecks).denials⟩
    rcases step_appended k s c with hevents | ⟨a', u, s₁, s₂, e, -, -, he, hevents⟩
    · obtain ⟨e, -, happended⟩ := step_accepted hchecks hr
      rw [hevents] at happended
      simp at happended
    · exact ⟨e, (event_records he).commandId, hevents⟩

/-- The only exception of the checks themselves is a missing key. -/
theorem admit_raised {e : PyError} (h : k.admit s c = .error (.raised e)) :
    ∃ key, e = .keyError key := by
  have hkey {d : PyDict (Finset String)} {e : PyError} (he : d.getItem c.actorId = .error e) :
      ∃ key, e = .keyError key := by
    unfold PyDict.getItem at he
    cases hd : d.get? c.actorId with
    | none => rw [hd] at he; cases he; exact ⟨_, rfl⟩
    | some v => rw [hd] at he; cases he
  unfold Kernel.admit at h
  split at h
  · cases h
  split at h
  · cases h
  split at h
  · cases h
  dsimp only at h
  split at h
  · cases h
  split at h
  · cases h
  split at h
  · cases h
  split at h
  · next hraised => cases h; exact hkey hraised
  · next hraised => cases h; exact hkey hraised
  split at h
  · cases h
  split at h
  · cases h
  · cases h

/-- What a denial leaves behind. -/
theorem deny_run {α : Type} (c : Command) (reason : DenialReason) (missing : List String)
    (s : KernelState) :
    ∃ s', (deny c reason missing : KernelM α) s = .error (.gateError reason.value missing) s' ∧
      s'.events = s.events ∧ s'.denials = s.denials ++ [denial c reason missing] := by
  unfold deny
  by_cases h : reason = .oracleBoundary
  · rw [if_pos h]; exact ⟨_, rfl, rfl, rfl⟩
  · rw [if_neg h]; exact ⟨_, rfl, rfl, rfl⟩

/-- A denial of the checks is the last one on record. -/
theorem denies_of_refused {r : Refusal} {text : String} {items : List String}
    (hchecks : k.admit s c = .error r) (h : k.submit c s = .error (.gateError text items) s') :
    k.Denies s c (lastReason s') := by
  cases r with
  | raised e =>
    obtain ⟨key, rfl⟩ := admit_raised hchecks
    rw [submit_raised hchecks] at h
    cases h
  | denied reason missing =>
    have hstep : k.step s c = s' := by rw [Kernel.step, h]; rfl
    obtain ⟨s₁, hrun, hevents, hdenials⟩ :=
      deny_run (α := Event) c reason missing s
    rw [submit_denied hchecks, hrun] at h
    cases h
    rw [← hstep] at hevents hdenials ⊢
    refine ⟨hevents, _, rfl, ?_, hdenials⟩
    simp [lastReason, hdenials]

/-- An admitted command whose submission raises is rejected. -/
theorem rejects_of_admitted {a : Admission} {e : PyError}
    (hchecks : k.admit s c = .ok a) (h : k.submit c s = .error e s') :
    k.Rejects s c (lastReason s') := by
  have hstep : k.step s c = s' := by rw [Kernel.step, h]; rfl
  have hdenials : s'.denials = s.denials := hstep ▸ (step_effect hchecks).denials
  refine ⟨step_rejected (by rw [h]; rfl), by rw [hstep]; exact hdenials, fun hempty => ?_⟩
  rw [lastReason, hdenials, hempty]
  rfl

/-- One attempt. -/
theorem executeAttempt_ok (h : executeAttempt observe k s entry = .ok (s', c)) :
    s' = k.step s c ∧ k.Executed observe s entry c := by
  unfold executeAttempt at h
  obtain ⟨c', hcommand, h⟩ := except_bind_eq_ok.1 h
  obtain ⟨expected, hexpected, h⟩ := except_bind_eq_ok.1 h
  cases hsubmit : k.submit c' s with
  | ok event s₁ =>
    rw [hsubmit] at h
    by_cases haccepted : expected = "accepted"
    · simp only [haccepted, ne_eq, not_true_eq_false, if_false] at h
      cases h
      subst haccepted
      refine ⟨by rw [Kernel.step, hsubmit]; rfl, hcommand, .inl hexpected, fun _ => ?_, ?_⟩
      · exact accepts_of_returned hsubmit
      · intro hdenied
        rw [hexpected] at hdenied
        simp at hdenied
    · simp [haccepted] at h
  | error e s₁ =>
    rw [hsubmit] at h
    cases e with
    | gateError text items =>
      by_cases hdenied : expected = "denied"
      · subst hdenied
        obtain ⟨value, hreason, h⟩ := except_bind_eq_ok.1 h
        obtain ⟨reason, rfl, hlast, rfl, rfl⟩ : ∃ reason, value = .str reason ∧
            lastReason s₁ = reason ∧ s₁ = s' ∧ c' = c := by
          cases value with
          | str reason =>
            by_cases hlast : lastReason s₁ = reason
            · simp only [hlast, ne_eq, not_true_eq_false, if_false] at h
              cases h
              exact ⟨reason, rfl, hlast, rfl, rfl⟩
            · simp [hlast] at h
          | _ => cases h
        refine ⟨by rw [Kernel.step, hsubmit]; rfl, hcommand, .inr hexpected, fun haccepted => ?_,
          fun _ => ⟨reason, hreason, ?_⟩⟩
        · rw [hexpected] at haccepted
          simp at haccepted
        · cases hchecks : k.admit s c' with
          | error r =>
            left
            exact ⟨⟨r, rfl⟩, hlast ▸ denies_of_refused hchecks hsubmit⟩
          | ok a =>
            right
            exact ⟨⟨a, rfl⟩, hlast ▸ rejects_of_admitted hchecks hsubmit⟩
      · simp [hdenied] at h
    | _ => cases h

/-- The loop, from any state. -/
theorem executeAttempts_ok {entries : List Json} {attempted commands : List Command}
    (h : executeAttempts observe k entries s attempted = .ok (s', commands)) :
    ∃ cs, commands = attempted ++ cs ∧ cs.length = entries.length ∧ s' = Machine.run k.step s cs ∧
      Machine.AllSteps (fun s i => k.step s i.2) (fun s i => k.Executed observe s i.1 i.2) s
        (entries.zip cs) := by
  induction entries generalizing s attempted with
  | nil =>
    cases h
    exact ⟨[], (List.append_nil _).symm, rfl, rfl, trivial⟩
  | cons entry rest ih =>
    unfold executeAttempts at h
    obtain ⟨⟨s₁, c⟩, hattempt, h⟩ := except_bind_eq_ok.1 h
    obtain ⟨rfl, hexecuted⟩ := executeAttempt_ok hattempt
    obtain ⟨cs, rfl, hlength, hrun, hall⟩ := ih h
    refine ⟨c :: cs, by simp, by simp [hlength], hrun, hexecuted, hall⟩

end

/-- Every attempt of a cassette has a property, in the state in which it was made; the commands are
those of the attempts in order, and the state is the one they lead to. -/
def EachAttempt (P : KernelState → Json → Command → Prop) (k : Kernel) (cassette : Json)
    (s : KernelState) (commands : List Command) : Prop :=
  ∃ entries, (cassette.item "attempts" >>= Json.iter) = .ok entries ∧
    commands.length = entries.length ∧ s = k.run commands ∧
    Machine.AllSteps (fun s i => k.step s i.2) (fun s i => P s i.1 i.2) k.initial
      (entries.zip commands)

/-- **A cassette that was executed.** Every attempt had its expected outcome. One that was expected
to be accepted appended one event of its own command and no denial. One that was expected to be
denied appended no event, and one denial of its own command for the expected reason where the
checks of `submit` stopped it; a rejected transition appended none. -/
theorem cassette_executed {observe : Json → PyObject} {cassette : Json} {runSuffix : String}
    {k : Kernel} {s : KernelState} {commands : List Command}
    (h : executeSerializedCassette observe cassette runSuffix = .ok (k, s, commands)) :
    EachAttempt (k.Executed observe) k cassette s commands := by
  unfold executeSerializedCassette at h
  obtain ⟨k', -, h⟩ := except_bind_eq_ok.1 h
  obtain ⟨attempts, hitem, h⟩ := except_bind_eq_ok.1 h
  obtain ⟨entries, hiter, h⟩ := except_bind_eq_ok.1 h
  obtain ⟨⟨s', commands'⟩, hloop, h⟩ := except_bind_eq_ok.1 h
  cases h
  obtain ⟨cs, rfl, hlength, hrun, hall⟩ := executeAttempts_ok hloop
  exact ⟨entries, by rw [hitem]; exact hiter, hlength, hrun, hall⟩

/-! ## Cassettes over a built world -/

/-- What a cassette says of an artifact. -/
def commitment (a : EvidenceArtifact) : Json :=
  .dict
    [("artifact_id", .str a.artifactId), ("content_hash", .str a.contentHash),
     ("voice_signature", .str a.voiceSignature)]

/-- The commitments to some artifacts commit to all of them. -/
theorem commitsToAll_commitment (artifacts : List EvidenceArtifact) :
    commitsToAll (artifacts.map commitment) artifacts = true := by
  induction artifacts with
  | nil => rfl
  | cons a rest ih => simp [commitsToAll, commitsTo, commitment, List.lookup_cons, ih]

/-- The commitments of a bundle pass the checks. -/
theorem checkCommitments_ok {cassette : Json} {bundle : WorldBundle}
    (hpack : cassette.getD "rule_pack_hash" .null =
      .ok (.str (digest bundle.matter.rulePack.toJson)))
    (hartifacts : cassette.getD "artifact_commitments" .null =
      .ok (.list (bundle.matter.evidenceInventory.map commitment))) :
    checkCommitments cassette bundle = .ok () := by
  unfold checkCommitments
  rw [hpack, hartifacts]
  simp [commitsToAll_commitment]

/-- A text member is read as its text. -/
theorem textOf_of_item {observe : Json → PyObject} {v : Json} {key text : String}
    (h : v.item key = .ok (.str text)) : v.textOf observe key = .ok text := by
  rw [Json.textOf, h]
  rfl

/-- The kernel of a cassette whose commitments are right. -/
theorem cassetteKernel_ok {observe : Json → PyObject} {cassette : Json} {seed : String} {arm : Arm}
    {route : Route} (runSuffix : String) (hseed : cassette.item "seed" = .ok (.str seed))
    (harm : cassette.item "arm" = .ok (.str arm.value))
    (hroute : cassette.item "route" = .ok (.str route.value))
    (hcheck : checkCommitments cassette
      (buildEmploymentWorld seed placeholderDataFirstRulePack) = .ok ()) :
    cassetteKernel observe cassette runSuffix =
      .ok { runId := "RUN-" ++ arm.value ++ "-" ++ route.value ++ "-" ++ seed ++ "-" ++ runSuffix
            bundle := buildEmploymentWorld seed placeholderDataFirstRulePack
            arm := arm
            route := route } := by
  unfold cassetteKernel
  rw [textOf_of_item hseed, textOf_of_item harm, textOf_of_item hroute]
  simp only [ok_bind, Arm.ofText_value, Route.ofText_value, hcheck]
  rfl

/-! ## A cassette with a rejected transition -/

/-- A cassette over the world of the seed `alpha`. -/
def alphaCassette (attempts : List Json) : Json :=
  .dict
    [("seed", .str "alpha"), ("arm", .str Arm.traditional.value),
     ("route", .str Route.earlySettlement.value),
     ("rule_pack_hash", .str (digest placeholderDataFirstRulePack.toJson)),
     ("artifact_commitments", .list (employmentEvidence.map commitment)),
     ("attempts", .list attempts)]

/-- An attempt on the matter of that world. -/
def alphaAttempt (expected reason : String) (verb : Verb) (actorId roleId : String)
    (payload : List (String × Json)) : Json :=
  .dict
    [("expected", .str expected), ("reason", .str reason),
     ("command", .dict
       [("command_id", .str verb.name), ("verb", .str verb.name), ("actor_id", .str actorId),
        ("role_id", .str roleId), ("matter_id", .str alphaKernel.bundle.matter.matterId),
        ("payload", .dict payload)])]

/-- A lawyer releases a hold that is not there, and opens the matter without the authority. -/
def gateAttempts : List Json :=
  [alphaAttempt "accepted" "" .receiveReferral "intake_coordinator" "intake" [],
   alphaAttempt "accepted" "" .submitConflictResult "conflicts_analyst" "conflicts" [],
   alphaAttempt "denied" "transition_rejection" .recordLawyerGate "responsible_lawyer" "lawyer"
     [("gate", .str "budget_approval"), ("grants", .str "matter_opening")],
   alphaAttempt "denied" "missing_authority" .openMatter "responsible_lawyer" "lawyer" []]

/-- Nothing can be observed of a value that is not a scalar. -/
def unobserved : Json → PyObject :=
  fun _ => ⟨.error (.other "unobserved"), .error (.other "unobserved"),
    .error (.other "unobserved")⟩

/-- A cassette over that world is executed on the kernel of the walking skeleton. -/
theorem cassetteKernel_alpha (observe : Json → PyObject) (attempts : List Json) :
    cassetteKernel observe (alphaCassette attempts) "primary" = .ok alphaKernel := by
  have hid : "RUN-" ++ Arm.traditional.value ++ "-" ++ Route.earlySettlement.value ++ "-" ++
      "alpha" ++ "-" ++ "primary" = alphaKernel.runId := by decide +kernel
  have hseed : (alphaCassette attempts).item "seed" = .ok (.str "alpha") := rfl
  have harm : (alphaCassette attempts).item "arm" = .ok (.str Arm.traditional.value) := rfl
  have hroute : (alphaCassette attempts).item "route" =
      .ok (.str Route.earlySettlement.value) := rfl
  rw [cassetteKernel_ok "primary" hseed harm hroute (checkCommitments_ok rfl rfl), hid]
  rfl

/-- The execution of the attempts ends with one denial. -/
theorem gateAttempts_run : ∃ s commands, s.denials.length = 1 ∧ commands.length = 4 ∧
    executeSerializedCassette unobserved (alphaCassette gateAttempts) "primary" =
      .ok (alphaKernel, s, commands) := by
  have hloop : (match executeAttempts unobserved alphaKernel gateAttempts alphaKernel.initial [] with
      | .ok (s, commands) => s.denials.length = 1 && commands.length = 4
      | .error _ => false) = true := by
    decide +kernel
  generalize hrun : executeAttempts unobserved alphaKernel gateAttempts alphaKernel.initial [] = r
    at hloop
  cases r with
  | ok result =>
    obtain ⟨s, commands⟩ := result
    rw [Bool.and_eq_true, decide_eq_true_iff, decide_eq_true_iff] at hloop
    refine ⟨s, commands, hloop.1, hloop.2, ?_⟩
    have hitem : (alphaCassette gateAttempts).item "attempts" = .ok (.list gateAttempts) := rfl
    rw [executeSerializedCassette, cassetteKernel_alpha, hitem]
    simp only [ok_bind, Json.iter, hrun]
    rfl
  | error e => cases hloop

/-- A cassette with a denied attempt is executed. -/
theorem cassette_executed_alpha : ∃ s commands, s.denials.length = 1 ∧
    EachAttempt (alphaKernel.Executed unobserved) alphaKernel (alphaCassette gateAttempts) s
      commands := by
  obtain ⟨s, commands, hdenials, -, hrun⟩ := gateAttempts_run
  exact ⟨s, commands, hdenials, cassette_executed hrun⟩

/-- An execution can return although two attempts were denied as expected and there is one
denial. -/
theorem rejects_unrecorded :
    ¬ ∀ (observe : Json → PyObject) (cassette : Json) (runSuffix : String) (k : Kernel)
        (s : KernelState) (commands : List Command),
      executeSerializedCassette observe cassette runSuffix = .ok (k, s, commands) →
        EachAttempt (k.Faithful observe) k cassette s commands := by
  intro h
  obtain ⟨s, commands, hone, hfour, hrun⟩ := gateAttempts_run
  obtain ⟨entries, hentries, -, rfl, hall⟩ := h _ _ _ _ _ _ hrun
  have hattempts : ((alphaCassette gateAttempts).item "attempts" >>= Json.iter) =
    .ok gateAttempts := rfl
  cases hattempts.symm.trans hentries
  obtain ⟨c₁, c₂, c₃, c₄, rfl⟩ : ∃ c₁ c₂ c₃ c₄, commands = [c₁, c₂, c₃, c₄] := by
    match commands, hfour with
    | [c₁, c₂, c₃, c₄], _ => exact ⟨c₁, c₂, c₃, c₄, rfl⟩
  obtain ⟨-, -, hgate, hopen, -⟩ := hall
  obtain ⟨_, -, hdenied⟩ := hgate.denied (textOf_of_item rfl)
  obtain ⟨_, -, hdenied'⟩ := hopen.denied (textOf_of_item rfl)
  obtain ⟨d, -, -, hd⟩ := hdenied.denial
  obtain ⟨d', -, -, hd'⟩ := hdenied'.denial
  have hlength := congrArg List.length hd'
  rw [hd, List.length_append, List.length_append] at hlength
  have hfinal : (alphaKernel.run [c₁, c₂, c₃, c₄]).denials.length ≥ 2 :=
    hlength.symm ▸ Nat.le_add_left 2 _
  omega

end LawFirmDigitalTwin
