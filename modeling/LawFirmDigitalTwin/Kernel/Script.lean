import LawFirmDigitalTwin.Berean.Vetted
import LawFirmDigitalTwin.Kernel.Attempts
import LawFirmDigitalTwin.Kernel.Renaming

/-!
# The script of the walking skeleton

The attempts of `_build_serialized_cassette` in `g2.py`, made for a seed, an arm and a route. A seed
enters them in the identifiers of the matter alone, so that they turn out as on a template, which is
evaluated for each arm and route (`template_followsScript`): as expected, on the kernel of every
seed (`cassetteAttempts_followed`).
-/

namespace LawFirmDigitalTwin

open Raising

/-- The attempts of `_build_serialized_cassette`. -/
def cassetteAttempts (b : WorldBundle) (arm : Arm) (route : Route) :
    Except PyError (List Attempt) := do
  let commands ← workflowCommands b arm route
  let prematureOpen ← mkCommand 90 .openMatter b "responsible_lawyer"
    [("probe", .str "must_be_denied_before_consent")] ["matter_opening"] ["referral_summary"]
    "authority-probe"
  let oracleProbe ← mkCommand 99 .readOracle b "responsible_lawyer" [] ["legal_work"]
    ["initial_record"] "oracle-probe"
  return (commands.take 2).map (⟨·, none⟩) ++ ⟨prematureOpen, some .missingAuthority⟩ ::
    (commands.drop 2).map (⟨·, none⟩) ++ [⟨oracleProbe, some .oracleBoundary⟩]

/-! ## The script of two seeds -/

@[simp] theorem writableInt_zero : writableInt 0 = true := by decide

section
variable {k k' : Kernel}

/-- A command of the script, addressed to the matters of two kernels. -/
def Rescripted (k k' : Kernel) (c c' : Command) : Prop := Readdressed k k' c c' ∧ c'.Plain

/-- A command whose arguments are scalars is plain. -/
theorem plain_of_scalar {payload : List (String × PyValue)}
    (h : ∀ e ∈ payload, e.2.IsScalar) {c : Command} (hc : c.payload = .ofEntries payload) :
    c.Plain := by
  intro key v hv
  rw [hc] at hv
  exact h _ (PyDict.mem_of_get?_ofEntries hv)

/-- The payload of a plain command can be written. -/
theorem Command.Plain.writable {c : Command} (h : c.Plain) : c.payload.Writable :=
  fun key v hv => (h key v hv).writable

/-- What the deadlines of a script depend on is the rule pack. -/
theorem Rescripted.writableFor {c c' : Command} (h : Rescripted k k' c c')
    (hrulePack : k'.bundle.matter.rulePack = k.bundle.matter.rulePack) (hw : c.WritableFor k) :
    c'.WritableFor k' := by
  obtain ⟨haddressed, hplain⟩ := h
  refine ⟨hplain.writable, fun hverb day hday => ?_⟩
  have hsame : c'.verb = c.verb := by rw [haddressed.same]
  rw [hsame] at hverb
  rw [hrulePack]
  refine hw.2 hverb day ?_
  rcases haddressed.payload with hpayload | ⟨hreferral, -⟩
  · unfold Command.filedDay at hday ⊢
    rwa [hpayload] at hday
  · rw [hreferral] at hverb
    exact absurd hverb (by decide)

/-- `_command` on the bundles of two kernels with the same actors. -/
theorem mkCommand_rescripted (hactors : k'.bundle.matter.actors = k.bundle.matter.actors)
    (index : Nat) (verb : Verb) (actorId : String) {payload payload' : List (String × PyValue)}
    (authority knowledge : List String) (suffix : String)
    (hsame : payload' = payload ∨ verb = .receiveReferral) (h : ∀ e ∈ payload, e.2.IsScalar)
    (h' : ∀ e ∈ payload', e.2.IsScalar) :
    ExceptRel (Rescripted k k')
      (mkCommand index verb k.bundle actorId payload authority knowledge suffix)
      (mkCommand index verb k'.bundle actorId payload' authority knowledge suffix) := by
  unfold mkCommand
  rw [hactors]
  cases k.bundle.matter.actors.getItem actorId with
  | error e => exact .error e
  | ok profile =>
    refine .ok ⟨⟨rfl, rfl, rfl, ?_⟩, plain_of_scalar h' rfl⟩
    rcases hsame with rfl | rfl
    · exact .inl rfl
    · exact .inr ⟨rfl, (plain_of_scalar h rfl).writable, (plain_of_scalar h' rfl).writable⟩

/-- The workflow of a bundle with the same actors, rescripted. -/
theorem workflowCommands_rescripted (hactors : k'.bundle.matter.actors = k.bundle.matter.actors)
    (arm : Arm) (route : Route) :
    ExceptRel (List.Forall₂ (Rescripted k k')) (workflowCommands k.bundle arm route)
      (workflowCommands k'.bundle arm route) := by
  have hcommand (index : Nat) (verb : Verb) (actorId : String) (payload : List (String × PyValue))
      (authority knowledge : List String) (suffix : String) (h : ∀ e ∈ payload, e.2.IsScalar) :=
    mkCommand_rescripted hactors index verb actorId authority knowledge suffix (.inl rfl) h h
  unfold workflowCommands
  obtain ⟨first, second, reduction⟩ := arm.amounts
  refine (ExceptRel.refl arm.payment).bind fun payment _ hpayment => ?_
  cases hpayment
  refine (mkCommand_rescripted hactors 1 .receiveReferral "intake_coordinator" ["receive_referral"]
    ["referral_summary"] "" (.inr rfl) (by simp [PyValue.IsScalar])
    (by simp [PyValue.IsScalar])).bind fun c₁ c₁' h₁ => ?_
  repeat refine ExceptRel.bind (hcommand _ _ _ _ _ _ _ (by simp [PyValue.IsScalar])) fun c c' h => ?_
  refine .ok ?_
  repeat refine .cons (by assumption) ?_
  exact .nil

/-- The attempts of a bundle with the same actors, rescripted. -/
theorem cassetteAttempts_rescripted (hactors : k'.bundle.matter.actors = k.bundle.matter.actors)
    (arm : Arm) (route : Route) :
    ExceptRel
      (List.Forall₂ fun a a' => Rescripted k k' a.command a'.command ∧ a'.denied = a.denied)
      (cassetteAttempts k.bundle arm route) (cassetteAttempts k'.bundle arm route) := by
  have haccepted {cs cs' : List Command} (h : List.Forall₂ (Rescripted k k') cs cs') :
      List.Forall₂ (fun a a' : Attempt => Rescripted k k' a.command a'.command ∧ a'.denied = a.denied)
        (cs.map (⟨·, none⟩)) (cs'.map (⟨·, none⟩)) :=
    List.forall₂_map_left_iff.2 (List.forall₂_map_right_iff.2 (h.imp fun _ _ h => ⟨h, rfl⟩))
  unfold cassetteAttempts
  refine (workflowCommands_rescripted hactors arm route).bind fun cs cs' hcs => ?_
  refine (mkCommand_rescripted hactors _ _ _ _ _ _ (.inl rfl) (by simp [PyValue.IsScalar])
    (by simp [PyValue.IsScalar])).bind fun c c' hc => ?_
  refine (mkCommand_rescripted hactors _ _ _ _ _ _ (.inl rfl) (by simp) (by simp)).bind
    fun d d' hd => .ok ?_
  refine List.rel_append (List.rel_append (haccepted (List.forall₂_take 2 hcs)) ?_) ?_
  · exact .cons ⟨hc, rfl⟩ (haccepted (List.forall₂_drop 2 hcs))
  · exact .cons ⟨hd, rfl⟩ .nil

end

/-! ## The script on a template -/

/-- The employment world with its identifiers and its target posture written out. -/
def templateBundle : WorldBundle :=
  let b := buildEmploymentWorld "alpha" placeholderDataFirstRulePack
  { matter := { b.matter with matterId := "MATTER", referralId := "REF" }
    sealed := { b.sealed with targetPosture := "balanced" } }

/-- A kernel over that world. -/
def template (arm : Arm) (route : Route) : Kernel where
  runId := "RUN"
  bundle := templateBundle
  arm := arm
  route := route

/-- The work that an arm records. -/
def Arm.work : Arm → String
  | .traditional => "900.00"
  | .aiFirst => "700.00"

/-- What the script leads to. -/
structure Scripted (k : Kernel) (s : KernelState) : Prop where
  events : s.events.length = 21
  denials : s.denials.map (fun d => (d.reason, d.missing)) =
    [(.missingAuthority, ["matter_opening"]), (.oracleBoundary, ["sealed_world"])]
  closed : s.projection.closed = true
  holds : s.projection.authorityHolds = ∅
  attempts : s.projection.oracleAccessAttempts = 1
  reads : s.projection.acceptedOracleReads = 0
  deadlines : (deadlineFinding k s).status = "pass"
  errors : s.projection.finance.invariantErrors = .ok []
  appealed : Amount.lt Amount.zero s.projection.finance.appealRecovery = .ok true
  paid : Amount.eq s.projection.finance.accountsReceivable Amount.zero = .ok true
  work : s.projection.finance.work.toText = k.arm.work

instance decidableScripted (k : Kernel) (s : KernelState) : Decidable (Scripted k s) :=
  decidable_of_iff
    (s.events.length = 21 ∧
      s.denials.map (fun d => (d.reason, d.missing)) =
        [(.missingAuthority, ["matter_opening"]), (.oracleBoundary, ["sealed_world"])] ∧
      s.projection.closed = true ∧ s.projection.authorityHolds = ∅ ∧
      s.projection.oracleAccessAttempts = 1 ∧ s.projection.acceptedOracleReads = 0 ∧
      (deadlineFinding k s).status = "pass" ∧ s.projection.finance.invariantErrors = .ok [] ∧
      Amount.lt Amount.zero s.projection.finance.appealRecovery = .ok true ∧
      Amount.eq s.projection.finance.accountsReceivable Amount.zero = .ok true ∧
      s.projection.finance.work.toText = k.arm.work)
    ⟨fun ⟨h₁, h₂, h₃, h₄, h₅, h₆, h₇, h₈, h₉, h₁₀, h₁₁⟩ =>
      ⟨h₁, h₂, h₃, h₄, h₅, h₆, h₇, h₈, h₉, h₁₀, h₁₁⟩,
     fun ⟨h₁, h₂, h₃, h₄, h₅, h₆, h₇, h₈, h₉, h₁₀, h₁₁⟩ =>
      ⟨h₁, h₂, h₃, h₄, h₅, h₆, h₇, h₈, h₉, h₁₀, h₁₁⟩⟩

/-- The verbs of commands that preserve once, after seven that touch no evidence. -/
def preservesOnce (verbs : List String) : Bool :=
  verbs[7]?.isSome && (verbs.take 7).all (· ∉ evidenceVerbs.map Verb.name) &&
    (verbs.drop 8).all (· ≠ Verb.issuePreservation.name)

/-- The attempts can be written, turn out as expected and lead where the script should. -/
def followsScript (k : Kernel) (as : List Attempt) : Bool :=
  allAsExpected k k.initial as && preservesOnce (as.map (·.command.verb)) &&
    decide (∀ a ∈ as, a.command.WritableFor k) && decide (Scripted k (k.run (as.map (·.command))))

/-- On each arm and route the template follows its script. -/
theorem template_followsScript (arm : Arm) (route : Route) :
    ∃ as, cassetteAttempts (template arm route).bundle arm route = .ok as ∧
      followsScript (template arm route) as = true := by
  have hall : (match cassetteAttempts (template arm route).bundle arm route with
      | .ok as => followsScript (template arm route) as
      | .error _ => false) = true := by
    cases arm <;> cases route <;> decide +kernel
  cases has : cassetteAttempts (template arm route).bundle arm route with
  | error e => rw [has] at hall; cases hall
  | ok as => rw [has] at hall; exact ⟨as, rfl, hall⟩

/-! ## Replicas -/

/-- Two events of one call. -/
structure SameCall (e e' : Event) : Prop where
  eventType : e'.eventType = e.eventType
  commandId : e'.commandId = e.commandId
  actorId : e'.actorId = e.actorId
  simulatedAt : e'.simulatedAt = e.simulatedAt

/-- States that agree up to what the identifiers, the posture and the arm determine. -/
structure Replica (s s' : KernelState) : Prop where
  events : List.Forall₂ SameCall s.events s'.events
  denials : s'.denials = s.denials
  projection : s'.projection = { s.projection with
    resolutionOutcome := s'.projection.resolutionOutcome
    timeEntries := s'.projection.timeEntries }

section
variable {k k' : Kernel} {s s' : KernelState}

/-- Events that are alike record the same call. -/
theorem EventAlike.sameCall {e e' : Event} (h : EventAlike e e') : SameCall e e' :=
  ⟨by rw [h.same], by rw [h.same], by rw [h.same], by rw [h.same]⟩

/-- Twin events record the same call. -/
theorem EventTwins.sameCall {e e' : Event} (h : EventTwins k k' e e') : SameCall e e' :=
  ⟨by rw [h.same], by rw [h.same], by rw [h.same], by rw [h.same]⟩

/-- Events of the same call as a third one. -/
theorem SameCall.trans {e₁ e₂ e₃ : Event} (h : SameCall e₁ e₂) (h' : SameCall e₂ e₃) :
    SameCall e₁ e₃ :=
  ⟨h'.eventType.trans h.eventType, h'.commandId.trans h.commandId, h'.actorId.trans h.actorId,
    h'.simulatedAt.trans h.simulatedAt⟩

/-- Twins are replicas. -/
theorem Twins.replica (h : Twins k k' s s') : Replica s s' := by
  refine ⟨h.events.imp fun _ _ he => he.sameCall, h.denials, ?_⟩
  have hp := h.projection
  generalize s'.projection = p' at hp
  cases hp
  rfl

/-- A replica of which only the events are written otherwise. -/
theorem Replica.beside {s₁ : KernelState} (h : Replica s s₁)
    (h' : Beside (List.Forall₂ EventAlike) s₁ s') : Replica s s' := by
  obtain ⟨es, hes⟩ := h'
  refine ⟨?_, h.denials, h.projection⟩
  have hcalls := h.events
  clear h
  generalize s.events = es₀ at hcalls
  generalize s₁.events = es₁ at hcalls hes
  dsimp only
  induction hcalls generalizing es with
  | nil => cases hes; exact .nil
  | cons h _ ih =>
    cases hes with
    | cons h' hes => exact .cons (h.trans h'.sameCall) (ih _ hes)

/-- The events of a verb, of both. -/
theorem acceptedEvents_sameCall {es es' : List Event} (h : List.Forall₂ SameCall es es') (v : Verb) :
    List.Forall₂ SameCall (acceptedEvents es v) (acceptedEvents es' v) := by
  unfold acceptedEvents
  induction h with
  | nil => exact .nil
  | cons he _ ih =>
    rw [List.filter_cons, List.filter_cons, he.eventType]
    split
    · exact .cons he ih
    · exact ih

/-- The check of the deadlines sees the calls only. -/
theorem independentDeadlineOk_sameCall {es es' : List Event} (h : List.Forall₂ SameCall es es')
    (deadlineAudit : PyDict String) :
    independentDeadlineOk es' deadlineAudit = independentDeadlineOk es deadlineAudit := by
  have hcalculators := acceptedEvents_sameCall h .calculateDeadlines
  have hverifiers := acceptedEvents_sameCall h .verifyDeadlines
  unfold independentDeadlineOk
  generalize acceptedEvents es .calculateDeadlines = xs at hcalculators
  generalize acceptedEvents es' .calculateDeadlines = xs' at hcalculators
  generalize acceptedEvents es .verifyDeadlines = ys at hverifiers
  generalize acceptedEvents es' .verifyDeadlines = ys' at hverifiers
  cases hcalculators with
  | nil => rfl
  | cons hx _ =>
    cases hverifiers with
    | nil => rfl
    | cons hy _ =>
      dsimp only
      rw [hx.actorId, hy.actorId]

/-- A replica of the scripted state, for the same arm, is what the script leads to. -/
theorem Scripted.replica (h : Scripted k s) (hs : Replica s s')
    (hrulePack : k'.bundle.matter.rulePack = k.bundle.matter.rulePack) (harm : k'.arm = k.arm) :
    Scripted k' s' := by
  have hdeadlines : (deadlineFinding k' s').status = (deadlineFinding k s).status := by
    unfold deadlineFinding auditCheck
    rw [hs.projection, hrulePack]
    dsimp only
    rw [independentDeadlineOk_sameCall hs.events]
  refine ⟨hs.events.length_eq.symm.trans h.events, by rw [hs.denials]; exact h.denials, ?_, ?_, ?_,
    ?_, hdeadlines.trans h.deadlines, ?_, ?_, ?_, ?_⟩
  all_goals rw [hs.projection]
  · exact h.closed
  · exact h.holds
  · exact h.attempts
  · exact h.reads
  · exact h.errors
  · exact h.appealed
  · exact h.paid
  · rw [harm]
    exact h.work

end

/-! ## Every seed -/

section
variable (seed : String) (arm : Arm) (route : Route) (runSuffix : String)

/-- The kernel a built cassette is executed on. -/
def skeletonKernel : Kernel where
  runId := "RUN-" ++ arm.value ++ "-" ++ route.value ++ "-" ++ seed ++ "-" ++ runSuffix
  bundle := buildEmploymentWorld seed placeholderDataFirstRulePack
  arm := arm
  route := route

/-- The template, over what the world of a seed seals. -/
def sealedTemplate : Kernel :=
  { template arm route with bundle :=
    { matter := templateBundle.matter
      sealed := (buildEmploymentWorld seed placeholderDataFirstRulePack).sealed } }

/-- The template is paired with the one that has the seed's sealed part. -/
theorem paired_sealedTemplate : Paired (template arm route) (sealedTemplate seed arm route) :=
  ⟨rfl, rfl, rfl, rfl, .inr ⟨show "balanced" ∈ targetPostures by decide, targetOf_mem seed⟩⟩

/-- The kernel of a seed is that template renamed. -/
theorem renamed_skeletonKernel :
    Renamed (sealedTemplate seed arm route) (skeletonKernel seed arm route runSuffix) :=
  ⟨rfl, rfl, rfl, rfl, rfl, rfl, rfl, rfl⟩

end

/-- The attempts are made of the matter. -/
theorem cassetteAttempts_matter (matter : SyntheticMatter) (sealed₁ sealed₂ : SealedWorld) (arm : Arm)
    (route : Route) :
    cassetteAttempts ⟨matter, sealed₁⟩ arm route = cassetteAttempts ⟨matter, sealed₂⟩ arm route :=
  rfl

/-- What is known of the attempts of a cassette, and of the state they lead to. -/
structure Followed (k : Kernel) (as : List Attempt) : Prop where
  expected : allAsExpected k k.initial as = true
  once : preservesOnce (as.map (·.command.verb)) = true
  writable : ∀ a ∈ as, a.command.WritableFor k
  scripted : Scripted k (k.run (as.map (·.command)))

section
variable {k k' k₁ : Kernel} {as as' : List Attempt}

/-- A script that passes the check is followed. -/
theorem followed_of_followsScript (h : followsScript k as = true) : Followed k as := by
  unfold followsScript at h
  simp only [Bool.and_eq_true, decide_eq_true_iff] at h
  obtain ⟨⟨⟨hexpected, honce⟩, hwritable⟩, hscripted⟩ := h
  exact ⟨hexpected, honce, hwritable, hscripted⟩

/-- What is followed on one kernel is followed on others that read the same of a renamed matter. -/
theorem Followed.rescripted (h : Followed k as) (hpaired : Paired k k₁) (hrenamed : Renamed k₁ k')
    (harm : k'.arm = k.arm)
    (has : List.Forall₂ (fun a a' => Rescripted k₁ k' a.command a'.command ∧ a'.denied = a.denied)
      as as') :
    Followed k' as' := by
  have hsame : allAsExpected k₁ k₁.initial as = allAsExpected k k.initial as :=
    allAsExpected_of_related (Q := Eq) (fun c c' hc => by subst hc; exact related_submit hpaired c)
      (fun _ _ hs => hs.denials) (twins_initial hpaired) (List.forall₂_same.2 fun _ _ => ⟨rfl, rfl⟩)
  have hother : allAsExpected k' k'.initial as' = allAsExpected k₁ k₁.initial as := by
    refine allAsExpected_of_related (Q := Readdressed k₁ k')
      (fun c c' hc => readdressed_submit hrenamed hc) (fun _ _ hs => ?_) (beside_initial hrenamed)
      (has.imp fun _ _ h => ⟨h.1.1, h.2⟩)
    obtain ⟨es, -⟩ := hs
    rfl
  have hcommands : List.Forall₂ (Readdressed k₁ k') (as.map (·.command)) (as'.map (·.command)) :=
    List.forall₂_map_left_iff.2 (List.forall₂_map_right_iff.2 (has.imp fun _ _ h => h.1.1))
  have hverbs : as'.map (·.command.verb) = as.map (·.command.verb) := by
    clear hsame hother hcommands h
    induction has with
    | nil => rfl
    | cons h _ ih => rw [List.map_cons, List.map_cons, ih, h.1.1.same]
  have hwritable : ∀ a' ∈ as', a'.command.WritableFor k' := by
    have hw := h.writable
    clear hsame hother hcommands hverbs h
    induction has with
    | nil => exact nofun
    | cons ha _ ih =>
      rw [List.forall_mem_cons] at hw
      have hk₁ := hw.1
      refine List.forall_mem_cons.2 ⟨ha.1.writableFor hrenamed.rulePack ?_, ih hw.2⟩
      unfold Command.WritableFor Kernel.WritesDeadlines at hk₁ ⊢
      rwa [hpaired.matter]
  refine ⟨(hother.trans hsame).trans h.expected, by rw [hverbs]; exact h.once, hwritable, ?_⟩
  have hreplica : Replica (k.run (as.map (·.command))) (k'.run (as'.map (·.command))) :=
    (twins_run hpaired _).1.replica.beside (renamed_run hrenamed hcommands).1
  refine h.scripted.replica hreplica ?_ harm
  rw [hrenamed.rulePack, hpaired.matter]

end

/-- **The script does not depend on the seed**: the attempts of every cassette turn out as expected,
whatever the run is called, and lead where those on the template lead. -/
theorem cassetteAttempts_followed (seed : String) (arm : Arm) (route : Route) :
    ∃ as, cassetteAttempts (buildEmploymentWorld seed placeholderDataFirstRulePack) arm route = .ok as ∧
      (∀ a ∈ as, a.command.Plain) ∧
      ∀ runSuffix, Followed (skeletonKernel seed arm route runSuffix) as := by
  obtain ⟨as₀, has₀, hfollows⟩ := template_followsScript arm route
  have hsealed : cassetteAttempts (sealedTemplate seed arm route).bundle arm route = .ok as₀ :=
    (cassetteAttempts_matter _ _ _ arm route).trans has₀
  have hrescripted (runSuffix : String) := cassetteAttempts_rescripted
    (renamed_skeletonKernel seed arm route runSuffix).actors arm route
  simp only [hsealed] at hrescripted
  obtain ⟨as, has, hall⟩ := (hrescripted "").exists_ok
  refine ⟨as, has, ?_, fun runSuffix => ?_⟩
  · clear has has₀ hsealed hfollows hrescripted
    induction hall with
    | nil => exact List.forall_mem_nil _
    | cons h _ ih => exact List.forall_mem_cons.2 ⟨h.1.2, ih⟩
  · obtain ⟨as', has', hall'⟩ := (hrescripted runSuffix).exists_ok
    cases has.symm.trans has'
    exact (followed_of_followsScript hfollows).rescripted (paired_sealedTemplate seed arm route)
      (renamed_skeletonKernel seed arm route runSuffix) rfl hall'

end LawFirmDigitalTwin
