import LawFirmDigitalTwin.World
import LawFirmDigitalTwin.Evidence.Persona

/-!
# Persona snapshots

`compile_persona_snapshot` of `persona_state.py`, which puts a persona of `world.py` into a state on
a day. The snapshot keeps the prose of the persona, so the profiles stand here in full.
-/

namespace LawFirmDigitalTwin

open Raising

/-! ## Profiles in full -/

/-- `world.py` `PersonaProfile`, with the prose that the kernel does not read. -/
structure FullPersonaProfile extends PersonaProfile where
  syntheticBackground : String
  training : String
  organization : String
  goals : List String
  workingStyle : String

/-- `world.py` `build_personas`, with the prose. -/
def fullPersonaEntries : List (String × FullPersonaProfile) :=
  [("intake_coordinator",
    { intakeCoordinator with
      syntheticBackground := "claims-service and community-college administration experience"
      training := "intake, confidentiality, and matter-opening workflow"
      organization := "defense_firm"
      goals := ["capture the referral accurately", "avoid premature commitments"]
      workingStyle := "checklist-first and calmly responsive" }),
   ("conflicts_analyst",
    { conflictsAnalyst with
      syntheticBackground := "litigation-support and records-indexing experience"
      training := "conflicts systems, entity normalization, and escalation"
      organization := "defense_firm"
      goals := ["find entity relationships", "preserve uncertainty"]
      workingStyle := "structured, exact, and exception oriented" }),
   ("responsible_lawyer",
    { responsibleLawyer with
      syntheticBackground := "employment-defense practice with earlier public-sector service"
      training := "civil procedure, employment law, negotiation, and trial"
      organization := "defense_firm"
      goals := ["protect the insured", "honor carrier authority", "test adverse facts"]
      workingStyle := "theory-driven but evidence constrained" }),
   ("litigation_paralegal",
    { litigationParalegal with
      syntheticBackground := "ten years of civil-litigation operations"
      training := "preservation, collection, production, calendaring, and billing support"
      organization := "defense_firm"
      goals := ["maintain custody", "keep the team ahead of deadlines"]
      workingStyle := "sequence and exception focused" }),
   ("docketing_specialist",
    { docketingSpecialist with
      syntheticBackground := "court-operations and deadline-control experience"
      training := "rule-pack use, dual calculation, and verification"
      organization := "defense_firm"
      goals := ["calculate from admitted rules", "surface every assumption"]
      workingStyle := "dual-control and source-first" }),
   ("deadline_reviewer",
    { deadlineReviewer with
      syntheticBackground := "risk-control review and calendaring quality assurance"
      training := "independent deadline verification and exception escalation"
      organization := "defense_firm"
      goals := ["recalculate without anchoring", "reject unexplained differences"]
      workingStyle := "independent-input and comparison-last" }),
   ("hr_witness",
    { hrWitness with
      syntheticBackground := "generalist HR work in a fast-growing regional services company"
      training := "employee relations and benefits administration"
      organization := "synthetic_insured"
      goals := ["explain the process honestly", "avoid guessing"]
      workingStyle := "people-centered and interruption prone" }),
   ("manager_witness",
    { managerWitness with
      syntheticBackground := "field operations supervisor promoted from a technical trade"
      training := "safety, scheduling, and performance coaching"
      organization := "synthetic_insured"
      goals := ["keep operations staffed", "defend the decision"]
      workingStyle := "fast, practical, and mobile-first" }),
   ("claim_handler",
    { claimHandler with
      syntheticBackground := "multi-line commercial claims management"
      training := "coverage posture, reserves, guidelines, and litigation management"
      organization := "synthetic_carrier"
      goals := ["control covered spend", "receive candid exposure reporting"]
      workingStyle := "reserve and exception oriented" }),
   ("billing_specialist",
    { billingSpecialist with
      syntheticBackground := "legal billing and accounts-receivable operations"
      training := "time-entry review, invoice submission, appeals, and cash application"
      organization := "defense_firm"
      goals := ["submit supportable work", "reconcile every balance"]
      workingStyle := "ledger-first and variance focused" }),
   ("independent_expert",
    { independentExpert with
      syntheticBackground := "organizational-practices research and workplace investigations"
      training := "methods, source limitation, and opinion writing"
      organization := "independent_practice"
      goals := ["remain independent", "state limitations"]
      workingStyle := "method and source constrained" })]

def fullPersonas : PyDict FullPersonaProfile := .ofEntries fullPersonaEntries

/-! ## Compiling a snapshot -/

/-- `int(text, 16)` of a text in lower-case hexadecimal digits. -/
def hexNumber (text : String) : Nat :=
  text.toList.foldl
    (fun n c => 16 * n + if c.toNat < 58 then c.toNat - 48 else c.toNat - 87) 0

/-- `persona_state.py` `_bounded_band`. -/
def boundedBand (token : Nat) (bands : List String) : String :=
  bands.getD (token % bands.length) ""

/-- `persona_state.py` `_channel_habits`. -/
def channelHabits (profile : PersonaProfile) : List String :=
  match profile.roleId with
  | "lawyer" => ["email", "memo", "meeting_notes"]
  | "paralegal" => ["email", "task_list", "custody_log"]
  | "witness" => ["email", "meeting", "business_record"]
  | "carrier" => ["email", "claim_system_note"]
  | "billing" => ["billing_system", "email"]
  | "docketing" => ["docket_system", "email"]
  | "deadline_reviewer" => ["docket_system", "review_note"]
  | "expert" => ["report", "email"]
  | "intake" => ["intake_form", "email"]
  | "conflicts" => ["conflicts_system", "email"]
  | _ => ["email", "business_record"]

/-- The keyword arguments of `compile_persona_snapshot`. -/
structure SnapshotRequest where
  worldNamespace : String
  matterNamespace : String
  asOfDay : Int
  knowledgeFactIds : List String
  knowledgeAssertionIds : List String := []
  authorityIds : List String := []
  relationshipIds : List String := []
  revision : Int := 1
  priorStateHash : Option String := none

/-- The number the bands of a state are derived from. -/
def stateToken (profile : PersonaProfile) (r : SnapshotRequest) : Nat :=
  hexNumber (firstChars 8 (digest (.dict
    [("world_namespace", .str r.worldNamespace), ("matter_namespace", .str r.matterNamespace),
     ("actor_id", .str profile.actorId), ("as_of_day", .int r.asOfDay),
     ("revision", .int r.revision)])))

def workloadBand (token : Nat) : String :=
  boundedBand token ["low", "ordinary", "elevated", "high"]

def stressBand (token : Nat) : String :=
  boundedBand (token / 7) ["settled", "alert", "pressured", "strained"]

/-- The snapshot that `compile_persona_snapshot` validates. -/
def snapshotOf (profile : FullPersonaProfile) (r : SnapshotRequest) : PersonaStateSnapshot :=
  let workload := workloadBand (stateToken profile.toPersonaProfile r)
  { stateId := "PSTATE-" ++ firstChars 18 (digest (.dict
      [("world", .str r.worldNamespace), ("matter", .str r.matterNamespace),
       ("actor", .str profile.actorId), ("day", .int r.asOfDay), ("revision", .int r.revision)]))
    worldNamespace := r.worldNamespace
    matterNamespace := r.matterNamespace
    actorId := profile.actorId
    roleId := profile.roleId
    organization := profile.organization
    asOfDay := r.asOfDay
    revision := r.revision
    syntheticContext := profile.syntheticBackground
    trainingContext := profile.training
    activeGoals := profile.goals
    workingStyle := profile.workingStyle
    workloadBand := workload
    stressBand := stressBand (stateToken profile.toPersonaProfile r)
    attentionFocus := profile.workingStyle ++ "; current workload " ++ workload
    memoryMode :=
      [("encoding", profile.memory.encoding), ("retrieval", profile.memory.retrieval),
       ("confidence_calibration", profile.memory.confidenceCalibration),
       ("stress_effect", profile.memory.stressEffect)]
    voiceConstraints :=
      [("register", profile.voice.register), ("sentence_style", profile.voice.sentenceStyle),
       ("directness", profile.voice.directness), ("organization", profile.voice.organization),
       ("revision_habit", profile.voice.revisionHabit), ("signature", profile.voice.signature)]
    channelHabits := channelHabits profile.toPersonaProfile
    knowledgeFactIds := sorted r.knowledgeFactIds.toFinset
    knowledgeAssertionIds := sorted r.knowledgeAssertionIds.toFinset
    authorityIds := sorted r.authorityIds.toFinset
    relationshipIds := sorted r.relationshipIds.toFinset
    priorStateHash := r.priorStateHash }

/-- `persona_state.py` `compile_persona_snapshot`. -/
def compilePersonaSnapshot (profile : FullPersonaProfile) (r : SnapshotRequest) :
    Except ContractError PersonaStateSnapshot := do
  if r.worldNamespace = "" then throw ⟨"world_namespace_required", []⟩
  if r.matterNamespace = "" then throw ⟨"matter_namespace_required", []⟩
  if r.asOfDay < 0 then throw ⟨"as_of_day_invalid", []⟩
  if r.revision < 1 then throw ⟨"persona_revision_invalid", []⟩
  let snapshot := snapshotOf profile r
  let errors := validatePersonaSnapshot snapshot
  if errors ≠ [] then throw ⟨String.intercalate ";" errors, []⟩
  return snapshot

/-! ## What is compiled -/

/-- A sorted set has no repetition. -/
theorem length_eq_card_of_sorted {l : List String} {s : Finset String} (h : l = sorted s) :
    l.length = l.toFinset.card :=
  (List.toFinset_card_of_nodup (h ▸ nodup_sorted s)).symm

section
variable (profile : FullPersonaProfile) (r : SnapshotRequest)

@[simp] theorem snapshotOf_knowledgeFactIds :
    (snapshotOf profile r).knowledgeFactIds = sorted r.knowledgeFactIds.toFinset := rfl

@[simp] theorem snapshotOf_knowledgeAssertionIds :
    (snapshotOf profile r).knowledgeAssertionIds = sorted r.knowledgeAssertionIds.toFinset := rfl

@[simp] theorem snapshotOf_relationshipIds :
    (snapshotOf profile r).relationshipIds = sorted r.relationshipIds.toFinset := rfl

end

/-- What `compile_persona_snapshot` asks of its arguments. -/
structure SnapshotRequest.Allowed (r : SnapshotRequest) : Prop where
  world : r.worldNamespace ≠ ""
  matter : r.matterNamespace ≠ ""
  day : 0 ≤ r.asOfDay
  revision : 1 ≤ r.revision

/-- A snapshot of allowed arguments validates. -/
theorem validatePersonaSnapshot_snapshotOf (profile : FullPersonaProfile) {r : SnapshotRequest}
    (h : r.Allowed) : validatePersonaSnapshot (snapshotOf profile r) = [] := by
  have hday : ¬ r.asOfDay < 0 := not_lt.2 h.day
  have hrevision : ¬ r.revision < 1 := not_lt.2 h.revision
  simp only [validatePersonaSnapshot, errorsIf_eq_nil, List.forall_mem_cons, List.not_mem_nil,
    false_implies, implies_true, and_true, decide_eq_false_iff_not, not_not, not_or]
  exact ⟨h.world, h.matter, hday, hrevision,
    length_eq_card_of_sorted (snapshotOf_knowledgeFactIds profile r),
    length_eq_card_of_sorted (snapshotOf_knowledgeAssertionIds profile r),
    length_eq_card_of_sorted (snapshotOf_relationshipIds profile r), rfl, rfl,
    ⟨List.cons_ne_nil _ _, List.cons_ne_nil _ _⟩, rfl⟩

/-- An allowed request is compiled to its snapshot. -/
theorem compilePersonaSnapshot_eq_ok {profile : FullPersonaProfile} {r : SnapshotRequest}
    {s : PersonaStateSnapshot} :
    compilePersonaSnapshot profile r = .ok s ↔ r.Allowed ∧ s = snapshotOf profile r := by
  unfold compilePersonaSnapshot
  simp only [except_throw_if_eq_ok, ne_eq, not_not, not_lt]
  constructor
  · rintro ⟨hworld, hmatter, hday, hrevision, -, h⟩
    exact ⟨⟨hworld, hmatter, hday, hrevision⟩, (Except.ok.inj h).symm⟩
  · rintro ⟨h, rfl⟩
    exact ⟨h.world, h.matter, h.day, h.revision, validatePersonaSnapshot_snapshotOf profile h, rfl⟩

end LawFirmDigitalTwin
