import LawFirmDigitalTwin.Models

/-!
# The synthetic world

`world.py`: personas, evidence artifacts, the sealed world and the bundle that
`build_employment_world` makes of them. The prose of a persona (background, training, goals,
working style) is left out; nothing reads it. The last section states what the kernel's guarantees
rest on, as a structure (`EmploymentBundle`), and proves it of every bundle that is built.
-/

namespace LawFirmDigitalTwin

/-- `world.py` `VoiceProfile`. -/
structure VoiceProfile where
  register : String
  sentenceStyle : String
  directness : String
  organization : String
  revisionHabit : String
  signature : String

/-- `world.py` `MemoryProfile`. -/
structure MemoryProfile where
  encoding : String
  retrieval : String
  confidenceCalibration : String
  stressEffect : String

/-- `world.py` `PersonaProfile`. -/
structure PersonaProfile where
  actorId : String
  roleId : String
  voice : VoiceProfile
  memory : MemoryProfile
  initialKnowledge : List String
  initialAuthority : List String

/-- `world.py` `FactClaim`. -/
structure FactClaim where
  factId : String
  value : String

def FactClaim.toJson (c : FactClaim) : Json :=
  .dict [("fact_id", .str c.factId), ("value", .str c.value)]

/-- `world.py` `CustodyStep`; the steps the kernel adds have the same four fields. -/
structure CustodyStep where
  action : String
  actorId : String
  simulatedDay : Int
  objectHash : String
  deriving DecidableEq

/-- `world.py` `EvidenceArtifact`. -/
structure EvidenceArtifact where
  artifactId : String
  family : String
  title : String
  authorId : String
  recipients : List String
  createdDay : Int
  content : String
  claims : List FactClaim
  voiceSignature : String
  responsive : Bool
  privileged : Bool
  initiallyVisible : Bool
  nativeFormat : String
  metadata : List (String × String)
  custody : List CustodyStep

/-- The commitment of an artifact's content, which both `EvidenceArtifact.content_hash` and
`_artifact` compute. -/
def contentDigest (artifactId family authorId : String) (createdDay : Int) (content : String)
    (claims : List FactClaim) (metadata : List (String × String)) : String :=
  digest (.dict
    [("artifact_id", .str artifactId), ("family", .str family), ("author_id", .str authorId),
     ("created_day", .int createdDay), ("content", .str content),
     ("claims", .list (claims.map FactClaim.toJson)),
     ("metadata", .list (metadata.map fun e => .strs [e.1, e.2]))])

/-- `EvidenceArtifact.content_hash`. -/
def EvidenceArtifact.contentHash (a : EvidenceArtifact) : String :=
  contentDigest a.artifactId a.family a.authorId a.createdDay a.content a.claims a.metadata

/-- `world.py` `DeclaredConflict`. -/
structure DeclaredConflict where
  conflictId : String
  factId : String
  artifactIds : List String
  designPurpose : String

def DeclaredConflict.toJson (c : DeclaredConflict) : Json :=
  .dict
    [("conflict_id", .str c.conflictId), ("fact_id", .str c.factId),
     ("artifact_ids", .strs c.artifactIds), ("design_purpose", .str c.designPurpose)]

/-- `world.py` `SealedWorld`. -/
structure SealedWorld where
  truth : List FactClaim
  declaredConflicts : List DeclaredConflict
  witnessFactFrontier : List String
  expertAuthorizedArtifacts : List String
  targetPosture : String
  targetStrength : Int

/-- `SealedWorld.commitment_hash`. -/
def SealedWorld.commitmentHash (w : SealedWorld) : String :=
  digest (.dict
    [("truth", .list (w.truth.map FactClaim.toJson)),
     ("declared_conflicts", .list (w.declaredConflicts.map DeclaredConflict.toJson)),
     ("witness_fact_frontier", .strs w.witnessFactFrontier),
     ("expert_authorized_artifacts", .strs w.expertAuthorizedArtifacts),
     ("target_posture", .str w.targetPosture), ("target_strength", .int w.targetStrength)])

/-- `world.py` `SyntheticMatter`. -/
structure SyntheticMatter where
  matterId : String
  worldId : String
  referralId : String
  caseType : String
  rulePack : RulePack
  hiddenTruthHash : String
  operatingRecordHash : String
  oracleCommitmentHash : String
  actors : PyDict PersonaProfile
  evidenceInventory : List EvidenceArtifact
  initialRecordIds : List String
  facts : Json

/-- `world.py` `WorldBundle`. -/
structure WorldBundle where
  matter : SyntheticMatter
  sealed : SealedWorld

/-! ## Personas -/

/-- `world.py` `_voice`. -/
def mkVoice (register sentenceStyle directness organization revisionHabit : String) :
    VoiceProfile where
  register := register
  sentenceStyle := sentenceStyle
  directness := directness
  organization := organization
  revisionHabit := revisionHabit
  signature := firstChars 16 (digest (.dict
    [("register", .str register), ("sentence_style", .str sentenceStyle),
     ("directness", .str directness), ("organization", .str organization),
     ("revision_habit", .str revisionHabit)]))

def intakeCoordinator : PersonaProfile where
  actorId := "intake_coordinator"
  roleId := "intake"
  voice := mkVoice "professional-warm" "short complete sentences" "moderate"
    "chronological" "re-reads names and dates"
  memory := ⟨"source-anchored", "recognition-led", "well calibrated",
    "narrows attention to required fields"⟩
  initialKnowledge := ["referral_summary"]
  initialAuthority := ["receive_referral"]

def conflictsAnalyst : PersonaProfile where
  actorId := "conflicts_analyst"
  roleId := "conflicts"
  voice := mkVoice "formal-operational" "fragments plus tables" "high"
    "entity-by-entity" "adds qualifiers instead of deleting"
  memory := ⟨"categorical", "index-cued", "conservative",
    "double-checks ambiguous affiliates"⟩
  initialKnowledge := []
  initialAuthority := []

def responsibleLawyer : PersonaProfile where
  actorId := "responsible_lawyer"
  roleId := "lawyer"
  voice := mkVoice "legal-analytic" "mixed short conclusions and longer reasoning" "high"
    "issue-rule-evidence-action" "revises categorical language"
  memory := ⟨"conceptual", "issue-cued", "moderately calibrated",
    "under pressure remembers themes before dates"⟩
  initialKnowledge := ["referral_summary"]
  initialAuthority := []

def litigationParalegal : PersonaProfile where
  actorId := "litigation_paralegal"
  roleId := "paralegal"
  voice := mkVoice "operational-precise" "compact bullets" "high"
    "date then task then owner" "keeps visible correction history"
  memory := ⟨"sequence-rich", "timeline-cued", "highly calibrated",
    "uses external checklists"⟩
  initialKnowledge := []
  initialAuthority := []

def docketingSpecialist : PersonaProfile where
  actorId := "docketing_specialist"
  roleId := "docketing"
  voice := mkVoice "technical-formal" "numbered calculations" "high"
    "source-input-calculation-review" "never overwrites prior calculation"
  memory := ⟨"rule-linked", "citation-cued", "highly calibrated",
    "stops when source status is uncertain"⟩
  initialKnowledge := []
  initialAuthority := []

def deadlineReviewer : PersonaProfile where
  actorId := "deadline_reviewer"
  roleId := "deadline_reviewer"
  voice := mkVoice "audit-formal" "input and result pairs" "high"
    "source-recalculation-variance" "records a new version for corrections"
  memory := ⟨"rule-linked", "independent worksheet-cued", "highly calibrated",
    "does not inspect the first result until complete"⟩
  initialKnowledge := []
  initialAuthority := []

def hrWitness : PersonaProfile where
  actorId := "hr_witness"
  roleId := "witness"
  voice := mkVoice "business-conversational" "contextual sentences" "moderate"
    "people then events" "softens conclusions after review"
  memory := ⟨"gist-strong", "person-cued", "variable",
    "loses peripheral date precision"⟩
  initialKnowledge := ["hr_note", "policy", "employee_report", "hr_email"]
  initialAuthority := []

def managerWitness : PersonaProfile where
  actorId := "manager_witness"
  roleId := "manager"
  voice := mkVoice "plain-direct" "short mobile fragments" "very high"
    "bottom line first" "rarely edits sent messages"
  memory := ⟨"action-centered", "place-cued", "overconfident on sequence",
    "compresses nearby events"⟩
  initialKnowledge := ["manager_email", "attendance", "manager_calendar"]
  initialAuthority := []

def claimHandler : PersonaProfile where
  actorId := "claim_handler"
  roleId := "carrier"
  voice := mkVoice "claims-formal" "compressed paragraphs" "high"
    "coverage-exposure-budget-next step" "tracks changes by dated addendum"
  memory := ⟨"file-anchored", "claim-note-cued", "well calibrated",
    "prioritizes reserve-changing facts"⟩
  initialKnowledge := ["coverage_posture", "guidelines"]
  initialAuthority := ["carrier_audit"]

def billingSpecialist : PersonaProfile where
  actorId := "billing_specialist"
  roleId := "billing"
  voice := mkVoice "financial-operational" "terse labeled lines" "high"
    "amount then reason then action" "posts corrections as separate entries"
  memory := ⟨"transactional", "amount-cued", "highly calibrated",
    "reconciles before relying on recall"⟩
  initialKnowledge := []
  initialAuthority := []

def independentExpert : PersonaProfile where
  actorId := "independent_expert"
  roleId := "expert"
  voice := mkVoice "expert-formal" "qualified analytic prose" "moderate"
    "materials-method-observation-limitation-opinion" "retains versioned drafts"
  memory := ⟨"source-bounded", "document-cued", "highly calibrated",
    "declines unsupported extrapolation"⟩
  initialKnowledge := []
  initialAuthority := []

/-- The entries of `build_personas`. -/
def personaEntries : List (String × PersonaProfile) :=
  [("intake_coordinator", intakeCoordinator), ("conflicts_analyst", conflictsAnalyst),
   ("responsible_lawyer", responsibleLawyer), ("litigation_paralegal", litigationParalegal),
   ("docketing_specialist", docketingSpecialist), ("deadline_reviewer", deadlineReviewer),
   ("hr_witness", hrWitness), ("manager_witness", managerWitness),
   ("claim_handler", claimHandler), ("billing_specialist", billingSpecialist),
   ("independent_expert", independentExpert)]

/-- `world.py` `build_personas`. -/
def buildPersonas : PyDict PersonaProfile := .ofEntries personaEntries

/-! ## Evidence -/

/-- The keyword arguments of `_artifact` and their defaults. -/
structure ArtifactOptions where
  responsive : Bool := true
  privileged : Bool := false
  initiallyVisible : Bool := false
  nativeFormat : String := "text/plain"

/-- `world.py` `_artifact`, with the author's persona already looked up. -/
def mkArtifact (artifactId family title : String) (author : PersonaProfile)
    (recipients : List String) (createdDay : Int) (content : String) (claims : List FactClaim)
    (options : ArtifactOptions) : EvidenceArtifact :=
  let metadata := [("synthetic", "true"), ("generator", "g2_deterministic_evidence_v1")]
  let provisionalHash :=
    contentDigest artifactId family author.actorId createdDay content claims metadata
  { artifactId := artifactId
    family := family
    title := title
    authorId := author.actorId
    recipients := recipients
    createdDay := createdDay
    content := content
    claims := claims
    voiceSignature := author.voice.signature
    responsive := options.responsive
    privileged := options.privileged
    initiallyVisible := options.initiallyVisible
    nativeFormat := options.nativeFormat
    metadata := metadata
    custody :=
      [⟨"created", author.actorId, createdDay, provisionalHash⟩,
       ⟨"collected", "litigation_paralegal", 50, provisionalHash⟩,
       ⟨"hashed", "litigation_paralegal", 50, provisionalHash⟩] }

/-- The evidence of `build_employment_world`. -/
def employmentEvidence : List EvidenceArtifact :=
  [ mkArtifact "E-TERM-001" "hr_record" "Termination notice" managerWitness
      ["hr_witness"] 44
      ("Effective today, employment ends for continuing attendance and performance problems. " ++
       "Operations cannot absorb another missed shift.")
      [⟨"termination_day", "44"⟩, ⟨"stated_reason", "attendance_and_performance"⟩]
      { initiallyVisible := true, nativeFormat := "application/pdf" },
    mkArtifact "E-HRNOTE-002" "hr_note" "HR note excerpt" hrWitness
      [] 39
      ("Spoke with the manager. I understood we would review the attendance entries together " ++
       "before any final recommendation.")
      [⟨"decision_status_day_39", "review_pending"⟩]
      { initiallyVisible := true, nativeFormat := "text/rtf" },
    mkArtifact "E-POLICY-003" "policy" "Progressive-discipline policy excerpt" hrWitness
      ["manager_witness"] 1
      ("Managers should document coaching and consult Human Resources before discharge. The " ++
       "policy permits exceptions with a recorded operational reason.")
      [⟨"policy_process", "consult_hr_before_discharge"⟩]
      { initiallyVisible := true, nativeFormat := "application/pdf" },
    mkArtifact "E-MGREMAIL-004" "email" "Manager email to operations director" managerWitness
      ["hr_witness"] 38
      "Made the call this morning. We need the role covered Monday. HR can finish the paperwork."
      [⟨"decision_status", "final_on_day_38"⟩]
      { nativeFormat := "message/rfc822" },
    mkArtifact "E-HREMAIL-005" "email" "HR follow-up email" hrWitness
      ["manager_witness"] 40
      ("I still do not have a final recommendation or the calendar entries. Please send both " ++
       "before a termination decision is communicated.")
      [⟨"decision_status", "not_final_by_day_40"⟩]
      { nativeFormat := "message/rfc822" },
    mkArtifact "E-PAYROLL-006" "payroll_record" "Payroll attendance summary" billingSpecialist
      ["hr_witness"] 35
      ("Attendance exceptions: two excused, one disputed, one unverified. Manager review field " ++
       "remains blank.")
      [⟨"attendance_issue", "mixed_and_partly_unverified"⟩]
      { nativeFormat := "text/csv" },
    mkArtifact "E-CALENDAR-007" "calendar" "Manager calendar export" managerWitness
      [] 37
      "Thu 8:00 staffing; Thu 9:30 employee follow-up; Fri 15:00 HR review (tentative)."
      [⟨"hr_review_scheduled", "day_39_tentative"⟩]
      { nativeFormat := "text/calendar" },
    mkArtifact "E-NOISE-008" "email" "Benefits enrollment reminder" hrWitness
      ["manager_witness"] 36
      "Reminder: benefits enrollment closes Friday. The guide and office-hours link are attached."
      []
      { responsive := false, nativeFormat := "message/rfc822" } ]

/-! ## The employment world -/

/-- The value of a hexadecimal text, `int(text, 16)`. -/
def hexValue (cs : List Char) : Nat :=
  cs.foldl (fun n c => 16 * n + (if c.toNat ≤ 57 then c.toNat - 48 else c.toNat - 87)) 0

/-- The identifier `prefix-` followed by the start of a digest of the seed. -/
def seededId (label kind seed : String) (n : Nat) : String :=
  label ++ firstChars n (digest (.dict [("seed", .str seed), ("kind", .str kind)]))

/-- The posture and strength a seed selects. -/
def targetOf (seed : String) : String × Int :=
  let postureBucket :=
    hexValue ((digest (.dict [("seed", .str seed), ("kind", .str "posture")])).toList.take 8) % 100
  if postureBucket < 35 then ("defense_favorable", 72)
  else if postureBucket < 70 then ("claimant_favorable", 28)
  else ("balanced", 50)

/-- The truth of `build_employment_world`. -/
def employmentTruth : List FactClaim :=
  [⟨"protected_activity", "employee_reported_wage_and_safety_concerns"⟩,
   ⟨"termination_day", "44"⟩,
   ⟨"decision_status_day_38", "manager_treated_decision_as_final"⟩,
   ⟨"decision_status_day_40", "hr_had_not_received_final_recommendation"⟩,
   ⟨"attendance_issue", "documented_but_incompletely_investigated"⟩,
   ⟨"coverage_posture", "reservation_of_rights"⟩]

/-- `world.py` `build_employment_world`. -/
def buildEmploymentWorld (seed : String) (rulePack : RulePack) : WorldBundle :=
  let referralId := seededId "REF-" "referral" seed 10
  let initialRecordIds :=
    (employmentEvidence.filter (·.initiallyVisible)).map (·.artifactId)
  let operatingRecord : Json := .dict
    [("referral", .str referralId), ("known_documents", .strs initialRecordIds),
     ("missing", .strs ["complete_emails", "payroll_detail", "manager_calendar"]),
     ("synthetic_guidelines", .str "synthetic_ocg_v0")]
  let sealedWorld : SealedWorld :=
    { truth := employmentTruth
      declaredConflicts :=
        [⟨"C-DECISION-TIMING", "decision_status", ["E-MGREMAIL-004", "E-HREMAIL-005"],
          "test whether review finds incompatible contemporaneous accounts"⟩]
      witnessFactFrontier := ["hr_note", "policy", "employee_report", "hr_email"]
      expertAuthorizedArtifacts :=
        ["E-TERM-001", "E-HRNOTE-002", "E-POLICY-003", "E-MGREMAIL-004", "E-HREMAIL-005",
         "E-PAYROLL-006", "E-CALENDAR-007"]
      targetPosture := (targetOf seed).1
      targetStrength := (targetOf seed).2 }
  { matter :=
      { matterId := seededId "MATTER-" "matter" seed 12
        worldId := seededId "WORLD-" "world" seed 12
        referralId := referralId
        caseType := "labor_and_employment_defense"
        rulePack := rulePack
        hiddenTruthHash := digest (.list (employmentTruth.map FactClaim.toJson))
        operatingRecordHash := digest operatingRecord
        oracleCommitmentHash := sealedWorld.commitmentHash
        actors := buildPersonas
        evidenceInventory := employmentEvidence
        initialRecordIds := initialRecordIds
        facts := operatingRecord }
    sealed := sealedWorld }

/-! ## What the built world guarantees -/

/-- Whom a lookup in `build_personas` can find. -/
theorem mem_personaEntries {id : String} {p : PersonaProfile} (h : buildPersonas.get? id = some p) :
    (id, p) ∈ personaEntries :=
  PyDict.mem_of_get?_ofEntries h

/-- The custody an artifact is built with: three steps over one object hash, which is the hash of
its content, in the order of their days. -/
structure EvidenceArtifact.Custodied (a : EvidenceArtifact) : Prop where
  custody : a.custody =
    [⟨"created", a.authorId, a.createdDay, a.contentHash⟩,
     ⟨"collected", "litigation_paralegal", 50, a.contentHash⟩,
     ⟨"hashed", "litigation_paralegal", 50, a.contentHash⟩]
  createdDay : a.createdDay ≤ 50

/-- An artifact is built with the custody of its content. -/
theorem custodied_mkArtifact (artifactId family title : String) (author : PersonaProfile)
    (recipients : List String) {createdDay : Int} (content : String) (claims : List FactClaim)
    (options : ArtifactOptions) (h : createdDay ≤ 50) :
    (mkArtifact artifactId family title author recipients createdDay content claims
      options).Custodied :=
  ⟨rfl, h⟩

/-- Each artifact of the employment matter is built so. -/
theorem custodied_employmentEvidence : ∀ a ∈ employmentEvidence, a.Custodied := by
  unfold employmentEvidence
  simp only [List.forall_mem_cons]
  refine ⟨?_, ?_, ?_, ?_, ?_, ?_, ?_, ?_, by simp⟩ <;>
    exact custodied_mkArtifact _ _ _ _ _ _ _ _ (by decide)

/-- No two of them have one id. -/
theorem nodup_employmentEvidence : (employmentEvidence.map (·.artifactId)).Nodup := by decide

/-- The postures the resolution verbs know. -/
def targetPostures : List String := ["defense_favorable", "claimant_favorable", "balanced"]

/-- The posture of a seed is one of the target postures. -/
theorem targetOf_mem (seed : String) : (targetOf seed).1 ∈ targetPostures := by
  unfold targetOf targetPostures
  dsimp only
  split
  · simp
  · split <;> simp

/-- A bundle that `build_employment_world` returns. -/
def WorldBundle.Employment (b : WorldBundle) : Prop :=
  ∃ seed rulePack, b = buildEmploymentWorld seed rulePack

namespace WorldBundle.Employment

variable {b : WorldBundle}

/-- The actors of an employment bundle. -/
theorem actors (h : b.Employment) : b.matter.actors = buildPersonas := by
  obtain ⟨seed, rulePack, rfl⟩ := h; rfl

/-- The evidence of an employment bundle. -/
theorem evidenceInventory (h : b.Employment) : b.matter.evidenceInventory = employmentEvidence := by
  obtain ⟨seed, rulePack, rfl⟩ := h; rfl

/-- The posture of an employment bundle is one of the target postures. -/
theorem targetPosture (h : b.Employment) : b.sealed.targetPosture ∈ targetPostures := by
  obtain ⟨seed, rulePack, rfl⟩ := h
  exact targetOf_mem seed

end WorldBundle.Employment

end LawFirmDigitalTwin
