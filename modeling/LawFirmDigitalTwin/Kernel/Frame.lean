import LawFirmDigitalTwin.Kernel.Submit

/-!
# What a branch can change

The projection is cut into parts, each verb is given the parts its branch writes (`writes`), and
`keeps_branch` says that a branch leaves everything else alone, whether it returns or raises.
-/

namespace LawFirmDigitalTwin

open Raising

/-- The parts of the projection. The fields of one part are written together. -/
inductive Part
  | matterStatus
  | deadlines
  | deadlineProposal
  | deadlineAudit
  | authorityHolds
  | oracleAccess
  | evidence
  | production
  | artifactHashes
  | review
  | deposition
  | expert
  | milestones
  | outcome
  | timeEntries
  | finance
  | closeConditions
  | closed
  | constants
  deriving DecidableEq

/-- Two projections agree on a part. -/
def Part.Same (p p' : Projection) : Part → Prop
  | matterStatus => p'.matterStatus = p.matterStatus
  | deadlines => p'.deadlines = p.deadlines ∧ p'.deadlineVerifier = p.deadlineVerifier
  | deadlineProposal => p'.deadlineProposal = p.deadlineProposal
  | deadlineAudit => p'.deadlineAudit = p.deadlineAudit
  | authorityHolds => p'.authorityHolds = p.authorityHolds
  | oracleAccess => p'.oracleAccessAttempts = p.oracleAccessAttempts
  | evidence => p'.evidenceStatus = p.evidenceStatus ∧ p'.custodyLog = p.custodyLog
  | production => p'.producedArtifactIds = p.producedArtifactIds
  | artifactHashes => p'.artifactHashes = p.artifactHashes
  | review => p'.reviewConflictCandidates = p.reviewConflictCandidates
  | deposition => p'.depositionRecord = p.depositionRecord
  | expert => p'.expertOpinion = p.expertOpinion
  | milestones => p'.resolutionMilestones = p.resolutionMilestones
  | outcome => p'.resolutionOutcome = p.resolutionOutcome ∧ p'.outcomeSource = p.outcomeSource
  | timeEntries => p'.timeEntries = p.timeEntries
  | finance => p'.finance = p.finance
  | closeConditions => p'.closeConditions = p.closeConditions
  | closed => p'.closed = p.closed
  | constants =>
    p'.acceptedOracleReads = p.acceptedOracleReads ∧
      p'.humanGateBypasses = p.humanGateBypasses ∧ p'.route = p.route

/-- A part is the same as itself. -/
theorem Part.Same.refl (p : Projection) (part : Part) : part.Same p p := by
  cases part <;> simp [Part.Same]

/-- A part that stays the same twice stays the same. -/
theorem Part.Same.trans {p q r : Projection} {part : Part} (h₁ : part.Same p q)
    (h₂ : part.Same q r) : part.Same p r := by
  cases part with
  | deadlines | evidence | outcome => exact ⟨h₂.1.trans h₁.1, h₂.2.trans h₁.2⟩
  | constants => exact ⟨h₂.1.trans h₁.1, h₂.2.1.trans h₁.2.1, h₂.2.2.trans h₁.2.2⟩
  | _ => exact Eq.trans h₂ h₁

/-- The parts the branch of a verb writes. -/
def writes : Verb → List Part
  | .receiveReferral => [.matterStatus]
  | .submitConflictResult | .recordLawyerGate => [.authorityHolds]
  | .openMatter => [.matterStatus]
  | .calculateDeadlines => [.deadlineProposal, .deadlineAudit]
  | .verifyDeadlines => [.deadlines, .deadlineAudit]
  | .issuePreservation | .collectEvidence => [.evidence]
  | .reviewEvidence => [.evidence, .review]
  | .produceDiscovery => [.evidence, .production, .artifactHashes]
  | .takeDeposition => [.deposition, .artifactHashes]
  | .retainExpert => [.expert, .artifactHashes]
  | .settleCase | .mediateToImpasse | .resolveDispositive | .tryAndAppeal =>
    [.milestones, .outcome, .matterStatus]
  | .recordTime => [.finance, .timeEntries]
  | .submitInvoice | .carrierAudit | .appealReduction | .applyPayment => [.finance]
  | .finalizeCloseout => [.closeConditions]
  | .closeMatter => [.closed, .matterStatus]
  | .readOracle => []

/-- The projections agree outside the parts that a verb's branch writes. -/
def Projection.Frame (v : Verb) (p p' : Projection) : Prop :=
  ∀ part, part ∉ writes v → part.Same p p'

/-- The states differ in their projections only, and there outside the parts that a verb's branch
writes. -/
def BranchFrame (v : Verb) (s s' : KernelState) : Prop :=
  ∃ p, s' = { s with projection := p } ∧ s.projection.Frame v p

instance (v : Verb) : Std.Refl (BranchFrame v) where
  refl s := ⟨s.projection, rfl, fun part _ => .refl s.projection part⟩

instance (v : Verb) : IsTrans KernelState (BranchFrame v) where
  trans s s₁ s₂ := by
    rintro ⟨p, rfl, h₁⟩ ⟨q, rfl, h₂⟩
    exact ⟨q, rfl, fun part h => (h₁ part h).trans (h₂ part h)⟩

/-! ## The primitives -/

section
variable {v : Verb}

/-- An update keeps the parts that it does not touch. -/
theorem keeps_modifyProjection {f : Projection → Projection}
    (h : ∀ p part, part ∉ writes v → part.Same p (f p)) :
    Keeps (BranchFrame v) (modifyProjection f) :=
  fun s => ⟨f s.projection, rfl, h s.projection⟩

/-- A method of the ledger touches the finance part only. -/
theorem keeps_withFinance {α : Type} (h : .finance ∈ writes v)
    (m : FinanceLedger.Method Decimal α) : Keeps (BranchFrame v) (withFinance m) := by
  refine .zoom fun s => ⟨_, rfl, fun part hp => ?_⟩
  cases part with
  | finance => exact absurd h hp
  | _ => simp [Part.Same]

/-- Setting a status touches the evidence only. -/
theorem keeps_setEvidenceStatus (h : .evidence ∈ writes v) (artifactId : String)
    (status : EvidenceStatus) : Keeps (BranchFrame v) (setEvidenceStatus artifactId status) := by
  refine keeps_modifyProjection fun p part hp => ?_
  cases part with
  | evidence => exact absurd h hp
  | _ => simp [Part.Same]

/-- Extending a custody log touches the evidence only. -/
theorem keeps_extendLog (h : .evidence ∈ writes v) (artifactId : String)
    (steps : Except PyError (List CustodyStep)) :
    Keeps (BranchFrame v) (extendLog artifactId steps) := by
  refine .assign fun s s' hs => ?_
  cases hl : s.projection.custodyLog.getItem artifactId with
  | error e => rw [hl] at hs; cases hs
  | ok log =>
    cases steps with
    | error e => rw [hl] at hs; cases hs
    | ok steps =>
      rw [hl] at hs
      cases hs
      refine ⟨_, rfl, fun part hp => ?_⟩
      cases part with
      | evidence => exact absurd h hp
      | _ => simp [Part.Same]

end

/-! ## The loops -/

/-- The loop of preservation touches the evidence only. -/
theorem keeps_preserveAll (artifacts : List EvidenceArtifact) :
    Keeps (BranchFrame .issuePreservation) (preserveAll artifacts) := by
  induction artifacts with
  | nil => exact .pure _
  | cons a rest ih =>
    refine .bind (keeps_setEvidenceStatus (by decide) _ _) fun _ => .bind (.attempt _) fun created => ?_
    refine .bind (keeps_modifyProjection fun p part hp => ?_) fun _ => ih
    cases part with
    | evidence => exact absurd (by decide) hp
    | _ => simp [Part.Same]

/-- The loop of collection touches the evidence only. -/
theorem keeps_collectAll (artifacts : List EvidenceArtifact) :
    Keeps (BranchFrame .collectEvidence) (collectAll artifacts) := by
  induction artifacts with
  | nil => exact .pure _
  | cons a rest ih =>
    refine .bind .get fun s => .bind (.raiseIf _ _) fun _ => ?_
    exact .bind (keeps_setEvidenceStatus (by decide) _ _) fun _ =>
      .bind (keeps_extendLog (by decide) _ _) fun _ => ih

/-- The loop of review writes what the verb may write. -/
theorem keeps_reviewAll (c : Command) (artifacts : List EvidenceArtifact) (selected : List String)
    (claims : PyDict (Finset String)) :
    Keeps (BranchFrame .reviewEvidence) (reviewAll c artifacts selected claims) := by
  induction artifacts generalizing selected claims with
  | nil => exact .pure _
  | cons a rest ih =>
    refine .bind .get fun s => .bind (.raiseIf _ _) fun _ => ?_
    split
    · exact .bind (keeps_setEvidenceStatus (by decide) _ _) fun _ =>
        .bind (keeps_extendLog (by decide) _ _) fun _ => ih _ _
    · exact .bind (keeps_setEvidenceStatus (by decide) _ _) fun _ => ih _ _

/-- The loop of production writes what the verb may write. -/
theorem keeps_produceAll (k : Kernel) (c : Command) (ids : List String) :
    Keeps (BranchFrame .produceDiscovery) (produceAll k c ids) := by
  induction ids with
  | nil => exact .pure _
  | cons id rest ih =>
    refine .bind (.attempt _) fun a => .bind (keeps_setEvidenceStatus (by decide) _ _) fun _ => ?_
    refine .bind (keeps_modifyProjection fun p part hp => ?_) fun _ =>
      .bind (keeps_extendLog (by decide) _ _) fun _ => ih
    cases part <;> simp [Part.Same, writes] at hp ⊢

/-! ## The branches -/

/-- A resolution writes what its verb may write. -/
theorem keeps_resolve (k : Kernel) (v : Verb)
    (h : writes v = [.milestones, .outcome, .matterStatus]) :
    Keeps (BranchFrame v) (resolve k v) := by
  refine .bind (.raiseIf _ _) fun _ => ?_
  refine .bind (keeps_modifyProjection fun p part hp => ?_) fun _ => .bind (.attempt _) fun _ =>
    .bind (keeps_modifyProjection fun p part hp => ?_) fun _ => .pure _
  all_goals
    rw [h] at hp
    cases part <;> simp [Part.Same] at hp ⊢

/-- **A branch changes only the parts of the projection its verb writes**, whether it returns or
raises. -/
theorem keeps_branch (k : Kernel) (c : Command) (v : Verb) :
    Keeps (BranchFrame v) (branch k c v) := by
  cases v with
  | receiveReferral =>
    refine .bind (keeps_modifyProjection fun p part hp => ?_) fun _ => .pure _
    cases part <;> simp [Part.Same, writes] at hp ⊢
  | submitConflictResult =>
    refine .bind (keeps_modifyProjection fun p part hp => ?_) fun _ => .pure _
    cases part <;> simp [Part.Same, writes] at hp ⊢
  | recordLawyerGate =>
    refine .bind (.attempt _) fun gate => .bind .get fun s => .bind (.raiseIf _ _) fun _ => ?_
    refine .bind (keeps_modifyProjection fun p part hp => ?_) fun _ => .pure _
    cases part <;> simp [Part.Same, writes] at hp ⊢
  | openMatter =>
    refine .bind .get fun s => .bind (.raiseIf _ _) fun _ => ?_
    refine .bind (keeps_modifyProjection fun p part hp => ?_) fun _ => .pure _
    cases part <;> simp [Part.Same, writes] at hp ⊢
  | calculateDeadlines =>
    refine .bind (.attempt _) fun day => ?_
    refine .bind (keeps_modifyProjection fun p part hp => ?_) fun _ => .pure _
    cases part <;> simp [Part.Same, writes] at hp ⊢
  | verifyDeadlines =>
    refine .bind .get fun s => .bind (.raiseIf _ _) fun _ => .bind (.attempt _) fun day => ?_
    refine .bind (.raiseIf _ _) fun _ => .bind (.raiseIf _ _) fun _ => ?_
    refine .bind (keeps_modifyProjection fun p part hp => ?_) fun _ => .pure _
    cases part <;> simp [Part.Same, writes] at hp ⊢
  | issuePreservation => exact .bind (keeps_preserveAll _) fun _ => .pure _
  | collectEvidence => exact .bind (keeps_collectAll _) fun _ => .pure _
  | reviewEvidence =>
    refine .bind (keeps_reviewAll _ _ _ _) fun r => ?_
    refine .bind (keeps_modifyProjection fun p part hp => ?_) fun _ => .pure _
    cases part <;> simp [Part.Same, writes] at hp ⊢
  | produceDiscovery =>
    refine .bind .get fun s => .bind (.raiseIf _ _) fun _ => ?_
    exact .bind (keeps_produceAll _ _ _) fun _ => .bind (.attempt _) fun _ => .pure _
  | takeDeposition =>
    refine .bind (.attempt _) fun witness => ?_
    refine .bind (keeps_modifyProjection fun p part hp => ?_) fun _ => .pure _
    cases part <;> simp [Part.Same, writes] at hp ⊢
  | retainExpert =>
    refine .bind .get fun s => ?_
    refine .bind (keeps_modifyProjection fun p part hp => ?_) fun _ => .pure _
    cases part <;> simp [Part.Same, writes] at hp ⊢
  | settleCase => exact keeps_resolve k _ rfl
  | mediateToImpasse => exact keeps_resolve k _ rfl
  | resolveDispositive => exact keeps_resolve k _ rfl
  | tryAndAppeal => exact keeps_resolve k _ rfl
  | recordTime =>
    refine .bind (.attempt _) fun amount => .bind (keeps_withFinance (by decide) _) fun _ => ?_
    refine .bind (.attempt _) fun code => .bind (.attempt _) fun narrative => ?_
    refine .bind (keeps_modifyProjection fun p part hp => ?_) fun _ => .pure _
    cases part <;> simp [Part.Same, writes] at hp ⊢
  | submitInvoice =>
    exact .bind (keeps_withFinance (by decide) _) fun _ => .bind .get fun _ => .pure _
  | carrierAudit | appealReduction | applyPayment =>
    exact .bind (.attempt _) fun _ => .bind (keeps_withFinance (by decide) _) fun _ =>
      .bind .get fun _ => .pure _
  | finalizeCloseout =>
    refine .bind .get fun s => .bind (.raiseIf _ _) fun _ => ?_
    refine .bind (keeps_modifyProjection fun p part hp => ?_) fun _ => .bind .get fun s' =>
      .bind (.attempt _) fun _ => .bind (keeps_modifyProjection fun p part hp => ?_) fun _ => .pure _
    all_goals cases part <;> simp [Part.Same, writes] at hp ⊢
  | closeMatter =>
    refine .bind .get fun s => .bind (.raiseIf _ _) fun _ => .bind (.raiseIf _ _) fun _ => ?_
    refine .bind (keeps_modifyProjection fun p part hp => ?_) fun _ => .pure _
    cases part <;> simp [Part.Same, writes] at hp ⊢
  | readOracle => exact .throw _

end LawFirmDigitalTwin
