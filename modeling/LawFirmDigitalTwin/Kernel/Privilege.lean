import LawFirmDigitalTwin.Kernel.Evidence
import LawFirmDigitalTwin.Kernel.Workflow

/-!
# The privilege and responsiveness filter

A review looks at the flags of an artifact, and nothing after it does: a production takes what has
the status of a reviewed artifact, an expert what was produced. An artifact that the review filters
out stays out all the same, in every run, since each loop touches the status of an artifact under
its own id only. Its custody log holds steps of its own custody, whatever their actions are.
-/

namespace LawFirmDigitalTwin

open Raising

/-- A review withholds the artifact. -/
def EvidenceArtifact.Filtered (a : EvidenceArtifact) : Prop :=
  a.privileged = true ∨ a.responsive = false

/-- The projection has no sign of a review or a production of the artifact. -/
structure Withholds (a : EvidenceArtifact) (p : Projection) : Prop where
  notReviewed : p.evidenceStatus.get? a.artifactId ≠ some .reviewed
  notProduced : p.evidenceStatus.get? a.artifactId ≠ some .produced
  unlisted : a.artifactId ∉ p.producedArtifactIds
  unsourced : ∀ opinion, p.expertOpinion = some opinion →
    a.artifactId ∉ opinion.sourceArtifactIds
  log : ∀ steps, p.custodyLog.get? a.artifactId = some steps → ∀ step ∈ steps, step ∈ a.custody

/-- What a production event lists, and what its hash covers, is without the artifact. -/
def Unproduced (k : Kernel) (a : EvidenceArtifact) (e : Event) : Prop :=
  ∃ ids production, a.artifactId ∉ ids ∧ k.production ids = .ok production ∧
    e.payload.get? "produced_artifact_ids" = some (.strs ids) ∧
    e.payload.get? "production_hash" = some (.str (digest (.list production)))

/-- The artifact stays out of the projection and of the events of productions. -/
structure Withheld (k : Kernel) (a : EvidenceArtifact) (s : KernelState) : Prop where
  projection : Withholds a s.projection
  events : ∀ e ∈ s.events, Accepted .produceDiscovery e → Unproduced k a e

/-- Between two states the artifact stays out of the projection. -/
def KeepsWithheld (a : EvidenceArtifact) (s s' : KernelState) : Prop :=
  Withholds a s.projection → Withholds a s'.projection

instance (a : EvidenceArtifact) : Std.Refl (KeepsWithheld a) where
  refl _ h := h

instance (a : EvidenceArtifact) : IsTrans KernelState (KeepsWithheld a) where
  trans _ _ _ h₁ h₂ h := h₂ (h₁ h)

/-! ## The primitives -/

section
variable {a : EvidenceArtifact}

/-- A status other than those two, or the status of another artifact. -/
theorem withheld_setEvidenceStatus {id : String} {status : EvidenceStatus}
    (h : id = a.artifactId → status ≠ .reviewed ∧ status ≠ .produced) :
    Keeps (KeepsWithheld a) (setEvidenceStatus id status) := by
  refine .modify fun s hs => ⟨?_, ?_, hs.unlisted, hs.unsourced, hs.log⟩
  all_goals
    dsimp only
    rw [PyDict.get?_set]
    split
  · next heq => simpa using (h heq.symm).1
  · exact hs.notReviewed
  · next heq => simpa using (h heq.symm).2
  · exact hs.notProduced

/-- Steps of the artifact's own custody, or the log of another artifact. -/
theorem withheld_extendLog {id : String} {steps : Except PyError (List CustodyStep)}
    (h : id = a.artifactId → ∀ new, steps = .ok new → ∀ step ∈ new, step ∈ a.custody) :
    Keeps (KeepsWithheld a) (extendLog id steps) := by
  refine .assign fun s s' hok => ?_
  cases hl : s.projection.custodyLog.getItem id with
  | error e => rw [hl] at hok; cases hok
  | ok log =>
    cases steps with
    | error e => rw [hl] at hok; cases hok
    | ok new =>
      rw [hl] at hok
      cases hok
      intro hs
      refine ⟨hs.notReviewed, hs.notProduced, hs.unlisted, hs.unsourced, ?_⟩
      intro steps hsteps
      dsimp only at hsteps
      rw [PyDict.get?_set] at hsteps
      split at hsteps
      · next heq =>
        cases hsteps
        rw [← heq] at hl h
        intro step hstep
        rcases List.mem_append.1 hstep with hstep | hstep
        · exact hs.log log (PyDict.getItem_eq_ok.1 hl) step hstep
        · exact h rfl new rfl step hstep
      · exact hs.log steps hsteps

/-! ## The loops -/

section
variable {inventory : List EvidenceArtifact} (hnodup : (inventory.map (·.artifactId)).Nodup)
  (ha : a ∈ inventory)

include hnodup ha

/-- The loop of preservation keeps what is withheld. -/
theorem withheld_preserveAll {l : List EvidenceArtifact} (hl : ∀ b ∈ l, b ∈ inventory) :
    Keeps (KeepsWithheld a) (preserveAll l) := by
  induction l with
  | nil => exact .pure ()
  | cons b rest ih =>
    refine .bind (withheld_setEvidenceStatus fun _ => ⟨nofun, nofun⟩) fun _ => ?_
    refine .attempt_bind fun created hcreated => ?_
    refine .bind (.modify fun s hs => ?_) fun _ => ih fun b' hb' => hl b' (.tail _ hb')
    refine ⟨hs.notReviewed, hs.notProduced, hs.unlisted, hs.unsourced, ?_⟩
    intro steps hsteps
    dsimp only at hsteps
    rw [PyDict.get?_set] at hsteps
    split at hsteps
    · next heq =>
      -- the step that was preserved is one of the artifact's own
      have hba : b = a := List.inj_on_of_nodup_map hnodup (hl b (.head _)) ha heq.symm
      cases hsteps
      intro step hstep
      rw [List.mem_singleton.1 hstep, ← hba]
      unfold EvidenceArtifact.firstStep at hcreated
      cases hc : b.custody with
      | nil => rw [hc] at hcreated; cases hcreated
      | cons first later => rw [hc] at hcreated; cases hcreated; exact .head _
    · exact hs.log steps hsteps

/-- The loop of collection keeps what is withheld. -/
theorem withheld_collectAll {l : List EvidenceArtifact} (hl : ∀ b ∈ l, b ∈ inventory) :
    Keeps (KeepsWithheld a) (collectAll l) := by
  induction l with
  | nil => exact .pure ()
  | cons b rest ih =>
    refine .bind .get fun s => .bind (.raiseIf _ _) fun _ => ?_
    refine .bind (withheld_setEvidenceStatus fun _ => ⟨nofun, nofun⟩) fun _ => ?_
    refine .bind (withheld_extendLog fun heq new hnew step hstep => ?_) fun _ =>
      ih fun b' hb' => hl b' (.tail _ hb')
    have hba : b = a := List.inj_on_of_nodup_map hnodup (hl b (.head _)) ha heq
    cases hnew
    rw [← hba]
    exact List.mem_of_mem_drop hstep

/-- The filter of the review. -/
theorem withheld_reviewAll (hf : a.Filtered) (c : Command) {l : List EvidenceArtifact}
    (hl : ∀ b ∈ l, b ∈ inventory) (selected : List String) (claims : PyDict (Finset String)) :
    Keeps (KeepsWithheld a) (reviewAll c l selected claims) := by
  induction l generalizing selected claims with
  | nil => exact .pure _
  | cons b rest ih =>
    have hrest : ∀ b' ∈ rest, b' ∈ inventory := fun b' hb' => hl b' (.tail _ hb')
    refine .bind .get fun s => .bind (.raiseIf _ _) fun _ => ?_
    split
    · next hpasses =>
      have hother : b.artifactId ≠ a.artifactId := by
        intro heq
        have hba : b = a := List.inj_on_of_nodup_map hnodup (hl b (.head _)) ha heq
        rw [hba] at hpasses
        rcases hf with hprivileged | hunresponsive
        · exact hpasses.2 hprivileged
        · rw [hunresponsive] at hpasses
          cases hpasses.1
      refine .bind (withheld_setEvidenceStatus fun heq => (hother heq).elim) fun _ => ?_
      exact .bind (withheld_extendLog fun heq => (hother heq).elim) fun _ => ih hrest _ _
    · exact .bind (withheld_setEvidenceStatus fun _ => ⟨nofun, nofun⟩) fun _ => ih hrest _ _

end

/-- A production of other artifacts. -/
theorem withheld_produceAll (k : Kernel) (c : Command) {ids : List String}
    (hids : a.artifactId ∉ ids) : Keeps (KeepsWithheld a) (produceAll k c ids) := by
  induction ids with
  | nil => exact .pure ()
  | cons id rest ih =>
    rw [List.mem_cons, not_or] at hids
    obtain ⟨hother, hrest⟩ := hids
    refine .bind (.attempt _) fun b => ?_
    refine .bind (withheld_setEvidenceStatus fun heq => (hother heq.symm).elim) fun _ => ?_
    refine .bind (.modify fun s hs => ?_) fun _ => ?_
    · refine ⟨hs.notReviewed, hs.notProduced, ?_, hs.unsourced, hs.log⟩
      simp [hs.unlisted, hother]
    · exact .bind (withheld_extendLog fun heq => (hother heq.symm).elim) fun _ => ih hrest

end

/-! ## One call -/

section
variable {k : Kernel} {a : EvidenceArtifact} {s : KernelState} {c : Command}

/-- A branch that writes no evidence keeps what is withheld. -/
theorem Withholds.of_frame {v : Verb} {p p' : Projection} (h : Withholds a p) (hframe : p.Frame v p')
    (hevidence : .evidence ∉ writes v) (hproduction : .production ∉ writes v)
    (hexpert : .expert ∉ writes v) : Withholds a p' := by
  obtain ⟨hstatus, hlog⟩ := hframe .evidence hevidence
  have hproduced : p'.producedArtifactIds = p.producedArtifactIds := hframe .production hproduction
  have hopinion : p'.expertOpinion = p.expertOpinion := hframe .expert hexpert
  constructor
  · rw [hstatus]; exact h.notReviewed
  · rw [hstatus]; exact h.notProduced
  · rw [hproduced]; exact h.unlisted
  · rw [hopinion]; exact h.unsourced
  · rw [hlog]; exact h.log

/-- What is withheld is not selected. -/
theorem Withholds.not_mem_selected {p : Projection} (h : Withholds a p) :
    a.artifactId ∉ k.selected p :=
  fun hmem => h.notReviewed (mem_selected hmem).2

/-- What a production that returned sets in the payload. -/
theorem produceDiscovery_ok {u : Updates} {s' : KernelState}
    (h : produceDiscovery k c s = .ok u s') :
    ∃ production, k.production (k.selected s.projection) = .ok production ∧
      u = [("produced_artifact_ids", .strs (k.selected s.projection)),
        ("production_hash", .str (digest (.list production)))] := by
  unfold produceDiscovery at h
  obtain ⟨s₁, _, hget, h⟩ := bind_eq_ok.1 h
  cases hget
  obtain ⟨_, _, -, h⟩ := bind_eq_ok.1 h
  obtain ⟨_, _, -, h⟩ := bind_eq_ok.1 h
  obtain ⟨production, _, hproduction, h⟩ := bind_eq_ok.1 h
  cases h
  cases hp : k.production (k.selected s.projection) with
  | error e => rw [hp] at hproduction; cases hproduction
  | ok ids =>
    rw [hp] at hproduction
    cases hproduction
    exact ⟨_, rfl, rfl⟩

variable (hnodup : (k.bundle.matter.evidenceInventory.map (·.artifactId)).Nodup)
  (ha : a ∈ k.bundle.matter.evidenceInventory) (hf : a.Filtered)

include hnodup ha hf

/-- **No branch lets a filtered artifact through**, whether it returns or raises. -/
theorem withheld_branch (c : Command) (v : Verb) (s : KernelState) :
    KeepsWithheld a s (final (branch k c v s)) := by
  cases v with
  | issuePreservation =>
    exact Keeps.bind (withheld_preserveAll hnodup ha fun _ h => h) (fun _ => .pure _) s
  | collectEvidence =>
    exact Keeps.bind (withheld_collectAll hnodup ha fun _ h => h) (fun _ => .pure _) s
  | reviewEvidence =>
    refine Keeps.bind (withheld_reviewAll hnodup ha hf c (fun _ h => h) _ _) (fun r => ?_) s
    refine .bind (.modify fun s hs => ?_) fun _ => .pure _
    exact ⟨hs.notReviewed, hs.notProduced, hs.unlisted, hs.unsourced, hs.log⟩
  | produceDiscovery =>
    intro h
    have hkeeps : KeepsWithheld a s (final (branch k c .produceDiscovery s)) := by
      rw [branch, produceDiscovery, final_get_bind, final_raiseIf_bind]
      split
      · exact Keeps.bind (withheld_produceAll k c h.not_mem_selected)
          (fun _ => .bind (.attempt _) fun _ => .pure _) s
      · exact Std.Refl.refl s
    exact hkeeps h
  | retainExpert =>
    intro h
    refine ⟨h.notReviewed, h.notProduced, h.unlisted, ?_, h.log⟩
    rintro opinion hopinion hmem
    cases hopinion
    exact h.unlisted (List.mem_of_mem_filter hmem)
  | _ =>
    intro h
    obtain ⟨p, hp, hframe⟩ := keeps_branch k c _ s
    rw [hp]
    exact h.of_frame hframe (by decide) (by decide) (by decide)

/-- One call keeps a filtered artifact out. -/
theorem Withheld.step (h : Withheld k a s) : Withheld k a (k.step s c) where
  projection := by
    cases hchecks : k.admit s c with
    | error r =>
      rw [(step_idle hchecks).projection]
      obtain ⟨hreviewed, hproduced, hunlisted, hunsourced, hlog⟩ := h.projection
      exact ⟨hreviewed, hproduced, hunlisted, hunsourced, hlog⟩
    | ok admission =>
      rw [(step_effect hchecks).projection]
      exact withheld_branch hnodup ha hf c admission.verb s.tick h.projection
  events := by
    rcases step_appended k s c with hevents |
      ⟨admission, u, s₁, s₂, event, hchecks, hbranch, hevent, hevents⟩
    · rw [hevents]; exact h.events
    rw [hevents]
    intro e he haccepted
    rcases List.mem_append.1 he with he | he
    · exact h.events e he haccepted
    rw [List.mem_singleton.1 he] at haccepted ⊢
    have hverb : admission.verb = .produceDiscovery := by
      refine Accepted.verb_eq (e := event) ?_ haccepted
      rw [Accepted, (event_records hevent).eventType, Verb.acceptedType,
        Verb.name_of_ofName? (admit_ok hchecks).verb]
    rw [hverb] at hbranch
    obtain ⟨production, hproduction, rfl⟩ := produceDiscovery_ok hbranch
    obtain ⟨canonical, -, hpayload⟩ := (event_records hevent).payload
    refine ⟨k.selected s.tick.projection, production, ?_, hproduction, ?_⟩
    · exact h.projection.not_mem_selected
    · rw [hpayload]
      simp [PyDict.get?_set]

/-- **The filter holds.** In every run over an inventory with distinct ids, an artifact that is
privileged or not responsive is never marked as reviewed or produced, never listed in a production,
its event or an expert's sources, and gets no step in its log but those of its own custody. -/
theorem filtered_withheld (cs : List Command) : Withheld k a (k.run cs) := by
  refine Machine.run_invariant (fun s c h => Withheld.step hnodup ha hf h) ?_ cs
  refine ⟨⟨nofun, nofun, nofun, nofun, nofun⟩, nofun⟩

end

/-- The scripted workflow never lets the unresponsive message through. -/
theorem filtered_withheld_alpha :
    ∃ a ∈ alphaKernel.bundle.matter.evidenceInventory, a.artifactId = "E-NOISE-008" ∧
      Withheld alphaKernel a (alphaKernel.run alphaWorkflow) := by
  have hnoise : ∃ a ∈ alphaKernel.bundle.matter.evidenceInventory,
      a.artifactId = "E-NOISE-008" ∧ a.responsive = false := by
    decide +kernel
  obtain ⟨a, ha, hid, hunresponsive⟩ := hnoise
  exact ⟨a, ha, hid, filtered_withheld (nodup_inventory alphaKernel_employment) ha
    (.inr hunresponsive) alphaWorkflow⟩

/-- A privileged memorandum whose own custody names a review by the firm that sent it. -/
def reviewedMemorandum : EvidenceArtifact where
  artifactId := "E-MEMO-001"
  family := "memorandum"
  title := "Advice of counsel"
  authorId := "responsible_lawyer"
  recipients := []
  createdDay := 1
  content := "Advice of counsel."
  claims := []
  voiceSignature := ""
  responsive := true
  privileged := true
  initiallyVisible := false
  nativeFormat := "txt"
  metadata := []
  custody := [⟨"created", "responsible_lawyer", 1, "sha"⟩, ⟨"reviewed", "referring_firm", 2, "sha"⟩]

/-- A bundle with that memorandum only. -/
def memorandumKernel : Kernel :=
  { alphaKernel with bundle :=
    { alphaKernel.bundle with matter :=
      { alphaKernel.bundle.matter with evidenceInventory := [reviewedMemorandum] } } }

/-- A collection copies the custody of the memorandum, with the step of its review. -/
theorem collects_reviewed_step :
    ¬ ∀ (k : Kernel) (a : EvidenceArtifact) (cs : List Command),
      (k.bundle.matter.evidenceInventory.map (·.artifactId)).Nodup →
      (∀ b ∈ k.bundle.matter.evidenceInventory, b.custody ≠ []) →
      a ∈ k.bundle.matter.evidenceInventory → a.Filtered →
      ∀ steps, (k.run cs).projection.custodyLog.get? a.artifactId = some steps →
        ∀ step ∈ steps, step.action ≠ "reviewed" ∧ step.action ≠ "produced" := by
  intro h
  have hlog : ((memorandumKernel.run (alphaWorkflow.take 8)).projection.custodyLog.get?
      "E-MEMO-001") = some reviewedMemorandum.custody := by
    decide +kernel
  have hall := h memorandumKernel reviewedMemorandum (alphaWorkflow.take 8) (List.nodup_singleton _)
    (fun b hb => by rw [List.mem_singleton.1 hb]; exact List.cons_ne_nil _ _) (.head _) (.inl rfl)
    reviewedMemorandum.custody hlog
  exact (hall _ (.tail _ (.head _))).1 rfl

end LawFirmDigitalTwin
