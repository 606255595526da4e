import LawFirmDigitalTwin.Kernel.Steps

/-!
# The evidence loops, one artifact at a time

What one pass of the loops of `issue_preservation`, `collect_evidence`, `review_evidence` and
`produce_discovery` does: it raises on the artifact's status and changes nothing, or it sets the
status and the log of that artifact and goes on with the rest.
-/

namespace LawFirmDigitalTwin

open Raising

/-- The step of a review, and that of a production. -/
def EvidenceArtifact.reviewedBy (a : EvidenceArtifact) (actorId : String) : CustodyStep :=
  ⟨"reviewed", actorId, 51, a.contentHash⟩

def EvidenceArtifact.producedBy (a : EvidenceArtifact) (actorId : String) : CustodyStep :=
  ⟨"produced", actorId, 52, a.contentHash⟩

/-- The projection with a status and a log for one artifact. -/
def Projection.place (p : Projection) (id : String) (status : EvidenceStatus)
    (log : List CustodyStep) : Projection :=
  { p with
    evidenceStatus := p.evidenceStatus.set id status
    custodyLog := p.custodyLog.set id log }

/-- The projection after one artifact was withheld. -/
def Projection.withhold (p : Projection) (id : String) : Projection :=
  { p with evidenceStatus := p.evidenceStatus.set id .withheldNonresponsive }

/-- The projection after one artifact was produced. -/
def Projection.produce (p : Projection) (a : EvidenceArtifact) (log : List CustodyStep) :
    Projection :=
  { p.place a.artifactId .produced log with
    producedArtifactIds := p.producedArtifactIds ++ [a.artifactId]
    artifactHashes := p.artifactHashes ++ [a.contentHash] }

/-! ## The passes -/

/-- The first custody step of an artifact in custody is its creation. -/
theorem firstStep_custodied {a : EvidenceArtifact} (hc : a.Custodied) :
    a.firstStep = .ok ⟨"created", a.authorId, a.createdDay, a.contentHash⟩ := by
  rw [EvidenceArtifact.firstStep, hc.custody]

/-- An artifact with a custody has a first step. -/
theorem firstStep_of_ne_nil {a : EvidenceArtifact} (h : a.custody ≠ []) :
    ∃ created, a.firstStep = .ok created := by
  unfold EvidenceArtifact.firstStep
  cases hc : a.custody with
  | nil => exact absurd hc h
  | cons created rest => exact ⟨created, rfl⟩

/-- A step of handling is over the hash of the first one. -/
theorem handled_of_firstStep {a : EvidenceArtifact} {created : CustodyStep}
    (hf : a.firstStep = .ok created) (action actorId : String) (day : Int) :
    a.handled action actorId day = .ok [⟨action, actorId, day, created.objectHash⟩] := by
  rw [EvidenceArtifact.handled, hf]; rfl

/-- One pass of preservation places the artifact with its first step. -/
theorem preserveAll_placed {a : EvidenceArtifact} {created : CustodyStep}
    (hf : a.firstStep = .ok created) (rest : List EvidenceArtifact) (s : KernelState) :
    preserveAll (a :: rest) s = preserveAll rest
      { s with projection := s.projection.place a.artifactId .preserved [created] } := by
  simp only [preserveAll, setEvidenceStatus, modifyProjection, bind_run, modify_run, hf, attempt_ok]
  rfl

/-- One pass of preservation on an artifact in custody. -/
theorem preserveAll_cons {a : EvidenceArtifact} (hc : a.Custodied) (rest : List EvidenceArtifact)
    (s : KernelState) :
    preserveAll (a :: rest) s = preserveAll rest
      { s with projection := s.projection.place a.artifactId .preserved (a.custody.take 1) } := by
  have htake : a.custody.take 1 = [⟨"created", a.authorId, a.createdDay, a.contentHash⟩] := by
    rw [hc.custody]; rfl
  rw [htake, preserveAll_placed (firstStep_custodied hc)]

/-- One pass of collection places a preserved artifact with its custody. -/
theorem collectAll_cons {a : EvidenceArtifact} {log : List CustodyStep} (rest : List EvidenceArtifact)
    {s : KernelState} (hs : s.projection.evidenceStatus.get? a.artifactId = some .preserved)
    (hl : s.projection.custodyLog.get? a.artifactId = some log) :
    collectAll (a :: rest) s = collectAll rest
      { s with projection :=
        s.projection.place a.artifactId .collected (log ++ a.custody.drop 1) } := by
  simp only [collectAll, setEvidenceStatus, extendLog, modifyProjection, bind_run, get_run, hs,
    ne_eq, not_true_eq_false, decide_false, raiseIf_false, modify_run, assign_run,
    PyDict.getItem_eq_ok.2 hl]
  rfl

/-- Collection stops at an artifact that is not preserved. -/
theorem collectAll_refused {a : EvidenceArtifact} (rest : List EvidenceArtifact)
    {s : KernelState} (hs : s.projection.evidenceStatus.get? a.artifactId ≠ some .preserved) :
    ∃ e, collectAll (a :: rest) s = .error e s := by
  simp [collectAll, bind_run, hs]

/-- Review stops at an artifact that is not collected. -/
theorem reviewAll_refused {a : EvidenceArtifact} (c : Command) (rest : List EvidenceArtifact)
    (selected : List String) (claims : PyDict (Finset String)) {s : KernelState}
    (hs : s.projection.evidenceStatus.get? a.artifactId ≠ some .collected) :
    ∃ e, reviewAll c (a :: rest) selected claims s = .error e s := by
  simp [reviewAll, bind_run, hs]

/-- One pass of review selects a responsive artifact that is not privileged. -/
theorem reviewAll_placed {a : EvidenceArtifact} {created : CustodyStep}
    (hf : a.firstStep = .ok created) (c : Command) {log : List CustodyStep}
    (rest : List EvidenceArtifact) (selected : List String) (claims : PyDict (Finset String))
    {s : KernelState} (hs : s.projection.evidenceStatus.get? a.artifactId = some .collected)
    (hl : s.projection.custodyLog.get? a.artifactId = some log)
    (hr : a.responsive = true ∧ ¬ a.privileged = true) :
    reviewAll c (a :: rest) selected claims s =
      reviewAll c rest (selected ++ [a.artifactId]) (addClaims claims a.claims)
        { s with
          projection := s.projection.place a.artifactId .reviewed
            (log ++ [⟨"reviewed", c.actorId, 51, created.objectHash⟩]) } := by
  simp only [reviewAll, setEvidenceStatus, extendLog, modifyProjection, bind_run, get_run, hs,
    ne_eq, not_true_eq_false, decide_false, raiseIf_false, handled_of_firstStep hf]
  rw [if_pos hr]
  simp only [bind_run, modify_run, assign_run, PyDict.getItem_eq_ok.2 hl]
  rfl

/-- One such pass on an artifact in custody. -/
theorem reviewAll_reviewed {a : EvidenceArtifact} (hc : a.Custodied) (c : Command)
    {log : List CustodyStep} (rest : List EvidenceArtifact) (selected : List String)
    (claims : PyDict (Finset String)) {s : KernelState}
    (hs : s.projection.evidenceStatus.get? a.artifactId = some .collected)
    (hl : s.projection.custodyLog.get? a.artifactId = some log)
    (hr : a.responsive = true ∧ ¬ a.privileged = true) :
    reviewAll c (a :: rest) selected claims s =
      reviewAll c rest (selected ++ [a.artifactId]) (addClaims claims a.claims)
        { s with projection :=
          s.projection.place a.artifactId .reviewed (log ++ [a.reviewedBy c.actorId]) } :=
  reviewAll_placed (firstStep_custodied hc) c rest selected claims hs hl hr

/-- One pass of review withholds every other artifact. -/
theorem reviewAll_withheld {a : EvidenceArtifact} (c : Command) (rest : List EvidenceArtifact)
    (selected : List String) (claims : PyDict (Finset String)) {s : KernelState}
    (hs : s.projection.evidenceStatus.get? a.artifactId = some .collected)
    (hr : ¬ (a.responsive = true ∧ ¬ a.privileged = true)) :
    reviewAll c (a :: rest) selected claims s =
      reviewAll c rest selected claims
        { s with projection := s.projection.withhold a.artifactId } := by
  simp only [reviewAll, setEvidenceStatus, modifyProjection, bind_run, get_run, hs,
    ne_eq, not_true_eq_false, decide_false, raiseIf_false]
  rw [if_neg hr]
  rfl

/-- One pass of production extends the log and lists the artifact. -/
theorem produceAll_placed {k : Kernel} {a : EvidenceArtifact} {created : CustodyStep}
    (hf : a.firstStep = .ok created) (c : Command) {log : List CustodyStep} (rest : List String)
    {s : KernelState} (ha : k.artifact a.artifactId = .ok a)
    (hl : s.projection.custodyLog.get? a.artifactId = some log) :
    produceAll k c (a.artifactId :: rest) s =
      produceAll k c rest
        { s with
          projection := s.projection.produce a
            (log ++ [⟨"produced", c.actorId, 52, created.objectHash⟩]) } := by
  simp only [produceAll, setEvidenceStatus, extendLog, modifyProjection, bind_run, attempt_ok, ha,
    modify_run, assign_run, PyDict.getItem_eq_ok.2 hl, handled_of_firstStep hf]
  rfl

/-- One pass of production on an artifact in custody. -/
theorem produceAll_cons {k : Kernel} {a : EvidenceArtifact} (hc : a.Custodied) (c : Command)
    {log : List CustodyStep} (rest : List String) {s : KernelState}
    (ha : k.artifact a.artifactId = .ok a)
    (hl : s.projection.custodyLog.get? a.artifactId = some log) :
    produceAll k c (a.artifactId :: rest) s =
      produceAll k c rest
        { s with projection := s.projection.produce a (log ++ [a.producedBy c.actorId]) } :=
  produceAll_placed (firstStep_custodied hc) c rest ha hl

/-! ## The inventory -/

section
variable {k : Kernel}

/-- The inventory of an employment bundle names each artifact once. -/
theorem nodup_inventory (hk : k.bundle.Employment) :
    (k.bundle.matter.evidenceInventory.map (·.artifactId)).Nodup := by
  rw [hk.evidenceInventory]
  exact nodup_employmentEvidence

/-- The artifacts of an employment bundle are in custody. -/
theorem custodied_inventory (hk : k.bundle.Employment) :
    ∀ a ∈ k.bundle.matter.evidenceInventory, a.Custodied := by
  rw [hk.evidenceInventory]
  exact custodied_employmentEvidence

/-- An artifact is found by its id. -/
theorem artifact_of_mem
    (hnodup : (k.bundle.matter.evidenceInventory.map (·.artifactId)).Nodup) {a : EvidenceArtifact}
    (ha : a ∈ k.bundle.matter.evidenceInventory) :
    k.artifact a.artifactId = .ok a := by
  unfold Kernel.artifact
  cases hf : k.bundle.matter.evidenceInventory.find? (·.artifactId = a.artifactId) with
  | none => exact absurd (List.find?_eq_none.1 hf a ha) (by simp)
  | some b =>
    have hid : b.artifactId = a.artifactId := by simpa using List.find?_some hf
    rw [List.inj_on_of_nodup_map hnodup (List.mem_of_find?_eq_some hf) ha hid]

/-- What is selected is in the inventory and reviewed. -/
theorem mem_selected {p : Projection} {id : String} (h : id ∈ k.selected p) :
    (∃ a ∈ k.bundle.matter.evidenceInventory, a.artifactId = id) ∧
      p.evidenceStatus.get? id = some .reviewed := by
  obtain ⟨hmem, hst⟩ := List.mem_filter.1 h
  exact ⟨List.mem_map.1 hmem, by simpa using hst⟩

end

end LawFirmDigitalTwin
