import LawFirmDigitalTwin.Kernel.Evidence
import LawFirmDigitalTwin.Kernel.Workflow

/-!
# The chain of custody

Four verbs move an artifact from stage to stage: preserved, collected, reviewed or withheld, and
produced. `Stage` lists what the projection holds of an artifact at each stage, and one pass of each
loop takes an artifact from one stage to the next and only appends to its log. The exception is
`issue_preservation`: it does not look at the status it overwrites, so that preserving a second time
cuts every log back to its first step. `chain_of_custody` is about the runs that preserve before
they collect; `preserves_again` is a run that does not.
-/

namespace LawFirmDigitalTwin

open Raising

/-- The custody log of an artifact; empty when it has none. -/
def Projection.log (p : Projection) (id : String) : List CustodyStep :=
  (p.custodyLog.get? id).getD []

/-- Every custody log is a prefix of what it becomes. -/
def LogsGrow (p p' : Projection) : Prop := ∀ id, p.log id <+: p'.log id

/-- A log with all five steps of a production, in the order of their days, over one object hash,
which is the hash of the artifact's content. -/
structure ChainComplete (a : EvidenceArtifact) (log : List CustodyStep) : Prop where
  actions : ∀ action ∈ ["created", "collected", "hashed", "reviewed", "produced"],
    ∃ step ∈ log, step.action = action
  days : (log.map (·.simulatedDay)).Pairwise (· ≤ ·)
  objectHash : ∀ step ∈ log, step.objectHash = a.contentHash

/-- No artifact is produced twice, and each artifact that is produced has a complete chain. -/
structure ProductionsInCustody (k : Kernel) (p : Projection) : Prop where
  nodup : p.producedArtifactIds.Nodup
  complete : ∀ id ∈ p.producedArtifactIds,
    ∃ a ∈ k.bundle.matter.evidenceInventory, a.artifactId = id ∧ ChainComplete a (p.log id)

/-- A preservation finds no log with more than its first step. -/
def PreservesFirst (k : Kernel) (s : KernelState) (c : Command) : Prop :=
  ∀ a, k.admit s c = .ok a → a.verb = .issuePreservation →
    ∀ id, (s.projection.log id).length ≤ 1

/-! ## The stages of an artifact -/

/-- What the projection holds of one artifact: its status, its log, and how often it was
produced. -/
structure Holding where
  status : Option EvidenceStatus
  log : Option (List CustodyStep)
  productions : Nat

def Projection.holding (p : Projection) (id : String) : Holding where
  status := p.evidenceStatus.get? id
  log := p.custodyLog.get? id
  productions := p.producedArtifactIds.count id

/-- The stages of an artifact. -/
inductive Stage (a : EvidenceArtifact) : Holding → Prop
  | unknown : Stage a ⟨none, none, 0⟩
  | preserved : Stage a ⟨some .preserved, some (a.custody.take 1), 0⟩
  | collected : Stage a ⟨some .collected, some a.custody, 0⟩
  | withheld : Stage a ⟨some .withheldNonresponsive, some a.custody, 0⟩
  | reviewed (x : String) : Stage a ⟨some .reviewed, some (a.custody ++ [a.reviewedBy x]), 0⟩
  | produced (x y : String) :
    Stage a ⟨some .produced, some (a.custody ++ [a.reviewedBy x, a.producedBy y]), 1⟩

/-- Each artifact of the inventory is at a stage, and the projection holds nothing else. -/
structure InCustody (inventory : List EvidenceArtifact) (p : Projection) : Prop where
  stage : ∀ a ∈ inventory, Stage a (p.holding a.artifactId)
  other : ∀ id, (∀ a ∈ inventory, a.artifactId ≠ id) → p.holding id = ⟨none, none, 0⟩

/-- The projections differ at most in what they hold of one artifact, which ends at a stage, with a
log that grew. -/
structure Handled (a : EvidenceArtifact) (p p' : Projection) : Prop where
  others : ∀ id, id ≠ a.artifactId → p'.holding id = p.holding id
  stage : Stage a (p'.holding a.artifactId)
  log : p.log a.artifactId <+: p'.log a.artifactId

/-- From an inventory in custody, custody is kept and the logs grow. -/
def KeepsCustody (inventory : List EvidenceArtifact) (p p' : Projection) : Prop :=
  InCustody inventory p → InCustody inventory p' ∧ LogsGrow p p'

section
variable {inventory : List EvidenceArtifact} {p p' p'' : Projection} {a : EvidenceArtifact}

/-- Every log is a prefix of itself. -/
theorem LogsGrow.refl (p : Projection) : LogsGrow p p := fun _ => List.prefix_refl _

/-- Logs that grow twice grow. -/
theorem LogsGrow.trans (h : LogsGrow p p') (h' : LogsGrow p' p'') : LogsGrow p p'' :=
  fun id => (h id).trans (h' id)

/-- A projection keeps its own custody. -/
theorem KeepsCustody.refl (p : Projection) : KeepsCustody inventory p p :=
  fun h => ⟨h, .refl p⟩

/-- Custody that is kept twice is kept. -/
theorem KeepsCustody.trans (h : KeepsCustody inventory p p')
    (h' : KeepsCustody inventory p' p'') : KeepsCustody inventory p p'' := by
  intro hi
  obtain ⟨hi', hgrow⟩ := h hi
  obtain ⟨hi'', hgrow'⟩ := h' hi'
  exact ⟨hi'', hgrow.trans hgrow'⟩

/-- What the projection holds of every artifact stays as it was. -/
theorem KeepsCustody.of_same (h : ∀ id, p'.holding id = p.holding id) :
    KeepsCustody inventory p p' := by
  intro hi
  refine ⟨⟨fun a ha => by rw [h]; exact hi.stage a ha, fun id hid => by rw [h]; exact hi.other id hid⟩,
    fun id => ?_⟩
  have hlog : p'.log id = p.log id := congrArg (fun x => x.log.getD []) (h id)
  rw [hlog]

/-- One artifact handled keeps the inventory in custody. -/
theorem KeepsCustody.of_handled (hnodup : (inventory.map (·.artifactId)).Nodup)
    (ha : a ∈ inventory) (h : Handled a p p') : KeepsCustody inventory p p' := by
  intro hi
  refine ⟨⟨fun b hb => ?_, fun id hid => ?_⟩, fun id => ?_⟩
  · by_cases hba : b.artifactId = a.artifactId
    · have heq : b = a := List.inj_on_of_nodup_map hnodup hb ha hba
      rw [heq]
      exact h.stage
    · rw [h.others _ hba]
      exact hi.stage b hb
  · rw [h.others id fun hida => hid a ha hida.symm]
    exact hi.other id hid
  · by_cases hida : id = a.artifactId
    · rw [hida]
      exact h.log
    · have hlog : p'.log id = p.log id := congrArg (fun x => x.log.getD []) (h.others id hida)
      rw [hlog]

/-! ## Setting a status and a log -/

/-- What is held of an artifact that is placed. -/
theorem holding_place_self (id : String) (status : EvidenceStatus) (log : List CustodyStep) :
    (p.place id status log).holding id = ⟨some status, some log, (p.holding id).productions⟩ := by
  simp [Projection.holding, Projection.place]

/-- Placing an artifact leaves what is held of the others. -/
theorem holding_place_ne {id id' : String} (status : EvidenceStatus) (log : List CustodyStep)
    (h : id' ≠ id) : (p.place id status log).holding id' = p.holding id' := by
  simp [Projection.holding, Projection.place, PyDict.get?_set_ne _ _ h]

/-- An artifact is placed at a stage, with a log that extends the one it had. -/
theorem Handled.place {status : EvidenceStatus} {log : List CustodyStep}
    (hstage : Stage a ⟨some status, some log, (p.holding a.artifactId).productions⟩)
    (hlog : p.log a.artifactId <+: log) : Handled a p (p.place a.artifactId status log) where
  others _ h := holding_place_ne status log h
  stage := by rw [holding_place_self]; exact hstage
  log := by
    have hself : (p.place a.artifactId status log).log a.artifactId = log := by
      simp [Projection.log, Projection.place]
    rw [hself]
    exact hlog

/-! ## What a stage fixes -/

/-- An artifact with at most one step is not further than preserved. -/
theorem Stage.of_short {x : Holding} (h : Stage a x) (hc : a.Custodied)
    (hlen : (x.log.getD []).length ≤ 1) :
    x.log.getD [] <+: a.custody.take 1 ∧ x.productions = 0 := by
  cases h with
  | unknown => exact ⟨List.nil_prefix, rfl⟩
  | preserved => exact ⟨List.prefix_refl _, rfl⟩
  | collected | withheld | reviewed | produced => simp [hc.custody] at hlen

/-- What is held of a preserved artifact. -/
theorem Stage.of_preserved {x : Holding} (h : Stage a x) (hs : x.status = some .preserved) :
    x = ⟨some .preserved, some (a.custody.take 1), 0⟩ := by
  cases h with
  | preserved => rfl
  | unknown | collected | withheld | reviewed | produced => cases hs

/-- What is held of a collected artifact. -/
theorem Stage.of_collected {x : Holding} (h : Stage a x) (hs : x.status = some .collected) :
    x = ⟨some .collected, some a.custody, 0⟩ := by
  cases h with
  | collected => rfl
  | unknown | preserved | withheld | reviewed | produced => cases hs

/-- What is held of a reviewed artifact. -/
theorem Stage.of_reviewed {x : Holding} (h : Stage a x) (hs : x.status = some .reviewed) :
    ∃ actorId, x = ⟨some .reviewed, some (a.custody ++ [a.reviewedBy actorId]), 0⟩ := by
  cases h with
  | reviewed actorId => exact ⟨actorId, rfl⟩
  | unknown | preserved | collected | withheld | produced => cases hs

/-- An artifact is produced once at most. -/
theorem Stage.productions_le {x : Holding} (h : Stage a x) : x.productions ≤ 1 := by
  cases h <;> simp

/-- The log of a produced artifact is complete. -/
theorem Stage.complete {x : Holding} (h : Stage a x) (hc : a.Custodied)
    (hx : x.productions ≠ 0) : ChainComplete a (x.log.getD []) := by
  cases h with
  | produced x y =>
    have hlog : a.custody ++ [a.reviewedBy x, a.producedBy y] =
        [⟨"created", a.authorId, a.createdDay, a.contentHash⟩,
         ⟨"collected", "litigation_paralegal", 50, a.contentHash⟩,
         ⟨"hashed", "litigation_paralegal", 50, a.contentHash⟩,
         ⟨"reviewed", x, 51, a.contentHash⟩, ⟨"produced", y, 52, a.contentHash⟩] := by
      rw [hc.custody]; rfl
    have h50 : a.createdDay ≤ 50 := hc.createdDay
    have h51 : a.createdDay ≤ 51 := by omega
    have h52 : a.createdDay ≤ 52 := by omega
    rw [Option.getD_some, hlog]
    exact ⟨by simp, by simp [h50, h51, h52], by simp⟩
  | unknown | preserved | collected | withheld | reviewed => exact absurd rfl hx

end

/-! ## The loops as a whole -/

/-- The log of an artifact that has one. -/
theorem log_eq {p : Projection} {id : String} {log : List CustodyStep}
    (h : p.custodyLog.get? id = some log) : p.log id = log := by
  rw [Projection.log, h]; rfl

/-- What is held after an artifact is withheld. -/
theorem holding_withhold (p : Projection) (id id' : String) :
    (p.withhold id).holding id' =
      if id' = id then ⟨some .withheldNonresponsive, p.custodyLog.get? id',
        p.producedArtifactIds.count id'⟩ else p.holding id' := by
  unfold Projection.withhold Projection.holding
  rw [PyDict.get?_set]
  split <;> rfl

section
variable {inventory : List EvidenceArtifact} (hnodup : (inventory.map (·.artifactId)).Nodup)
  (hcustodied : ∀ a ∈ inventory, a.Custodied)

include hnodup hcustodied

/-- A preservation that finds no log with more than its first step. -/
theorem custody_preserveAll {l : List EvidenceArtifact} (hl : ∀ a ∈ l, a ∈ inventory)
    {s : KernelState} (hs : ∀ id, (s.projection.log id).length ≤ 1) :
    KeepsCustody inventory s.projection (final (preserveAll l s)).projection := by
  induction l generalizing s with
  | nil => exact .refl _
  | cons a rest ih =>
    have ha : a ∈ inventory := hl a (.head _)
    have hc := hcustodied a ha
    intro hi
    obtain ⟨hlog, hzero⟩ := (hi.stage a ha).of_short hc (hs a.artifactId)
    have hh : Handled a s.projection
        (s.projection.place a.artifactId .preserved (a.custody.take 1)) :=
      .place (by rw [hzero]; exact .preserved) hlog
    have hs' (id : String) :
        ((s.projection.place a.artifactId .preserved (a.custody.take 1)).log id).length ≤ 1 := by
      unfold Projection.log Projection.place
      rw [PyDict.get?_set]
      split
      · rw [hc.custody]; exact Nat.le_refl 1
      · exact hs id
    rw [preserveAll_cons hc]
    have hrest := ih (fun b hb => hl b (.tail _ hb)) (s := { s with
      projection := s.projection.place a.artifactId .preserved (a.custody.take 1) }) hs'
    exact (KeepsCustody.of_handled hnodup ha hh).trans hrest hi

omit hcustodied in
/-- The loop of collection keeps the custody. -/
theorem custody_collectAll {l : List EvidenceArtifact} (hl : ∀ a ∈ l, a ∈ inventory)
    (s : KernelState) :
    KeepsCustody inventory s.projection (final (collectAll l s)).projection := by
  induction l generalizing s with
  | nil => exact .refl _
  | cons a rest ih =>
    have ha : a ∈ inventory := hl a (.head _)
    by_cases hst : s.projection.evidenceStatus.get? a.artifactId = some .preserved
    · intro hi
      have hx := (hi.stage a ha).of_preserved hst
      have hlog : s.projection.custodyLog.get? a.artifactId = some (a.custody.take 1) :=
        congrArg Holding.log hx
      have hh : Handled a s.projection (s.projection.place a.artifactId .collected a.custody) := by
        refine .place (by rw [hx]; exact .collected) ?_
        rw [log_eq hlog]
        exact List.take_prefix 1 a.custody
      rw [collectAll_cons rest hst hlog, List.take_append_drop]
      have hrest := ih (fun b hb => hl b (.tail _ hb))
        { s with projection := s.projection.place a.artifactId .collected a.custody }
      exact (KeepsCustody.of_handled hnodup ha hh).trans hrest hi
    · obtain ⟨e, he⟩ := collectAll_refused rest hst
      rw [he]
      exact .refl _

/-- The loop of review keeps the custody. -/
theorem custody_reviewAll (c : Command) {l : List EvidenceArtifact}
    (hl : ∀ a ∈ l, a ∈ inventory) (selected : List String) (claims : PyDict (Finset String))
    (s : KernelState) :
    KeepsCustody inventory s.projection (final (reviewAll c l selected claims s)).projection := by
  induction l generalizing s selected claims with
  | nil => exact .refl _
  | cons a rest ih =>
    have ha : a ∈ inventory := hl a (.head _)
    have hsub : ∀ b ∈ rest, b ∈ inventory := fun b hb => hl b (.tail _ hb)
    by_cases hst : s.projection.evidenceStatus.get? a.artifactId = some .collected
    · intro hi
      have hx := (hi.stage a ha).of_collected hst
      have hlog : s.projection.custodyLog.get? a.artifactId = some a.custody :=
        congrArg Holding.log hx
      have hzero : s.projection.producedArtifactIds.count a.artifactId = 0 :=
        congrArg Holding.productions hx
      by_cases hr : a.responsive = true ∧ ¬ a.privileged = true
      · have hh : Handled a s.projection (s.projection.place a.artifactId .reviewed
            (a.custody ++ [a.reviewedBy c.actorId])) := by
          refine .place (by rw [hx]; exact .reviewed _) ?_
          rw [log_eq hlog]
          exact List.prefix_append _ _
        rw [reviewAll_reviewed (hcustodied a ha) c rest _ _ hst hlog hr]
        have hrest := ih hsub (selected ++ [a.artifactId]) (addClaims claims a.claims)
          { s with
            projection := s.projection.place a.artifactId .reviewed
              (a.custody ++ [a.reviewedBy c.actorId]) }
        exact (KeepsCustody.of_handled hnodup ha hh).trans hrest hi
      · have hh : Handled a s.projection (s.projection.withhold a.artifactId) := by
          refine ⟨fun id hid => ?_, ?_, List.prefix_refl _⟩
          · rw [holding_withhold, if_neg hid]
          · rw [holding_withhold, if_pos rfl, hlog, hzero]
            exact .withheld
        rw [reviewAll_withheld c rest _ _ hst hr]
        have hrest := ih hsub selected claims
          { s with projection := s.projection.withhold a.artifactId }
        exact (KeepsCustody.of_handled hnodup ha hh).trans hrest hi
    · obtain ⟨e, he⟩ := reviewAll_refused c rest selected claims hst
      rw [he]
      exact .refl _

end

section
variable {k : Kernel} (hnodup : (k.bundle.matter.evidenceInventory.map (·.artifactId)).Nodup)
  (hcustodied : ∀ a ∈ k.bundle.matter.evidenceInventory, a.Custodied)

/-- Producing a reviewed artifact is its next stage. -/
theorem handled_produce {p : Projection} {a : EvidenceArtifact} {x : String} (y : String)
    (h : p.holding a.artifactId = ⟨some .reviewed, some (a.custody ++ [a.reviewedBy x]), 0⟩) :
    Handled a p (p.produce a (a.custody ++ [a.reviewedBy x] ++ [a.producedBy y])) := by
  have hlog : p.custodyLog.get? a.artifactId = some (a.custody ++ [a.reviewedBy x]) :=
    congrArg Holding.log h
  have hzero : p.producedArtifactIds.count a.artifactId = 0 := congrArg Holding.productions h
  refine ⟨fun id hid => ?_, ?_, ?_⟩
  · simp [Projection.holding, Projection.produce, Projection.place, PyDict.get?_set_ne _ _ hid,
      Ne.symm hid]
  · have hself : (p.produce a (a.custody ++ [a.reviewedBy x] ++ [a.producedBy y])).holding
        a.artifactId =
        ⟨some .produced, some (a.custody ++ [a.reviewedBy x, a.producedBy y]), 1⟩ := by
      simp [Projection.holding, Projection.produce, Projection.place, hzero]
    rw [hself]
    exact .produced x y
  · rw [log_eq hlog, log_eq (PyDict.get?_set_self _ _ _)]
    exact List.prefix_append _ _

include hnodup hcustodied

/-- A production of artifacts that were reviewed. -/
theorem custody_produceAll (c : Command) {ids : List String} (hids : ids.Nodup) {s : KernelState}
    (hl : ∀ id ∈ ids, (∃ a ∈ k.bundle.matter.evidenceInventory, a.artifactId = id) ∧
      s.projection.evidenceStatus.get? id = some .reviewed) :
    KeepsCustody k.bundle.matter.evidenceInventory s.projection
      (final (produceAll k c ids s)).projection := by
  induction ids generalizing s with
  | nil => exact .refl _
  | cons id rest ih =>
    obtain ⟨⟨a, ha, rfl⟩, hst⟩ := hl id (.head _)
    intro hi
    obtain ⟨x, hx⟩ := (hi.stage a ha).of_reviewed hst
    have hlog : s.projection.custodyLog.get? a.artifactId =
        some (a.custody ++ [a.reviewedBy x]) := congrArg Holding.log hx
    rw [produceAll_cons (hcustodied a ha) c rest (artifact_of_mem hnodup ha) hlog]
    obtain ⟨hfresh, hrest⟩ := List.nodup_cons.1 hids
    have hnext := ih hrest (s := { s with
      projection := s.projection.produce a
        (a.custody ++ [a.reviewedBy x] ++ [a.producedBy c.actorId]) })
      fun id hid => by
        have hne : id ≠ a.artifactId := fun heq => hfresh (heq ▸ hid)
        exact ⟨(hl id (.tail _ hid)).1, (PyDict.get?_set_ne _ _ hne).trans (hl id (.tail _ hid)).2⟩
    exact (KeepsCustody.of_handled hnodup ha (handled_produce c.actorId hx)).trans hnext hi

end

/-! ## One call -/

/-- Between two states custody is kept and the logs grow. -/
def StateKeepsCustody (inventory : List EvidenceArtifact) (s s' : KernelState) : Prop :=
  KeepsCustody inventory s.projection s'.projection

instance (inventory : List EvidenceArtifact) : Std.Refl (StateKeepsCustody inventory) where
  refl s := .refl s.projection

instance (inventory : List EvidenceArtifact) :
    IsTrans KernelState (StateKeepsCustody inventory) where
  trans _ _ _ h₁ h₂ := KeepsCustody.trans h₁ h₂

section
variable {k : Kernel} {s : KernelState} {c : Command} (hk : k.bundle.Employment)

include hk

/-- The branch of production keeps the custody. -/
theorem custody_produceDiscovery (c : Command) (s : KernelState) :
    StateKeepsCustody k.bundle.matter.evidenceInventory s (final (produceDiscovery k c s)) := by
  unfold produceDiscovery
  rw [final_get_bind, final_raiseIf_bind]
  split
  · refine Keeps.after ?_ fun _ => .bind (.attempt _) fun _ => .pure _
    refine custody_produceAll (nodup_inventory hk) (custodied_inventory hk) c ?_
      fun id hid => mem_selected hid
    exact (nodup_inventory hk).filter _
  · exact Std.Refl.refl s

/-- **A branch takes artifacts from stage to stage and only appends to their logs**, if it does not
preserve over a longer log. -/
theorem custody_branch (c : Command) (v : Verb) (s : KernelState)
    (hv : v = .issuePreservation → ∀ id, (s.projection.log id).length ≤ 1) :
    StateKeepsCustody k.bundle.matter.evidenceInventory s (final (branch k c v s)) := by
  cases v with
  | issuePreservation =>
    refine Keeps.after ?_ fun _ => .pure _
    exact custody_preserveAll (nodup_inventory hk) (custodied_inventory hk) (fun _ h => h) (hv rfl)
  | collectEvidence =>
    refine Keeps.after ?_ fun _ => .pure _
    exact custody_collectAll (nodup_inventory hk) (fun _ h => h) s
  | reviewEvidence =>
    refine Keeps.after ?_ fun r => .bind ?_ fun _ => .pure _
    · exact custody_reviewAll (nodup_inventory hk) (custodied_inventory hk) c (fun _ h => h) _ _ s
    · exact .modify fun _ => .of_same fun _ => rfl
  | produceDiscovery => exact custody_produceDiscovery hk c s
  | _ =>
    obtain ⟨p, hp, hframe⟩ := keeps_branch k c _ s
    rw [hp]
    refine .of_same fun id => ?_
    have hevidence := hframe .evidence (by decide)
    have hproduction := hframe .production (by decide)
    show Holding.mk (p.evidenceStatus.get? id) (p.custodyLog.get? id)
      (p.producedArtifactIds.count id) = s.projection.holding id
    rw [hevidence.1, hevidence.2, show p.producedArtifactIds = _ from hproduction]
    rfl

/-- One call that preserves first keeps custody, and its logs grow. -/
theorem custody_step (hc : PreservesFirst k s c) :
    StateKeepsCustody k.bundle.matter.evidenceInventory s (k.step s c) := by
  cases h : k.admit s c with
  | error r =>
    refine .of_same fun id => ?_
    rw [(step_idle h).projection]
    rfl
  | ok a =>
    have hb := custody_branch hk c a.verb s.tick fun hv => hc a h hv
    unfold StateKeepsCustody
    rw [(step_effect h).projection]
    exact hb

omit hk in
/-- In the beginning nothing is held of any artifact. -/
theorem inCustody_initial : InCustody k.bundle.matter.evidenceInventory k.initial.projection :=
  ⟨fun _ _ => .unknown, fun _ _ => rfl⟩

/-- In custody nothing is produced twice, and every chain of a production is complete. -/
theorem InCustody.productions {p : Projection}
    (h : InCustody k.bundle.matter.evidenceInventory p) : ProductionsInCustody k p := by
  have hfound (id : String) (hid : id ∈ p.producedArtifactIds) :
      ∃ a ∈ k.bundle.matter.evidenceInventory, a.artifactId = id := by
    by_contra hno
    have hnone := h.other id fun a ha heq => hno ⟨a, ha, heq⟩
    have hzero : p.producedArtifactIds.count id = 0 := congrArg Holding.productions hnone
    exact List.count_eq_zero.1 hzero hid
  constructor
  · refine List.nodup_iff_count_le_one.2 fun id => ?_
    by_cases hid : id ∈ p.producedArtifactIds
    · obtain ⟨a, ha, rfl⟩ := hfound id hid
      exact (h.stage a ha).productions_le
    · rw [List.count_eq_zero_of_not_mem hid]
      exact Nat.zero_le 1
  · intro id hid
    obtain ⟨a, ha, rfl⟩ := hfound id hid
    refine ⟨a, ha, rfl, (h.stage a ha).complete (custodied_inventory hk a ha) ?_⟩
    exact fun hzero => List.count_eq_zero.1 hzero hid

/-- **Chain of custody.** Over a built bundle, in every run that preserves first, every call only
appends to the custody logs, no artifact is produced twice, and each artifact that is produced has
its five steps on record, over the hash of its content and in the order of their days. -/
theorem chain_of_custody {cs : List Command}
    (hc : Machine.AllSteps k.step (PreservesFirst k) k.initial cs) :
    Machine.AllSteps k.step (fun s c => LogsGrow s.projection (k.step s c).projection)
        k.initial cs ∧
      ProductionsInCustody k (k.run cs).projection := by
  have hstep (s : KernelState) (c : Command)
      (hi : InCustody k.bundle.matter.evidenceInventory s.projection) (h : PreservesFirst k s c) :=
    custody_step hk h hi
  constructor
  · exact hc.imp_of (fun s c hi h => ⟨(hstep s c hi h).2, (hstep s c hi h).1⟩)
      inCustody_initial
  · have hrun := Machine.run_invariant_of
      (I := fun s => InCustody k.bundle.matter.evidenceInventory s.projection)
      (fun s c hi h => (hstep s c hi h).1) inCustody_initial hc
    exact InCustody.productions hk hrun

end

/-! ## The scripted workflow, and a second preservation -/

/-- A command of another verb preserves nothing. -/
theorem preservesFirst_of_verb {k : Kernel} {s : KernelState} {c : Command}
    (h : c.verb ≠ Verb.issuePreservation.name) : PreservesFirst k s c := by
  intro a ha hv
  have hname := Verb.name_of_ofName? (admit_ok ha).verb
  exact absurd (by rw [← hname, hv]) h

/-- The scripted workflow preserves once, before it collects. -/
theorem chain_of_custody_alpha :
    Machine.AllSteps alphaKernel.step
        (fun s c => LogsGrow s.projection (alphaKernel.step s c).projection)
        alphaKernel.initial alphaWorkflow ∧
      ProductionsInCustody alphaKernel (alphaKernel.run alphaWorkflow).projection := by
  have hbefore : ∀ c ∈ alphaWorkflow.take 6, c.verb ≠ Verb.issuePreservation.name := by
    decide +kernel
  have hafter : ∀ c ∈ alphaWorkflow.drop 7, c.verb ≠ Verb.issuePreservation.name := by
    decide +kernel
  have hempty : (alphaKernel.run (alphaWorkflow.take 6)).projection.custodyLog = ∅ := by
    decide +kernel
  obtain ⟨preserve, hdrop⟩ : ∃ c, alphaWorkflow.drop 6 = c :: alphaWorkflow.drop 7 :=
    ⟨_, List.drop_eq_getElem_cons (by decide +kernel)⟩
  refine chain_of_custody alphaKernel_employment ?_
  rw [← List.take_append_drop 6 alphaWorkflow, hdrop, Machine.allSteps_append]
  refine ⟨.of_forall_mem (fun c hc _ => preservesFirst_of_verb (hbefore c hc)) _, ?_,
    .of_forall_mem (fun c hc _ => preservesFirst_of_verb (hafter c hc)) _⟩
  intro a _ _ id
  have hlog : (alphaKernel.run (alphaWorkflow.take 6)).projection.log id = [] := by
    rw [Projection.log, hempty]; rfl
  exact (congrArg List.length hlog).trans_le (Nat.zero_le 1)

/-- The workflow preserves and collects; a second preservation is accepted and cuts the log of the
first artifact back to one step. -/
theorem preserves_again :
    ¬ ∀ (k : Kernel) (cs : List Command), k.bundle.Employment →
      Machine.AllSteps k.step (fun s c => returned (k.submit c s) = true →
        LogsGrow s.projection (k.step s c).projection) k.initial cs := by
  intro h
  have hagain : ∀ c ∈ (alphaWorkflow.drop 6).take 1,
      returned (alphaKernel.submit c (alphaKernel.run (alphaWorkflow.take 8))) = true ∧
      ((alphaKernel.run (alphaWorkflow.take 8)).projection.log "E-TERM-001").length = 3 ∧
      ((alphaKernel.step (alphaKernel.run (alphaWorkflow.take 8)) c).projection.log
        "E-TERM-001").length = 1 := by
    decide +kernel
  obtain ⟨preserve, hdrop⟩ : ∃ c, (alphaWorkflow.drop 6).take 1 = [c] :=
    List.length_eq_one_iff.1 (by decide +kernel)
  obtain ⟨hr, hthree, hone⟩ := hagain preserve (by rw [hdrop]; exact .head _)
  have hgrow := (h alphaKernel (alphaWorkflow.take 8 ++ [preserve]) alphaKernel_employment).at hr
  have hle := (hgrow "E-TERM-001").length_le
  have hle' : 3 ≤ 1 := hthree.symm.trans_le (hle.trans_eq hone)
  exact absurd hle' (by decide)

end LawFirmDigitalTwin
