import LawFirmDigitalTwin.Kernel.Evidence
import LawFirmDigitalTwin.Kernel.Workflow

/-!
# The phase of the inventory

The loops of `collect_evidence` and `review_evidence` write artifact by artifact and raise at the
first one whose status is wrong. Nothing is written before that only because the whole inventory is
always in one phase (`InPhase`): a loop raises at its first artifact or not at all. By the same
invariant every production is of all the artifacts that a review selects, which are the ones whose
claims the review has compared.
-/

namespace LawFirmDigitalTwin

open Raising

/-- What the inventory has gone through. -/
inductive EvidencePhase
  | untouched
  | preserved
  | collected
  | reviewed
  | produced

/-- A review selects the artifact. -/
def EvidenceArtifact.Selected (a : EvidenceArtifact) : Prop :=
  a.responsive = true ∧ ¬ a.privileged = true

instance (a : EvidenceArtifact) : Decidable a.Selected :=
  inferInstanceAs (Decidable (_ ∧ _))

/-- The status of an artifact in a phase. -/
def EvidencePhase.status (a : EvidenceArtifact) : EvidencePhase → Option EvidenceStatus
  | .untouched => none
  | .preserved => some .preserved
  | .collected => some .collected
  | .reviewed => some (if a.Selected then .reviewed else .withheldNonresponsive)
  | .produced => some (if a.Selected then .produced else .withheldNonresponsive)

/-- Every artifact of the inventory is in the phase, with a log once it was preserved. -/
structure InPhase (inventory : List EvidenceArtifact) (phase : EvidencePhase) (p : Projection) :
    Prop where
  status : ∀ a ∈ inventory, p.evidenceStatus.get? a.artifactId = phase.status a
  logged : phase ≠ .untouched → ∀ a ∈ inventory, (p.custodyLog.get? a.artifactId).isSome = true

/-- Between two projections the artifacts of a list have taken the status, with a log, and the
status of every other one has stayed. -/
structure Moved (l : List EvidenceArtifact) (status : EvidenceArtifact → Option EvidenceStatus)
    (p p' : Projection) : Prop where
  moved : ∀ a ∈ l, p'.evidenceStatus.get? a.artifactId = status a
  logged : ∀ a ∈ l, (p'.custodyLog.get? a.artifactId).isSome = true
  stayed : ∀ id, (∀ a ∈ l, a.artifactId ≠ id) →
    p'.evidenceStatus.get? id = p.evidenceStatus.get? id
  kept : ∀ id, (p.custodyLog.get? id).isSome = true → (p'.custodyLog.get? id).isSome = true

section
variable {inventory rest : List EvidenceArtifact} {a : EvidenceArtifact} {p p₁ p' : Projection}
  {phase : EvidencePhase} {status : EvidenceArtifact → Option EvidenceStatus}

/-- Nothing is moved. -/
theorem Moved.nil (status : EvidenceArtifact → Option EvidenceStatus) (p : Projection) :
    Moved [] status p p :=
  ⟨by simp, by simp, fun _ _ => rfl, fun _ h => h⟩

/-- One artifact is moved, then the others. -/
theorem Moved.cons (hfresh : a.artifactId ∉ rest.map (·.artifactId))
    (h₁ : Moved [a] status p p₁) (h₂ : Moved rest status p₁ p') :
    Moved (a :: rest) status p p' where
  moved b hb := by
    rcases List.mem_cons.1 hb with rfl | hb
    · rw [h₂.stayed b.artifactId fun c hc heq => hfresh (List.mem_map.2 ⟨c, hc, heq⟩)]
      exact h₁.moved b (.head _)
    · exact h₂.moved b hb
  logged b hb := by
    rcases List.mem_cons.1 hb with rfl | hb
    · exact h₂.kept _ (h₁.logged b (.head _))
    · exact h₂.logged b hb
  stayed id hid := by
    rw [h₂.stayed id fun b hb => hid b (.tail _ hb)]
    exact h₁.stayed id fun b hb => by
      rw [List.mem_singleton.1 hb]
      exact hid a (.head _)
  kept id hid := h₂.kept id (h₁.kept id hid)

/-- One artifact takes a status. -/
theorem Moved.single {st : EvidenceStatus}
    (hstatus : p'.evidenceStatus = p.evidenceStatus.set a.artifactId st)
    (hlog : (p'.custodyLog.get? a.artifactId).isSome = true)
    (hkept : ∀ id, id ≠ a.artifactId → p'.custodyLog.get? id = p.custodyLog.get? id)
    (hst : status a = some st) : Moved [a] status p p' where
  moved b hb := by
    rw [List.mem_singleton.1 hb, hstatus, PyDict.get?_set_self, hst]
  logged b hb := by
    rw [List.mem_singleton.1 hb]
    exact hlog
  stayed id hid := by
    rw [hstatus, PyDict.get?_set_ne _ _ (Ne.symm (hid a (.head _)))]
  kept id hid := by
    by_cases heq : id = a.artifactId
    · rw [heq]
      exact hlog
    · rw [hkept id heq]
      exact hid

/-- Placing an artifact moves it. -/
theorem Moved.place {st : EvidenceStatus} (log : List CustodyStep) (hst : status a = some st) :
    Moved [a] status p (p.place a.artifactId st log) :=
  .single rfl (by simp [Projection.place])
    (fun _ hid => PyDict.get?_set_ne _ _ hid) hst

/-- Withholding an artifact moves it. -/
theorem Moved.withhold (hlog : (p.custodyLog.get? a.artifactId).isSome = true)
    (hst : status a = some .withheldNonresponsive) :
    Moved [a] status p (p.withhold a.artifactId) :=
  .single rfl hlog (fun _ _ => rfl) hst

/-- When all are moved, the inventory is in the phase. -/
theorem InPhase.of_moved (h : Moved inventory phase.status p p') :
    InPhase inventory phase p' :=
  ⟨h.moved, fun _ => h.logged⟩

/-- What a review selected was produced. -/
theorem InPhase.produced (hnodup : (inventory.map (·.artifactId)).Nodup)
    (hi : InPhase inventory .reviewed p)
    (h : Moved (inventory.filter (·.Selected)) (fun _ => some .produced) p p') :
    InPhase inventory .produced p' where
  status b hb := by
    by_cases hr : b.Selected
    · rw [h.moved b (List.mem_filter.2 ⟨hb, decide_eq_true hr⟩)]
      simp [EvidencePhase.status, hr]
    · rw [h.stayed b.artifactId, hi.status b hb]
      · simp [EvidencePhase.status, hr]
      · intro d hd heq
        obtain ⟨hd, hselected⟩ := List.mem_filter.1 hd
        rw [List.inj_on_of_nodup_map hnodup hd hb heq] at hselected
        exact hr (of_decide_eq_true hselected)
  logged _ b hb := h.kept _ (hi.logged (by simp) b hb)

/-- In the beginning nothing has been touched. -/
theorem InPhase.initial (route : Route) : InPhase inventory .untouched { route := route } :=
  ⟨fun _ _ => rfl, fun h => absurd rfl h⟩

/-- The phase is read off the evidence. -/
theorem InPhase.of_same (h : InPhase inventory phase p)
    (hstatus : p'.evidenceStatus = p.evidenceStatus) (hlog : p'.custodyLog = p.custodyLog) :
    InPhase inventory phase p' :=
  ⟨fun a ha => by rw [hstatus]; exact h.status a ha,
    fun hp a ha => by rw [hlog]; exact h.logged hp a ha⟩

end

/-! ## The loops -/

/-- The values claimed for each fact by a list of artifacts, added to those of a dictionary. -/
def claimsOf (l : List EvidenceArtifact) (claims : PyDict (Finset String)) :
    PyDict (Finset String) :=
  l.foldl (fun claims a => addClaims claims a.claims) claims

section
variable {k : Kernel} {l : List EvidenceArtifact}

/-- The loop of preservation moves all artifacts. -/
theorem moved_preserveAll (hnodup : (l.map (·.artifactId)).Nodup)
    (hcustody : ∀ a ∈ l, a.custody ≠ []) (s : KernelState) :
    ∃ s', preserveAll l s = .ok () s' ∧
      Moved l EvidencePhase.preserved.status s.projection s'.projection := by
  induction l generalizing s with
  | nil => exact ⟨s, rfl, .nil _ _⟩
  | cons a rest ih =>
    obtain ⟨hfresh, hrest⟩ := List.nodup_cons.1 hnodup
    obtain ⟨created, hf⟩ := firstStep_of_ne_nil (hcustody a (.head _))
    obtain ⟨s', hs', hmoved⟩ := ih hrest (fun b hb => hcustody b (.tail _ hb))
      { s with projection := s.projection.place a.artifactId .preserved [created] }
    refine ⟨s', (preserveAll_placed hf rest s).trans hs', ?_⟩
    exact .cons hfresh (.place [created] rfl) hmoved

/-- The loop of collection moves all artifacts, where they are preserved. -/
theorem moved_collectAll (hnodup : (l.map (·.artifactId)).Nodup) (s : KernelState)
    (hl : ∀ a ∈ l, s.projection.evidenceStatus.get? a.artifactId = some .preserved ∧
      (s.projection.custodyLog.get? a.artifactId).isSome = true) :
    ∃ s', collectAll l s = .ok () s' ∧
      Moved l EvidencePhase.collected.status s.projection s'.projection := by
  induction l generalizing s with
  | nil => exact ⟨s, rfl, .nil _ _⟩
  | cons a rest ih =>
    obtain ⟨hfresh, hrest⟩ := List.nodup_cons.1 hnodup
    obtain ⟨hst, hlog⟩ := hl a (.head _)
    obtain ⟨log, hlog⟩ := Option.isSome_iff_exists.1 hlog
    have hplace : Moved [a] EvidencePhase.collected.status s.projection
        (s.projection.place a.artifactId .collected (log ++ a.custody.drop 1)) := .place _ rfl
    obtain ⟨s', hs', hmoved⟩ := ih hrest
      { s with projection := s.projection.place a.artifactId .collected (log ++ a.custody.drop 1) }
      fun b hb => by
        have hne : b.artifactId ≠ a.artifactId := fun heq =>
          hfresh (List.mem_map.2 ⟨b, hb, heq⟩)
        exact ⟨(PyDict.get?_set_ne _ _ hne).trans (hl b (.tail _ hb)).1,
          hplace.kept _ (hl b (.tail _ hb)).2⟩
    exact ⟨s', (collectAll_cons rest hst hlog).trans hs', .cons hfresh hplace hmoved⟩

/-- The loop of review moves all artifacts, where they are collected. -/
theorem moved_reviewAll (hnodup : (l.map (·.artifactId)).Nodup)
    (hcustody : ∀ a ∈ l, a.custody ≠ []) (c : Command) (selected : List String)
    (claims : PyDict (Finset String)) (s : KernelState)
    (hl : ∀ a ∈ l, s.projection.evidenceStatus.get? a.artifactId = some .collected ∧
      (s.projection.custodyLog.get? a.artifactId).isSome = true) :
    ∃ selected' s', reviewAll c l selected claims s =
        .ok (selected', claimsOf (l.filter (·.Selected)) claims) s' ∧
      Moved l EvidencePhase.reviewed.status s.projection s'.projection := by
  induction l generalizing s selected claims with
  | nil => exact ⟨selected, s, rfl, .nil _ _⟩
  | cons a rest ih =>
    obtain ⟨hfresh, hrest⟩ := List.nodup_cons.1 hnodup
    obtain ⟨hst, hlog⟩ := hl a (.head _)
    have hne (b : EvidenceArtifact) (hb : b ∈ rest) : b.artifactId ≠ a.artifactId := fun heq =>
      hfresh (List.mem_map.2 ⟨b, hb, heq⟩)
    have hcustody' : ∀ b ∈ rest, b.custody ≠ [] := fun b hb => hcustody b (.tail _ hb)
    by_cases hr : a.Selected
    · obtain ⟨created, hf⟩ := firstStep_of_ne_nil (hcustody a (.head _))
      obtain ⟨log, hlog⟩ := Option.isSome_iff_exists.1 hlog
      have hplace : Moved [a] EvidencePhase.reviewed.status s.projection
          (s.projection.place a.artifactId .reviewed
            (log ++ [⟨"reviewed", c.actorId, 51, created.objectHash⟩])) :=
        .place _ (by rw [EvidencePhase.status, if_pos hr])
      obtain ⟨selected', s', hs', hmoved⟩ := ih hrest hcustody' (selected ++ [a.artifactId])
        (addClaims claims a.claims)
        { s with
          projection := s.projection.place a.artifactId .reviewed
            (log ++ [⟨"reviewed", c.actorId, 51, created.objectHash⟩]) }
        fun b hb => ⟨(PyDict.get?_set_ne _ _ (hne b hb)).trans (hl b (.tail _ hb)).1,
          hplace.kept _ (hl b (.tail _ hb)).2⟩
      refine ⟨selected', s', ?_, .cons hfresh hplace hmoved⟩
      have hfilter : (a :: rest).filter (·.Selected) = a :: rest.filter (·.Selected) :=
        List.filter_cons_of_pos (decide_eq_true hr)
      rw [reviewAll_placed hf c rest selected claims hst hlog hr, hs', hfilter]
      rfl
    · have hplace : Moved [a] EvidencePhase.reviewed.status s.projection
          (s.projection.withhold a.artifactId) :=
        .withhold hlog (by rw [EvidencePhase.status, if_neg hr])
      obtain ⟨selected', s', hs', hmoved⟩ := ih hrest hcustody' selected claims
        { s with projection := s.projection.withhold a.artifactId }
        fun b hb => ⟨(PyDict.get?_set_ne _ _ (hne b hb)).trans (hl b (.tail _ hb)).1,
          hplace.kept _ (hl b (.tail _ hb)).2⟩
      refine ⟨selected', s', ?_, .cons hfresh hplace hmoved⟩
      have hfilter : (a :: rest).filter (·.Selected) = rest.filter (·.Selected) :=
        List.filter_cons_of_neg (by simpa using hr)
      rw [reviewAll_withheld c rest selected claims hst hr, hs', hfilter]

/-- The loop of production moves the artifacts that it is given, and lists them. -/
theorem moved_produceAll (hnodup : (l.map (·.artifactId)).Nodup)
    (hcustody : ∀ a ∈ l, a.custody ≠ []) (hfind : ∀ a ∈ l, k.artifact a.artifactId = .ok a)
    (c : Command) (s : KernelState)
    (hl : ∀ a ∈ l, (s.projection.custodyLog.get? a.artifactId).isSome = true) :
    ∃ s', produceAll k c (l.map (·.artifactId)) s = .ok () s' ∧
      Moved l (fun _ => some .produced) s.projection s'.projection ∧
      s'.projection.producedArtifactIds =
        s.projection.producedArtifactIds ++ l.map (·.artifactId) := by
  induction l generalizing s with
  | nil => exact ⟨s, rfl, .nil _ _, (List.append_nil _).symm⟩
  | cons a rest ih =>
    obtain ⟨hfresh, hrest⟩ := List.nodup_cons.1 hnodup
    obtain ⟨created, hf⟩ := firstStep_of_ne_nil (hcustody a (.head _))
    obtain ⟨log, hlog⟩ := Option.isSome_iff_exists.1 (hl a (.head _))
    have hplace : Moved [a] (fun _ => some .produced) s.projection (s.projection.produce a
        (log ++ [⟨"produced", c.actorId, 52, created.objectHash⟩])) :=
      .single rfl (by simp [Projection.produce, Projection.place])
        (fun _ hid => PyDict.get?_set_ne _ _ hid) rfl
    obtain ⟨s', hs', hmoved, hproduced⟩ := ih hrest (fun b hb => hcustody b (.tail _ hb))
      (fun b hb => hfind b (.tail _ hb))
      { s with
        projection := s.projection.produce a
          (log ++ [⟨"produced", c.actorId, 52, created.objectHash⟩]) }
      fun b hb => hplace.kept _ (hl b (.tail _ hb))
    refine ⟨s', ?_, .cons hfresh hplace hmoved, ?_⟩
    · exact (produceAll_placed hf c _ (hfind a (.head _)) hlog).trans hs'
    · rw [hproduced, Projection.produce, List.append_assoc]
      rfl

end

/-! ## The loops on an inventory in one phase -/

section
variable {k : Kernel} {s : KernelState} {inventory : List EvidenceArtifact} {phase : EvidencePhase}
  (hnodup : (inventory.map (·.artifactId)).Nodup) (hcustody : ∀ a ∈ inventory, a.custody ≠ [])

include hnodup

/-- A collection goes through, or raises at the first artifact. -/
theorem collectAll_cases (hi : InPhase inventory phase s.projection) :
    (∃ s', collectAll inventory s = .ok () s' ∧ InPhase inventory .collected s'.projection) ∨
      ∃ e, collectAll inventory s = .error e s := by
  cases inventory with
  | nil => exact .inl ⟨s, rfl, .of_moved (.nil _ _)⟩
  | cons a rest =>
    have hst := hi.status a (.head _)
    cases phase with
    | preserved =>
      obtain ⟨s', hs', hmoved⟩ := moved_collectAll hnodup s fun b hb =>
        ⟨hi.status b hb, hi.logged (by simp) b hb⟩
      exact .inl ⟨s', hs', .of_moved hmoved⟩
    | untouched | collected =>
      exact .inr (collectAll_refused rest (by rw [hst]; simp [EvidencePhase.status]))
    | reviewed | produced =>
      refine .inr (collectAll_refused rest ?_)
      rw [hst, EvidencePhase.status]
      split <;> simp

include hcustody

/-- A review goes through, or raises at the first artifact. -/
theorem reviewAll_cases (c : Command) (hi : InPhase inventory phase s.projection) :
    (∃ selected s', reviewAll c inventory [] ∅ s =
        .ok (selected, claimsOf (inventory.filter (·.Selected)) ∅) s' ∧
      InPhase inventory .reviewed s'.projection) ∨
      ∃ e, reviewAll c inventory [] ∅ s = .error e s := by
  cases inventory with
  | nil => exact .inl ⟨[], s, rfl, .of_moved (.nil _ _)⟩
  | cons a rest =>
    have hst := hi.status a (.head _)
    cases phase with
    | collected =>
      obtain ⟨selected, s', hs', hmoved⟩ := moved_reviewAll hnodup hcustody c [] ∅ s fun b hb =>
        ⟨hi.status b hb, hi.logged (by simp) b hb⟩
      exact .inl ⟨selected, s', hs', .of_moved hmoved⟩
    | untouched | preserved =>
      exact .inr (reviewAll_refused c rest [] ∅ (by rw [hst]; simp [EvidencePhase.status]))
    | reviewed | produced =>
      refine .inr (reviewAll_refused c rest [] ∅ ?_)
      rw [hst, EvidencePhase.status]
      split <;> simp

end

/-! ## The invariant of a run -/

/-- The conflict candidates of a review. -/
def Kernel.reviewConflicts (k : Kernel) : List String :=
  conflictCandidates (claimsOf (k.bundle.matter.evidenceInventory.filter (·.Selected)) ∅)

/-- The inventory is in one phase. Once it was reviewed the candidates are those of a review, and
what was produced, if anything, is all that a review selects. -/
structure Staged (k : Kernel) (p : Projection) : Prop where
  phase : ∃ phase, InPhase k.bundle.matter.evidenceInventory phase p ∧
    (phase = .reviewed → p.reviewConflictCandidates = k.reviewConflicts)
  produced : p.producedArtifactIds ≠ [] → p.reviewConflictCandidates = k.reviewConflicts ∧
    ∀ id, id ∈ p.producedArtifactIds ↔
      ∃ a ∈ k.bundle.matter.evidenceInventory, a.Selected ∧ a.artifactId = id

section
variable {k : Kernel} {p p' : Projection}

/-- In the beginning the evidence is staged. -/
theorem staged_initial (k : Kernel) : Staged k k.initial.projection :=
  ⟨⟨.untouched, .initial k.route, nofun⟩, fun h => absurd rfl h⟩

/-- The invariant is about four fields only. -/
theorem Staged.of_same (h : Staged k p) (hstatus : p'.evidenceStatus = p.evidenceStatus)
    (hlog : p'.custodyLog = p.custodyLog)
    (hproduced : p'.producedArtifactIds = p.producedArtifactIds)
    (hreview : p'.reviewConflictCandidates = p.reviewConflictCandidates) : Staged k p' := by
  obtain ⟨phase, hi, hcandidates⟩ := h.phase
  refine ⟨⟨phase, hi.of_same hstatus hlog, fun hp => hreview.trans (hcandidates hp)⟩, ?_⟩
  rw [hproduced, hreview]
  exact h.produced

/-- The inventory enters another phase than the reviewed one. -/
theorem Staged.enter (h : Staged k p) {phase : EvidencePhase} (hphase : phase ≠ .reviewed)
    (hi : InPhase k.bundle.matter.evidenceInventory phase p')
    (hproduced : p'.producedArtifactIds = p.producedArtifactIds)
    (hreview : p'.reviewConflictCandidates = p.reviewConflictCandidates) : Staged k p' := by
  refine ⟨⟨phase, hi, fun hp => absurd hp hphase⟩, ?_⟩
  rw [hproduced, hreview]
  exact h.produced

/-- What a production selects, phase by phase. -/
theorem selected_eq {phase : EvidencePhase} (hi : InPhase k.bundle.matter.evidenceInventory phase p) :
    k.selected p = [] ∨ phase = .reviewed ∧ k.selected p =
      (k.bundle.matter.evidenceInventory.filter (·.Selected)).map (·.artifactId) := by
  have hselected : k.selected p = (k.bundle.matter.evidenceInventory.filter fun a =>
      decide (phase.status a = some .reviewed)).map (·.artifactId) := by
    unfold Kernel.selected
    rw [List.filter_map]
    refine congrArg _ (List.filter_congr fun a ha => ?_)
    rw [Function.comp_apply, hi.status a ha]
  rw [hselected]
  cases phase with
  | reviewed =>
    refine .inr ⟨rfl, congrArg _ (List.filter_congr fun a _ => ?_)⟩
    by_cases hr : a.Selected <;> simp [EvidencePhase.status, hr]
  | untouched | preserved | collected => exact .inl (by simp [EvidencePhase.status])
  | produced =>
    left
    rw [List.map_eq_nil_iff, List.filter_eq_nil_iff]
    intro a _
    by_cases hr : a.Selected <;> simp [EvidencePhase.status, hr]

end

section
variable {k : Kernel} {s : KernelState} {c : Command}
  (hnodup : (k.bundle.matter.evidenceInventory.map (·.artifactId)).Nodup)
  (hcustody : ∀ a ∈ k.bundle.matter.evidenceInventory, a.custody ≠ [])

include hnodup hcustody

omit hnodup hcustody in
/-- Computing without the state leaves it as it is. -/
theorem final_attempt_pure {α β : Type} {x : Except PyError α} (f : α → β) (s : KernelState) :
    final ((attempt x >>= fun a => pure (f a) : KernelM β) s) = s := by
  cases x <;> rfl

/-- A production of all that the review has selected, or none. -/
theorem staged_produceDiscovery (c : Command) (h : Staged k s.projection) :
    Staged k (final (produceDiscovery k c s)).projection := by
  obtain ⟨phase, hi, hcandidates⟩ := h.phase
  unfold produceDiscovery
  rw [final_get_bind, final_raiseIf_bind]
  split
  next hcond =>
    have hne : k.selected s.projection ≠ [] := of_decide_eq_false (Except.ok.inj hcond)
    obtain ⟨rfl, hselected⟩ := (selected_eq hi).resolve_left hne
    rw [hselected] at hne ⊢
    have hmem (a : EvidenceArtifact)
        (ha : a ∈ k.bundle.matter.evidenceInventory.filter (·.Selected)) :=
      (List.mem_filter.1 ha).1
    obtain ⟨s', hs', hmoved, hproduced⟩ := moved_produceAll
      (hnodup.sublist (List.filter_sublist.map _)) (fun a ha => hcustody a (hmem a ha))
      (fun a ha => artifact_of_mem hnodup (hmem a ha)) c s
      fun a ha => hi.logged (by simp) a (hmem a ha)
    obtain ⟨p, hp, hframe⟩ := keeps_produceAll k c _ s
    rw [hs'] at hp
    have hreview : s'.projection.reviewConflictCandidates = k.reviewConflicts := by
      rw [← hcandidates rfl, show s' = _ from hp]
      exact hframe .review (by decide)
    rw [bind_run_ok hs', final_attempt_pure]
    refine ⟨⟨.produced, hi.produced hnodup hmoved, nofun⟩, fun _ => ⟨hreview, fun id => ?_⟩⟩
    rw [hproduced, List.mem_append]
    have hids : id ∈ (k.bundle.matter.evidenceInventory.filter (·.Selected)).map (·.artifactId) ↔
        ∃ a ∈ k.bundle.matter.evidenceInventory, a.Selected ∧ a.artifactId = id := by
      simp [and_assoc]
    rw [hids, or_iff_right_iff_imp]
    intro hold
    exact ((h.produced (List.ne_nil_of_mem hold)).2 id).1 hold
  · exact h

/-- **One branch keeps the inventory in one phase.** -/
theorem staged_branch (c : Command) (v : Verb) (h : Staged k s.projection) :
    Staged k (final (branch k c v s)).projection := by
  obtain ⟨phase, hi, hcandidates⟩ := h.phase
  obtain ⟨p, hp, hframe⟩ := keeps_branch k c v s
  have hsame (part : Part) (hpart : part ∉ writes v) :
      part.Same s.projection (final (branch k c v s)).projection := by
    rw [hp]
    exact hframe part hpart
  cases v with
  | issuePreservation =>
    obtain ⟨s', hs', hmoved⟩ := moved_preserveAll hnodup hcustody s
    have hrun : final (branch k c .issuePreservation s) = s' :=
      congrArg final (bind_run_ok hs' _)
    rw [hrun] at hsame ⊢
    exact h.enter (by simp) (.of_moved hmoved) (hsame .production (by decide))
      (hsame .review (by decide))
  | collectEvidence =>
    rcases collectAll_cases hnodup hi with ⟨s', hs', hi'⟩ | ⟨e, he⟩
    · have hrun : final (branch k c .collectEvidence s) = s' :=
        congrArg final (bind_run_ok hs' _)
      rw [hrun] at hsame ⊢
      exact h.enter (by simp) hi' (hsame .production (by decide)) (hsame .review (by decide))
    · have hrun : final (branch k c .collectEvidence s) = s :=
        congrArg final (bind_run_error he _)
      rw [hrun]
      exact h
  | reviewEvidence =>
    rcases reviewAll_cases hnodup hcustody c hi with ⟨selected, s', hs', hi'⟩ | ⟨e, he⟩
    · have hrun : final (branch k c .reviewEvidence s) =
          { s' with projection :=
            { s'.projection with reviewConflictCandidates := k.reviewConflicts } } :=
        congrArg final (bind_run_ok hs' _)
      have hproduced := hsame .production (by decide)
      rw [hrun] at hproduced ⊢
      refine ⟨⟨.reviewed, hi'.of_same rfl rfl, fun _ => rfl⟩, fun hne => ⟨rfl, ?_⟩⟩
      rw [show _ = s.projection.producedArtifactIds from hproduced] at hne ⊢
      exact (h.produced hne).2
    · have hrun : final (branch k c .reviewEvidence s) = s :=
        congrArg final (bind_run_error he _)
      rw [hrun]
      exact h
  | produceDiscovery => exact staged_produceDiscovery hnodup hcustody c h
  | _ =>
    have hevidence := hsame .evidence (by decide)
    exact h.of_same hevidence.1 hevidence.2 (hsame .production (by decide))
      (hsame .review (by decide))

/-- One call keeps the inventory in one phase. -/
theorem Staged.step (c : Command) (h : Staged k s.projection) :
    Staged k (k.step s c).projection := by
  cases ha : k.admit s c with
  | error r =>
    rw [(step_idle ha).projection]
    exact h.of_same rfl rfl rfl rfl
  | ok a =>
    rw [(step_effect ha).projection]
    exact staged_branch hnodup hcustody c a.verb h

/-- **The inventory is in one phase after every run.** -/
theorem staged_run (cs : List Command) : Staged k (k.run cs).projection :=
  Machine.run_invariant (I := fun s : KernelState => Staged k s.projection)
    (fun _ c h => Staged.step hnodup hcustody c h) (staged_initial k) cs

end

/-! ## Rejected collections and reviews -/

/-- `submit` raises a `GateError`: a denial, or a check of the transition. -/
def GateRejected (k : Kernel) (s : KernelState) (c : Command) : Prop :=
  ∃ text items s', k.submit c s = .error (.gateError text items) s'

/-- The run of a call that was rejected. -/
def isGateError : EStateM.Result PyError KernelState Event → Bool
  | .error (.gateError _ _) _ => true
  | _ => false

/-- A rejection at the gate is an error of the gate. -/
theorem gateRejected_iff {k : Kernel} {s : KernelState} {c : Command} :
    GateRejected k s c ↔ isGateError (k.submit c s) = true := by
  unfold GateRejected
  constructor
  · rintro ⟨text, items, s', h⟩
    rw [h]
    rfl
  · intro h
    unfold isGateError at h
    split at h
    · next text items s' heq => exact ⟨text, items, s', heq⟩
    · cases h

instance (k : Kernel) (s : KernelState) (c : Command) : Decidable (GateRejected k s c) :=
  decidable_of_iff _ gateRejected_iff.symm

/-- The statuses, the custody logs and the conflict candidates are the same. -/
structure SameEvidence (p p' : Projection) : Prop where
  status : p'.evidenceStatus = p.evidenceStatus
  log : p'.custodyLog = p.custodyLog
  candidates : p'.reviewConflictCandidates = p.reviewConflictCandidates

/-- A key that is missing is named by the error. -/
theorem getItem_error {α : Type} {d : PyDict α} {key : String} {e : PyError}
    (h : d.getItem key = .error e) : e = .keyError key := by
  unfold PyDict.getItem at h
  split at h
  · cases h
  · exact (Except.error.inj h).symm

/-- A grant fails on an actor that has no entry. -/
theorem grantAll_error {gs : List Grant} {s s' : KernelState} {e : PyError}
    (h : grantAll gs s = .error e s') : ∃ key, e = .keyError key := by
  induction gs generalizing s with
  | nil => cases h
  | cons g gs ih =>
    unfold grantAll updateAuthority updateKnowledge at h
    rw [bind_run, assign_run] at h
    cases ha : s.authority.getItem g.actorId with
    | error e' =>
      rw [ha] at h
      cases h
      exact ⟨_, getItem_error ha⟩
    | ok held =>
      rw [ha] at h
      dsimp only [ok_bind, pure_eq_ok] at h
      rw [bind_run, assign_run] at h
      cases hk : s.knowledge.getItem g.actorId with
      | error e' =>
        dsimp only at h
        rw [hk] at h
        cases h
        exact ⟨_, getItem_error hk⟩
      | ok known =>
        dsimp only at h
        rw [hk] at h
        exact ih h

section
variable {k : Kernel} {s : KernelState} {c : Command}
  (hnodup : (k.bundle.matter.evidenceInventory.map (·.artifactId)).Nodup)
  (hcustody : ∀ a ∈ k.bundle.matter.evidenceInventory, a.custody ≠ [])

include hnodup hcustody

/-- A collection or a review that raises has changed nothing. -/
theorem branch_atomic {v : Verb} (hv : v = .collectEvidence ∨ v = .reviewEvidence)
    (h : Staged k s.projection) {e : PyError} {s₁ : KernelState}
    (hb : branch k c v s = .error e s₁) : s₁ = s := by
  obtain ⟨phase, hi, -⟩ := h.phase
  rcases hv with rfl | rfl
  · rcases collectAll_cases hnodup hi with ⟨s', hs', -⟩ | ⟨e', he⟩
    · cases hb.symm.trans (bind_run_ok hs' _)
    · cases hb.symm.trans (bind_run_error he _)
      rfl
  · rcases reviewAll_cases hnodup hcustody c hi with ⟨selected, s', hs', -⟩ | ⟨e', he⟩
    · cases hb.symm.trans (bind_run_ok hs' _)
    · cases hb.symm.trans (bind_run_error he _)
      rfl

/-- **Evidence-stage atomicity.** Over every bundle with distinct artifact ids and custody, after
every run, a collection or a review that is rejected leaves the statuses, the custody logs and the
conflict candidates as they were. -/
theorem evidence_rejection_atomic (cs : List Command) (hjson : c.payload.IsJson)
    (hverb : c.verb = Verb.collectEvidence.name ∨ c.verb = Verb.reviewEvidence.name)
    (h : GateRejected k (k.run cs) c) :
    SameEvidence (k.run cs).projection (k.step (k.run cs) c).projection := by
  have hstaged := staged_run hnodup hcustody cs
  generalize k.run cs = s at h hstaged ⊢
  cases ha : k.admit s c with
  | error r =>
    rw [(step_idle ha).projection]
    exact ⟨rfl, rfl, rfl⟩
  | ok a =>
    have hname := Verb.name_of_ofName? (admit_ok ha).verb
    have hv : a.verb = .collectEvidence ∨ a.verb = .reviewEvidence :=
      hverb.imp (fun hc => Verb.name_injective (hname.trans hc))
        fun hc => Verb.name_injective (hname.trans hc)
    obtain ⟨text, items, s', hsubmit⟩ := h
    have hpasses := submit_passes ha
    unfold Kernel.step
    rw [hsubmit] at hpasses ⊢
    cases hpasses with
    | branchRaised hb =>
      have hsame : s' = s.tick := branch_atomic hnodup hcustody hv (s := s.tick) hstaged hb
      rw [final_error, hsame]
      exact ⟨rfl, rfl, rfl⟩
    | grantUnread hb hg =>
      rcases hv with hv | hv
      · rw [hv] at hg
        cases hg
      · rw [hv] at hg
        cases hg
    | grantRaised hb hg hr =>
      obtain ⟨key, hkey⟩ := grantAll_error hr
      cases hkey
    | unhashed hb hg hr he =>
      cases event_error_of_isJson (seated_of_grants ha hb hr).2 hjson he

end

/-- A collection, as the workflow has it. -/
def collection : Command where
  commandId := "CMD-008-collect_evidence"
  verb := Verb.collectEvidence.name
  actorId := "litigation_paralegal"
  roleId := "paralegal"
  matterId := alphaKernel.bundle.matter.matterId
  payload := ∅
  requiresAuthority := ["collection"]
  requiresKnowledge := ["preservation_issued"]

/-- After the workflow has collected, a second collection passes the checks of `submit` and is
rejected at its first artifact. -/
theorem evidence_rejection_atomic_alpha :
    SameEvidence (alphaKernel.run (alphaWorkflow.take 8)).projection
      (alphaKernel.step (alphaKernel.run (alphaWorkflow.take 8)) collection).projection := by
  have hrejected : GateRejected alphaKernel (alphaKernel.run (alphaWorkflow.take 8)) collection := by
    decide +kernel
  refine evidence_rejection_atomic (nodup_inventory alphaKernel_employment) (fun a ha => ?_)
    (alphaWorkflow.take 8) (fun key v h => by cases h) (.inl rfl) hrejected
  rw [(custodied_inventory alphaKernel_employment a ha).custody]
  exact List.cons_ne_nil _ _

end LawFirmDigitalTwin
