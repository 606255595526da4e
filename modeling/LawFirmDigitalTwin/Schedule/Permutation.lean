import LawFirmDigitalTwin.JsonWords
import LawFirmDigitalTwin.Schedule.Fairness

/-!
# The order of submission

`rebuild_manifest_with_proposals` of `simulation_schedule_core.py`. The proposals of a manifest can
be submitted in any order: the checks count and compare them without looking at their places, the
texts that are forbidden do not reach over the mark between two proposals, and the keys sort them
back.
-/

namespace LawFirmDigitalTwin

/-- `simulation_schedule_core.py` `rebuild_manifest_with_proposals`. -/
def rebuildManifestWithProposals (m : SimulationScheduleManifest)
    (proposals : List ScheduledCommandProposal) : SimulationScheduleManifest :=
  { m with
    manifestId := { m with proposals := proposals }.expectedId
    proposals := proposals }

section
variable {m : SimulationScheduleManifest} {ps : List ScheduledCommandProposal}

/-! ## The forbidden texts -/

/-- A forbidden text is a word, and not one of the letters of an id. -/
theorem forbidden_isWord {value : String} (h : value ∈ forbiddenSchedulerContent) :
    Json.IsWord Char.toLower value.toList ∧ ('_' ∈ value.toList ∨ 'v' ∈ value.toList) := by
  have hall : ∀ value ∈ forbiddenSchedulerContent, (value.toList ≠ [] ∧
      Json.marks.all (fun c => c.toLower ∉ value.toList) = true) ∧
        ('_' ∈ value.toList ∨ 'v' ∈ value.toList) := by decide
  obtain ⟨⟨hne, hmarks⟩, hletter⟩ := hall value h
  exact ⟨⟨hne, fun c hc => of_decide_eq_true (List.all_eq_true.1 hmarks c hc)⟩, hletter⟩

/-- A text stands in the lowered dump where the value shows it. -/
theorem textContains_iff (v : Json) (value : String) :
    textContains (canonicalJson v).toLower value = true ↔ v.Shows Char.toLower value.toList := by
  have hlower (s : String) : s.toLower = s.map Char.toLower := rfl
  rw [textContains, canonicalJson, hlower, String.toList_map, String.toList_ofList,
    decide_eq_true_iff]
  rfl

/-- A text that is written as it is, without the letters of which a forbidden text has one. -/
def IsUnmarked (text : List Char) : Prop :=
  ∀ c ∈ text, Json.escapeChar c = [c] ∧ c.toLower ≠ '_' ∧ c.toLower ≠ 'v'

/-- Two unmarked texts make an unmarked one. -/
theorem IsUnmarked.append {text text' : List Char} (h : IsUnmarked text) (h' : IsUnmarked text') :
    IsUnmarked (text ++ text') :=
  List.forall_mem_append.2 ⟨h, h'⟩

/-- A text is unmarked where each of its characters is plain. -/
theorem IsUnmarked.of_all {text : List Char} (h : text.all (fun c => Json.escapeChar c = [c] ∧
    c.toLower ≠ '_' ∧ c.toLower ≠ 'v') = true) : IsUnmarked text :=
  fun c hc => of_decide_eq_true (List.all_eq_true.1 h c hc)

/-- Hexadecimal digits are unmarked. -/
theorem IsUnmarked.of_hex {text : List Char} (h : ∀ c ∈ text, ∃ n < 16, c = Sha256.hexDigit n) :
    IsUnmarked text := by
  have hhex : ∀ n < 16, Json.escapeChar (Sha256.hexDigit n) = [Sha256.hexDigit n] ∧
      (Sha256.hexDigit n).toLower ≠ '_' ∧ (Sha256.hexDigit n).toLower ≠ 'v' := by decide
  intro c hc
  obtain ⟨n, hn, rfl⟩ := h c hc
  exact hhex n hn

/-- An unmarked text shows no forbidden text. -/
theorem IsUnmarked.not_shows {s value : String} (hs : IsUnmarked s.toList)
    (h : value ∈ forbiddenSchedulerContent) :
    ¬ (Json.str s).Shows Char.toLower value.toList := by
  have htext : ∀ c ∈ (Json.quoted s).map Char.toLower, c ≠ '_' ∧ c ≠ 'v' := by
    have hquote : (Char.ofNat 34).toLower ≠ '_' ∧ (Char.ofNat 34).toLower ≠ 'v' := by decide
    rw [Json.quoted, List.flatMap_congr fun c hc => (hs c hc).1, List.flatMap_singleton',
      List.forall_mem_map]
    intro c hc
    simp only [List.cons_append, List.mem_cons, List.mem_append, List.not_mem_nil, or_false] at hc
    rcases hc with rfl | hc | rfl
    · exact hquote
    · exact (hs c hc).2
    · exact hquote
  intro hshows
  rcases (forbidden_isWord h).2 with hletter | hletter
  · exact (htext _ (hshows.subset hletter)).1 rfl
  · exact (htext _ (hshows.subset hletter)).2 rfl

/-- The first characters of a digest are unmarked. -/
theorem isUnmarked_firstChars_digest (n : Nat) (v : Json) :
    IsUnmarked (firstChars n (digest v)).toList := by
  refine .of_hex fun c hc => ?_
  rw [firstChars, String.toList_ofList] at hc
  exact hex_of_mem_digest (List.mem_of_mem_take hc)

/-- The id of a manifest does not show a forbidden text. -/
theorem not_shows_expectedId (m : SimulationScheduleManifest) {value : String}
    (h : value ∈ forbiddenSchedulerContent) :
    ¬ (Json.str m.expectedId).Shows Char.toLower value.toList := by
  refine IsUnmarked.not_shows ?_ h
  rw [SimulationScheduleManifest.expectedId, String.toList_append]
  exact (IsUnmarked.of_all (by decide)).append (isUnmarked_firstChars_digest 18 _)

/-- The entries of a manifest, the id and the proposals apart. -/
theorem toJson_entries (m : SimulationScheduleManifest) :
    ∃ before after, ∀ id proposals,
      { m with manifestId := id, proposals := proposals }.toJson =
        .dict (("manifest_id", .str id) :: before ++
          ("proposals", .list (proposals.map ScheduledCommandProposal.toJson)) :: after) :=
  ⟨[("scheduler_core_revision", .str m.schedulerCoreRevision),
     ("normalization_revision", .str m.normalizationRevision),
     ("source_cassette_commitment", .str m.sourceCassetteCommitment),
     ("matter_commitment", .str m.matterCommitment),
     ("resources", .list (m.resources.map SchedulerResourceSpec.toJson))],
   [("max_wait_ticks", .int m.maxWaitTicks), ("max_finish_tick", .int m.maxFinishTick),
     ("route_blind", .bool m.routeBlind),
     ("source_bodies_included", .bool m.sourceBodiesIncluded),
     ("external_io", .bool m.externalIo),
     ("canonical_time_authority", .bool m.canonicalTimeAuthority),
     ("world_truth_write", .bool m.worldTruthWrite), ("branch_authority", .bool m.branchAuthority),
     ("outcome_authority", .bool m.outcomeAuthority)], fun _ _ => rfl⟩

/-- A permutation of the proposals shows no other forbidden text. -/
theorem shows_rebuild (hperm : ps.Perm m.proposals) {value : String}
    (h : value ∈ forbiddenSchedulerContent)
    (hshows : (rebuildManifestWithProposals m ps).toJson.Shows Char.toLower value.toList) :
    m.toJson.Shows Char.toLower value.toList := by
  obtain ⟨hword, -⟩ := forbidden_isWord h
  have hid := not_shows_expectedId { m with proposals := ps } h
  have hproposals : (Json.list (ps.map ScheduledCommandProposal.toJson)).Shows Char.toLower
      value.toList → (Json.list (m.proposals.map ScheduledCommandProposal.toJson)).Shows
        Char.toLower value.toList := by
    rw [hword.shows_list, hword.shows_list]
    rintro ⟨v, hv, hshows⟩
    exact ⟨v, (hperm.map _).mem_iff.1 hv, hshows⟩
  obtain ⟨before, after, hjson⟩ := toJson_entries m
  have hown : m.toJson = _ := hjson m.manifestId m.proposals
  unfold rebuildManifestWithProposals at hshows
  rw [hjson, hword.shows_dict] at hshows
  rw [hown, hword.shows_dict]
  obtain ⟨e, he, hshows⟩ := hshows
  rcases List.mem_append.1 he with he | he
  · rcases List.mem_cons.1 he with rfl | he
    · exact ⟨_, .head _, .inl (hshows.resolve_right hid)⟩
    · exact ⟨e, List.mem_append_left _ (.tail _ he), hshows⟩
  · rcases List.mem_cons.1 he with rfl | he
    · exact ⟨_, List.mem_append_right _ (.head _), hshows.imp_right hproposals⟩
    · exact ⟨e, List.mem_append_right _ (.tail _ he), hshows⟩

/-! ## The checks -/

/-- Rebuilding a manifest brings in nothing forbidden. -/
theorem filter_forbidden_rebuild (hperm : ps.Perm m.proposals)
    (h : forbiddenSchedulerContent.filter (textContains (canonicalJson m.toJson).toLower) = []) :
    forbiddenSchedulerContent.filter (textContains
      (canonicalJson (rebuildManifestWithProposals m ps).toJson).toLower) = [] := by
  rw [List.filter_eq_nil_iff] at h ⊢
  intro value hvalue hcontains
  refine h value hvalue ?_
  rw [textContains_iff] at hcontains ⊢
  exact shows_rebuild hperm hvalue hcontains

/-- The check of the ordinals looks at them in order. -/
theorem ordinals_rebuild {ordinals ordinals' : List Int} (hperm : ordinals'.Perm ordinals)
    (h : ordinals.Nodup ∧ ordinals.insertionSort (· ≤ ·) =
      (List.range ordinals.length).map fun n => (n : Int) + 1) :
    ordinals'.Nodup ∧ ordinals'.insertionSort (· ≤ ·) =
      (List.range ordinals'.length).map fun n => (n : Int) + 1 := by
  have hsorted : ordinals'.insertionSort (· ≤ ·) = ordinals.insertionSort (· ≤ ·) :=
    ((List.perm_insertionSort _ _).trans
      (hperm.trans (List.perm_insertionSort _ _).symm)).eq_of_pairwise'
        (List.pairwise_insertionSort _ _) (List.pairwise_insertionSort _ _)
  rw [hsorted, hperm.nodup_iff, hperm.length_eq]
  exact h

/-- **A permutation of the proposals validates.** -/
theorem validate_rebuild (hm : validateScheduleManifest m = []) (hperm : ps.Perm m.proposals) :
    validateScheduleManifest (rebuildManifestWithProposals m ps) = [] := by
  unfold validateScheduleManifest at hm ⊢
  simp only [List.append_eq_nil_iff, errorIf_eq_nil, decide_eq_false_iff_not, not_or, not_not,
    List.flatMap_eq_nil_iff, List.map_eq_nil_iff] at hm ⊢
  obtain ⟨⟨⟨⟨⟨⟨⟨⟨⟨⟨⟨⟨⟨⟨⟨⟨hcore, hnorm⟩, hboundary⟩, hauthority⟩, hshape⟩, hnodup⟩, hcoverage⟩,
    hresources⟩, hcount⟩, hids⟩, hords⟩, hcommands⟩, hties⟩, hproposals⟩, hceilings⟩, -⟩, htexts⟩ := hm
  refine ⟨⟨⟨⟨⟨⟨⟨⟨⟨⟨⟨⟨⟨⟨⟨⟨hcore, hnorm⟩, hboundary⟩, hauthority⟩, hshape⟩, hnodup⟩, hcoverage⟩,
    hresources⟩, ?_⟩, (hperm.map _).nodup_iff.2 hids⟩, ordinals_rebuild (hperm.map _) hords⟩,
    (hperm.map _).nodup_iff.2 hcommands⟩, (hperm.map _).nodup_iff.2 hties⟩, ?_⟩, hceilings⟩, rfl⟩,
    filter_forbidden_rebuild hperm htexts⟩
  · have hlength : ps.length = m.proposals.length := hperm.length_eq
    refine ⟨fun hnil => hcount.1 ?_, fun hlong => hcount.2 ?_⟩
    · rw [← List.length_eq_zero_iff, ← hlength]
      exact List.length_eq_zero_iff.2 hnil
    · rw [← hlength]
      exact hlong
  · exact fun p hp => hproposals p (hperm.mem_iff.1 hp)

/-! ## The plan -/

/-- The keys sort the proposals back. -/
theorem sortedProposals_rebuild (hvalid : ValidManifest m) (hperm : ps.Perm m.proposals) :
    (rebuildManifestWithProposals m ps).sortedProposals = m.sortedProposals := by
  unfold SimulationScheduleManifest.sortedProposals
  refine ((List.perm_insertionSort _ _).trans
    (hperm.trans (List.perm_insertionSort _ _).symm)).eq_of_pairwise (fun a b ha hb hab hba => ?_)
    (List.pairwise_insertionSort _ _) (List.pairwise_insertionSort _ _)
  -- two proposals with one key have one ordinal
  have hkey : a.sortKey = b.sortKey := le_antisymm hab hba
  have hordinal : a.submissionOrdinal = b.submissionOrdinal :=
    congrArg (fun k => (ofLex (ofLex (ofLex k).2).2).1) hkey
  have ha : a ∈ m.proposals := hperm.mem_iff.1 ((List.perm_insertionSort _ _).mem_iff.1 ha)
  have hb : b ∈ m.proposals := (List.perm_insertionSort _ _).mem_iff.1 hb
  exact List.inj_on_of_nodup_map hvalid.ordinalNodup ha hb hordinal

/-- The plan of a valid manifest is the one of the loop. -/
theorem plan_eq (hm : validateScheduleManifest m = []) :
    planWithReferenceScheduler m =
      (planLoop m (m.capacities.mapValues fun capacity => List.replicate capacity.toNat 0)
        m.processes).map (makeTrace "scheduler.reference_integer_ticks" referenceSchedulerRevision
          "python-integer-reference-v1" false m) := by
  have hnorm : m.normalizedProposals = .ok m.sortedProposals := by
    rw [SimulationScheduleManifest.normalizedProposals, hm]
  rw [planWithReferenceScheduler, hnorm]
  change Except.bind (planLoop m _ m.processes) _ = _
  cases planLoop m (m.capacities.mapValues fun capacity => List.replicate capacity.toNat 0)
      m.processes with
  | error e => rfl
  | ok ds => rfl

/-- The loop looks at the ceilings of the manifest only. -/
theorem planLoop_rebuild (slots : PyDict (List Int)) (rest : List Process) :
    planLoop (rebuildManifestWithProposals m ps) slots rest = planLoop m slots rest := by
  induction rest generalizing slots with
  | nil => rfl
  | cons p rest ih =>
    have hwait : (rebuildManifestWithProposals m ps).maxWaitTicks = m.maxWaitTicks := rfl
    have hfinish : (rebuildManifestWithProposals m ps).maxFinishTick = m.maxFinishTick := rfl
    simp only [planLoop, ih, hwait, hfinish]

end

/-- **The order of submission does not change the plan.** -/
theorem plan_of_permutation (m : SimulationScheduleManifest) (ps : List ScheduledCommandProposal)
    (hm : validateScheduleManifest m = []) (hperm : ps.Perm m.proposals) :
    (rebuildManifestWithProposals m ps).proposals = ps ∧
      validateScheduleManifest (rebuildManifestWithProposals m ps) = [] ∧
      ((∃ e, planWithReferenceScheduler (rebuildManifestWithProposals m ps) = .error e) ↔
        ∃ e, planWithReferenceScheduler m = .error e) ∧
      ∀ t t', planWithReferenceScheduler m = .ok t →
        planWithReferenceScheduler (rebuildManifestWithProposals m ps) = .ok t' →
          t'.decisions = t.decisions ∧ t'.decisionSemanticsHash = t.decisionSemanticsHash := by
  have hm' := validate_rebuild hm hperm
  have hprocesses : (rebuildManifestWithProposals m ps).processes = m.processes :=
    congrArg enumerateProposals (sortedProposals_rebuild (validManifest_of_nil hm) hperm)
  have hcapacities : (rebuildManifestWithProposals m ps).capacities = m.capacities := rfl
  refine ⟨rfl, hm', ?_⟩
  rw [plan_eq hm', plan_eq hm, hprocesses, hcapacities, planLoop_rebuild]
  cases planLoop m (m.capacities.mapValues fun capacity => List.replicate capacity.toNat 0)
      m.processes with
  | error e => exact ⟨iff_of_true ⟨e, rfl⟩ ⟨e, rfl⟩, fun t t' ht => by cases ht⟩
  | ok ds =>
    constructor
    · refine iff_of_false ?_ ?_
      · rintro ⟨e, he⟩
        cases he
      · rintro ⟨e, he⟩
        cases he
    intro t t' ht ht'
    rw [← Except.ok.inj ht, ← Except.ok.inj ht']
    exact ⟨rfl, rfl⟩

/-- The contended manifest with its proposals the other way round. -/
theorem plan_of_permutation_contended :
    ∃ t t', planWithReferenceScheduler contendedManifest = .ok t ∧
      planWithReferenceScheduler (rebuildManifestWithProposals contendedManifest
        [contender "p2" 2, contender "p1" 1]) = .ok t' ∧ t'.decisions = t.decisions := by
  obtain ⟨t, ht⟩ := contendedManifest_planned
  obtain ⟨-, -, hraises, htraces⟩ := plan_of_permutation contendedManifest
    [contender "p2" 2, contender "p1" 1] contendedManifest_valid (.swap _ _ _)
  cases ht' : planWithReferenceScheduler (rebuildManifestWithProposals contendedManifest
      [contender "p2" 2, contender "p1" 1]) with
  | error e =>
    obtain ⟨e', he'⟩ := hraises.1 ⟨e, ht'⟩
    rw [ht] at he'
    cases he'
  | ok t' => exact ⟨t, t', ht, rfl, (htraces t t' ht ht').1⟩

end LawFirmDigitalTwin
