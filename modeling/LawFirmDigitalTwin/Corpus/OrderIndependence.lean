import LawFirmDigitalTwin.Corpus.Diversity
import LawFirmDigitalTwin.Lib.Transversal

/-!
# The order of the rows in the diversity evaluation

Every figure of the evaluation is taken from the groups of the rows, and none of them depends on the
order in which the rows come, with one exception: the section sequence that represents a channel is
whichever its set yields first. The number of distinct representatives is settled when each channel
whose rows disagree shares no sequence with another channel, or has each of its sequences as the
only one of another channel, and not otherwise.
-/

namespace LawFirmDigitalTwin

open Groups Transversal

namespace Diversity

variable {repr : PyFloat → String} {order order' : SetOrder (List String)}
  {policy : CorpusDiversityPolicy} {rows rows' : List CorpusDiversityArtifact} {verified : Bool}

/-- The code and the severity of a finding. -/
def kind (f : DiversityFinding) : String × Severity := (f.code, f.severity)

/-- The reports agree on what the evaluation found: the metrics, the separation, the counts, the
flag, and how many findings there are of each code and severity. -/
structure SameOutcome (r r' : CorpusDiversityReport) : Prop where
  channelMetrics : r.channelMetrics = r'.channelMetrics
  separation : r.crossChannelSchemaSeparation = r'.crossChannelSchemaSeparation
  artifactCount : r.artifactCount = r'.artifactCount
  eligible : r.eligibleChannelCount = r'.eligibleChannelCount
  insufficient : r.insufficientChannelCount = r'.insufficientChannelCount
  authorEligible : r.withinAuthorEligibleCount = r'.withinAuthorEligibleCount
  authorInconsistent : r.withinAuthorInconsistencyCount = r'.withinAuthorInconsistencyCount
  organizationEligible : r.organizationEligibleCount = r'.organizationEligibleCount
  organizationInconsistent : r.organizationInconsistencyCount = r'.organizationInconsistencyCount
  passed : r.passed = r'.passed
  kinds : (r.findings.map kind).Perm (r'.findings.map kind)

/-! ## What the groups show -/

/-- How many values there are does not depend on the order. -/
theorem length_distinct_perm {α κ : Type} [DecidableEq κ] (f : α → κ) {l l' : List α}
    (h : l.Perm l') : (distinct (l.map f)).length = (distinct (l'.map f)).length :=
  (distinct_perm (h.map f)).length_eq

/-- The rates of pairs do not depend on the order. -/
theorem pairRates_perm (h : rows.Perm rows') (threshold : PyFloat) :
    pairRates rows threshold = pairRates rows' threshold := by
  have hchanged := countP_pairs_perm
    (p := fun p : CorpusDiversityArtifact × CorpusDiversityArtifact => p.1.bodyHash ≠ p.2.bodyHash)
    (fun a b => by simp only [ne_comm (a := a.bodyHash)]) h
  have hvariant := countP_pairs_perm
    (p := fun p : CorpusDiversityArtifact × CorpusDiversityArtifact =>
      p.1.bodyHash ≠ p.2.bodyHash ∧ p.1.presentationFingerprint = p.2.presentationFingerprint ∧
        p.1.variantId ≠ p.2.variantId)
    (fun a b => by
      simp only [ne_comm (a := a.bodyHash), eq_comm (a := a.presentationFingerprint),
        ne_comm (a := a.variantId)]) h
  have hmatter := countP_pairs_perm
    (p := fun p : CorpusDiversityArtifact × CorpusDiversityArtifact =>
      p.1.matterCommitment ≠ p.2.matterCommitment)
    (fun a b => by simp only [ne_comm (a := a.matterCommitment)]) h
  have hnear := countP_pairs_perm
    (p := fun p : CorpusDiversityArtifact × CorpusDiversityArtifact =>
      p.1.matterCommitment ≠ p.2.matterCommitment ∧
        threshold.le (.finite (jaccard p.1.semanticSkeletonTokens p.2.semanticSkeletonTokens)))
    (fun a b => by
      simp only [ne_comm (a := a.matterCommitment), jaccard_comm a.semanticSkeletonTokens]) h
  simp only [pairRates, hchanged, hvariant, hmatter, hnear]

/-- The distances between authors are permuted with the rows. -/
theorem authorDistances_perm (h : rows.Perm rows') :
    (authorDistances rows).Perm (authorDistances rows') :=
  filterMap_pairs_perm (fun a b => by
    simp only [eq_comm (a := a.authorCommitment), jaccard_comm a.realizedOperationIds]) h

/-- The median distance does not depend on the order. -/
theorem crossAuthorDistance_perm (h : rows.Perm rows') :
    crossAuthorDistance rows = crossAuthorDistance rows' := by
  have hdistances := authorDistances_perm h
  have hnil : authorDistances rows = [] ↔ authorDistances rows' = [] := by
    rw [← List.length_eq_zero_iff, ← List.length_eq_zero_iff, hdistances.length_eq]
  simp only [crossAuthorDistance, hnil, median_perm hdistances]

/-- The shape of some rows does not depend on their order. -/
theorem channelShape_perm (h : rows.Perm rows') :
    channelShape policy rows = channelShape policy rows' := by
  simp only [channelShape, h.length_eq, length_distinct_perm _ h, pairRates_perm h,
    crossAuthorDistance_perm h, sortedTally_perm (h.map combinedFamily),
    largest_perm (h.map combinedFamily)]

/-- The shape of a channel does not depend on the order. -/
theorem shapeOf_perm (h : rows.Perm rows') : shapeOf policy rows = shapeOf policy rows' :=
  funext fun channel => channelShape_perm (members_perm _ h channel)

/-- The channels do not depend on the order. -/
theorem channels_perm (h : rows.Perm rows') : channels rows = channels rows' :=
  insertionSort_perm (keys_perm _ h)

/-- The number of authors does not depend on the order. -/
theorem length_authorGroups_perm (h : rows.Perm rows') :
    (authorGroups rows).length = (authorGroups rows').length := by
  rw [authorGroups, authorGroups, ← List.countP_eq_length_filter, ← List.countP_eq_length_filter]
  exact countP_groups_perm _ (fun g g' hg => by rw [hg.length_eq]) h

/-- The number of organizations does not depend on the order. -/
theorem length_organizationGroups_perm (h : rows.Perm rows') :
    (organizationGroups rows).length = (organizationGroups rows').length := by
  rw [organizationGroups, organizationGroups, ← List.countP_eq_length_filter,
    ← List.countP_eq_length_filter]
  exact countP_groups_perm _ (fun g g' hg => by rw [hg.length_eq]) h

/-- The number of inconsistent authors does not depend on the order. -/
theorem length_authorInconsistencies_perm (h : rows.Perm rows') :
    (authorInconsistencies rows).length = (authorInconsistencies rows').length := by
  rw [authorInconsistencies, authorInconsistencies, authorGroups, authorGroups,
    ← List.countP_eq_length_filter, ← List.countP_eq_length_filter, List.countP_filter,
    List.countP_filter]
  exact countP_groups_perm _ (fun g g' hg => by
    rw [hg.length_eq, length_distinct_perm (·.effectiveVoiceSignature) hg]) h

/-- The number of inconsistent organizations does not depend on the order. -/
theorem length_organizationInconsistencies_perm (h : rows.Perm rows') :
    (organizationInconsistencies rows).length = (organizationInconsistencies rows').length := by
  rw [organizationInconsistencies, organizationInconsistencies, organizationGroups,
    organizationGroups, ← List.countP_eq_length_filter, ← List.countP_eq_length_filter,
    List.countP_filter, List.countP_filter]
  exact countP_groups_perm _ (fun g g' hg => by
    rw [hg.length_eq, length_distinct_perm (·.cultureCommitment) hg]) h

/-- The coverage of facts does not depend on the order. -/
theorem factualCoverage_perm (h : rows.Perm rows') : factualCoverage rows = factualCoverage rows' := by
  rw [factualCoverage, factualCoverage, h.countP_eq, h.length_eq]

/-! ## The findings -/

@[simp] theorem map_kind_addIf (condition : Bool) (code : String) (severity : Severity)
    (subject : Json) (message : String) :
    (addIf condition code severity subject message).map kind =
      if condition then [(code, severity)] else [] := by
  unfold addIf
  split <;> rfl

/-- One finding for each group: only their number shows in the kinds. -/
theorem map_kind_flatMap_addIf (gs : List (List CorpusDiversityArtifact)) (code : String)
    (severity : Severity) (subject : List CorpusDiversityArtifact → Json) (message : String) :
    (gs.flatMap fun g => addIf true code severity (subject g) message).map kind =
      List.replicate gs.length (code, severity) := by
  induction gs with
  | nil => rfl
  | cons g gs ih =>
    rw [List.flatMap_cons, List.map_append, ih, map_kind_addIf, if_pos rfl, List.length_cons,
      List.replicate_succ, List.singleton_append]

/-- The kinds of the findings do not depend on the order, where the separation does not. -/
theorem map_kind_findings (h : rows.Perm rows')
    (hseparation : separation order rows = separation order' rows') :
    (findings repr order policy rows verified).map kind =
      (findings repr order' policy rows' verified).map kind := by
  have hnil : rows = [] ↔ rows' = [] := by
    rw [← List.length_eq_zero_iff, ← List.length_eq_zero_iff, h.length_eq]
  have hsynthetic : (rows.any fun r => !r.syntheticOnly) = rows'.any fun r => !r.syntheticOnly :=
    Bool.eq_iff_iff.2 (by simp only [List.any_eq_true, h.mem_iff])
  simp only [findings, List.map_append, map_kind_addIf, map_kind_flatMap_addIf, ne_eq, hnil,
    h.length_eq, length_distinct_perm _ h, hsynthetic, channels_perm h, shapeOf_perm h,
    length_authorInconsistencies_perm h, length_organizationInconsistencies_perm h, hseparation,
    factualCoverage_perm h]

/-- Whether there is an error is seen from the kinds. -/
theorem any_error_eq (fs : List DiversityFinding) :
    (fs.any (·.severity = .error)) = (fs.map kind).any (·.2 = .error) := by
  rw [List.any_map]
  rfl

/-- Only the separation can tell two orders of the rows apart. -/
theorem sameOutcome_of_separation (h : rows.Perm rows')
    (hseparation : separation order rows = separation order' rows') :
    SameOutcome (evaluateCorpusDiversityArtifacts repr order policy rows verified)
      (evaluateCorpusDiversityArtifacts repr order' policy rows' verified) where
  channelMetrics := by
    simp only [evaluateCorpusDiversityArtifacts, CorpusDiversityReport.withId, draft,
      channels_perm h, shapeOf_perm h]
  separation := hseparation
  artifactCount := h.length_eq
  eligible := by
    simp only [evaluateCorpusDiversityArtifacts, CorpusDiversityReport.withId, draft,
      channels_perm h, shapeOf_perm h]
  insufficient := by
    simp only [evaluateCorpusDiversityArtifacts, CorpusDiversityReport.withId, draft,
      channels_perm h, shapeOf_perm h]
  authorEligible := length_authorGroups_perm h
  authorInconsistent := length_authorInconsistencies_perm h
  organizationEligible := length_organizationGroups_perm h
  organizationInconsistent := length_organizationInconsistencies_perm h
  passed := by
    simp only [evaluateCorpusDiversityArtifacts, CorpusDiversityReport.withId, draft, any_error_eq,
      map_kind_findings h hseparation]
  kinds := .of_eq (map_kind_findings h hseparation)

/-! ## The representatives -/

/-- The channels of the rows, as a set. -/
def channelSet (rows : List CorpusDiversityArtifact) : Finset String :=
  (keys (·.channelKind) rows).toFinset

/-- The section sequences of a channel, as a set. -/
def sectionSet (rows : List CorpusDiversityArtifact) (channel : String) : Finset (List String) :=
  (sectionsOf rows channel).toFinset

/-- The sections of a channel are those of its rows. -/
theorem mem_sectionsOf {channel : String} {s : List String} :
    s ∈ sectionsOf rows channel ↔ ∃ r ∈ rows, r.channelKind = channel ∧ r.sectionSequence = s := by
  simp [sectionsOf, and_assoc]

/-- The set of sections of a channel does not depend on the order. -/
theorem sectionSet_perm (h : rows.Perm rows') : sectionSet rows = sectionSet rows' := by
  funext channel
  ext s
  simp only [sectionSet, List.mem_toFinset, mem_sectionsOf, h.mem_iff]

/-- The set of channels does not depend on the order. -/
theorem channelSet_perm (h : rows.Perm rows') : channelSet rows = channelSet rows' :=
  List.toFinset_eq_of_perm _ _ (keys_perm _ h)

/-- A channel has sections. -/
theorem sectionsOf_ne_nil {channel : String} (h : channel ∈ channelSet rows) :
    sectionsOf rows channel ≠ [] := by
  obtain ⟨r, hr, hchannel⟩ := mem_keys.1 (List.mem_toFinset.1 h)
  exact List.ne_nil_of_mem (mem_sectionsOf.2 ⟨r, hr, hchannel, rfl⟩)

/-- What represents a channel. -/
def representative (order : SetOrder (List String)) (rows : List CorpusDiversityArtifact)
    (channel : String) : List String :=
  (order.first (sectionsOf rows channel)).getD []

/-- What represents a channel is one of its sections, whatever the order of the set. -/
theorem first_sectionsOf (order : SetOrder (List String)) {channel : String}
    (h : channel ∈ channelSet rows) :
    order.first (sectionsOf rows channel) = some (representative order rows channel) ∧
      representative order rows channel ∈ sectionSet rows channel := by
  obtain ⟨s, hs, hfirst⟩ := order.first_eq_some (sectionsOf_ne_nil h)
  rw [representative, hfirst]
  exact ⟨rfl, List.mem_toFinset.2 hs⟩

/-- The representatives choose a section for each channel. -/
theorem chooses_representative (order : SetOrder (List String)) (rows : List CorpusDiversityArtifact) :
    Chooses (channelSet rows) (sectionSet rows) (representative order rows) :=
  fun _ h => (first_sectionsOf order h).2

/-- The representatives, counted. -/
theorem length_representativeSections (order : SetOrder (List String))
    (rows : List CorpusDiversityArtifact) :
    (representativeSections order rows).length =
      ((channelSet rows).image (representative order rows)).card := by
  rw [representativeSections, length_distinct]
  congr 1
  ext s
  simp only [List.mem_toFinset, List.mem_filterMap, Finset.mem_image, channelSet]
  constructor
  · rintro ⟨channel, hchannel, hfirst⟩
    rw [(first_sectionsOf order (List.mem_toFinset.2 hchannel)).1] at hfirst
    exact ⟨channel, hchannel, Option.some.inj hfirst⟩
  · rintro ⟨channel, hchannel, rfl⟩
    exact ⟨channel, hchannel, (first_sectionsOf order (List.mem_toFinset.2 hchannel)).1⟩

/-- Rows reordered so that each channel begins with the rows of a chosen section sequence. -/
def leading (f : String → List String) (rows : List CorpusDiversityArtifact) :
    List CorpusDiversityArtifact :=
  rows.filter (fun r => r.sectionSequence = f r.channelKind) ++
    rows.filter fun r => !decide (r.sectionSequence = f r.channelKind)

/-- The leading rows are the same rows. -/
theorem leading_perm (f : String → List String) (rows : List CorpusDiversityArtifact) :
    (leading f rows).Perm rows :=
  List.filter_append_perm _ rows

/-- The sections that lead represent their channels, in order of insertion. -/
theorem representative_leading {f : String → List String}
    (hf : Chooses (channelSet rows) (sectionSet rows) f) {channel : String}
    (h : channel ∈ channelSet rows) :
    representative (.ofInsertion _) (leading f rows) channel = f channel := by
  obtain ⟨r, hr, hchannel, hsection⟩ := mem_sectionsOf.1 (List.mem_toFinset.1 (hf channel h))
  have hfront : ∀ s ∈ ((rows.filter fun r => r.sectionSequence = f r.channelKind).filter
      fun r => decide (r.channelKind = channel)).map (·.sectionSequence), s = f channel := by
    intro s hs
    simp only [List.mem_map, List.mem_filter, decide_eq_true_eq] at hs
    obtain ⟨q, ⟨⟨-, hq⟩, hqchannel⟩, rfl⟩ := hs
    rw [hq, hqchannel]
  have hmem : f channel ∈ ((rows.filter fun r => r.sectionSequence = f r.channelKind).filter
      fun r => decide (r.channelKind = channel)).map (·.sectionSequence) := by
    simp only [List.mem_map, List.mem_filter, decide_eq_true_eq]
    exact ⟨r, ⟨⟨hr, by rw [hsection, hchannel]⟩, hchannel⟩, hsection⟩
  rw [representative, SetOrder.first_ofInsertion, sectionsOf, members, leading, List.filter_append,
    List.map_append]
  revert hfront hmem
  generalize ((rows.filter fun r => r.sectionSequence = f r.channelKind).filter
      fun r => decide (r.channelKind = channel)).map (·.sectionSequence) = front
  intro hfront hmem
  cases front with
  | nil => cases hmem
  | cons s front => exact hfront s (.head _)

/-- The separation is the same for every order of the rows and of the sets. -/
def SeparationFixed (rows : List CorpusDiversityArtifact) : Prop :=
  ∀ rows', rows'.Perm rows → ∀ order order', separation order rows = separation order' rows'

/-- Where the sections are settled the order does not show. -/
theorem separationFixed_of_settled (h : Settled (channelSet rows) (sectionSet rows)) :
    SeparationFixed rows := by
  intro rows' hperm order order'
  have hchosen := chooses_representative order' rows'
  rw [channelSet_perm hperm, sectionSet_perm hperm] at hchosen
  have hcard := card_image_of_settled h (chooses_representative order rows) hchosen
  rw [separation, separation, length_representativeSections, length_representativeSections, hcard,
    channelSet_perm hperm, (keys_perm _ hperm).length_eq]

/-- Where the order does not show the sections are settled. -/
theorem settled_of_separationFixed (h : SeparationFixed rows) :
    Settled (channelSet rows) (sectionSet rows) := by
  have hne : ∀ channel ∈ channelSet rows, (sectionSet rows channel).Nonempty := fun channel hc =>
    ⟨_, (first_sectionsOf (.ofInsertion _) hc).2⟩
  have hcard : ∀ f, Chooses (channelSet rows) (sectionSet rows) f →
      ((channelSet rows).image f).card =
        ((channelSet rows).image (representative (.ofInsertion _) rows)).card := by
    intro f hf
    have hperm := leading_perm f rows
    have himage : (channelSet (leading f rows)).image
        (representative (.ofInsertion _) (leading f rows)) = (channelSet rows).image f := by
      rw [channelSet_perm hperm]
      exact Finset.image_congr fun channel hc => representative_leading hf hc
    have hfixed := h _ hperm (.ofInsertion _) (.ofInsertion _)
    rw [separation, separation, length_representativeSections, length_representativeSections,
      himage, (keys_perm _ hperm).length_eq, ratio, ratio] at hfixed
    split at hfixed
    · next hzero =>
      have hempty : channelSet rows = ∅ := by
        rw [channelSet, List.length_eq_zero_iff.1 hzero]
        rfl
      rw [hempty]
      rfl
    · next hne =>
      have hpos : ((keys (·.channelKind) rows).length : ℚ) ≠ 0 := Nat.cast_ne_zero.2 hne
      exact_mod_cast ((div_left_inj' hpos).1 hfixed).symm
  exact settled_of_card_image hne fun f g hf hg => (hcard f hf).trans (hcard g hg).symm

/-- The evaluation does not depend on the order of the rows and of the sets exactly when each
channel whose rows have several section sequences shares none of them with another channel, or has
each of them as the only one of another channel. -/
theorem order_independent_iff (repr : PyFloat → String) (policy : CorpusDiversityPolicy)
    (rows : List CorpusDiversityArtifact) (verified : Bool) :
    (∀ rows', rows'.Perm rows → ∀ order order',
      SameOutcome (evaluateCorpusDiversityArtifacts repr order policy rows verified)
        (evaluateCorpusDiversityArtifacts repr order' policy rows' verified)) ↔
      Settled (channelSet rows) (sectionSet rows) := by
  constructor
  · intro h
    exact settled_of_separationFixed fun rows' hperm order order' =>
      (h rows' hperm order order').separation
  · intro h rows' hperm order order'
    exact sameOutcome_of_separation hperm.symm (separationFixed_of_settled h rows' hperm order order')

/-- A row of a channel with one section. -/
def rowOf (channel section_ : String) : CorpusDiversityArtifact where
  artifactCommitment := "CDIV-" ++ channel ++ "-" ++ section_
  matterCommitment := "matter"
  authorCommitment := "author"
  organizationCommitment := "organization"
  cultureCommitment := "culture"
  channelKind := channel
  familyId := "family"
  roleId := "role"
  effectiveVoiceSignature := "voice"
  effectiveGeometrySignature := "geometry"
  channelContractHash := "contract"
  sectionSequence := [section_]
  segmentGeometry := [(section_, "opening")]
  assertionPositions := []
  styleOperationIds := []
  realizedOperationIds := []
  normalizedNonassertiveBlockIds := []
  audienceMode := "internal"
  channelCompatibility := "native"
  presentationFingerprint := "fingerprint"
  semanticSkeletonTokens := ["section:" ++ section_]
  variantId := "variant"
  factualTraceHash := "trace"
  bodyHash := "body"
  qualifiedBundleHash := "bundle"
  sourceCompilationHash := "compilation"
  syntheticOnly := true

/-- Two emails with different sections, one of them the section of the calendar entry: the sections
of the two channels are distinct or not as the one or the other email comes first. -/
theorem order_dependent_email : ¬ ∀ (repr : PyFloat → String) (policy : CorpusDiversityPolicy)
    (rows rows' : List CorpusDiversityArtifact) (verified : Bool) (order order' : SetOrder _),
    rows'.Perm rows →
      SameOutcome (evaluateCorpusDiversityArtifacts repr order policy rows verified)
        (evaluateCorpusDiversityArtifacts repr order' policy rows' verified) := by
  intro h
  have hseparation := (h (fun _ => "") {}
    [rowOf "email" "email.body", rowOf "email" "calendar.body", rowOf "calendar" "calendar.body"]
    [rowOf "email" "calendar.body", rowOf "email" "email.body", rowOf "calendar" "calendar.body"]
    true (.ofInsertion _) (.ofInsertion _) (.swap _ _ _)).separation
  have hdistinct : separation (.ofInsertion _) [rowOf "email" "email.body",
      rowOf "email" "calendar.body", rowOf "calendar" "calendar.body"] = ratio 2 2 := by
    congr 1
  have hcollapsed : separation (.ofInsertion _) [rowOf "email" "calendar.body",
      rowOf "email" "email.body", rowOf "calendar" "calendar.body"] = ratio 1 2 := by
    congr 1
  have heq : ratio 2 2 = ratio 1 2 := hdistinct.symm.trans (hseparation.trans hcollapsed)
  norm_num [ratio] at heq

end Diversity

end LawFirmDigitalTwin
