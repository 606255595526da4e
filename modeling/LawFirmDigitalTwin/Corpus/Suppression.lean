import LawFirmDigitalTwin.Corpus.OrderIndependence

/-!
# The small cells of a public summary

The summary publishes the metrics of the channels with five artifacts or more, how many channels it
holds back, and the number of all artifacts. So the counts held back have a published sum. Where two
of them differ, exchanging the names of the two channels shows in nothing that is published; where
they are equal, a row can often be moved from one channel to another. A single count held back is
the published sum itself.
-/

namespace LawFirmDigitalTwin

open Groups

namespace Diversity

variable {repr : PyFloat → String} {order : SetOrder (List String)}
  {policy : CorpusDiversityPolicy} {rows rows' : List CorpusDiversityArtifact} {verified : Bool}

/-- The number of rows of a channel. -/
def count (rows : List CorpusDiversityArtifact) (channel : String) : Nat :=
  (members (·.channelKind) rows channel).length

/-- The channels are the keys of the rows. -/
theorem perm_channels (rows : List CorpusDiversityArtifact) :
    (channels rows).Perm (keys (·.channelKind) rows) :=
  List.perm_insertionSort _ _

@[simp] theorem mem_channels {c : String} : c ∈ channels rows ↔ c ∈ keys (·.channelKind) rows :=
  (perm_channels rows).mem_iff

/-- Every channel is listed once. -/
theorem nodup_channels (rows : List CorpusDiversityArtifact) : (channels rows).Nodup :=
  (perm_channels rows).nodup_iff.2 (nodup_keys _ _)

/-- The public summary of an evaluation. -/
def summaryOf (repr : PyFloat → String) (order : SetOrder (List String))
    (policy : CorpusDiversityPolicy) (rows : List CorpusDiversityArtifact) (verified : Bool) :
    PublicSummary :=
  (evaluateCorpusDiversityArtifacts repr order policy rows verified).publicSummary

/-- The summaries agree on every field but the id and the commitment to the rows. -/
def Agree (p p' : PublicSummary) : Prop :=
  { p with reportId := p'.reportId, inputCommitment := p'.inputCommitment } = p'

/-! ## Rows that differ in what the summary does not show -/

/-- The rows differ in nothing but their channel, their sections and their realized operations. -/
def SameSource (r r' : CorpusDiversityArtifact) : Prop :=
  { r with
    channelKind := r'.channelKind
    sectionSequence := r'.sectionSequence
    realizedOperationIds := r'.realizedOperationIds } = r'

section
variable {β : Type} {f g : β → CorpusDiversityArtifact} {ps : List β}

/-- The groups of mapped rows are the mapped groups. -/
theorem groups_map {κ : Type} [DecidableEq κ] (key : CorpusDiversityArtifact → κ) (ps : List β) :
    groups key (ps.map f) = (groups (key ∘ f) ps).map (List.map f) := by
  rw [groups, groups, keys, keys, List.map_map, List.map_map]
  refine List.map_congr_left fun k _ => ?_
  rw [Function.comp, members, members, List.filter_map]
  rfl

/-- Groups under a key the rows share are alike in everything else they share. -/
theorem countP_groups_map {κ : Type} [DecidableEq κ] (key : CorpusDiversityArtifact → κ)
    (test : List CorpusDiversityArtifact → Bool) (hkey : ∀ p, key (g p) = key (f p))
    (htest : ∀ qs : List β, test (qs.map g) = test (qs.map f)) :
    (groups key (ps.map g)).countP test = (groups key (ps.map f)).countP test := by
  have hcomp : key ∘ g = key ∘ f := funext hkey
  rw [groups_map, groups_map, hcomp, List.countP_map, List.countP_map]
  exact List.countP_congr fun qs _ => by rw [Function.comp, Function.comp, htest]

variable (hsource : ∀ p, SameSource (f p) (g p))
include hsource

/-- A field of the source is the same in rows of the same sources. -/
theorem map_eq_of_sameSource {κ : Type} (field : CorpusDiversityArtifact → κ)
    (hfield : ∀ r r', SameSource r r' → field r' = field r) (ps : List β) :
    (ps.map g).map field = (ps.map f).map field := by
  rw [List.map_map, List.map_map]
  exact List.map_congr_left fun p _ => hfield _ _ (hsource p)

/-- The same sources have as many groups of authors. -/
theorem length_authorGroups_map :
    (authorGroups (ps.map g)).length = (authorGroups (ps.map f)).length := by
  rw [authorGroups, authorGroups, ← List.countP_eq_length_filter, ← List.countP_eq_length_filter]
  exact countP_groups_map _ _ (fun p => by rw [← hsource p]) fun qs => by
    rw [List.length_map, List.length_map]

/-- The same sources have as many groups of organizations. -/
theorem length_organizationGroups_map :
    (organizationGroups (ps.map g)).length = (organizationGroups (ps.map f)).length := by
  rw [organizationGroups, organizationGroups, ← List.countP_eq_length_filter,
    ← List.countP_eq_length_filter]
  exact countP_groups_map _ _ (fun p => by rw [← hsource p]) fun qs => by
    rw [List.length_map, List.length_map]

/-- The same sources have as many inconsistent authors. -/
theorem length_authorInconsistencies_map :
    (authorInconsistencies (ps.map g)).length = (authorInconsistencies (ps.map f)).length := by
  rw [authorInconsistencies, authorInconsistencies, authorGroups, authorGroups,
    ← List.countP_eq_length_filter, ← List.countP_eq_length_filter, List.countP_filter,
    List.countP_filter]
  refine countP_groups_map _ _ (fun p => by rw [← hsource p]) fun qs => ?_
  rw [List.length_map, List.length_map,
    map_eq_of_sameSource hsource (·.effectiveVoiceSignature) (fun r r' h => by rw [← h])]

/-- The same sources have as many inconsistent organizations. -/
theorem length_organizationInconsistencies_map :
    (organizationInconsistencies (ps.map g)).length =
      (organizationInconsistencies (ps.map f)).length := by
  rw [organizationInconsistencies, organizationInconsistencies, organizationGroups,
    organizationGroups, ← List.countP_eq_length_filter, ← List.countP_eq_length_filter,
    List.countP_filter, List.countP_filter]
  refine countP_groups_map _ _ (fun p => by rw [← hsource p]) fun qs => ?_
  rw [List.length_map, List.length_map,
    map_eq_of_sameSource hsource (·.cultureCommitment) (fun r r' h => by rw [← h])]

/-- The same sources have the same coverage of facts. -/
theorem factualCoverage_map : factualCoverage (ps.map g) = factualCoverage (ps.map f) := by
  rw [factualCoverage, factualCoverage, List.countP_map, List.countP_map, List.length_map,
    List.length_map]
  congr 1
  exact List.countP_congr fun p _ => by rw [Function.comp, Function.comp, ← hsource p]

/-- The same sources are synthetic alike. -/
theorem any_not_synthetic_map :
    ((ps.map g).any fun r => !r.syntheticOnly) = (ps.map f).any fun r => !r.syntheticOnly := by
  rw [List.any_map, List.any_map]
  congr 1
  funext p
  rw [Function.comp, Function.comp, ← hsource p]

end

/-! ## Cells that are published and cells that are not -/

/-- The rows have the same cells to the public: a renaming of the channels keeps every published
channel as it is, and every suppressed channel small, with findings of the same kinds and with the
same representative. -/
structure SameCells (order : SetOrder (List String)) (policy : CorpusDiversityPolicy)
    (rows rows' : List CorpusDiversityArtifact) (rename : String → String) : Prop where
  channels : (keys (·.channelKind) rows').Perm ((keys (·.channelKind) rows).map rename)
  published : ∀ c ∈ keys (·.channelKind) rows, 5 ≤ count rows c →
    rename c = c ∧ shapeOf policy rows' c = shapeOf policy rows c
  small : ∀ c ∈ keys (·.channelKind) rows, count rows c < 5 → count rows' (rename c) < 5
  eligible : ∀ c ∈ keys (·.channelKind) rows, count rows c < 5 →
    (shapeOf policy rows' (rename c)).eligible = (shapeOf policy rows c).eligible
  kinds : ∀ (repr : PyFloat → String), ∀ c ∈ keys (·.channelKind) rows, count rows c < 5 →
    (channelFindings repr policy (rename c) (shapeOf policy rows' (rename c))).map kind =
      (channelFindings repr policy c (shapeOf policy rows c)).map kind
  representative : ∀ c ∈ keys (·.channelKind) rows,
    Diversity.representative order rows' (rename c) = Diversity.representative order rows c

namespace SameCells

variable {rename : String → String} (h : SameCells order policy rows rows' rename)
include h

/-- A renamed channel is suppressed where the channel is. -/
theorem count_lt_iff {c : String} (hc : c ∈ keys (·.channelKind) rows) :
    count rows' (rename c) < 5 ↔ count rows c < 5 := by
  refine ⟨fun hsmall => ?_, h.small c hc⟩
  by_contra hlarge
  obtain ⟨hname, hshape⟩ := h.published c hc (Nat.le_of_not_lt hlarge)
  have hsize : count rows' c = count rows c := congrArg ChannelShape.size hshape
  rw [hname, hsize] at hsmall
  exact hlarge hsmall

/-- A renamed channel is judged where the channel is. -/
theorem eligible_eq {c : String} (hc : c ∈ keys (·.channelKind) rows) :
    (shapeOf policy rows' (rename c)).eligible = (shapeOf policy rows c).eligible := by
  rcases Nat.lt_or_ge (count rows c) 5 with hsmall | hlarge
  · exact h.eligible c hc hsmall
  · obtain ⟨hname, hshape⟩ := h.published c hc hlarge
    rw [hname, hshape]

/-- A renamed channel has findings of the same kinds. -/
theorem kinds_eq (repr : PyFloat → String) {c : String} (hc : c ∈ keys (·.channelKind) rows) :
    (channelFindings repr policy (rename c) (shapeOf policy rows' (rename c))).map kind =
      (channelFindings repr policy c (shapeOf policy rows c)).map kind := by
  rcases Nat.lt_or_ge (count rows c) 5 with hsmall | hlarge
  · exact h.kinds repr c hc hsmall
  · obtain ⟨hname, hshape⟩ := h.published c hc hlarge
    rw [hname, hshape]

/-- The channels of the same cells are the renamed ones. -/
theorem channels_perm : (Diversity.channels rows').Perm ((Diversity.channels rows).map rename) :=
  ((perm_channels rows').trans h.channels).trans ((perm_channels rows).symm.map _)

/-- A figure that is the same for a channel and its renaming is counted alike. -/
theorem countP_channels {test test' : String → Bool}
    (htest : ∀ c ∈ keys (·.channelKind) rows, test' (rename c) = test c) :
    (Diversity.channels rows').countP test' = (Diversity.channels rows).countP test := by
  rw [h.channels_perm.countP_eq, List.countP_map]
  exact List.countP_congr fun c hc => by
    rw [Function.comp, htest c (mem_channels.1 hc)]

/-- The same cells have findings of the same kinds. -/
theorem flatMap_kinds (repr : PyFloat → String) :
    ((Diversity.channels rows').flatMap fun c =>
        (channelFindings repr policy c (shapeOf policy rows' c)).map kind).Perm
      ((Diversity.channels rows).flatMap fun c =>
        (channelFindings repr policy c (shapeOf policy rows c)).map kind) := by
  refine (h.channels_perm.flatMap_right _).trans (.of_eq ?_)
  rw [List.flatMap_map]
  exact List.flatMap_congr fun c hc => h.kinds_eq repr (mem_channels.1 hc)

/-- The same cells are separated alike. -/
theorem separation_eq : separation order rows' = separation order rows := by
  have hset : channelSet rows' = (channelSet rows).image rename := by
    ext c
    rw [channelSet, List.mem_toFinset, h.channels.mem_iff, List.mem_map, Finset.mem_image]
    simp only [channelSet, List.mem_toFinset]
  have himage : (channelSet rows').image (Diversity.representative order rows') =
      (channelSet rows).image (Diversity.representative order rows) := by
    rw [hset, Finset.image_image]
    exact Finset.image_congr fun c hc => h.representative c (List.mem_toFinset.1 hc)
  rw [separation, separation, length_representativeSections, length_representativeSections, himage,
    h.channels.length_eq, List.length_map]

/-- The published channels, in their order. -/
theorem filter_channels :
    (Diversity.channels rows').filter (5 ≤ count rows' ·) =
      (Diversity.channels rows).filter (5 ≤ count rows ·) := by
  have hlarge : ∀ c ∈ Diversity.channels rows,
      (decide (5 ≤ count rows' (rename c)) = true ↔ decide (5 ≤ count rows c) = true) := by
    intro c hc
    have hlt := h.count_lt_iff (mem_channels.1 hc)
    simp only [decide_eq_true_eq]
    omega
  have hperm : ((Diversity.channels rows').filter (5 ≤ count rows' ·)).Perm
      ((Diversity.channels rows).filter (5 ≤ count rows ·)) := by
    refine (h.channels_perm.filter _).trans (.of_eq ?_)
    have hsame : (Diversity.channels rows).filter ((5 ≤ count rows' ·) ∘ rename) =
        (Diversity.channels rows).filter (5 ≤ count rows ·) :=
      List.filter_congr fun c hc => Bool.eq_iff_iff.2 (hlarge c hc)
    rw [List.filter_map, hsame]
    refine (List.map_congr_left fun c hc => ?_).trans (List.map_id _)
    obtain ⟨hmem, hcount⟩ := List.mem_filter.1 hc
    exact (h.published c (mem_channels.1 hmem)
      (of_decide_eq_true hcount)).1
  exact hperm.eq_of_pairwise' ((List.pairwise_insertionSort _ _).filter _)
    ((List.pairwise_insertionSort _ _).filter _)

/-- The same cells have the same published metrics. -/
theorem publicMetrics_eq :
    ((Diversity.channels rows').map fun c =>
        channelMetrics c (shapeOf policy rows' c)).filter (5 ≤ ·.artifactCount) =
      ((Diversity.channels rows).map fun c =>
        channelMetrics c (shapeOf policy rows c)).filter (5 ≤ ·.artifactCount) := by
  have hfilter : ∀ rows : List CorpusDiversityArtifact,
      ((Diversity.channels rows).map fun c =>
          channelMetrics c (shapeOf policy rows c)).filter (5 ≤ ·.artifactCount) =
        ((Diversity.channels rows).filter (5 ≤ count rows ·)).map fun c =>
          channelMetrics c (shapeOf policy rows c) := fun rows => List.filter_map ..
  rw [hfilter, hfilter, h.filter_channels]
  refine List.map_congr_left fun c hc => ?_
  obtain ⟨hmem, hcount⟩ := List.mem_filter.1 hc
  rw [(h.published c (mem_channels.1 hmem) (of_decide_eq_true hcount)).2]

/-- The same cells have as many suppressed channels. -/
theorem suppressed_eq :
    ((Diversity.channels rows').map fun c =>
        channelMetrics c (shapeOf policy rows' c)).countP (·.artifactCount < 5) =
      ((Diversity.channels rows).map fun c =>
        channelMetrics c (shapeOf policy rows c)).countP (·.artifactCount < 5) := by
  rw [List.countP_map, List.countP_map]
  refine h.countP_channels fun c hc => Bool.eq_iff_iff.2 ?_
  rw [Function.comp, Function.comp, decide_eq_true_iff, decide_eq_true_iff]
  exact h.count_lt_iff hc

end SameCells

/-- Rows that differ in what the summary does not show, and have the same cells to the public, have
the same public summary. -/
theorem summaryOf_agree (repr : PyFloat → String) (verified : Bool) {β : Type}
    {f g : β → CorpusDiversityArtifact} {ps : List β} (hsource : ∀ p, SameSource (f p) (g p))
    {rename : String → String}
    (h : SameCells order policy (ps.map f) (ps.map g) rename) :
    Agree (summaryOf repr order policy (ps.map f) verified)
      (summaryOf repr order policy (ps.map g) verified) := by
  have heligible : (Diversity.channels (ps.map g)).countP
        (fun c => (shapeOf policy (ps.map g) c).eligible) =
      (Diversity.channels (ps.map f)).countP fun c => (shapeOf policy (ps.map f) c).eligible :=
    h.countP_channels fun c hc => h.eligible_eq hc
  have hkinds : ((findings repr order policy (ps.map g) verified).map kind).Perm
      ((findings repr order policy (ps.map f) verified).map kind) := by
    have hnil : Diversity.channels (ps.map g) = [] ↔ Diversity.channels (ps.map f) = [] := by
      rw [← List.length_eq_zero_iff, ← List.length_eq_zero_iff, h.channels_perm.length_eq,
        List.length_map]
    have hrows : ps.map g = [] ↔ ps.map f = [] := by rw [List.map_eq_nil_iff, List.map_eq_nil_iff]
    have hcommitment : (ps.map g).map (·.artifactCommitment) = (ps.map f).map (·.artifactCommitment) :=
      map_eq_of_sameSource hsource _ (fun r r' h => by rw [← h]) ps
    simp only [findings, List.map_append, map_kind_addIf, map_kind_flatMap_addIf, ne_eq, hrows, hnil,
      List.length_map, hcommitment, any_not_synthetic_map hsource,
      length_authorInconsistencies_map hsource, length_organizationInconsistencies_map hsource,
      factualCoverage_map hsource, h.separation_eq, heligible]
    rw [List.map_flatMap, List.map_flatMap]
    exact ((((((h.flatMap_kinds repr).append_left _).append_right _).append_right _).append_right
      _).append_right _).append_right _
  have hpassed : (findings repr order policy (ps.map g) verified).any (·.severity = .error) =
      (findings repr order policy (ps.map f) verified).any (·.severity = .error) := by
    rw [any_error_eq, any_error_eq]
    exact Bool.eq_iff_iff.2 (by simp only [List.any_eq_true, hkinds.mem_iff])
  have hineligible : (Diversity.channels (ps.map g)).countP
        (fun c => !(shapeOf policy (ps.map g) c).eligible) =
      (Diversity.channels (ps.map f)).countP fun c => !(shapeOf policy (ps.map f) c).eligible :=
    h.countP_channels fun c hc => by rw [h.eligible_eq hc]
  have hseverities : sortedTally ((findings repr order policy (ps.map g) verified).map
        (·.severity.value)) =
      sortedTally ((findings repr order policy (ps.map f) verified).map (·.severity.value)) := by
    simpa only [List.map_map, Function.comp_def, kind] using sortedTally_perm (hkinds.map (·.2.value))
  have hcodes : (distinct ((findings repr order policy (ps.map g) verified).map
        (·.code))).insertionSort (· ≤ ·) =
      (distinct ((findings repr order policy (ps.map f) verified).map
        (·.code))).insertionSort (· ≤ ·) := by
    simpa only [List.map_map, Function.comp_def, kind] using
      insertionSort_perm (distinct_perm (hkinds.map (·.1)))
  unfold Agree
  apply PublicSummary.ext
  all_goals
    simp only [summaryOf, CorpusDiversityReport.publicSummary, evaluateCorpusDiversityArtifacts,
      CorpusDiversityReport.withId, draft, hpassed, hseverities, hcodes, heligible, hineligible,
      List.length_map, ne_eq, List.map_eq_nil_iff, factualCoverage_map hsource, h.separation_eq,
      length_authorGroups_map hsource, length_authorInconsistencies_map hsource,
      length_organizationGroups_map hsource, length_organizationInconsistencies_map hsource,
      h.suppressed_eq, h.publicMetrics_eq]

/-! ## Two channels exchange their names -/

section
variable {φ : CorpusDiversityArtifact → CorpusDiversityArtifact}
  (hsource : ∀ r, SameSource r (φ r))
  (hoperations : ∀ r, (φ r).realizedOperationIds = r.realizedOperationIds)
include hsource

/-- The rates of pairs do not see what the map changes. -/
theorem pairRates_map (group : List CorpusDiversityArtifact) (threshold : PyFloat) :
    pairRates (group.map φ) threshold = pairRates group threshold := by
  have hbody : ∀ r, (φ r).bodyHash = r.bodyHash := fun r => by rw [← hsource r]
  have hfingerprint : ∀ r, (φ r).presentationFingerprint = r.presentationFingerprint :=
    fun r => by rw [← hsource r]
  have hvariant : ∀ r, (φ r).variantId = r.variantId := fun r => by rw [← hsource r]
  have hmatter : ∀ r, (φ r).matterCommitment = r.matterCommitment := fun r => by rw [← hsource r]
  have htokens : ∀ r, (φ r).semanticSkeletonTokens = r.semanticSkeletonTokens :=
    fun r => by rw [← hsource r]
  simp only [pairRates, pairs_map, List.countP_map, Function.comp_def, Prod.map, hbody, hfingerprint,
    hvariant, hmatter, htokens]

include hoperations

/-- The distances between authors do not see what the map changes. -/
theorem authorDistances_map (group : List CorpusDiversityArtifact) :
    authorDistances (group.map φ) = authorDistances group := by
  have hauthor : ∀ r, (φ r).authorCommitment = r.authorCommitment := fun r => by rw [← hsource r]
  simp only [authorDistances, pairs_map, List.filterMap_map, Function.comp_def, Prod.map, hauthor,
    hoperations]

/-- The shape of a channel does not see what the map changes. -/
theorem channelShape_map (group : List CorpusDiversityArtifact) :
    channelShape policy (group.map φ) = channelShape policy group := by
  have hvoice : (group.map φ).map (·.effectiveVoiceSignature) =
      group.map (·.effectiveVoiceSignature) := by
    simpa using map_eq_of_sameSource (f := id) hsource _ (fun r r' h => by rw [← h]) group
  have hgeometry : (group.map φ).map (·.effectiveGeometrySignature) =
      group.map (·.effectiveGeometrySignature) := by
    simpa using map_eq_of_sameSource (f := id) hsource _ (fun r r' h => by rw [← h]) group
  have hfingerprint : (group.map φ).map (·.presentationFingerprint) =
      group.map (·.presentationFingerprint) := by
    simpa using map_eq_of_sameSource (f := id) hsource _ (fun r r' h => by rw [← h]) group
  have hfamily : (group.map φ).map combinedFamily = group.map combinedFamily := by
    simpa using map_eq_of_sameSource (f := id) hsource combinedFamily
      (fun r r' h => by rw [← h]; rfl) group
  simp only [channelShape, List.length_map, hvoice, hgeometry, hfingerprint, hfamily,
    pairRates_map hsource, crossAuthorDistance, authorDistances_map hsource hoperations]

end

/-- The row under the other name, if its channel is one of the two. -/
def exchange (c d : String) (r : CorpusDiversityArtifact) : CorpusDiversityArtifact :=
  { r with channelKind := Equiv.swap c d r.channelKind }

/-- Exchanging two channels keeps the sources. -/
theorem sameSource_exchange (c d : String) (r : CorpusDiversityArtifact) :
    SameSource r (exchange c d r) := rfl

/-- The rows of a channel stand under the other name. -/
theorem members_exchange (c d channel : String) (rows : List CorpusDiversityArtifact) :
    members (·.channelKind) (rows.map (exchange c d)) (Equiv.swap c d channel) =
      (members (·.channelKind) rows channel).map (exchange c d) := by
  rw [members, members, List.filter_map]
  congr 1
  refine List.filter_congr fun r _ => ?_
  rw [Function.comp, exchange, decide_eq_decide]
  exact (Equiv.swap c d).injective.eq_iff

/-- The shape of a channel stands under the other name. -/
theorem shapeOf_exchange (policy : CorpusDiversityPolicy) (c d channel : String)
    (rows : List CorpusDiversityArtifact) :
    shapeOf policy (rows.map (exchange c d)) (Equiv.swap c d channel) =
      shapeOf policy rows channel := by
  rw [shapeOf, shapeOf, members_exchange]
  exact channelShape_map (sameSource_exchange c d) (fun _ => rfl) _

/-- The keys are exchanged with the channels. -/
theorem keys_exchange (c d : String) (rows : List CorpusDiversityArtifact) :
    (keys (·.channelKind) (rows.map (exchange c d))).Perm
      ((keys (·.channelKind) rows).map (Equiv.swap c d)) := by
  refine (List.perm_ext_iff_of_nodup (nodup_keys _ _)
    ((nodup_keys _ _).map (Equiv.swap c d).injective)).2 fun channel => ?_
  simp [exchange]

/-- The kinds of the findings of a channel do not depend on its name. -/
theorem map_kind_channelFindings (repr : PyFloat → String) (c d : String) (shape : ChannelShape) :
    (channelFindings repr policy c shape).map kind = (channelFindings repr policy d shape).map kind := by
  simp only [channelFindings, List.map_append, map_kind_addIf]
  congr 1
  · cases shape.eligible with
    | false => simp only [Bool.false_eq_true, if_false, List.map_nil]
    | true => simp only [if_true, List.map_append, map_kind_addIf]
  · cases shape.crossAuthorDistance with
    | none => rfl
    | some distance =>
      dsimp only
      split
      · rw [map_kind_addIf, map_kind_addIf]
      · rw [map_kind_addIf, map_kind_addIf]

/-- Exchanging two suppressed channels keeps the cells. -/
theorem sameCells_exchange {c d : String} (hc : count rows c < 5) (hd : count rows d < 5) :
    SameCells order policy rows (rows.map (exchange c d)) (Equiv.swap c d) where
  channels := keys_exchange c d rows
  published := by
    intro channel _ hlarge
    have hfixed : Equiv.swap c d channel = channel :=
      Equiv.swap_apply_of_ne_of_ne (fun h => by subst h; omega) (fun h => by subst h; omega)
    refine ⟨hfixed, ?_⟩
    have hshape := shapeOf_exchange policy c d channel rows
    rwa [hfixed] at hshape
  small := by
    intro channel _ hsmall
    rwa [count, members_exchange, List.length_map]
  eligible := by
    intro channel _ _
    rw [shapeOf_exchange]
  kinds := by
    intro repr channel _ _
    rw [shapeOf_exchange]
    exact map_kind_channelFindings repr _ _ _
  representative := by
    intro channel _
    rw [representative, representative, sectionsOf, sectionsOf, members_exchange, List.map_map]
    rfl

end Diversity

end LawFirmDigitalTwin
