import LawFirmDigitalTwin.Corpus.Auditor

/-!
# The order of the rows in the corpus audit

The metrics and the findings about channels do not depend on the order of the rows. The other
findings come in the order of the rows, name the rows in their order, or look at versions of one
revision in the order they came in. What is left is the condition under which none of this shows:
at most one row and at most one logical artifact has something to be found of it, no commitment
occurs twice, and versions of one revision can change places.
-/

namespace LawFirmDigitalTwin

open Groups

namespace Audit

variable {A : FloatArithmetic} {policy : CorpusAuditPolicy} {rows rows' : List CorpusAuditArtifact}

/-! ## The channels -/

/-- The tallies of a channel do not depend on the order. -/
theorem channelTallies_perm (h : rows.Perm rows') : channelTallies rows = channelTallies rows' := by
  simp only [channelTallies, h.length_eq, sortedTally_perm (h.map _), largest_perm (h.map _)]

/-- The tallies of the rows do not depend on the order. -/
theorem talliesOf_perm (h : rows.Perm rows') : talliesOf rows = talliesOf rows' :=
  funext fun channel => channelTallies_perm (members_perm _ h channel)

/-- The channels do not depend on the order. -/
theorem channels_perm (h : rows.Perm rows') : channels rows = channels rows' :=
  insertionSort_perm (keys_perm _ h)

/-! ## The versions of a logical artifact -/

/-- The ordered versions are the versions. -/
theorem ordered_perm (versions : List CorpusAuditArtifact) : (ordered versions).Perm versions :=
  List.perm_insertionSort _ _

/-- The ordered versions are in the order of their revisions. -/
theorem ordered_sorted (versions : List CorpusAuditArtifact) :
    (ordered versions).Pairwise fun a b => a.revision ≤ b.revision := by
  have htrans : IsTrans CorpusAuditArtifact fun a b => a.revision ≤ b.revision :=
    ⟨fun _ _ _ => le_trans⟩
  have htotal : Std.Total fun a b : CorpusAuditArtifact => a.revision ≤ b.revision :=
    ⟨fun _ _ => le_total _ _⟩
  exact List.pairwise_insertionSort _ _

/-- The version `x` can come directly before the version `c` in the order of the revisions. -/
def Precedes (versions : List CorpusAuditArtifact) (x c : CorpusAuditArtifact) : Prop :=
  x ∈ versions ∧ x ≠ c ∧ x.revision ≤ c.revision ∧
    ∀ y ∈ versions, y.revision ≤ x.revision ∨ c.revision ≤ y.revision

/-- The version `c` fits the version `x` before it. -/
def Fits (x c : CorpusAuditArtifact) : Prop := misnames x c = false ∧ misbinds x c = false

/-- What is found of a version is the same wherever the revisions let it be placed: after every
version that can come before it, and nothing when it can also come first. -/
structure Placeable (versions : List CorpusAuditArtifact) : Prop where
  same : ∀ c ∈ versions, ∀ x y, Precedes versions x c → Precedes versions y c →
    misnames x c = misnames y c ∧ misbinds x c = misbinds y c
  first : ∀ c ∈ versions, (∀ y ∈ versions, c.revision ≤ y.revision) →
    ∀ x, Precedes versions x c → Fits x c

/-- Versions of one revision can change places: what is found of a version does not depend on its
place, and of several versions of one revision at most one fails any check. -/
structure Interchangeable (versions : List CorpusAuditArtifact) : Prop extends
    Placeable versions where
  single : ∀ c ∈ versions, ∀ d ∈ versions, c ≠ d → c.revision = d.revision →
    ∀ x y, Precedes versions x c → Precedes versions y d → Fits x c ∨ Fits y d

/-- Versions with distinct revisions have only one order. -/
theorem interchangeable_of_nodup {versions : List CorpusAuditArtifact}
    (h : (versions.map (·.revision)).Nodup) : Interchangeable versions where
  same := by
    intro c hc x y hx hy
    have hxy : x = y := by
      refine List.inj_on_of_nodup_map h hx.1 hy.1 (le_antisymm ?_ ?_)
      · exact (hy.2.2.2 x hx.1).resolve_right fun hle =>
          hx.2.1 (List.inj_on_of_nodup_map h hx.1 hc (le_antisymm hx.2.2.1 hle))
      · exact (hx.2.2.2 y hy.1).resolve_right fun hle =>
          hy.2.1 (List.inj_on_of_nodup_map h hy.1 hc (le_antisymm hy.2.2.1 hle))
    rw [hxy]
    exact ⟨rfl, rfl⟩
  first := fun c hc hfirst x hx =>
    absurd (List.inj_on_of_nodup_map h hx.1 hc (le_antisymm hx.2.2.1 (hfirst x hx.1))) hx.2.1
  single := fun c hc d hd hne hrevision =>
    absurd (List.inj_on_of_nodup_map h hc hd hrevision) hne

/-- Nothing is found of a version that fits the one before it. -/
theorem childFindings_eq_nil {x c : CorpusAuditArtifact} : childFindings x c = [] ↔ Fits x c := by
  unfold childFindings addIf Fits
  cases misnames x c <;> cases misbinds x c <;> simp

/-- What is found of a version in its place, wherever that is. -/
noncomputable def placed (versions : List CorpusAuditArtifact) (c : CorpusAuditArtifact) :
    List CorpusAuditFinding :=
  open Classical in
  if h : ∃ x, Precedes versions x c then childFindings h.choose c else []

section
variable {versions : List CorpusAuditArtifact} (h : Placeable versions)
include h

/-- What is found of a version after one that can come before it. -/
theorem placed_of_precedes {x c : CorpusAuditArtifact} (hc : c ∈ versions)
    (hx : Precedes versions x c) : placed versions c = childFindings x c := by
  have hex : ∃ x, Precedes versions x c := ⟨x, hx⟩
  obtain ⟨hnames, hbinds⟩ := h.same c hc _ _ hex.choose_spec hx
  rw [placed, dif_pos hex, childFindings, childFindings, hnames, hbinds]

/-- Nothing is found of a version that can come first. -/
theorem placed_of_first {c : CorpusAuditArtifact} (hc : c ∈ versions)
    (hfirst : ∀ y ∈ versions, c.revision ≤ y.revision) : placed versions c = [] := by
  unfold placed
  split
  · next hex => exact childFindings_eq_nil.2 (h.first c hc hfirst _ hex.choose_spec)
  · rfl

/-- In a sequence by revisions each version has what is found of it wherever it is placed. -/
theorem walkFindings_eq {sequence : List CorpusAuditArtifact} (hperm : sequence.Perm versions)
    (hnodup : sequence.Nodup) (hsorted : sequence.Pairwise fun a b => a.revision ≤ b.revision) :
    walkFindings sequence = sequence.flatMap (placed versions) := by
  have hrest : ∀ (rest before : List CorpusAuditArtifact) (p : CorpusAuditArtifact),
      sequence = before ++ p :: rest → walkFindings (p :: rest) = rest.flatMap (placed versions) := by
    intro rest
    induction rest with
    | nil => exact fun _ _ _ => rfl
    | cons c rest ih =>
      intro before p hsplit
      have hc : c ∈ versions := hperm.mem_iff.1 (by rw [hsplit]; simp)
      have hp : p ∈ versions := hperm.mem_iff.1 (by rw [hsplit]; simp)
      have hprecedes : Precedes versions p c := by
        rw [hsplit] at hsorted hnodup
        have hsplitSorted := List.pairwise_append.1 hsorted
        have hpc := List.pairwise_cons.1 hsplitSorted.2.1
        have hcs := List.pairwise_cons.1 hpc.2
        refine ⟨hp, ?_, hpc.1 c (.head _), fun y hy => ?_⟩
        · rintro rfl
          exact (List.nodup_cons.1 (List.nodup_append.1 hnodup).2.1).1 (.head _)
        · have hmem := hperm.mem_iff.2 hy
          rw [hsplit, List.mem_append, List.mem_cons, List.mem_cons] at hmem
          rcases hmem with hy | rfl | rfl | hy
          · exact .inl (hsplitSorted.2.2 y hy p (.head _))
          · exact .inl le_rfl
          · exact .inr le_rfl
          · exact .inr (hcs.1 y hy)
      rw [walkFindings, ih (before ++ [p]) c (by rw [hsplit]; simp), List.flatMap_cons,
        placed_of_precedes h hc hprecedes]
  cases hsequence : sequence with
  | nil => rfl
  | cons c rest =>
    have hfirst : placed versions c = [] := by
      refine placed_of_first h (hperm.mem_iff.1 (by rw [hsequence]; exact .head _)) fun y hy => ?_
      have hmem := hperm.mem_iff.2 hy
      rw [hsequence] at hmem hsorted
      rcases List.mem_cons.1 hmem with rfl | hy
      · exact le_rfl
      · exact (List.pairwise_cons.1 hsorted).1 y hy
    rw [hrest rest [] c hsequence, List.flatMap_cons, hfirst, List.nil_append]

/-- What is found of a version in its place is found after a version that can come before it. -/
theorem not_fits_of_placed {c : CorpusAuditArtifact} (hc : c ∈ versions)
    (hplaced : placed versions c ≠ []) : ∃ x, Precedes versions x c ∧ ¬ Fits x c := by
  by_cases hex : ∃ x, Precedes versions x c
  · obtain ⟨x, hx⟩ := hex
    exact ⟨x, hx, fun hfits =>
      hplaced ((placed_of_precedes h hc hx).trans (childFindings_eq_nil.2 hfits))⟩
  · rw [placed, dif_neg hex] at hplaced
    exact absurd rfl hplaced

end

section
variable {versions : List CorpusAuditArtifact} (h : Interchangeable versions)
include h

/-- The versions of which something is found have different revisions, so that the order of the
revisions leaves them no choice. -/
theorem flatMap_placed_eq {sequence sequence' : List CorpusAuditArtifact}
    (hperm : sequence.Perm versions) (hperm' : sequence'.Perm versions)
    (hsorted : sequence.Pairwise fun a b => a.revision ≤ b.revision)
    (hsorted' : sequence'.Pairwise fun a b => a.revision ≤ b.revision) :
    sequence.flatMap (placed versions) = sequence'.flatMap (placed versions) := by
  have hfound : ∀ c d, c ∈ versions → d ∈ versions → placed versions c ≠ [] →
      placed versions d ≠ [] → c.revision ≤ d.revision → d.revision ≤ c.revision → c = d := by
    intro c d hc hd hpc hpd hle hge
    by_contra hne
    obtain ⟨x, hx, hxc⟩ := not_fits_of_placed h.toPlaceable hc hpc
    obtain ⟨y, hy, hyd⟩ := not_fits_of_placed h.toPlaceable hd hpd
    exact (h.single c hc d hd hne (le_antisymm hle hge) x y hx hy).elim hxc hyd
  rw [flatMap_eq_filter, flatMap_eq_filter (placed versions) sequence']
  have hfilter : (sequence.filter fun c => !(placed versions c).isEmpty).Perm
      (sequence'.filter fun c => !(placed versions c).isEmpty) :=
    (hperm.trans hperm'.symm).filter _
  refine congrArg (List.flatMap (placed versions)) (List.Perm.eq_of_pairwise ?_
    (hsorted.filter _) (hsorted'.filter _) hfilter)
  intro c d hc hd hle hge
  obtain ⟨hcs, hpc⟩ := List.mem_filter.1 hc
  obtain ⟨hds, hpd⟩ := List.mem_filter.1 hd
  exact hfound c d (hperm.mem_iff.1 hcs) (hperm'.mem_iff.1 hds) (by simpa using hpc)
    (by simpa using hpd) hle hge

/-- The findings of a logical artifact do not depend on the order of its versions. -/
theorem lineageFindings_perm {versions' : List CorpusAuditArtifact} (key : String × String)
    (hperm : versions'.Perm versions) (hnodup : versions.Nodup) :
    lineageFindings key versions' = lineageFindings key versions := by
  have hordered := (ordered_perm versions').trans hperm
  have hrevisions : (ordered versions').map (·.revision) = (ordered versions).map (·.revision) :=
    ((hordered.trans (ordered_perm versions).symm).map _).eq_of_pairwise'
      (List.pairwise_map.2 (ordered_sorted versions')) (List.pairwise_map.2 (ordered_sorted versions))
  have hwalk : walkFindings (ordered versions') = walkFindings (ordered versions) := by
    have hnodup' := hordered.nodup_iff.2 hnodup
    rw [walkFindings_eq h.toPlaceable hordered hnodup' (ordered_sorted versions'),
      walkFindings_eq h.toPlaceable (ordered_perm versions) ((ordered_perm versions).nodup_iff.2 hnodup)
        (ordered_sorted versions)]
    exact flatMap_placed_eq h hordered (ordered_perm versions) (ordered_sorted versions')
      (ordered_sorted versions)
  simp only [lineageFindings, hrevisions, hwalk,
    (hordered.trans (ordered_perm versions).symm).length_eq]

end

/-! ## When the order does not show -/

/-- Something is found of a row by itself. -/
def RowFails (r : CorpusAuditArtifact) : Prop :=
  r.syntheticOnly = false ∨ r.renderedMediaType ≠ "text/plain"

/-- Something is found of the versions of a logical artifact: their revisions are not contiguous
from one, or a version does not fit one that can come before it. -/
def LineageFails (versions : List CorpusAuditArtifact) : Prop :=
  (ordered versions).map (·.revision) ≠
      (List.range (ordered versions).length).map (fun i => ((i : Nat) : Int) + 1) ∨
    ∃ c ∈ versions, ∃ x, Precedes versions x c ∧ ¬ Fits x c

/-- No commitment occurs twice, the identities are distinct or all the same, one row and one logical
artifact at most have something to be found of them, and versions of one revision can change
places. -/
structure OrderSettled (rows : List CorpusAuditArtifact) : Prop where
  commitments : (rows.map (·.artifactCommitment)).Nodup
  identities : (rows.map identityKey).Nodup ∨
    ∀ r ∈ rows, ∀ r' ∈ rows, identityKey r = identityKey r'
  oneRow : ∀ r ∈ rows, ∀ r' ∈ rows, RowFails r → RowFails r' → r = r'
  oneArtifact : ∀ k ∈ keys logicalKey rows, ∀ k' ∈ keys logicalKey rows,
    LineageFails (members logicalKey rows k) → LineageFails (members logicalKey rows k') → k = k'
  versions : ∀ k ∈ keys logicalKey rows, Interchangeable (members logicalKey rows k)

/-- The order of the rows does not show in the audit: the rows are all the same, or settled. -/
def OrderImmaterial (rows : List CorpusAuditArtifact) : Prop :=
  (∀ r ∈ rows, ∀ r' ∈ rows, r = r') ∨ OrderSettled rows

/-- A row that something is found of fails. -/
theorem rowFails_of_findings {r : CorpusAuditArtifact} (h : rowFindings r ≠ []) : RowFails r := by
  by_contra hfails
  refine h ?_
  have hsynthetic : r.syntheticOnly = true := by
    by_contra hs
    exact hfails (.inl (Bool.eq_false_iff.2 hs))
  have hmedia : r.renderedMediaType = "text/plain" := by
    by_contra hm
    exact hfails (.inr hm)
  simp [rowFindings, addIf, hsynthetic, hmedia]

/-- A logical artifact that something is found of fails. -/
theorem lineageFails_of_findings {key : String × String} {versions : List CorpusAuditArtifact}
    (hok : Interchangeable versions) (hnodup : versions.Nodup)
    (h : lineageFindings key versions ≠ []) : LineageFails versions := by
  by_contra hfails
  obtain ⟨hrevisions, hfits⟩ := not_or.1 hfails
  push Not at hfits
  have hwalk : walkFindings (ordered versions) = [] := by
    rw [walkFindings_eq hok.toPlaceable (ordered_perm versions)
      ((ordered_perm versions).nodup_iff.2 hnodup) (ordered_sorted versions),
      List.flatMap_eq_nil_iff]
    intro c hc
    by_contra hplaced
    have hc := (ordered_perm versions).mem_iff.1 hc
    obtain ⟨x, hx, hxc⟩ := not_fits_of_placed hok.toPlaceable hc hplaced
    exact hxc (hfits c hc x hx)
  refine h ?_
  rw [lineageFindings, hwalk, List.append_nil, addIf, if_neg]
  simpa using hrevisions

/-- Distinct values are as many as the list is long. -/
theorem length_distinct_of_nodup {κ : Type} [DecidableEq κ] {l : List κ} (h : l.Nodup) :
    (distinct l).length = l.length := by
  rw [length_distinct, List.toFinset_card_of_nodup h]

/-- The identities are distinct, or in the same order. -/
theorem map_identityKey_eq (h : OrderSettled rows) (hperm : rows'.Perm rows) :
    (rows.map identityKey).Nodup ∨ rows'.map identityKey = rows.map identityKey := by
  refine h.identities.imp_right fun hsame => ?_
  cases rows with
  | nil => rw [hperm.eq_nil]
  | cons r rest =>
    have hall : ∀ l : List CorpusAuditArtifact, (∀ q ∈ l, q ∈ r :: rest) →
        l.map identityKey = List.replicate l.length (identityKey r) := fun l hl =>
      List.eq_replicate_iff.2 ⟨List.length_map _, fun k hk => by
        obtain ⟨q, hq, rfl⟩ := List.mem_map.1 hk
        exact hsame q (hl q hq) r (.head _)⟩
    rw [hall _ fun q hq => hperm.mem_iff.1 hq, hall (r :: rest) fun _ hq => hq, hperm.length_eq]

/-- The findings on settled rows do not depend on the order. -/
theorem findings_perm (A : FloatArithmetic) (policy : CorpusAuditPolicy) (h : OrderSettled rows)
    (hperm : rows'.Perm rows) : findings A policy rows' = findings A policy rows := by
  have hnodup : rows.Nodup := h.commitments.of_map _
  have hcommitments : ∀ l : List CorpusAuditArtifact, l.Perm rows →
      (distinct (l.map (·.artifactCommitment))).length = l.length := fun l hl => by
    rw [length_distinct_of_nodup ((hl.map _).nodup_iff.2 h.commitments), List.length_map]
  have hduplicate : addIf (rows'.length ≠ (distinct (rows'.map (·.artifactCommitment))).length)
        "duplicate_audit_input" .error (.strs (rows'.map (·.artifactCommitment)))
        "the same audit artifact was supplied more than once" =
      addIf (rows.length ≠ (distinct (rows.map (·.artifactCommitment))).length)
        "duplicate_audit_input" .error (.strs (rows.map (·.artifactCommitment)))
        "the same audit artifact was supplied more than once" := by
    rw [hcommitments _ hperm, hcommitments _ .rfl]
    simp [addIf]
  have hidentity : addIf (rows'.length ≠ (distinct (rows'.map identityKey)).length)
        "duplicate_lineage_identity" .error (.list (rows'.map fun r => .strs (identityKey r)))
        "logical artifact version identity is duplicated" =
      addIf (rows.length ≠ (distinct (rows.map identityKey)).length)
        "duplicate_lineage_identity" .error (.list (rows.map fun r => .strs (identityKey r)))
        "logical artifact version identity is duplicated" := by
    rcases map_identityKey_eq h hperm with hkeys | hkeys
    · rw [length_distinct_of_nodup ((hperm.map _).nodup_iff.2 hkeys),
        length_distinct_of_nodup hkeys, List.length_map, List.length_map]
      simp [addIf]
    · have hsubjects : ∀ l : List CorpusAuditArtifact, (l.map fun r => Json.strs (identityKey r)) =
          (l.map identityKey).map Json.strs := fun l => by rw [List.map_map]; rfl
      rw [hsubjects, hsubjects, hkeys, hperm.length_eq]
  have hrows : rows'.flatMap rowFindings = rows.flatMap rowFindings :=
    (flatMap_perm_of_unique hperm.symm hnodup fun r hr r' hr' hf hf' =>
      h.oneRow r hr r' hr' (rowFails_of_findings hf) (rowFails_of_findings hf')).symm
  have hmembers : ∀ k ∈ keys logicalKey rows,
      lineageFindings k (members logicalKey rows' k) =
        lineageFindings k (members logicalKey rows k) := fun k hk =>
    lineageFindings_perm (h.versions k hk) k (members_perm _ hperm k) (hnodup.filter _)
  have hkeys := keys_perm logicalKey hperm
  have hlineage : (keys logicalKey rows').flatMap (fun k =>
        lineageFindings k (members logicalKey rows' k)) =
      (keys logicalKey rows).flatMap fun k => lineageFindings k (members logicalKey rows k) := by
    rw [List.flatMap_congr fun k hk => hmembers k (hkeys.mem_iff.1 hk)]
    refine (flatMap_perm_of_unique hkeys.symm (nodup_keys _ _) fun k hk k' hk' hf hf' => ?_).symm
    exact h.oneArtifact k hk k' hk'
      (lineageFails_of_findings (h.versions k hk) (hnodup.filter _) hf)
      (lineageFails_of_findings (h.versions k' hk') (hnodup.filter _) hf')
  rw [findings, findings, hduplicate, hidentity, hrows, hlineage, channels_perm hperm,
    talliesOf_perm hperm]

/-- The commitment to settled rows does not depend on the order. -/
theorem inputCommitment_perm (h : OrderSettled rows) (hperm : rows'.Perm rows) :
    inputCommitment rows' = inputCommitment rows := by
  have htrans : IsTrans CorpusAuditArtifact fun a b => a.artifactCommitment ≤ b.artifactCommitment :=
    ⟨fun _ _ _ => le_trans⟩
  have htotal : Std.Total fun a b : CorpusAuditArtifact =>
      a.artifactCommitment ≤ b.artifactCommitment := ⟨fun _ _ => le_total _ _⟩
  have hsorted : rows'.insertionSort (fun a b => a.artifactCommitment ≤ b.artifactCommitment) =
      rows.insertionSort fun a b => a.artifactCommitment ≤ b.artifactCommitment := by
    refine List.Perm.eq_of_pairwise ?_ (List.pairwise_insertionSort _ _)
      (List.pairwise_insertionSort _ _)
      ((List.perm_insertionSort _ _).trans (hperm.trans (List.perm_insertionSort _ _).symm))
    intro a b ha hb hle hge
    have ha' := hperm.mem_iff.1 ((List.perm_insertionSort _ _).mem_iff.1 ha)
    have hb' := (List.perm_insertionSort _ _).mem_iff.1 hb
    exact List.inj_on_of_nodup_map h.commitments ha' hb' (le_antisymm hle hge)
  rw [inputCommitment, inputCommitment, hsorted]

/-- Settled rows have the same report in every order. -/
theorem draft_perm (A : FloatArithmetic) (policy : CorpusAuditPolicy) (h : OrderSettled rows)
    (hperm : rows'.Perm rows) : draft A policy rows' = draft A policy rows := by
  simp only [draft, findings_perm A policy h hperm, inputCommitment_perm h hperm, hperm.length_eq,
    (distinct_perm (hperm.map (·.bodyHash))).length_eq,
    (distinct_perm (hperm.map (·.candidateHash))).length_eq, channels_perm hperm,
    talliesOf_perm hperm]

/-- The audit of rows whose order is immaterial is the same for every order of them. -/
theorem audit_perm (A : FloatArithmetic) (policy : CorpusAuditPolicy) (h : OrderImmaterial rows)
    (hperm : rows'.Perm rows) :
    auditPersonaChannelCorpus A policy rows' = auditPersonaChannelCorpus A policy rows := by
  rcases h with hsame | hsettled
  · cases rows with
    | nil => rw [hperm.eq_nil]
    | cons r rest =>
      have hall : r :: rest = List.replicate (rest.length + 1) r :=
        List.eq_replicate_iff.2 ⟨rfl, fun q hq => hsame q hq r (.head _)⟩
      rw [hall] at hperm ⊢
      rw [List.perm_replicate.1 hperm]
  · rw [auditPersonaChannelCorpus, auditPersonaChannelCorpus, draft_perm A policy hsettled hperm]

end Audit

end LawFirmDigitalTwin
