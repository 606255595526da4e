import Mathlib.Data.List.Permutation
import LawFirmDigitalTwin.Corpus.AuditOrder
import LawFirmDigitalTwin.Spelling

/-!
# Where the order of the rows shows in the corpus audit

The condition under which the audit does not depend on the order of the rows is not only enough. A
report holds the digests of what its findings are about, so where no two of these digests collide
(`Digested`), rows that have the same report in every order meet it (`orderImmaterial_of_same`).
-/

namespace LawFirmDigitalTwin

open Groups

/-- A list of texts is read off its form. -/
theorem Json.strs_injective : Function.Injective Json.strs := fun _ _ h =>
  List.map_injective_iff.2 (fun _ _ => Json.str.inj) (Json.list.inj h)

/-- A row is read off its form. -/
theorem CorpusAuditArtifact.toJson_injective : Function.Injective CorpusAuditArtifact.toJson := by
  have hoption : ∀ a b : Option String,
      (a.map Json.str).getD .null = (b.map Json.str).getD .null → a = b := by
    rintro (_ | a) (_ | b) h <;> cases h <;> rfl
  rintro ⟨⟩ ⟨⟩ h
  simp only [CorpusAuditArtifact.toJson, Json.dict.injEq, List.cons.injEq, Prod.mk.injEq,
    Json.str.injEq, Json.int.injEq, Json.bool.injEq, true_and, and_true] at h
  simp only [CorpusAuditArtifact.mk.injEq]
  exact h.imp_right (·.imp_right (·.imp_right (·.imp_right (·.imp_right (·.imp_right
    (·.imp_right (·.imp_right (·.imp (hoption _ _) (·.imp_left (hoption _ _))))))))))

namespace Audit

/-- What an audit of the rows, in any order of them, digests: the commitments and the identities in
their order, the sorted rows, each commitment and the key of each logical artifact. -/
inductive Digested (rows : List CorpusAuditArtifact) : Json → Prop
  | commitments {rows' : List CorpusAuditArtifact} : rows'.Perm rows →
      Digested rows (.strs (rows'.map (·.artifactCommitment)))
  | identities {rows' : List CorpusAuditArtifact} : rows'.Perm rows →
      Digested rows (.list (rows'.map fun r => .strs (identityKey r)))
  | input {rows' : List CorpusAuditArtifact} : rows'.Perm rows →
      Digested rows (.list ((rows'.insertionSort fun a b =>
        a.artifactCommitment ≤ b.artifactCommitment).map (·.toJson)))
  | commitment {r : CorpusAuditArtifact} : r ∈ rows → Digested rows (.str r.artifactCommitment)
  | artifact {r : CorpusAuditArtifact} : r ∈ rows →
      Digested rows (.strs [(logicalKey r).1, (logicalKey r).2])

/-- What no order of the rows changes is the same for all rows. -/
theorem eq_of_map_perm {α β : Type} [DecidableEq α] {rows : List α} {f : α → β}
    (h : ∀ rows' : List α, rows'.Perm rows → rows'.map f = rows.map f) {r r' : α} (hr : r ∈ rows)
    (hr' : r' ∈ rows) : f r = f r' := by
  have hfirst := h _ (List.perm_cons_erase hr).symm
  have hsecond := h _ (List.perm_cons_erase hr').symm
  rw [List.map_cons] at hfirst hsecond
  exact (List.cons.inj (hfirst.trans hsecond.symm)).1

section
variable {A : FloatArithmetic} {policy : CorpusAuditPolicy} {rows rows' : List CorpusAuditArtifact}

/-! ## The parts of the findings -/

/-- The findings about commitments that occur twice. -/
def commitmentFindings (rows : List CorpusAuditArtifact) : List CorpusAuditFinding :=
  addIf (rows.length ≠ (distinct (rows.map (·.artifactCommitment))).length) "duplicate_audit_input"
    .error (.strs (rows.map (·.artifactCommitment)))
    "the same audit artifact was supplied more than once"

/-- The findings about identities that occur twice. -/
def identityFindings (rows : List CorpusAuditArtifact) : List CorpusAuditFinding :=
  addIf (rows.length ≠ (distinct (rows.map identityKey)).length) "duplicate_lineage_identity" .error
    (.list (rows.map fun r => .strs (identityKey r)))
    "logical artifact version identity is duplicated"

/-- The findings about the logical artifacts. -/
def artifactFindings (rows : List CorpusAuditArtifact) : List CorpusAuditFinding :=
  (keys logicalKey rows).flatMap fun key => lineageFindings key (members logicalKey rows key)

/-- A finding commits to the subject it is added for. -/
theorem subject_of_mem_addIf {f : CorpusAuditFinding} {condition : Bool} {code : String}
    {severity : Severity} {subject : Json} {message : String}
    (h : f ∈ addIf condition code severity subject message) :
    f.subjectCommitment = digest subject := by
  cases condition with
  | false => cases h
  | true => rw [List.mem_singleton.1 h]

/-- A finding is added where the condition holds. -/
theorem length_addIf (condition : Bool) (code : String) (severity : Severity) (subject : Json)
    (message : String) :
    (addIf condition code severity subject message).length = if condition then 1 else 0 := by
  cases condition <;> rfl

/-- The same findings are the same part by part: no order of the rows changes how many findings
there are about them, and the findings about the channels. -/
theorem parts_eq (hperm : rows'.Perm rows) (h : findings A policy rows' = findings A policy rows) :
    commitmentFindings rows' = commitmentFindings rows ∧
      identityFindings rows' = identityFindings rows ∧
      rows'.flatMap rowFindings = rows.flatMap rowFindings ∧
      artifactFindings rows' = artifactFindings rows := by
  have hcommitment : (commitmentFindings rows').length = (commitmentFindings rows).length := by
    simp only [commitmentFindings, length_addIf, hperm.length_eq,
      (distinct_perm (hperm.map (·.artifactCommitment))).length_eq]
  have hidentity : (identityFindings rows').length = (identityFindings rows).length := by
    simp only [identityFindings, length_addIf, hperm.length_eq,
      (distinct_perm (hperm.map identityKey)).length_eq]
  have hrow : (rows'.flatMap rowFindings).length = (rows.flatMap rowFindings).length :=
    (hperm.flatMap_right _).length_eq
  have hchannel : ((channels rows').flatMap fun channel =>
        channelFindings A policy channel (talliesOf rows' channel)) =
      (channels rows).flatMap fun channel =>
        channelFindings A policy channel (talliesOf rows channel) := by
    rw [channels_perm hperm, talliesOf_perm hperm]
  unfold findings at h
  rw [List.append_assoc, List.append_assoc, List.append_assoc, List.append_assoc, List.append_assoc,
    List.append_assoc] at h
  obtain ⟨h₁, h⟩ := List.append_inj h hcommitment
  obtain ⟨h₂, h⟩ := List.append_inj h hidentity
  obtain ⟨h₃, h⟩ := List.append_inj h hrow
  rw [hchannel] at h
  exact ⟨h₁, h₂, h₃, List.append_cancel_left h⟩

/-! ## Commitments, identities and rows -/

/-- A finding about a row by itself is about its commitment. -/
theorem rowFindings_eq_cons {r : CorpusAuditArtifact} (h : RowFails r) :
    ∃ f rest, rowFindings r = f :: rest ∧ f.subjectCommitment = digest (.str r.artifactCommitment) := by
  unfold rowFindings
  by_cases hsynthetic : r.syntheticOnly = false
  · rw [hsynthetic]
    exact ⟨_, _, rfl, rfl⟩
  · have hmedia := h.resolve_left hsynthetic
    rw [Bool.not_eq_false] at hsynthetic
    rw [hsynthetic]
    simp only [addIf, hmedia, ne_eq, not_false_eq_true, decide_true, Bool.not_true,
      Bool.false_eq_true, if_false, if_true, List.nil_append]
    exact ⟨_, _, rfl, rfl⟩

/-- A list that has a repeated element has it in every order. -/
theorem length_ne_of_not_nodup {κ : Type} [DecidableEq κ] {l l' : List κ} (hperm : l'.Perm l)
    (h : ¬ l.Nodup) : l'.length ≠ (distinct l').length := by
  rw [length_distinct]
  intro hlength
  exact h (hperm.nodup_iff.1 (Multiset.coe_nodup.1
    (Multiset.toFinset_card_eq_card_iff_nodup.1 hlength.symm)))

/-! ## The versions of a logical artifact -/

/-- The findings of a version show which of the two checks it fails. -/
theorem childFindings_inj {x y c : CorpusAuditArtifact} (h : childFindings x c = childFindings y c) :
    misnames x c = misnames y c ∧ misbinds x c = misbinds y c := by
  unfold childFindings addIf at h
  cases hx : misnames x c <;> cases hx' : misbinds x c <;> cases hy : misnames y c <;>
    cases hy' : misbinds y c <;> simp_all

/-- The findings of the walk, when one version comes directly before another. -/
theorem walkFindings_split (before : List CorpusAuditArtifact) (x c : CorpusAuditArtifact)
    (after : List CorpusAuditArtifact) :
    walkFindings (before ++ x :: c :: after) =
      walkFindings (before ++ [x]) ++ childFindings x c ++ walkFindings (c :: after) := by
  induction before with
  | nil => rfl
  | cons b before ih =>
    cases before with
    | nil => simp only [List.cons_append, List.nil_append, walkFindings, List.append_nil,
        List.append_assoc]
    | cons b' before =>
      simp only [List.cons_append, walkFindings] at ih ⊢
      rw [ih, List.append_assoc, List.append_assoc, List.append_assoc]

/-- The findings of a version commit to the version. -/
theorem subject_of_mem_childFindings {f : CorpusAuditFinding} {x c : CorpusAuditArtifact}
    (h : f ∈ childFindings x c) : f.subjectCommitment = digest (.str c.artifactCommitment) := by
  rcases List.mem_append.1 h with h | h
  · exact subject_of_mem_addIf h
  · exact subject_of_mem_addIf h

/-- A finding of the walk is about a version that is not the first. -/
theorem subject_of_mem_walkFindings {f : CorpusAuditFinding} {versions : List CorpusAuditArtifact}
    (h : f ∈ walkFindings versions) :
    ∃ c ∈ versions.tail, f.subjectCommitment = digest (.str c.artifactCommitment) := by
  induction versions with
  | nil => cases h
  | cons p versions ih =>
    cases versions with
    | nil => cases h
    | cons c rest =>
      rcases List.mem_append.1 h with h | h
      · exact ⟨c, .head _, subject_of_mem_childFindings h⟩
      · obtain ⟨d, hd, hsubject⟩ := ih h
        exact ⟨d, .tail _ hd, hsubject⟩

/-- A version that can come before another is directly before it in some order by revisions. -/
theorem exists_between {versions : List CorpusAuditArtifact} {x c : CorpusAuditArtifact}
    (hc : c ∈ versions) (h : Precedes versions x c) :
    ∃ before after, (before ++ x :: c :: after).Perm versions ∧
      (before ++ x :: c :: after).Pairwise fun a b => a.revision ≤ b.revision := by
  obtain ⟨hx, hne, hle, hgap⟩ := h
  let rest := (versions.erase x).erase c
  have hrest : (x :: c :: rest).Perm versions :=
    ((List.perm_cons_erase ((List.mem_erase_of_ne hne.symm).2 hc)).symm.cons x).trans
      (List.perm_cons_erase hx).symm
  have hmem : ∀ y ∈ rest, y ∈ versions := fun y hy =>
    List.mem_of_mem_erase (List.mem_of_mem_erase hy)
  have hbelow : ∀ y ∈ ordered (rest.filter (·.revision ≤ x.revision)), y.revision ≤ x.revision :=
    fun y hy => of_decide_eq_true (List.mem_filter.1 ((ordered_perm _).mem_iff.1 hy)).2
  have habove : ∀ y ∈ ordered (rest.filter fun y => !decide (y.revision ≤ x.revision)),
      c.revision ≤ y.revision := by
    intro y hy
    obtain ⟨hy, hless⟩ := List.mem_filter.1 ((ordered_perm _).mem_iff.1 hy)
    exact (hgap y (hmem y hy)).resolve_left (by simpa using hless)
  refine ⟨ordered (rest.filter (·.revision ≤ x.revision)),
    ordered (rest.filter fun y => !decide (y.revision ≤ x.revision)), ?_, ?_⟩
  · refine List.perm_middle.trans (List.Perm.trans (.cons x (List.perm_middle.trans (.cons c ?_))) hrest)
    exact ((ordered_perm _).append (ordered_perm _)).trans (List.filter_append_perm _ _)
  · refine List.pairwise_append.2 ⟨ordered_sorted _, List.pairwise_cons.2 ⟨?_,
      List.pairwise_cons.2 ⟨habove, ordered_sorted _⟩⟩, ?_⟩
    · exact List.forall_mem_cons.2 ⟨hle, fun y hy => hle.trans (habove y hy)⟩
    · intro y hy z hz
      refine (hbelow y hy).trans ?_
      rcases List.mem_cons.1 hz with rfl | hz
      · exact le_rfl
      rcases List.mem_cons.1 hz with rfl | hz
      · exact hle
      · exact hle.trans (habove z hz)

/-- Every order of the versions by their revisions has the same walk, and commitments tell the
versions apart. -/
structure SameWalk (versions : List CorpusAuditArtifact) : Prop where
  nodup : versions.Nodup
  apart : ∀ c ∈ versions, ∀ d ∈ versions,
    digest (.str c.artifactCommitment) = digest (.str d.artifactCommitment) → c = d
  walk : ∀ sequence sequence' : List CorpusAuditArtifact, sequence.Perm versions →
    sequence'.Perm versions → sequence.Pairwise (fun a b => a.revision ≤ b.revision) →
    sequence'.Pairwise (fun a b => a.revision ≤ b.revision) →
      walkFindings sequence = walkFindings sequence'

section
variable {versions : List CorpusAuditArtifact} (h : SameWalk versions)
include h

/-- Nothing in a walk is about a version that is not among those after the first. -/
theorem SameWalk.filter_eq_nil {c : CorpusAuditArtifact} (hc : c ∈ versions)
    {sequence : List CorpusAuditArtifact} (hsub : ∀ d ∈ sequence, d ∈ versions)
    (hnot : c ∉ sequence.tail) :
    (walkFindings sequence).filter (·.subjectCommitment = digest (.str c.artifactCommitment)) =
      [] := by
  refine List.filter_eq_nil_iff.2 fun f hf heq => hnot ?_
  obtain ⟨d, hd, hsubject⟩ := subject_of_mem_walkFindings hf
  have hcd := h.apart d (hsub d (List.mem_of_mem_tail hd)) c hc
    (hsubject.symm.trans (of_decide_eq_true heq))
  exact hcd ▸ hd

/-- What a walk finds of a version after another one. -/
theorem SameWalk.filter_between {before after : List CorpusAuditArtifact} {x c : CorpusAuditArtifact}
    (hperm : (before ++ x :: c :: after).Perm versions) :
    (walkFindings (before ++ x :: c :: after)).filter
        (·.subjectCommitment = digest (.str c.artifactCommitment)) = childFindings x c := by
  have hmem : ∀ d ∈ before ++ x :: c :: after, d ∈ versions := fun d hd => hperm.mem_iff.1 hd
  have hc : c ∈ versions := hmem c (by simp)
  have hnodup := hperm.nodup_iff.2 h.nodup
  have hown : (childFindings x c).filter
      (·.subjectCommitment = digest (.str c.artifactCommitment)) = childFindings x c :=
    List.filter_eq_self.2 fun f hf => decide_eq_true (subject_of_mem_childFindings hf)
  have hsplit : before ++ x :: c :: after = before ++ [x] ++ c :: after := by simp
  rw [hsplit] at hmem hnodup
  obtain ⟨-, hlast, hapart⟩ := List.nodup_append.1 hnodup
  have hbefore : (walkFindings (before ++ [x])).filter
      (·.subjectCommitment = digest (.str c.artifactCommitment)) = [] :=
    h.filter_eq_nil hc (fun d hd => hmem d (List.mem_append_left _ hd))
      fun hin => hapart c (List.mem_of_mem_tail hin) c (.head _) rfl
  have hafter : (walkFindings (c :: after)).filter
      (·.subjectCommitment = digest (.str c.artifactCommitment)) = [] :=
    h.filter_eq_nil hc (fun d hd => hmem d (List.mem_append_right _ hd)) (List.nodup_cons.1 hlast).1
  rw [walkFindings_split, List.filter_append, List.filter_append, hown, hbefore, hafter,
    List.nil_append, List.append_nil]

/-- **What is found of a version does not depend on its place.** -/
theorem SameWalk.placeable : Placeable versions where
  same := by
    intro c hc x y hx hy
    obtain ⟨before, after, hperm, hsorted⟩ := exists_between hc hx
    obtain ⟨before', after', hperm', hsorted'⟩ := exists_between hc hy
    refine childFindings_inj ?_
    rw [← h.filter_between hperm, ← h.filter_between hperm', h.walk _ _ hperm hperm' hsorted hsorted']
  first := by
    intro c hc hfirst x hx
    obtain ⟨before, after, hperm, hsorted⟩ := exists_between hc hx
    have hperm' : (c :: ordered (versions.erase c)).Perm versions :=
      ((ordered_perm _).cons c).trans (List.perm_cons_erase hc).symm
    have hsorted' : (c :: ordered (versions.erase c)).Pairwise fun a b => a.revision ≤ b.revision :=
      List.pairwise_cons.2 ⟨fun y hy =>
        hfirst y (List.mem_of_mem_erase ((ordered_perm _).mem_iff.1 hy)), ordered_sorted _⟩
    have hnot : c ∉ ordered (versions.erase c) :=
      (List.nodup_cons.1 (hperm'.nodup_iff.2 h.nodup)).1
    rw [← childFindings_eq_nil, ← h.filter_between hperm, h.walk _ _ hperm hperm' hsorted hsorted']
    exact h.filter_eq_nil hc (fun d hd => hperm'.mem_iff.1 hd) hnot

/-- **Of versions of one revision at most one fails a check**: two would change places in the
walk. -/
theorem SameWalk.interchangeable : Interchangeable versions where
  toPlaceable := h.placeable
  single := by
    intro c hc d hd hne hrevision x y hx hy
    by_contra hfits
    obtain ⟨hxc, hyd⟩ := not_or.1 hfits
    have hplacedC := placed_of_precedes h.placeable hc hx
    have hplacedD := placed_of_precedes h.placeable hd hy
    have hcd : Precedes versions c d :=
      ⟨hc, hne, le_of_eq hrevision, fun y _ => (le_total y.revision c.revision).imp_right
        fun hle => hrevision ▸ hle⟩
    obtain ⟨before, after, hperm, hsorted⟩ := exists_between hd hcd
    have hperm' : (before ++ d :: c :: after).Perm versions :=
      ((List.Perm.swap c d after).append_left before).trans hperm
    have hsorted' : (before ++ d :: c :: after).Pairwise fun a b => a.revision ≤ b.revision := by
      have hmap : (before ++ d :: c :: after).map (·.revision) =
          (before ++ c :: d :: after).map (·.revision) := by
        simp only [List.map_append, List.map_cons, hrevision]
      exact List.pairwise_map.1 (hmap ▸ List.pairwise_map.2 hsorted)
    have hwalk := h.walk _ _ hperm hperm' hsorted hsorted'
    rw [walkFindings_eq h.placeable hperm (hperm.nodup_iff.2 h.nodup) hsorted,
      walkFindings_eq h.placeable hperm' (hperm'.nodup_iff.2 h.nodup) hsorted', List.flatMap_append,
      List.flatMap_append, List.flatMap_cons, List.flatMap_cons, List.flatMap_cons,
      List.flatMap_cons, hplacedC, hplacedD] at hwalk
    have hheads := List.append_cancel_left hwalk
    cases hfoundC : childFindings x c with
    | nil => exact hxc (childFindings_eq_nil.1 hfoundC)
    | cons f restC =>
      cases hfoundD : childFindings y d with
      | nil => exact hyd (childFindings_eq_nil.1 hfoundD)
      | cons g restD =>
        rw [hfoundC, hfoundD, List.cons_append, List.cons_append] at hheads
        have hfg := (List.cons.inj hheads).1
        have hsubjectC : f.subjectCommitment = digest (.str c.artifactCommitment) :=
          subject_of_mem_childFindings (x := x) (by rw [hfoundC]; exact .head _)
        have hsubjectD : g.subjectCommitment = digest (.str d.artifactCommitment) :=
          subject_of_mem_childFindings (x := y) (by rw [hfoundD]; exact .head _)
        exact hne (h.apart c hc d hd (hsubjectC.symm.trans (hfg ▸ hsubjectD)))

end

/-- Versions that fail have an order in which something is found of them. -/
theorem exists_lineageFindings (key : String × String) {versions : List CorpusAuditArtifact}
    (h : LineageFails versions) :
    ∃ sequence : List CorpusAuditArtifact, sequence.Perm versions ∧
      ∃ f, f ∈ lineageFindings key sequence := by
  rcases h with hgap | ⟨c, hc, x, hx, hfits⟩
  · obtain ⟨f, hf⟩ : ∃ f, f ∈ addIf ((ordered versions).map (·.revision) ≠
          (List.range (ordered versions).length).map fun i => ((i : Nat) : Int) + 1)
        "lineage_revision_gap" .error (.strs [key.1, key.2])
        "artifact revision sequence is not contiguous from one" := by
      rw [addIf, if_pos (decide_eq_true hgap)]
      exact ⟨_, .head _⟩
    exact ⟨versions, .rfl, f, List.mem_append_left _ hf⟩
  · obtain ⟨before, after, hperm, hsorted⟩ := exists_between hc hx
    obtain ⟨f, hf⟩ := List.exists_mem_of_ne_nil _ fun hnil => hfits (childFindings_eq_nil.1 hnil)
    refine ⟨_, hperm, f, List.mem_append_right _ ?_⟩
    rw [ordered, hsorted.insertionSort_eq, walkFindings_split]
    exact List.mem_append_left _ (List.mem_append_right _ hf)

/-- A finding about a logical artifact is about its key or about one of its versions. -/
theorem subject_of_mem_lineageFindings {f : CorpusAuditFinding} {key : String × String}
    {versions : List CorpusAuditArtifact} (h : f ∈ lineageFindings key versions) :
    f.subjectCommitment = digest (.strs [key.1, key.2]) ∨
      ∃ c ∈ versions, f.subjectCommitment = digest (.str c.artifactCommitment) := by
  rcases List.mem_append.1 h with h | h
  · exact .inl (subject_of_mem_addIf h)
  · obtain ⟨c, hc, hsubject⟩ := subject_of_mem_walkFindings h
    exact .inr ⟨c, (ordered_perm versions).mem_iff.1 (List.mem_of_mem_tail hc), hsubject⟩

/-- Two orders of the versions by their revisions with the same findings have the same walk. -/
theorem walk_of_lineageFindings {key : String × String}
    {sequence sequence' : List CorpusAuditArtifact} (hperm : sequence.Perm sequence')
    (hsorted : sequence.Pairwise fun a b => a.revision ≤ b.revision)
    (hsorted' : sequence'.Pairwise fun a b => a.revision ≤ b.revision)
    (h : lineageFindings key sequence = lineageFindings key sequence') :
    walkFindings sequence = walkFindings sequence' := by
  have hrevisions : sequence.map (·.revision) = sequence'.map (·.revision) :=
    (hperm.map _).eq_of_pairwise' (List.pairwise_map.2 hsorted) (List.pairwise_map.2 hsorted')
  unfold lineageFindings ordered at h
  rw [hsorted.insertionSort_eq, hsorted'.insertionSort_eq, hrevisions, hperm.length_eq] at h
  exact List.append_cancel_left h

/-- The findings about a logical artifact come first, where its versions do. -/
theorem artifactFindings_append {key : String × String} {group others : List CorpusAuditArtifact}
    (hne : group ≠ []) (hgroup : ∀ r ∈ group, logicalKey r = key)
    (hothers : ∀ r ∈ others, logicalKey r ≠ key) :
    artifactFindings (group ++ others) = lineageFindings key group ++ artifactFindings others := by
  rw [artifactFindings, keys_append_of_ne hne hgroup hothers, List.flatMap_cons,
    members_append_self hgroup hothers]
  refine congrArg (lineageFindings key group ++ ·) (List.flatMap_congr fun k hk => ?_)
  obtain ⟨r, hr, rfl⟩ := mem_keys.1 hk
  rw [members_append_of_ne hgroup (hothers r hr)]

/-! ## The same report in every order -/

section
variable (hinj : Set.InjOn digest {v | Digested rows v})
  (hsame : ∀ rows', rows'.Perm rows → findings A policy rows' = findings A policy rows)
include hsame

/-- The findings about a logical artifact come first in some order of the rows, with its versions in
any order. -/
theorem artifactFindings_of_same {key : String × String} (hkey : key ∈ keys logicalKey rows)
    {sequence : List CorpusAuditArtifact} (hperm : sequence.Perm (members logicalKey rows key)) :
    artifactFindings rows = lineageFindings key sequence ++
      artifactFindings (rows.filter fun r => !decide (logicalKey r = key)) := by
  have hne : sequence ≠ [] := by
    rintro rfl
    exact members_ne_nil hkey hperm.nil_eq.symm
  have hgroup : ∀ r ∈ sequence, logicalKey r = key := fun r hr =>
    (mem_members.1 (hperm.mem_iff.1 hr)).2
  have hothers : ∀ r ∈ rows.filter (fun r => !decide (logicalKey r = key)), logicalKey r ≠ key := by
    intro r hr
    simpa using (List.mem_filter.1 hr).2
  have hrows : (sequence ++ rows.filter fun r => !decide (logicalKey r = key)).Perm rows :=
    (hperm.append_right _).trans (List.filter_append_perm _ _)
  rw [← artifactFindings_append hne hgroup hothers, (parts_eq hrows (hsame _ hrows)).2.2.2]

/-- The first finding about the logical artifacts is about any of them that fails. -/
theorem head_artifactFindings {key : String × String} (hkey : key ∈ keys logicalKey rows)
    (hfails : LineageFails (members logicalKey rows key)) :
    ∃ f, (artifactFindings rows).head? = some f ∧
      (f.subjectCommitment = digest (.strs [key.1, key.2]) ∨
        ∃ c ∈ members logicalKey rows key,
          f.subjectCommitment = digest (.str c.artifactCommitment)) := by
  obtain ⟨sequence, hperm, f, hf⟩ := exists_lineageFindings key hfails
  cases hfindings : lineageFindings key sequence with
  | nil =>
    rw [hfindings] at hf
    cases hf
  | cons g rest =>
    refine ⟨g, ?_, ?_⟩
    · rw [artifactFindings_of_same hsame hkey hperm, hfindings]
      rfl
    · have hg : g ∈ lineageFindings key sequence := hfindings ▸ .head _
      exact (subject_of_mem_lineageFindings hg).imp_right fun ⟨c, hc, hsubject⟩ =>
        ⟨c, hperm.mem_iff.1 hc, hsubject⟩

include hinj

/-- Where a commitment occurs twice, all rows have it. -/
theorem commitment_eq_of_same (hdup : ¬ (rows.map (·.artifactCommitment)).Nodup)
    {r r' : CorpusAuditArtifact} (hr : r ∈ rows) (hr' : r' ∈ rows) :
    r.artifactCommitment = r'.artifactCommitment := by
  refine eq_of_map_perm (f := (·.artifactCommitment)) (fun rows' hperm => ?_) hr hr'
  have hfindings := (parts_eq hperm (hsame _ hperm)).1
  have hlength : ∀ l : List CorpusAuditArtifact, l.Perm rows →
      l.length ≠ (distinct (l.map (·.artifactCommitment))).length := fun l hl => by
    have h := length_ne_of_not_nodup (hl.map (·.artifactCommitment)) hdup
    rwa [List.length_map] at h
  rw [commitmentFindings, commitmentFindings, addIf, addIf, if_pos (decide_eq_true (hlength _ hperm)),
    if_pos (decide_eq_true (hlength _ .rfl)), List.singleton_inj, CorpusAuditFinding.mk.injEq]
    at hfindings
  exact Json.strs_injective (hinj (.commitments hperm) (.commitments .rfl) hfindings.2.2.1)

/-- Where an identity occurs twice, all rows have it. -/
theorem identity_eq_of_same (hdup : ¬ (rows.map identityKey).Nodup) {r r' : CorpusAuditArtifact}
    (hr : r ∈ rows) (hr' : r' ∈ rows) : identityKey r = identityKey r' := by
  refine Json.strs_injective
    (eq_of_map_perm (f := fun r => Json.strs (identityKey r)) (fun rows' hperm => ?_) hr hr')
  have hfindings := (parts_eq hperm (hsame _ hperm)).2.1
  have hlength : ∀ l : List CorpusAuditArtifact, l.Perm rows →
      l.length ≠ (distinct (l.map identityKey)).length := fun l hl => by
    have h := length_ne_of_not_nodup (hl.map identityKey) hdup
    rwa [List.length_map] at h
  rw [identityFindings, identityFindings, addIf, addIf, if_pos (decide_eq_true (hlength _ hperm)),
    if_pos (decide_eq_true (hlength _ .rfl)), List.singleton_inj, CorpusAuditFinding.mk.injEq]
    at hfindings
  exact Json.list.inj (hinj (.identities hperm) (.identities .rfl) hfindings.2.2.1)

section
variable (hnodup : (rows.map (·.artifactCommitment)).Nodup)
include hnodup

/-- At most one row fails by itself. -/
theorem oneRow_of_same {r r' : CorpusAuditArtifact} (hr : r ∈ rows) (hr' : r' ∈ rows)
    (hfails : RowFails r) (hfails' : RowFails r') : r = r' := by
  obtain ⟨f, rest, hf, hsubject⟩ := rowFindings_eq_cons hfails
  obtain ⟨f', rest', hf', hsubject'⟩ := rowFindings_eq_cons hfails'
  have hfirst := (List.perm_cons_erase hr).symm
  have hsecond := (List.perm_cons_erase hr').symm
  have heq := (parts_eq hfirst (hsame _ hfirst)).2.2.1.trans
    (parts_eq hsecond (hsame _ hsecond)).2.2.1.symm
  rw [List.flatMap_cons, List.flatMap_cons, hf, hf', List.cons_append, List.cons_append] at heq
  have hff' := (List.cons.inj heq).1
  have hdigest := hsubject.symm.trans (hff' ▸ hsubject')
  exact List.inj_on_of_nodup_map hnodup hr hr'
    (Json.str.inj (hinj (.commitment hr) (.commitment hr') hdigest))

/-- At most one logical artifact fails. -/
theorem oneArtifact_of_same {key key' : String × String} (hkey : key ∈ keys logicalKey rows)
    (hkey' : key' ∈ keys logicalKey rows) (hfails : LineageFails (members logicalKey rows key))
    (hfails' : LineageFails (members logicalKey rows key')) : key = key' := by
  obtain ⟨f, hf, hsubject⟩ := head_artifactFindings hsame hkey hfails
  obtain ⟨f', hf', hsubject'⟩ := head_artifactFindings hsame hkey' hfails'
  obtain rfl : f = f' := Option.some.inj (hf.symm.trans hf')
  obtain ⟨r, hr, rfl⟩ := mem_keys.1 hkey
  obtain ⟨r', hr', rfl⟩ := mem_keys.1 hkey'
  rcases hsubject with hsubject | ⟨c, hc, hsubject⟩ <;>
    rcases hsubject' with hsubject' | ⟨c', hc', hsubject'⟩
  · have hkeys := Json.strs_injective
      (hinj (.artifact hr) (.artifact hr') (hsubject.symm.trans hsubject'))
    rw [List.cons.injEq, List.cons.injEq] at hkeys
    exact Prod.ext hkeys.1 hkeys.2.1
  · have hc' := (mem_members.1 hc').1
    exact nomatch hinj (.artifact hr) (.commitment hc') (hsubject.symm.trans hsubject')
  · have hc := (mem_members.1 hc).1
    exact nomatch hinj (.commitment hc) (.artifact hr') (hsubject.symm.trans hsubject')
  · obtain ⟨hc, hckey⟩ := mem_members.1 hc
    obtain ⟨hc', hckey'⟩ := mem_members.1 hc'
    have hcc' := List.inj_on_of_nodup_map hnodup hc hc'
      (Json.str.inj (hinj (.commitment hc) (.commitment hc') (hsubject.symm.trans hsubject')))
    rw [← hckey, ← hckey', hcc']

/-- Every order of the versions of a logical artifact has the same walk. -/
theorem sameWalk_of_same {key : String × String} (hkey : key ∈ keys logicalKey rows) :
    SameWalk (members logicalKey rows key) where
  nodup := (hnodup.of_map _).filter _
  apart := by
    intro c hc d hd hdigest
    have hc := (mem_members.1 hc).1
    have hd := (mem_members.1 hd).1
    exact List.inj_on_of_nodup_map hnodup hc hd
      (Json.str.inj (hinj (.commitment hc) (.commitment hd) hdigest))
  walk := by
    intro sequence sequence' hperm hperm' hsorted hsorted'
    have hfindings : lineageFindings key sequence = lineageFindings key sequence' :=
      List.append_cancel_right ((artifactFindings_of_same hsame hkey hperm).symm.trans
        (artifactFindings_of_same hsame hkey hperm'))
    exact walk_of_lineageFindings (hperm.trans hperm'.symm) hsorted hsorted' hfindings

end

end

/-- **Rows whose report is the same in every order**, where no digests collide, are rows whose order
is immaterial. -/
theorem orderImmaterial_of_same (hinj : Set.InjOn digest {v | Digested rows v})
    (hsame : ∀ rows', rows'.Perm rows →
      auditPersonaChannelCorpus A policy rows' = auditPersonaChannelCorpus A policy rows) :
    OrderImmaterial rows := by
  have hfindings : ∀ rows', rows'.Perm rows → findings A policy rows' = findings A policy rows :=
    fun rows' hperm => congrArg CorpusAuditReport.findings (hsame rows' hperm)
  have hinput : ∀ rows', rows'.Perm rows → inputCommitment rows' = inputCommitment rows :=
    fun rows' hperm => congrArg CorpusAuditReport.inputCommitment (hsame rows' hperm)
  by_cases hnodup : (rows.map (·.artifactCommitment)).Nodup
  · refine .inr ⟨hnodup, ?_, fun r hr r' hr' => oneRow_of_same hinj hfindings hnodup hr hr',
      fun key hkey key' hkey' => oneArtifact_of_same hinj hfindings hnodup hkey hkey',
      fun key hkey => (sameWalk_of_same hinj hfindings hnodup hkey).interchangeable⟩
    by_cases hidentities : (rows.map identityKey).Nodup
    · exact .inl hidentities
    · exact .inr fun r hr r' hr' => identity_eq_of_same hinj hfindings hidentities hr hr'
  · -- rows of one commitment are digested in the order they come in
    refine .inl fun r hr r' hr' => eq_of_map_perm (f := id) (fun rows' hperm => ?_) hr hr'
    have hsorted : ∀ l : List CorpusAuditArtifact, l.Perm rows →
        l.insertionSort (fun a b => a.artifactCommitment ≤ b.artifactCommitment) = l := fun l hl =>
      List.Pairwise.insertionSort_eq (List.pairwise_of_forall_mem_list fun a ha b hb => le_of_eq
        (commitment_eq_of_same hinj hfindings hnodup (hl.mem_iff.1 ha) (hl.mem_iff.1 hb)))
    have hjson := hinj (.input hperm) (.input .rfl) (hinput rows' hperm)
    rw [hsorted _ hperm, hsorted _ .rfl] at hjson
    rw [List.map_id, List.map_id]
    exact List.map_injective_iff.2 CorpusAuditArtifact.toJson_injective (Json.list.inj hjson)

end

/-- **The audit is the same for every order of the rows** whose order is immaterial, and, where no
digests collide, for no others. -/
theorem audit_order_immaterial (A : FloatArithmetic) (policy : CorpusAuditPolicy)
    (rows : List CorpusAuditArtifact) :
    (OrderImmaterial rows → ∀ rows', rows'.Perm rows →
        auditPersonaChannelCorpus A policy rows' = auditPersonaChannelCorpus A policy rows) ∧
      (Set.InjOn digest {v | Digested rows v} →
        (∀ rows', rows'.Perm rows →
          auditPersonaChannelCorpus A policy rows' = auditPersonaChannelCorpus A policy rows) →
        OrderImmaterial rows) :=
  ⟨fun h _ hperm => audit_perm A policy h hperm, fun hinj hsame => orderImmaterial_of_same hinj hsame⟩

/-- A first version of a logical artifact of its own. -/
def rowOf (name : String) (synthetic : Bool) (mediaType : String) : CorpusAuditArtifact where
  artifactCommitment := name
  matterCommitment := "matter"
  projectionHash := "projection"
  bundleHash := "bundle"
  logicalArtifactCommitment := name
  versionId := name
  claimedContentHash := "content"
  revision := 1
  parentVersionId := none
  parentContentHash := none
  channelKind := "email"
  familyId := "family"
  authorCommitment := "author"
  roleId := "role"
  voiceSignature := "voice"
  variantId := "variant"
  planHash := "plan"
  candidateHash := "candidate"
  bodyHash := name
  structureFingerprint := "structure"
  assertionTraceHash := "trace"
  renderedMediaType := mediaType
  syntheticOnly := synthetic

/-- Two rows of which the second is not synthetic. -/
theorem orderSettled_pair :
    OrderSettled [rowOf "a" true "text/plain", rowOf "b" false "text/plain"] := by
  have hmembers : ∀ k ∈ keys logicalKey [rowOf "a" true "text/plain", rowOf "b" false "text/plain"],
      ∃ r, members logicalKey [rowOf "a" true "text/plain", rowOf "b" false "text/plain"] k = [r] ∧
        r.revision = 1 := by
    have hkeys : keys logicalKey [rowOf "a" true "text/plain", rowOf "b" false "text/plain"] =
        [("matter", "a"), ("matter", "b")] := by decide
    intro k hk
    rw [hkeys, List.mem_cons, List.mem_singleton] at hk
    rcases hk with rfl | rfl
    · exact ⟨rowOf "a" true "text/plain", by decide, rfl⟩
    · exact ⟨rowOf "b" false "text/plain", by decide, rfl⟩
  refine ⟨by decide, .inl (by decide), ?_, ?_, ?_⟩
  · intro r hr r' hr' hf hf'
    rw [List.mem_cons, List.mem_singleton] at hr hr'
    have hfirst : ¬ RowFails (rowOf "a" true "text/plain") := by simp [RowFails, rowOf]
    rcases hr with rfl | rfl
    · exact absurd hf hfirst
    rcases hr' with rfl | rfl
    · exact absurd hf' hfirst
    rfl
  · intro k hk k' _ hfails _
    obtain ⟨r, hr, hrevision⟩ := hmembers k hk
    rw [hr] at hfails
    rcases hfails with hgap | ⟨c, hc, x, hx, -⟩
    · exact absurd (by simp [ordered, hrevision]) hgap
    · exact absurd ((List.mem_singleton.1 hx.1).trans (List.mem_singleton.1 hc).symm) hx.2.1
  · intro k hk
    obtain ⟨r, hr, -⟩ := hmembers k hk
    exact interchangeable_of_nodup (by rw [hr]; exact List.nodup_singleton _)

/-- Two rows of which the first is not synthetic and the second not plain text. -/
def failingRows : List CorpusAuditArtifact :=
  [rowOf "a" false "text/plain", rowOf "b" true "text/html"]

/-- Two rows have something to be found of them, so their order is not immaterial. -/
theorem not_orderImmaterial_failingRows : ¬ OrderImmaterial failingRows := by
  have hfirst : rowOf "a" false "text/plain" ∈ failingRows := .head _
  have hsecond : rowOf "b" true "text/html" ∈ failingRows := .tail _ (.head _)
  have hne : rowOf "a" false "text/plain" ≠ rowOf "b" true "text/html" := by decide
  rintro (hsame | hsettled)
  · exact hne (hsame _ hfirst _ hsecond)
  · exact hne (hsettled.oneRow _ hfirst _ hsecond (.inl rfl) (.inr (by decide)))

/-- What an audit of the failing rows digests. -/
def failingForms : List Json :=
  [.strs ["a", "b"], .strs ["b", "a"],
    .list [.strs ["matter", "a", "a"], .strs ["matter", "b", "b"]],
    .list [.strs ["matter", "b", "b"], .strs ["matter", "a", "a"]],
    .list (failingRows.map (·.toJson)), .str "a", .str "b", .strs ["matter", "a"],
    .strs ["matter", "b"]]

/-- An audit of the failing rows digests nothing else. -/
theorem mem_failingForms {v : Json} (h : Digested failingRows v) : v ∈ failingForms := by
  cases h with
  | commitments hperm => rcases List.perm_pair.1 hperm with rfl | rfl <;> simp [failingForms, rowOf]
  | identities hperm =>
    rcases List.perm_pair.1 hperm with rfl | rfl <;> simp [failingForms, identityKey, rowOf]
  | @input rows' hperm =>
    have hsorted : rows'.insertionSort (fun a b => a.artifactCommitment ≤ b.artifactCommitment) =
        failingRows := by
      rcases List.perm_pair.1 hperm with rfl | rfl <;> decide
    rw [hsorted]
    simp [failingForms]
  | commitment hr =>
    rcases List.mem_pair.1 hr with rfl | rfl <;> simp [failingForms, rowOf]
  | artifact hr =>
    rcases List.mem_pair.1 hr with rfl | rfl <;> simp [failingForms, logicalKey, rowOf]

/-- The digests of these forms. -/
theorem map_digest_failingForms : failingForms.map digest =
    ["0473ef2dc0d324ab659d3580c1134e9d812035905c4781fdd6d529b0c6860e13",
      "02d8bc3008a9bb0dcc4b86d7fd3428ced792355c733c19756bec5a56dc61b2c5",
      "5386bda1e4e8c866afa73dee6cc03baad45fe1c16c98d5860a77ba9d1702f6f1",
      "7ea9e2c32b40e9a11877aee47b0a50b71f6c53a71279c13cd93d6c1d7f24e141",
      "bc9e177a4a83cd06b0d81255d93d6c34fa1461bdab9915a7b3007e2db2424610",
      "ac8d8342bbb2362d13f0a559a3621bb407011368895164b628a54f7fc33fc43c",
      "c100f95c1913f9c72fc1f4ef0847e1e723ffe0bde0b36e5f36c13f81fe8c26ed",
      "e10eb5eddb56f9d0fedc204323ba0757f07fc9c96a6d2e6983ee548af0827843",
      "33e23001393eeb8550ea025ac585ac81dcc8c4765e4fcd37afed07c26906a53c"] := by
  simp only [failingForms, List.map_cons, List.map_nil]
  repeat
    refine congrArg₂ List.cons ?_ ?_
    · exact Json.digest_eq_of_spells (by repeat' constructor) (by decide +kernel)
  rfl

/-- The digests of the failing rows, in either order, do not collide. -/
theorem injOn_failingRows : Set.InjOn digest {v | Digested failingRows v} := by
  have hnodup : (failingForms.map digest).Nodup := by
    rw [map_digest_failingForms]
    decide
  exact fun v hv w hw => List.inj_on_of_nodup_map hnodup (mem_failingForms hv) (mem_failingForms hw)

/-- The floats of these rows: the share of a structure in its channel is 1, the threshold 0.85. -/
def wholeShares : FloatArithmetic where
  quotient a b := .finite (a / b)
  round6
    | .finite q => .finite (roundTo 6 q)
    | v => v
  repr v := if v = .finite 1 then "1.0" else "0.85"

/-- Two rows of which one fails have one report; two of which each fails have two. -/
theorem audit_order_immaterial_pair :
    auditPersonaChannelCorpus wholeShares {}
        [rowOf "b" false "text/plain", rowOf "a" true "text/plain"] =
      auditPersonaChannelCorpus wholeShares {}
        [rowOf "a" true "text/plain", rowOf "b" false "text/plain"] ∧
      ¬ ∀ rows', rows'.Perm failingRows →
        auditPersonaChannelCorpus wholeShares {} rows' =
          auditPersonaChannelCorpus wholeShares {} failingRows :=
  ⟨(audit_order_immaterial wholeShares {}
      [rowOf "a" true "text/plain", rowOf "b" false "text/plain"]).1 (.inr orderSettled_pair)
      [rowOf "b" false "text/plain", rowOf "a" true "text/plain"] (.swap _ _ _),
    fun hsame => not_orderImmaterial_failingRows
      ((audit_order_immaterial wholeShares {} failingRows).2 injOn_failingRows hsame)⟩

/-- One row is not synthetic and another not plain text: the findings come in the order of the
rows. -/
theorem audit_order_shows : ¬ ∀ (A : FloatArithmetic) (policy : CorpusAuditPolicy)
    (rows rows' : List CorpusAuditArtifact), rows'.Perm rows →
      auditPersonaChannelCorpus A policy rows' = auditPersonaChannelCorpus A policy rows := by
  intro h
  have hreports := h wholeShares {} failingRows
    [rowOf "b" true "text/html", rowOf "a" false "text/plain"] (.swap _ _ _)
  have hcodes := congrArg (fun r => (r.findings.map (·.code)).head?) hreports
  have hfirst : ((findings wholeShares {} failingRows).map (·.code)).head? =
      some "synthetic_boundary_missing" := rfl
  have hsecond : ((findings wholeShares {}
      [rowOf "b" true "text/html", rowOf "a" false "text/plain"]).map (·.code)).head? =
        some "rendered_media_type_mismatch" := rfl
  have heq := hsecond.symm.trans (hcodes.trans hfirst)
  exact absurd (Option.some.inj heq) (by decide)

end Audit

end LawFirmDigitalTwin
