import LawFirmDigitalTwin.Evidence.Identity
import LawFirmDigitalTwin.Evidence.Planning
import LawFirmDigitalTwin.Lib.Occurs

/-!
# The fixture renderer

The end of the pipeline of `evidence_contracts.py`: `render_deterministic_g2_fixture` writes an
artifact from what its projection allows.
-/

namespace LawFirmDigitalTwin

/-! ## Rendering -/

/-- `text.replace("_", " ")`. -/
def spaced (text : String) : String :=
  String.ofList (text.toList.map fun c => if c = '_' then ' ' else c)

/-- `text.title()` of an ASCII text; `inWord` tells whether the character before is a letter. -/
def titleChars : Bool → List Char → List Char
  | _, [] => []
  | inWord, c :: rest => (if inWord then c.toLower else c.toUpper) :: titleChars c.isAlpha rest

def titleText (text : String) : String := String.ofList (titleChars false text.toList)

/-- The line of an assertion. -/
def assertionLine (a : FactAssertion) : String :=
  titleText (spaced a.factId) ++ ": " ++ spaced a.value ++ "."

/-- `channel_openers.get(channel_kind, "Synthetic business record")`. -/
def channelOpener : String → String
  | "email" => "Synthetic internal email record"
  | "hris_record" => "Synthetic human-resources record"
  | "policy_document" => "Synthetic policy record"
  | "structured_table" => "Synthetic structured business record"
  | "calendar" => "Synthetic calendar record"
  | "litigation_record" => "Synthetic litigation intake record"
  | "expert_record" => "Synthetic expert work record with source limitations"
  | "irrelevant_record" => "Synthetic ordinary-course nonresponsive record"
  | _ => "Synthetic business record"

/-- The line on the author's role and register. -/
def voiceLine (view : RendererPersonaView) : String :=
  let voice : PyDict String := .ofEntries view.voiceConstraints
  "Author role: " ++ view.roleId ++ "; register: " ++ (voice.get? "register").getD "bounded" ++ "."

def ordinaryLine : String :=
  "This ordinary-course item records a routine administrative communication unrelated to the " ++
    "disputed employment decision."

def fixtureClosing : String :=
  "This record is fictional, G2 text-only, and created from an allowlisted renderer projection."

/-- The lines of the body. -/
def bodyParts (projection : RendererArtifactProjection) : List String :=
  let assertionLines := projection.allowedAssertions.map assertionLine
  [channelOpener projection.channelKind ++ ".", voiceLine projection.personaView] ++
    (if assertionLines = [] then [ordinaryLine] else assertionLines) ++ [fixtureClosing]

/-- `metadata_values`. -/
def metadataValues (projection : RendererArtifactProjection) : PyDict String :=
  .ofEntries
    [("artifact_id", projection.lineage.logicalArtifactId),
     ("created_day", toString projection.createdDay), ("synthetic", "true"),
     ("author_id", projection.authorId),
     ("recipient_ids", String.intercalate "," projection.recipientIds),
     ("version_id", projection.lineage.versionId),
     ("lineage_hash", projection.lineage.lineageHash)]

def fixtureRevision : String := "deterministic-g2-fixture-renderer-v1"

/-- `evidence_contracts.py` `render_deterministic_g2_fixture`. -/
def renderDeterministicG2Fixture (projection : RendererArtifactProjection) :
    Except ContractError StagedArtifact := do
  let metadata ← projection.requiredMetadataKeys.mapM fun key =>
    match (metadataValues projection).get? key with
    | none => throw ⟨"KeyError", [key]⟩
    | some value => return (key, value)
  stageArtifact projection (String.intercalate "\n" (bodyParts projection))
    projection.allowedAssertions metadata fixtureRevision

/-- The metadata that is required of an artifact, with its values. -/
def fixtureMetadata (projection : RendererArtifactProjection) : List (String × String) :=
  projection.requiredMetadataKeys.map fun key =>
    (key, ((metadataValues projection).get? key).getD "")

def fixtureBody (projection : RendererArtifactProjection) : String :=
  String.intercalate "\n" (bodyParts projection)

/-- The words that no staged artifact may hold. -/
def placeholderWords : List String := ["lorem ipsum", "todo", "placeholder document"]

/-- No line of the body holds one of the words. -/
def Wholesome (projection : RendererArtifactProjection) : Prop :=
  ∀ line ∈ bodyParts projection, ∀ word ∈ placeholderWords,
    textContains (lowerText line) word = false

/-! ### The body -/

/-- The body in lower case is its lines in lower case. -/
theorem lowerText_body (projection : RendererArtifactProjection) :
    (lowerText (fixtureBody projection)).toList =
      ['\n'].intercalate ((bodyParts projection).map fun line => (lowerText line).toList) := by
  have hnewline : lowerChar '\n' = ['\n'] := by decide
  have hseparator : "\n".toList = ['\n'] := rfl
  unfold lowerText fixtureBody
  rw [String.toList_ofList, String.toList_intercalate, hseparator,
    Occurs.flatMap_intercalate hnewline, List.map_map]
  refine congrArg _ (List.map_congr_left fun line _ => ?_)
  rw [String.toList_ofList]
  rfl

/-- A body is free of placeholders where its lines are. -/
theorem wholesome_iff {projection : RendererArtifactProjection} :
    Wholesome projection ↔
      placeholderWords.any (textContains (lowerText (fixtureBody projection))) = false := by
  have hwords : ∀ word ∈ placeholderWords, '\n' ∉ word.toList ∧ word.toList ≠ [] := by
    simp only [placeholderWords, List.forall_mem_cons, List.not_mem_nil, false_implies,
      implies_true, and_true]
    decide
  have hlines (word : String) (hword : word ∈ placeholderWords) :
      textContains (lowerText (fixtureBody projection)) word = false ↔
        ∀ line ∈ bodyParts projection, textContains (lowerText line) word = false := by
    obtain ⟨hnewline, hne⟩ := hwords word hword
    simp only [textContains, lowerText_body, Occurs.infix_intercalate_iff hnewline hne,
      decide_eq_false_iff_not, not_exists, not_and, List.forall_mem_map]
  rw [List.any_eq_false]
  simp only [Bool.not_eq_true]
  exact ⟨fun h word hword => (hlines word hword).2 fun line hline => h line hline word hword,
    fun h line hline word hword => (hlines word hword).1 (h word hword) line hline⟩

/-- Dropping leading characters drops none of the others. -/
theorem countP_dropWhile (p : Char → Bool) (cs : List Char) :
    (cs.dropWhile p).countP (!p ·) = cs.countP (!p ·) := by
  induction cs with
  | nil => rfl
  | cons c cs ih =>
    rw [List.dropWhile_cons]
    by_cases hc : p c = true
    · rw [if_pos hc, ih, List.countP_cons_of_neg (by simp [hc])]
    · rw [if_neg hc]

/-- What is stripped are spaces. -/
theorem countP_le_length_strip (cs : List Char) :
    cs.countP (!isSpace ·) ≤ (strip cs).length := by
  calc cs.countP (!isSpace ·) = (strip cs).countP (!isSpace ·) := by
        rw [strip, List.countP_reverse, countP_dropWhile, List.countP_reverse, countP_dropWhile]
    _ ≤ (strip cs).length := List.countP_le_length

/-- The closing is part of the body. -/
theorem fixtureClosing_sublist (projection : RendererArtifactProjection) :
    fixtureClosing.toList.Sublist (fixtureBody projection).toList := by
  have hmem : fixtureClosing ∈ bodyParts projection := by simp [bodyParts]
  have hinfix {parts : List (List Char)} {part : List Char} (h : part ∈ parts) :
      part.Sublist (['\n'].intercalate parts) := by
    induction parts with
    | nil => exact absurd h List.not_mem_nil
    | cons first rest ih =>
      cases rest with
      | nil =>
        rw [List.mem_singleton.1 h, List.intercalate_singleton]
      | cons next rest =>
        rw [List.intercalate_cons_cons]
        rcases List.mem_cons.1 h with rfl | h
        · exact (List.sublist_append_left _ _).trans (List.sublist_append_left _ _)
        · exact (ih h).trans (List.sublist_append_right _ _)
  rw [fixtureBody, String.toList_intercalate]
  exact hinfix (List.mem_map_of_mem hmem)

/-- The body is long enough. -/
theorem length_fixtureBody (projection : RendererArtifactProjection) :
    24 ≤ (strip (fixtureBody projection).toList).length := by
  have hclosing : 24 ≤ fixtureClosing.toList.countP (!isSpace ·) := by decide
  exact hclosing.trans ((fixtureClosing_sublist projection).countP_le.trans
    (countP_le_length_strip _))

/-! ### The metadata and the assertions -/

/-- There is a value for every key of metadata that is required. -/
theorem get?_metadataValues {projection : RendererArtifactProjection}
    {capability : EvidenceFamilyCapability} {key : String} (h : key ∈ requiredMetadata capability) :
    ∃ value, (metadataValues projection).get? key = some value := by
  have hkeys : (metadataValues projection).keys =
      ["artifact_id", "created_day", "synthetic", "author_id", "recipient_ids", "version_id",
        "lineage_hash"].toFinset := PyDict.keys_ofEntries _
  have hrequired : key ∈ (["artifact_id", "created_day", "synthetic", "author_id", "recipient_ids",
      "version_id", "lineage_hash"] : List String).toFinset := by
    have h := mem_sorted.1 h
    simp only [List.toFinset_append, Finset.mem_union, List.mem_toFinset] at h
    rw [List.mem_toFinset]
    rcases h with ((h | h) | h) | h
    · exact List.mem_append_left ["author_id", "recipient_ids", "version_id", "lineage_hash"] h
    all_goals
      split at h
      · simp only [List.mem_cons, List.not_mem_nil, or_false] at h
        simp only [List.mem_cons, List.not_mem_nil, or_false]
        tauto
      · exact absurd h List.not_mem_nil
  rw [← hkeys, Finmap.mem_keys, ← Finmap.lookup_isSome] at hrequired
  exact Option.isSome_iff_exists.1 hrequired

/-- A list sorted without duplicates is left as it is. -/
theorem sortedMetadata_keyed {keys : Finset String} (f : String → String) :
    sortedMetadata ((sorted keys).map fun key => (key, f key)) =
      (sorted keys).map fun key => (key, f key) := by
  have hinj : Function.Injective fun key => (key, f key) := fun _ _ h => congrArg Prod.fst h
  have hnodup : ((sorted keys).map fun key => (key, f key)).Nodup :=
    (nodup_sorted keys).map hinj
  unfold sortedMetadata
  rw [List.dedup_eq_self.2 hnodup]
  refine List.Pairwise.insertionSort_eq (List.pairwise_map.2 ?_)
  refine ((pairwise_sorted keys).and (nodup_sorted keys)).imp fun {a b} h => ?_
  exact Prod.Lex.toLex_le_toLex.2 (.inl (lt_of_le_of_ne h.1 h.2))

/-- Sorted assertions stay as they are. -/
theorem sortedAssertions_idem (assertions : List FactAssertion) :
    sortedAssertions (sortedAssertions assertions) = sortedAssertions assertions := by
  have hnodup : (sortedAssertions assertions).Nodup :=
    (List.perm_insertionSort _ _).nodup_iff.2 (List.nodup_dedup assertions)
  conv_lhs => rw [sortedAssertions, List.dedup_eq_self.2 hnodup]
  exact List.Pairwise.insertionSort_eq (List.pairwise_insertionSort _ _)

/-- There is no placeholder in an artifact that passes. -/
theorem no_placeholder_of_passed {staged : StagedArtifact}
    {projection : RendererArtifactProjection}
    (h : (validateStagedArtifact staged projection).passed = true) :
    placeholderWords.any (textContains (lowerText staged.body)) = false := by
  simp only [validateStagedArtifact, List.isEmpty_iff, List.append_eq_nil_iff, List.map_eq_nil_iff,
    errorsIf_eq_nil, List.forall_mem_append] at h
  have hfields := h.1.1.1.1.1
  simp only [fieldChecks, List.forall_mem_cons] at hfields
  exact hfields.2.2.2.2.2.2.2.2.2.2.2.2.2.2.2.1

/-- The body of a staged artifact is the one given. -/
theorem stagedOf_body {projection : RendererArtifactProjection} {body rendererRevision : String}
    {assertions : List FactAssertion} {metadata : List (String × String)} :
    (stagedOf projection body assertions metadata rendererRevision).body = body := rfl

/-- Of the checks of a rendered fixture, only the one for placeholders is left. -/
theorem fixture_passed_iff {projection : RendererArtifactProjection}
    {capability : EvidenceFamilyCapability}
    (hkeys : projection.requiredMetadataKeys = requiredMetadata capability)
    (hlineage : validateVersionLineage projection.lineage = []) :
    (validateStagedArtifact (stagedOf projection (fixtureBody projection)
      projection.allowedAssertions (fixtureMetadata projection) fixtureRevision)
        projection).passed = true ↔ Wholesome projection := by
  have hfst : (fixtureMetadata projection).map (·.1) = projection.requiredMetadataKeys := by
    rw [fixtureMetadata, List.map_map]
    exact List.map_id' _
  have hlength := length_fixtureBody projection
  have hrevision : fixtureRevision ≠ "" := by decide
  rw [wholesome_iff]
  generalize fixtureBody projection = body at hlength ⊢
  constructor
  · intro h
    have h := no_placeholder_of_passed h
    rwa [stagedOf_body] at h
  · intro h
    refine stagedOf_passed hrevision hlength h rfl ?_ ?_ hlineage
    · rw [hfst]
      exact List.Subset.refl _
    · rw [hfst, hkeys]
      exact nodup_sorted _

/-- **The fixture renders** exactly when no line of its body holds a placeholder. -/
theorem renderDeterministicG2Fixture_eq_ok {projection : RendererArtifactProjection}
    {capability : EvidenceFamilyCapability} {assertions : List FactAssertion}
    (hkeys : projection.requiredMetadataKeys = requiredMetadata capability)
    (hassertions : projection.allowedAssertions = sortedAssertions assertions)
    (hlineage : validateVersionLineage projection.lineage = []) {staged : StagedArtifact} :
    renderDeterministicG2Fixture projection = .ok staged ↔
      Wholesome projection ∧ staged = stagedOf projection (fixtureBody projection)
        projection.allowedAssertions (fixtureMetadata projection) fixtureRevision := by
  have hmetadata : (projection.requiredMetadataKeys.mapM fun key =>
      match (metadataValues projection).get? key with
      | none => throw ⟨"KeyError", [key]⟩
      | some value => return (key, value)) =
        (.ok (fixtureMetadata projection) : Except ContractError (List (String × String))) := by
    refine Raising.except_mapM_eq_ok.2 (List.forall₂_map_right_iff.2
      (List.forall₂_same.2 fun key hkey => ?_))
    obtain ⟨value, hvalue⟩ := get?_metadataValues (hkeys ▸ hkey)
    rw [hvalue]
    rfl
  have hsortedMetadata : sortedMetadata (fixtureMetadata projection) =
      fixtureMetadata projection := by
    unfold fixtureMetadata
    rw [hkeys]
    exact sortedMetadata_keyed _
  have hsortedAssertions : sortedAssertions projection.allowedAssertions =
      projection.allowedAssertions := by rw [hassertions, sortedAssertions_idem]
  have hpassed := fixture_passed_iff hkeys hlineage
  unfold renderDeterministicG2Fixture
  rw [hmetadata, Raising.ok_bind]
  have hbody : String.intercalate "\n" (bodyParts projection) = fixtureBody projection := rfl
  unfold stageArtifact
  rw [hsortedMetadata, hsortedAssertions, hbody]
  simp only [Raising.except_throw_if_eq_ok, Bool.not_eq_false, hpassed]
  exact and_congr_right fun _ =>
    ⟨fun h => (Except.ok.inj h).symm, fun h => congrArg Except.ok h.symm⟩

end LawFirmDigitalTwin
