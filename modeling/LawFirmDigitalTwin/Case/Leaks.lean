import LawFirmDigitalTwin.Case.Standard
import LawFirmDigitalTwin.JsonSearch

/-!
# What leaks to the operating side

The validator searches the lowered text of the operating projection for the words of the sealed
design, for the buckets of the axes in quotes and for the evaluator's identity. The projection of a
standard request holds none of them: its identities are digests behind a prefix, and the rest is the
same in every design.
-/

namespace LawFirmDigitalTwin

open Raising Json

/-! ## The parts of a projection -/

/-- The operating projection is written in ASCII. -/
theorem ascii_operating (p : OperatingCaseProjection) : Ascii p.toJson := by
  refine .dict _ (List.forall_mem_cons.2 ⟨.str _, ?_⟩)
  simp only [OperatingCaseProjection.payload, List.forall_mem_cons, List.not_mem_nil, false_implies,
    implies_true, and_true]
  refine ⟨.str _, .str _, .str _, .str _, .str _, .bool _, .bool _, .list _ ?_, .list _ ?_, .int _⟩
  · rw [List.forall_mem_map]
    intro a _
    refine .dict _ ?_
    simp only [List.forall_mem_cons, List.not_mem_nil, false_implies, implies_true, and_true]
    exact ⟨.str _, .str _, .str _, .int _, .str _, .str _, .bool _, .bool _⟩
  · rw [List.forall_mem_map]
    intro f _
    refine .dict _ ?_
    simp only [List.forall_mem_cons, List.not_mem_nil, false_implies, implies_true, and_true]
    exact ⟨.str _, .str _, .str _, .str _, .int _, .int _, .int _⟩

/-- The entries of a projection before its lists, without its identity. -/
def operatingHead (p : OperatingCaseProjection) : List (String × Json) :=
  [("projection_id", .str ""), ("case_family_id", .str p.caseFamilyId),
   ("jurisdiction_label", .str p.jurisdictionLabel), ("rule_pack_id", .str p.rulePackId),
   ("compiler_revision", .str p.compilerRevision), ("schema_revision", .str p.schemaRevision),
   ("synthetic_only", .bool p.syntheticOnly), ("non_predictive", .bool p.nonPredictive)]

/-- A projection with other lists, without its identity. -/
def operatingForm (p : OperatingCaseProjection) (artifacts : List OperatingArtifactSummary)
    (frontiers : List OperatingActorFrontier) : Json :=
  .dict (operatingHead p ++
    ("initial_artifacts", .list (artifacts.map OperatingArtifactSummary.toJson)) ::
      [("actor_frontiers", .list (frontiers.map OperatingActorFrontier.toJson)),
       ("planned_artifact_count", .int p.plannedArtifactCount)])

/-- The identities of a projection. -/
def OperatingCaseProjection.identities (p : OperatingCaseProjection) : List String :=
  p.projectionId :: p.initialArtifacts.map (·.publicPlanId) ++ p.actorFrontiers.map (·.frontierId)

section
variable {w : List Char} (hw : IsWord Char.toLower w)
include hw

/-- **A word that a projection shows** is shown without its identities or by one of them. -/
theorem shows_operating {p : OperatingCaseProjection} (h : p.toJson.Shows Char.toLower w) :
    p.erased.toJson.Shows Char.toLower w ∨
      ∃ id ∈ p.identities, (Json.str id).Shows Char.toLower w := by
  have hsummaries : (Json.list (p.initialArtifacts.map OperatingArtifactSummary.toJson)).Shows
      Char.toLower w → (Json.list ((p.initialArtifacts.map OperatingArtifactSummary.erased).map
        OperatingArtifactSummary.toJson)).Shows Char.toLower w ∨
          ∃ a ∈ p.initialArtifacts, (Json.str a.publicPlanId).Shows Char.toLower w := by
    rw [List.map_map]
    exact hw.shows_map fun a _ => @IsWord.shows_replace _ _ hw [] _ _ _ _ _ .inr
  have hfrontiers : (Json.list (p.actorFrontiers.map OperatingActorFrontier.toJson)).Shows
      Char.toLower w → (Json.list ((p.actorFrontiers.map OperatingActorFrontier.erased).map
        OperatingActorFrontier.toJson)).Shows Char.toLower w ∨
          ∃ f ∈ p.actorFrontiers, (Json.str f.frontierId).Shows Char.toLower w := by
    rw [List.map_map]
    exact hw.shows_map fun f _ => @IsWord.shows_replace _ _ hw [] _ _ _ _ _ .inr
  have hid : p.toJson.Shows Char.toLower w →
      (operatingForm p p.initialArtifacts p.actorFrontiers).Shows Char.toLower w ∨
        (Json.str p.projectionId).Shows Char.toLower w :=
    @IsWord.shows_replace _ _ hw [] _ _ _ _ _ .inr
  have hinitial : (operatingForm p p.initialArtifacts p.actorFrontiers).Shows Char.toLower w →
      (operatingForm p (p.initialArtifacts.map OperatingArtifactSummary.erased)
        p.actorFrontiers).Shows Char.toLower w ∨
          ∃ a ∈ p.initialArtifacts, (Json.str a.publicPlanId).Shows Char.toLower w :=
    hw.shows_replace hsummaries
  have hactors : (operatingForm p (p.initialArtifacts.map OperatingArtifactSummary.erased)
      p.actorFrontiers).Shows Char.toLower w → p.erased.toJson.Shows Char.toLower w ∨
        ∃ f ∈ p.actorFrontiers, (Json.str f.frontierId).Shows Char.toLower w := by
    have hsplit (artifacts : List OperatingArtifactSummary)
        (frontiers : List OperatingActorFrontier) : operatingForm p artifacts frontiers =
          .dict ((operatingHead p ++ [("initial_artifacts",
            .list (artifacts.map OperatingArtifactSummary.toJson))]) ++ ("actor_frontiers",
              .list (frontiers.map OperatingActorFrontier.toJson)) ::
                [("planned_artifact_count", .int p.plannedArtifactCount)]) := by
      rw [operatingForm, List.append_assoc]
      rfl
    have herased : p.erased.toJson = operatingForm p
        (p.initialArtifacts.map OperatingArtifactSummary.erased)
          (p.actorFrontiers.map OperatingActorFrontier.erased) := rfl
    rw [herased, hsplit, hsplit]
    exact hw.shows_replace hfrontiers
  rcases hid h with h | hid
  · rcases hinitial h with h | ⟨a, ha, hid⟩
    · rcases hactors h with h | ⟨f, hf, hid⟩
      · exact .inl h
      · exact .inr ⟨_, List.mem_append_right _ (List.mem_map_of_mem hf), hid⟩
    · exact .inr ⟨_, List.mem_append_left _ (.tail _ (List.mem_map_of_mem ha)), hid⟩
  · exact .inr ⟨_, .head _, hid⟩

end

/-! ## The words -/

/-- The letters of an identity behind a prefix. -/
def idLetters (letters : List Char) : List Char :=
  '-' :: letters ++ ['0', '1', '2', '3', '4', '5', '6', '7', '8', '9', 'a', 'b', 'c', 'd', 'e', 'f']

/-- The letters of the prefixes. -/
def prefixLetters : List (List Char) :=
  [['o', 'p', 'r', 'j'], ['o', 'p', 'l', 'a', 'n'], ['f', 'r', 'o', 'n', 't', 'i', 'e']]

/-- A digest is within the letters of identities. -/
theorem within_digest {letters : List Char} (n : Nat) (v : Json) :
    Within (idLetters letters) (firstChars n (digest v)) := by
  have hhex : ∀ k < 16, escapeChar (Sha256.hexDigit k) = [Sha256.hexDigit k] ∧
      (Sha256.hexDigit k).toLower ∈ ['0', '1', '2', '3', '4', '5', '6', '7', '8', '9', 'a', 'b',
        'c', 'd', 'e', 'f'] := by decide
  intro c hc
  rw [firstChars, String.toList_ofList] at hc
  obtain ⟨k, hk, rfl⟩ := hex_of_mem_digest (List.mem_of_mem_take hc)
  exact ⟨(hhex k hk).1, List.mem_append_right _ (hhex k hk).2⟩

/-- An identity that is a digest behind one of the prefixes. -/
def IsIdentity (id : String) : Prop :=
  ∃ label ∈ ["OPROJ-", "OPLAN-", "FRONTIER-"], ∃ v, id = label ++ firstChars 18 (digest v)

/-- An identity is within its letters, and has a hyphen. -/
theorem IsIdentity.within {id : String} (h : IsIdentity id) :
    '-' ∈ id.toList ∧ ∃ letters ∈ prefixLetters, Within (idLetters letters) id := by
  obtain ⟨label, hlabel, v, rfl⟩ := h
  have hlabels : ∀ label ∈ ["OPROJ-", "OPLAN-", "FRONTIER-"], '-' ∈ label.toList ∧
      ∃ letters ∈ prefixLetters, label.toList.all (fun c => escapeChar c == [c] &&
        (idLetters letters).elem c.toLower) = true := by decide
  obtain ⟨hdash, letters, hletters, hall⟩ := hlabels label hlabel
  refine ⟨?_, letters, hletters, (Within.of_all hall).append (within_digest 18 v)⟩
  rw [String.toList_append]
  exact List.mem_append_left _ hdash

/-- The buckets of the standard axes. -/
def bucketIds : List String := buildPopulationAxes.flatMap fun axis => axis.buckets.map (·.bucketId)

/-- A word that a standard projection does not show. -/
structure Absent (w : List Char) : Prop where
  isWord : IsWord Char.toLower w
  identity : ∀ id, IsIdentity id → ¬ (Json.str id).Shows Char.toLower w

/-- A decidable form of being a word. -/
theorem isWord_of_all {w : List Char} (h : (!w.isEmpty && marks.all fun c => !w.elem c.toLower) =
    true) : IsWord Char.toLower w := by
  rw [Bool.and_eq_true] at h
  refine ⟨by simpa using h.1, fun c hc hmem => ?_⟩
  have hmark := List.all_eq_true.1 h.2 c hc
  rw [Bool.not_eq_true'] at hmark
  exact Bool.false_ne_true (hmark.symm.trans (List.elem_eq_true_of_mem hmem))

/-- A word with a letter that no identity has. -/
theorem absent_of_letter {w : List Char}
    (hword : (!w.isEmpty && marks.all fun c => !w.elem c.toLower) = true)
    (hletter : prefixLetters.all (fun letters => w.any fun c =>
      !(quote :: idLetters letters).elem c) = true) : Absent w := by
  refine ⟨isWord_of_all hword, fun id hid => ?_⟩
  obtain ⟨-, letters, hletters, hwithin⟩ := hid.within
  obtain ⟨c, hc, hnot⟩ := List.any_eq_true.1 (List.all_eq_true.1 hletter letters hletters)
  rw [Bool.not_eq_true'] at hnot
  exact hwithin.not_shows
    ⟨c, hc, fun hmem => Bool.false_ne_true (hnot.symm.trans (List.elem_eq_true_of_mem hmem))⟩

/-- The forbidden fields do not occur in what the operating side is shown. -/
theorem forbidden_absent : ∀ term ∈ forbiddenOperatingFields, Absent term.toList := by
  have hall : ∀ term ∈ forbiddenOperatingFields, (!term.toList.isEmpty &&
      marks.all fun c => !term.toList.elem c.toLower) = true ∧
        prefixLetters.all (fun letters => term.toList.any fun c =>
          !(quote :: idLetters letters).elem c) = true := by decide +kernel
  exact fun term hterm => absent_of_letter (hall term hterm).1 (hall term hterm).2

/-- Nor does the prefix of evaluations. -/
theorem evaluator_absent : Absent "eval-".toList :=
  absent_of_letter (by decide) (by decide)

/-- A quoted bucket is none of the identities, which have a dash in them. -/
theorem bucket_absent : ∀ bucketId ∈ bucketIds,
    Absent (quote :: bucketId.toList ++ [quote]) := by
  have hall : ∀ bucketId ∈ bucketIds, (!(quote :: bucketId.toList ++ [quote]).isEmpty &&
      marks.all fun c => !(quote :: bucketId.toList ++ [quote]).elem c.toLower) = true ∧
        '-' ∉ bucketId.toList ∧ quote ∉ bucketId.toList := by decide +kernel
  have hletters : ∀ letters ∈ prefixLetters, quote ∉ idLetters letters := by decide
  intro bucketId hbucket
  obtain ⟨hword, hdash, hquote⟩ := hall bucketId hbucket
  refine ⟨isWord_of_all hword, fun id hid hshows => ?_⟩
  obtain ⟨hdashId, letters, hmem, hwithin⟩ := hid.within
  have hlower : Char.toLower '-' = '-' := by decide
  rw [hwithin.eq_of_shows (hletters letters hmem) hquote hshows] at hdash
  exact hdash (hlower ▸ List.mem_map_of_mem hdashId)

/-! ## The standard projection -/

/-- The operating projection of every standard design. -/
def standardShape : OperatingCaseProjection where
  projectionId := ""
  caseFamilyId := "employment_defense_g2"
  jurisdictionLabel := "DATA_FIRST_PENDING"
  rulePackId := "RULEPACK-DATA-FIRST-PENDING-v0"
  compilerRevision := "case-compiler-g2-v1"
  schemaRevision := "projection-contract-g2-v1"
  syntheticOnly := true
  nonPredictive := true
  initialArtifacts :=
    [{ publicPlanId := "", capabilityId := "evidence.employment_litigation.v1"
       familyId := "employment_litigation", createdDay := 0, authorRoleId := "intake"
       simulatedTargetNativeFormat := "application/json", initial := true },
     { publicPlanId := "", capabilityId := "evidence.employment_policy.v1"
       familyId := "employment_policy", createdDay := 1, authorRoleId := "witness"
       simulatedTargetNativeFormat := "application/json", initial := true },
     { publicPlanId := "", capabilityId := "evidence.employment_hr_record.v1"
       familyId := "employment_hr_record", createdDay := 44, authorRoleId := "manager"
       simulatedTargetNativeFormat := "application/json", initial := true }]
  actorFrontiers :=
    [⟨"", "billing_specialist", "billing", "defense_firm", 35, 1, 0⟩,
     ⟨"", "hr_witness", "witness", "synthetic_insured", 40, 5, 0⟩,
     ⟨"", "independent_expert", "expert", "independent_practice", 120, 9, 0⟩,
     ⟨"", "intake_coordinator", "intake", "defense_firm", 0, 1, 1⟩,
     ⟨"", "manager_witness", "manager", "synthetic_insured", 44, 8, 0⟩]
  plannedArtifactCount := 9

/-- The shape of the standard family. -/
theorem operatingShape_standard :
    operatingShape buildCapabilityRegistry placeholderDataFirstRulePack "employment_defense_g2"
      caseCompilerRevision = standardShape := by
  have hcapability : ∀ familyId ∈ ["employment_litigation", "employment_policy",
      "employment_hr_record"], (buildCapabilityRegistry.activeByFamily.get? familyId).map
        (·.capabilityId) = some ("evidence." ++ familyId ++ ".v1") := by decide +kernel
  unfold operatingShape initialSummary
  rw [hcapability _ (by simp), hcapability _ (by simp), hcapability _ (by simp)]
  rfl

/-- The standard projection shows none of the words. -/
theorem standardShape_absent : ∀ w ∈ forbiddenOperatingFields.map String.toList ++
    bucketIds.map (fun bucketId => quote :: bucketId.toList ++ [quote]) ++ ["eval-".toList],
      ¬ standardShape.toJson.Shows Char.toLower w := by
  intro w hw
  refine not_shows_of_found (by repeat' constructor) ?_
  revert w
  decide +kernel

/-- The ids of buckets are in lower case. -/
theorem lowerText_bucket : ∀ bucketId ∈ bucketIds, lowerText bucketId = bucketId := by
  decide +kernel

/-! ## Drafts -/

section
variable {r : CompileRequest} {c : CaseCompilation}

/-- The identities of an operating projection are of the forms listed. -/
theorem identities_of_operating {caseFamilyId : String} {rulePack : RulePack}
    {states : List PersonaStateSnapshot} {plans : List ArtifactPlan} {compilerRevision : String}
    {p : OperatingCaseProjection}
    (h : buildOperatingProjection caseFamilyId rulePack states plans compilerRevision = .ok p) :
    ∀ id ∈ p.identities, IsIdentity id := by
  unfold buildOperatingProjection at h
  simp only [except_bind_eq_ok] at h
  obtain ⟨summaries, hsummaries, h⟩ := h
  obtain rfl := Except.ok.inj h
  refine List.forall_mem_cons.2 ⟨⟨"OPROJ-", by simp, _, rfl⟩, List.forall_mem_append.2 ⟨?_, ?_⟩⟩
  · intro id hid
    obtain ⟨a, ha, rfl⟩ := List.mem_map.1 hid
    obtain ⟨plan, -, hplan⟩ := (mem_of_except_mapM hsummaries a).1 ha
    obtain ⟨profile, -, hmade⟩ := except_bind_eq_ok.1 hplan
    obtain rfl := Except.ok.inj hmade
    exact ⟨"OPLAN-", by simp, _, rfl⟩
  · intro id hid
    obtain ⟨f, hf, rfl⟩ := List.mem_map.1 hid
    obtain ⟨e, -, rfl⟩ := List.mem_map.1 hf
    exact ⟨"FRONTIER-", by simp, _, rfl⟩

/-- What the leak checks look at in a draft. -/
theorem leak_parts (h : draftCaseDesign r = .ok c) :
    (∀ id ∈ c.operating.identities, IsIdentity id) ∧
      c.sealed.axisLabels = r.blueprint.sealedAxisLabels ∧
        (∃ hex, c.evaluation.evaluatorCaseId = "EVAL-" ++ hex) ∧
          c.evaluation.syntheticOnly = true ∧ c.evaluation.realWorldPrediction = false := by
  unfold draftCaseDesign at h
  simp only [except_bind_eq_ok, except_throw_if_eq_ok] at h
  obtain ⟨family, -, -, -, design, -, -, -, specs, -, artifacts, -, -, -, operating, hoperating, sealed,
    hsealed, h⟩ := h
  obtain rfl := Except.ok.inj h
  obtain ⟨-, -, -, -, -, -, -, haxes⟩ := CompileRequest.sealedState_eq_ok hsealed
  exact ⟨identities_of_operating hoperating, haxes, ⟨_, rfl⟩, rfl, rfl⟩

/-- **Nothing leaks from a standard draft** whose labels are buckets of the axes. -/
theorem leakFindings_standard {blueprint : CaseDesignBlueprint}
    (h : draftCaseDesign (standardRequest blueprint placeholderDataFirstRulePack) = .ok c)
    (hfamily : blueprint.caseFamilyId = "employment_defense_g2")
    (hlabels : ∀ label ∈ blueprint.sealedAxisLabels, label.2 ∈ bucketIds) :
    c.leakFindings = [] := by
  obtain ⟨hidentities, haxes, ⟨hex, hevaluator⟩, hsynthetic, hprediction⟩ := leak_parts h
  have herased : c.operating.erased = standardShape := by
    rw [operating_of_draftCaseDesign h, ← operatingShape_standard]
    exact congrArg (fun id => operatingShape buildCapabilityRegistry placeholderDataFirstRulePack id
      caseCompilerRevision) hfamily
  have habsent {w : List Char} (habsent : Absent w)
      (hshape : ¬ standardShape.toJson.Shows Char.toLower w) :
      ¬ c.operating.toJson.Shows Char.toLower w := by
    intro hshows
    rcases shows_operating habsent.isWord hshows with hrest | ⟨id, hid, hshows⟩
    · exact hshape (herased ▸ hrest)
    · exact habsent.identity id (hidentities id hid) hshows
  have hclean (text : String) (habsentText : Absent text.toList)
      (hshape : ¬ standardShape.toJson.Shows Char.toLower text.toList) :
      textContains c.operatingText text = false :=
    Bool.eq_false_iff.2 fun hcontains =>
      habsent habsentText hshape (((ascii_operating c.operating).textContains_iff text).1 hcontains)
  have hforbidden : ∀ term ∈ forbiddenOperatingFields, textContains c.operatingText term = false :=
    fun term hterm => hclean term (forbidden_absent term hterm) (standardShape_absent _
      (List.mem_append_left _ (List.mem_append_left _ (List.mem_map_of_mem hterm))))
  have hbuckets : ∀ label ∈ c.sealed.axisLabels,
      textContains c.operatingText ("\"" ++ lowerText label.2 ++ "\"") = false := by
    intro label hlabel
    have hbucket := hlabels label (haxes ▸ hlabel)
    have hlower : ("\"" ++ lowerText label.2 ++ "\"").toList =
        quote :: label.2.toList ++ [quote] := by
      rw [String.toList_append, String.toList_append, lowerText_bucket label.2 hbucket]
      rfl
    refine hclean _ ?_ ?_ <;> rw [hlower]
    · exact bucket_absent label.2 hbucket
    · exact standardShape_absent _ (List.mem_append_left _ (List.mem_append_right _
        (List.mem_map_of_mem hbucket)))
  have hjoin : textContains c.operatingText (lowerText c.evaluation.evaluatorCaseId) = false := by
    have hlower : (lowerText ("EVAL-" ++ hex)).toList =
        "EVAL-".toList.flatMap lowerChar ++ hex.toList.flatMap lowerChar := by
      unfold lowerText
      rw [String.toList_append, List.flatMap_append]
      exact String.toList_ofList
    have hstart : "eval-".toList <+: (lowerText c.evaluation.evaluatorCaseId).toList := by
      rw [hevaluator, hlower]
      exact List.prefix_append _ _
    refine Bool.eq_false_iff.2 fun hcontains => ?_
    have heval := hclean "eval-" evaluator_absent (standardShape_absent _ (List.mem_append_right _
      (.head _)))
    have hwhole := of_decide_eq_true hcontains
    exact of_decide_eq_false heval (hstart.isInfix.trans hwhole)
  simp only [CaseCompilation.leakFindings, List.append_eq_nil_iff, errorsIf_eq_nil,
    List.forall_mem_map, List.forall_mem_cons, List.not_mem_nil, false_implies, implies_true,
    and_true]
  refine ⟨⟨hforbidden, hbuckets⟩, hjoin, ?_⟩
  simp [hsynthetic, hprediction]

end

end LawFirmDigitalTwin
