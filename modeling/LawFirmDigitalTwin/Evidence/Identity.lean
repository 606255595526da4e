import LawFirmDigitalTwin.Evidence.Staging

/-!
# What the identity of a staged artifact determines

An artifact that validates against a projection takes most of its fields over from it, and commits
to the rest through its content, identity and custody. The revision of the renderer is only asked to
be there: it stands in none of the three commitments, and only the local receipt, which hashes the
whole artifact, tells two revisions apart.
-/

namespace LawFirmDigitalTwin

/-- A staged artifact that validates. -/
structure StagedFor (projection : RendererArtifactProjection) (a : StagedArtifact) : Prop where
  worldNamespace : a.worldNamespace = projection.worldNamespace
  matterNamespace : a.matterNamespace = projection.matterNamespace
  planId : a.planId = projection.planId
  planHash : a.planHash = projection.planHash
  rendererProjectionHash : a.rendererProjectionHash = projection.projectionHash
  capabilityId : a.capabilityId = projection.capabilityId
  familyId : a.familyId = projection.familyId
  capabilityRevision : a.capabilityRevision = projection.capabilityRevision
  authorId : a.authorId = projection.authorId
  recipientIds : a.recipientIds = projection.recipientIds
  createdDay : a.createdDay = projection.createdDay
  targetFormat : a.simulatedTargetNativeFormat = projection.simulatedTargetNativeFormat
  renderedMediaType : a.renderedMediaType = "text/plain"
  canonicalStatus : a.canonicalStatus = "proposal_only"
  syntheticOnly : a.syntheticOnly = true
  rendererRevision : a.rendererRevision ≠ ""
  assertions : canonicalJson (assertionsJson a.assertions) =
    canonicalJson (assertionsJson projection.allowedAssertions)
  contentHash : a.claimedContentHash =
    contentCommitment projection a.body a.assertions a.metadata
  identity : a.stagedArtifactId =
    stagedId projection (contentCommitment projection a.body a.assertions a.metadata)
  lineageHash : a.claimedLineageHash = a.lineage.lineageHash
  lineage : a.lineage = projection.lineage
  custody : a.custodyOriginHash = digest (custodyForm a.stagedArtifactId a.claimedContentHash
    a.metadata a.claimedLineageHash)

variable {projection : RendererArtifactProjection} {a b : StagedArtifact}

/-- The assertions pass the three checks exactly when their texts are the same. -/
theorem assertionChecks_pass :
    (∀ e ∈ assertionChecks a projection, e.1 = false) ↔
      canonicalJson (assertionsJson a.assertions) =
        canonicalJson (assertionsJson projection.allowedAssertions) := by
  simp only [assertionChecks, List.forall_mem_cons, List.not_mem_nil, false_implies,
    implies_true, and_true, decide_eq_false_iff_not]
  constructor
  · rintro ⟨hadded, homitted, hchanged⟩
    by_contra hdiffers
    have hadded := fun h => hadded ⟨hdiffers, h⟩
    exact hchanged ⟨hdiffers, hadded, fun h => homitted ⟨hdiffers, hadded, h⟩⟩
  · intro h
    exact ⟨fun hd => hd.1 h, fun hd => hd.1 h, fun hd => hd.1 h⟩

/-- An artifact that passes is staged for its projection. -/
theorem StagedFor.of_passed (h : (validateStagedArtifact a projection).passed = true) :
    StagedFor projection a := by
  simp only [validateStagedArtifact, List.isEmpty_iff, List.append_eq_nil_iff, List.map_eq_nil_iff,
    errorsIf_eq_nil, List.forall_mem_append, List.forall_mem_cons, assertionChecks_pass] at h
  obtain ⟨⟨⟨⟨⟨hfields, hassertions⟩, -⟩, -, hcommitments⟩, -⟩, hcustody⟩ := h
  simp only [fieldChecks, List.forall_mem_cons, List.not_mem_nil, false_implies,
    implies_true, and_true, decide_eq_false_iff_not, not_not, not_or] at hfields
  simp only [commitmentChecks, List.forall_mem_cons, List.not_mem_nil, false_implies,
    implies_true, and_true, decide_eq_false_iff_not, not_not] at hcommitments
  simp only [custodyChecks, List.forall_mem_cons, List.not_mem_nil, false_implies,
    implies_true, and_true, decide_eq_false_iff_not, not_not] at hcustody
  obtain ⟨hworld, hmatter, ⟨hplan, hplanHash⟩, hprojection, ⟨hcapability, hfamily⟩, hrevision,
    hauthor, hrecipients, hday, hformat, hmedia, hstatus, hsynthetic, hrenderer, -⟩ := hfields
  obtain ⟨hcontent, hid, hlineageHash, hlineage⟩ := hcommitments
  exact ⟨hworld, hmatter, hplan, hplanHash, hprojection, hcapability, hfamily, hrevision, hauthor,
    hrecipients, hday, hformat, hmedia, hstatus, Bool.eq_true_of_not_eq_false hsynthetic, hrenderer,
    hassertions, hcontent, hid, hlineageHash, hlineage, hcustody⟩

/-- What is left to check of an artifact that `stage_artifact` makes. -/
theorem stagedOf_passed {body rendererRevision : String} {assertions : List FactAssertion}
    {metadata : List (String × String)} (hrenderer : rendererRevision ≠ "")
    (hlength : 24 ≤ (strip body.toList).length)
    (hplaceholder : ["lorem ipsum", "todo", "placeholder document"].any
      (textContains (lowerText body)) = false)
    (hassertions : canonicalJson (assertionsJson assertions) =
      canonicalJson (assertionsJson projection.allowedAssertions))
    (hmissing : projection.requiredMetadataKeys ⊆ metadata.map (·.1))
    (hkeys : (metadata.map (·.1)).Nodup) (hlineage : validateVersionLineage projection.lineage = []) :
    (validateStagedArtifact (stagedOf projection body assertions metadata rendererRevision)
      projection).passed = true := by
  have hmissing : missingMetadata (stagedOf projection body assertions metadata rendererRevision)
      projection = [] := by
    rw [missingMetadata, List.eq_nil_iff_forall_not_mem]
    intro key hkey
    have hkey := mem_sorted.1 hkey
    simp only [Finset.mem_sdiff, List.mem_toFinset] at hkey
    exact hkey.2 (hmissing hkey.1)
  have hcard : (metadata.map (·.1)).toFinset.card = metadata.length := by
    rw [List.toFinset_card_of_nodup hkeys, List.length_map]
  simp only [validateStagedArtifact, List.isEmpty_iff, List.append_eq_nil_iff, List.map_eq_nil_iff,
    errorsIf_eq_nil, List.forall_mem_append, assertionChecks_pass, hmissing]
  refine ⟨⟨⟨⟨⟨?_, hassertions⟩, ?_⟩, ?_⟩, hlineage⟩, ?_⟩
  · have hlong : ¬ (strip body.toList).length < 24 := not_lt.2 hlength
    simp only [fieldChecks, List.forall_mem_cons, List.not_mem_nil, false_implies, implies_true,
      and_true, decide_eq_false_iff_not, not_not, not_or]
    exact ⟨rfl, rfl, ⟨rfl, rfl⟩, rfl, ⟨rfl, rfl⟩, rfl, rfl, rfl, rfl, rfl, rfl, rfl, Bool.noConfusion,
      hrenderer, hlong, hplaceholder⟩
  · simp
  · simp [commitmentChecks, stagedOf, hcard]
  · simp [custodyChecks, stagedOf]

/-! ## The forms are read back -/

/-- A list of pairs is read off its form. -/
theorem Json.pairs_injective : Function.Injective Json.pairs := by
  intro xs ys h
  have hpair : Function.Injective fun e : String × String => Json.strs [e.1, e.2] := by
    rintro ⟨k, v⟩ ⟨k', v'⟩ h
    simpa [Json.strs] using h
  exact List.map_injective_iff.2 hpair (Json.list.inj h)

/-- Assertions are read off their form. -/
theorem assertionsJson_injective : Function.Injective assertionsJson := fun _ _ h =>
  List.map_injective_iff.2 FactAssertion.toJson_injective (Json.list.inj h)

/-- The content of an artifact is read back from its form. -/
theorem contentForm_inj {body body' : String} {assertions assertions' : List FactAssertion}
    {metadata metadata' : List (String × String)}
    (h : contentForm projection body assertions metadata =
      contentForm projection body' assertions' metadata') :
    body = body' ∧ assertions = assertions' ∧ metadata = metadata' := by
  simpa [contentForm, assertionsJson_injective.eq_iff, Json.pairs_injective.eq_iff] using h

/-- Artifacts of one content differ in the renderer's revision at most. -/
theorem StagedFor.eq_of_content (ha : StagedFor projection a) (hb : StagedFor projection b)
    (hinj : Set.InjOn digest {contentForm projection a.body a.assertions a.metadata,
      contentForm projection b.body b.assertions b.metadata})
    (h : a.claimedContentHash = b.claimedContentHash) :
    a = { b with rendererRevision := a.rendererRevision } := by
  rw [ha.contentHash, hb.contentHash] at h
  obtain ⟨hbody, hassertions, hmetadata⟩ := contentForm_inj (hinj (.inl rfl) (.inr rfl) h)
  have hcontent : a.claimedContentHash = b.claimedContentHash := by
    rw [ha.contentHash, hb.contentHash, h]
  have hid : a.stagedArtifactId = b.stagedArtifactId := by rw [ha.identity, hb.identity, h]
  have hlineage : a.lineage = b.lineage := ha.lineage.trans hb.lineage.symm
  have hlineageHash : a.claimedLineageHash = b.claimedLineageHash := by
    rw [ha.lineageHash, hb.lineageHash, hlineage]
  have hcustody : a.custodyOriginHash = b.custodyOriginHash := by
    rw [ha.custody, hb.custody, hid, hcontent, hmetadata, hlineageHash]
  cases a
  cases b
  simp only [StagedArtifact.mk.injEq, true_and]
  exact ⟨hid, ha.worldNamespace.trans hb.worldNamespace.symm,
    ha.matterNamespace.trans hb.matterNamespace.symm, ha.planId.trans hb.planId.symm,
    ha.planHash.trans hb.planHash.symm,
    ha.rendererProjectionHash.trans hb.rendererProjectionHash.symm,
    ha.capabilityId.trans hb.capabilityId.symm,
    ha.capabilityRevision.trans hb.capabilityRevision.symm, ha.familyId.trans hb.familyId.symm,
    ha.authorId.trans hb.authorId.symm, ha.recipientIds.trans hb.recipientIds.symm,
    ha.createdDay.trans hb.createdDay.symm, hbody, hassertions, hmetadata,
    ha.targetFormat.trans hb.targetFormat.symm,
    ha.renderedMediaType.trans hb.renderedMediaType.symm, hlineage, hcontent, hlineageHash,
    hcustody, ha.canonicalStatus.trans hb.canonicalStatus.symm,
    ha.syntheticOnly.trans hb.syntheticOnly.symm⟩

/-- The forms that the commitments of two artifacts hash. -/
def contentForms (projection : RendererArtifactProjection) (a b : StagedArtifact) : Set Json :=
  {contentForm projection a.body a.assertions a.metadata,
    contentForm projection b.body b.assertions b.metadata}

def identityForms (projection : RendererArtifactProjection) (a b : StagedArtifact) : Set Json :=
  {identityForm projection a.claimedContentHash, identityForm projection b.claimedContentHash}

def custodyForms (a b : StagedArtifact) : Set Json :=
  {custodyForm a.stagedArtifactId a.claimedContentHash a.metadata a.claimedLineageHash,
    custodyForm b.stagedArtifactId b.claimedContentHash b.metadata b.claimedLineageHash}

/-- Artifacts of one identity have one content. -/
theorem StagedFor.content_of_identity (ha : StagedFor projection a) (hb : StagedFor projection b)
    (hinj : Set.InjOn (fun v => firstChars 18 (digest v)) (identityForms projection a b))
    (h : a.stagedArtifactId = b.stagedArtifactId) :
    a.claimedContentHash = b.claimedContentHash := by
  rw [ha.identity, hb.identity, ← ha.contentHash, ← hb.contentHash] at h
  have hforms := hinj (.inl rfl) (.inr rfl) (String.append_right_inj _ |>.1 h)
  simpa [identityForm] using hforms

/-- Artifacts of one custody origin have one content. -/
theorem StagedFor.content_of_custody (ha : StagedFor projection a) (hb : StagedFor projection b)
    (hinj : Set.InjOn digest (custodyForms a b)) (h : a.custodyOriginHash = b.custodyOriginHash) :
    a.claimedContentHash = b.claimedContentHash := by
  rw [ha.custody, hb.custody] at h
  have hforms := hinj (.inl rfl) (.inr rfl) h
  simp only [custodyForm, Json.dict.injEq, List.cons.injEq, Prod.mk.injEq, Json.str.injEq] at hforms
  exact hforms.2.2.1.2

/-- **The identity of a staged artifact determines it, up to the revision of its renderer.** -/
theorem identity_determines (projection : RendererArtifactProjection) (a b : StagedArtifact)
    (ha : (validateStagedArtifact a projection).passed = true)
    (hb : (validateStagedArtifact b projection).passed = true)
    (hcontent : Set.InjOn digest (contentForms projection a b))
    (hidentity : Set.InjOn (fun v => firstChars 18 (digest v)) (identityForms projection a b))
    (hcustody : Set.InjOn digest (custodyForms a b))
    (h : a.stagedArtifactId = b.stagedArtifactId ∨ a.custodyOriginHash = b.custodyOriginHash) :
    a = { b with rendererRevision := a.rendererRevision } := by
  have ha := StagedFor.of_passed ha
  have hb := StagedFor.of_passed hb
  refine ha.eq_of_content hb hcontent ?_
  rcases h with h | h
  · exact ha.content_of_identity hb hidentity h
  · exact ha.content_of_custody hb hcustody h

/-- A projection of an artifact that asserts nothing. -/
def routineProjection : RendererArtifactProjection where
  projectionId := "RPROJ-1"
  planId := "APLAN-1"
  planHash := "0"
  worldNamespace := "WNS-1"
  matterNamespace := "MNS-1"
  capabilityId := "evidence.employment_noise.v1"
  capabilityRevision := "1"
  familyId := "employment_noise"
  channelKind := "irrelevant_record"
  authorId := "hr_witness"
  recipientIds := []
  createdDay := 36
  allowedAssertions := []
  requiredMetadataKeys := []
  simulatedTargetNativeFormat := "application/json"
  personaView := PersonaStateSnapshot.viewOf
    { stateId := "PSTATE-1", worldNamespace := "WNS-1", matterNamespace := "MNS-1"
      actorId := "hr_witness", roleId := "witness", organization := "employer", asOfDay := 36
      revision := 1, syntheticContext := "", trainingContext := "", activeGoals := []
      workingStyle := "", workloadBand := "low", stressBand := "settled", attentionFocus := ""
      memoryMode := [], voiceConstraints := [], channelHabits := [], knowledgeFactIds := []
      knowledgeAssertionIds := [], authorityIds := [], relationshipIds := []
      priorStateHash := none } [] []
  lineage := ⟨"ART-1", "ART-1-V1", 1, none, none, none⟩
  coreRevision := evidenceCoreRevision

/-- A staged artifact of the projection. -/
def routineArtifact (rendererRevision : String) : StagedArtifact :=
  stagedOf routineProjection "A routine administrative note." [] [] rendererRevision

/-- The routine artifact passes, under any revision of the renderer. -/
theorem routineArtifact_passed {rendererRevision : String} (h : rendererRevision ≠ "") :
    (validateStagedArtifact (routineArtifact rendererRevision) routineProjection).passed = true :=
  stagedOf_passed h (by decide) (by decide) rfl (by decide) (by decide) (by decide)

/-- Two revisions of a renderer give two artifacts of one identity and one custody. -/
theorem identity_of_two_renderers :
    ∃ projection a b, (validateStagedArtifact a projection).passed = true ∧
      (validateStagedArtifact b projection).passed = true ∧
      a.stagedArtifactId = b.stagedArtifactId ∧ a.custodyOriginHash = b.custodyOriginHash ∧
      a ≠ b := by
  refine ⟨routineProjection, routineArtifact "renderer-v1", routineArtifact "renderer-v2",
    routineArtifact_passed (by decide), routineArtifact_passed (by decide), rfl, rfl, fun h => ?_⟩
  have hrevision : "renderer-v1" = "renderer-v2" := congrArg StagedArtifact.rendererRevision h
  exact absurd hrevision (by decide)

/-- The routine artifact of two renderer revisions. -/
theorem identity_determines_routine :
    routineArtifact "renderer-v1" =
      { routineArtifact "renderer-v2" with rendererRevision := "renderer-v1" } := by
  have hpair {f : Json → String} (v : Json) : Set.InjOn f {v, v} := by
    rw [Set.pair_eq_singleton]
    exact Set.injOn_singleton f v
  exact identity_determines routineProjection (routineArtifact "renderer-v1")
    (routineArtifact "renderer-v2") (routineArtifact_passed (by decide))
    (routineArtifact_passed (by decide)) (hpair _) (hpair _) (hpair _) (.inl rfl)

end LawFirmDigitalTwin
