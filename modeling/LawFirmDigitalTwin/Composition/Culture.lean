import LawFirmDigitalTwin.Evidence.Identity

/-!
# Communication culture

`communication_culture.py`: the culture of an organization and the style of a writer, both picked
from fixed catalogs by digests. What reaches a digest that picks is the organization, the actor, the
voice controls, the channel and the presentation scope, so that nothing of the case shows in the
style; for a persistent organization the scope does not reach the culture and the writer either.
-/

namespace LawFirmDigitalTwin

namespace Culture

def coreRevision : String := "communication-culture-g2-v1"

def catalogRevision : String := "communication-presentation-catalog-g2-v1"

def causalPolicy : String :=
  "presentation_only; operational conventions and explicit writer controls " ++
    "never determine facts, intelligence, grammar quality, credibility, " ++
    "competence, protected status, diligence, liability, or outcome"

/-- `PERSISTENT_ORGANIZATION_IDS`. -/
def isPersistent (organization : String) : Bool := organization = "defense_firm"

def recordkeeping : List String := ["field_first", "context_then_fields", "record_then_context"]

def coordination : List String := ["direct_handoff", "threaded_update", "review_followup"]

def review : List String :=
  ["single_pass_visible", "second_pair_of_eyes", "exception_escalation"]

def correction : List String :=
  ["correction_visible", "correction_inline", "correction_reissue"]

/-- `sorted(_CHANNEL_LAYOUTS.items())`. -/
def channelLayouts : List (String × List String) :=
  [("calendar", ["layout_fields_first", "layout_context_first", "layout_record_first"]),
   ("email", ["layout_fields_first", "layout_context_first", "layout_record_first"]),
   ("expert_record", ["layout_record_first", "layout_context_first", "layout_fields_first"]),
   ("hris_record", ["layout_fields_first", "layout_record_first", "layout_context_first"]),
   ("irrelevant_record", ["layout_context_first", "layout_fields_first", "layout_record_first"]),
   ("litigation_record", ["layout_context_first", "layout_record_first", "layout_fields_first"]),
   ("policy_document", ["layout_context_first", "layout_fields_first", "layout_record_first"]),
   ("structured_table", ["layout_record_first", "layout_fields_first", "layout_context_first"])]

def openings : List String :=
  ["opening_direct", "opening_contextual", "opening_formal", "opening_ledger", "opening_service"]

def sentenceGeometries : List String :=
  ["geometry_compact_lines", "geometry_short_paragraph", "geometry_labeled_blocks"]

def connectives : List String :=
  ["connective_minimal", "connective_sequence", "connective_explicit"]

def closings : List String := ["closing_action", "closing_confirmation", "closing_bounded"]

def calibration : List String :=
  ["calibration_inline", "calibration_separate", "calibration_compact"]

def attention : List String :=
  ["attention_event_first", "attention_record_first", "attention_action_first"]

/-- `_PROHIBITED`. -/
def prohibited : List String :=
  sorted (prohibitedCausalShortcuts ++
    ["culture_determines_credibility", "culture_determines_competence",
     "culture_determines_diligence", "culture_determines_liability", "culture_determines_outcome",
     "demographic_dialect_generation", "raw_background_as_style", "training_as_intelligence",
     "role_as_voice", "merits_as_style", "evaluator_as_style"]).toFinset

end Culture

open Culture

/-- `communication_culture.py` `OrganizationCultureProjection`. -/
structure OrganizationCultureProjection where
  cultureId : String
  organizationIdentityCommitment : String
  organizationId : String
  recordkeepingProtocolId : String
  coordinationProtocolId : String
  reviewProtocolId : String
  correctionProtocolId : String
  channelConventions : List (String × String)
  permittedOperationIds : List String
  sourceScopeCommitment : String
  causalPolicy : String := Culture.causalPolicy
  prohibitedInferences : List String := Culture.prohibited
  catalogRevision : String := Culture.catalogRevision
  coreRevision : String := Culture.coreRevision
  deriving DecidableEq

namespace OrganizationCultureProjection

/-- The payload that the id of a culture commits to. -/
def payload (c : OrganizationCultureProjection) : List (String × Json) :=
  [("organization_identity_commitment", .str c.organizationIdentityCommitment),
   ("organization_id", .str c.organizationId),
   ("recordkeeping_protocol_id", .str c.recordkeepingProtocolId),
   ("coordination_protocol_id", .str c.coordinationProtocolId),
   ("review_protocol_id", .str c.reviewProtocolId),
   ("correction_protocol_id", .str c.correctionProtocolId),
   ("channel_conventions", .pairs c.channelConventions),
   ("permitted_operation_ids", .strs c.permittedOperationIds),
   ("source_scope_commitment", .str c.sourceScopeCommitment), ("causal_policy", .str c.causalPolicy),
   ("prohibited_inferences", .strs c.prohibitedInferences),
   ("catalog_revision", .str c.catalogRevision), ("core_revision", .str c.coreRevision)]

/-- `OrganizationCultureProjection.culture_hash`. -/
def cultureHash (c : OrganizationCultureProjection) : String :=
  digest (.dict (("culture_id", .str c.cultureId) :: c.payload))

end OrganizationCultureProjection

/-- `communication_culture.py` `IndividualStyleProjection`. -/
structure IndividualStyleProjection where
  styleId : String
  presentationScopeCommitment : String
  actorId : String
  organizationId : String
  sourcePersonaStateHash : String
  cultureHash : String
  writerPatternId : String
  openingFamilyId : String
  sentenceGeometryId : String
  organizationGeometryId : String
  connectiveId : String
  closingId : String
  calibrationId : String
  attentionId : String
  correctionId : String
  selectedOperationIds : List String
  effectiveVoiceSignature : String
  effectiveGeometrySignature : String
  causalProvenance : List (String × String)
  prohibitedInferences : List String := Culture.prohibited
  catalogRevision : String := Culture.catalogRevision
  coreRevision : String := Culture.coreRevision
  deriving DecidableEq

namespace IndividualStyleProjection

/-- The payload that the id of a style commits to. -/
def payload (s : IndividualStyleProjection) : List (String × Json) :=
  [("presentation_scope_commitment", .str s.presentationScopeCommitment),
   ("actor_id", .str s.actorId), ("organization_id", .str s.organizationId),
   ("source_persona_state_hash", .str s.sourcePersonaStateHash),
   ("culture_hash", .str s.cultureHash), ("writer_pattern_id", .str s.writerPatternId),
   ("opening_family_id", .str s.openingFamilyId),
   ("sentence_geometry_id", .str s.sentenceGeometryId),
   ("organization_geometry_id", .str s.organizationGeometryId),
   ("connective_id", .str s.connectiveId), ("closing_id", .str s.closingId),
   ("calibration_id", .str s.calibrationId), ("attention_id", .str s.attentionId),
   ("correction_id", .str s.correctionId), ("selected_operation_ids", .strs s.selectedOperationIds),
   ("effective_voice_signature", .str s.effectiveVoiceSignature),
   ("effective_geometry_signature", .str s.effectiveGeometrySignature),
   ("causal_provenance", .pairs s.causalProvenance),
   ("prohibited_inferences", .strs s.prohibitedInferences),
   ("catalog_revision", .str s.catalogRevision), ("core_revision", .str s.coreRevision)]

end IndividualStyleProjection

/-- The value of a hexadecimal digit of a digest. -/
def hexDigitValue (c : Char) : Nat := if c.isDigit then c.toNat - 48 else c.toNat - 87

/-- `int(token[offset : offset + 8], 16)`. -/
def tokenNumber (token : String) (offset : Nat) : Nat :=
  ((token.toList.drop offset).take 8).foldl (fun n c => 16 * n + hexDigitValue c) 0

/-- `communication_culture.py` `_select`. -/
def select (options : List String) (token : String) (offset : Nat) : String :=
  options.getD (tokenNumber token offset % options.length) ""

/-- `communication_culture.py` `_unqualified_presentation_scope`. -/
def unqualifiedPresentationScope (projection : RendererArtifactProjection) : String :=
  digest (.dict
    [("actor", .str projection.authorId),
     ("organization", .str projection.personaView.organization),
     ("catalog", .str Culture.catalogRevision), ("boundary", .str "unqualified-test-only")])

/-- The presentation scope that is used where none is given. -/
def presentationScope (projection : RendererArtifactProjection) (scope : Option String) : String :=
  scope.getD (unqualifiedPresentationScope projection)

@[simp] theorem presentationScope_some (projection : RendererArtifactProjection) (scope : String) :
    presentationScope projection (some scope) = scope := rfl

/-- `communication_culture.py` `derive_organization_identity_commitment`. -/
def deriveOrganizationIdentityCommitment (projection : RendererArtifactProjection)
    (presentationScopeCommitment : String) : String :=
  let organization := projection.personaView.organization
  digest (.dict
    ([("organization", .str organization), ("catalog", .str Culture.catalogRevision)] ++
      if isPersistent organization then []
      else [("presentation_scope", .str presentationScopeCommitment)]))

/-- `communication_culture.py` `derive_actor_identity_commitment`. -/
def deriveActorIdentityCommitment (projection : RendererArtifactProjection)
    (presentationScopeCommitment : String) : String :=
  digest (.dict
    [("organization_identity",
        .str (deriveOrganizationIdentityCommitment projection presentationScopeCommitment)),
     ("actor", .str projection.authorId), ("catalog", .str Culture.catalogRevision)])

/-- The culture of an organization, given the commitment to its identity. -/
def cultureOf (organizationIdentity organizationId : String) : OrganizationCultureProjection :=
  let scope : Json := .dict
    [("organization_identity", .str organizationIdentity), ("organization", .str organizationId),
     ("catalog", .str Culture.catalogRevision)]
  let token := digest scope
  let correctionId := select Culture.correction token 24
  let conventions := channelLayouts.map fun channel =>
    (channel.1, select channel.2 (digest (.dict [("scope", scope), ("channel", .str channel.1)])) 0)
  let permitted := sorted (conventions.map (·.2) ++ correctionId ::
    (openings ++ sentenceGeometries ++ connectives ++ closings ++ calibration ++
      attention)).toFinset
  let culture : OrganizationCultureProjection :=
    { cultureId := ""
      organizationIdentityCommitment := organizationIdentity
      organizationId := organizationId
      recordkeepingProtocolId := select Culture.recordkeeping token 0
      coordinationProtocolId := select Culture.coordination token 8
      reviewProtocolId := select Culture.review token 16
      correctionProtocolId := correctionId
      channelConventions := conventions
      permittedOperationIds := permitted
      sourceScopeCommitment := digest scope }
  { culture with cultureId := "CULTURE-" ++ firstChars 18 (digest (.dict culture.payload)) }

/-- `communication_culture.py` `derive_organization_culture`. -/
def deriveOrganizationCulture (projection : RendererArtifactProjection) (scope : Option String) :
    Except ContractError OrganizationCultureProjection := do
  if projection.syntheticOnly = false then throw ⟨"synthetic_boundary_missing", []⟩
  if projection.personaView.organization = "" then throw ⟨"organization_id_missing", []⟩
  if (presentationScope projection scope).length ≠ 64 then
    throw ⟨"presentation_scope_commitment_invalid", []⟩
  return cultureOf
    (deriveOrganizationIdentityCommitment projection (presentationScope projection scope))
    projection.personaView.organization

/-- The voice constraints that control the style. -/
def voiceControls (voiceConstraints : List (String × String)) : List (String × String) :=
  voiceConstraints.filter fun e => e.1 ∈ ["register", "sentence_style", "directness",
    "organization", "revision_habit", "signature"]

/-- `stable_scope`: what picks the traits of a writer. -/
def stableScope (projection : RendererArtifactProjection) (culture : OrganizationCultureProjection)
    (scope : String) : Json :=
  .dict
    [("actor_identity", .str (deriveActorIdentityCommitment projection scope)),
     ("actor", .str projection.authorId), ("organization", .str culture.organizationId),
     ("culture", .str culture.cultureHash),
     ("voice_controls", .pairs (voiceControls projection.personaView.voiceConstraints)),
     ("catalog", .str Culture.catalogRevision)]

/-- `geometry_token`: what picks the geometry of a text. -/
def geometryToken (projection : RendererArtifactProjection) (scope : String) : String :=
  digest (.dict
    [("actor_identity", .str (deriveActorIdentityCommitment projection scope)),
     ("presentation_episode", .str scope), ("channel", .str projection.channelKind),
     ("catalog", .str Culture.catalogRevision)])

/-- The style of a writer under a layout, its id apart. -/
def styleOf (projection : RendererArtifactProjection) (culture : OrganizationCultureProjection)
    (scope layout : String) : IndividualStyleProjection :=
  let stable := stableScope projection culture scope
  let token := digest stable
  let opening := select openings token 0
  let geometry := select sentenceGeometries (geometryToken projection scope) 0
  { styleId := ""
    presentationScopeCommitment := scope
    actorId := projection.authorId
    organizationId := culture.organizationId
    sourcePersonaStateHash := projection.personaView.personaStateHash
    cultureHash := culture.cultureHash
    writerPatternId := "WRITER-" ++ firstChars 18 (digest stable)
    openingFamilyId := opening
    sentenceGeometryId := geometry
    organizationGeometryId := layout
    connectiveId := select connectives token 16
    closingId := select closings token 24
    calibrationId := select Culture.calibration
      (digest (.dict [("stable", stable), ("kind", .str "calibration")])) 0
    attentionId := select Culture.attention
      (digest (.dict [("stable", stable), ("kind", .str "attention")])) 0
    correctionId := culture.correctionProtocolId
    selectedOperationIds := [opening, geometry, layout]
    effectiveVoiceSignature := firstChars 16 (digest (.dict [("opening", .str opening)]))
    effectiveGeometrySignature := firstChars 16 (digest (.dict
      [("channel", .str projection.channelKind), ("sentence_geometry", .str geometry),
       ("layout", .str layout)]))
    causalProvenance :=
      [("culture", culture.cultureHash), ("persona_state", projection.personaView.personaStateHash),
       ("channel_contract_input", projection.capabilityId), ("catalog", Culture.catalogRevision)] }

/-- `communication_culture.py` `derive_individual_style`. -/
def deriveIndividualStyle (projection : RendererArtifactProjection)
    (culture : OrganizationCultureProjection) (scope : Option String) :
    Except ContractError IndividualStyleProjection := do
  let scope := presentationScope projection scope
  if culture.organizationId ≠ projection.personaView.organization then
    throw ⟨"culture_organization_mismatch", []⟩
  let expectedCulture ← deriveOrganizationCulture projection (some scope)
  if culture ≠ expectedCulture then throw ⟨"noncanonical_culture_projection", []⟩
  match (PyDict.ofEntries culture.channelConventions).get? projection.channelKind with
  | none => throw ⟨"KeyError", [projection.channelKind]⟩
  | some layout =>
    let style := styleOf projection culture scope layout
    if ¬ style.selectedOperationIds ⊆ culture.permittedOperationIds then
      throw ⟨"style_operation_not_permitted_by_culture", []⟩
    return { style with styleId := "ISTYLE-" ++ firstChars 18 (digest (.dict style.payload)) }

section
variable {p p' : RendererArtifactProjection} {scope scope' : Option String}
  {culture culture' : OrganizationCultureProjection} {style style' : IndividualStyleProjection}

/-- The culture of a synthetic plan with an organization and a scope. -/
theorem deriveOrganizationCulture_eq_ok :
    deriveOrganizationCulture p scope = .ok culture ↔
      p.syntheticOnly = true ∧ p.personaView.organization ≠ "" ∧
        (presentationScope p scope).length = 64 ∧
        culture = cultureOf (deriveOrganizationIdentityCommitment p (presentationScope p scope))
          p.personaView.organization := by
  unfold deriveOrganizationCulture
  rw [Raising.except_throw_if_eq_ok, Raising.except_throw_if_eq_ok, Raising.except_throw_if_eq_ok,
    Bool.not_eq_false, not_not]
  exact and_congr_right fun _ => and_congr_right fun _ => and_congr_right fun _ =>
    ⟨fun h => (Except.ok.inj h).symm, fun h => congrArg Except.ok h.symm⟩

/-- A style is derived from the organization's own culture, under the layout of its channel. -/
theorem deriveIndividualStyle_eq_ok :
    deriveIndividualStyle p culture scope = .ok style ↔
      deriveOrganizationCulture p (some (presentationScope p scope)) = .ok culture ∧
        ∃ layout, (PyDict.ofEntries culture.channelConventions).get? p.channelKind = some layout ∧
          (styleOf p culture (presentationScope p scope) layout).selectedOperationIds ⊆
            culture.permittedOperationIds ∧
          style = { styleOf p culture (presentationScope p scope) layout with
            styleId := "ISTYLE-" ++ firstChars 18 (digest (.dict
              (styleOf p culture (presentationScope p scope) layout).payload)) } := by
  unfold deriveIndividualStyle
  simp only [Raising.except_throw_if_eq_ok, Raising.except_bind_eq_ok, not_not]
  constructor
  · rintro ⟨-, expected, hexpected, rfl, h⟩
    refine ⟨hexpected, ?_⟩
    split at h
    · cases h
    · next layout hlayout =>
      rw [Raising.except_throw_if_eq_ok, not_not] at h
      exact ⟨layout, hlayout, h.1, (Except.ok.inj h.2).symm⟩
  · rintro ⟨hculture, layout, hlayout, hpermitted, rfl⟩
    have horganization : culture.organizationId = p.personaView.organization := by
      rw [(deriveOrganizationCulture_eq_ok.1 hculture).2.2.2]
      rfl
    refine ⟨horganization, culture, hculture, rfl, ?_⟩
    rw [hlayout]
    dsimp only
    rw [Raising.except_throw_if_eq_ok, not_not]
    exact ⟨hpermitted, rfl⟩

/-- What the style of two texts has in common where they have one writer. -/
structure SameWriter (style style' : IndividualStyleProjection) : Prop where
  writerPatternId : style.writerPatternId = style'.writerPatternId
  openingFamilyId : style.openingFamilyId = style'.openingFamilyId
  connectiveId : style.connectiveId = style'.connectiveId
  closingId : style.closingId = style'.closingId
  calibrationId : style.calibrationId = style'.calibrationId
  attentionId : style.attentionId = style'.attentionId
  correctionId : style.correctionId = style'.correctionId
  effectiveVoiceSignature : style.effectiveVoiceSignature = style'.effectiveVoiceSignature

/-- What the style of two texts has in common where they also share the channel and the scope. -/
structure SameStyle (style style' : IndividualStyleProjection) : Prop
    extends SameWriter style style' where
  sentenceGeometryId : style.sentenceGeometryId = style'.sentenceGeometryId
  organizationGeometryId : style.organizationGeometryId = style'.organizationGeometryId
  selectedOperationIds : style.selectedOperationIds = style'.selectedOperationIds
  effectiveGeometrySignature : style.effectiveGeometrySignature = style'.effectiveGeometrySignature

/-- Two scopes that the identity of an organization does not tell apart. -/
def SameIdentity (organization scope scope' : String) : Prop :=
  scope = scope' ∨ isPersistent organization = true

/-- The organization's identity rests on its name and on the scope's identity. -/
theorem organizationIdentity_congr {s s' : String}
    (horganization : p.personaView.organization = p'.personaView.organization)
    (hscope : SameIdentity p.personaView.organization s s') :
    deriveOrganizationIdentityCommitment p s = deriveOrganizationIdentityCommitment p' s' := by
  unfold deriveOrganizationIdentityCommitment
  dsimp only
  rw [← horganization]
  rcases hscope with rfl | hpersistent
  · rfl
  · rw [if_pos hpersistent, if_pos hpersistent]

/-- The stable scope rests on the author, the organization and the voice. -/
theorem stableScope_congr (c : OrganizationCultureProjection) {s s' : String}
    (hauthor : p.authorId = p'.authorId)
    (horganization : p.personaView.organization = p'.personaView.organization)
    (hvoice : p.personaView.voiceConstraints = p'.personaView.voiceConstraints)
    (hscope : SameIdentity p.personaView.organization s s') :
    stableScope p c s = stableScope p' c s' := by
  unfold stableScope deriveActorIdentityCommitment
  rw [organizationIdentity_congr horganization hscope, hauthor, hvoice]

/-- Plans of one organization and one scope have one culture. -/
theorem culture_congr
    (horganization : p.personaView.organization = p'.personaView.organization)
    (hscope : SameIdentity p.personaView.organization (presentationScope p scope)
      (presentationScope p' scope'))
    (h : deriveOrganizationCulture p scope = .ok culture)
    (h' : deriveOrganizationCulture p' scope' = .ok culture') : culture = culture' := by
  obtain ⟨-, -, -, rfl⟩ := deriveOrganizationCulture_eq_ok.1 h
  obtain ⟨-, -, -, rfl⟩ := deriveOrganizationCulture_eq_ok.1 h'
  rw [organizationIdentity_congr horganization hscope, horganization]

/-- Plans of one author and one voice are of one writer. -/
theorem sameWriter_of_congr (hauthor : p.authorId = p'.authorId)
    (horganization : p.personaView.organization = p'.personaView.organization)
    (hvoice : p.personaView.voiceConstraints = p'.personaView.voiceConstraints)
    (hscope : SameIdentity p.personaView.organization (presentationScope p scope)
      (presentationScope p' scope'))
    (h : deriveIndividualStyle p culture scope = .ok style)
    (h' : deriveIndividualStyle p' culture' scope' = .ok style') : SameWriter style style' := by
  obtain ⟨hculture, layout, -, -, rfl⟩ := deriveIndividualStyle_eq_ok.1 h
  obtain ⟨hculture', layout', -, -, rfl⟩ := deriveIndividualStyle_eq_ok.1 h'
  obtain rfl : culture = culture' := culture_congr horganization hscope hculture hculture'
  have hstable := stableScope_congr culture hauthor horganization hvoice hscope
  constructor <;> simp only [styleOf, hstable]

/-- The geometry rests on the author, the organization and the channel. -/
theorem geometryToken_congr {s s' : String} (hauthor : p.authorId = p'.authorId)
    (horganization : p.personaView.organization = p'.personaView.organization)
    (hchannel : p.channelKind = p'.channelKind) (hscope : s = s') :
    geometryToken p s = geometryToken p' s' := by
  unfold geometryToken deriveActorIdentityCommitment
  rw [organizationIdentity_congr horganization (.inl hscope), hauthor, hchannel, hscope]

/-- The selected operations rest on the author, the voice and the channel. -/
theorem selected_congr (c : OrganizationCultureProjection) (layout : String) {s s' : String}
    (hauthor : p.authorId = p'.authorId)
    (horganization : p.personaView.organization = p'.personaView.organization)
    (hvoice : p.personaView.voiceConstraints = p'.personaView.voiceConstraints)
    (hchannel : p.channelKind = p'.channelKind) (hscope : s = s') :
    (styleOf p c s layout).selectedOperationIds =
      (styleOf p' c s' layout).selectedOperationIds := by
  have hstable := stableScope_congr c hauthor horganization hvoice (.inl hscope)
  have htoken := geometryToken_congr hauthor horganization hchannel hscope
  simp only [styleOf, hstable, htoken]

/-- Plans of one author, voice and channel have one style. -/
theorem sameStyle_of_congr (hauthor : p.authorId = p'.authorId)
    (horganization : p.personaView.organization = p'.personaView.organization)
    (hvoice : p.personaView.voiceConstraints = p'.personaView.voiceConstraints)
    (hchannel : p.channelKind = p'.channelKind)
    (hscope : presentationScope p scope = presentationScope p' scope')
    (h : deriveIndividualStyle p culture scope = .ok style)
    (h' : deriveIndividualStyle p' culture' scope' = .ok style') : SameStyle style style' := by
  have hidentity := Or.inl (b := isPersistent p.personaView.organization = true) hscope
  have hwriter := sameWriter_of_congr hauthor horganization hvoice hidentity h h'
  obtain ⟨hculture, layout, hlayout, -, rfl⟩ := deriveIndividualStyle_eq_ok.1 h
  obtain ⟨hculture', layout', hlayout', -, rfl⟩ := deriveIndividualStyle_eq_ok.1 h'
  obtain rfl : culture = culture' := culture_congr horganization hidentity hculture hculture'
  obtain rfl : layout = layout' := by
    rw [hchannel, hlayout'] at hlayout
    exact (Option.some.inj hlayout).symm
  have htoken := geometryToken_congr hauthor horganization hchannel hscope
  exact { hwriter with
    sentenceGeometryId := by simp only [styleOf, htoken]
    organizationGeometryId := by simp only [styleOf]
    selectedOperationIds := selected_congr culture layout hauthor horganization hvoice hchannel hscope
    effectiveGeometrySignature := by simp only [styleOf, htoken, hchannel] }

/-- Where one of two such texts has a style, the other has one too. -/
theorem style_of_congr (hsynthetic : p.syntheticOnly = p'.syntheticOnly)
    (hauthor : p.authorId = p'.authorId)
    (horganization : p.personaView.organization = p'.personaView.organization)
    (hvoice : p.personaView.voiceConstraints = p'.personaView.voiceConstraints)
    (hchannel : p.channelKind = p'.channelKind)
    (hscope : presentationScope p scope = presentationScope p' scope')
    (h : deriveIndividualStyle p culture scope = .ok style) :
    ∃ style', deriveIndividualStyle p' culture scope' = .ok style' := by
  have hidentity := Or.inl (b := isPersistent p.personaView.organization = true) hscope
  obtain ⟨hculture, layout, hlayout, hpermitted, -⟩ := deriveIndividualStyle_eq_ok.1 h
  obtain ⟨hsynthetic', hnamed, hlength, hown⟩ := deriveOrganizationCulture_eq_ok.1 hculture
  have hculture' : deriveOrganizationCulture p' (some (presentationScope p' scope')) =
      .ok culture := by
    rw [presentationScope_some] at hlength hown
    refine deriveOrganizationCulture_eq_ok.2 ⟨hsynthetic ▸ hsynthetic', horganization ▸ hnamed, ?_, ?_⟩
    · rw [presentationScope_some, ← hscope]
      exact hlength
    · rw [presentationScope_some, hown, organizationIdentity_congr horganization hidentity,
        horganization]
  have hselected := selected_congr culture layout hauthor horganization hvoice hchannel hscope
  refine ⟨_, deriveIndividualStyle_eq_ok.2 ⟨hculture', layout, ?_, ?_, rfl⟩⟩
  · rw [← hchannel]
    exact hlayout
  · rw [← hselected]
    exact hpermitted

end

/-- **The style of a text carries nothing of its case.** -/
theorem style_carries_no_case (p p' : RendererArtifactProjection)
    (hauthor : p.authorId = p'.authorId)
    (horganization : p.personaView.organization = p'.personaView.organization)
    (hvoice : p.personaView.voiceConstraints = p'.personaView.voiceConstraints) :
    (p.channelKind = p'.channelKind → ∀ scope : Option String,
      (∀ culture culture', deriveOrganizationCulture p scope = .ok culture →
        deriveOrganizationCulture p' scope = .ok culture' → culture = culture') ∧
      (∀ culture culture' style style', deriveIndividualStyle p culture scope = .ok style →
        deriveIndividualStyle p' culture' scope = .ok style' → SameStyle style style') ∧
      (p.syntheticOnly = p'.syntheticOnly → ∀ culture,
        (∃ style, deriveIndividualStyle p culture scope = .ok style) ↔
          ∃ style', deriveIndividualStyle p' culture scope = .ok style')) ∧
    (isPersistent p.personaView.organization = true → ∀ scope scope' : Option String,
      (∀ culture culture', deriveOrganizationCulture p scope = .ok culture →
        deriveOrganizationCulture p' scope' = .ok culture' → culture = culture') ∧
      ∀ culture culture' style style', deriveIndividualStyle p culture scope = .ok style →
        deriveIndividualStyle p' culture' scope' = .ok style' → SameWriter style style') := by
  refine ⟨fun hchannel scope => ?_, fun hpersistent scope scope' => ?_⟩
  · have hscope : presentationScope p scope = presentationScope p' scope := by
      unfold presentationScope unqualifiedPresentationScope
      rw [hauthor, horganization]
    refine ⟨fun c c' h h' => culture_congr horganization (.inl hscope) h h',
      fun c c' s s' h h' => sameStyle_of_congr hauthor horganization hvoice hchannel hscope h h',
      fun hsynthetic c => ⟨fun ⟨s, h⟩ => ?_, fun ⟨s, h⟩ => ?_⟩⟩
    · exact style_of_congr hsynthetic hauthor horganization hvoice hchannel hscope h
    · exact style_of_congr hsynthetic.symm hauthor.symm horganization.symm hvoice.symm hchannel.symm
        hscope.symm h
  · exact ⟨fun c c' h h' => culture_congr horganization (.inr hpersistent) h h',
      fun c c' s s' h h' => sameWriter_of_congr hauthor horganization hvoice (.inr hpersistent) h h'⟩

/-- The routine projection in another case. -/
def otherProjection : RendererArtifactProjection :=
  { routineProjection with
    worldNamespace := "WNS-2"
    matterNamespace := "MNS-2"
    createdDay := 40
    recipientIds := ["manager_witness"]
    lineage := ⟨"ART-2", "ART-2-V1", 1, none, none, none⟩ }

/-- A projection for an author of the law firm, which keeps its culture. -/
def firmProjection : RendererArtifactProjection :=
  { routineProjection with
    personaView := { routineProjection.personaView with organization := "defense_firm" } }

/-- The projection of the firm in another case, on another channel. -/
def otherFirmProjection : RendererArtifactProjection :=
  { firmProjection with
    worldNamespace := "WNS-2"
    matterNamespace := "MNS-2"
    channelKind := "email" }

/-- Two cases give one culture: of an employer under one scope, of the firm under two scopes. -/
theorem style_carries_no_case_routine :
    (∃ culture, deriveOrganizationCulture routineProjection none = .ok culture ∧
      deriveOrganizationCulture otherProjection none = .ok culture) ∧
    ∃ culture, deriveOrganizationCulture firmProjection none = .ok culture ∧
      deriveOrganizationCulture otherFirmProjection (some (digest .null)) = .ok culture := by
  have hscope (p : RendererArtifactProjection) : (presentationScope p none).length = 64 :=
    digest_length _
  have hgiven (p : RendererArtifactProjection) :
      (presentationScope p (some (digest .null))).length = 64 := by
    rw [presentationScope_some]
    exact digest_length _
  constructor
  · have h := deriveOrganizationCulture_eq_ok.2
      ⟨rfl, (by decide : routineProjection.personaView.organization ≠ ""), hscope _, rfl⟩
    have h' := deriveOrganizationCulture_eq_ok.2
      ⟨rfl, (by decide : otherProjection.personaView.organization ≠ ""), hscope _, rfl⟩
    have hsame := ((style_carries_no_case routineProjection otherProjection rfl rfl rfl).1 rfl
      none).1 _ _ h h'
    exact ⟨_, h, hsame ▸ h'⟩
  · have h := deriveOrganizationCulture_eq_ok.2
      ⟨rfl, (by decide : firmProjection.personaView.organization ≠ ""), hscope _, rfl⟩
    have h' := deriveOrganizationCulture_eq_ok.2
      ⟨rfl, (by decide : otherFirmProjection.personaView.organization ≠ ""), hgiven _, rfl⟩
    have hpersistent : isPersistent firmProjection.personaView.organization = true := rfl
    have hsame := ((style_carries_no_case firmProjection otherFirmProjection rfl rfl rfl).2
      hpersistent none (some (digest .null))).1 _ _ h h'
    exact ⟨_, h, hsame ▸ h'⟩

end LawFirmDigitalTwin
