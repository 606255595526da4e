import LawFirmDigitalTwin.PyValue
import LawFirmDigitalTwin.Lib.Raising

/-!
# Persona states

`persona_state.py`: the state of an actor on a day, and the view of it that a renderer is given. A
view is projected from a state for the facts and assertions an artifact may use; the state has to
know them all.
-/

namespace LawFirmDigitalTwin

def personaCoreRevision : String := "persona-state-g2-v1"

def safeCausalPolicy : String :=
  "contextual_influence_only; no dimension determines intelligence, grammar, " ++
    "credibility, competence, protected status, liability, or outcome"

def prohibitedCausalShortcuts : List String :=
  ["mbti_as_cause", "left_right_brain", "education_equals_intelligence", "class_determines_grammar",
   "profession_determines_voice", "protected_attribute_outcome_rule"]

/-- An exception of the contracts: the text of a `ValueError` and what it lists after a colon. A
`KeyError` has its name for a text and lists the key. -/
structure ContractError where
  code : String
  listed : List String := []
  deriving DecidableEq

/-- What `canonical_json` raises for an integer of too many digits. -/
def ContractError.digits : ContractError := ⟨"Exceeds the limit for integer string conversion", []⟩

/-- A digest of the value, of which only that it may raise matters here. -/
def checkWritable (v : Json) : Except ContractError Unit := do
  if ¬ v.writable then throw .digits

/-- The digest of a value that can be written does not raise. -/
@[simp] theorem checkWritable_eq_ok {v : Json} {u : Unit} :
    checkWritable v = .ok u ↔ v.writable = true := by
  unfold checkWritable
  rw [Raising.except_throw_last_eq_ok, not_not]

/-- What a validator reports: an item for each check that fails. -/
def errorsIf {α : Type} (errors : List (Bool × α)) : List α :=
  (errors.filter (·.1)).map (·.2)

/-- Nothing is reported where every check passes. -/
theorem errorsIf_eq_nil {α : Type} {errors : List (Bool × α)} :
    errorsIf errors = [] ↔ ∀ e ∈ errors, e.1 = false := by
  rw [errorsIf, List.map_eq_nil_iff, List.filter_eq_nil_iff]
  exact forall₂_congr fun e _ => by simp

/-- A tuple of pairs of strings. -/
def Json.pairs (items : List (String × String)) : Json :=
  .list (items.map fun e => .strs [e.1, e.2])

/-- An optional string. -/
def Json.optional : Option String → Json
  | none => .null
  | some s => .str s

/-- `persona_state.py` `PersonaStateSnapshot`. -/
structure PersonaStateSnapshot where
  stateId : String
  worldNamespace : String
  matterNamespace : String
  actorId : String
  roleId : String
  organization : String
  asOfDay : Int
  revision : Int
  syntheticContext : String
  trainingContext : String
  activeGoals : List String
  workingStyle : String
  workloadBand : String
  stressBand : String
  attentionFocus : String
  memoryMode : List (String × String)
  voiceConstraints : List (String × String)
  channelHabits : List String
  knowledgeFactIds : List String
  knowledgeAssertionIds : List String
  authorityIds : List String
  relationshipIds : List String
  priorStateHash : Option String
  coreRevision : String := personaCoreRevision
  causalPolicy : String := safeCausalPolicy
  prohibitedShortcuts : List String := prohibitedCausalShortcuts

namespace PersonaStateSnapshot

def toJson (s : PersonaStateSnapshot) : Json :=
  .dict
    [("state_id", .str s.stateId), ("world_namespace", .str s.worldNamespace),
     ("matter_namespace", .str s.matterNamespace), ("actor_id", .str s.actorId),
     ("role_id", .str s.roleId), ("organization", .str s.organization),
     ("as_of_day", .int s.asOfDay), ("revision", .int s.revision),
     ("synthetic_context", .str s.syntheticContext), ("training_context", .str s.trainingContext),
     ("active_goals", .strs s.activeGoals), ("working_style", .str s.workingStyle),
     ("workload_band", .str s.workloadBand), ("stress_band", .str s.stressBand),
     ("attention_focus", .str s.attentionFocus), ("memory_mode", .pairs s.memoryMode),
     ("voice_constraints", .pairs s.voiceConstraints), ("channel_habits", .strs s.channelHabits),
     ("knowledge_fact_ids", .strs s.knowledgeFactIds),
     ("knowledge_assertion_ids", .strs s.knowledgeAssertionIds),
     ("authority_ids", .strs s.authorityIds), ("relationship_ids", .strs s.relationshipIds),
     ("prior_state_hash", .optional s.priorStateHash), ("core_revision", .str s.coreRevision),
     ("causal_policy", .str s.causalPolicy), ("prohibited_shortcuts", .strs s.prohibitedShortcuts)]

/-- `PersonaStateSnapshot.state_hash`. -/
def stateHash (s : PersonaStateSnapshot) : String := digest s.toJson

end PersonaStateSnapshot

/-- `persona_state.py` `RendererPersonaView`. -/
structure RendererPersonaView where
  viewId : String
  worldNamespace : String
  matterNamespace : String
  personaStateId : String
  personaStateHash : String
  actorId : String
  roleId : String
  organization : String
  asOfDay : Int
  syntheticContext : String
  trainingContext : String
  activeGoals : List String
  workingStyle : String
  workloadBand : String
  stressBand : String
  attentionFocus : String
  memoryMode : List (String × String)
  voiceConstraints : List (String × String)
  channelHabits : List String
  allowedFactIds : List String
  allowedAssertionIds : List String
  relationshipIds : List String
  causalPolicy : String
  coreRevision : String
  deriving DecidableEq

namespace RendererPersonaView

def toJson (v : RendererPersonaView) : Json :=
  .dict
    [("view_id", .str v.viewId), ("world_namespace", .str v.worldNamespace),
     ("matter_namespace", .str v.matterNamespace), ("persona_state_id", .str v.personaStateId),
     ("persona_state_hash", .str v.personaStateHash), ("actor_id", .str v.actorId),
     ("role_id", .str v.roleId), ("organization", .str v.organization),
     ("as_of_day", .int v.asOfDay), ("synthetic_context", .str v.syntheticContext),
     ("training_context", .str v.trainingContext), ("active_goals", .strs v.activeGoals),
     ("working_style", .str v.workingStyle), ("workload_band", .str v.workloadBand),
     ("stress_band", .str v.stressBand), ("attention_focus", .str v.attentionFocus),
     ("memory_mode", .pairs v.memoryMode), ("voice_constraints", .pairs v.voiceConstraints),
     ("channel_habits", .strs v.channelHabits), ("allowed_fact_ids", .strs v.allowedFactIds),
     ("allowed_assertion_ids", .strs v.allowedAssertionIds),
     ("relationship_ids", .strs v.relationshipIds), ("causal_policy", .str v.causalPolicy),
     ("core_revision", .str v.coreRevision)]

/-- `RendererPersonaView.view_hash`. -/
def viewHash (v : RendererPersonaView) : String := digest v.toJson

end RendererPersonaView

/-- The view `project_persona_for_renderer` returns for what is requested. -/
def PersonaStateSnapshot.viewOf (s : PersonaStateSnapshot)
    (requested requestedAssertions : List String) : RendererPersonaView where
  viewId := "PVIEW-" ++ firstChars 18 (digest (.dict
    [("state", .str s.stateHash), ("facts", .strs requested),
     ("assertions", .strs requestedAssertions)]))
  worldNamespace := s.worldNamespace
  matterNamespace := s.matterNamespace
  personaStateId := s.stateId
  personaStateHash := s.stateHash
  actorId := s.actorId
  roleId := s.roleId
  organization := s.organization
  asOfDay := s.asOfDay
  syntheticContext := s.syntheticContext
  trainingContext := s.trainingContext
  activeGoals := s.activeGoals
  workingStyle := s.workingStyle
  workloadBand := s.workloadBand
  stressBand := s.stressBand
  attentionFocus := s.attentionFocus
  memoryMode := s.memoryMode
  voiceConstraints := s.voiceConstraints
  channelHabits := s.channelHabits
  allowedFactIds := requested
  allowedAssertionIds := requestedAssertions
  relationshipIds := s.relationshipIds
  causalPolicy := s.causalPolicy
  coreRevision := s.coreRevision

/-- `persona_state.py` `project_persona_for_renderer`. -/
def projectPersonaForRenderer (s : PersonaStateSnapshot)
    (allowedFactIds allowedAssertionIds : List String) :
    Except ContractError RendererPersonaView := do
  let unknown := sorted (allowedFactIds.toFinset \ s.knowledgeFactIds.toFinset)
  if unknown ≠ [] then throw ⟨"knowledge_frontier_violation", unknown⟩
  let unknownAssertions := sorted (allowedAssertionIds.toFinset \ s.knowledgeAssertionIds.toFinset)
  if unknownAssertions ≠ [] then throw ⟨"assertion_grant_violation", unknownAssertions⟩
  return s.viewOf (sorted allowedFactIds.toFinset) (sorted allowedAssertionIds.toFinset)

/-- `persona_state.py` `validate_persona_snapshot`: its errors. -/
def validatePersonaSnapshot (s : PersonaStateSnapshot) : List String :=
  errorsIf
    [(s.worldNamespace = "", "world_namespace_required"),
     (s.matterNamespace = "", "matter_namespace_required"),
     (s.asOfDay < 0, "as_of_day_invalid"),
     (s.revision < 1, "persona_revision_invalid"),
     (s.knowledgeFactIds.length ≠ s.knowledgeFactIds.toFinset.card, "duplicate_knowledge_fact"),
     (s.knowledgeAssertionIds.length ≠ s.knowledgeAssertionIds.toFinset.card,
       "duplicate_knowledge_assertion"),
     (s.relationshipIds.length ≠ s.relationshipIds.toFinset.card, "duplicate_relationship"),
     (s.causalPolicy ≠ safeCausalPolicy, "unsafe_causal_policy"),
     (s.prohibitedShortcuts.toFinset ≠ prohibitedCausalShortcuts.toFinset,
       "prohibited_shortcut_boundary_incomplete"),
     (s.voiceConstraints = [] ∨ s.memoryMode = [], "persona_fidelity_fields_missing"),
     (s.coreRevision ≠ personaCoreRevision, "stale_core_revision")]

/-- An actor's view of a day is projected exactly when the state knows all that is asked for. -/
theorem projectPersonaForRenderer_eq_ok {s : PersonaStateSnapshot} {facts assertions : List String}
    {view : RendererPersonaView} :
    projectPersonaForRenderer s facts assertions = .ok view ↔
      facts ⊆ s.knowledgeFactIds ∧ assertions ⊆ s.knowledgeAssertionIds ∧
        view = s.viewOf (sorted facts.toFinset) (sorted assertions.toFinset) := by
  have hsorted (known asked : List String) :
      sorted (asked.toFinset \ known.toFinset) = [] ↔ asked ⊆ known := by
    rw [List.eq_nil_iff_forall_not_mem]
    exact ⟨fun h a ha => by_contra fun hn => h a (mem_sorted.2 (by simp [ha, hn])),
      fun h a ha => by
        have ha := mem_sorted.1 ha
        simp only [Finset.mem_sdiff, List.mem_toFinset] at ha
        exact ha.2 (h ha.1)⟩
  unfold projectPersonaForRenderer
  rw [Raising.except_throw_if_eq_ok, Raising.except_throw_if_eq_ok, not_not, not_not, hsorted,
    hsorted]
  exact and_congr_right fun _ => and_congr_right fun _ =>
    ⟨fun h => (Except.ok.inj h).symm, fun h => congrArg Except.ok h.symm⟩

end LawFirmDigitalTwin
