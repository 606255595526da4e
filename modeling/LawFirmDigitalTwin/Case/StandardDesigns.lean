import LawFirmDigitalTwin.Case.Separation
import LawFirmDigitalTwin.Spelling

/-!
# The designs of the standard axes

The values that the buckets of the axes choose, and what follows for the facts of a design: no two
claims of one design have the same identity, although identities are truncated digests, so every
author of an artifact can make the assertions that the artifact asks for.
-/

namespace LawFirmDigitalTwin

open Raising

/-! ## The identities of the claims -/

/-- A claim's id is in a list where its digest is. -/
theorem claimId_mem {ids : List String} {factId value domain : String} {occursDay : Int}
    {knownBy : List (String × Int)} {t : Json.Spelling}
    (h : Json.Spells (claimForm factId value occursDay knownBy) t)
    (hids : ids.any (fun id => id.toList == "CLAIM-".toList ++
      (Sha256.runHexdigest (Json.bytesOfChars t.text)).take 18) = true) :
    (claim factId value occursDay domain knownBy).claimId ∈ ids := by
  obtain ⟨id, hid, heq⟩ := List.any_eq_true.1 hids
  have hclaim : (claim factId value occursDay domain knownBy).claimId =
      "CLAIM-" ++ firstChars 18 (digest (claimForm factId value occursDay knownBy)) := rfl
  rw [hclaim, Json.firstChars_eq_of_spells h rfl]
  convert hid
  rw [← String.toList_inj, beq_iff_eq.1 heq, String.toList_append]
  exact congrArg ("CLAIM-".toList ++ ·) String.toList_ofList

/-- The identities that the claims of a design can have, claim by claim. -/
def claimIds : List (List String) :=
  [["CLAIM-153837607037f2e6dc"],
   ["CLAIM-0f0ec7ed4fff431181"],
   ["CLAIM-04d9fc2243743ecfc7"],
   ["CLAIM-2df9b75829a9d91d7a", "CLAIM-1e153a5c98cd16a623", "CLAIM-faa134d7a505ea0ebb",
    "CLAIM-aa753d82d783ea6c6c"],
   ["CLAIM-c3b87a836cdf7dda8c"],
   ["CLAIM-4bcfc1ade5cc7ef06b", "CLAIM-fd229083953a5b44eb", "CLAIM-4f9204f02e433d0bca",
    "CLAIM-d6a99b2332b558b821"],
   ["CLAIM-f08ede6ce047670e11", "CLAIM-7605f143e40bb2e147", "CLAIM-5bacdccabbb648ec27",
    "CLAIM-d861402a0bf71b6296", "CLAIM-d97208cb480e72c9d9"],
   ["CLAIM-7fe33e8386990cc33c"],
   ["CLAIM-44a36848d2fd0bec14"],
   ["CLAIM-bd50657f924e3c9679", "CLAIM-39dc3ffd4e885d6668", "CLAIM-3d78d453a3f7b55f9a",
    "CLAIM-5f19577c8ec5797221"],
   ["CLAIM-50ddd99e4db4975cd9", "CLAIM-4427eacc87a67f8411", "CLAIM-b8e1ddf5a60e28e9d1",
    "CLAIM-7bf261c34144dad4af", "CLAIM-aa2ba9af0186d44511"]]

/-- The values of the merits. -/
def meritsEntries : List (String × String) :=
  [("four_exceptions_verified_with_prior_coaching",
      "documented_operational_exception_after_hr_consult"),
   ("mixed_exceptions_with_disputed_entries", "manager_acted_before_required_hr_consult"),
   ("two_excused_one_disputed_one_unverified",
      "consultation_started_but_final_sequence_is_disputed"),
   ("source_records_incomplete_and_partly_corrupted",
      "sequence_cannot_be_resolved_from_available_records")]

/-- The values of the status. -/
def statusEntries : List (String × String) :=
  [("recommendation_pending_on_day_38", "review_in_progress_on_day_40"),
   ("decision_final_on_day_38", "manager_had_communicated_final_intent_by_day_40"),
   ("decision_final_on_day_38", "no_final_recommendation_received_by_day_40"),
   ("decision_language_appears_final_but_source_is_partial",
      "hr_record_fragment_does_not_resolve_finality"),
   ("decision_language_mixed_with_staffing_discussion", "review_request_remained_open_on_day_40")]

/-- The buckets of the procedural axis. -/
def proceduralBuckets : List String :=
  ["merits_progressing", "curable_defect", "dismissal_without_prejudice",
    "dismissal_with_prejudice", "technical_dispute"]

section
variable {merits status : String × String} {proceduralQuality : String}

/-- The identities do not depend on what else a design holds. -/
theorem claimIds_factsOf (hmerits : merits ∈ meritsEntries) (hstatus : status ∈ statusEntries)
    (hprocedural : proceduralQuality ∈ proceduralBuckets) :
    List.Forall₂ (fun (f : CompiledFact) ids => f.claimId ∈ ids)
      (factsOf merits status proceduralQuality) claimIds := by
  have hattendance : ∀ merits ∈ meritsEntries, (claim "attendance_support" merits.1 35 "attendance"
      ([("billing_specialist", 35), ("hr_witness", 35), ("manager_witness", 35)] ++
        commonKnowledge)).claimId ∈ claimIds[3] := by
    simp only [meritsEntries, List.forall_mem_cons, List.not_mem_nil, false_implies, implies_true,
      and_true]
    refine ⟨?_, ?_, ?_, ?_⟩ <;> exact claimId_mem (by repeat' constructor) (by decide +kernel)
  have hmanager : ∀ status ∈ statusEntries, (claim "decision_status" status.1 38
      "employment_action" ([("manager_witness", 38)] ++ commonKnowledge)).claimId ∈
        claimIds[5] := by
    simp only [statusEntries, List.forall_mem_cons, List.not_mem_nil, false_implies, implies_true,
      and_true]
    refine ⟨?_, ?_, ?_, ?_, ?_⟩ <;> exact claimId_mem (by repeat' constructor) (by decide +kernel)
  have hwitness : ∀ status ∈ statusEntries, (claim "decision_status" status.2 40
      "employment_action" ([("hr_witness", 40)] ++ commonKnowledge)).claimId ∈ claimIds[6] := by
    simp only [statusEntries, List.forall_mem_cons, List.not_mem_nil, false_implies, implies_true,
      and_true]
    refine ⟨?_, ?_, ?_, ?_, ?_⟩ <;> exact claimId_mem (by repeat' constructor) (by decide +kernel)
  have hpolicy : ∀ merits ∈ meritsEntries, (claim "policy_alignment" merits.2 44 "policy"
      ([("manager_witness", 44), ("hr_witness", 44)] ++ commonKnowledge)).claimId ∈
        claimIds[9] := by
    simp only [meritsEntries, List.forall_mem_cons, List.not_mem_nil, false_implies, implies_true,
      and_true]
    refine ⟨?_, ?_, ?_, ?_⟩ <;> exact claimId_mem (by repeat' constructor) (by decide +kernel)
  have hposture : ∀ quality ∈ proceduralBuckets, (claim "procedural_posture" quality 52 "procedure"
      [("responsible_lawyer", 52), ("litigation_paralegal", 52)]).claimId ∈ claimIds[10] := by
    simp only [proceduralBuckets, List.forall_mem_cons, List.not_mem_nil, false_implies,
      implies_true, and_true]
    refine ⟨?_, ?_, ?_, ?_, ?_⟩ <;> exact claimId_mem (by repeat' constructor) (by decide +kernel)
  refine .cons ?_ (.cons ?_ (.cons ?_ (.cons (hattendance _ hmerits) (.cons ?_
    (.cons (hmanager _ hstatus) (.cons (hwitness _ hstatus) (.cons ?_ (.cons ?_
      (.cons (hpolicy _ hmerits) (.cons (hposture _ hprocedural) .nil))))))))))
  all_goals exact claimId_mem (by repeat' constructor) (by decide +kernel)

/-- Elements of lists that have no element in common and none twice. -/
theorem nodup_of_forall₂_mem {α : Type} {xs : List α} {groups : List (List α)}
    (h : List.Forall₂ (· ∈ ·) xs groups) (hnodup : groups.flatten.Nodup) : xs.Nodup := by
  induction h with
  | nil => exact .nil
  | @cons x group xs groups hx hrest ih =>
    rw [List.flatten_cons, List.nodup_append] at hnodup
    refine List.nodup_cons.2 ⟨fun hmem => ?_, ih hnodup.2.1⟩
    have hflat : ∀ y ∈ xs, y ∈ groups.flatten := by
      clear ih hnodup hx hmem
      intro y hy
      induction hrest with
      | nil => exact absurd hy List.not_mem_nil
      | cons hfirst _ ih =>
        rw [List.flatten_cons, List.mem_append]
        rcases List.mem_cons.1 hy with rfl | hy
        · exact .inl hfirst
        · exact .inr (ih hy)
    exact hnodup.2.2 x hx x (hflat x hmem) rfl

/-- **No two claims of a design have one identity.** -/
theorem nodup_claimIds (hmerits : merits ∈ meritsEntries) (hstatus : status ∈ statusEntries)
    (hprocedural : proceduralQuality ∈ proceduralBuckets) :
    ((factsOf merits status proceduralQuality).map (·.claimId)).Nodup :=
  nodup_of_forall₂_mem (List.forall₂_map_left_iff.2 (claimIds_factsOf hmerits hstatus hprocedural))
    (by decide)

/-! ## The assertions -/

/-- Each actor has learned what the artifacts of a design ask of him. -/
theorem factTable_covers (evidenceShape : String) :
    ∀ spec ∈ planSpecsOf evidenceShape, ∀ factId, spec.facts.count factId ≤
      factTable.countP fun f => f.1 = factId ∧ learnedBy f.2 spec.author spec.day := by
  have hasked : ∀ asked ∈ (planSpecsOf "").map fun spec => (spec.author, spec.day, spec.facts),
      ∀ factId ∈ asked.2.2, asked.2.2.count factId ≤
        factTable.countP fun f => f.1 = factId ∧ learnedBy f.2 asked.1 asked.2.1 := by decide
  have hsame : (planSpecsOf evidenceShape).map (fun spec => (spec.author, spec.day, spec.facts)) =
      (planSpecsOf "").map fun spec => (spec.author, spec.day, spec.facts) := rfl
  intro spec hspec factId
  by_cases hmem : factId ∈ spec.facts
  · exact hasked _ (hsame ▸ List.mem_map_of_mem hspec) factId hmem
  · rw [List.count_eq_zero_of_not_mem hmem]
    exact Nat.zero_le _

/-- **The author of an artifact can make its assertions.** -/
theorem assertionsFor_standard (hmerits : merits ∈ meritsEntries) (hstatus : status ∈ statusEntries)
    (hprocedural : proceduralQuality ∈ proceduralBuckets) {evidenceShape : String} {spec : PlanSpec}
    (hspec : spec ∈ planSpecsOf evidenceShape) (worldNamespace matterNamespace : String) :
    ∃ assertions, assertionsFor (factsOf merits status proceduralQuality) worldNamespace
      matterNamespace spec.author spec.day spec.facts = .ok assertions := by
  have hclaims := nodup_claimIds hmerits hstatus hprocedural
  cases hmade : assertionsFor (factsOf merits status proceduralQuality) worldNamespace
      matterNamespace spec.author spec.day spec.facts with
  | ok assertions => exact ⟨assertions, rfl⟩
  | error e =>
    obtain ⟨factId, hfew⟩ := (assertionsLoop_error_iff hclaims).1 ⟨e, hmade⟩
    have hcount : (candidates (factsOf merits status proceduralQuality) spec.author spec.day ∅
        factId).length =
          factTable.countP fun f => f.1 = factId ∧ learnedBy f.2 spec.author spec.day := by
      have hknown := congrArg (List.countP fun f : String × (String → Int → Bool) =>
        decide (f.1 = factId ∧ f.2 spec.author spec.day = true))
          (@knowledge_of_factsOf merits status proceduralQuality)
      rw [List.countP_map, List.countP_map] at hknown
      rw [length_candidates]
      simp only [Finset.notMem_empty, not_false_eq_true, true_and]
      exact hknown
    have hcovers := factTable_covers evidenceShape spec hspec factId
    omega

/-! ## The lines of the artifacts -/

/-- Whether a line holds none of the words that no staged artifact may hold. -/
def lineWholesome (line : String) : Bool :=
  placeholderWords.all fun word => !textContains (lowerText line) word

/-- The words, by the codes of their characters. -/
def placeholderCodes : List (List Nat) :=
  [[108, 111, 114, 101, 109, 32, 105, 112, 115, 117, 109],
   [116, 111, 100, 111],
   [112, 108, 97, 99, 101, 104, 111, 108, 100, 101, 114, 32, 100, 111, 99, 117, 109, 101, 110, 116]]

/-- The codes of the placeholders are those of their letters. -/
theorem placeholderCodes_eq :
    placeholderWords.map (fun word => word.toList.map Char.toNat) = placeholderCodes := by
  decide

/-- The search of a line, on the codes of its characters. -/
def searchLine (line : List Char) : Bool :=
  placeholderCodes.all fun word => !Occurs.found word ((line.flatMap lowerChar).map Char.toNat)

/-- A line in which the search finds nothing is wholesome. -/
theorem lineWholesome_of_search {line : List Char} (h : searchLine line = true) :
    lineWholesome (String.ofList line) = true := by
  refine List.all_eq_true.2 fun word hword => ?_
  have hcodes : word.toList.map Char.toNat ∈ placeholderCodes :=
    placeholderCodes_eq ▸ List.mem_map_of_mem hword
  have hsearch := List.all_eq_true.1 h _ hcodes
  rw [Bool.not_eq_true'] at hsearch ⊢
  refine decide_eq_false fun hfound => ?_
  rw [lowerText, String.toList_ofList, String.toList_ofList] at hfound
  exact Bool.false_ne_true (hsearch.symm.trans (Occurs.found_of_infix (hfound.map Char.toNat)))

/-- The characters of the line that states a fact. -/
def statementChars (factId value : List Char) : List Char :=
  let spaces (cs : List Char) := cs.map fun c => if c = '_' then ' ' else c
  titleChars false (spaces factId) ++ ':' :: ' ' :: (spaces value ++ ['.'])

/-- A statement in which the search finds nothing is wholesome. -/
theorem statement_wholesome {factId value : List Char}
    (h : searchLine (statementChars factId value) = true) :
    lineWholesome (titleText (spaced (String.ofList factId)) ++ ": " ++
      spaced (String.ofList value) ++ ".") = true := by
  have hline : titleText (spaced (String.ofList factId)) ++ ": " ++
      spaced (String.ofList value) ++ "." = String.ofList (statementChars factId value) := by
    rw [← String.toList_inj]
    simp [statementChars, titleText, spaced]
  rw [hline]
  exact lineWholesome_of_search h

/-- What the facts of a design say. -/
def statements : List (String × String) :=
  [("referral_summary", "synthetic_adverse_employment_referral"),
   ("policy_process", "consult_hr_before_discharge_with_documented_exception"),
   ("protected_activity", "employee_reported_wage_and_safety_concerns"),
   ("hr_review_scheduled", "day_39_review_tentative"), ("termination_day", "44"),
   ("stated_reason", "attendance_and_performance")] ++
  meritsEntries.flatMap (fun m => [("attendance_support", m.1), ("policy_alignment", m.2)]) ++
  statusEntries.flatMap (fun s => [("decision_status", s.1), ("decision_status", s.2)]) ++
  proceduralBuckets.map fun quality => ("procedural_posture", quality)

/-- What the facts of a design state is in the table of statements. -/
theorem mem_statements (hmerits : merits ∈ meritsEntries) (hstatus : status ∈ statusEntries)
    (hprocedural : proceduralQuality ∈ proceduralBuckets) :
    ∀ f ∈ factsOf merits status proceduralQuality, (f.factId, f.value) ∈ statements := by
  have hfirst : ("attendance_support", merits.1) ∈ statements :=
    List.mem_append_left _ (List.mem_append_left _ (List.mem_append_right _
      (List.mem_flatMap.2 ⟨merits, hmerits, .head _⟩)))
  have hsecond : ("policy_alignment", merits.2) ∈ statements :=
    List.mem_append_left _ (List.mem_append_left _ (List.mem_append_right _
      (List.mem_flatMap.2 ⟨merits, hmerits, .tail _ (.head _)⟩)))
  have hmanager : ("decision_status", status.1) ∈ statements :=
    List.mem_append_left _ (List.mem_append_right _
      (List.mem_flatMap.2 ⟨status, hstatus, .head _⟩))
  have hwitness : ("decision_status", status.2) ∈ statements :=
    List.mem_append_left _ (List.mem_append_right _
      (List.mem_flatMap.2 ⟨status, hstatus, .tail _ (.head _)⟩))
  have hposture : ("procedural_posture", proceduralQuality) ∈ statements :=
    List.mem_append_right _ (List.mem_map_of_mem hprocedural)
  simp only [factsOf, List.forall_mem_cons, List.not_mem_nil, false_implies, implies_true, and_true]
  refine ⟨?_, ?_, ?_, hfirst, ?_, hmanager, hwitness, ?_, ?_, hsecond, hposture⟩
  all_goals decide

/-- The statements of the table are wholesome. -/
theorem statements_wholesome : ∀ s ∈ statements,
    lineWholesome (titleText (spaced s.1) ++ ": " ++ spaced s.2 ++ ".") = true := by
  simp only [statements, meritsEntries, statusEntries, proceduralBuckets, List.flatMap_cons,
    List.flatMap_nil, List.map_cons, List.map_nil, List.append_nil, List.forall_mem_append,
    List.forall_mem_cons, List.not_mem_nil, false_implies, implies_true, and_true]
  repeat' apply And.intro
  all_goals exact statement_wholesome (by decide +kernel)

/-- The opening of a channel is wholesome. -/
theorem channelOpener_wholesome (channelKind : String) :
    lineWholesome (channelOpener channelKind ++ ".") = true := by
  unfold channelOpener
  split <;> decide +kernel

/-- The closing is wholesome. -/
theorem closing_wholesome : lineWholesome fixtureClosing = true := by
  unfold fixtureClosing
  exact lineWholesome_of_search (by decide +kernel)

/-- The ordinary line is wholesome. -/
theorem ordinary_wholesome : lineWholesome ordinaryLine = true := by
  have happend (as bs : List Char) : String.ofList as ++ String.ofList bs =
      String.ofList (as ++ bs) := String.ofList_append.symm
  unfold ordinaryLine
  exact (happend _ _).symm ▸ lineWholesome_of_search (by decide +kernel)

/-- A line of the author's voice in which the search finds nothing is wholesome. -/
theorem voice_wholesome_of_search {role register : List Char}
    (h : searchLine ("Author role: ".toList ++ role ++ "; register: ".toList ++ register ++ ['.']) =
      true) :
    lineWholesome ("Author role: " ++ String.ofList role ++ "; register: " ++
      String.ofList register ++ ".") = true := by
  have hline : "Author role: " ++ String.ofList role ++ "; register: " ++
      String.ofList register ++ "." = String.ofList ("Author role: ".toList ++ role ++
        "; register: ".toList ++ register ++ ['.']) := by
    rw [← String.toList_inj]
    simp
  rw [hline]
  exact lineWholesome_of_search h

/-- No persona speaks of himself in such words. -/
theorem voice_wholesome : ∀ e ∈ fullPersonaEntries, lineWholesome ("Author role: " ++ e.2.roleId ++
    "; register: " ++ e.2.voice.register ++ ".") = true := by
  simp only [fullPersonaEntries, List.forall_mem_cons, List.not_mem_nil, false_implies,
    implies_true, and_true]
  repeat' apply And.intro
  all_goals exact voice_wholesome_of_search (by decide +kernel)

end

end LawFirmDigitalTwin
