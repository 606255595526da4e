import LawFirmDigitalTwin.JsonReading
import LawFirmDigitalTwin.Kernel.Cassette
import LawFirmDigitalTwin.Lib.Related

/-!
# Recorded attempts

A cassette records attempts: a command, and the reason of the denial that is expected of it, if one
is. Commands survive being recorded, provided that the values of their payloads are scalars
(`commandFromRecord_canonicalize`), so that executing the record of attempts that turn out as
expected is running their commands (`executeSerializedCassette_recorded`).
-/

namespace LawFirmDigitalTwin

open Raising

/-- An attempt, as `_build_serialized_cassette` lists it. -/
structure Attempt where
  command : Command
  /-- The reason of the denial that is expected. -/
  denied : Option DenialReason := none

/-- The entry of an attempt. -/
def Attempt.toJson (a : Attempt) : Except PyError Json := do
  let command ← a.command.toJson
  return match a.denied with
    | none => .dict [("expected", .str "accepted"), ("command", command)]
    | some reason =>
      .dict [("expected", .str "denied"), ("reason", .str reason.value), ("command", command)]

/-- The attempt turns out as expected. -/
def Attempt.asExpected (k : Kernel) (s : KernelState) (a : Attempt) : Bool :=
  match k.submit a.command s, a.denied with
  | .ok _ _, none => true
  | .error (.gateError _ _) s', some reason => lastReason s' = reason.value
  | _, _ => false

/-! ## Canonical records -/

/-- What is found under a key of a canonical dictionary is in canonical form. -/
theorem Json.item_canonicalize {entries : List (String × Json)} (hnd : (entries.map (·.1)).Nodup)
    {key : String} {v : Json} (h : (key, v) ∈ entries) :
    (Json.dict entries).canonicalize.item key = .ok v.canonicalize := by
  have hmem : (key, v.canonicalize) ∈
      (Json.canonicalizeEntries entries).insertionSort fun a b => a.1 ≤ b.1 := by
    rw [List.mem_insertionSort, Json.canonicalizeEntries_eq_map]
    exact List.mem_map.2 ⟨_, h, rfl⟩
  have hkeys : (((Json.canonicalizeEntries entries).insertionSort fun a b : String × Json =>
      a.1 ≤ b.1).map (·.1)).Nodup := by
    rw [((List.perm_insertionSort _ _).map _).nodup_iff, Json.canonicalizeEntries_eq_map,
      List.map_map]
    exact hnd
  rw [Json.canonicalize, Json.item, lookup_of_mem hkeys hmem]

/-- A member that is there is found whatever the default is. -/
theorem Json.getD_of_item {v w : Json} {key : String} {default : Json} (h : v.item key = .ok w) :
    v.getD key default = .ok w := by
  cases v with
  | dict entries =>
    unfold Json.item at h
    unfold Json.getD
    dsimp only at h ⊢
    cases hlookup : entries.lookup key with
    | none => rw [hlookup] at h; cases h
    | some u => rw [hlookup] at h; cases h; rfl
  | _ => cases h

/-- A list of texts is canonical. -/
theorem Json.canonicalize_strs (items : List String) :
    (Json.strs items).canonicalize = .strs items := by
  rw [Json.strs, Json.canonicalize, Json.canonicalizeItems_eq_map, List.map_map]
  rfl

/-- A list of texts is read back. -/
theorem Json.texts_strs (items : List String) : (Json.strs items).texts = .ok items := by
  unfold Json.texts Json.strs
  rw [Json.iter, ok_bind, except_mapM_eq_ok, List.forall₂_map_left_iff]
  exact List.forall₂_same.2 fun _ _ => rfl

/-! ## Commands -/

/-- A value that a record holds as it is. -/
def PyValue.IsScalar : PyValue → Prop
  | .object _ => False
  | .int i => writableInt i = true
  | _ => True

instance decidablePredIsScalar : DecidablePred PyValue.IsScalar
  | .object _ => inferInstanceAs (Decidable False)
  | .int i => inferInstanceAs (Decidable (writableInt i = true))
  | .none | .bool _ | .str _ => inferInstanceAs (Decidable True)

/-- Every value of a payload is a scalar. -/
def Command.Plain (c : Command) : Prop := ∀ key v, c.payload.get? key = some v → v.IsScalar

/-- A scalar is written, canonical and read back. -/
theorem PyValue.IsScalar.toJson {v : PyValue} (h : v.IsScalar) (observe : Json → PyObject) :
    ∃ j, v.toJson = .ok j ∧ j.canonicalize = j ∧ j.toPy observe = v := by
  cases v with
  | none => exact ⟨.null, rfl, rfl, rfl⟩
  | bool b => exact ⟨.bool b, rfl, rfl, rfl⟩
  | int i => exact ⟨.int i, rfl, rfl, rfl⟩
  | str s => exact ⟨.str s, rfl, rfl, rfl⟩
  | object o => exact h.elim

/-- A scalar can be written. -/
theorem PyValue.IsScalar.writable {v : PyValue} (h : v.IsScalar) : v.Writable := by
  cases v with
  | none => exact ⟨.null, rfl, rfl⟩
  | bool b => exact ⟨.bool b, rfl, rfl⟩
  | int i => exact ⟨.int i, rfl, h⟩
  | str s => exact ⟨.str s, rfl, rfl⟩
  | object o => exact h.elim

/-- The entries of a dictionary have distinct keys. -/
theorem PyDict.nodup_keys_entries {α : Type} (d : PyDict α) : (d.entries.map (·.1)).Nodup := by
  refine d.nodup_entries.map_on fun x hx y hy hkey => ?_
  have hx := PyDict.mem_entries.1 hx
  rw [hkey, PyDict.mem_entries.1 hy] at hx
  exact Prod.ext hkey (Option.some.inj hx).symm

/-- A dictionary is made again of its entries, in any order. -/
theorem PyDict.ofEntries_of_perm {α : Type} {d : PyDict α} {es : List (String × α)}
    (h : es.Perm d.entries) : PyDict.ofEntries es = d := by
  have hkeys : (es.map (·.1)).Nodup := by
    rw [(h.map _).nodup_iff]
    exact d.nodup_keys_entries
  apply PyDict.ext
  intro key
  refine Option.ext fun v => ?_
  rw [← PyDict.mem_entries (d := d), ← h.mem_iff]
  exact ⟨fun hv => PyDict.mem_of_get?_ofEntries hv, PyDict.get?_ofEntries_of_mem hkeys⟩

section
variable (observe : Json → PyObject)

/-- The entries of a payload of scalars, written and read back. -/
theorem canonicalEntries_scalar {es : List (String × PyValue)} (h : ∀ e ∈ es, e.2.IsScalar) :
    ∃ js, canonicalEntries es = .ok js ∧ Json.canonicalizeEntries js = js ∧
      js.map (fun e => (e.1, e.2.toPy observe)) = es := by
  induction es with
  | nil => exact ⟨[], rfl, rfl, rfl⟩
  | cons e es ih =>
    obtain ⟨js, hjs, hcanonical, hread⟩ := ih fun e he => h e (.tail _ he)
    obtain ⟨j, hj, hsame, hback⟩ := (h e (.head _)).toJson observe
    refine ⟨(e.1, j) :: js, ?_, ?_, ?_⟩
    · rw [canonicalEntries, hj, hjs]
      rfl
    · rw [Json.canonicalizeEntries, hsame, hcanonical]
    · rw [List.map_cons, hread, hback]

/-- **A command of scalars is read back from its record.** -/
theorem commandFromRecord_canonicalize {c : Command} (hc : c.Plain) :
    ∃ record, c.toJson = .ok record ∧ commandFromRecord observe record.canonicalize = .ok c := by
  have hscalar : ∀ e ∈ c.payload.entries, e.2.IsScalar :=
    fun e he => hc e.1 e.2 (PyDict.mem_entries.1 he)
  obtain ⟨js, hjs, hcanonical, hread⟩ := canonicalEntries_scalar observe hscalar
  have htojson : c.toJson = .ok (.dict
      [("command_id", .str c.commandId), ("verb", .str c.verb), ("actor_id", .str c.actorId),
       ("role_id", .str c.roleId), ("matter_id", .str c.matterId), ("payload", .dict js),
       ("requires_authority", .strs c.requiresAuthority),
       ("requires_knowledge", .strs c.requiresKnowledge)]) := by
    unfold Command.toJson PyDict.canonical
    rw [hjs]
    rfl
  refine ⟨_, htojson, ?_⟩
  have hitem := @Json.item_canonicalize
      [("command_id", .str c.commandId), ("verb", .str c.verb), ("actor_id", .str c.actorId),
       ("role_id", .str c.roleId), ("matter_id", .str c.matterId), ("payload", .dict js),
       ("requires_authority", .strs c.requiresAuthority),
       ("requires_knowledge", .strs c.requiresKnowledge)]
    (show ["command_id", "verb", "actor_id", "role_id", "matter_id", "payload",
      "requires_authority", "requires_knowledge"].Nodup by decide)
  unfold commandFromRecord
  rw [textOf_of_item (hitem (v := .str c.commandId) (by simp)),
    textOf_of_item (hitem (v := .str c.verb) (by simp)),
    textOf_of_item (hitem (v := .str c.actorId) (by simp)),
    textOf_of_item (hitem (v := .str c.roleId) (by simp)),
    textOf_of_item (hitem (v := .str c.matterId) (by simp)),
    Json.getD_of_item (hitem (v := .dict js) (by simp)),
    Json.getD_of_item (hitem (v := .strs c.requiresAuthority) (by simp)),
    Json.getD_of_item (hitem (v := .strs c.requiresKnowledge) (by simp))]
  have hpayload : PyDict.ofEntries
      ((js.insertionSort fun a b => a.1 ≤ b.1).map fun e => (e.1, e.2.toPy observe)) =
        c.payload := by
    refine PyDict.ofEntries_of_perm ?_
    rw [← hread]
    exact (List.perm_insertionSort _ _).map _
  simp only [ok_bind, Json.canonicalize_strs, Json.texts_strs, Json.canonicalize, Json.toDict,
    hcanonical, hpayload]
  rfl

/-! ## Attempts -/

/-- What an execution reads of the record of an attempt. -/
structure Attempt.Recorded (a : Attempt) (entry : Json) : Prop where
  command : attemptCommand observe entry = .ok a.command
  expected : entry.textOf observe "expected" =
    .ok (if a.denied = none then "accepted" else "denied")
  reason : ∀ reason, a.denied = some reason → entry.getD "reason" .null = .ok (.str reason.value)

/-- A plain attempt is recorded. -/
theorem Attempt.recorded {a : Attempt} (ha : a.command.Plain) :
    ∃ entry, a.toJson = .ok entry ∧ a.Recorded observe entry.canonicalize := by
  obtain ⟨record, hrecord, hread⟩ := commandFromRecord_canonicalize observe ha
  obtain ⟨command, denied⟩ := a
  cases denied with
  | none =>
    have hitem := @Json.item_canonicalize [("expected", .str "accepted"), ("command", record)]
      (show ["expected", "command"].Nodup by decide)
    refine ⟨_, by rw [Attempt.toJson, hrecord]; rfl, ?_, ?_, nofun⟩
    · rw [attemptCommand, hitem (v := record) (by simp), ok_bind, hread]
    · exact textOf_of_item (hitem (v := .str "accepted") (by simp))
  | some reason =>
    have hitem := @Json.item_canonicalize
      [("expected", .str "denied"), ("reason", .str reason.value), ("command", record)]
      (show ["expected", "reason", "command"].Nodup by decide)
    refine ⟨_, by rw [Attempt.toJson, hrecord]; rfl, ?_, ?_, fun reason' h => ?_⟩
    · rw [attemptCommand, hitem (v := record) (by simp), ok_bind, hread]
    · exact textOf_of_item (hitem (v := .str "denied") (by simp))
    · cases h
      exact Json.getD_of_item (hitem (v := .str reason.value) (by simp))

variable {observe} {k : Kernel} {s : KernelState}

/-- Executing a recorded attempt takes the step of its command. -/
theorem executeAttempt_recorded {a : Attempt} {entry : Json} (hrecord : a.Recorded observe entry)
    (h : a.asExpected k s = true) :
    executeAttempt observe k s entry = .ok (k.step s a.command, a.command) := by
  have hreason := hrecord.reason
  unfold executeAttempt Kernel.step
  rw [hrecord.command, hrecord.expected, ok_bind, ok_bind]
  unfold Attempt.asExpected at h
  generalize k.submit a.command s = r at h
  generalize a.denied = denied at h hreason
  cases r with
  | ok event s' =>
    cases denied with
    | none => rfl
    | some reason => cases h
  | error e s' =>
    cases denied with
    | none => cases e <;> cases h
    | some reason =>
      cases e with
      | gateError text items =>
        dsimp only
        rw [if_neg (not_not.2 (if_neg nofun)), hreason reason rfl, ok_bind]
        dsimp only
        rw [if_neg (not_not.2 (of_decide_eq_true h))]
        rfl
      | _ => cases h

/-- An attempt that ends alike on two kernels turns out as expected on both. -/
theorem asExpected_of_related {k' : Kernel} {s' : KernelState} {a a' : Attempt}
    {R : KernelState → KernelState → Prop} {V : Event → Event → Prop}
    (hsubmit : ResultRel R V (k.submit a.command s) (k'.submit a'.command s'))
    (hdenials : ∀ t t', R t t' → t'.denials = t.denials) (hdenied : a'.denied = a.denied) :
    a'.asExpected k' s' = a.asExpected k s := by
  unfold Attempt.asExpected
  rw [hdenied]
  generalize k.submit a.command s = r at hsubmit
  generalize k'.submit a'.command s' = r' at hsubmit
  cases hsubmit with
  | ok _ _ => cases a.denied <;> rfl
  | @error e t t' hR =>
    have hlast : lastReason t' = lastReason t := by
      unfold lastReason
      rw [hdenials _ _ hR]
    cases a.denied with
    | none => cases e <;> rfl
    | some reason =>
      cases e with
      | gateError text items =>
        dsimp only
        rw [hlast]
      | _ => rfl

/-- The attempts turn out as expected, one after the other. -/
def allAsExpected (k : Kernel) : KernelState → List Attempt → Bool
  | _, [] => true
  | s, a :: rest => a.asExpected k s && allAsExpected k (k.step s a.command) rest

/-- **Executing the record of attempts that turn out as expected is running their commands.** -/
theorem executeAttempts_recorded {as : List Attempt} {entries : List Json}
    (hrecord : List.Forall₂ (Attempt.Recorded observe) as entries)
    (h : allAsExpected k s as = true) (attempted : List Command) :
    executeAttempts observe k entries s attempted =
      .ok (Machine.run k.step s (as.map (·.command)), attempted ++ as.map (·.command)) := by
  induction hrecord generalizing s attempted with
  | nil => simp [executeAttempts]
  | cons hfirst _ ih =>
    rw [allAsExpected, Bool.and_eq_true] at h
    rw [executeAttempts, executeAttempt_recorded hfirst h.1, ok_bind]
    dsimp only
    rw [ih h.2, List.append_assoc]
    rfl

/-- Related kernels answer related attempts as expected, or both do not. -/
theorem allAsExpected_of_related {k' : Kernel} {s' : KernelState}
    {R : KernelState → KernelState → Prop} {V : Event → Event → Prop}
    {Q : Command → Command → Prop}
    (hsubmit : ∀ c c', Q c c' → Related R V (k.submit c) (k'.submit c'))
    (hdenials : ∀ t t', R t t' → t'.denials = t.denials) (hR : R s s') {as as' : List Attempt}
    (h : List.Forall₂ (fun a a' => Q a.command a'.command ∧ a'.denied = a.denied) as as') :
    allAsExpected k' s' as' = allAsExpected k s as := by
  induction h generalizing s s' with
  | nil => rfl
  | @cons a a' as as' ha _ ih =>
    have hrel := hsubmit _ _ ha.1 s s' hR
    rw [allAsExpected, allAsExpected, asExpected_of_related hrel hdenials ha.2]
    exact congrArg _ (ih hrel.final)

end

end LawFirmDigitalTwin
