import LawFirmDigitalTwin.Campaign.Accepted

/-!
# Who owns which output

The validator compares outputs as they are spelled: two jobs may not have the same text among their
outputs, and no text may start with the controller's directory. A path has many spellings, so in an
accepted manifest the outputs are exclusive exactly when they are spelled alike where they mean the
same.
-/

namespace LawFirmDigitalTwin

namespace Campaign

/-- The outputs of a job that are texts. -/
def outputPaths (item : JsonObject) : List String :=
  match item.getD "outputs" (.list []) with
  | .list items => items.filterMap fun v =>
    match v with
    | .str s => some s
    | _ => none
  | _ => []

/-- The path that an output means: its components between slashes, whichever way these lean. -/
def resolved (output : String) : List (List Char) := pathParts (forwardSlashes output)

/-- An output that means a path in the controller's directory. -/
def UnderController (output : String) : Prop :=
  ∃ part rest, resolved output = pathParts controllerPrefix.toList ++ part :: rest

/-- No two jobs write to one path, and no job writes to the controller's directory. -/
structure Exclusive (data : JsonObject) : Prop where
  apart : (jobs data).Pairwise fun job job' =>
    ∀ a ∈ outputPaths job, ∀ b ∈ outputPaths job', resolved a ≠ resolved b
  outside : ∀ job ∈ jobs data, ∀ a ∈ outputPaths job, ¬ UnderController a

/-- Outputs of two jobs that mean one path are spelled the same way, and outputs in the controller's
directory are spelled with its name in front. -/
structure SpelledAlike (data : JsonObject) : Prop where
  apart : (jobs data).Pairwise fun job job' =>
    ∀ a ∈ outputPaths job, ∀ b ∈ outputPaths job', resolved a = resolved b → a = b
  inside : ∀ job ∈ jobs data, ∀ a ∈ outputPaths job, UnderController a →
    controllerPrefix.toList <+: forwardSlashes a

section
variable {B : Builtins} {item : JsonObject}

/-- What the loop says of an output without an error. -/
structure OwnedOutput (B : Builtins) (item : JsonObject) (owner : PyDict String) (output : Json) :
    Prop where
  outside : startsWith B controllerPrefix output = false
  free : ∀ prior, owner.get? (output.text B) = some prior → prior = "" ∨ prior = jobId B item

/-- An output without errors belongs to its job. -/
theorem ownedOutput_of_outputErrors {owner : PyDict String} {output : Json}
    (h : outputErrors B item owner output = .ok []) : OwnedOutput B item owner output := by
  unfold outputErrors at h
  obtain ⟨allowed, -, h⟩ := Raising.except_bind_eq_ok.1 h
  simp only [Raising.pure_eq_ok, Except.ok.injEq, List.append_eq_nil_iff, errorIf_eq_nil] at h
  obtain ⟨⟨⟨-, -⟩, houtside⟩, hcollision⟩ := h
  refine ⟨houtside, fun prior hprior => ?_⟩
  rw [hprior] at hcollision
  by_contra hother
  simp only [not_or] at hother
  simp [hother.1, hother.2] at hcollision

/-- What the loop over the outputs of a job leaves behind. -/
theorem outputsErrors_eq_nil {owner owner' : PyDict String} {outputs : List Json}
    (h : outputsErrors B item owner outputs = .ok ([], owner')) :
    (∀ output ∈ outputs, OwnedOutput B item owner output) ∧
      (∀ output ∈ outputs, owner'.get? (output.text B) = some (jobId B item)) ∧
      ∀ path, owner'.get? path = some (jobId B item) ∨ owner'.get? path = owner.get? path := by
  induction outputs generalizing owner with
  | nil =>
    cases h
    exact ⟨nofun, nofun, fun _ => .inr rfl⟩
  | cons output outputs ih =>
    obtain ⟨errors, herrors, h⟩ := Raising.except_bind_eq_ok.1 h
    obtain ⟨⟨rest, last⟩, hrest, h⟩ := Raising.except_bind_eq_ok.1 h
    obtain ⟨hnil, rfl⟩ := Prod.mk.inj (Except.ok.inj h)
    obtain ⟨rfl, rfl⟩ := List.append_eq_nil_iff.1 hnil
    have hhead := ownedOutput_of_outputErrors herrors
    obtain ⟨howned, hset, hkept⟩ := ih hrest
    refine ⟨fun o ho => ?_, fun o ho => ?_, fun path => ?_⟩
    · rcases List.mem_cons.1 ho with rfl | ho
      · exact hhead
      · refine ⟨(howned o ho).outside, fun prior hprior => ?_⟩
        by_cases hpath : o.text B = output.text B
        · exact hhead.free prior (hpath ▸ hprior)
        · exact (howned o ho).free prior (by rw [PyDict.get?_set_ne _ _ hpath, hprior])
    · rcases List.mem_cons.1 ho with rfl | ho
      · rcases hkept (o.text B) with h | h
        · exact h
        · rw [h, PyDict.get?_set_self]
      · exact hset o ho
    · rcases hkept path with h | h
      · exact .inl h
      · rw [h, PyDict.get?_set]
        split
        · exact .inl rfl
        · exact .inr rfl

/-- A pass of the loop over the jobs without an error is one of the loop over its outputs. -/
theorem jobErrors_eq_nil {known : List PyKey} {owner owner' : PyDict String}
    (h : jobErrors B known owner item = .ok ([], owner')) :
    ∃ outputs, outputsOf item = some outputs ∧
      outputsErrors B item owner outputs = .ok ([], owner') := by
  obtain ⟨-, -, outputs, houtputs, hloop, -⟩ := jobErrors_parts h
  exact ⟨outputs, houtputs, hloop⟩

/-- The path of a job's output is one of the outputs. -/
theorem mem_outputs_of_mem_paths {outputs : List Json} (h : outputsOf item = some outputs)
    {path : String} (hpath : path ∈ outputPaths item) : Json.str path ∈ outputs := by
  unfold outputsOf at h
  unfold outputPaths at hpath
  split at h
  · cases h
  · next items _ heq =>
    rw [heq] at hpath
    obtain ⟨v, hv, hsome⟩ := List.mem_filterMap.1 hpath
    cases v with
    | str s => exact Option.some.inj h ▸ Option.some.inj hsome ▸ hv
    | null | bool | int | float | list | dict => cases hsome
  · cases h

/-- What the loop over the jobs says of the outputs of jobs with distinct names. -/
theorem jobsErrors_eq_nil {known : List PyKey} {owner : PyDict String} {items : List JsonObject}
    (h : jobsErrors B known owner items = .ok []) (hnodup : (items.map (jobId B)).Nodup)
    (hnonempty : ∀ item ∈ items, jobId B item ≠ "") :
    (∀ item ∈ items, ∀ a ∈ outputPaths item, OwnedOutput B item owner (.str a)) ∧
      items.Pairwise fun item item' =>
        ∀ a ∈ outputPaths item, ∀ b ∈ outputPaths item', a ≠ b := by
  induction items generalizing owner with
  | nil => exact ⟨nofun, .nil⟩
  | cons item items ih =>
    obtain ⟨⟨errors, last⟩, hjob, h⟩ := Raising.except_bind_eq_ok.1 h
    obtain ⟨rest, hrest, h⟩ := Raising.except_bind_eq_ok.1 h
    obtain ⟨rfl, rfl⟩ := List.append_eq_nil_iff.1 (Except.ok.inj h)
    obtain ⟨outputs, houtputs, hloop⟩ := jobErrors_eq_nil hjob
    obtain ⟨howned, hset, hkept⟩ := outputsErrors_eq_nil hloop
    rw [List.map_cons, List.nodup_cons] at hnodup
    obtain ⟨hlater, hpairs⟩ := ih hrest hnodup.2 fun i hi => hnonempty i (.tail _ hi)
    have hother (i : JsonObject) (hi : i ∈ items) : jobId B item ≠ jobId B i :=
      fun he => hnodup.1 (he ▸ List.mem_map_of_mem hi)
    -- what the first job owns at the end of its pass, no later job can own
    have hfree (i : JsonObject) (hi : i ∈ items) (a : String) (ha : a ∈ outputPaths i) :
        last.get? a ≠ some (jobId B item) := by
      intro howner
      rcases (hlater i hi a ha).free _ howner with he | he
      · exact hnonempty item (.head _) he
      · exact hother i hi he
    refine ⟨fun i hi a ha => ?_, List.pairwise_cons.2 ⟨fun i hi a ha b hb he => ?_, hpairs⟩⟩
    · rcases List.mem_cons.1 hi with rfl | hi
      · exact howned _ (mem_outputs_of_mem_paths houtputs ha)
      · refine ⟨(hlater i hi a ha).outside, fun prior hprior => ?_⟩
        have hsame := (hkept a).resolve_left (hfree i hi a ha)
        exact (hlater i hi a ha).free prior (hsame.trans hprior)
    · refine hfree i hi b hb ?_
      rw [← he]
      exact hset _ (mem_outputs_of_mem_paths houtputs ha)

end

section
variable {B : Builtins} {depth : Nat} {data : JsonObject} {ids : List String}

/-- In an accepted manifest no text is an output of two jobs, and none starts with the controller's
directory. -/
theorem Accepts.outputs (h : Accepts B depth data ids) :
    ((jobs data).Pairwise fun job job' =>
      ∀ a ∈ outputPaths job, ∀ b ∈ outputPaths job', a ≠ b) ∧
    ∀ job ∈ jobs data, ∀ a ∈ outputPaths job, ¬ controllerPrefix.toList <+: forwardSlashes a := by
  have hids := jobIds_of_named (B := B) h.named
  have hnonempty : ∀ job ∈ jobs data, jobId B job ≠ "" := by
    intro job hjob he
    exact h.nonempty (he ▸ hids ▸ List.mem_map_of_mem hjob)
  obtain ⟨howned, hapart⟩ := jobsErrors_eq_nil h.clean (hids.symm ▸ h.nodup) hnonempty
  refine ⟨hapart, fun job hjob a ha hstart => ?_⟩
  have houtside := (howned job hjob a ha).outside
  rw [startsWith, Json.text_str, List.isPrefixOf_iff_prefix.2 hstart] at houtside
  cases houtside

/-- **Exclusive outputs.** In an accepted manifest the outputs of different jobs mean different
paths, none of them the controller's, exactly when they are spelled alike where they mean the
same. -/
theorem exclusive_iff_spelledAlike {m : Json} (h : validate B depth m = .ok []) :
    ∃ data, m = .dict data ∧ (Exclusive data ↔ SpelledAlike data) := by
  obtain ⟨data, ids, rfl, haccepts⟩ := accepts_of_validate h
  obtain ⟨hapart, houtside⟩ := haccepts.outputs
  refine ⟨data, rfl, fun hexclusive => ?_, fun hspelled => ?_⟩
  · refine ⟨hexclusive.apart.imp fun hne a ha b hb he => absurd he (hne a ha b hb), ?_⟩
    exact fun job hjob a ha hunder => absurd hunder (hexclusive.outside job hjob a ha)
  · refine ⟨hspelled.apart.imp₂ (fun _ _ hsame hne a ha b hb he => ?_) hapart, ?_⟩
    · exact hne a ha b hb (hsame a ha b hb he)
    · exact fun job hjob a ha hunder => houtside job hjob a ha (hspelled.inside job hjob a ha hunder)

end

/-- An accepted manifest with two spellings of one file. -/
theorem exclusive_iff_spelledAlike_aliased :
    ∃ data, Json.dict aliasedManifest = .dict data ∧ (Exclusive data ↔ SpelledAlike data) :=
  exclusive_iff_spelledAlike validate_aliasedManifest

/-- **Two jobs that write to one file.** Their manifest is accepted. -/
theorem accepted_not_exclusive :
    validate fixtureBuiltins 100 (.dict aliasedManifest) = .ok [] ∧ ¬ Exclusive aliasedManifest := by
  refine ⟨validate_aliasedManifest, fun hexclusive => ?_⟩
  have hjobs : ∃ job job', jobs aliasedManifest = [job, job'] ∧
      "out/a.json" ∈ outputPaths job ∧ "out//a.json" ∈ outputPaths job' :=
    ⟨_, _, rfl, .head _, .head _⟩
  obtain ⟨job, job', hjobs, ha, hb⟩ := hjobs
  have hapart := hexclusive.apart
  rw [hjobs] at hapart
  refine (List.pairwise_cons.1 hapart).1 job' (.head _) _ ha _ hb ?_
  decide

end Campaign

end LawFirmDigitalTwin
