import LawFirmDigitalTwin.Lib.JsonDepth
import LawFirmDigitalTwin.Schedule.RouteBlind

/-!
# What the building of a manifest raises

`build_g2_schedule_manifest` on any text. The checks of the attempts and of the manifest raise a
`ValueError`, and the lookups of the tables find what they look for; what escapes is the missing
attribute of a cassette that is no object, and the recursion limit, in the reading of the text or in
the digest of the cassette (`build_failsClosed_iff`).
-/

namespace LawFirmDigitalTwin

open JsonText

section
variable (str : Value → List Nat) (H : Host) (serializedCassette : String)

/-- The cassette whose digest is taken: its revision and its attempts passed their checks. -/
def digestedCassette : Option Value :=
  match loads H serializedCassette.toList with
  | .ok (.dict cassette) =>
    match memberOr cassette "revision" .null, memberOr cassette "attempts" .null with
    | .str revision, .list (_ :: _) =>
      if revision = codes "g2_attempt_cassette_v2" then some (.dict cassette) else none
    | _, _ => none
  | _ => none

/-- `build_g2_schedule_manifest` with the default resources, in an interpreter that lets the reader
open `maxDepth` containers in each other and takes digests of values up to a depth of
`digestDepth`. The texts that `str` is asked for are of parts of what was digested. -/
def buildWithin (maxDepth digestDepth : Nat) (maxWaitTicks maxFinishTick : Int) :
    Except (Raised BuildError) SimulationScheduleManifest :=
  if Overruns H maxDepth serializedCassette.toList ∨
      (digestedCassette H serializedCassette).any fun v => digestDepth < v.depth then
    .error .recursionError
  else (buildG2ScheduleManifest str H serializedCassette none maxWaitTicks maxFinishTick).mapError
    .error

/-- The proposal of an attempt, at its place. -/
structure IsProposalOf (attempt : Value) (ordinal : Nat) (p : ScheduledCommandProposal) : Prop where
  skeleton : p.skeleton = skeletonOf str attempt ordinal
  command : p.commandCommitment = digestValue (.dict (commandOf attempt))

/-- A valid manifest whose proposals are those of the attempts in their order, or a `ValueError`. -/
def FailsClosed : Except (Raised BuildError) SimulationScheduleManifest → Prop
  | .ok m => validateScheduleManifest m = [] ∧
    List.Forall₂ (fun e p => IsProposalOf str e.1 e.2 p) ((attemptsOf H serializedCassette).zipIdx 1)
      m.proposals
  | .error (.error (.valueError _)) => True
  | .error (.error (.manifestInvalid _)) => True
  | .error _ => False

/-- What the building needs of a text: it can be read and digested, and if it is JSON it is an
object. -/
structure Buildable (maxDepth digestDepth : Nat) : Prop where
  read : ¬ Overruns H maxDepth serializedCassette.toList
  digested : ∀ v ∈ digestedCassette H serializedCassette, v.depth ≤ digestDepth
  object : ∀ v, loads H serializedCassette.toList = .ok v → ∃ members, v = .dict members

end

/-! ## The lookups -/

/-- A name that the table gives is the second half of one of its rows. -/
theorem tableGet_mem {table : List (String × String)} {key : List Nat}
    (h : tableGet table key ≠ "") : ∃ e ∈ table, tableGet table key = e.2 := by
  unfold tableGet at h ⊢
  cases hfind : table.find? fun e => codes e.1 = key with
  | none => rw [hfind] at h; exact absurd rfl h
  | some e => exact ⟨e, List.mem_of_find?_eq_some hfind, by rw [Option.map_some, Option.getD_some]⟩

/-- Every scheduling class of the table has its service ticks. -/
theorem serviceTicks_of_class : ∀ e ∈ ("", "boundary_probe_work") :: verbSchedulingClass,
    (serviceTicksOf.lookup e.2).isSome = true := by decide

section
variable {str : Value → List Nat}

/-- A `ValueError`. -/
def IsValueError : BuildError → Prop
  | .valueError _ | .manifestInvalid _ => True
  | _ => False

/-- Reading an attempt raises a value error or nothing. -/
theorem isValueError_rawRow {attempt : Value} {e : BuildError}
    (h : rawRow str attempt = .error e) : IsValueError e := by
  unfold rawRow at h
  split at h
  · split at h
    · split at h
      · cases h; trivial
      split at h
      · cases h; trivial
      · cases h
    · cases h; trivial
  · cases h; trivial

/-- The lookup of the service ticks finds them. -/
theorem isValueError_proposalOf {source matter : String} {row : RawRow} {ordinal : Nat}
    {e : BuildError} (h : proposalOf str source matter row ordinal = .error e) :
    IsValueError e := by
  have hticks {c : String} (hclass : (if memberText str row.entry "expected" = codes "denied" then
      "boundary_probe_work" else tableGet verbSchedulingClass (memberText str row.command "verb")) =
        c) (hc : c ≠ "") : serviceTicksOf.lookup c ≠ none := by
    rw [← hclass] at hc ⊢
    refine Option.ne_none_iff_isSome.2 ?_
    by_cases hdenied : memberText str row.entry "expected" = codes "denied"
    · rw [if_pos hdenied]
      exact serviceTicks_of_class _ (.head _)
    · rw [if_neg hdenied] at hc ⊢
      obtain ⟨entry, hentry, heq⟩ := tableGet_mem hc
      rw [heq]
      exact serviceTicks_of_class _ (List.mem_cons_of_mem _ hentry)
  unfold proposalOf at h
  dsimp only at h
  generalize hclass : (if memberText str row.entry "expected" = codes "denied" then
    "boundary_probe_work" else tableGet verbSchedulingClass (memberText str row.command "verb")) = c
    at h
  split at h
  · cases h; trivial
  next hmapped =>
  split at h
  · next hlookup => exact absurd hlookup (hticks hclass (not_or.1 hmapped).1)
  · cases h

/-- What a cassette that is an object raises. -/
theorem isValueError_buildFromCassette {cassette : Members}
    {resources : Option (List SchedulerResourceSpec)} {maxWaitTicks maxFinishTick : Int}
    {e : BuildError}
    (h : buildFromCassette str cassette resources maxWaitTicks maxFinishTick = .error e) :
    IsValueError e := by
  unfold buildFromCassette at h
  split at h
  · split at h
    · cases h; trivial
    split at h
    · cases h; trivial
    · next attempts _ _ =>
      cases hrows : attempts.mapM (rawRow str) with
      | error e' =>
        rw [hrows, Raising.error_bind] at h
        cases h
        obtain ⟨attempt, -, hattempt⟩ := Raising.except_mapM_eq_error hrows
        exact isValueError_rawRow hattempt
      | ok rows =>
        rw [hrows, Raising.ok_bind] at h
        split at h
        · next matterId _ =>
          dsimp only at h
          cases hproposals : (rows.zipIdx 1).mapM (fun e => proposalOf str
              (digestValue (.dict cassette)) (matterCommitmentOf matterId) e.1 e.2) with
          | error e' =>
            rw [hproposals, Raising.error_bind] at h
            cases h
            obtain ⟨row, -, hrow⟩ := Raising.except_mapM_eq_error hproposals
            exact isValueError_proposalOf hrow
          | ok proposals =>
            rw [hproposals, Raising.ok_bind] at h
            split at h
            · cases h
            · cases h; trivial
        · cases h; trivial
    · cases h; trivial
  · cases h; trivial

/-- A text that is refused is refused with a `ValueError`, unless it is JSON but no object. -/
theorem isValueError_iff_object {H : Host} {serializedCassette : String}
    {resources : Option (List SchedulerResourceSpec)} {maxWaitTicks maxFinishTick : Int}
    {e : BuildError}
    (h : buildG2ScheduleManifest str H serializedCassette resources maxWaitTicks maxFinishTick =
      .error e) :
    IsValueError e ↔
      ∀ v, loads H serializedCassette.toList = .ok v → ∃ members, v = .dict members := by
  unfold buildG2ScheduleManifest at h
  cases hloads : loads H serializedCassette.toList with
  | error e' =>
    rw [hloads] at h
    cases e' <;> cases h <;> exact iff_of_true trivial fun _ hv => by cases hv
  | ok v =>
    rw [hloads] at h
    cases v with
    | dict cassette =>
      exact iff_of_true (isValueError_buildFromCassette h) fun _ hv => ⟨cassette, by cases hv; rfl⟩
    | _ =>
      cases h
      refine iff_of_false id fun hobject => ?_
      obtain ⟨_, hdict⟩ := hobject _ rfl
      cases hdict

/-! ## The proposals -/

/-- The command of a proposal is committed to by its digest. -/
theorem commandCommitment_of_proposalOf {source matter : String} {row : RawRow} {ordinal : Nat}
    {p : ScheduledCommandProposal} (h : proposalOf str source matter row ordinal = .ok p) :
    p.commandCommitment = digestValue (.dict row.command) := by
  unfold proposalOf at h
  dsimp only at h
  generalize (if memberText str row.entry "expected" = codes "denied" then
    "boundary_probe_work" else tableGet verbSchedulingClass (memberText str row.command "verb")) = c
    at h
  split at h
  · cases h
  split at h
  · cases h
  · cases h
    rfl

/-- The proposals of rows are those of the attempts, in their order. -/
theorem isProposalOf_rows {source matter : String} {attempts : List Value} {rows : List RawRow}
    {proposals : List ScheduledCommandProposal} {start : Nat}
    (hrows : List.Forall₂ (fun attempt row => rawRow str attempt = .ok row) attempts rows)
    (hproposals : List.Forall₂ (fun e p => proposalOf str source matter e.1 e.2 = .ok p)
      (rows.zipIdx start) proposals) :
    List.Forall₂ (fun e p => IsProposalOf str e.1 e.2 p) (attempts.zipIdx start) proposals := by
  induction hrows generalizing start proposals with
  | nil =>
    rw [List.zipIdx_nil] at hproposals ⊢
    cases hproposals
    exact .nil
  | cons hrow _ ih =>
    rw [List.zipIdx_cons] at hproposals ⊢
    cases hproposals with
    | cons hproposal hrest =>
      refine .cons ⟨skeleton_of_proposalOf hrow hproposal, ?_⟩ (ih hrest)
      rw [← (rawRow_eq_ok hrow).2.1]
      exact commandCommitment_of_proposalOf hproposal

/-- **The building fails closed exactly where its text can be read and digested, and is an object if
it is JSON.** -/
theorem build_failsClosed_iff (H : Host) (serializedCassette : String) (maxDepth digestDepth : Nat)
    (maxWaitTicks maxFinishTick : Int) :
    FailsClosed str H serializedCassette
        (buildWithin str H serializedCassette maxDepth digestDepth maxWaitTicks maxFinishTick) ↔
      Buildable H serializedCassette maxDepth digestDepth := by
  unfold buildWithin
  by_cases hover : Overruns H maxDepth serializedCassette.toList ∨
      (digestedCassette H serializedCassette).any fun v => digestDepth < v.depth
  · rw [if_pos hover]
    refine iff_of_false id fun hbuildable => ?_
    rcases hover with hover | hover
    · exact hbuildable.read hover
    · obtain ⟨v, hv, hdeep⟩ := (Option.any_eq_true ..).1 hover
      exact absurd (hbuildable.digested v hv) (not_le.2 (of_decide_eq_true hdeep))
  rw [if_neg hover]
  have hread := (not_or.1 hover).1
  have hdigested : ∀ v ∈ digestedCassette H serializedCassette, v.depth ≤ digestDepth := by
    intro v hv
    by_contra hdeep
    exact hover (.inr ((Option.any_eq_true ..).2 ⟨v, hv, decide_eq_true (not_le.1 hdeep)⟩))
  cases hbuild : buildG2ScheduleManifest str H serializedCassette none maxWaitTicks maxFinishTick with
  | ok m =>
    obtain ⟨hvalid, -, -, -, rows, source, matter, hrows, hproposals⟩ := built_of_ok hbuild
    refine iff_of_true ⟨hvalid, isProposalOf_rows hrows hproposals⟩ ⟨hread, hdigested, ?_⟩
    intro v hv
    unfold buildG2ScheduleManifest at hbuild
    rw [hv] at hbuild
    cases v with
    | dict members => exact ⟨members, rfl⟩
    | _ => cases hbuild
  | error e =>
    have hvalue := isValueError_iff_object hbuild
    have hclosed : FailsClosed str H serializedCassette (.error (.error e)) ↔ IsValueError e := by
      cases e <;> exact Iff.rfl
    rw [Except.mapError, hclosed, hvalue]
    exact ⟨fun hobject => ⟨hread, hdigested, hobject⟩, fun hbuildable => hbuildable.object⟩

end

/-- A list is no cassette: it has no `get`. -/
theorem build_list_escapes :
    buildWithin (fun _ => []) ⟨id, 4300⟩ "[]" 900 450 100 1000 = .error (.error .attributeError) ∧
      ¬ FailsClosed (fun _ => []) ⟨id, 4300⟩ "[]"
        (buildWithin (fun _ => []) ⟨id, 4300⟩ "[]" 900 450 100 1000) := by
  have htext : "[]".toList = ['[', ']'] := rfl
  have hloads : loads ⟨id, 4300⟩ "[]".toList = .ok (.list []) := by rw [htext]; rfl
  have hread : ¬ Overruns ⟨id, 4300⟩ 900 "[]".toList := by rw [htext]; decide
  have hbuild : buildWithin (fun _ => []) ⟨id, 4300⟩ "[]" 900 450 100 1000 =
      .error (.error .attributeError) := by
    have hnone : digestedCassette ⟨id, 4300⟩ "[]" = none := by rw [digestedCassette, hloads]
    have hcond : ¬ (Overruns ⟨id, 4300⟩ 900 "[]".toList ∨
        (digestedCassette ⟨id, 4300⟩ "[]").any fun v => 450 < v.depth) := by
      rw [hnone]
      exact not_or.2 ⟨hread, Bool.false_ne_true⟩
    rw [buildWithin, if_neg hcond, buildG2ScheduleManifest, hloads]
    rfl
  exact ⟨hbuild, by rw [hbuild]; exact id⟩

end LawFirmDigitalTwin
