import LawFirmDigitalTwin.DesignC.Registry
import LawFirmDigitalTwin.PyPath

/-!
# The Design C job manifest

`validate_design_c_job_manifest` of `design_c_validator.py`. An output path that it accepts is not
absolute and takes no step to the parent, by the rules of POSIX and by those of Windows. On POSIX it
stays inside the repository; on Windows a path that has a drive and no root, or a root and no drive,
is not absolute either, and leaves it (`output_paths_contained_iff`).
-/

namespace LawFirmDigitalTwin

namespace DesignC

open PyPath

/-- `DESIGN_C_CONTRACT_REVISION`. -/
def designCContractRevision : String := "design-c-contract-library-v1"

/-- `REQUIRED_STOPS`. -/
def requiredStops : List String :=
  ["canary_leak", "replay_mismatch", "stale_dependency", "authority_boundary", "budget_exhausted",
    "unresolved_human_gate"]

/-- `JobBudget`. -/
structure JobBudget where
  maxAttempts : Int
  maxRepairs : Int
  maxWallSeconds : Int
  maxCostUnits : Int
  maxOutputBytes : Int

/-- `DesignCJobManifest`: the fields that its validator reads. -/
structure DesignCJobManifest where
  contractRevision : String
  objective : String
  nonGoals : List String
  inputCommitments : List (String × String)
  dependencyHashes : List (String × String)
  outputPaths : List String
  writeOwner : String
  checkerId : String
  idempotencyKey : String
  checkpointPath : String
  budget : JobBudget
  stopConditions : List String
  externalEffects : Bool := false
  canonicalTruthWrite : Bool := false
  humanGateAutoAdvance : Bool := false
  unattendedExecutionAuthorized : Bool := false

/-- Whether DCJ-006 denies an output path. -/
def outputDenied (path : String) : Bool :=
  posixAbsolute (posixPath path.toList) ∨ windowsAbsolute (windowsPath path.toList) ∨
    ['.', '.'] ∈ (posixPath path.toList).parts ∨ ['.', '.'] ∈ (windowsPath path.toList).parts

/-- `validate_design_c_job_manifest`. -/
def validateDesignCJobManifest (manifest : DesignCJobManifest) : List String :=
  errorIf (manifest.contractRevision ≠ designCContractRevision)
    "DCJ-001:contract_revision_invalid" ++
  errorIf (manifest.objective = "" ∨ manifest.nonGoals = []) "DCJ-002:scope_invalid" ++
  errorIf (manifest.writeOwner = manifest.checkerId) "DCJ-003:self_checking_job" ++
  errorIf (manifest.inputCommitments = [] ∨
      manifest.inputCommitments.any fun entry => entry.2.length ≠ 64)
    "DCJ-004:input_commitment_invalid" ++
  errorIf (manifest.dependencyHashes.any fun entry => entry.2.length ≠ 64)
    "DCJ-005:dependency_hash_invalid" ++
  errorIf (manifest.outputPaths = [] ∨ manifest.outputPaths.any outputDenied)
    "DCJ-006:output_scope_invalid" ++
  errorIf (manifest.idempotencyKey = "" ∨ manifest.checkpointPath = "")
    "DCJ-007:recovery_identity_missing" ++
  errorIf (manifest.budget.maxAttempts ≤ 0 ∨ manifest.budget.maxRepairs ≠ 1 ∨
      manifest.budget.maxWallSeconds ≤ 0 ∨ manifest.budget.maxCostUnits < 0 ∨
      manifest.budget.maxOutputBytes ≤ 0) "DCJ-008:budget_invalid" ++
  errorIf (¬ requiredStops ⊆ manifest.stopConditions) "DCJ-009:mandatory_stop_missing" ++
  errorIf (manifest.externalEffects ∨ manifest.canonicalTruthWrite ∨
      manifest.humanGateAutoAdvance ∨ manifest.unattendedExecutionAuthorized)
    "DCJ-010:authority_boundary_invalid"

/-! ## Where output paths lead -/

/-- Joined to any repository root, by the rules of POSIX and by those of Windows, the path stays
inside the root. -/
def Contained (path : String) : Prop :=
  (∀ root, posixAbsolute (posixPath root) →
    (posixPath root).Inside ((posixPath root).join (posixPath path.toList))) ∧
  ∀ root, windowsAbsolute (windowsPath root) →
    (windowsPath root).Inside ((windowsPath root).join (windowsPath path.toList))

/-- The path has neither a drive nor a root by the rules of Windows. -/
def Unanchored (path : String) : Prop :=
  (windowsPath path.toList).drive = [] ∧ (windowsPath path.toList).root = []

section
variable {manifest : DesignCJobManifest}

/-- What no DCJ-006 says of the output paths. -/
theorem outputDenied_of_notMem
    (h : "DCJ-006:output_scope_invalid" ∉ validateDesignCJobManifest manifest) :
    ∀ path ∈ manifest.outputPaths, outputDenied path = false := by
  simp only [validateDesignCJobManifest, List.mem_append, mem_errorIf, not_or, not_and] at h
  intro path hpath
  by_contra hdenied
  refine h.1.1.1.1.2 (decide_eq_true (.inr (List.any_eq_true.2 ⟨path, hpath, ?_⟩))) trivial
  exact Bool.eq_true_of_not_eq_false hdenied

/-- **An accepted path is contained exactly when Windows sees neither drive nor root in it.** -/
theorem contained_iff {path : String} (h : outputDenied path = false) :
    Contained path ↔ Unanchored path := by
  simp only [outputDenied, decide_eq_false_iff_not, not_or, PurePath.parts, List.mem_append] at h
  obtain ⟨hposix, hwindows, ⟨-, hdots⟩, -, hdots'⟩ := h
  constructor
  · rintro ⟨-, hcontained⟩
    by_contra hanchored
    obtain ⟨base, hbase, hleft⟩ := exists_not_inside hanchored hwindows hdots'
    exact hleft (hcontained base hbase)
  · rintro ⟨hdrive, hroot⟩
    refine ⟨fun base _ => inside_join _ rfl (not_not.1 hposix) hdots, fun base _ => ?_⟩
    exact inside_join _ hdrive hroot hdots'

/-- **Accepted output paths stay inside the repository** exactly when none of them has a drive or a
root by the rules of Windows. -/
theorem output_paths_contained_iff
    (h : "DCJ-006:output_scope_invalid" ∉ validateDesignCJobManifest manifest) :
    (∀ path ∈ manifest.outputPaths, Contained path) ↔
      ∀ path ∈ manifest.outputPaths, Unanchored path :=
  forall₂_congr fun path hpath => contained_iff (outputDenied_of_notMem h path hpath)

end

/-- A job that writes one file. -/
def jobWriting (path : String) : DesignCJobManifest where
  contractRevision := designCContractRevision
  objective := "objective"
  nonGoals := ["none"]
  inputCommitments := []
  dependencyHashes := []
  outputPaths := [path]
  writeOwner := "owner"
  checkerId := "checker"
  idempotencyKey := "key"
  checkpointPath := "checkpoint"
  budget := ⟨1, 1, 1, 0, 1⟩
  stopConditions := requiredStops

/-- A job that writes below the working directory. -/
theorem output_paths_contained_relative :
    (∀ path ∈ (jobWriting "out/a.json").outputPaths, Contained path) ↔
      ∀ path ∈ (jobWriting "out/a.json").outputPaths, Unanchored path :=
  output_paths_contained_iff (by decide)

/-- A path relative to the current directory of a drive is accepted, and leaves the repository. -/
theorem output_path_leaves :
    ¬ ∀ manifest : DesignCJobManifest,
      "DCJ-006:output_scope_invalid" ∉ validateDesignCJobManifest manifest →
        ∀ path ∈ manifest.outputPaths, Contained path := by
  intro hall
  have hcontained := hall (jobWriting "C:a.json") (by decide) "C:a.json" (.head _)
  have hleft := hcontained.2 (directory 'D' 0) (by decide)
  exact absurd hleft.1 (by decide)

end DesignC

end LawFirmDigitalTwin
