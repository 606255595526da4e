import LawFirmDigitalTwin.Kernel.TwoRuns
import LawFirmDigitalTwin.Kernel.Workflow

/-!
# The sealed world does not interfere

Two bundles over one matter that seal different truths, conflicts and targets, with the same witness
frontier and the same authorized artifacts: whatever the commands are, all that a run shows of the
difference is the outcome of a resolution.
-/

namespace LawFirmDigitalTwin

/-- Two bundles with the same matter, whose sealed worlds agree on what a deposition and an expert
may use. -/
structure SealedTwins (b b' : WorldBundle) : Prop where
  matter : b'.matter = b.matter
  frontier : b'.sealed.witnessFactFrontier = b.sealed.witnessFactFrontier
  authorized : b'.sealed.expertAuthorizedArtifacts = b.sealed.expertAuthorizedArtifacts
  posture : b.sealed.targetPosture ∈ targetPostures
  posture' : b'.sealed.targetPosture ∈ targetPostures

/-- After the same commands, of which the same were accepted, the states agree outside the
projection and the events. -/
structure Alike (k k' : Kernel) (cs : List Command) : Prop where
  verdicts : Machine.outputs k'.step (fun s c => Raising.returned (k'.submit c s)) k'.initial cs =
    Machine.outputs k.step (fun s c => Raising.returned (k.submit c s)) k.initial cs
  clock : (k'.run cs).clock = (k.run cs).clock
  denials : (k'.run cs).denials = (k.run cs).denials
  authority : (k'.run cs).authority = (k.run cs).authority
  knowledge : (k'.run cs).knowledge = (k.run cs).knowledge

/-- Paired kernels answer every run of commands alike. -/
theorem Paired.alike {k k' : Kernel} (h : Paired k k') (cs : List Command) : Alike k k' cs := by
  obtain ⟨htwins, hverdicts⟩ := twins_run h cs
  exact ⟨hverdicts.symm, htwins.clock, htwins.denials, htwins.authority, htwins.knowledge⟩

/-- Two events that are the same but for the outcome of a resolution and the hash that covers it. -/
structure OutcomeOnly (e e' : Event) : Prop where
  same : e' = { e with payload := e'.payload, outputHash := e'.outputHash }
  other : (¬ ∃ v : Verb, v.Resolves ∧ Accepted v e) → e' = e
  payload : ∀ key, key ≠ "synthetic_outcome" → e'.payload.get? key = e.payload.get? key

section
variable {k k' : Kernel}

/-- Time entries of kernels with one arm. -/
theorem entries_eq_of_arm (harm : k'.arm = k.arm) {es es' : List TimeEntry}
    (h : List.Forall₂ (EntryTwins k k') es es') : es' = es := by
  induction h with
  | nil => rfl
  | cons he _ ih =>
    obtain ⟨hself, rfl⟩ := he
    rw [ih, harm, ← hself]

/-- Events of kernels with one run id and one arm. -/
theorem EventTwins.outcomeOnly (hrun : k'.runId = k.runId) (harm : k'.arm = k.arm) {e e' : Event}
    (h : EventTwins k k' e e') : OutcomeOnly e e' := by
  obtain ⟨hid, heventId, hkey⟩ := h.run hrun
  have hsame : e' = { e with payload := e'.payload, outputHash := e'.outputHash } := by
    have h' := h.same
    rw [hid, heventId, hkey, h.arm harm] at h'
    exact h'
  have hvaries {v : Verb} {key : String} (hv : Varies k k' v key) :
      v.Resolves ∧ key = "synthetic_outcome" := by
    rcases hv with ⟨-, -, hne⟩ | ⟨hresolves, hkey, -⟩
    · exact (hne harm).elim
    · exact ⟨hresolves, hkey⟩
  refine ⟨hsame, fun hother => ?_, fun key hne => ?_⟩
  · have hpayload : e'.payload = e.payload := by
      refine PyDict.ext fun key => ?_
      rcases h.payload key with heq | ⟨v, htype, hv⟩
      · exact heq
      · exact (hother ⟨v, (hvaries hv).1, htype⟩).elim
    rw [hsame, hpayload, h.outputHash hpayload]
  · rcases h.payload key with heq | ⟨v, -, hv⟩
    · exact heq
    · exact (hne (hvaries hv).2).elim

end

/-- **Noninterference.** Over two bundles that differ in what their worlds seal, runs of the same
commands accept the same ones and end alike: the projections differ at most in the resolution
outcome, the events at most in the outcome a resolution reports and its output hash. -/
theorem sealed_noninterference {b b' : WorldBundle} (h : SealedTwins b b') (runId : String)
    (arm : Arm) (route : Route) (cs : List Command) :
    let k : Kernel := ⟨runId, b, arm, route⟩
    let k' : Kernel := ⟨runId, b', arm, route⟩
    Alike k k' cs ∧
      (k'.run cs).projection = { (k.run cs).projection with
        resolutionOutcome := (k'.run cs).projection.resolutionOutcome } ∧
      List.Forall₂ OutcomeOnly (k.run cs).events (k'.run cs).events := by
  intro k k'
  have hpaired : Paired k k' :=
    ⟨h.matter, h.frontier, h.authorized, rfl, .inr ⟨h.posture, h.posture'⟩⟩
  have hrun : k'.runId = k.runId := rfl
  have harm : k'.arm = k.arm := rfl
  obtain ⟨htwins, -⟩ := twins_run hpaired cs
  refine ⟨hpaired.alike cs, ?_, htwins.events.imp fun e e' he => he.outcomeOnly hrun harm⟩
  have hp := htwins.projection
  generalize (k'.run cs).projection = p' at hp
  cases hp with
  | mk o es ho hes => rw [entries_eq_of_arm harm hes]

/-- The sealed world of the seed `alpha` with another truth and another target. -/
def otherSealed : SealedWorld :=
  { alphaKernel.bundle.sealed with truth := [], declaredConflicts := [], targetPosture := "balanced" }

/-- The kernel of a seed, with another sealed part. -/
theorem sealed_noninterference_alpha :
    Alike alphaKernel { alphaKernel with bundle := ⟨alphaKernel.bundle.matter, otherSealed⟩ }
      alphaWorkflow := by
  have h : SealedTwins alphaKernel.bundle ⟨alphaKernel.bundle.matter, otherSealed⟩ :=
    ⟨rfl, rfl, rfl, alphaKernel_employment.targetPosture, by simp [otherSealed, targetPostures]⟩
  exact (sealed_noninterference h alphaKernel.runId alphaKernel.arm alphaKernel.route
    alphaWorkflow).1

end LawFirmDigitalTwin
