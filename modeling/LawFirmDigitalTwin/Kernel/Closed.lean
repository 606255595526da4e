import LawFirmDigitalTwin.Kernel.Branches
import LawFirmDigitalTwin.Kernel.Workflow

/-!
# After the closing of a matter

No branch looks at `projection.closed`. Once set it stays set, but the verbs an actor may still use
keep their effects: which verbs these are, for each of the balances and records that a closed matter
has, is `ClosingFrame`.
-/

namespace LawFirmDigitalTwin

open Raising

/-- The five verbs that change the finance ledger. -/
def billingVerbs : List Verb :=
  [.recordTime, .submitInvoice, .carrierAudit, .appealReduction, .applyPayment]

/-- The four verbs that change the evidence status and the custody log. -/
def evidenceVerbs : List Verb :=
  [.issuePreservation, .collectEvidence, .reviewEvidence, .produceDiscovery]

/-- The two verbs that change the authority holds. -/
def gateVerbs : List Verb := [.submitConflictResult, .recordLawyerGate]

/-- The verbs that move the matter status of a closed matter, on a route. -/
def reopeningVerbs (route : Route) : List Verb :=
  [.receiveReferral, .openMatter, route.resolutionVerb]

/-- The command passes the checks of `submit` and its verb is one of these. -/
def AdmittedAs (k : Kernel) (s : KernelState) (c : Command) (verbs : List Verb) : Prop :=
  ∃ a, k.admit s c = .ok a ∧ a.verb ∈ verbs

/-- What one call may change of a closed matter. -/
structure ClosingFrame (k : Kernel) (s : KernelState) (c : Command) : Prop where
  closed : s.projection.closed = true → (k.step s c).projection.closed = true
  matterStatus : s.projection.matterStatus = .closed →
    (k.step s c).projection.matterStatus = .closed ∨ AdmittedAs k s c (reopeningVerbs k.route)
  finance : (k.step s c).projection.finance = s.projection.finance ∨
    AdmittedAs k s c billingVerbs
  evidenceStatus : (k.step s c).projection.evidenceStatus = s.projection.evidenceStatus ∨
    AdmittedAs k s c evidenceVerbs
  custodyLog : (k.step s c).projection.custodyLog = s.projection.custodyLog ∨
    AdmittedAs k s c evidenceVerbs
  authorityHolds : (k.step s c).projection.authorityHolds = s.projection.authorityHolds ∨
    AdmittedAs k s c gateVerbs

section
variable {k : Kernel} {s : KernelState} {c : Command}

/-- Only the billing verbs write the finance part. -/
theorem mem_billingVerbs {v : Verb} (h : .finance ∈ writes v) : v ∈ billingVerbs := by
  cases v <;> revert h <;> decide

/-- Only the evidence verbs write the evidence. -/
theorem mem_evidenceVerbs {v : Verb} (h : .evidence ∈ writes v) : v ∈ evidenceVerbs := by
  cases v <;> revert h <;> decide

/-- Only the gate verbs write the holds. -/
theorem mem_gateVerbs {v : Verb} (h : .authorityHolds ∈ writes v) : v ∈ gateVerbs := by
  cases v <;> revert h <;> decide

/-- A call writes a part of the projection only through one of the verbs that write it. -/
theorem same_or_admittedAs (part : Part) (hpart : part ≠ .oracleAccess) {verbs : List Verb}
    (hverbs : ∀ v, part ∈ writes v → v ∈ verbs) :
    part.Same s.projection (k.step s c).projection ∨ AdmittedAs k s c verbs := by
  rcases step_part k s c part hpart with h | ⟨a, ha, hw⟩
  · exact .inl h
  · exact .inr ⟨a, ha, hverbs a.verb hw⟩

/-- Only `close_matter` writes `closed`, and it never clears it. -/
theorem closed_step (h : s.projection.closed = true) : (k.step s c).projection.closed = true := by
  rcases step_part k s c .closed (by decide) with hs | ⟨a, ha, hw⟩
  · exact Eq.trans hs h
  · have hv : a.verb = .closeMatter := by
      revert hw
      cases a.verb <;> decide
    rw [(step_effect ha).projection, hv]
    rcases closeMatter_cases s.tick with ⟨e, he⟩ | ⟨-, -, hok⟩
    · rw [branch, he]; exact h
    · rw [branch, hok]; rfl

/-- The status of a closed matter moves by the reopening verbs only: `close_matter` sets it to
`closed` again, and a resolution verb of another route raises first. -/
theorem matterStatus_step (h : s.projection.matterStatus = .closed) :
    (k.step s c).projection.matterStatus = .closed ∨
      AdmittedAs k s c (reopeningVerbs k.route) := by
  rcases step_part k s c .matterStatus (by decide) with hs | ⟨a, ha, hw⟩
  · exact .inl (Eq.trans hs h)
  · have hp := (step_effect ha).projection
    have hresolve (hb : branch k c a.verb = resolve k a.verb) :
        (k.step s c).projection.matterStatus = .closed ∨
          AdmittedAs k s c (reopeningVerbs k.route) := by
      by_cases hr : a.verb = k.route.resolutionVerb
      · exact .inr ⟨a, ha, by rw [hr]; simp [reopeningVerbs]⟩
      · left
        rw [hp, hb]
        rcases resolve_cases k a.verb s.tick with ⟨e, s', he, -, hs'⟩ | ⟨hv, -⟩
        · rw [he]; exact Eq.trans hs' h
        · exact absurd hv hr
    cases hv : a.verb with
    | receiveReferral => exact .inr ⟨a, ha, by rw [hv]; simp [reopeningVerbs]⟩
    | openMatter => exact .inr ⟨a, ha, by rw [hv]; simp [reopeningVerbs]⟩
    | settleCase => exact hresolve (by rw [hv]; rfl)
    | mediateToImpasse => exact hresolve (by rw [hv]; rfl)
    | resolveDispositive => exact hresolve (by rw [hv]; rfl)
    | tryAndAppeal => exact hresolve (by rw [hv]; rfl)
    | closeMatter =>
      left
      rw [hp, hv]
      rcases closeMatter_cases s.tick with ⟨e, he⟩ | ⟨-, -, hok⟩
      · rw [branch, he]; exact h
      · rw [branch, hok]; rfl
    | _ =>
      rw [hv] at hw
      exact absurd hw (by decide)

/-- What one call may change of a closed matter. -/
theorem closingFrame (k : Kernel) (s : KernelState) (c : Command) : ClosingFrame k s c where
  closed := closed_step
  matterStatus := matterStatus_step
  finance := same_or_admittedAs .finance (by decide) fun _ => mem_billingVerbs
  evidenceStatus :=
    (same_or_admittedAs .evidence (by decide) fun _ => mem_evidenceVerbs).imp_left (·.1)
  custodyLog :=
    (same_or_admittedAs .evidence (by decide) fun _ => mem_evidenceVerbs).imp_left (·.2)
  authorityHolds :=
    same_or_admittedAs .authorityHolds (by decide) fun _ => mem_gateVerbs

/-- **Closing is final for the flag, not for the records.** In every run, from whatever state, a
closed matter stays closed, and its status, ledger, evidence, custody and holds change only by
admitted commands of the verbs that write them. -/
theorem closed_terminal (k : Kernel) (s : KernelState) (cs : List Command) :
    Machine.AllSteps k.step (ClosingFrame k) s cs :=
  Machine.AllSteps.of_forall (closingFrame k) s cs

end

/-! ## The workflow, and one command more -/

/-- The state after the workflow and its command number `n`, counted from zero, once more. -/
def afterRepeating (n : Nat) : KernelState :=
  alphaKernel.run (alphaWorkflow ++ (alphaWorkflow.drop n).take 1)

/-- The workflow closes the matter; then the referral moves its status, the conflict result sets a
hold, a time entry changes the ledger, and a preservation resets the evidence and its custody. -/
theorem closed_matter_changes :
    (alphaKernel.run alphaWorkflow).projection.closed = true ∧
      (alphaKernel.run alphaWorkflow).projection.matterStatus = .closed ∧
      (afterRepeating 0).projection.matterStatus ≠ .closed ∧
      (afterRepeating 1).projection.authorityHolds ≠
        (alphaKernel.run alphaWorkflow).projection.authorityHolds ∧
      (afterRepeating 13).projection.finance.wip ≠
        (alphaKernel.run alphaWorkflow).projection.finance.wip ∧
      (afterRepeating 6).projection.evidenceStatus.get? "E-TERM-001" ≠
        (alphaKernel.run alphaWorkflow).projection.evidenceStatus.get? "E-TERM-001" ∧
      ((afterRepeating 6).projection.custodyLog.get? "E-TERM-001").map List.length ≠
        ((alphaKernel.run alphaWorkflow).projection.custodyLog.get? "E-TERM-001").map
          List.length := by
  decide +kernel

end LawFirmDigitalTwin
