import LawFirmDigitalTwin.Kernel.Transition

/-!
# The branches, case by case

For the branches the kernel's guarantees turn on: what a branch checks, what it leaves behind when a
check fails, and the state it ends in when all pass.
-/

namespace LawFirmDigitalTwin

open Raising

/-- The call of the finance ledger that a command makes. -/
def Command.ledgerCall (c : Command) : Verb → Except PyError (Option (FinanceLedger.Call Decimal))
  | .recordTime => do return some (.record (← c.amount "amount"))
  | .submitInvoice => .ok (some .submit)
  | .carrierAudit => do return some (.audit (← c.amount "reduction"))
  | .appealReduction => do return some (.appeal (← c.amount "recovered"))
  | .applyPayment => do return some (.applyPayment (← c.amount "cash"))
  | _ => .ok none

section
variable {k : Kernel} {c : Command}

/-- `record_lawyer_gate` releases a pending hold. Whether the grant that belongs to it can be read
is not checked before. -/
theorem recordLawyerGate_cases (c : Command) (s : KernelState) :
    (∃ e, recordLawyerGate c s = .error e s ∧
        ∀ gate, c.text "gate" = .ok gate → gate ∉ s.projection.authorityHolds) ∨
      ∃ gate, c.text "gate" = .ok gate ∧ gate ∈ s.projection.authorityHolds ∧
        recordLawyerGate c s = .ok [] { s with projection :=
          { s.projection with authorityHolds := s.projection.authorityHolds.erase gate } } := by
  cases hg : c.text "gate" with
  | error e => left; simp [recordLawyerGate, bind_run, hg]
  | ok gate =>
    by_cases hm : gate ∈ s.projection.authorityHolds
    · right
      refine ⟨gate, rfl, hm, ?_⟩
      simp [recordLawyerGate, modifyProjection, bind_run, map_run, hg, hm]
    · left
      refine ⟨.gateError "human gate not pending" [gate], ?_, ?_⟩
      · simp [recordLawyerGate, bind_run, hg, hm]
      · intro gate' h; cases h; exact hm

/-- `open_matter` opens only when nothing is held. -/
theorem openMatter_cases (s : KernelState) :
    (∃ e, openMatter s = .error e s ∧ s.projection.authorityHolds ≠ ∅) ∨
      s.projection.authorityHolds = ∅ ∧
        openMatter s = .ok [] { s with projection :=
          { s.projection with matterStatus := .matterOpened } } := by
  by_cases hh : s.projection.authorityHolds = ∅
  · right
    refine ⟨hh, ?_⟩
    simp [openMatter, modifyProjection, bind_run, map_run, hh]
  · left; simp [openMatter, bind_run, hh]

/-- A resolution raises before it sets the outcome or the status, or it is the verb of the kernel's
own route. -/
theorem resolve_cases (k : Kernel) (v : Verb) (s : KernelState) :
    (∃ e s', resolve k v s = .error e s' ∧
        s'.projection.resolutionOutcome = s.projection.resolutionOutcome ∧
        s'.projection.matterStatus = s.projection.matterStatus) ∨
      v = k.route.resolutionVerb ∧ ∃ u s', resolve k v s = .ok u s' := by
  by_cases hv : v = k.route.resolutionVerb
  · cases ho : outcomeOf k.bundle.sealed.targetPosture with
    | error e => left; simp [resolve, modifyProjection, bind_run, hv, ho]
    | ok outcome => right; simp [resolve, modifyProjection, bind_run, map_run, hv, ho]
  · left; simp [resolve, bind_run, hv]

/-- `finalize_closeout` records `finance_reconciled` last, and only when the ledger passes its
test. -/
theorem finalizeCloseout_cases (s : KernelState) :
    (∃ e s', finalizeCloseout s = .error e s' ∧
        (.financeReconciled ∈ s'.projection.closeConditions →
          .financeReconciled ∈ s.projection.closeConditions)) ∨
      ∃ reconciled, s.projection.finance.reconciled = .ok reconciled ∧
        s.projection.resolutionOutcome ≠ none ∧
        finalizeCloseout s = .ok [] { s with projection :=
          { s.projection with closeConditions :=
            let recorded := s.projection.closeConditions ∪ closeoutConditions
            if reconciled then insert .financeReconciled recorded else recorded } } := by
  by_cases ho : s.projection.resolutionOutcome = none
  · left
    refine ⟨.gateError "resolution must precede closeout" [], s, ?_, id⟩
    simp [finalizeCloseout, bind_run, ho]
  · cases hr : s.projection.finance.reconciled with
    | error e =>
      left
      refine ⟨e, { s with projection :=
        { s.projection with closeConditions :=
          s.projection.closeConditions ∪ closeoutConditions } }, ?_, ?_⟩
      · simp [finalizeCloseout, modifyProjection, bind_run, ho, hr]
      · intro h
        rcases Finset.mem_union.1 h with h | h
        · exact h
        · exact absurd h (by decide)
    | ok reconciled =>
      right
      refine ⟨reconciled, rfl, ho, ?_⟩
      simp [finalizeCloseout, modifyProjection, bind_run, map_run, ho, hr]

/-- What `close_matter` checks, and what it sets when the checks pass. -/
theorem closeMatter_cases (s : KernelState) :
    (∃ e, closeMatter s = .error e s) ∨
      requiredConditions ⊆ s.projection.closeConditions ∧
        s.projection.finance.invariantErrors = .ok [] ∧
        closeMatter s = .ok [] { s with projection :=
          { s.projection with closed := true, matterStatus := .closed } } := by
  by_cases hm : requiredConditions ⊆ s.projection.closeConditions
  · cases he : s.projection.finance.invariantErrors with
    | error e => left; simp [closeMatter, bind_run, hm, he, Except.map]
    | ok errors =>
      by_cases h0 : errors = []
      · right
        refine ⟨hm, by rw [h0], ?_⟩
        simp [closeMatter, modifyProjection, bind_run, map_run, hm, he, Except.map, h0]
      · left; simp [closeMatter, bind_run, hm, he, Except.map, h0]
  · left; simp [closeMatter, bind_run, hm]

end

end LawFirmDigitalTwin
