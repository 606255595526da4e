import LawFirmDigitalTwin.Kernel.Branches
import LawFirmDigitalTwin.Kernel.Workflow

/-!
# The books at the closing

`finalize_closeout` records `finance_reconciled` when the ledger's sums agree and nothing is
receivable; it does not ask for work still to be billed, and no later billing withdraws the
condition. `close_matter` relies on the recorded condition. `StaysReconciled` excludes the calls
that make it untrue, and `closed_reconciled` shows that then every closing finds clear books;
`closes_unreconciled` is a run that closes with unbilled time.
-/

namespace LawFirmDigitalTwin

open Raising

/-- What an admitted command has to meet so that `finance_reconciled` is true once it is recorded: a
closeout that records it finds no work to bill, and a billing command after that bills nothing and
makes nothing receivable. -/
structure StaysReconciled (k : Kernel) (s : KernelState) (c : Command) : Prop where
  finalize : ∀ a, k.admit s c = .ok a → a.verb = .finalizeCloseout →
    s.projection.resolutionOutcome ≠ none → s.projection.finance.reconciled = .ok true →
    s.projection.finance.wip.IsZero
  billing : ∀ a, k.admit s c = .ok a → .financeReconciled ∈ s.projection.closeConditions →
    ∀ call, c.ledgerCall a.verb = .ok (some call) → call.KeepsClear s.projection.finance

/-- An accepted closing leaves a ledger without an invariant error, without work to bill and with
nothing receivable. -/
def ClosesReconciled (k : Kernel) (s : KernelState) (c : Command) : Prop :=
  ∀ a, k.admit s c = .ok a → a.verb = .closeMatter → returned (k.submit c s) = true →
    let finance := (k.step s c).projection.finance
    finance.invariantErrors = .ok [] ∧ Amount.eq finance.wip Amount.zero = .ok true ∧
      Amount.eq finance.accountsReceivable Amount.zero = .ok true

/-- Once `finance_reconciled` is recorded the books are clear. -/
def Reconciled (s : KernelState) : Prop :=
  .financeReconciled ∈ s.projection.closeConditions → s.projection.finance.Clear

/-! ## The ledger over one call -/

/-- The states have the same ledger. -/
def SameFinance (s s' : KernelState) : Prop := s'.projection.finance = s.projection.finance

instance : Std.Refl SameFinance where
  refl _ := rfl

instance : IsTrans KernelState SameFinance where
  trans _ _ _ h₁ h₂ := Eq.trans h₂ h₁

section
variable {k : Kernel} {s : KernelState} {c : Command}

/-- A method of the ledger, followed by what leaves the ledger alone. -/
theorem finance_withFinance_bind {α β : Type} (m : FinanceLedger.Method Decimal α)
    {rest : α → KernelM β} (hrest : ∀ a, Keeps SameFinance (rest a)) (s : KernelState) :
    (final ((withFinance m >>= rest) s)).projection.finance = final (m s.projection.finance) := by
  rw [bind_run, withFinance, zoom]
  cases hm : m s.projection.finance with
  | error e f => rfl
  | ok a f => exact hrest a _

/-- **A branch changes the ledger by the call its command makes**, if it makes one. -/
theorem finance_branch (k : Kernel) (c : Command) (v : Verb) (s : KernelState) :
    (final (branch k c v s)).projection.finance =
      match c.ledgerCall v with
      | .ok (some call) => FinanceLedger.step s.projection.finance call
      | _ => s.projection.finance := by
  cases v with
  | recordTime =>
    unfold branch recordTime Command.ledgerCall
    cases ha : c.amount "amount" with
    | error e => rfl
    | ok amount =>
      refine finance_withFinance_bind _ (fun _ => ?_) s
      refine .bind (.attempt _) fun _ => .bind (.attempt _) fun _ => .bind ?_ fun _ => .pure _
      exact .modify fun _ => rfl
  | submitInvoice =>
    unfold branch submitInvoice Command.ledgerCall
    rw [finance_withFinance_bind _ (fun _ => .bind .get fun _ => .pure _) s]
    exact (FinanceLedger.step_submit _).symm
  | carrierAudit =>
    unfold branch carrierAudit Command.ledgerCall
    cases ha : c.amount "reduction" with
    | error e => rfl
    | ok reduction => exact finance_withFinance_bind _ (fun _ => .bind .get fun _ => .pure _) s
  | appealReduction =>
    unfold branch appealReduction Command.ledgerCall
    cases ha : c.amount "recovered" with
    | error e => rfl
    | ok recovered => exact finance_withFinance_bind _ (fun _ => .bind .get fun _ => .pure _) s
  | applyPayment =>
    unfold branch applyPayment Command.ledgerCall
    cases ha : c.amount "cash" with
    | error e => rfl
    | ok cash => exact finance_withFinance_bind _ (fun _ => .bind .get fun _ => .pure _) s
  | _ =>
    obtain ⟨p, hp, hframe⟩ := keeps_branch k c _ s
    rw [hp]
    exact hframe .finance (by decide)

/-! ## The recorded condition -/

/-- The empty books are reconciled. -/
theorem reconciled_initial (k : Kernel) : Reconciled k.initial := by
  intro h
  exact absurd h (Finset.notMem_empty _)

/-- A ledger that passes the test of `finalize_closeout` has nothing receivable. -/
theorem accountsReceivable_of_reconciled {finance : FinanceLedger Decimal}
    (h : finance.reconciled = .ok true) : finance.accountsReceivable.IsZero := by
  unfold FinanceLedger.reconciled at h
  cases he : finance.invariantErrors with
  | error e => rw [he] at h; cases h
  | ok errors =>
    rw [he, ok_bind] at h
    split at h
    · exact Decimal.isZero_iff_eq.2 h
    · cases h

/-- The condition is recorded by a closeout that passes its test, or it was recorded before. -/
theorem financeReconciled_finalize {a : Admission} (h : k.admit s c = .ok a)
    (hv : a.verb = .finalizeCloseout)
    (hr : .financeReconciled ∈ (k.step s c).projection.closeConditions) :
    .financeReconciled ∈ s.projection.closeConditions ∨
      s.projection.resolutionOutcome ≠ none ∧ s.projection.finance.reconciled = .ok true := by
  rw [(step_effect h).projection, hv, branch] at hr
  rcases finalizeCloseout_cases s.tick with ⟨e, s', he, hback⟩ | ⟨reconciled, hrec, ho, hok⟩
  · rw [he] at hr
    exact .inl (hback hr)
  · rw [hok] at hr
    cases reconciled with
    | true => exact .inr ⟨ho, hrec⟩
    | false =>
      rcases Finset.mem_union.1 hr with hr | hr
      · exact .inl hr
      · exact absurd hr (by decide)

/-- One call that stays reconciled keeps the recorded condition true. -/
theorem Reconciled.step (hi : Reconciled s) (hc : StaysReconciled k s c) :
    Reconciled (k.step s c) := by
  intro hr
  cases h : k.admit s c with
  | error r =>
    have hp := (step_idle h).projection
    rw [hp] at hr ⊢
    exact hi hr
  | ok a =>
    by_cases hv : a.verb = .finalizeCloseout
    · have hfinance : (k.step s c).projection.finance = s.projection.finance :=
        (step_effect h).frame .finance (by rw [hv]; decide)
      rw [hfinance]
      rcases financeReconciled_finalize h hv hr with hr | ⟨ho, hrec⟩
      · exact hi hr
      · exact ⟨hc.finalize a h hv ho hrec, accountsReceivable_of_reconciled hrec⟩
    · have hconditions : (k.step s c).projection.closeConditions = s.projection.closeConditions := by
        refine (step_effect h).frame .closeConditions ?_
        revert hv
        cases a.verb <;> decide
      rw [hconditions] at hr
      have hclear := hi hr
      rw [(step_effect h).projection, finance_branch]
      split
      next call hcall => exact hclear.step (hc.billing a h hr call hcall)
      · exact hclear

/-- A closing that is accepted finds the condition recorded and the ledger's sums in order. -/
theorem Reconciled.closes (hi : Reconciled s) : ClosesReconciled k s c := by
  intro a h hv hr
  have hb := ((returned_submit_iff h).1 hr).1
  have hfinance : (k.step s c).projection.finance = s.projection.finance :=
    (step_effect h).frame .finance (by rw [hv]; decide)
  rw [hv, branch] at hb
  rcases closeMatter_cases s.tick with ⟨e, he⟩ | ⟨hrequired, herrors, -⟩
  · rw [he] at hb
    cases hb
  · have hclear : s.projection.finance.Clear := hi (hrequired (by decide))
    rw [hfinance]
    exact ⟨herrors, Decimal.isZero_iff_eq.1 hclear.wip,
      Decimal.isZero_iff_eq.1 hclear.accountsReceivable⟩

/-- **Finance closure.** In every run whose calls all stay reconciled, every accepted closing leaves
a ledger without an invariant error, without work to bill and with nothing receivable. -/
theorem closed_reconciled {cs : List Command}
    (hc : Machine.AllSteps k.step (StaysReconciled k) k.initial cs) :
    Machine.AllSteps k.step (ClosesReconciled k) k.initial cs := by
  refine hc.imp_of (I := Reconciled) (fun s c hi hstep => ?_) (reconciled_initial k)
  exact ⟨hi.closes, hi.step hstep⟩

/-- A command stays reconciled that finds no work to bill, if it is a closeout, and that makes no
call of the ledger once the condition is recorded. -/
theorem staysReconciled_of_verb
    (hf : c.verb = Verb.finalizeCloseout.name → s.projection.finance.wip.IsZero)
    (hb : .financeReconciled ∈ s.projection.closeConditions →
      ∀ v, c.verb = v.name → c.ledgerCall v = .ok none) : StaysReconciled k s c := by
  constructor
  · intro a h hv _ _
    have hname := Verb.name_of_ofName? (admit_ok h).verb
    exact hf (by rw [← hname, hv])
  · intro a h hr call hcall
    have hname := Verb.name_of_ofName? (admit_ok h).verb
    rw [hb hr a.verb hname.symm] at hcall
    cases hcall

/-- Without a closeout the condition is not recorded. -/
theorem financeReconciled_step (hc : c.verb ≠ Verb.finalizeCloseout.name)
    (hs : .financeReconciled ∉ s.projection.closeConditions) :
    .financeReconciled ∉ (k.step s c).projection.closeConditions := by
  rcases step_part k s c .closeConditions (by decide) with h | ⟨a, ha, hw⟩
  · rw [show (k.step s c).projection.closeConditions = s.projection.closeConditions from h]
    exact hs
  · have hv : a.verb = .finalizeCloseout := by
      revert hw
      cases a.verb <;> decide
    have hname := Verb.name_of_ofName? (admit_ok ha).verb
    exact absurd (by rw [← hname, hv]) hc

end

/-! ## The scripted workflow, and a closing that comes too early -/

/-- A run without a closeout stays reconciled, and leaves the condition unrecorded. -/
theorem staysReconciled_run {k : Kernel} {cs : List Command}
    (h : ∀ c ∈ cs, c.verb ≠ Verb.finalizeCloseout.name) :
    Machine.AllSteps k.step (StaysReconciled k) k.initial cs ∧
      .financeReconciled ∉ (k.run cs).projection.closeConditions := by
  have hverbs : Machine.AllSteps k.step (fun _ c => c.verb ≠ Verb.finalizeCloseout.name)
      k.initial cs := .of_forall_mem (fun c hc _ => h c hc) _
  have h0 : CloseCondition.financeReconciled ∉ k.initial.projection.closeConditions :=
    Finset.notMem_empty _
  constructor
  · refine hverbs.imp_of (I := fun s => .financeReconciled ∉ s.projection.closeConditions)
      (fun s c hs hc => ?_) h0
    refine ⟨staysReconciled_of_verb (fun hf => absurd hf hc) fun hr => absurd hr hs, ?_⟩
    exact financeReconciled_step hc hs
  · exact Machine.run_invariant_of (I := fun s => .financeReconciled ∉ s.projection.closeConditions)
      (fun s c hs hc => financeReconciled_step hc hs) h0 hverbs

/-- The scripted workflow bills nothing between its closeout and its closing. -/
theorem closed_reconciled_alpha :
    Machine.AllSteps alphaKernel.step (ClosesReconciled alphaKernel) alphaKernel.initial
      alphaWorkflow := by
  have hverbs : ∀ c ∈ alphaWorkflow.take 19, c.verb ≠ Verb.finalizeCloseout.name := by
    decide +kernel
  have hwip : (alphaKernel.run (alphaWorkflow.take 19)).projection.finance.wip =
      .finite false 0 (-2) := by
    decide +kernel
  have hlast : (alphaWorkflow.drop 19).map (·.verb) =
      [Verb.finalizeCloseout.name, Verb.closeMatter.name] := by
    decide +kernel
  obtain ⟨finalize, close, hdrop⟩ : ∃ c c', alphaWorkflow.drop 19 = [c, c'] :=
    List.length_eq_two.1 (by rw [← List.length_map (f := (·.verb)), hlast]; rfl)
  rw [hdrop] at hlast
  obtain ⟨hfinalize, hclose⟩ : finalize.verb = Verb.finalizeCloseout.name ∧
      close.verb = Verb.closeMatter.name := by simpa using hlast
  obtain ⟨hbefore, hrecorded⟩ := staysReconciled_run hverbs
  refine closed_reconciled ?_
  rw [← List.take_append_drop 19 alphaWorkflow, hdrop, Machine.allSteps_append]
  refine ⟨hbefore, ?_, ?_, trivial⟩
  · exact staysReconciled_of_verb (fun _ => ⟨_, _, hwip⟩) fun hr => absurd hr hrecorded
  · refine staysReconciled_of_verb (fun hf => ?_) fun _ v hv => ?_
    · rw [hclose] at hf
      exact absurd hf (by decide)
    · rw [hclose] at hv
      rw [← Verb.name_injective hv]
      rfl

/-- The workflow up to its resolution, and then its closeout and a time entry. -/
def unbilledMatter : List Command :=
  alphaWorkflow.take 13 ++ (alphaWorkflow.drop 19).take 1 ++ (alphaWorkflow.drop 13).take 1

/-- The closeout finds nothing receivable and records the condition; the time entry is never billed;
and the closing is accepted. -/
theorem closes_unreconciled :
    ¬ ∀ (k : Kernel) (cs : List Command), k.bundle.Employment →
      Machine.AllSteps k.step (ClosesReconciled k) k.initial cs := by
  intro h
  have hlast : ∀ c ∈ alphaWorkflow.drop 20, c.verb = Verb.closeMatter.name ∧
      returned (alphaKernel.submit c (alphaKernel.run unbilledMatter)) = true ∧
      Amount.eq (alphaKernel.step (alphaKernel.run unbilledMatter) c).projection.finance.wip
        Amount.zero = .ok false := by
    decide +kernel
  obtain ⟨close, hdrop⟩ : ∃ c, alphaWorkflow.drop 20 = [c] :=
    List.length_eq_one_iff.1 (by decide +kernel)
  obtain ⟨hverb, hr, hwip⟩ := hlast close (by rw [hdrop]; exact .head _)
  have hcloses := (h alphaKernel (unbilledMatter ++ [close]) alphaKernel_employment).at
  cases ha : alphaKernel.admit (alphaKernel.run unbilledMatter) close with
  | error r =>
    rw [returned_submit_refused ha] at hr
    cases hr
  | ok a =>
    have hv : a.verb = .closeMatter :=
      Verb.name_injective ((Verb.name_of_ofName? (admit_ok ha).verb).trans hverb)
    obtain ⟨-, heq, -⟩ := hcloses a ha hv hr
    have hne : (.ok false : Except PyError Bool) = .ok true := hwip.symm.trans heq
    cases hne

end LawFirmDigitalTwin
