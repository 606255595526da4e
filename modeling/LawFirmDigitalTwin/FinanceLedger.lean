import Mathlib.Tactic.Linarith
import LawFirmDigitalTwin.Lib.Raising
import LawFirmDigitalTwin.Lib.Run
import LawFirmDigitalTwin.Decimal

/-!
# The finance ledger

`FinanceLedger` of `g2.py`. The mutators are programs that may raise between two of their
assignments, over any arithmetic of amounts; the kernel runs them on `Decimal`. The last section is
about exact amounts: which sequences of calls keep the ledger from collecting twice.
-/

namespace LawFirmDigitalTwin

open Raising

/-- `g2.py` `FinanceLedger`. -/
structure FinanceLedger (α : Type) where
  work : α
  wip : α
  submitted : α
  approved : α
  reduced : α
  appealRecovery : α
  accountsReceivable : α
  cash : α
  writeOff : α

namespace FinanceLedger

section
variable {α : Type} [Amount α]

/-- The ledger of a new matter. -/
def initial : FinanceLedger α :=
  ⟨Amount.zero, Amount.zero, Amount.zero, Amount.zero, Amount.zero, Amount.zero, Amount.zero,
    Amount.zero, Amount.zero⟩

/-- A method of the ledger. -/
abbrev Method (α β : Type) := EStateM PyError (FinanceLedger α) β

/-- `FinanceLedger.record`. -/
def record (amount : α) : Method α Unit := do
  raiseIf (Amount.le amount Amount.zero) (.gateError "time value must be positive" [])
  assign fun l => do return { l with work := ← Amount.add l.work amount }
  assign fun l => do return { l with wip := ← Amount.add l.wip amount }

/-- `FinanceLedger.submit`. -/
def submit : Method α α := do
  raiseIf (Amount.le (← get).wip Amount.zero) (.gateError "invoice requires positive WIP" [])
  let amount := (← get).wip
  modify fun l => { l with wip := Amount.zero }
  assign fun l => do return { l with submitted := ← Amount.add l.submitted amount }
  return amount

/-- `FinanceLedger.audit`. -/
def audit (reduction : α) : Method α Unit := do
  raiseIf (Amount.lt reduction Amount.zero) (.gateError "carrier reduction is out of bounds" [])
  raiseIf (Amount.lt (← get).submitted reduction)
    (.gateError "carrier reduction is out of bounds" [])
  modify fun l => { l with reduced := reduction }
  assign fun l => do return { l with approved := ← Amount.sub l.submitted reduction }
  modify fun l => { l with accountsReceivable := l.approved }

/-- `FinanceLedger.appeal`. -/
def appeal (recovered : α) : Method α Unit := do
  raiseIf (Amount.le recovered Amount.zero) (.gateError "appeal recovery is out of bounds" [])
  raiseIf (Amount.lt (← get).reduced recovered) (.gateError "appeal recovery is out of bounds" [])
  assign fun l => do return { l with reduced := ← Amount.sub l.reduced recovered }
  assign fun l => do return { l with approved := ← Amount.add l.approved recovered }
  assign fun l => do return { l with appealRecovery := ← Amount.add l.appealRecovery recovered }
  assign fun l => do
    return { l with accountsReceivable := ← Amount.add l.accountsReceivable recovered }

/-- `FinanceLedger.apply_payment`. -/
def applyPayment (cash : α) : Method α Unit := do
  raiseIf (Amount.lt cash Amount.zero) (.gateError "payment is out of bounds" [])
  raiseIf (Amount.lt (← get).accountsReceivable cash) (.gateError "payment is out of bounds" [])
  assign fun l => do return { l with cash := ← Amount.add l.cash cash }
  assign fun l => do return { l with accountsReceivable := ← Amount.sub l.accountsReceivable cash }

/-- One check of `invariant_errors`: the error when `total` differs from a sum. -/
def sumError (total : α) (sum : Except PyError α) (text : String) : Except PyError (List String) := do
  return if ← Amount.eq total (← sum) then [] else [text]

/-- `FinanceLedger.invariant_errors`. -/
def invariantErrors (l : FinanceLedger α) : Except PyError (List String) := do
  let e₁ ← sumError l.work (Amount.add l.wip l.submitted) "work must equal wip plus submitted"
  let e₂ ← sumError l.submitted (Amount.add l.approved l.reduced)
    "submitted must equal approved plus reduced"
  let e₃ ← sumError l.approved
    (do Amount.add (← Amount.add l.accountsReceivable l.cash) l.writeOff)
    "approved must equal AR plus cash plus write-off"
  return e₁ ++ e₂ ++ e₃

/-! ## Runs of calls -/

/-- A call of one of the five mutators. -/
inductive Call (α : Type)
  | record (amount : α)
  | submit
  | audit (reduction : α)
  | appeal (recovered : α)
  | applyPayment (cash : α)

/-- The method a call runs. -/
def Call.method : Call α → Method α Unit
  | .record amount => FinanceLedger.record amount
  | .submit => do let _ ← FinanceLedger.submit
  | .audit reduction => FinanceLedger.audit reduction
  | .appeal recovered => FinanceLedger.appeal recovered
  | .applyPayment cash => FinanceLedger.applyPayment cash

/-- The checks of a call's method pass, and the balances it assigns can be computed. -/
def Call.Completes (l : FinanceLedger α) : Call α → Prop
  | .record amount => Amount.le amount Amount.zero = .ok false ∧
    (∃ d, Amount.add l.work amount = .ok d) ∧ ∃ d, Amount.add l.wip amount = .ok d
  | .submit => Amount.le l.wip Amount.zero = .ok false ∧ ∃ d, Amount.add l.submitted l.wip = .ok d
  | .audit reduction => Amount.lt reduction Amount.zero = .ok false ∧
    Amount.lt l.submitted reduction = .ok false ∧ ∃ d, Amount.sub l.submitted reduction = .ok d
  | .appeal recovered => Amount.le recovered Amount.zero = .ok false ∧
    Amount.lt l.reduced recovered = .ok false ∧ (∃ d, Amount.sub l.reduced recovered = .ok d) ∧
    (∃ d, Amount.add l.approved recovered = .ok d) ∧
    (∃ d, Amount.add l.appealRecovery recovered = .ok d) ∧
    ∃ d, Amount.add l.accountsReceivable recovered = .ok d
  | .applyPayment cash => Amount.lt cash Amount.zero = .ok false ∧
    Amount.lt l.accountsReceivable cash = .ok false ∧ (∃ d, Amount.add l.cash cash = .ok d) ∧
    ∃ d, Amount.sub l.accountsReceivable cash = .ok d

/-- Submitting returns where its check passes and the balance can be computed. -/
theorem returned_submit {l : FinanceLedger α} :
    returned (submit l) = true ↔ (Call.submit : Call α).Completes l := by
  simp only [submit, Call.Completes, returned_get_bind, returned_raiseIf_bind,
    returned_modify_bind, returned_assign_bind, except_bind_eq_ok, pure_eq_ok, Except.ok.injEq]
  refine and_congr_right fun _ => ?_
  constructor
  · rintro ⟨_, ⟨d, hd, rfl⟩, -⟩
    exact ⟨d, hd⟩
  · rintro ⟨d, hd⟩
    exact ⟨_, ⟨d, hd, rfl⟩, rfl⟩

/-- **When a call of the ledger returns.** -/
theorem returned_method {l : FinanceLedger α} {c : Call α} :
    returned (c.method l) = true ↔ c.Completes l := by
  cases c with
  | record amount =>
    simp only [Call.method, record, Call.Completes, returned_raiseIf_bind, returned_assign_bind,
      returned_assign, except_bind_eq_ok, pure_eq_ok, Except.ok.injEq]
    refine and_congr_right fun _ => ?_
    constructor
    · rintro ⟨_, ⟨work, hwork, rfl⟩, _, wip, hwip, rfl⟩
      exact ⟨⟨work, hwork⟩, wip, hwip⟩
    · rintro ⟨⟨work, hwork⟩, wip, hwip⟩
      exact ⟨_, ⟨work, hwork, rfl⟩, _, wip, hwip, rfl⟩
  | submit => exact returned_bind_pure.trans returned_submit
  | audit reduction =>
    simp only [Call.method, audit, Call.Completes, returned_get_bind, returned_raiseIf_bind,
      returned_modify_bind, returned_assign_bind, except_bind_eq_ok, pure_eq_ok, Except.ok.injEq]
    refine and_congr_right fun _ => and_congr_right fun _ => ?_
    constructor
    · rintro ⟨_, ⟨approved, happroved, rfl⟩, -⟩
      exact ⟨approved, happroved⟩
    · rintro ⟨approved, happroved⟩
      exact ⟨_, ⟨approved, happroved, rfl⟩, rfl⟩
  | appeal recovered =>
    simp only [Call.method, appeal, Call.Completes, returned_get_bind, returned_raiseIf_bind,
      returned_assign_bind, returned_assign, except_bind_eq_ok, pure_eq_ok, Except.ok.injEq]
    refine and_congr_right fun _ => and_congr_right fun _ => ?_
    constructor
    · rintro ⟨_, ⟨a, ha, rfl⟩, _, ⟨b, hb, rfl⟩, _, ⟨d, hd, rfl⟩, _, e, he, rfl⟩
      exact ⟨⟨a, ha⟩, ⟨b, hb⟩, ⟨d, hd⟩, e, he⟩
    · rintro ⟨⟨a, ha⟩, ⟨b, hb⟩, ⟨d, hd⟩, e, he⟩
      exact ⟨_, ⟨a, ha, rfl⟩, _, ⟨b, hb, rfl⟩, _, ⟨d, hd, rfl⟩, _, e, he, rfl⟩
  | applyPayment cash =>
    simp only [Call.method, applyPayment, Call.Completes, returned_get_bind, returned_raiseIf_bind,
      returned_assign_bind, returned_assign, except_bind_eq_ok, pure_eq_ok, Except.ok.injEq]
    refine and_congr_right fun _ => and_congr_right fun _ => ?_
    constructor
    · rintro ⟨_, ⟨a, ha, rfl⟩, _, b, hb, rfl⟩
      exact ⟨⟨a, ha⟩, b, hb⟩
    · rintro ⟨⟨a, ha⟩, b, hb⟩
      exact ⟨_, ⟨a, ha, rfl⟩, _, b, hb, rfl⟩

/-- The ledger after a call, whether it returned or raised. -/
def step (l : FinanceLedger α) (c : Call α) : FinanceLedger α := final (c.method l)

/-- The step of a submission. -/
theorem step_submit (l : FinanceLedger α) : step l .submit = final (submit l) := by
  have hrun : step l .submit = final ((submit >>= fun _ => pure ()) l) := rfl
  rw [hrun, bind_run]
  cases submit l <;> rfl

end

/-! ## Clear books -/

/-- No work is left to bill and nothing is receivable. -/
structure Clear (l : FinanceLedger Decimal) : Prop where
  wip : l.wip.IsZero
  accountsReceivable : l.accountsReceivable.IsZero

/-- A balance that can be computed is zero. -/
def SumsToZero (balance : Except PyError Decimal) : Prop :=
  ∀ d, balance = .ok d → d.IsZero

/-- The new balance of what is to be billed or receivable, for a call that passes its checks, is
zero. -/
def Call.KeepsClear (l : FinanceLedger Decimal) : Call Decimal → Prop
  | .record amount => Amount.le amount Amount.zero = .ok false →
    SumsToZero (do let _ ← Amount.add l.work amount; Amount.add l.wip amount)
  | .audit reduction => Amount.lt reduction Amount.zero = .ok false →
    Amount.lt l.submitted reduction = .ok false → SumsToZero (Amount.sub l.submitted reduction)
  | .appeal recovered => Amount.le recovered Amount.zero = .ok false →
    Amount.lt l.reduced recovered = .ok false →
    SumsToZero (do
      let _ ← Amount.sub l.reduced recovered
      let _ ← Amount.add l.approved recovered
      let _ ← Amount.add l.appealRecovery recovered
      Amount.add l.accountsReceivable recovered)
  | .submit | .applyPayment _ => True

/-- Recording work keeps the books clear where the call does. -/
theorem Clear.record {l : FinanceLedger Decimal} (h : l.Clear) {amount : Decimal}
    (hc : (Call.record amount).KeepsClear l) : (final (FinanceLedger.record amount l)).Clear := by
  unfold FinanceLedger.record
  simp only [final_raiseIf_bind, final_assign_bind, final_assign]
  split
  next hle =>
    have hz := hc hle
    cases hw : Amount.add l.work amount with
    | error e => exact h
    | ok work =>
      cases hwip : Amount.add l.wip amount with
      | error e =>
        simp only [ok_bind, pure_eq_ok, hwip, error_bind]
        exact ⟨h.wip, h.accountsReceivable⟩
      | ok wip =>
        simp only [ok_bind, pure_eq_ok, hwip]
        exact ⟨hz wip (by rw [hw]; exact hwip), h.accountsReceivable⟩
  · exact h

/-- Submitting keeps the books clear. -/
theorem Clear.submit {l : FinanceLedger Decimal} (h : l.Clear) :
    (final (FinanceLedger.submit l)).Clear := by
  unfold FinanceLedger.submit
  simp only [final_get_bind, final_raiseIf_bind, h.wip.le]
  exact h

/-- An audit keeps the books clear where the call does. -/
theorem Clear.audit {l : FinanceLedger Decimal} (h : l.Clear) {reduction : Decimal}
    (hc : (Call.audit reduction).KeepsClear l) : (final (FinanceLedger.audit reduction l)).Clear := by
  unfold FinanceLedger.audit
  simp only [final_get_bind, final_raiseIf_bind, final_modify_bind, final_assign_bind]
  split
  next h0 =>
    split
    next h1 =>
      cases ha : Amount.sub l.submitted reduction with
      | error e => exact ⟨h.wip, h.accountsReceivable⟩
      | ok approved => exact ⟨h.wip, hc h0 h1 approved ha⟩
    · exact h
  · exact h

/-- An appeal keeps the books clear where the call does. -/
theorem Clear.appeal {l : FinanceLedger Decimal} (h : l.Clear) {recovered : Decimal}
    (hc : (Call.appeal recovered).KeepsClear l) :
    (final (FinanceLedger.appeal recovered l)).Clear := by
  unfold FinanceLedger.appeal
  simp only [final_get_bind, final_raiseIf_bind, final_assign_bind, final_assign]
  split
  next h0 =>
    split
    next h1 =>
      have hz := hc h0 h1
      cases hr : Amount.sub l.reduced recovered with
      | error e => exact h
      | ok reduced =>
        cases ha : Amount.add l.approved recovered with
        | error e =>
          simp only [ok_bind, pure_eq_ok, ha, error_bind]
          exact ⟨h.wip, h.accountsReceivable⟩
        | ok approved =>
          cases hp : Amount.add l.appealRecovery recovered with
          | error e =>
            simp only [ok_bind, pure_eq_ok, ha, hp, error_bind]
            exact ⟨h.wip, h.accountsReceivable⟩
          | ok appealRecovery =>
            cases hs : Amount.add l.accountsReceivable recovered with
            | error e =>
              simp only [ok_bind, pure_eq_ok, ha, hp, hs, error_bind]
              exact ⟨h.wip, h.accountsReceivable⟩
            | ok receivable =>
              simp only [ok_bind, pure_eq_ok, ha, hp, hs]
              exact ⟨h.wip, hz receivable (by rw [hr, ha, hp]; exact hs)⟩
    · exact h
  · exact h

/-- A payment keeps the books clear. -/
theorem Clear.applyPayment {l : FinanceLedger Decimal} (h : l.Clear) (cash : Decimal) :
    (final (FinanceLedger.applyPayment cash l)).Clear := by
  unfold FinanceLedger.applyPayment
  simp only [final_get_bind, final_raiseIf_bind, final_assign_bind, final_assign]
  split
  next h0 =>
    split
    next h1 =>
      have hcash : cash.IsZero := h.accountsReceivable.of_bounds h0 h1
      cases ha : Amount.add l.cash cash with
      | error e => exact h
      | ok total =>
        cases hs : Amount.sub l.accountsReceivable cash with
        | error e =>
          simp only [ok_bind, pure_eq_ok, hs, error_bind]
          exact ⟨h.wip, h.accountsReceivable⟩
        | ok remaining =>
          simp only [ok_bind, pure_eq_ok, hs]
          exact ⟨h.wip, h.accountsReceivable.sub hcash hs⟩
    · exact h
  · exact h

/-- Clear books stay clear in a call that adds nothing to bill and nothing receivable: an invoice
finds no work in progress, and a payment finds nothing to pay. -/
theorem Clear.step {l : FinanceLedger Decimal} (h : l.Clear) {c : Call Decimal}
    (hc : c.KeepsClear l) : (step l c).Clear := by
  cases c with
  | record amount => exact h.record hc
  | submit =>
    rw [step_submit]
    exact h.submit
  | audit reduction => exact h.audit hc
  | appeal recovered => exact h.appeal hc
  | applyPayment cash => exact h.applyPayment cash

/-! ## Exact amounts -/

section
variable {l : FinanceLedger ℚ} {c : Call ℚ}

/-- The checks of a call's method, on exact amounts. -/
def Call.Accepted (l : FinanceLedger ℚ) : Call ℚ → Prop
  | .record amount => 0 < amount
  | .submit => 0 < l.wip
  | .audit reduction => 0 ≤ reduction ∧ reduction ≤ l.submitted
  | .appeal recovered => 0 < recovered ∧ recovered ≤ l.reduced
  | .applyPayment cash => 0 ≤ cash ∧ cash ≤ l.accountsReceivable

/-- The assignments of a call's method, on exact amounts. -/
def Call.effect (l : FinanceLedger ℚ) : Call ℚ → FinanceLedger ℚ
  | .record amount => { l with work := l.work + amount, wip := l.wip + amount }
  | .submit => { l with wip := 0, submitted := l.submitted + l.wip }
  | .audit reduction =>
    { l with reduced := reduction, approved := l.submitted - reduction,
             accountsReceivable := l.submitted - reduction }
  | .appeal recovered =>
    { l with reduced := l.reduced - recovered, approved := l.approved + recovered,
             appealRecovery := l.appealRecovery + recovered,
             accountsReceivable := l.accountsReceivable + recovered }
  | .applyPayment cash =>
    { l with cash := l.cash + cash, accountsReceivable := l.accountsReceivable - cash }

/-- A call that passes its checks returns. -/
theorem method_of_accepted (h : c.Accepted l) : c.method l = .ok () (c.effect l) := by
  cases c with
  | record amount =>
    have h0 : ¬ amount ≤ 0 := not_le.2 h
    simp [Call.method, Call.effect, record, bind_run, assign_run, h0]
  | submit =>
    have h0 : ¬ l.wip ≤ 0 := not_le.2 h
    simp [Call.method, Call.effect, submit, bind_run, map_run, assign_run, h0]
  | audit reduction =>
    have h0 : ¬ reduction < 0 := not_lt.2 h.1
    have h1 : ¬ l.submitted < reduction := not_lt.2 h.2
    simp [Call.method, Call.effect, audit, bind_run, assign_run, h0, h1]
  | appeal recovered =>
    have h0 : ¬ recovered ≤ 0 := not_le.2 h.1
    have h1 : ¬ l.reduced < recovered := not_lt.2 h.2
    simp [Call.method, Call.effect, appeal, bind_run, assign_run, h0, h1]
  | applyPayment cash =>
    have h0 : ¬ cash < 0 := not_lt.2 h.1
    have h1 : ¬ l.accountsReceivable < cash := not_lt.2 h.2
    simp [Call.method, Call.effect, applyPayment, bind_run, assign_run, h0, h1]

/-- A call that fails a check raises and changes nothing. -/
theorem method_of_not_accepted (h : ¬ c.Accepted l) : ∃ e, c.method l = .error e l := by
  cases c with
  | record amount =>
    have h0 : amount ≤ 0 := not_lt.1 h
    simp [Call.method, record, bind_run, h0]
  | submit =>
    have h0 : l.wip ≤ 0 := not_lt.1 h
    simp [Call.method, submit, bind_run, h0]
  | audit reduction =>
    by_cases h0 : reduction < 0
    · simp [Call.method, audit, bind_run, h0]
    · have h1 : l.submitted < reduction := not_le.1 fun h1 => h ⟨not_lt.1 h0, h1⟩
      simp [Call.method, audit, bind_run, h0, h1]
  | appeal recovered =>
    by_cases h0 : recovered ≤ 0
    · simp [Call.method, appeal, bind_run, h0]
    · have h1 : l.reduced < recovered := not_le.1 fun h1 => h ⟨not_le.1 h0, h1⟩
      simp [Call.method, appeal, bind_run, h0, h1]
  | applyPayment cash =>
    by_cases h0 : cash < 0
    · simp [Call.method, applyPayment, bind_run, h0]
    · have h1 : l.accountsReceivable < cash := not_le.1 fun h1 => h ⟨not_lt.1 h0, h1⟩
      simp [Call.method, applyPayment, bind_run, h0, h1]

/-- On exact amounts a method returns where its checks pass. -/
theorem returned_method_iff : returned (c.method l) = true ↔ c.Accepted l := by
  constructor
  · intro h
    by_contra hn
    obtain ⟨e, he⟩ := method_of_not_accepted hn
    rw [he] at h
    cases h
  · intro h
    rw [method_of_accepted h]; rfl

/-- An accepted call assigns the balances. -/
theorem step_of_accepted (h : c.Accepted l) : step l c = c.effect l := by
  rw [step, method_of_accepted h]; rfl

/-- A call that is not accepted changes nothing. -/
theorem step_of_not_accepted (h : ¬ c.Accepted l) : step l c = l := by
  obtain ⟨e, he⟩ := method_of_not_accepted h
  rw [step, he]; rfl

end

/-- A call after which the balances are settled: an audit, an appeal or a payment. -/
def Call.Settles : Call ℚ → Prop
  | .audit _ | .appeal _ | .applyPayment _ => True
  | .record _ | .submit => False

/-- The balances of an approved invoice add up, nothing is owed to the carrier, and no more cash was
applied than was submitted. -/
structure Collected (l : FinanceLedger ℚ) : Prop where
  approved : l.approved = l.accountsReceivable + l.cash + l.writeOff
  accountsReceivable : 0 ≤ l.accountsReceivable
  cash : l.cash ≤ l.submitted

/-- The step's call succeeded, settled the balances and left them as they should be, or it did
something else. -/
def SettledStep (l : FinanceLedger ℚ) (c : Call ℚ) : Prop :=
  c.Settles → returned (c.method l) = true → (step l c).Collected

/-- An audit that passes its bounds finds no cash applied yet. -/
def AuditedBeforeCash (l : FinanceLedger ℚ) (c : Call ℚ) : Prop :=
  ∀ reduction, c = .audit reduction → 0 ≤ reduction → reduction ≤ l.submitted → l.cash = 0

/-- What holds of the ledger while audits come before cash. `submitted` may run ahead of the last
audit, so it only bounds the other balances. -/
structure Sound (l : FinanceLedger ℚ) : Prop where
  writeOff : l.writeOff = 0
  approved : l.approved = l.accountsReceivable + l.cash
  accountsReceivable : 0 ≤ l.accountsReceivable
  reduced : 0 ≤ l.reduced
  submitted : l.approved + l.reduced ≤ l.submitted

/-- Sound balances add up, and no more cash is there than was submitted. -/
theorem Sound.collected {l : FinanceLedger ℚ} (h : l.Sound) : l.Collected where
  approved := by rw [h.writeOff, h.approved, add_zero]
  accountsReceivable := h.accountsReceivable
  cash := by linarith [h.approved, h.accountsReceivable, h.reduced, h.submitted]

/-- An empty ledger is sound. -/
theorem sound_initial : (initial : FinanceLedger ℚ).Sound := by
  constructor <;> simp [initial]

/-- One call keeps the ledger sound, provided an accepted audit finds no cash. -/
theorem Sound.step {l : FinanceLedger ℚ} (h : l.Sound) {c : Call ℚ} (hc : AuditedBeforeCash l c) :
    (step l c).Sound := by
  by_cases ha : c.Accepted l
  · rw [step_of_accepted ha]
    obtain ⟨hw, hap, hr, hred, hs⟩ := h
    cases c with
    | record amount => exact ⟨hw, hap, hr, hred, hs⟩
    | submit =>
      have hwip : 0 < l.wip := ha
      refine ⟨hw, hap, hr, hred, ?_⟩
      show l.approved + l.reduced ≤ l.submitted + l.wip
      linarith
    | audit reduction =>
      have hcash : l.cash = 0 := hc reduction rfl ha.1 ha.2
      refine ⟨hw, ?_, sub_nonneg.2 ha.2, ha.1, ?_⟩
      · show l.submitted - reduction = l.submitted - reduction + l.cash
        rw [hcash, add_zero]
      · show l.submitted - reduction + reduction ≤ l.submitted
        rw [sub_add_cancel]
    | appeal recovered =>
      obtain ⟨hpos, hle⟩ := ha
      refine ⟨hw, ?_, ?_, sub_nonneg.2 hle, ?_⟩
      · show l.approved + recovered = l.accountsReceivable + recovered + l.cash
        linarith
      · show 0 ≤ l.accountsReceivable + recovered
        linarith
      · show l.approved + recovered + (l.reduced - recovered) ≤ l.submitted
        linarith
    | applyPayment cash =>
      obtain ⟨hpos, hle⟩ := ha
      refine ⟨hw, ?_, sub_nonneg.2 hle, hred, hs⟩
      show l.approved = l.accountsReceivable - cash + (l.cash + cash)
      linarith
  · rw [step_of_not_accepted ha]
    exact h

/-- No call touches the write-off balance. -/
theorem step_writeOff (l : FinanceLedger ℚ) (c : Call ℚ) : (step l c).writeOff = l.writeOff := by
  by_cases ha : c.Accepted l
  · rw [step_of_accepted ha]
    cases c <;> rfl
  · rw [step_of_not_accepted ha]

/-- An audit that succeeds while cash is applied counts that cash as receivable again. -/
theorem SettledStep.auditedBeforeCash {l : FinanceLedger ℚ} {c : Call ℚ} (hw : l.writeOff = 0)
    (h : SettledStep l c) : AuditedBeforeCash l c := by
  rintro reduction rfl h0 h1
  have ha : (Call.audit reduction).Accepted l := ⟨h0, h1⟩
  have hcol := (h trivial (returned_method_iff.2 ha)).approved
  rw [step_of_accepted ha] at hcol
  have : l.submitted - reduction = l.submitted - reduction + l.cash + l.writeOff := hcol
  linarith

/-- A run whose settling calls all leave the balances settled audits before cash. -/
theorem allSteps_auditedBeforeCash {calls : List (Call ℚ)}
    (h : Machine.AllSteps step SettledStep initial calls) :
    Machine.AllSteps step AuditedBeforeCash initial calls := by
  refine h.imp_of (I := fun l => l.writeOff = 0) (fun l c hw hc => ?_) rfl
  exact ⟨hc.auditedBeforeCash hw, (step_writeOff l c).trans hw⟩

/-- A run that audits before cash leaves the balances settled. -/
theorem allSteps_settledStep {calls : List (Call ℚ)}
    (h : Machine.AllSteps step AuditedBeforeCash initial calls) :
    Machine.AllSteps step SettledStep initial calls := by
  refine h.imp_of (I := Sound) (fun l c hs hc => ?_) sound_initial
  have hs' : (FinanceLedger.step l c).Sound := hs.step hc
  exact ⟨fun _ _ => hs'.collected, hs'⟩

/-- **No double collection.** Over any sequence of calls on exact amounts, every successful audit,
appeal and payment leaves the balances settled exactly when every audit that passes its bounds finds
no cash applied: `audit` resets the receivable to the whole approved amount and forgets the cash. -/
theorem noDoubleCollection_iff (calls : List (Call ℚ)) :
    Machine.AllSteps step SettledStep initial calls ↔
      Machine.AllSteps step AuditedBeforeCash initial calls :=
  ⟨allSteps_auditedBeforeCash, allSteps_settledStep⟩

/-- Time of 100 is invoiced, audited, paid, and audited once more: the second audit opens the paid
amount for collection again. -/
theorem collects_twice :
    ¬ ∀ calls : List (Call ℚ), Machine.AllSteps step SettledStep initial calls := by
  intro h
  have hrun := allSteps_auditedBeforeCash
    (h ([.record 100, .submit, .audit 0, .applyPayment 100] ++ [.audit 0]))
  have hcash := hrun.at 0 rfl (by decide +kernel) (by decide +kernel)
  revert hcash
  decide +kernel

end FinanceLedger

end LawFirmDigitalTwin
