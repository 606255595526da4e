import LawFirmDigitalTwin.Lib.HashChain
import LawFirmDigitalTwin.Lib.Run
import LawFirmDigitalTwin.SealedIpc.Authorize
import LawFirmDigitalTwin.SealedIpc.Validator

/-!
# Runs of the authorizer

Calls of `authorize` one after the other on a fresh ledger. A success that the ledger has recorded
for a key was returned by an earlier call, and stays; so a nonce and a key are accepted once, and
what is accepted is covered by an issued capability.
-/

namespace LawFirmDigitalTwin

/-- The ledger after some calls. -/
abbrev ledgerAfter (key : List Nat) (calls : List IpcCall) : ReplayLedger :=
  Machine.run (fun l call => (authorize key l call).2) .fresh calls

/-- What a call returns after some calls. -/
def outcomeAfter (key : List Nat) (before : List IpcCall) (call : IpcCall) : IpcOutcome :=
  (authorize key (ledgerAfter key before) call).1

/-- A call that, after some calls, is accepted for the first time. -/
structure Original (key : List Nat) (before : List IpcCall) (call : IpcCall)
    (r : SealedIpcRequest) : Prop where
  argument : call.argument = .request r
  precheck : precheck key call r = .ok (.admitted none)
  key_free : (ledgerAfter key before).priorSuccess r.idempotencyHash = none
  nonce_free : r.nonceHash ∉ (ledgerAfter key before).nonceHashes

section
variable {key : List Nat} {l : ReplayLedger} {call : IpcCall} {r : SealedIpcRequest}

/-! ## One step -/

/-- An accepted entry records its success under the key of its request, and nothing else. -/
theorem priorSuccess_appended_accepted (receipt : SealedIpcSuccessReceipt) (principal h : String) :
    (l.appended r principal .accepted (some receipt)).priorSuccess h =
      if h = r.idempotencyHash then some (r.requestHash, receipt) else l.priorSuccess h :=
  PyDict.get?_set ..

section
variable {o : IpcOutcome} {l' : ReplayLedger}

/-- A call changes the recorded success of a key only where there was none and the call is accepted
for the first time. -/
theorem AuthorizeOutcome.priorSuccess (hout : AuthorizeOutcome key l call o l') (h : String) :
    l'.priorSuccess h = l.priorSuccess h ∨
      ∃ r, call.argument = .request r ∧ precheck key call r = .ok (.admitted none) ∧
        r.idempotencyHash = h ∧ l.priorSuccess h = none ∧ r.nonceHash ∉ l.nonceHashes ∧
        l'.priorSuccess h = some (r.requestHash, successReceipt r call.resultCommitment) := by
  cases hout with
  | other harg => exact .inl rfl
  | raised harg => exact .inl rfl
  | denied harg => exact .inl rfl
  | @duplicate r pending prior harg hwrite hpre hprior =>
    left
    rw [priorSuccess_appended_accepted]
    split
    · next heq => rw [heq, hprior]
    · rfl
  | @fresh r harg hpre hprior hnonce =>
    rw [priorSuccess_appended_accepted]
    by_cases heq : h = r.idempotencyHash
    · subst heq
      exact .inr ⟨r, harg, hpre, rfl, hprior, hnonce, if_pos rfl⟩
    · exact .inl (if_neg heq)

/-- Nonces are never forgotten. -/
theorem AuthorizeOutcome.nonceHashes (hout : AuthorizeOutcome key l call o l') {n : String}
    (hn : n ∈ l.nonceHashes) : n ∈ l'.nonceHashes := by
  cases hout with
  | other | raised => exact hn
  | denied | duplicate | fresh => exact Finset.mem_insert_of_mem hn

/-- An accepted receipt that is no duplicate is the one of a call accepted for the first time. -/
theorem AuthorizeOutcome.first (hout : AuthorizeOutcome key l call o l')
    (harg : call.argument = .request r) {a : SealedIpcSuccessReceipt} (ho : o = .accepted a)
    (hfirst : a.duplicate = false) :
    precheck key call r = .ok (.admitted none) ∧ l.priorSuccess r.idempotencyHash = none ∧
      r.nonceHash ∉ l.nonceHashes ∧ a = successReceipt r call.resultCommitment := by
  cases hout with
  | other | raised | denied => cases ho
  | duplicate => cases ho; cases hfirst
  | fresh harg' hpre hprior hnonce =>
    rw [harg] at harg'
    cases harg'
    cases ho
    exact ⟨hpre, hprior, hnonce, rfl⟩

/-- A call accepted for the first time records its key and its nonce. -/
theorem authorize_first (harg : call.argument = .request r)
    (hpre : precheck key call r = .ok (.admitted none))
    (hprior : l.priorSuccess r.idempotencyHash = none) (hnonce : r.nonceHash ∉ l.nonceHashes) :
    authorize key l call = (.accepted (successReceipt r call.resultCommitment),
      l.appended r call.principal .accepted (some (successReceipt r call.resultCommitment))) := by
  have hno : l.hasNonce r.nonceHash = false := decide_eq_false hnonce
  have hwrite := (precheck_admitted_none.1 hpre).1.writable
  unfold authorize
  simp only [harg, hpre, hprior, decidePrior, decideNonce, hno, Bool.false_eq_true, if_false]
  exact conclude_of_writable hwrite _

/-- A call with a recorded success for the same request is accepted as a duplicate. -/
theorem authorize_duplicate {pending : Option InternalDenialCode} {prior : SealedIpcSuccessReceipt}
    (harg : call.argument = .request r) (hwrite : r.capability.writable = true)
    (hpre : precheck key call r = .ok (.admitted pending))
    (hprior : l.priorSuccess r.idempotencyHash = some (r.requestHash, prior)) :
    authorize key l call = (.accepted { prior with duplicate := true },
      l.appended r call.principal .accepted (some prior)) := by
  unfold authorize
  simp only [harg, hpre, hprior, decidePrior_same hwrite]
  exact conclude_of_writable hwrite _

end

/-! ## Runs -/

/-- A first acceptance is the original of its success. -/
theorem original_of_accepted {before : List IpcCall} {a : SealedIpcSuccessReceipt}
    (harg : call.argument = .request r) (h : outcomeAfter key before call = .accepted a)
    (hfirst : a.duplicate = false) :
    Original key before call r ∧ a = successReceipt r call.resultCommitment := by
  obtain ⟨hpre, hprior, hnonce, ha⟩ := (authorize_outcome key _ call).first harg h hfirst
  exact ⟨⟨harg, hpre, hprior, hnonce⟩, ha⟩

/-- A recorded success was returned by a call accepted for the first time. -/
theorem recorded {calls : List IpcCall} {h hash : String} {receipt : SealedIpcSuccessReceipt}
    (hprior : (ledgerAfter key calls).priorSuccess h = some (hash, receipt)) :
    ∃ pre c post r, calls = pre ++ c :: post ∧ Original key pre c r ∧ r.idempotencyHash = h ∧
      r.requestHash = hash ∧ receipt = successReceipt r c.resultCommitment := by
  induction calls using List.reverseRecOn with
  | nil => cases hprior
  | append_singleton calls c ih =>
    unfold ledgerAfter at hprior
    rw [Machine.run_concat] at hprior
    rcases (authorize_outcome key (ledgerAfter key calls) c).priorSuccess h with
      hsame | ⟨r, harg, hpre, hkey, hnone, hnonce, hnew⟩
    · rw [hsame] at hprior
      obtain ⟨pre, c', post, r, rfl, horiginal, hrest⟩ := ih hprior
      exact ⟨pre, c', post ++ [c], r, by simp, horiginal, hrest⟩
    · rw [hnew] at hprior
      cases hprior
      subst hkey
      exact ⟨calls, c, [], r, rfl, ⟨harg, hpre, hnone, hnonce⟩, rfl, rfl, rfl⟩

/-- What a call accepted for the first time recorded stays. -/
theorem Original.kept {pre : List IpcCall} (h : Original key pre call r) (post : List IpcCall) :
    (ledgerAfter key (pre ++ call :: post)).priorSuccess r.idempotencyHash =
        some (r.requestHash, successReceipt r call.resultCommitment) ∧
      r.nonceHash ∈ (ledgerAfter key (pre ++ call :: post)).nonceHashes := by
  induction post using List.reverseRecOn with
  | nil =>
    unfold ledgerAfter
    rw [Machine.run_concat, authorize_first h.argument h.precheck h.key_free h.nonce_free]
    refine ⟨?_, Finset.mem_insert_self ..⟩
    exact (priorSuccess_appended_accepted ..).trans (if_pos rfl)
  | append_singleton post c ih =>
    obtain ⟨hprior, hnonce⟩ := ih
    have hout := authorize_outcome key (ledgerAfter key (pre ++ call :: post)) c
    unfold ledgerAfter
    rw [← List.cons_append, ← List.append_assoc, Machine.run_concat]
    refine ⟨?_, hout.nonceHashes hnonce⟩
    rcases hout.priorSuccess r.idempotencyHash with hsame | ⟨_, -, -, -, hnone, -, -⟩
    · rw [hsame, hprior]
    · rw [hprior] at hnone
      cases hnone

/-! ## Requests -/

/-- The dump of a capability tells it from every other. -/
theorem SealedIpcCapability.toJson_injective : Function.Injective SealedIpcCapability.toJson := by
  rintro ⟨⟩ ⟨⟩ h
  simpa [SealedIpcCapability.toJson, and_assoc] using h

/-- The dump of a request tells it from every other. -/
theorem SealedIpcRequest.toJson_injective : Function.Injective SealedIpcRequest.toJson := by
  rintro ⟨⟩ ⟨⟩ h
  simpa [SealedIpcRequest.toJson, SealedIpcCapability.toJson_injective.eq_iff, and_assoc] using h

/-- The forms of the requests of some calls, which the ledger keeps the digests of. -/
def requestForms (calls : List IpcCall) : Set Json :=
  {j | ∃ call ∈ calls, ∃ r, call.argument = .request r ∧ r.toJson = j}

/-- Requests of one hash are one request. -/
theorem eq_of_requestHash {calls : List IpcCall} (hinj : Set.InjOn digest (requestForms calls))
    {c c' : IpcCall} {r r' : SealedIpcRequest} (hc : c ∈ calls) (hc' : c' ∈ calls)
    (harg : c.argument = .request r) (harg' : c'.argument = .request r')
    (h : r.requestHash = r'.requestHash) : r = r' :=
  SealedIpcRequest.toJson_injective (hinj ⟨c, hc, r, harg, rfl⟩ ⟨c', hc', r', harg', rfl⟩ h)

/-- **What is accepted is well formed**, as a duplicate too: the pending denial of a malformed
request is only forgotten for a request that was accepted before. -/
theorem accepted_wellformed {pre post : List IpcCall}
    (hinj : Set.InjOn digest (requestForms (pre ++ call :: post))) {receipt : SealedIpcSuccessReceipt}
    (h : outcomeAfter key pre call = .accepted receipt) :
    ∃ r, call.argument = .request r ∧ (∃ call', Wellformed key call' r) ∧ Entitled call r := by
  have hout := authorize_outcome key (ledgerAfter key pre) call
  rw [outcomeAfter] at h
  rw [h] at hout
  generalize (authorize key (ledgerAfter key pre) call).2 = l' at hout
  cases hout with
  | fresh harg hpre hprior hnonce =>
    obtain ⟨hw, he⟩ := precheck_admitted_none.1 hpre
    exact ⟨_, harg, ⟨_, hw⟩, he⟩
  | @duplicate r pending prior harg hwrite hpre hprior =>
    cases pending with
    | none =>
      obtain ⟨hw, he⟩ := precheck_admitted_none.1 hpre
      exact ⟨r, harg, ⟨_, hw⟩, he⟩
    | some code =>
      obtain ⟨-, -, he⟩ := precheck_admitted_some.1 hpre
      obtain ⟨p, c', q, r', rfl, horiginal, -, hhash, -⟩ := recorded hprior
      obtain rfl : r' = r :=
        eq_of_requestHash hinj (by simp) (by simp) horiginal.argument harg hhash
      exact ⟨r', harg, ⟨c', (precheck_admitted_none.1 horiginal.precheck).1⟩, he⟩

end

end LawFirmDigitalTwin
