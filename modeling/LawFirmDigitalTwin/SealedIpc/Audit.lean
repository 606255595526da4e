import LawFirmDigitalTwin.SealedIpc.Agreement

/-!
# What the ledger says of a refused call

The code of a denial, and whether a call is recorded at all. The checks have an order of precedence,
which the code follows where `build_request` returns. Where it raises, the pending denial
`INVALID_REQUEST` is written over by whatever a later check finds. A comparison of texts that are
not ASCII raises, and so does hashing a request whose ticks cannot be written; such a call leaves no
entry.
-/

namespace LawFirmDigitalTwin

section
variable (key : List Nat) (l : ReplayLedger) (call : IpcCall) (r : SealedIpcRequest)

/-- Deriving the expected request raises, or one of the eight structural conditions fails. -/
def structuralFault : Bool :=
  let capability := r.capability
  let expectedTag := authTag key capability.unsignedPayload
  match buildRequest capability r.requestCommitment with
  | .error _ => true
  | .ok expected =>
    capability.revision ≠ sealedIpcCoreRevision ∨ capability.authTag ≠ expectedTag ∨
      capability.capabilityId ≠ capabilityIdOf capability.unsignedPayload expectedTag ∨
      r ≠ expected ∨ r.containsPayload ∨ r.canonicalWriteRequested ∨ r.externalEffectRequested ∨
      ¬ isHex64 call.resultCommitment

/-- The code of the first check after the structural ones that refuses, before the replay check. -/
def laterCode : Option InternalDenialCode :=
  if r.capability.principalCommitment ≠ call.principal then some .identityMismatch
  else if r.operation ≠ r.capability.allowedOperation ∨
      r.operatingMatterId ≠ r.capability.operatingMatterId then some .authorityMismatch
  else if call.currentTick < r.capability.issuedTick ∨
      r.capability.expiresTick ≤ call.currentTick then some .expired
  else none

/-- The code that a denial has by the order of precedence. -/
def precedenceCode : InternalDenialCode :=
  if structuralFault key call r then .invalidRequest else (laterCode call r).getD .replayed

/-- A call records a denial with a code. -/
def RecordsDenial (code : InternalDenialCode) : Prop :=
  ∃ e, (authorize key l call).2.entries = l.entries ++ [e] ∧ e.disposition = "DENIED" ∧
    e.internalDenialCode = code.text

/-- No check after the structural ones refuses the request: its caller is entitled, and neither its
key nor its nonce was used otherwise. Where a tick cannot be written, or a comparison of principals
or with a recorded request raises, nothing is recorded. -/
def UnrefusedLater : Prop :=
  r.capability.writable = false ∨
  isAscii r.capability.principalCommitment = false ∨ isAscii call.principal = false ∨
    laterCode call r = none ∧
      match l.priorSuccess r.idempotencyHash with
      | some (hash, _) => hash = r.requestHash ∨ isAscii hash = false
      | none => l.hasNonce r.nonceHash = false

end

section
variable {key : List Nat} {l : ReplayLedger} {call : IpcCall} {r : SealedIpcRequest}

/-- No structural fault is found in a well formed request. -/
theorem structuralFault_eq_false :
    structuralFault key call r = false ↔ Wellformed key call r := by
  unfold structuralFault
  dsimp only
  cases hb : buildRequest r.capability r.requestCommitment with
  | error e =>
    refine iff_of_false (by simp) fun hw => ?_
    cases hb.symm.trans hw.built
  | ok expected =>
    obtain ⟨-, hpayload, hcanonical, hexternal, -, -⟩ := buildRequest_ok hb
    simp only [decide_eq_false_iff_not, not_or, not_not, Bool.not_eq_true]
    constructor
    · rintro ⟨hrevision, htag, hid, hself, -, -, -, hresult⟩
      exact ⟨hrevision, htag, hid, hself.symm ▸ hb, by simpa using hresult⟩
    · rintro ⟨hrevision, htag, hid, hbuilt, hresult⟩
      obtain rfl := Except.ok.inj (hb.symm.trans hbuilt)
      exact ⟨hrevision, htag, hid, rfl, hpayload, hcanonical, hexternal, by simpa using hresult⟩

/-- The later checks never report an invalid request. -/
theorem laterCode_ne_invalid (h : laterCode call r = some .invalidRequest) : False := by
  unfold laterCode at h
  split at h
  · cases h
  split at h
  · cases h
  split at h
  · cases h
  · cases h

/-- The checks after the structural ones, up to the replay check. -/
theorem principalChecks_eq (pending : Option InternalDenialCode) :
    principalChecks call r pending =
      if isAscii r.capability.principalCommitment ∧ isAscii call.principal then
        .ok ((laterCode call r).elim (.admitted pending) .refused)
      else .error (.typeError "comparing strings with non-ASCII characters is not supported") := by
  unfold principalChecks compareDigest laterCode
  dsimp only
  by_cases hascii : isAscii r.capability.principalCommitment = true ∧ isAscii call.principal = true
  · rw [if_pos hascii, if_pos hascii]
    by_cases hprincipal : r.capability.principalCommitment = call.principal
    · rw [decide_eq_true hprincipal, if_neg (not_not_intro hprincipal)]
      dsimp only
      split
      · rfl
      split
      · rfl
      · rfl
    · rw [decide_eq_false hprincipal, if_pos hprincipal]
      rfl
  · rw [if_neg hascii, if_neg hascii]

/-- A request found invalid has a structural fault. -/
theorem structurallyInvalid_true {expected : SealedIpcRequest}
    (hb : buildRequest r.capability r.requestCommitment = .ok expected)
    (h : structurallyInvalid key r expected call.resultCommitment = .ok true) :
    structuralFault key call r = true := by
  rw [← Bool.not_eq_false, structuralFault_eq_false]
  intro hw
  cases h.symm.trans ((structurallyInvalid_false hb).2 hw)

/-- What the replay check makes of a recorded hash. -/
theorem decidePrior_some {hash : String} {receipt : SealedIpcSuccessReceipt}
    (hwrite : r.capability.writable = true) :
    decidePrior r (some (hash, receipt)) =
      if isAscii hash then
        .ok (some (if hash = r.requestHash then .acceptDuplicate receipt else .deny .replayed))
      else .error (.typeError "comparing strings with non-ASCII characters is not supported") := by
  have hhash : isAscii r.requestHash = true := isAscii_of_isHex64 (isHex64_digest _)
  unfold decidePrior compareDigest
  dsimp only
  rw [SealedIpcRequest.writable_toJson, if_neg (not_not_intro hwrite)]
  by_cases hascii : isAscii hash = true
  · rw [if_pos ⟨hascii, hhash⟩, if_pos hascii]
    by_cases heq : hash = r.requestHash
    · rw [decide_eq_true heq, if_pos heq]
      rfl
    · rw [decide_eq_false heq, if_neg heq]
      rfl
  · rw [if_neg fun h => hascii h.1, if_neg hascii]

/-- What is recorded of a call that comes to a decision. -/
theorem recordsDenial_conclude {d : Decision} (hwrite : r.capability.writable = true)
    (h : authorize key l call = conclude call r l d) (code : InternalDenialCode) :
    RecordsDenial key l call code ↔ d = .deny code := by
  have htext (code code' : InternalDenialCode) (h : code.text = code'.text) : code = code' := by
    cases code <;> cases code' <;> first | rfl | exact absurd h (by decide)
  have haccepted : IpcVerdict.accepted.disposition ≠ "DENIED" := by decide
  unfold RecordsDenial
  rw [h, conclude_of_writable hwrite]
  cases d with
  | deny code' =>
    constructor
    · rintro ⟨e, heq, -, hcode⟩
      obtain rfl := List.singleton_inj.1 (List.append_cancel_left heq)
      rw [htext _ _ hcode]
    · intro heq
      cases heq
      exact ⟨_, rfl, rfl, rfl⟩
  | acceptDuplicate prior =>
    refine iff_of_false ?_ (by simp)
    rintro ⟨e, heq, hdisposition, -⟩
    obtain rfl := List.singleton_inj.1 (List.append_cancel_left heq)
    exact haccepted hdisposition
  | acceptFresh =>
    refine iff_of_false ?_ (by simp)
    rintro ⟨e, heq, hdisposition, -⟩
    obtain rfl := List.singleton_inj.1 (List.append_cancel_left heq)
    exact haccepted hdisposition

/-- A call that raises records nothing. -/
theorem not_recordsDenial_of_raised {e : IpcError} (h : authorize key l call = (.raised e, l))
    (code : InternalDenialCode) : ¬ RecordsDenial key l call code := by
  rintro ⟨entry, heq, -⟩
  rw [h] at heq
  simp at heq

/-- What is recorded where the checks before the replay check are passed. -/
theorem recordsDenial_admitted {pending : Option InternalDenialCode}
    (hwrite : r.capability.writable = true) (harg : call.argument = .request r)
    (hpre : precheck key call r = .ok (.admitted pending)) (code : InternalDenialCode) :
    RecordsDenial key l call code ↔
      match l.priorSuccess r.idempotencyHash with
      | some (hash, _) => isAscii hash = true ∧ hash ≠ r.requestHash ∧ code = .replayed
      | none => decideNonce pending (l.hasNonce r.nonceHash) = .deny code := by
  cases hprior : l.priorSuccess r.idempotencyHash with
  | none =>
    have hrun : authorize key l call =
        conclude call r l (decideNonce pending (l.hasNonce r.nonceHash)) := by
      unfold authorize
      simp only [harg, hpre, hprior, decidePrior]
    exact recordsDenial_conclude hwrite hrun code
  | some prior =>
    obtain ⟨hash, receipt⟩ := prior
    dsimp only
    by_cases hascii : isAscii hash = true
    · have hrun : authorize key l call = conclude call r l
          (if hash = r.requestHash then .acceptDuplicate receipt else .deny .replayed) := by
        unfold authorize
        simp only [harg, hpre, hprior, decidePrior_some hwrite, if_pos hascii]
      rw [recordsDenial_conclude hwrite hrun]
      by_cases heq : hash = r.requestHash
      · simp [heq]
      · simp [heq, hascii, eq_comm]
    · have hrun : ∃ e, authorize key l call = (.raised e, l) := by
        unfold authorize
        simp only [harg, hpre, hprior, decidePrior_some hwrite, if_neg hascii]
        exact ⟨_, rfl⟩
      obtain ⟨e, hrun⟩ := hrun
      exact iff_of_false (not_recordsDenial_of_raised hrun code) fun h => hascii h.1

/-- What is recorded where a check before the replay check refuses. -/
theorem recordsDenial_refused {code' : InternalDenialCode} (hwrite : r.capability.writable = true)
    (harg : call.argument = .request r)
    (hpre : precheck key call r = .ok (.refused code')) (code : InternalDenialCode) :
    RecordsDenial key l call code ↔ code' = code := by
  have hrun : authorize key l call = conclude call r l (.deny code') := by
    unfold authorize
    simp only [harg, hpre]
  rw [recordsDenial_conclude hwrite hrun, Decision.deny.injEq]

/-- A call whose checks raise records no denial. -/
theorem not_recordsDenial_of_precheck {e : IpcError} (harg : call.argument = .request r)
    (hpre : precheck key call r = .error e) (code : InternalDenialCode) :
    ¬ RecordsDenial key l call code := by
  refine not_recordsDenial_of_raised (e := e) ?_ code
  unfold authorize
  simp only [harg, hpre]

/-- Where `build_request` returns, the recorded code follows the precedence. -/
theorem precedence_of_built {expected : SealedIpcRequest} (harg : call.argument = .request r)
    (hb : buildRequest r.capability r.requestCommitment = .ok expected)
    {code : InternalDenialCode} (h : RecordsDenial key l call code) :
    code = precedenceCode key call r := by
  have hwrite := writable_of_buildRequest hb
  unfold precedenceCode
  cases hs : structurallyInvalid key r expected call.resultCommitment with
  | error e =>
    have hpre : precheck key call r = .error e := by
      simp only [precheck_of_ok hb, hs]
    exact absurd h (not_recordsDenial_of_precheck harg hpre code)
  | ok bad =>
    cases bad with
    | true =>
      have hpre : precheck key call r = .ok (.refused .invalidRequest) := by
        simp only [precheck_of_ok hb, hs]
      rw [if_pos (structurallyInvalid_true hb hs)]
      exact ((recordsDenial_refused hwrite harg hpre code).1 h).symm
    | false =>
      have hsound : structuralFault key call r = false :=
        structuralFault_eq_false.2 ((structurallyInvalid_false hb).1 hs)
      have hpre : precheck key call r = principalChecks call r none := by
        simp only [precheck_of_ok hb, hs]
      rw [hsound, if_neg Bool.false_ne_true]
      rw [principalChecks_eq] at hpre
      split at hpre
      · cases hlater : laterCode call r with
        | some later =>
          rw [hlater] at hpre
          exact ((recordsDenial_refused hwrite harg hpre code).1 h).symm
        | none =>
          rw [hlater] at hpre
          have h := (recordsDenial_admitted hwrite harg hpre code).1 h
          split at h
          · exact h.2.2
          · unfold decideNonce at h
            split at h
            · exact (Decision.deny.inj h).symm
            · cases h
      · exact absurd h (not_recordsDenial_of_precheck harg hpre code)

/-- A request that cannot be written is not recorded. -/
theorem not_recordsDenial_of_unwritable (harg : call.argument = .request r)
    (hwrite : r.capability.writable = false) (code : InternalDenialCode) :
    ¬ RecordsDenial key l call code := by
  obtain ⟨e, hrun⟩ := authorize_of_unwritable key l harg hwrite
  exact not_recordsDenial_of_raised hrun code

/-- Where `build_request` raises, the recorded code is `INVALID_REQUEST` exactly when no later check
refuses. -/
theorem invalid_of_unbuilt_iff {e : IpcError} (harg : call.argument = .request r)
    (hb : buildRequest r.capability r.requestCommitment = .error e) :
    (∀ code, RecordsDenial key l call code → code = .invalidRequest) ↔
      UnrefusedLater l call r := by
  have hpre : precheck key call r = principalChecks call r (some .invalidRequest) :=
    precheck_of_error hb
  rw [principalChecks_eq] at hpre
  unfold UnrefusedLater
  by_cases hwrite : r.capability.writable = true
  swap
  · have hno := Bool.eq_false_iff.2 hwrite
    exact iff_of_true (fun code h => (not_recordsDenial_of_unwritable harg hno code h).elim)
      (.inl hno)
  simp only [hwrite, Bool.true_eq_false, false_or]
  by_cases hascii : isAscii r.capability.principalCommitment = true ∧ isAscii call.principal = true
  · rw [if_pos hascii] at hpre
    simp only [hascii.1, hascii.2, Bool.true_eq_false, false_or]
    cases hlater : laterCode call r with
    | some later =>
      rw [hlater] at hpre
      refine iff_of_false (fun h => ?_) (by simp)
      have hinvalid := h later ((recordsDenial_refused hwrite harg hpre later).2 rfl)
      rw [hinvalid] at hlater
      exact laterCode_ne_invalid hlater
    | none =>
      rw [hlater] at hpre
      simp only [recordsDenial_admitted hwrite harg hpre, true_and]
      cases hprior : l.priorSuccess r.idempotencyHash with
      | none =>
        dsimp only
        unfold decideNonce
        cases l.hasNonce r.nonceHash with
        | true => simp
        | false => simp
      | some prior =>
        obtain ⟨hash, receipt⟩ := prior
        dsimp only
        by_cases heq : hash = r.requestHash
        · simp [heq]
        · by_cases hhash : isAscii hash = true
          · simp [heq, hhash]
          · simp [heq, hhash]
  · rw [if_neg hascii] at hpre
    refine iff_of_true (fun code h => absurd h (not_recordsDenial_of_precheck harg hpre code)) ?_
    rcases not_and_or.1 hascii with h | h
    · exact .inl (Bool.not_eq_true _ ▸ h)
    · exact .inr (.inl (Bool.not_eq_true _ ▸ h))

end

/-- **The code of a denial.** For every key, ledger, request, principal, tick and result commitment,
a recorded denial has the code of the precedence exactly when the request's commitment is well
formed, or no check that runs after it refuses. -/
theorem denial_precedence_iff (key : List Nat) (l : ReplayLedger) (r : SealedIpcRequest)
    (principal : String) (tick : Int) (result : String) :
    (∀ code, RecordsDenial key l ⟨.request r, principal, tick, result⟩ code →
        code = precedenceCode key ⟨.request r, principal, tick, result⟩ r) ↔
      isHex64 r.requestCommitment = true ∨
        UnrefusedLater l ⟨.request r, principal, tick, result⟩ r := by
  cases hb : buildRequest r.capability r.requestCommitment with
  | ok expected =>
    refine iff_of_true (fun code h => precedence_of_built rfl hb h) ?_
    exact .inl (buildRequest_ok hb).1
  | error e =>
    have hcode : precedenceCode key ⟨.request r, principal, tick, result⟩ r = .invalidRequest := by
      unfold precedenceCode structuralFault
      simp only [hb]
      rfl
    rw [hcode, invalid_of_unbuilt_iff rfl hb]
    refine ⟨.inr, ?_⟩
    rintro (hhex | hunrefused)
    · -- The commitment is right, so the ticks are not, and nothing is recorded.
      refine .inl ((buildRequest_error hb).resolve_left fun hform => ?_)
      cases hform.symm.trans hhex
    · exact hunrefused

/-- The sample request with a commitment that is none. -/
def malformedRequest : SealedIpcRequest :=
  { sampleRequest with requestCommitment := "not-a-commitment" }

/-- **A malformed request of the wrong principal** is recorded as `IDENTITY_MISMATCH`. -/
theorem denial_not_by_precedence :
    ∃ code, RecordsDenial sampleKey .fresh ⟨.request malformedRequest, "somebody-else", 11,
        sampleCall.resultCommitment⟩ code ∧
      code ≠ precedenceCode sampleKey ⟨.request malformedRequest, "somebody-else", 11,
        sampleCall.resultCommitment⟩ malformedRequest := by
  have hb : buildRequest malformedRequest.capability malformedRequest.requestCommitment =
      .error (.valueError "ipc_request_commitment_invalid") := if_pos (by decide)
  have hlater : laterCode ⟨.request malformedRequest, "somebody-else", 11,
      sampleCall.resultCommitment⟩ malformedRequest = some .identityMismatch :=
    if_pos (by decide +kernel)
  refine ⟨.identityMismatch, (recordsDenial_refused (by decide +kernel) rfl ?_ _).2 rfl, ?_⟩
  · rw [precheck_of_error hb, principalChecks_eq, hlater, if_pos (by decide +kernel)]
    rfl
  · unfold precedenceCode structuralFault
    simp only [hb]
    decide

/-! ## Whether a call is recorded -/

/-- The disposition of the receipt, if there is one. -/
def IpcOutcome.disposition : IpcOutcome → Option String
  | .denied receipt => some receipt.disposition
  | .accepted receipt => some receipt.disposition
  | .raised _ => none

/-- A call returns a receipt and appends one entry with its disposition. -/
def AuditedOnce (key : List Nat) (l : ReplayLedger) (call : IpcCall) : Prop :=
  ∃ e, (authorize key l call).2.entries = l.entries ++ [e] ∧
    (authorize key l call).1.disposition = some e.disposition

/-- The ledgers that appending makes; a success that is recorded is a receipt of an acceptance. -/
inductive LedgerReachable : ReplayLedger → Prop
  | fresh : LedgerReachable .fresh
  | append {l l' : ReplayLedger} (request : SealedIpcRequest) (principal : String)
      (verdict : IpcVerdict) (success : Option SealedIpcSuccessReceipt) : LedgerReachable l →
      (∀ receipt ∈ success, receipt.disposition = "ACCEPTED") →
      l.append request principal verdict success = .ok l' → LedgerReachable l'

/-- The ticks of a request can be written, and the texts that a call compares are ASCII: the tag, where
`build_request` returns and the revision is right; the principals, where the request is not refused
before. -/
structure ComparesAscii (key : List Nat) (call : IpcCall) (r : SealedIpcRequest) : Prop where
  ticks : r.capability.writable = true
  tag : isHex64 r.requestCommitment = true → r.capability.revision = sealedIpcCoreRevision →
    isAscii r.capability.authTag = true
  principals : isHex64 r.requestCommitment = false ∨ Wellformed key call r →
    isAscii r.capability.principalCommitment = true ∧ isAscii call.principal = true

section
variable {key : List Nat} {l : ReplayLedger} {call : IpcCall} {r : SealedIpcRequest}

/-- What a reachable ledger has recorded as a success. -/
theorem LedgerReachable.priorSuccess (h : LedgerReachable l) {idempotencyHash hash : String}
    {receipt : SealedIpcSuccessReceipt}
    (hprior : l.priorSuccess idempotencyHash = some (hash, receipt)) :
    isAscii hash = true ∧ receipt.disposition = "ACCEPTED" := by
  induction h with
  | fresh => cases hprior
  | @append l l' request principal verdict success _ hsuccess happend ih =>
    obtain rfl := ReplayLedger.append_ok happend
    cases verdict with
    | denied code => exact ih hprior
    | accepted =>
      cases success with
      | none => exact ih hprior
      | some accepted =>
        rw [priorSuccess_appended_accepted] at hprior
        split at hprior
        · obtain ⟨rfl, rfl⟩ := Prod.mk.inj (Option.some.inj hprior)
          exact ⟨isAscii_of_isHex64 (isHex64_digest _), hsuccess _ rfl⟩
        · exact ih hprior

/-- A call that comes to a decision is recorded. -/
theorem auditedOnce_conclude {d : Decision} (hwrite : r.capability.writable = true)
    (h : authorize key l call = conclude call r l d)
    (hprior : ∀ prior, d = .acceptDuplicate prior → prior.disposition = "ACCEPTED") :
    AuditedOnce key l call := by
  unfold AuditedOnce
  rw [h, conclude_of_writable hwrite]
  cases d with
  | deny code => exact ⟨_, rfl, rfl⟩
  | acceptDuplicate prior => exact ⟨_, rfl, congrArg some (hprior prior rfl)⟩
  | acceptFresh => exact ⟨_, rfl, rfl⟩

/-- A call whose checks raise is not audited. -/
theorem not_auditedOnce_of_precheck {e : IpcError} (harg : call.argument = .request r)
    (hpre : precheck key call r = .error e) : ¬ AuditedOnce key l call := by
  rintro ⟨entry, heq, -⟩
  unfold authorize at heq
  simp [harg, hpre] at heq

/-- Where no check before the replay check raises, a call whose request can be written is
recorded. -/
theorem auditedOnce_of_precheck (hl : LedgerReachable l) (hwrite : r.capability.writable = true)
    {check : Precheck}
    (harg : call.argument = .request r) (hpre : precheck key call r = .ok check) :
    AuditedOnce key l call := by
  cases check with
  | refused code =>
    refine auditedOnce_conclude (d := .deny code) hwrite ?_ nofun
    unfold authorize
    simp only [harg, hpre]
  | admitted pending =>
    cases hprior : l.priorSuccess r.idempotencyHash with
    | none =>
      have hrun : authorize key l call =
          conclude call r l (decideNonce pending (l.hasNonce r.nonceHash)) := by
        unfold authorize
        simp only [harg, hpre, hprior, decidePrior]
      refine auditedOnce_conclude hwrite hrun fun prior h => ?_
      unfold decideNonce at h
      split at h
      · cases h
      · cases pending with
        | none | some => cases h
    | some prior =>
      obtain ⟨hash, receipt⟩ := prior
      obtain ⟨hascii, haccepted⟩ := hl.priorSuccess hprior
      have hrun : authorize key l call = conclude call r l
          (if hash = r.requestHash then .acceptDuplicate receipt else .deny .replayed) := by
        unfold authorize
        simp only [harg, hpre, hprior, decidePrior_some hwrite, if_pos hascii]
      refine auditedOnce_conclude hwrite hrun fun prior h => ?_
      split at h
      · exact Decision.acceptDuplicate.inj h ▸ haccepted
      · cases h

/-- Where the comparison of the tags raises. -/
theorem structurallyInvalid_error {expected : SealedIpcRequest} {e : IpcError}
    (h : structurallyInvalid key r expected call.resultCommitment = .error e) :
    r.capability.revision = sealedIpcCoreRevision ∧ isAscii r.capability.authTag = false := by
  have htag := isAscii_of_isHex64 (isHex64_authTag key r.capability.unsignedPayload)
  unfold structurallyInvalid at h
  dsimp only at h
  split at h
  · cases h
  next hrevision =>
  refine ⟨not_not.1 hrevision, Bool.of_not_eq_true fun hascii => ?_⟩
  rw [compareDigest_ascii hascii htag] at h
  cases h

/-- The comparison raises over a tag that is not ASCII. -/
theorem structurallyInvalid_raises (expected : SealedIpcRequest)
    (hrevision : r.capability.revision = sealedIpcCoreRevision)
    (hascii : isAscii r.capability.authTag = false) :
    ∃ e, structurallyInvalid key r expected call.resultCommitment = .error e := by
  unfold structurallyInvalid compareDigest
  dsimp only
  rw [if_neg (not_not_intro hrevision), if_neg fun h => Bool.false_ne_true (hascii ▸ h.1)]
  exact ⟨_, rfl⟩

/-- The checks of the principal come to a decision where both principals are ASCII. -/
theorem principalChecks_ok_iff {pending : Option InternalDenialCode} :
    (∃ check, principalChecks call r pending = .ok check) ↔
      isAscii r.capability.principalCommitment = true ∧ isAscii call.principal = true := by
  rw [principalChecks_eq]
  by_cases hascii : isAscii r.capability.principalCommitment = true ∧
      isAscii call.principal = true
  · rw [if_pos hascii]
    exact iff_of_true ⟨_, rfl⟩ hascii
  · rw [if_neg hascii]
    refine iff_of_false ?_ hascii
    rintro ⟨check, h⟩
    cases h

/-- Where the checks before the replay check do not raise. -/
theorem precheck_ok_iff (hwrite : r.capability.writable = true) :
    (∃ check, precheck key call r = .ok check) ↔ ComparesAscii key call r := by
  cases hb : buildRequest r.capability r.requestCommitment with
  | error e =>
    have hform := (buildRequest_error hb).resolve_right (Bool.eq_false_iff.not_left.2 hwrite)
    have hpre : precheck key call r = principalChecks call r (some .invalidRequest) :=
      precheck_of_error hb
    rw [hpre, principalChecks_ok_iff]
    constructor
    · intro h
      exact ⟨hwrite, fun hhex => absurd (hform.symm.trans hhex) Bool.false_ne_true, fun _ => h⟩
    · intro h
      exact h.principals (.inl hform)
  | ok expected =>
    have hhex := (buildRequest_ok hb).1
    cases hs : structurallyInvalid key r expected call.resultCommitment with
    | error e =>
      have hpre : precheck key call r = .error e := by
        simp only [precheck_of_ok hb, hs]
      refine iff_of_false (fun h => ?_) fun h => ?_
      · obtain ⟨check, h⟩ := h
        cases hpre.symm.trans h
      · obtain ⟨hrevision, hascii⟩ := structurallyInvalid_error hs
        exact absurd (h.tag hhex hrevision) (Bool.not_eq_true _ ▸ hascii)
    | ok bad =>
      have htag : r.capability.revision = sealedIpcCoreRevision →
          isAscii r.capability.authTag = true := fun hrevision =>
        Bool.of_not_eq_false fun hascii => by
          obtain ⟨e, he⟩ : ∃ e, structurallyInvalid key r expected call.resultCommitment = .error e :=
            structurallyInvalid_raises expected hrevision hascii
          cases hs.symm.trans he
      cases bad with
      | true =>
        have hpre : precheck key call r = .ok (.refused .invalidRequest) := by
          simp only [precheck_of_ok hb, hs]
        refine iff_of_true ⟨_, hpre⟩ ⟨hwrite, fun _ => htag, ?_⟩
        rintro (hform | hw)
        · cases hform.symm.trans hhex
        · cases hs.symm.trans ((structurallyInvalid_false hb).2 hw)
      | false =>
        have hw := (structurallyInvalid_false hb).1 hs
        have hpre : precheck key call r = principalChecks call r none := by
          simp only [precheck_of_ok hb, hs]
        rw [hpre, principalChecks_ok_iff]
        constructor
        · intro h
          exact ⟨hwrite, fun _ => htag, fun _ => h⟩
        · intro h
          exact h.principals (.inr hw)

/-- A recorded call can write its request, and the texts that it compares are ASCII. -/
theorem AuditedOnce.comparesAscii (h : AuditedOnce key l call) (harg : call.argument = .request r) :
    ComparesAscii key call r := by
  have hwrite : r.capability.writable = true := by
    by_contra hno
    obtain ⟨e, hrun⟩ := authorize_of_unwritable key l harg (Bool.eq_false_iff.2 hno)
    obtain ⟨entry, heq, -⟩ := h
    rw [hrun] at heq
    simp at heq
  refine (precheck_ok_iff hwrite).1 ?_
  cases hpre : precheck key call r with
  | error e => exact absurd h (not_auditedOnce_of_precheck harg hpre)
  | ok check => exact ⟨check, rfl⟩

/-- The call's principal and tick do not decide whether a request is well-formed. -/
theorem Wellformed.of_call {call' : IpcCall} (h : Wellformed key call r)
    (hresult : call'.resultCommitment = call.resultCommitment) : Wellformed key call' r :=
  ⟨h.revision, h.tag, h.capabilityId, h.built, hresult ▸ h.result⟩

end

/-- **What is audited.** For every key, reachable ledger, request, principal, tick and result
commitment, the call returns a receipt and leaves one entry with its disposition exactly when the
ticks of the request can be written and the texts that the call compares are ASCII. -/
theorem audited_once_iff (key : List Nat) {l : ReplayLedger} (hl : LedgerReachable l)
    (r : SealedIpcRequest) (principal : String) (tick : Int) (result : String) :
    AuditedOnce key l ⟨.request r, principal, tick, result⟩ ↔
      ComparesAscii key ⟨.request r, principal, tick, result⟩ r := by
  constructor
  · intro h
    exact h.comparesAscii rfl
  · intro h
    obtain ⟨check, hpre⟩ := (precheck_ok_iff h.ticks).2 h
    exact auditedOnce_of_precheck hl h.ticks rfl hpre

/-- The sample request, presented by a principal whose name is not ASCII. -/
def accentedCall : IpcCall := ⟨.request sampleRequest, "\u00e9", 11, sampleCall.resultCommitment⟩

/-- A call whose tag has an accent, which is not audited. -/
theorem audited_once_iff_accented :
    AuditedOnce sampleKey .fresh accentedCall ↔
      ComparesAscii sampleKey accentedCall sampleRequest :=
  audited_once_iff sampleKey .fresh sampleRequest "\u00e9" 11 sampleCall.resultCommitment

/-- **A call that leaves no entry.** -/
theorem not_audited_accented : ¬ AuditedOnce sampleKey .fresh accentedCall := by
  obtain ⟨hw, -⟩ := precheck_admitted_none.1 precheck_sample
  intro h
  have hascii := ((h.comparesAscii rfl).principals (.inr (hw.of_call rfl))).2
  exact absurd hascii (by decide)

end LawFirmDigitalTwin
