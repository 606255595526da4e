import LawFirmDigitalTwin.SealedIpc.Protocol

/-!
# What a call of the authorizer comes to

The checks before the replay check, as conditions on the fields of the request and of the call, and
`AuthorizeOutcome`: what a call can return, with the ledger it leaves.
-/

namespace LawFirmDigitalTwin

/-! ## Hexadecimal texts -/

/-- A hex digit is a digit or a letter from `a` to `f`. -/
theorem hexDigit_lower (n : Nat) (h : n < 16) :
    ('0' ≤ Sha256.hexDigit n ∧ Sha256.hexDigit n ≤ '9') ∨
      ('a' ≤ Sha256.hexDigit n ∧ Sha256.hexDigit n ≤ 'f') := by
  revert n
  decide

/-- A hash is 64 lower-case hexadecimal digits. -/
theorem isHex64_hexdigest (message : List Nat) :
    isHex64 (String.ofList (Sha256.hexdigest message)) = true := by
  have hall : ∀ c ∈ Sha256.hexdigest message,
      ('0' ≤ c ∧ c ≤ '9') ∨ ('a' ≤ c ∧ c ≤ 'f') := by
    intro c hc
    obtain ⟨w, -, hw⟩ := List.mem_flatMap.1 hc
    simp only [Sha256.hexWord, List.mem_cons, List.not_mem_nil, or_false] at hw
    rcases hw with rfl | rfl | rfl | rfl | rfl | rfl | rfl | rfl <;>
      exact hexDigit_lower _ (Nat.mod_lt _ (by decide))
  unfold isHex64
  rw [String.length_ofList, String.toList_ofList, Sha256.length_hexdigest]
  simpa using hall

/-- A digest is 64 hex digits. -/
theorem isHex64_digest (v : Json) : isHex64 (digest v) = true := by
  unfold digest
  exact isHex64_hexdigest _

/-- A tag is 64 hex digits. -/
theorem isHex64_authTag (key : List Nat) (payload : List (String × Json)) :
    isHex64 (authTag key payload) = true := by
  unfold authTag Sha256.hmacHexdigest
  exact isHex64_hexdigest _

/-- Hex digits are ASCII. -/
theorem isAscii_of_isHex64 {s : String} (h : isHex64 s = true) : isAscii s = true := by
  unfold isHex64 at h
  obtain ⟨-, h⟩ := of_decide_eq_true h
  refine List.all_eq_true.2 fun c hc => decide_eq_true ?_
  rcases of_decide_eq_true (List.all_eq_true.1 h c hc) with ⟨-, hle⟩ | ⟨-, hle⟩
  · exact lt_of_le_of_lt hle (by decide)
  · exact lt_of_le_of_lt hle (by decide)

/-- ASCII texts compare without an error. -/
theorem compareDigest_ascii {a b : String} (ha : isAscii a = true) (hb : isAscii b = true) :
    compareDigest a b = .ok (decide (a = b)) :=
  if_pos ⟨ha, hb⟩

/-- Texts that compare equal are one ASCII text. -/
theorem compareDigest_true {a b : String} :
    compareDigest a b = .ok true ↔ a = b ∧ isAscii b = true := by
  unfold compareDigest
  constructor
  · intro h
    split at h
    · next hascii => exact ⟨of_decide_eq_true (Except.ok.inj h), hascii.2⟩
    · cases h
  · rintro ⟨rfl, hb⟩
    rw [if_pos ⟨hb, hb⟩]
    simp

/-! ## Ticks that can be written -/

/-- A capability is written with its ticks. -/
theorem SealedIpcCapability.writable_toJson (c : SealedIpcCapability) :
    c.toJson.writable = c.writable := by
  rw [Bool.eq_iff_iff]
  simp [SealedIpcCapability.toJson, SealedIpcCapability.writable]

/-- Its unsigned payload is written with the same ticks. -/
theorem SealedIpcCapability.writable_unsignedPayload (c : SealedIpcCapability) :
    (Json.dict c.unsignedPayload).writable = c.writable := by
  rw [Bool.eq_iff_iff]
  simp [SealedIpcCapability.unsignedPayload, capabilityUnsignedPayload,
    SealedIpcCapability.writable]

/-- A request is written with the ticks of its capability. -/
theorem SealedIpcRequest.writable_toJson (r : SealedIpcRequest) :
    r.toJson.writable = r.capability.writable := by
  rw [Bool.eq_iff_iff]
  simp [SealedIpcRequest.toJson, ← SealedIpcCapability.writable_toJson]

/-- What `append` returns is the ledger with its entry. -/
theorem ReplayLedger.append_ok {l l' : ReplayLedger} {r : SealedIpcRequest} {principal : String}
    {verdict : IpcVerdict} {success : Option SealedIpcSuccessReceipt}
    (h : l.append r principal verdict success = .ok l') :
    l' = l.appended r principal verdict success := by
  unfold append at h
  split at h
  · exact (Except.ok.inj h).symm
  · cases h

section
variable {r : SealedIpcRequest} {call : IpcCall} {l : ReplayLedger}

/-- A decision on a request that can be written is recorded. -/
theorem conclude_of_writable (h : r.capability.writable = true) (d : Decision) :
    conclude call r l d = (d.outcome call r,
      l.appended r call.principal d.verdict (d.success call r)) := by
  unfold conclude ReplayLedger.append
  rw [SealedIpcRequest.writable_toJson, if_pos h]

/-- On another request `append` raises. -/
theorem conclude_of_unwritable (h : r.capability.writable = false) (d : Decision) :
    conclude call r l d = (.raised digitsError, l) := by
  unfold conclude ReplayLedger.append
  rw [SealedIpcRequest.writable_toJson, if_neg (Bool.eq_false_iff.1 h)]

end

/-! ## The checks before the replay check -/

/-- The first condition of `authorize` finds nothing: every field of the request is the one that the
capability and the key determine. -/
structure Wellformed (key : List Nat) (call : IpcCall) (r : SealedIpcRequest) : Prop where
  revision : r.capability.revision = sealedIpcCoreRevision
  tag : r.capability.authTag = authTag key r.capability.unsignedPayload
  capabilityId : r.capability.capabilityId =
    capabilityIdOf r.capability.unsignedPayload (authTag key r.capability.unsignedPayload)
  built : buildRequest r.capability r.requestCommitment = .ok r
  result : isHex64 call.resultCommitment = true

/-- The caller is the capability's principal, and the request is within its authority and
interval. -/
structure Entitled (call : IpcCall) (r : SealedIpcRequest) : Prop where
  principal : r.capability.principalCommitment = call.principal
  ascii : isAscii call.principal = true
  operation : r.operation = r.capability.allowedOperation
  operatingMatterId : r.operatingMatterId = r.capability.operatingMatterId
  issued : r.capability.issuedTick ≤ call.currentTick
  unexpired : call.currentTick < r.capability.expiresTick

section
variable {key : List Nat} {call : IpcCall} {r expected : SealedIpcRequest}

/-- What `build_request` checks, and what it sets. -/
theorem buildRequest_ok (h : buildRequest r.capability r.requestCommitment = .ok expected) :
    isHex64 r.requestCommitment = true ∧ expected.containsPayload = false ∧
      expected.canonicalWriteRequested = false ∧ expected.externalEffectRequested = false ∧
      expected.nonce = r.capability.nonce ∧ expected.idempotencyKey = r.capability.idempotencyKey := by
  unfold buildRequest at h
  split_ifs at h with hhex
  cases h
  exact ⟨by simpa using hhex, rfl, rfl, rfl, rfl, rfl⟩

/-- It raises for a commitment that is none. -/
theorem buildRequest_of_malformed (c : SealedIpcCapability) {commitment : String}
    (hhex : isHex64 commitment = false) :
    buildRequest c commitment = .error (.valueError "ipc_request_commitment_invalid") :=
  if_pos (Bool.eq_false_iff.1 hhex)

/-- It returns the request for a commitment and ticks that are right. -/
theorem buildRequest_of_writable {c : SealedIpcCapability} {commitment : String}
    (hhex : isHex64 commitment = true) (hwrite : c.writable = true) :
    buildRequest c commitment = .ok (requestOn c commitment) := by
  unfold buildRequest
  rw [SealedIpcCapability.writable_toJson, if_neg (not_not_intro hhex),
    if_neg (not_not_intro hwrite)]

/-- It hashes the capability. -/
theorem writable_of_buildRequest (h : buildRequest r.capability r.requestCommitment = .ok expected) :
    r.capability.writable = true := by
  unfold buildRequest at h
  split_ifs at h with hhex hwrite
  rw [← SealedIpcCapability.writable_toJson]
  exact hwrite

/-- It raises for a malformed commitment and for ticks that cannot be written. -/
theorem buildRequest_error {e : IpcError}
    (h : buildRequest r.capability r.requestCommitment = .error e) :
    isHex64 r.requestCommitment = false ∨ r.capability.writable = false := by
  unfold buildRequest at h
  split at h
  · next hhex => exact .inl (Bool.eq_false_iff.2 hhex)
  split at h
  · next hwrite =>
    rw [SealedIpcCapability.writable_toJson] at hwrite
    exact .inr (Bool.eq_false_iff.2 hwrite)
  · cases h

/-- The checks before the replay check, where the tag raises only with `build_request`. -/
theorem precheck_eq (key : List Nat) (call : IpcCall) (r : SealedIpcRequest) :
    precheck key call r =
      match buildRequest r.capability r.requestCommitment with
      | .error _ => principalChecks call r (some .invalidRequest)
      | .ok expected =>
        match structurallyInvalid key r expected call.resultCommitment with
        | .error e => .error e
        | .ok true => .ok (.refused .invalidRequest)
        | .ok false => principalChecks call r none := by
  unfold precheck expectedRequest signTag
  rw [SealedIpcCapability.writable_unsignedPayload]
  cases hwrite : r.capability.writable with
  | true => rfl
  | false =>
    cases hb : buildRequest r.capability r.requestCommitment with
    | error e => rfl
    | ok expected => cases hwrite.symm.trans (writable_of_buildRequest hb)

/-- A well-formed request can be written. -/
theorem Wellformed.writable (h : Wellformed key call r) : r.capability.writable = true :=
  writable_of_buildRequest h.built

/-- The first condition finds nothing exactly in a well-formed request. -/
theorem structurallyInvalid_false (hb : buildRequest r.capability r.requestCommitment = .ok expected) :
    structurallyInvalid key r expected call.resultCommitment = .ok false ↔ Wellformed key call r := by
  obtain ⟨-, hpayload, hcanonical, hexternal, -, -⟩ := buildRequest_ok hb
  have htag := isAscii_of_isHex64 (isHex64_authTag key r.capability.unsignedPayload)
  unfold structurallyInvalid
  dsimp only
  constructor
  · intro h
    split at h
    · cases h
    · next hrev =>
      cases hc : compareDigest r.capability.authTag (authTag key r.capability.unsignedPayload) with
      | error e => rw [hc] at h; cases h
      | ok same =>
        rw [hc] at h
        have hbad := of_decide_eq_false (Except.ok.inj h)
        push Not at hbad
        obtain ⟨hsame, hid, hreq, -, -, -, hresult⟩ := hbad
        rw [hsame] at hc
        refine ⟨by simpa using hrev, (compareDigest_true.1 hc).1, hid, ?_, by simpa using hresult⟩
        rw [hb, ← hreq]
  · rintro ⟨hrev, htageq, hid, hbuilt, hresult⟩
    rw [hb] at hbuilt
    cases hbuilt
    simp only [hrev, compareDigest_true.2 ⟨htageq, htag⟩, hid, hpayload, hcanonical, hexternal,
      hresult]
    simp

/-- The principal is admitted where it is entitled. -/
theorem principalChecks_admitted {pending p : Option InternalDenialCode} :
    principalChecks call r pending = .ok (.admitted p) ↔ p = pending ∧ Entitled call r := by
  unfold principalChecks
  dsimp only
  constructor
  · intro h
    split at h
    · cases h
    · cases h
    · next hc =>
      obtain ⟨heq, hascii⟩ := compareDigest_true.1 hc
      split at h
      · cases h
      split at h
      · cases h
      next hauthority htick =>
      cases h
      push Not at hauthority htick
      exact ⟨rfl, heq, hascii, hauthority.1, hauthority.2, htick.1, htick.2⟩
  · rintro ⟨rfl, heq, hascii, hop, hmatter, hissued, hexpires⟩
    simp only [compareDigest_true.2 ⟨heq, hascii⟩]
    rw [if_neg (by simp [hop, hmatter]), if_neg (by omega)]

/-- Where deriving the expected request raises, the first condition is skipped. -/
theorem precheck_of_error {e : IpcError}
    (hb : buildRequest r.capability r.requestCommitment = .error e) :
    precheck key call r = principalChecks call r (some .invalidRequest) := by
  rw [precheck_eq, hb]

/-- Where it does not, the request is compared with the expected one. -/
theorem precheck_of_ok (hb : buildRequest r.capability r.requestCommitment = .ok expected) :
    precheck key call r =
      match structurallyInvalid key r expected call.resultCommitment with
      | .error e => .error e
      | .ok true => .ok (.refused .invalidRequest)
      | .ok false => principalChecks call r none := by
  rw [precheck_eq, hb]

/-- The replay check is reached with nothing pending by the well-formed requests of entitled
callers. -/
theorem precheck_admitted_none :
    precheck key call r = .ok (.admitted none) ↔ Wellformed key call r ∧ Entitled call r := by
  rw [precheck_eq]
  cases hb : buildRequest r.capability r.requestCommitment with
  | error e =>
    simp only [principalChecks_admitted]
    constructor
    · rintro ⟨h, -⟩; cases h
    · rintro ⟨hw, -⟩
      have hbuilt := hw.built
      rw [hb] at hbuilt
      cases hbuilt
  | ok expected =>
    simp only [← structurallyInvalid_false hb]
    cases hs : structurallyInvalid key r expected call.resultCommitment with
    | error e => simp
    | ok bad => cases bad <;> simp [principalChecks_admitted]

/-- It is reached with a denial pending where the commitment of the request is malformed, or its
ticks cannot be written: the tag is then not looked at. -/
theorem precheck_admitted_some {code : InternalDenialCode} :
    precheck key call r = .ok (.admitted (some code)) ↔
      code = .invalidRequest ∧
        (isHex64 r.requestCommitment = false ∨ r.capability.writable = false) ∧
        Entitled call r := by
  rw [precheck_eq]
  cases hb : buildRequest r.capability r.requestCommitment with
  | error e => simp [principalChecks_admitted, buildRequest_error hb]
  | ok expected =>
    simp only [(buildRequest_ok hb).1, writable_of_buildRequest hb]
    cases hs : structurallyInvalid key r expected call.resultCommitment with
    | error e => simp
    | ok bad => cases bad <;> simp [principalChecks_admitted]

end

/-! ## Outcomes -/

/-- What a call of `authorize` comes to. -/
inductive AuthorizeOutcome (key : List Nat) (l : ReplayLedger) (call : IpcCall) :
    IpcOutcome → ReplayLedger → Prop
  | other {requestId} (harg : call.argument = .other requestId) :
    AuthorizeOutcome key l call (.denied (genericDenial requestId)) l
  | raised {r e} (harg : call.argument = .request r) : AuthorizeOutcome key l call (.raised e) l
  | denied {r code} (harg : call.argument = .request r) (hwrite : r.capability.writable = true) :
    AuthorizeOutcome key l call (.denied (genericDenial (some r.requestId)))
      (l.appended r call.principal (.denied code) none)
  | duplicate {r pending prior} (harg : call.argument = .request r)
      (hwrite : r.capability.writable = true)
      (hpre : precheck key call r = .ok (.admitted pending))
      (hprior : l.priorSuccess r.idempotencyHash = some (r.requestHash, prior)) :
    AuthorizeOutcome key l call (.accepted { prior with duplicate := true })
      (l.appended r call.principal .accepted (some prior))
  | fresh {r} (harg : call.argument = .request r)
      (hpre : precheck key call r = .ok (.admitted none))
      (hprior : l.priorSuccess r.idempotencyHash = none) (hnonce : r.nonceHash ∉ l.nonceHashes) :
    AuthorizeOutcome key l call (.accepted (successReceipt r call.resultCommitment))
      (l.appended r call.principal .accepted (some (successReceipt r call.resultCommitment)))

/-- What the replay check decides from the recorded success of the key. -/
theorem decidePrior_ok {r : SealedIpcRequest} {prior : Option (String × SealedIpcSuccessReceipt)}
    {d : Option Decision} (h : decidePrior r prior = .ok d) :
    (prior = none ∧ d = none) ∨
      (∃ receipt, prior = some (r.requestHash, receipt) ∧ d = some (.acceptDuplicate receipt)) ∨
      ∃ hash receipt, prior = some (hash, receipt) ∧ hash ≠ r.requestHash ∧
        d = some (.deny .replayed) := by
  rcases prior with _ | ⟨hash, receipt⟩
  · cases h
    exact .inl ⟨rfl, rfl⟩
  · unfold decidePrior at h
    dsimp only at h
    split at h
    · cases h
    cases hc : compareDigest hash r.requestHash with
    | error e =>
      simp only [hc] at h
      cases h
    | ok same =>
      simp only [hc] at h
      cases h
      cases same with
      | true =>
        obtain ⟨rfl, -⟩ := compareDigest_true.1 hc
        exact .inr (.inl ⟨receipt, rfl, rfl⟩)
      | false =>
        refine .inr (.inr ⟨hash, receipt, rfl, ?_, rfl⟩)
        rintro rfl
        have hascii : isAscii r.requestHash = true := isAscii_of_isHex64 (isHex64_digest _)
        rw [compareDigest_true.2 ⟨rfl, hascii⟩] at hc
        cases hc

/-- It finds the success that is recorded for the request itself. -/
theorem decidePrior_same {r : SealedIpcRequest} (h : r.capability.writable = true)
    (prior : SealedIpcSuccessReceipt) :
    decidePrior r (some (r.requestHash, prior)) = .ok (some (.acceptDuplicate prior)) := by
  have hsame : compareDigest r.requestHash r.requestHash = .ok true :=
    compareDigest_true.2 ⟨rfl, isAscii_of_isHex64 (isHex64_digest _)⟩
  unfold decidePrior
  rw [SealedIpcRequest.writable_toJson, h]
  simp only [not_true_eq_false, if_false, hsame, if_true]

/-- It raises for ticks that cannot be written, once a success is recorded. -/
theorem decidePrior_of_unwritable {r : SealedIpcRequest} (h : r.capability.writable = false)
    (prior : String × SealedIpcSuccessReceipt) : decidePrior r (some prior) = .error digitsError := by
  unfold decidePrior
  rw [SealedIpcRequest.writable_toJson, h]
  rfl

/-- **A request that cannot be written is neither accepted nor recorded.** -/
theorem authorize_of_unwritable (key : List Nat) (l : ReplayLedger) {call : IpcCall}
    {r : SealedIpcRequest} (harg : call.argument = .request r)
    (h : r.capability.writable = false) : ∃ e, authorize key l call = (.raised e, l) := by
  unfold authorize
  rw [harg]
  dsimp only
  cases precheck key call r with
  | error e => exact ⟨e, rfl⟩
  | ok check =>
    cases check with
    | refused code => exact ⟨_, conclude_of_unwritable h _⟩
    | admitted pending =>
      dsimp only
      cases decidePrior r (l.priorSuccess r.idempotencyHash) with
      | error e => exact ⟨e, rfl⟩
      | ok d => cases d <;> exact ⟨_, conclude_of_unwritable h _⟩

/-- **What a call comes to.** -/
theorem authorize_outcome (key : List Nat) (l : ReplayLedger) (call : IpcCall) :
    AuthorizeOutcome key l call (authorize key l call).1 (authorize key l call).2 := by
  cases harg : call.argument with
  | other requestId =>
    have hrun : authorize key l call = (.denied (genericDenial requestId), l) := by
      unfold authorize
      rw [harg]
    rw [hrun]
    exact .other harg
  | request r =>
    by_cases hwrite : r.capability.writable = true
    · unfold authorize
      rw [harg]
      simp only [conclude_of_writable hwrite]
      cases hpre : precheck key call r with
      | error e => exact .raised harg
      | ok check =>
        cases check with
        | refused code => exact .denied harg hwrite
        | admitted pending =>
          simp only
          cases hd : decidePrior r (l.priorSuccess r.idempotencyHash) with
          | error e => exact .raised harg
          | ok d =>
            rcases decidePrior_ok hd with ⟨hprior, rfl⟩ | ⟨prior, hprior, rfl⟩ | ⟨_, _, -, -, rfl⟩
            · simp only
              unfold decideNonce
              split
              · exact .denied harg hwrite
              next hnonce =>
              cases pending with
              | some code => exact .denied harg hwrite
              | none =>
                refine .fresh harg hpre hprior ?_
                simpa [ReplayLedger.hasNonce] using hnonce
            · exact .duplicate harg hwrite hpre hprior
            · exact .denied harg hwrite
    · obtain ⟨e, hrun⟩ := authorize_of_unwritable key l harg (Bool.eq_false_iff.2 hwrite)
      rw [hrun]
      exact .raised harg

end LawFirmDigitalTwin
