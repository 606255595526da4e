import LawFirmDigitalTwin.SealedIpc.Sequential

/-!
# Authorization soundness

Whatever requests an adversary presents, an accepted receipt is for a request that an issued
capability covers, from that capability's principal and within its interval. HMAC is taken as
unforgeable: among the requests presented, a tag verifies only for the unsigned payload of an issued
capability.
-/

namespace LawFirmDigitalTwin

/-- A capability that `issue_capability` produced with the key. -/
def Issued (key : List Nat) (cap : SealedIpcCapability) : Prop :=
  ∃ principal matter operation issued expires nonce idempotencyKey,
    issueCapability key principal matter operation issued expires nonce idempotencyKey = .ok cap

/-- Among the requests presented, a tag verifies only for the payload of an issued capability. -/
def Unforged (key : List Nat) (issued : List {cap // Issued key cap}) (calls : List IpcCall) : Prop :=
  ∀ call ∈ calls, ∀ r, call.argument = .request r →
    r.capability.authTag = authTag key r.capability.unsignedPayload →
    ∃ cap ∈ issued, cap.val.unsignedPayload = r.capability.unsignedPayload

/-- A capability covers a request and the call that presents it. -/
structure Covers (cap : SealedIpcCapability) (call : IpcCall) (r : SealedIpcRequest) : Prop where
  principalCommitment : r.capability.principalCommitment = cap.principalCommitment
  operatingMatterId : r.operatingMatterId = cap.operatingMatterId
  operation : r.operation = cap.allowedOperation
  nonce : r.nonce = cap.nonce
  idempotencyKey : r.idempotencyKey = cap.idempotencyKey
  issuedTick : r.capability.issuedTick = cap.issuedTick
  expiresTick : r.capability.expiresTick = cap.expiresTick
  principal : call.principal = cap.principalCommitment
  issued : cap.issuedTick ≤ call.currentTick
  unexpired : call.currentTick < cap.expiresTick

/-- The unsigned payload determines the fields that are signed. -/
theorem unsignedPayload_inj {a b : SealedIpcCapability} (h : a.unsignedPayload = b.unsignedPayload) :
    a.principalCommitment = b.principalCommitment ∧ a.operatingMatterId = b.operatingMatterId ∧
      a.allowedOperation = b.allowedOperation ∧ a.issuedTick = b.issuedTick ∧
      a.expiresTick = b.expiresTick ∧ a.nonce = b.nonce ∧ a.idempotencyKey = b.idempotencyKey := by
  simpa [SealedIpcCapability.unsignedPayload, capabilityUnsignedPayload, and_assoc] using h

section
variable {key : List Nat} {call call' : IpcCall} {r : SealedIpcRequest} {cap : SealedIpcCapability}

/-- A well-formed request of an entitled caller is covered by the capability with its payload. -/
theorem covers_of_wellformed (hw : Wellformed key call' r) (he : Entitled call r)
    (hpayload : cap.unsignedPayload = r.capability.unsignedPayload) : Covers cap call r := by
  obtain ⟨hprincipal, hmatter, hop, hissued, hexpires, hnonce, hkey⟩ := unsignedPayload_inj hpayload
  obtain ⟨-, -, -, -, hrnonce, hrkey⟩ := buildRequest_ok hw.built
  exact {
    principalCommitment := hprincipal.symm
    operatingMatterId := he.operatingMatterId.trans hmatter.symm
    operation := he.operation.trans hop.symm
    nonce := hrnonce.trans hnonce.symm
    idempotencyKey := hrkey.trans hkey.symm
    issuedTick := hissued.symm
    expiresTick := hexpires.symm
    principal := he.principal.symm.trans hprincipal.symm
    issued := hissued.symm ▸ he.issued
    unexpired := hexpires.symm ▸ he.unexpired }

/-- **Authorization soundness.** -/
theorem authorization_sound (key : List Nat) (issued : List {cap // Issued key cap})
    (calls : List IpcCall) (hmac : Unforged key issued calls)
    (hinj : Set.InjOn digest (requestForms calls)) :
    ∀ pre call post, calls = pre ++ call :: post → ∀ receipt,
      outcomeAfter key pre call = .accepted receipt →
      ∃ r, call.argument = .request r ∧ ∃ cap ∈ issued, Covers cap.val call r := by
  rintro pre call post rfl receipt h
  obtain ⟨r, harg, ⟨call', hw⟩, he⟩ := accepted_wellformed hinj h
  obtain ⟨cap, hcap, hpayload⟩ := hmac call (by simp) r harg hw.tag
  exact ⟨r, harg, cap, hcap, covers_of_wellformed hw he hpayload⟩

end

/-! ## A capability, properly used -/

/-- A capability is issued for arguments that pass the checks, with ticks that can be written. -/
theorem issueCapability_ok {key : List Nat} {principal matter operation : String} {first last : Int}
    {nonce idempotencyKey : String} (hkey : 32 ≤ key.length) (hprincipal : isHex64 principal = true)
    (hop : operation ∈ ipcOperations) (hmatter : isSafeId matter = true)
    (hticks : 0 ≤ first ∧ first < last) (hnonce : isSafeId nonce = true)
    (hidempotency : isSafeId idempotencyKey = true)
    (hwrite : writableInt first = true ∧ writableInt last = true) :
    issueCapability key principal matter operation first last nonce idempotencyKey =
      .ok (signedCapability key principal matter operation first last nonce idempotencyKey) := by
  have hsign : (Json.dict (capabilityUnsignedPayload principal matter operation first last nonce
      idempotencyKey)).writable = true := by
    simp [capabilityUnsignedPayload, hwrite]
  unfold issueCapability
  rw [if_neg (by omega), if_neg (not_not_intro hprincipal), if_neg (not_not_intro hop),
    if_neg (not_not_intro hmatter), if_neg (by omega), if_neg, signTag, if_pos hsign]
  rintro (h | h)
  · exact h hnonce
  · exact h hidempotency

/-- The request that is built on an issued capability is well formed. -/
theorem wellformed_of_issued {key : List Nat} {call : IpcCall} {r : SealedIpcRequest}
    (hissued : Issued key r.capability)
    (hbuilt : buildRequest r.capability r.requestCommitment = .ok r)
    (hresult : isHex64 call.resultCommitment = true) : Wellformed key call r := by
  obtain ⟨principal, matter, operation, first, last, nonce, idempotencyKey, h⟩ := hissued
  unfold issueCapability at h
  split_ifs at h
  split at h
  · cases h
  have hcap := Except.ok.inj h
  refine ⟨?_, ?_, ?_, hbuilt, hresult⟩ <;> rw [← hcap] <;> rfl

/-- A signing key. -/
def sampleKey : List Nat := List.replicate 32 7

/-- A capability of a worker for one matter, from tick 10 to tick 20. -/
def sampleCapability : SealedIpcCapability :=
  signedCapability sampleKey "aaaaaaaaaaaaaaaaaaaaaaaaaaaaaaaaaaaaaaaaaaaaaaaaaaaaaaaaaaaaaaaa"
    "MAT-OPERATING-001" "RequestOperatingProjection" 10 20 "nonce-001" "idem-001"

/-- The sample capability is issued. -/
theorem issued_sample : Issued sampleKey sampleCapability := by
  refine ⟨_, _, _, _, _, _, _, issueCapability_ok ?_ ?_ ?_ ?_ ?_ ?_ ?_ ?_⟩ <;> decide +kernel

/-- The request on it. -/
def sampleRequest : SealedIpcRequest :=
  requestOn sampleCapability "bbbbbbbbbbbbbbbbbbbbbbbbbbbbbbbbbbbbbbbbbbbbbbbbbbbbbbbbbbbbbbbb"

/-- The worker presents the request at tick 11. -/
def sampleCall : IpcCall where
  argument := .request sampleRequest
  principal := "aaaaaaaaaaaaaaaaaaaaaaaaaaaaaaaaaaaaaaaaaaaaaaaaaaaaaaaaaaaaaaaa"
  currentTick := 11
  resultCommitment := "cccccccccccccccccccccccccccccccccccccccccccccccccccccccccccccccc"

/-- The sample call passes its checks. -/
theorem precheck_sample : precheck sampleKey sampleCall sampleRequest = .ok (.admitted none) := by
  have hhex : isHex64 sampleRequest.requestCommitment = true := by decide +kernel
  have hbuilt : buildRequest sampleCapability sampleRequest.requestCommitment = .ok sampleRequest :=
    buildRequest_of_writable hhex (by decide +kernel)
  refine precheck_admitted_none.2 ⟨wellformed_of_issued issued_sample hbuilt ?_, ?_⟩
  · decide +kernel
  · exact ⟨rfl, by decide +kernel, rfl, rfl, by decide, by decide⟩

/-- The first call of a run is accepted for the first time where its request is admitted. -/
theorem original_nil {key : List Nat} {call : IpcCall} {r : SealedIpcRequest}
    (harg : call.argument = .request r) (hpre : precheck key call r = .ok (.admitted none)) :
    Original key [] call r :=
  ⟨harg, hpre, rfl, Finset.notMem_empty _⟩

/-- A call that is admitted to a fresh ledger is accepted. -/
theorem outcomeAfter_nil {key : List Nat} {call : IpcCall} {r : SealedIpcRequest}
    (harg : call.argument = .request r) (hpre : precheck key call r = .ok (.admitted none)) :
    outcomeAfter key [] call = .accepted (successReceipt r call.resultCommitment) := by
  have hrun := authorize_first (l := .fresh) harg hpre rfl (Finset.notMem_empty _)
  exact congrArg Prod.fst hrun

/-- The sample call passes the sample request. -/
theorem argument_sample : sampleCall.argument = .request sampleRequest := rfl

/-- The first presentation is accepted. -/
theorem outcome_sample : outcomeAfter sampleKey [] sampleCall =
    .accepted (successReceipt sampleRequest sampleCall.resultCommitment) :=
  outcomeAfter_nil argument_sample precheck_sample

/-- Calls that all present one request have one form. -/
theorem requestForms_subsingleton {calls : List IpcCall} {r : SealedIpcRequest}
    (h : ∀ call ∈ calls, call.argument = .request r) : (requestForms calls).Subsingleton := by
  rintro _ ⟨call, hcall, _, harg, rfl⟩ _ ⟨call', hcall', _, harg', rfl⟩
  rw [h call hcall] at harg
  rw [h call' hcall'] at harg'
  cases harg
  cases harg'
  rfl

/-- A run that presents only the request of one issued capability needs no forgery. -/
theorem unforged_of_issued {key : List Nat} {calls : List IpcCall} {r : SealedIpcRequest}
    (hissued : Issued key r.capability) (h : ∀ call ∈ calls, call.argument = .request r) :
    Unforged key [⟨r.capability, hissued⟩] calls := by
  intro call hcall r' harg _
  rw [h call hcall] at harg
  cases harg
  exact ⟨_, .head _, rfl⟩

/-- So does it when it is made twice. -/
theorem arguments_sample : ∀ call ∈ [sampleCall, sampleCall],
    call.argument = .request sampleRequest := by
  simp only [List.mem_cons, List.not_mem_nil, or_false, or_self, forall_eq, argument_sample]

/-- The sample call is covered by the sample capability. -/
theorem authorization_sound_sample :
    ∃ r, sampleCall.argument = .request r ∧
      ∃ cap ∈ ([⟨sampleRequest.capability, issued_sample⟩] : List {cap // Issued sampleKey cap}),
        Covers cap.val sampleCall r :=
  authorization_sound sampleKey _ [sampleCall, sampleCall]
    (unforged_of_issued issued_sample arguments_sample)
    (Set.Subsingleton.injOn (requestForms_subsingleton arguments_sample) _)
    [] sampleCall [sampleCall] rfl _ outcome_sample

end LawFirmDigitalTwin
