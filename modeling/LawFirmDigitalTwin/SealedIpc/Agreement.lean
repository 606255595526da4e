import LawFirmDigitalTwin.SealedIpc.Soundness

/-!
# The authorizer and the validator

What the validator asks of a request, what the authorizer accepts in any state of the ledger, and
where the two part: the authorizer does not look at the disclosure flags of a capability nor at the
form of its principal, and where the commitment of a request is malformed it looks at nothing but
the recorded success.
-/

namespace LawFirmDigitalTwin

/-- A capability carries one of the four disclosure flags. -/
def Discloses (c : SealedIpcCapability) : Prop :=
  c.containsRawPrincipal ∨ c.containsPath ∨ c.containsSecret ∨ c.containsPayload

/-- What the validator asks of a capability. -/
structure CapabilityValid (key : List Nat) (c : SealedIpcCapability) : Prop where
  writable : c.writable = true
  revision : c.revision = sealedIpcCoreRevision
  principal : isHex64 c.principalCommitment = true
  tag : c.authTag = authTag key c.unsignedPayload
  capabilityId : c.capabilityId = capabilityIdOf c.unsignedPayload (authTag key c.unsignedPayload)
  interval : c.issuedTick < c.expiresTick
  undisclosed : ¬ Discloses c

section
variable {key : List Nat} {c : SealedIpcCapability} {r : SealedIpcRequest}

/-- A built request bears the revision of the core. -/
theorem buildRequest_revision {expected : SealedIpcRequest} {commitment : String}
    (h : buildRequest c commitment = .ok expected) : expected.revision = sealedIpcCoreRevision := by
  unfold buildRequest at h
  split_ifs at h
  cases h
  rfl

/-- The validator finds nothing exactly in a valid capability. -/
theorem validateCapability_nil : validateCapability key c = .ok [] ↔ CapabilityValid key c := by
  have htag := isHex64_authTag key c.unsignedPayload
  unfold validateCapability signTag
  rw [SealedIpcCapability.writable_unsignedPayload]
  by_cases hwrite : c.writable = true
  swap
  · rw [if_neg hwrite]
    refine iff_of_false (by simp) fun h => hwrite h.writable
  rw [if_pos hwrite]
  dsimp only
  by_cases hform : c.revision ≠ sealedIpcCoreRevision ∨ ¬ isHex64 c.principalCommitment ∨
      ¬ isHex64 c.authTag
  · rw [if_pos hform]
    constructor
    · intro h
      simp at h
    · intro h
      rcases hform with hrevision | hprincipal | hhex
      · exact (hrevision h.revision).elim
      · exact (hprincipal h.principal).elim
      · exact (hhex (h.tag ▸ htag)).elim
  · rw [if_neg hform]
    push Not at hform
    obtain ⟨hrevision, hprincipal, hhex⟩ := hform
    rw [compareDigest_ascii (isAscii_of_isHex64 htag) (isAscii_of_isHex64 hhex)]
    simp only [Except.ok.injEq, List.append_eq_nil_iff, ite_eq_right_iff, List.cons_ne_self,
      imp_false, decide_eq_true_eq]
    constructor
    · rintro ⟨hbound, hflags⟩
      push Not at hbound
      obtain ⟨htageq, hid, hinterval⟩ := hbound
      exact ⟨hwrite, hrevision, hprincipal, htageq.symm, hid, hinterval, hflags⟩
    · intro h
      refine ⟨?_, h.undisclosed⟩
      push Not
      exact ⟨h.tag.symm, h.capabilityId, h.interval⟩

/-- Nothing is wrong with the request itself exactly where it is the one built on its capability. -/
theorem requestErrors_nil :
    requestErrors r = [] ↔ buildRequest r.capability r.requestCommitment = .ok r := by
  unfold requestErrors
  dsimp only
  cases hb : buildRequest r.capability r.requestCommitment with
  | error e => simp
  | ok expected =>
    obtain ⟨-, hpayload, hcanonical, hexternal, -, -⟩ := buildRequest_ok hb
    simp only [List.append_eq_nil_iff, ite_eq_right_iff, reduceCtorEq, imp_false, Except.ok.injEq,
      decide_eq_true_eq]
    constructor
    · rintro ⟨hbound, -⟩
      push Not at hbound
      exact hbound.2.symm
    · rintro rfl
      refine ⟨?_, by simp [hpayload, hcanonical, hexternal]⟩
      push Not
      exact ⟨buildRequest_revision hb, rfl⟩

/-- **What the validator accepts.** -/
theorem validateRequest_nil : validateRequest key r = .ok [] ↔
    CapabilityValid key r.capability ∧ buildRequest r.capability r.requestCommitment = .ok r := by
  rw [← validateCapability_nil, ← requestErrors_nil, validateRequest]
  cases hc : validateCapability key r.capability with
  | error e => simp
  | ok errors =>
    have heraseDups : (errors ++ requestErrors r).eraseDups = [] ↔ errors ++ requestErrors r = [] := by
      cases errors ++ requestErrors r with
      | nil => simp
      | cons e es => simp [List.eraseDups_cons]
    simp only [Except.ok.injEq, heraseDups, List.append_eq_nil_iff]

/-! ## What the authorizer accepts -/

/-- What the authorizer accepts in a state of the ledger: a well-formed request of an entitled
caller with a new key and a new nonce, or one whose success is recorded; and an entitled caller's
request with a malformed commitment, and ticks that can be written, whose success is recorded. -/
inductive Accepts (key : List Nat) (l : ReplayLedger) (call : IpcCall) (r : SealedIpcRequest) : Prop
  | fresh (hw : Wellformed key call r) (he : Entitled call r)
      (hprior : l.priorSuccess r.idempotencyHash = none) (hnonce : r.nonceHash ∉ l.nonceHashes)
  | duplicate {prior} (hw : Wellformed key call r) (he : Entitled call r)
      (hprior : l.priorSuccess r.idempotencyHash = some (r.requestHash, prior))
  | malformed {prior} (hform : isHex64 r.requestCommitment = false)
      (hwrite : r.capability.writable = true) (he : Entitled call r)
      (hprior : l.priorSuccess r.idempotencyHash = some (r.requestHash, prior))

variable {l : ReplayLedger} {call : IpcCall}

/-- An outcome is an acceptance. -/
def IpcOutcome.IsAccepted (o : IpcOutcome) : Prop := ∃ receipt, o = .accepted receipt

/-- An accepted outcome is one that the checks accept. -/
theorem AuthorizeOutcome.accepts {o : IpcOutcome} {l' : ReplayLedger}
    (hout : AuthorizeOutcome key l call o l') (harg : call.argument = .request r)
    (ho : o.IsAccepted) : Accepts key l call r := by
  obtain ⟨receipt, rfl⟩ := ho
  cases hout with
  | fresh harg' hpre hprior hnonce =>
    cases harg.symm.trans harg'
    obtain ⟨hw, he⟩ := precheck_admitted_none.1 hpre
    exact .fresh hw he hprior hnonce
  | @duplicate _ pending prior harg' hwrite hpre hprior =>
    cases harg.symm.trans harg'
    cases pending with
    | none =>
      obtain ⟨hw, he⟩ := precheck_admitted_none.1 hpre
      exact .duplicate hw he hprior
    | some code =>
      obtain ⟨-, hform | hno, he⟩ := precheck_admitted_some.1 hpre
      · exact .malformed hform hwrite he hprior
      · cases hwrite.symm.trans hno

/-- **What the authorizer accepts**, in any state of the ledger. -/
theorem accepted_iff (harg : call.argument = .request r) :
    (authorize key l call).1.IsAccepted ↔ Accepts key l call r := by
  constructor
  · exact (authorize_outcome key l call).accepts harg
  · intro h
    cases h with
    | fresh hw he hprior hnonce =>
      rw [authorize_first harg (precheck_admitted_none.2 ⟨hw, he⟩) hprior hnonce]
      exact ⟨_, rfl⟩
    | duplicate hw he hprior =>
      rw [authorize_duplicate harg hw.writable (precheck_admitted_none.2 ⟨hw, he⟩) hprior]
      exact ⟨_, rfl⟩
    | malformed hform hwrite he hprior =>
      rw [authorize_duplicate harg hwrite (precheck_admitted_some.2 ⟨rfl, .inl hform, he⟩) hprior]
      exact ⟨_, rfl⟩

/-- The validator accepts an accepted request as far as it looks at what the authorizer looks at. -/
theorem Accepts.validated (h : Accepts key l call r) :
    validateRequest key r = .ok [] ↔ isHex64 r.requestCommitment = true ∧
      isHex64 r.capability.principalCommitment = true ∧ ¬ Discloses r.capability := by
  have hformed (hw : Wellformed key call r) (he : Entitled call r) :
      validateRequest key r = .ok [] ↔ isHex64 r.requestCommitment = true ∧
        isHex64 r.capability.principalCommitment = true ∧ ¬ Discloses r.capability := by
    rw [validateRequest_nil]
    constructor
    · rintro ⟨hc, hbuilt⟩
      exact ⟨(buildRequest_ok hbuilt).1, hc.principal, hc.undisclosed⟩
    · rintro ⟨-, hprincipal, hflags⟩
      have hinterval := he.issued.trans_lt he.unexpired
      exact ⟨⟨hw.writable, hw.revision, hprincipal, hw.tag, hw.capabilityId, hinterval, hflags⟩,
        hw.built⟩
  cases h with
  | fresh hw he => exact hformed hw he
  | duplicate hw he => exact hformed hw he
  | malformed hform =>
    constructor
    · intro hvalid
      have hhex := (buildRequest_ok (validateRequest_nil.1 hvalid).2).1
      cases hform.symm.trans hhex
    · rintro ⟨hhex, -⟩
      cases hform.symm.trans hhex

end

/-- **Where an accepted request is valid**: for every key, state of the ledger, request, principal,
tick and result commitment. -/
theorem accepted_validated_iff (key : List Nat) (l : ReplayLedger) (r : SealedIpcRequest)
    (principal : String) (tick : Int) (result : String) :
    ((authorize key l ⟨.request r, principal, tick, result⟩).1.IsAccepted →
        validateRequest key r = .ok []) ↔
      (Accepts key l ⟨.request r, principal, tick, result⟩ r →
        isHex64 r.requestCommitment = true ∧ isHex64 r.capability.principalCommitment = true ∧
          ¬ Discloses r.capability) := by
  have harg : (IpcCall.mk (.request r) principal tick result).argument = .request r := rfl
  rw [accepted_iff harg]
  constructor
  · intro h hacc
    exact hacc.validated.1 (h hacc)
  · intro h hacc
    exact hacc.validated.2 (h hacc)

/-! ## A flag that nothing signs -/

/-- The flag is not among the fields that the authorizer compares. -/
theorem Wellformed.withSecret {key : List Nat} {call call' : IpcCall} {cap : SealedIpcCapability}
    {commitment : String} (h : Wellformed key call (requestOn cap commitment))
    (hresult : isHex64 call'.resultCommitment = true) :
    Wellformed key call' (requestOn { cap with containsSecret := true } commitment) where
  revision := h.revision
  tag := h.tag
  capabilityId := h.capabilityId
  built := buildRequest_of_writable (buildRequest_ok h.built).1 h.writable
  result := hresult

/-- The request on the capability with the flag set. -/
def disclosingRequest : SealedIpcRequest :=
  requestOn { sampleCapability with containsSecret := true }
    "bbbbbbbbbbbbbbbbbbbbbbbbbbbbbbbbbbbbbbbbbbbbbbbbbbbbbbbbbbbbbbbb"

/-- The authorizer accepts it on a fresh ledger and the validator rejects it. -/
theorem accepts_disclosing :
    (authorize sampleKey .fresh ⟨.request disclosingRequest, sampleCall.principal,
        sampleCall.currentTick, sampleCall.resultCommitment⟩).1.IsAccepted ∧
      validateRequest sampleKey disclosingRequest ≠ .ok [] := by
  obtain ⟨hw, he⟩ := precheck_admitted_none.1 precheck_sample
  constructor
  · refine (accepted_iff rfl).2 (.fresh (hw.withSecret hw.result) ?_ rfl (Finset.notMem_empty _))
    exact ⟨he.principal, he.ascii, rfl, rfl, he.issued, he.unexpired⟩
  · intro h
    have hflags : Discloses disclosingRequest.capability := .inr (.inr (.inl rfl))
    exact (validateRequest_nil.1 h).1.undisclosed hflags

end LawFirmDigitalTwin
