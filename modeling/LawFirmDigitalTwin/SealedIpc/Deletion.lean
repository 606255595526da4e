import LawFirmDigitalTwin.Lib.TwoRuns
import LawFirmDigitalTwin.SealedIpc.Soundness

/-!
# Leaving a forged call out of a run

The ledger remembers the nonce of every request it has an entry for, also of one that was denied. So
a forged request spends the nonce it names: what the other calls come to is the same without it
exactly where no later call would have been the first to use that nonce.
-/

namespace LawFirmDigitalTwin

open Machine

/-- The call carries no request with a valid tag. -/
def Forged (key : List Nat) (call : IpcCall) : Prop :=
  ∀ r, call.argument = .request r → r.capability.authTag ≠ authTag key r.capability.unsignedPayload

/-- What a call comes to: its outcome, and the internal denial codes that it adds to the ledger. -/
def callRecord (key : List Nat) (l : ReplayLedger) (call : IpcCall) : IpcOutcome × List String :=
  let (outcome, l') := authorize key l call
  (outcome, (l'.entries.drop l.entries.length).map (·.internalDenialCode))

/-- What the calls of a run on a fresh ledger come to. -/
def ipcRecords (key : List Nat) (calls : List IpcCall) : List (IpcOutcome × List String) :=
  outputs (fun l call => (authorize key l call).2) (callRecord key) .fresh calls

/-- The ticks of a forged request can be written, and the texts that its checks compare before they
deny it are ASCII. Where one is not, the call raises and the ledger stays as it is. -/
structure Comparable (call : IpcCall) (r : SealedIpcRequest) : Prop where
  ticks : r.capability.writable = true
  tag : isHex64 r.requestCommitment = true → r.capability.revision = sealedIpcCoreRevision →
    isAscii r.capability.authTag = true
  principal : isHex64 r.requestCommitment = false →
    isAscii r.capability.principalCommitment = true ∧ isAscii call.principal = true

/-- A call is the first to use a nonce: its request can be written and passes all checks up to the
replay check, no success is recorded for its key, and its nonce is not recorded. -/
def FirstUse (key : List Nat) (nonceHash : String) (l : ReplayLedger) (call : IpcCall) : Prop :=
  ∃ r, call.argument = .request r ∧
    (Wellformed key call r ∨
      isHex64 r.requestCommitment = false ∧ r.capability.writable = true) ∧ Entitled call r ∧
    l.priorSuccess r.idempotencyHash = none ∧ r.nonceHash = nonceHash ∧ nonceHash ∉ l.nonceHashes

/-! ## Calls as decisions -/

/-- What a call decides on, from what the ledger has for its key and its nonce. -/
def decideCall (key : List Nat) (call : IpcCall) (r : SealedIpcRequest)
    (prior : Option (String × SealedIpcSuccessReceipt)) (hasNonce : Bool) :
    Except IpcError Decision :=
  match precheck key call r with
  | .error e => .error e
  | .ok check =>
    if ¬ r.capability.writable then .error digitsError
    else
      match check with
      | .refused code => .ok (.deny code)
      | .admitted pending =>
        match decidePrior r prior with
        | .error e => .error e
        | .ok (some decision) => .ok decision
        | .ok none => .ok (decideNonce pending hasNonce)

section
variable {key : List Nat} {call : IpcCall} {r : SealedIpcRequest} {l l' : ReplayLedger} {n : String}

/-- A decision adds one entry, with the code of its verdict. -/
theorem appended_codes (principal : String) (verdict : IpcVerdict)
    (success : Option SealedIpcSuccessReceipt) :
    ((l.appended r principal verdict success).entries.drop l.entries.length).map
        (·.internalDenialCode) = [verdict.internalDenialCode] := by
  have hentries : (l.appended r principal verdict success).entries =
      l.entries ++ [ReplayLedger.entry (l.entries.length + 1) l.priorHash r principal verdict] := rfl
  rw [hentries, List.drop_left, List.map_singleton]
  rfl

/-- A decision is made only on a request that can be written. -/
theorem writable_of_decideCall {prior : Option (String × SealedIpcSuccessReceipt)} {b : Bool}
    {d : Decision} (h : decideCall key call r prior b = .ok d) : r.capability.writable = true := by
  unfold decideCall at h
  split at h
  · cases h
  split at h
  · cases h
  · next hwrite => exact not_not.1 hwrite

/-- A call raises, or records what it decides on. -/
theorem authorize_decideCall (key : List Nat) (l : ReplayLedger) (harg : call.argument = .request r) :
    authorize key l call =
      match decideCall key call r (l.priorSuccess r.idempotencyHash) (l.hasNonce r.nonceHash) with
      | .error e => (.raised e, l)
      | .ok d => conclude call r l d := by
  unfold authorize decideCall
  rw [harg]
  dsimp only
  cases hpre : precheck key call r with
  | error e => rfl
  | ok check =>
    by_cases hwrite : r.capability.writable = true
    · simp only [hwrite, not_true_eq_false, if_false]
      cases check with
      | refused code => rfl
      | admitted pending =>
        dsimp only
        rcases hd : decidePrior r (l.priorSuccess r.idempotencyHash) with e | _ | d <;> rfl
    · have hno := Bool.eq_false_iff.2 hwrite
      simp only [hno, Bool.false_eq_true, not_false_eq_true, if_true]
      cases check with
      | refused code => exact conclude_of_unwritable hno _
      | admitted pending =>
        dsimp only
        cases l.priorSuccess r.idempotencyHash with
        | none => exact conclude_of_unwritable hno _
        | some prior => rw [decidePrior_of_unwritable hno]

/-- A call that raises records nothing. -/
theorem callRecord_error {e : IpcError} (harg : call.argument = .request r)
    (h : decideCall key call r (l.priorSuccess r.idempotencyHash) (l.hasNonce r.nonceHash) =
      .error e) : callRecord key l call = (.raised e, []) ∧ (authorize key l call).2 = l := by
  have hrun := authorize_decideCall key l harg
  rw [h] at hrun
  simp [callRecord, hrun]

/-- A call that decides returns and records its decision. -/
theorem callRecord_ok {d : Decision} (harg : call.argument = .request r)
    (h : decideCall key call r (l.priorSuccess r.idempotencyHash) (l.hasNonce r.nonceHash) = .ok d) :
    callRecord key l call = (d.outcome call r, [d.verdict.internalDenialCode]) ∧
      (authorize key l call).2 =
        l.appended r call.principal d.verdict (d.success call r) := by
  have hrun := authorize_decideCall key l harg
  rw [h] at hrun
  dsimp only at hrun
  rw [conclude_of_writable (writable_of_decideCall h)] at hrun
  simp only [callRecord, hrun, appended_codes, and_self]

/-- The nonce matters only to a call that reaches the replay check with a key that is free. -/
theorem decideCall_congr {prior : Option (String × SealedIpcSuccessReceipt)}
    (h : r.capability.writable = true →
      ∀ pending, precheck key call r = .ok (.admitted pending) → prior ≠ none) (b b' : Bool) :
    decideCall key call r prior b = decideCall key call r prior b' := by
  unfold decideCall
  cases hpre : precheck key call r with
  | error e => rfl
  | ok check =>
    by_cases hwrite : r.capability.writable = true
    · cases check with
      | refused code => rfl
      | admitted pending =>
        dsimp only
        cases hd : decidePrior r prior with
        | error e => rfl
        | ok d =>
          rcases decidePrior_ok hd with ⟨hnone, -⟩ | ⟨_, -, rfl⟩ | ⟨_, _, -, -, rfl⟩
          · exact (h hwrite pending hpre hnone).elim
          · rfl
          · rfl
    · dsimp only
      rw [if_pos hwrite, if_pos hwrite]

/-- A call with a free key decides on the nonce. -/
theorem decideCall_free {pending : Option InternalDenialCode}
    (hwrite : r.capability.writable = true)
    (hpre : precheck key call r = .ok (.admitted pending)) (b : Bool) :
    decideCall key call r none b = .ok (decideNonce pending b) := by
  unfold decideCall
  rw [hpre]
  dsimp only
  rw [if_neg (not_not_intro hwrite)]
  rfl

/-- Which requests that can be written reach the replay check. -/
theorem admitted_iff (hwrite : r.capability.writable = true) :
    (∃ pending, precheck key call r = .ok (.admitted pending)) ↔
      (Wellformed key call r ∨ isHex64 r.requestCommitment = false ∧ r.capability.writable = true) ∧
        Entitled call r := by
  constructor
  · rintro ⟨_ | code, hpre⟩
    · obtain ⟨hw, he⟩ := precheck_admitted_none.1 hpre
      exact ⟨.inl hw, he⟩
    · obtain ⟨-, hform | hno, he⟩ := precheck_admitted_some.1 hpre
      · exact ⟨.inr ⟨hform, hwrite⟩, he⟩
      · cases hwrite.symm.trans hno
  · rintro ⟨hw | ⟨hform, -⟩, he⟩
    · exact ⟨_, precheck_admitted_none.2 ⟨hw, he⟩⟩
    · exact ⟨_, precheck_admitted_some.2 ⟨rfl, .inl hform, he⟩⟩

/-! ## A ledger with one more nonce -/

/-- Two ledgers on which the same successes are recorded, and on the second one more nonce. -/
structure SpentOn (nonceHash : String) (l l' : ReplayLedger) : Prop where
  priorSuccess : ∀ h, l'.priorSuccess h = l.priorSuccess h
  nonceHashes : l'.nonceHashes = insert nonceHash l.nonceHashes

/-- The same decision keeps the ledgers related. -/
theorem SpentOn.step (h : SpentOn n l l') (d : Decision) :
    SpentOn n (l.appended r call.principal d.verdict (d.success call r))
      (l'.appended r call.principal d.verdict (d.success call r)) where
  priorSuccess key := by
    cases d with
    | deny code => exact h.priorSuccess key
    | acceptDuplicate | acceptFresh =>
      simp only [Decision.verdict, Decision.success, priorSuccess_appended_accepted, h.priorSuccess]
  nonceHashes := by
    simp only [ReplayLedger.appended, h.nonceHashes, Finset.insert_comm]

/-- A call that is not the first to use the nonce comes to the same. -/
theorem SpentOn.same (h : SpentOn n l l') (hfirst : ¬ FirstUse key n l call) :
    callRecord key l call = callRecord key l' call ∧
      SpentOn n (authorize key l call).2 (authorize key l' call).2 := by
  cases harg : call.argument with
  | other requestId =>
    have hrun (l : ReplayLedger) : authorize key l call = (.denied (genericDenial requestId), l) := by
      unfold authorize
      rw [harg]
    simp [callRecord, hrun, h]
  | request r =>
    have hdecide : decideCall key call r (l'.priorSuccess r.idempotencyHash)
        (l'.hasNonce r.nonceHash) =
          decideCall key call r (l.priorSuccess r.idempotencyHash) (l.hasNonce r.nonceHash) := by
      rw [h.priorSuccess]
      by_cases hspent : r.nonceHash = n ∧ n ∉ l.nonceHashes
      · refine decideCall_congr (fun hwrite pending hpre hnone => hfirst ?_) _ _
        obtain ⟨hw, he⟩ := (admitted_iff hwrite).1 ⟨pending, hpre⟩
        exact ⟨r, harg, hw, he, hnone, hspent⟩
      · have hnonce : l'.hasNonce r.nonceHash = l.hasNonce r.nonceHash := by
          unfold ReplayLedger.hasNonce
          rw [h.nonceHashes, decide_eq_decide, Finset.mem_insert]
          constructor
          · rintro (heq | hmem)
            · exact of_not_not fun hno => hspent ⟨heq, heq ▸ hno⟩
            · exact hmem
          · exact .inr
        rw [hnonce]
    cases hd : decideCall key call r (l.priorSuccess r.idempotencyHash) (l.hasNonce r.nonceHash) with
    | error e =>
      obtain ⟨hrecord, hl⟩ := callRecord_error harg hd
      obtain ⟨hrecord', hl'⟩ := callRecord_error harg (hdecide.trans hd)
      exact ⟨hrecord.trans hrecord'.symm, by rw [hl, hl']; exact h⟩
    | ok d =>
      obtain ⟨hrecord, hl⟩ := callRecord_ok harg hd
      obtain ⟨hrecord', hl'⟩ := callRecord_ok harg (hdecide.trans hd)
      exact ⟨hrecord.trans hrecord'.symm, by rw [hl, hl']; exact h.step d⟩

/-- The first call that would use the nonce comes to something else: it is denied as a replay. -/
theorem SpentOn.differs (h : SpentOn n l l') (hfirst : FirstUse key n l call) :
    callRecord key l call ≠ callRecord key l' call := by
  obtain ⟨r, harg, hw, he, hnone, rfl, hfree⟩ := hfirst
  have hwrite : r.capability.writable = true := hw.elim Wellformed.writable And.right
  obtain ⟨pending, hpre⟩ := (admitted_iff hwrite).2 ⟨hw, he⟩
  have hfree : l.hasNonce r.nonceHash = false := decide_eq_false hfree
  have hspent : l'.hasNonce r.nonceHash = true := by
    unfold ReplayLedger.hasNonce
    rw [h.nonceHashes]
    exact decide_eq_true (Finset.mem_insert_self ..)
  have hd := decideCall_free hwrite hpre false
  have hd' := decideCall_free hwrite hpre true
  rw [← hnone, ← hfree] at hd
  rw [← hnone, ← h.priorSuccess, ← hspent] at hd'
  rw [(callRecord_ok harg hd).1, (callRecord_ok harg hd').1, hfree, hspent]
  intro heq
  have hcodes : [(decideNonce pending false).verdict.internalDenialCode] =
      [(decideNonce pending true).verdict.internalDenialCode] := congrArg Prod.snd heq
  rcases pending with _ | code
  · revert hcodes
    decide
  · obtain ⟨rfl, -, -⟩ := precheck_admitted_some.1 hpre
    revert hcodes
    decide

/-! ## A forged call -/

/-- The checks of a forged request come to a decision where the texts they compare are ASCII. -/
theorem precheck_of_comparable
    (hforged : r.capability.authTag ≠ authTag key r.capability.unsignedPayload)
    (h : Comparable call r) : ∃ check, precheck key call r = .ok check := by
  cases hhex : isHex64 r.requestCommitment with
  | true =>
    rw [precheck_of_ok (buildRequest_of_writable hhex h.ticks)]
    unfold structurallyInvalid
    dsimp only
    by_cases hrevision : r.capability.revision = sealedIpcCoreRevision
    · have htag := isAscii_of_isHex64 (isHex64_authTag key r.capability.unsignedPayload)
      rw [if_neg (not_not_intro hrevision), compareDigest_ascii (h.tag hhex hrevision) htag]
      simp [hforged]
    · rw [if_pos hrevision]
      exact ⟨_, rfl⟩
  | false =>
    obtain ⟨hcap, hcall⟩ := h.principal hhex
    rw [precheck_of_error (buildRequest_of_malformed _ hhex)]
    unfold principalChecks
    dsimp only
    rw [compareDigest_ascii hcap hcall]
    rcases decide (r.capability.principalCommitment = call.principal)
    · exact ⟨_, rfl⟩
    · dsimp only
      split_ifs <;> exact ⟨_, rfl⟩

/-- They raise where one of the texts is not. -/
theorem precheck_of_not_comparable (key : List Nat) (hwrite : r.capability.writable = true)
    (h : ¬ Comparable call r) : ∃ e, precheck key call r = .error e := by
  cases hhex : isHex64 r.requestCommitment with
  | true =>
    have hraises : r.capability.revision = sealedIpcCoreRevision ∧
        ¬ isAscii r.capability.authTag = true := by
      by_contra hno
      push Not at hno
      refine h ⟨hwrite, fun _ => hno, fun hother => ?_⟩
      cases hhex.symm.trans hother
    obtain ⟨hrevision, hascii⟩ := hraises
    rw [precheck_of_ok (buildRequest_of_writable hhex hwrite)]
    unfold structurallyInvalid compareDigest
    dsimp only
    rw [if_neg (not_not_intro hrevision), if_neg fun hboth => hascii hboth.1]
    exact ⟨_, rfl⟩
  | false =>
    have hraises : ¬ (isAscii r.capability.principalCommitment = true ∧
        isAscii call.principal = true) := by
      intro hboth
      refine h ⟨hwrite, fun hother => ?_, fun _ => hboth⟩
      cases hhex.symm.trans hother
    rw [precheck_of_error (buildRequest_of_malformed _ hhex)]
    unfold principalChecks compareDigest
    dsimp only
    rw [if_neg hraises]
    exact ⟨_, rfl⟩

/-- The call raises, and leaves the ledger as it is. -/
theorem authorize_of_not_comparable (key : List Nat) (l : ReplayLedger)
    (harg : call.argument = .request r) (h : ¬ Comparable call r) :
    ∃ e, authorize key l call = (.raised e, l) := by
  by_cases hwrite : r.capability.writable = true
  · obtain ⟨e, hpre⟩ := precheck_of_not_comparable key hwrite h
    refine ⟨e, ?_⟩
    unfold authorize
    rw [harg]
    dsimp only
    rw [hpre]
  · exact authorize_of_unwritable key l harg (Bool.eq_false_iff.2 hwrite)

/-- A recorded hash can be compared. -/
theorem decidePrior_reached (key : List Nat) (calls : List IpcCall) {r : SealedIpcRequest}
    (hwrite : r.capability.writable = true) :
    ∃ d, decidePrior r ((ledgerAfter key calls).priorSuccess r.idempotencyHash) = .ok d := by
  rcases hprior : (ledgerAfter key calls).priorSuccess r.idempotencyHash with _ | ⟨hash, receipt⟩
  · exact ⟨none, rfl⟩
  · obtain ⟨_, _, _, r', _, _, _, rfl, _⟩ := recorded hprior
    have hhash : isAscii r'.requestHash = true := isAscii_of_isHex64 (isHex64_digest _)
    have hhash' : isAscii r.requestHash = true := isAscii_of_isHex64 (isHex64_digest _)
    unfold decidePrior
    dsimp only
    rw [SealedIpcRequest.writable_toJson, if_neg (not_not_intro hwrite),
      compareDigest_ascii hhash hhash']
    exact ⟨_, rfl⟩

/-- A forged call spends the nonce it names, and changes no recorded success. -/
theorem spentOn_forged (calls : List IpcCall) (harg : call.argument = .request r)
    (hforged : Forged key call) (h : Comparable call r) :
    SpentOn r.nonceHash (ledgerAfter key calls) (authorize key (ledgerAfter key calls) call).2 where
  priorSuccess hash := by
    rcases (authorize_outcome key (ledgerAfter key calls) call).priorSuccess hash with
      hsame | ⟨r', harg', hpre, -⟩
    · exact hsame
    · exact (hforged r' harg' (precheck_admitted_none.1 hpre).1.tag).elim
  nonceHashes := by
    obtain ⟨check, hpre⟩ := precheck_of_comparable (hforged r harg) h
    obtain ⟨d, hd⟩ := decidePrior_reached key calls h.ticks
    have hdecide : ∃ d, decideCall key call r
        ((ledgerAfter key calls).priorSuccess r.idempotencyHash)
        ((ledgerAfter key calls).hasNonce r.nonceHash) = .ok d := by
      unfold decideCall
      rw [hpre]
      dsimp only
      rw [if_neg (not_not_intro h.ticks)]
      rcases check with code | pending
      · exact ⟨_, rfl⟩
      · dsimp only
        rw [hd]
        rcases d with _ | d <;> exact ⟨_, rfl⟩
    obtain ⟨d, hd⟩ := hdecide
    rw [(callRecord_ok harg hd).2]
    rfl

end

/-- **When a forged call can be left out of a run**: what every other call comes to is the same
without it exactly where no later call is the first to use its nonce. -/
theorem deletion_iff (key : List Nat) (pre : List IpcCall) (c : IpcCall) (post : List IpcCall)
    (hforged : Forged key c) :
    (ipcRecords key (pre ++ c :: post)).eraseIdx pre.length = ipcRecords key (pre ++ post) ↔
      ∀ r, c.argument = .request r → Comparable c r →
        AllSteps (fun l call => (authorize key l call).2)
          (fun l call => ¬ FirstUse key r.nonceHash l call) (ledgerAfter key pre) post := by
  unfold ipcRecords
  rw [outputs_eraseIdx, outputs_append, List.append_cancel_left_eq]
  cases harg : c.argument with
  | other requestId =>
    have hrun : authorize key (ledgerAfter key pre) c =
        (.denied (genericDenial requestId), ledgerAfter key pre) := by
      unfold authorize
      rw [harg]
    simp [hrun]
  | request r =>
    by_cases hcomparable : Comparable c r
    · have hspent := spentOn_forged pre harg hforged hcomparable
      have hdiff (l l' : ReplayLedger) (call : IpcCall) (hR : SpentOn r.nonceHash l l')
          (hC : ¬ ¬ FirstUse key r.nonceHash l call) :
          callRecord key l call ≠ callRecord key l' call := hR.differs (of_not_not hC)
      rw [eq_comm, outputs_eq_iff (fun _ _ _ hR hC => hR.same hC) hdiff hspent post]
      constructor
      · intro h r' harg' _
        cases harg'
        exact h
      · exact fun h => h r rfl hcomparable
    · obtain ⟨e, hrun⟩ := authorize_of_not_comparable key (ledgerAfter key pre) harg hcomparable
      rw [hrun]
      refine ⟨fun _ r' harg' hr' => ?_, fun _ => rfl⟩
      cases harg'
      exact (hcomparable hr').elim

/-! ## A forged copy of a request -/

section
variable {key : List Nat} {call c : IpcCall} {r : SealedIpcRequest} {n : String}

/-- The first call of a fresh ledger uses its nonce first. -/
theorem firstUse_fresh (harg : call.argument = .request r)
    (hpre : precheck key call r = .ok (.admitted none)) (hn : r.nonceHash = n) :
    FirstUse key n .fresh call := by
  obtain ⟨hw, he⟩ := precheck_admitted_none.1 hpre
  exact ⟨r, harg, .inl hw, he, rfl, hn, Finset.notMem_empty _⟩

/-- On a fresh ledger, a forged call changes what the first user of its nonce comes to. -/
theorem forged_denies (harg : c.argument = .request r) (hforged : Forged key c)
    (h : Comparable c r) (hfirst : FirstUse key r.nonceHash .fresh call) :
    (ipcRecords key [c, call]).eraseIdx 0 ≠ ipcRecords key [call] := by
  have hspent := spentOn_forged [] harg hforged h
  have hrecords : (ipcRecords key [c, call]).eraseIdx 0 =
      [callRecord key (authorize key .fresh c).2 call] := rfl
  have hrecord : ipcRecords key [call] = [callRecord key .fresh call] := rfl
  rw [hrecords, hrecord]
  intro heq
  exact hspent.differs hfirst (List.cons.inj heq).1.symm

/-- A call that was accepted before is not the first to use a nonce. -/
theorem not_firstUse {pre : List IpcCall} (h : Original key pre call r) (post : List IpcCall) :
    ¬ FirstUse key n (ledgerAfter key (pre ++ call :: post)) call := by
  rintro ⟨r', harg, -, -, hnone, -⟩
  rw [h.argument] at harg
  cases harg
  cases hnone.symm.trans (h.kept post).1

end

/-- The request of a holder, with an empty tag. -/
def forgedRequest : SealedIpcRequest :=
  requestOn { sampleCapability with authTag := "" }
    "bbbbbbbbbbbbbbbbbbbbbbbbbbbbbbbbbbbbbbbbbbbbbbbbbbbbbbbbbbbbbbbb"

/-- It is presented by someone else. -/
def forgedCall : IpcCall where
  argument := .request forgedRequest
  principal := "dddddddddddddddddddddddddddddddddddddddddddddddddddddddddddddddd"
  currentTick := 11
  resultCommitment := "cccccccccccccccccccccccccccccccccccccccccccccccccccccccccccccccc"

/-- The forged call passes the forged request. -/
theorem argument_forged : forgedCall.argument = .request forgedRequest := rfl

/-- The forged request takes the nonce of the sample. -/
theorem nonceHash_forged : sampleRequest.nonceHash = forgedRequest.nonceHash := by
  have hsample : sampleRequest.nonce = "nonce-001" := rfl
  have hforged : forgedRequest.nonce = "nonce-001" := rfl
  rw [SealedIpcRequest.nonceHash, SealedIpcRequest.nonceHash, hsample, hforged]

/-- An empty tag is forged. -/
theorem forged_of_empty {key : List Nat} {call : IpcCall} {r : SealedIpcRequest}
    (harg : call.argument = .request r) (htag : r.capability.authTag = "") : Forged key call := by
  intro r' harg' htag'
  rw [harg] at harg'
  cases harg'
  have hhex : isHex64 "" = true := htag ▸ htag' ▸ isHex64_authTag ..
  exact absurd hhex (by decide)

/-- The forged call is forged. -/
theorem forged_forgedCall : Forged sampleKey forgedCall := forged_of_empty argument_forged rfl

/-- An empty tag can be compared. -/
theorem comparable_of_empty {call : IpcCall} {r : SealedIpcRequest}
    (hwrite : r.capability.writable = true) (hhex : isHex64 r.requestCommitment = true)
    (htag : r.capability.authTag = "") : Comparable call r := by
  refine ⟨hwrite, fun _ _ => ?_, fun hother => ?_⟩
  · rw [htag]
    rfl
  · cases hhex.symm.trans hother

/-- The forged call is compared without an error. -/
theorem comparable_forged : Comparable forgedCall forgedRequest :=
  comparable_of_empty (by decide +kernel) (by decide +kernel) rfl

/-- The holder's own request is denied after it, and accepted without it. -/
theorem forged_call_denies :
    Forged sampleKey forgedCall ∧
      (ipcRecords sampleKey [forgedCall, sampleCall]).eraseIdx 0 ≠
        ipcRecords sampleKey [sampleCall] :=
  ⟨forged_forgedCall, forged_denies argument_forged forged_forgedCall comparable_forged
    (firstUse_fresh argument_sample precheck_sample nonceHash_forged)⟩

/-- After the holder's request was accepted, the forged copy of it changes nothing. -/
theorem deletion_sample :
    (ipcRecords sampleKey ([sampleCall] ++ forgedCall :: [sampleCall])).eraseIdx
        [sampleCall].length = ipcRecords sampleKey ([sampleCall] ++ [sampleCall]) := by
  refine (deletion_iff sampleKey [sampleCall] forgedCall [sampleCall] forged_forgedCall).2 ?_
  intro r _ _
  exact ⟨not_firstUse (original_nil argument_sample precheck_sample) [], trivial⟩

end LawFirmDigitalTwin
