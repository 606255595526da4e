import LawFirmDigitalTwin.SealedIpc.Soundness
import LawFirmDigitalTwin.Spelling

/-!
# The replay ledger

The entries of the ledger are a hash chain over what each call recorded, which the validator accepts
as long as no digest collides; a nonce and an idempotency key are accepted once, and what is
accepted later for a key repeats the first receipt.
-/

namespace LawFirmDigitalTwin

open HashChain

/-! ## The chain of the entries -/

/-- What an entry records. -/
structure LedgerItem where
  request : SealedIpcRequest
  principal : String
  verdict : IpcVerdict

/-- The hash of an entry. -/
def LedgerItem.next (sequence : Int) (parent : String) (i : LedgerItem) : String :=
  digest (ReplayLedger.unsignedEntry sequence i.request i.principal i.verdict parent)

/-- The entry at a link of the chain. -/
def LedgerItem.entryAt (l : Link String LedgerItem) : SealedReplayEntry :=
  ReplayLedger.entry l.sequence l.parent l.item.request l.item.principal l.item.verdict

/-- The entries that some items make on a fresh ledger. -/
abbrev entriesOf (items : List LedgerItem) : List SealedReplayEntry :=
  (links LedgerItem.next 1 ReplayLedger.genesisHash items).map LedgerItem.entryAt

/-- The entries of the ledger are a chain from the genesis hash on. -/
def ReplayLedger.Chained (l : ReplayLedger) : Prop := ∃ items, l.entries = entriesOf items

/-- The hash of the last entry is the head of the items. -/
theorem priorHash_entriesOf (items : List LedgerItem) :
    ((entriesOf items).getLast?.map (·.entryHash)).getD ReplayLedger.genesisHash =
      head LedgerItem.next 1 ReplayLedger.genesisHash items := by
  induction items using List.reverseRecOn with
  | nil => rfl
  | append_singleton items i _ =>
    rw [entriesOf, links_concat, List.map_append, List.map_singleton, List.getLast?_concat,
      head_concat]
    rfl

/-- Appending keeps the chain. -/
theorem ReplayLedger.Chained.appended {l : ReplayLedger} (h : l.Chained) (r : SealedIpcRequest)
    (principal : String) (verdict : IpcVerdict) (success : Option SealedIpcSuccessReceipt) :
    (l.appended r principal verdict success).Chained := by
  obtain ⟨items, hitems⟩ := h
  have hlength : l.entries.length = items.length := by rw [hitems]; simp
  have hprior : l.priorHash = head LedgerItem.next 1 genesisHash items := by
    rw [priorHash, hitems, priorHash_entriesOf]
  refine ⟨items ++ [⟨r, principal, verdict⟩], ?_⟩
  have hentries : (l.appended r principal verdict success).entries =
      l.entries ++ [entry (l.entries.length + 1) l.priorHash r principal verdict] := rfl
  rw [hentries, hlength, hprior, hitems, entriesOf, entriesOf, links_concat, List.map_append,
    add_comm (items.length : Int)]
  rfl

/-- A run keeps the entries a chain. -/
theorem chained_ledgerAfter (key : List Nat) (calls : List IpcCall) :
    (ledgerAfter key calls).Chained := by
  refine Machine.run_invariant (fun l call h => ?_) ⟨[], rfl⟩ calls
  have hout := authorize_outcome key l call
  generalize (authorize key l call).1 = o at hout
  generalize (authorize key l call).2 = l' at hout
  cases hout with
  | other | raised => exact h
  | denied | duplicate | fresh => exact h.appended ..

/-! ## The validator on a chain -/

/-- The forms of the entries, which their hashes are the digests of. -/
def ReplayLedger.entryForms (l : ReplayLedger) : Set Json := {j | ∃ e ∈ l.entries, e.unsigned = j}

/-- An accepted request has no denial code, and a denied one has. -/
theorem accepted_eq_uncoded (verdict : IpcVerdict) :
    (verdict.disposition = "ACCEPTED") = (verdict.internalDenialCode = "") := by
  rcases verdict with code | _
  · cases code <;> decide
  · decide

/-- Nothing is wrong with an entry at its place, with a hash not yet seen. -/
theorem entryErrors_entryAt {n : Nat} {k : String} {seen : List String} {i : LedgerItem}
    (h : LedgerItem.next n k i ∉ seen) :
    entryErrors n k seen (LedgerItem.entryAt ⟨n, k, i⟩) = [] := by
  have hunsigned : (LedgerItem.entryAt ⟨n, k, i⟩).entryHash =
      digest (LedgerItem.entryAt ⟨n, k, i⟩).unsigned := rfl
  have hdisposition : ((LedgerItem.entryAt ⟨n, k, i⟩).disposition = "ACCEPTED") =
      ((LedgerItem.entryAt ⟨n, k, i⟩).internalDenialCode = "") := accepted_eq_uncoded i.verdict
  unfold entryErrors
  rw [if_neg, if_neg (not_not_intro hdisposition), List.append_nil]
  rintro (hsequence | hprior | hhash | hseen | hvisible)
  · exact hsequence rfl
  · exact hprior rfl
  · exact hhash hunsigned
  · exact h hseen
  · cases hvisible

/-- Links without a repeated hash have no errors. -/
theorem ledgerErrors_links {n : Nat} {k : String} {seen : List String} {items : List LedgerItem}
    (hnodup : ((links LedgerItem.next n k items).map (·.hash LedgerItem.next)).Nodup)
    (hseen : ∀ l ∈ links LedgerItem.next n k items, l.hash LedgerItem.next ∉ seen) :
    ledgerErrors n k seen ((links LedgerItem.next n k items).map LedgerItem.entryAt) = [] := by
  induction items generalizing n k seen with
  | nil => rfl
  | cons i items ih =>
    simp only [links, List.map_cons, List.nodup_cons, List.mem_cons, forall_eq_or_imp] at hnodup hseen
    obtain ⟨hnew, hnodup⟩ := hnodup
    simp only [links, List.map_cons, ledgerErrors, entryErrors_entryAt hseen.1, List.nil_append]
    refine ih hnodup fun l hl hmem => ?_
    rcases List.mem_cons.1 hmem with heq | hmem
    · exact hnew (List.mem_map.2 ⟨l, hl, heq⟩)
    · exact hseen.2 l hl hmem

/-- **The validator accepts every chain** in which no hash collides. -/
theorem ReplayLedger.Chained.validate {l : ReplayLedger} (h : l.Chained)
    (hinj : Set.InjOn digest l.entryForms) : validateReplayLedger l = [] := by
  obtain ⟨items, hitems⟩ := h
  have hform : ∀ x ∈ links LedgerItem.next 1 genesisHash items,
      unsignedEntry x.sequence x.item.request x.item.principal x.item.verdict x.parent ∈
        l.entryForms := by
    intro x hx
    exact ⟨LedgerItem.entryAt x, hitems ▸ List.mem_map_of_mem hx, rfl⟩
  rw [validateReplayLedger, hitems]
  refine ledgerErrors_links (n := 1) (List.Nodup.map_on ?_ ?_) (by simp)
  · intro x hx y hy heq
    have hunsigned := hinj (hform x hx) (hform y hy) heq
    refine eq_of_sequence _ hx hy ?_
    simp only [unsignedEntry, Json.dict.injEq, List.cons.injEq, Prod.mk.injEq, Json.int.injEq]
      at hunsigned
    exact hunsigned.1.2
  · exact (pairwise_sequence ..).imp fun hlt heq => by
      rw [heq] at hlt
      exact lt_irrefl _ hlt

/-! ## What is accepted in a run -/

/-- After some calls, a call presents a request and is accepted. -/
structure Granted (key : List Nat) (before : List IpcCall) (call : IpcCall) (r : SealedIpcRequest)
    (a : SealedIpcSuccessReceipt) : Prop where
  argument : call.argument = .request r
  outcome : outcomeAfter key before call = .accepted a

/-- In a run, a request is accepted with a receipt, and later a request is accepted with a
receipt. -/
def LaterGranted (key : List Nat) (calls : List IpcCall) (r : SealedIpcRequest)
    (a : SealedIpcSuccessReceipt) (r' : SealedIpcRequest) (b : SealedIpcSuccessReceipt) : Prop :=
  ∃ pre c mid d post, calls = pre ++ c :: (mid ++ d :: post) ∧ Granted key pre c r a ∧
    Granted key (pre ++ c :: mid) d r' b

/-- What the replay ledger ensures of a run. -/
structure ReplayInvariant (key : List Nat) (calls : List IpcCall) : Prop where
  ledger_valid : validateReplayLedger (ledgerAfter key calls) = []
  nonce_once : ∀ r a r' b, LaterGranted key calls r a r' b → a.duplicate = false →
    b.duplicate = false → r'.nonce ≠ r.nonce
  key_once : ∀ r a r' b, LaterGranted key calls r a r' b → a.duplicate = false →
    b.duplicate = false → r'.idempotencyKey ≠ r.idempotencyKey
  later_grants : ∀ r a r' b, LaterGranted key calls r a r' b → a.duplicate = false →
    r'.idempotencyKey = r.idempotencyKey → r' = r ∧ b = { a with duplicate := true }
  original_grant : ∀ pre d post r' b, calls = pre ++ d :: post → Granted key pre d r' b →
    b.duplicate = true → ∃ p c q a, pre = p ++ c :: q ∧ Granted key p c r' a ∧
      a.duplicate = false ∧ b = { a with duplicate := true }

section
variable {key : List Nat} {calls : List IpcCall} {call d : IpcCall} {r r' : SealedIpcRequest}
  {a b : SealedIpcSuccessReceipt}

/-- An original call is accepted with the receipt of its request. -/
theorem Original.granted {before : List IpcCall} (h : Original key before call r) :
    Granted key before call r (successReceipt r call.resultCommitment) := by
  refine ⟨h.argument, ?_⟩
  rw [outcomeAfter, authorize_first h.argument h.precheck h.key_free h.nonce_free]

/-- A grant is an original one, or the receipt is the one recorded for the request. -/
theorem Granted.cases {before : List IpcCall} (h : Granted key before d r b) :
    Original key before d r ∧ b.duplicate = false ∨
      ∃ prior, (ledgerAfter key before).priorSuccess r.idempotencyHash =
        some (r.requestHash, prior) ∧ b = { prior with duplicate := true } := by
  have hout := authorize_outcome key (ledgerAfter key before) d
  have ho := h.outcome
  rw [outcomeAfter] at ho
  rw [ho] at hout
  generalize (authorize key (ledgerAfter key before) d).2 = l' at hout
  cases hout with
  | fresh harg hpre hprior hnonce =>
    cases h.argument.symm.trans harg
    exact .inl ⟨⟨harg, hpre, hprior, hnonce⟩, rfl⟩
  | duplicate harg hwrite hpre hprior =>
    cases h.argument.symm.trans harg
    exact .inr ⟨_, hprior, rfl⟩

/-- A first grant is the original of its success. -/
theorem original_of_granted {before : List IpcCall} (h : Granted key before call r a)
    (hfirst : a.duplicate = false) :
    Original key before call r ∧ a = successReceipt r call.resultCommitment :=
  original_of_accepted h.argument h.outcome hfirst

/-- A nonce is not accepted for the first time again. -/
theorem nonce_ne_of_laterGranted (h : LaterGranted key calls r a r' b) (ha : a.duplicate = false)
    (hb : b.duplicate = false) : r'.nonce ≠ r.nonce := by
  obtain ⟨pre, c, mid, d, post, rfl, hc, hd⟩ := h
  have hkept := ((original_of_granted hc ha).1.kept mid).2
  have hfree := (original_of_granted hd hb).1.nonce_free
  intro hnonce
  rw [SealedIpcRequest.nonceHash, hnonce] at hfree
  exact hfree hkept

/-- A key is not accepted for the first time again. -/
theorem key_ne_of_laterGranted (h : LaterGranted key calls r a r' b) (ha : a.duplicate = false)
    (hb : b.duplicate = false) : r'.idempotencyKey ≠ r.idempotencyKey := by
  obtain ⟨pre, c, mid, d, post, rfl, hc, hd⟩ := h
  have hkept := ((original_of_granted hc ha).1.kept mid).1
  have hfree := (original_of_granted hd hb).1.key_free
  intro hkey
  rw [SealedIpcRequest.idempotencyHash, hkey] at hfree
  cases hfree.symm.trans hkept

/-- What is accepted later for a key is the request accepted first, with its receipt. -/
theorem eq_of_laterGranted (hinj : Set.InjOn digest (requestForms calls))
    (h : LaterGranted key calls r a r' b) (ha : a.duplicate = false)
    (hkey : r'.idempotencyKey = r.idempotencyKey) : r' = r ∧ b = { a with duplicate := true } := by
  have hother : b.duplicate = false → False := fun hb => key_ne_of_laterGranted h ha hb hkey
  obtain ⟨pre, c, mid, d, post, rfl, hc, hd⟩ := h
  obtain ⟨horiginal, rfl⟩ := original_of_granted hc ha
  rcases hd.cases with ⟨-, hb⟩ | ⟨prior, hprior, rfl⟩
  · exact (hother hb).elim
  · have hkept := (horiginal.kept mid).1
    rw [SealedIpcRequest.idempotencyHash, hkey] at hprior
    obtain ⟨hhash, rfl⟩ := Prod.mk.inj (Option.some.inj (hprior.symm.trans hkept))
    exact ⟨eq_of_requestHash hinj (by simp) (by simp) hd.argument hc.argument hhash, rfl⟩

/-- What is accepted as a duplicate was accepted before, for the same request. -/
theorem original_of_duplicate {pre post : List IpcCall}
    (hinj : Set.InjOn digest (requestForms (pre ++ d :: post))) (h : Granted key pre d r b)
    (hb : b.duplicate = true) :
    ∃ p c q a, pre = p ++ c :: q ∧ Granted key p c r a ∧ a.duplicate = false ∧
      b = { a with duplicate := true } := by
  rcases h.cases with ⟨-, hfirst⟩ | ⟨prior, hprior, rfl⟩
  · cases hb.symm.trans hfirst
  · obtain ⟨p, c, q, r', rfl, horiginal, -, hhash, rfl⟩ := recorded hprior
    obtain rfl : r' = r :=
      eq_of_requestHash hinj (by simp) (by simp) horiginal.argument h.argument hhash
    exact ⟨p, c, q, _, rfl, horiginal.granted, rfl, rfl⟩

/-- **The replay invariant**, where no digest of a request or of an entry collides. -/
theorem replay_invariant (key : List Nat) (calls : List IpcCall)
    (hinj : Set.InjOn digest (requestForms calls ∪ (ledgerAfter key calls).entryForms)) :
    ReplayInvariant key calls := by
  have hrequests := hinj.mono Set.subset_union_left
  exact {
    ledger_valid := (chained_ledgerAfter key calls).validate (hinj.mono Set.subset_union_right)
    nonce_once := fun _ _ _ _ => nonce_ne_of_laterGranted
    key_once := fun _ _ _ _ => key_ne_of_laterGranted
    later_grants := fun _ _ _ _ => eq_of_laterGranted hrequests
    original_grant := by
      rintro pre d post r' b rfl
      exact original_of_duplicate hrequests }

end

/-! ## A request presented twice -/

/-- A tag from the spelling of the payload. -/
theorem authTag_eq_of_spells {key : List Nat} {payload : List (String × Json)} {t : Json.Spelling}
    {cs : List Char} (h : Json.Spells (.dict payload) t)
    (hcs : Sha256.runHmacHexdigest key (Json.bytesOfChars t.text) = cs) :
    authTag key payload = String.ofList cs := by
  unfold authTag
  rw [Json.canonicalJson_eq_of_spells h, ← Json.bytesOfChars_eq, ← Sha256.runHmacHexdigest_eq, hcs]

/-- The sample capability, written out. -/
theorem sampleCapability_eq : sampleCapability =
    { capabilityId := "IPCCAP-02a2677c3f64fddf7d8f5240"
      revision := sealedIpcCoreRevision
      principalCommitment := "aaaaaaaaaaaaaaaaaaaaaaaaaaaaaaaaaaaaaaaaaaaaaaaaaaaaaaaaaaaaaaaa"
      operatingMatterId := "MAT-OPERATING-001"
      allowedOperation := "RequestOperatingProjection"
      issuedTick := 10
      expiresTick := 20
      nonce := "nonce-001"
      idempotencyKey := "idem-001"
      authTag := "b5e6a1999b430c3f2f0f42498e2a81d33162399aaa337dd0132cdc3c08359aac"
      containsRawPrincipal := false
      containsPath := false
      containsSecret := false
      containsPayload := false } := by
  have htag : authTag sampleKey (capabilityUnsignedPayload
        "aaaaaaaaaaaaaaaaaaaaaaaaaaaaaaaaaaaaaaaaaaaaaaaaaaaaaaaaaaaaaaaa" "MAT-OPERATING-001"
        "RequestOperatingProjection" 10 20 "nonce-001" "idem-001") =
      "b5e6a1999b430c3f2f0f42498e2a81d33162399aaa337dd0132cdc3c08359aac" :=
    authTag_eq_of_spells (by repeat' constructor) (by decide +kernel)
  have hid : firstChars 24 (digest (.dict (capabilityUnsignedPayload
        "aaaaaaaaaaaaaaaaaaaaaaaaaaaaaaaaaaaaaaaaaaaaaaaaaaaaaaaaaaaaaaaa" "MAT-OPERATING-001"
        "RequestOperatingProjection" 10 20 "nonce-001" "idem-001" ++ [("auth_tag",
        .str "b5e6a1999b430c3f2f0f42498e2a81d33162399aaa337dd0132cdc3c08359aac")]))) =
      "02a2677c3f64fddf7d8f5240" :=
    Json.firstChars_eq_of_spells (by repeat' constructor) (by decide +kernel)
  unfold sampleCapability signedCapability
  dsimp only
  rw [htag, capabilityIdOf, hid]
  rfl

/-- The digests of the capability, of the request, and of its nonce and its key. -/
theorem hashes_sample :
    sampleCapability.capabilityHash =
        "aeb0153d7432b7341a2745b1d6fe505382effb8e62bf1b68e8d32d9785691aec" ∧
      sampleRequest.requestHash =
        "bb63104413380b3d9702de1a36535c8b7df9ee411840a7f041e4b42ffc417f4d" ∧
      sampleRequest.nonceHash =
        "30826fc5dc637b107aa8e8948d66d418d1dcf85a2b7905117120be4891ecc753" ∧
      sampleRequest.idempotencyHash =
        "165a40157727e6c9ab20f36486849e36ec2c4eb5c3fc3398a388267fc5919c90" := by
  have hcapability : sampleCapability.capabilityHash =
      "aeb0153d7432b7341a2745b1d6fe505382effb8e62bf1b68e8d32d9785691aec" := by
    rw [sampleCapability_eq, SealedIpcCapability.capabilityHash]
    exact Json.digest_eq_of_spells (by repeat' constructor) (by decide +kernel)
  have hid : requestIdOf sampleCapability
      "bbbbbbbbbbbbbbbbbbbbbbbbbbbbbbbbbbbbbbbbbbbbbbbbbbbbbbbbbbbbbbbb" =
        "IPCREQ-30d9ae7ea9e73f4b3aef4e4e" := by
    rw [requestIdOf, hcapability, sampleCapability_eq]
    refine congrArg ("IPCREQ-" ++ ·) (?_ : firstChars 24 (digest _) = "30d9ae7ea9e73f4b3aef4e4e")
    exact Json.firstChars_eq_of_spells (by repeat' constructor) (by decide +kernel)
  have hnonce : sampleRequest.nonce = "nonce-001" := rfl
  have hkey : sampleRequest.idempotencyKey = "idem-001" := rfl
  refine ⟨hcapability, ?_, ?_, ?_⟩
  · rw [SealedIpcRequest.requestHash, sampleRequest, requestOn, hid, sampleCapability_eq]
    exact Json.digest_eq_of_spells (by repeat' constructor) (by decide +kernel)
  · rw [SealedIpcRequest.nonceHash, hnonce]
    exact Json.digest_eq_of_spells (by repeat' constructor) (by decide +kernel)
  · rw [SealedIpcRequest.idempotencyHash, hkey]
    exact Json.digest_eq_of_spells (by repeat' constructor) (by decide +kernel)

/-- What the entry of an accepted presentation is hashed from. -/
theorem unsignedEntry_sample (sequence : Int) (principal parent : String) :
    ReplayLedger.unsignedEntry sequence sampleRequest principal .accepted parent = .dict [
      ("sequence", .int sequence),
      ("request_hash", .str "bb63104413380b3d9702de1a36535c8b7df9ee411840a7f041e4b42ffc417f4d"),
      ("capability_hash", .str "aeb0153d7432b7341a2745b1d6fe505382effb8e62bf1b68e8d32d9785691aec"),
      ("principal_commitment", .str principal),
      ("nonce_commitment", .str "30826fc5dc637b107aa8e8948d66d418d1dcf85a2b7905117120be4891ecc753"),
      ("idempotency_key_commitment",
        .str "165a40157727e6c9ab20f36486849e36ec2c4eb5c3fc3398a388267fc5919c90"),
      ("disposition", .str "ACCEPTED"),
      ("internal_denial_code", .str ""),
      ("prior_entry_hash", .str parent)] := by
  have hsame : sampleRequest.capability.capabilityHash = sampleCapability.capabilityHash := rfl
  obtain ⟨hcapability, hrequest, hnonce, hkey⟩ := hashes_sample
  unfold ReplayLedger.unsignedEntry
  rw [hrequest, hsame, hcapability, hnonce, hkey]
  rfl

/-- What a presentation of the request records. -/
def sampleItem : LedgerItem := ⟨sampleRequest, sampleCall.principal, .accepted⟩

/-- The digests of the first two entries. -/
theorem entryHashes_sample :
    LedgerItem.next 1 ReplayLedger.genesisHash sampleItem =
        "b36d9d644c0e1c26a981d236a32b5c27bb7c51ea5b8907b23ef84b4e038c8c17" ∧
      LedgerItem.next 2 (LedgerItem.next 1 ReplayLedger.genesisHash sampleItem) sampleItem =
        "ade427fcd0e61f10010fc6eab5c57eaf4bc7e8f6f385af554ab54bb93e8bc1b3" := by
  have hprincipal : sampleCall.principal =
      "aaaaaaaaaaaaaaaaaaaaaaaaaaaaaaaaaaaaaaaaaaaaaaaaaaaaaaaaaaaaaaaa" := rfl
  have hgenesis : ReplayLedger.genesisHash =
      "4662d93ea0276e356f96153d9b3673deb28f38b685a759832549fa90d7422144" := by
    rw [ReplayLedger.genesisHash]
    exact Json.digest_eq_of_spells (by repeat' constructor) (by decide +kernel)
  have hfirst : LedgerItem.next 1 ReplayLedger.genesisHash sampleItem =
      "b36d9d644c0e1c26a981d236a32b5c27bb7c51ea5b8907b23ef84b4e038c8c17" := by
    rw [LedgerItem.next, sampleItem, unsignedEntry_sample, hprincipal, hgenesis]
    exact Json.digest_eq_of_spells (by repeat' constructor) (by decide +kernel)
  refine ⟨hfirst, ?_⟩
  rw [hfirst, LedgerItem.next, sampleItem, unsignedEntry_sample, hprincipal]
  exact Json.digest_eq_of_spells (by repeat' constructor) (by decide +kernel)

/-- The entries after one call is made twice: a first acceptance and a duplicate. -/
theorem entries_twice {key : List Nat} {call : IpcCall} {r : SealedIpcRequest}
    (harg : call.argument = .request r) (hpre : precheck key call r = .ok (.admitted none)) :
    (ledgerAfter key [call, call]).entries =
      entriesOf [⟨r, call.principal, .accepted⟩, ⟨r, call.principal, .accepted⟩] := by
  have hkept := ((original_nil harg hpre).kept []).1
  have hcalls : [call, call] = [call] ++ [call] := rfl
  rw [List.nil_append] at hkept
  have hwrite := (precheck_admitted_none.1 hpre).1.writable
  rw [hcalls, ledgerAfter, Machine.run_concat, authorize_duplicate harg hwrite hpre hkept,
    ledgerAfter, Machine.run_cons, authorize_first harg hpre rfl (Finset.notMem_empty _)]
  rfl

/-- No digest collides when the request is presented twice. -/
theorem injOn_sample : Set.InjOn digest (requestForms [sampleCall, sampleCall] ∪
    (ledgerAfter sampleKey [sampleCall, sampleCall]).entryForms) := by
  have hforms : ∀ j ∈ requestForms [sampleCall, sampleCall] ∪
      (ledgerAfter sampleKey [sampleCall, sampleCall]).entryForms,
      j = sampleRequest.toJson ∨
        j = ReplayLedger.unsignedEntry 1 sampleRequest sampleCall.principal .accepted
          ReplayLedger.genesisHash ∨
        j = ReplayLedger.unsignedEntry 2 sampleRequest sampleCall.principal .accepted
          (LedgerItem.next 1 ReplayLedger.genesisHash sampleItem) := by
    rintro j (⟨call, hcall, r, harg, rfl⟩ | ⟨e, he, rfl⟩)
    · rw [arguments_sample call hcall] at harg
      cases harg
      exact .inl rfl
    · rw [entries_twice argument_sample precheck_sample] at he
      rcases List.mem_cons.1 he with rfl | he
      · exact .inr (.inl rfl)
      · rw [List.mem_singleton.1 he]
        exact .inr (.inr rfl)
  have hrequest : digest sampleRequest.toJson = _ := hashes_sample.2.1
  have hfirst : digest (ReplayLedger.unsignedEntry 1 sampleRequest sampleCall.principal .accepted
    ReplayLedger.genesisHash) = _ := entryHashes_sample.1
  have hsecond : digest (ReplayLedger.unsignedEntry 2 sampleRequest sampleCall.principal .accepted
    (LedgerItem.next 1 ReplayLedger.genesisHash sampleItem)) = _ := entryHashes_sample.2
  intro a ha b hb hab
  rcases hforms a ha with rfl | rfl | rfl <;> rcases hforms b hb with rfl | rfl | rfl <;>
    first
    | rfl
    | (simp only [hrequest, hfirst, hsecond] at hab
       exact absurd hab (by decide))

/-- The request is accepted, then accepted as a duplicate. -/
theorem replay_invariant_sample : ReplayInvariant sampleKey [sampleCall, sampleCall] :=
  replay_invariant sampleKey [sampleCall, sampleCall] injOn_sample

end LawFirmDigitalTwin
