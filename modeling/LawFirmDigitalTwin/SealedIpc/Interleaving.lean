import LawFirmDigitalTwin.Lib.Threads
import LawFirmDigitalTwin.SealedIpc.Soundness

/-!
# Calls of the authorizer that interleave

Several calls of `authorize` share a ledger and are interrupted between their accesses to it: each
of `prior_success`, `has_nonce` and `append` is one atomic step, and nothing else is locked. The
window is between what a call reads and what it appends: a request is accepted twice where another
call for its nonce or its key was accepted meanwhile. Calls that do not overlap are those of
`authorize`, one after the other (`interleaved_oneByOne`).
-/

namespace LawFirmDigitalTwin

/-- Where a call stands between its accesses to the ledger. -/
inductive IpcPc
  | start
  | nonceCheck (pending : Option InternalDenialCode)
  | conclude (d : Decision)
  | done (o : IpcOutcome)

/-- A call up to its next access to the ledger, and that access. -/
def authorizeStep (key : List Nat) (call : IpcCall) (pc : IpcPc) (l : ReplayLedger) :
    IpcPc × ReplayLedger :=
  match call.argument with
  | .other requestId => (.done (.denied (genericDenial requestId)), l)
  | .request r =>
    match pc with
    | .start =>
      match precheck key call r with
      | .error e => (.done (.raised e), l)
      | .ok (.refused code) => (.conclude (.deny code), l)
      | .ok (.admitted pending) =>
        match decidePrior r (l.priorSuccess r.idempotencyHash) with
        | .error e => (.done (.raised e), l)
        | .ok (some d) => (.conclude d, l)
        | .ok none => (.nonceCheck pending, l)
    | .nonceCheck pending => (.conclude (decideNonce pending (l.hasNonce r.nonceHash)), l)
    | .conclude d =>
      let (o, l') := conclude call r l d
      (.done o, l')
    | .done o => (.done o, l)

section
variable {ι : Type*}

/-- The calls, each at its place, and the ledger. -/
abbrev IpcThreads (ι : Type*) := Threads.Config ι IpcPc ReplayLedger

/-- Nothing has been called yet. -/
def IpcThreads.init : IpcThreads ι := ⟨.fresh, fun _ => .start⟩

/-- A call that is not interrupted is `authorize`. -/
theorem solo_authorize (key : List Nat) (calls : ι → IpcCall) (i : ι) (l : ReplayLedger) :
    Threads.solo (fun i => authorizeStep key (calls i)) i 3 (.start, l) =
      (.done (authorize key l (calls i)).1, (authorize key l (calls i)).2) := by
  simp only [Threads.solo, authorizeStep, authorize]
  cases harg : (calls i).argument with
  | other requestId => rfl
  | request r =>
    dsimp only
    cases hpre : precheck key (calls i) r with
    | error e => rfl
    | ok check =>
      cases check with
      | refused code => rfl
      | admitted pending =>
        dsimp only
        rcases hd : decidePrior r (l.priorSuccess r.idempotencyHash) with e | _ | d <;> rfl

/-- A receipt that the call `i` returned. -/
def Returned (c : IpcThreads ι) (i : ι) (a : SealedIpcSuccessReceipt) : Prop :=
  c.own i = .done (.accepted a)

/-- What the replay check is to ensure of the receipts returned. -/
structure ReplaySafe (calls : ι → IpcCall) (c : IpcThreads ι) : Prop where
  nonce_once : ∀ i j, i ≠ j → ∀ r r' a b, (calls i).argument = .request r →
    (calls j).argument = .request r' → Returned c i a → Returned c j b → a.duplicate = false →
    b.duplicate = false → r.nonce ≠ r'.nonce
  key_once : ∀ i j, i ≠ j → ∀ r r' a b, (calls i).argument = .request r →
    (calls j).argument = .request r' → Returned c i a → Returned c j b → a.duplicate = false →
    b.duplicate = false → r.idempotencyKey ≠ r'.idempotencyKey
  others : ∀ i j, i ≠ j → ∀ r r' a b, (calls i).argument = .request r →
    (calls j).argument = .request r' → Returned c i a → Returned c j b → a.duplicate = false →
    r'.idempotencyKey = r.idempotencyKey →
    b.duplicate = true ∧ b.resultCommitment = a.resultCommitment

/-- The ledger has an entry for an accepted request with this nonce or this key. -/
def Claimed (l : ReplayLedger) (r : SealedIpcRequest) : Prop :=
  ∃ e ∈ l.entries, e.disposition = "ACCEPTED" ∧
    (e.nonceCommitment = r.nonceHash ∨ e.idempotencyKeyCommitment = r.idempotencyHash)

/-- A call about to append a first acceptance finds that no other call for its nonce or its key was
accepted since it looked. -/
def NoRace (calls : ι → IpcCall) (c : IpcThreads ι) (i : ι) : Prop :=
  ∀ r, (calls i).argument = .request r → c.own i = .conclude .acceptFresh → ¬ Claimed c.shared r

/-- The calls `calls` after the accesses that a schedule makes. -/
abbrev interleaved [DecidableEq ι] (key : List Nat) (calls : ι → IpcCall) (schedule : List ι) :
    IpcThreads ι :=
  Machine.run (Threads.step fun i => authorizeStep key (calls i)) IpcThreads.init schedule

/-! ## Calls that do not overlap -/

/-- The accesses of the calls `order`, where each call is done before the next one starts. -/
def oneByOne (order : List ι) : List ι := order.flatMap (List.replicate 3)

variable [DecidableEq ι] {key : List Nat} {calls : ι → IpcCall}

/-- A call that takes its accesses in a row is `authorize`, and leaves the other calls as they
are. -/
theorem interleaved_append_solo {schedule : List ι} {i : ι}
    (h : (interleaved key calls schedule).own i = .start) :
    interleaved key calls (schedule ++ List.replicate 3 i) =
      ⟨(authorize key (interleaved key calls schedule).shared (calls i)).2,
        Function.update (interleaved key calls schedule).own i
          (.done (authorize key (interleaved key calls schedule).shared (calls i)).1)⟩ := by
  rw [interleaved, Machine.run_append, Threads.run_solo, h, solo_authorize]

/-- What a schedule leaves of the calls `order` made one after the other. -/
structure OneByOne (key : List Nat) (calls : ι → IpcCall) (order : List ι) (t : IpcThreads ι) :
    Prop where
  shared : t.shared = ledgerAfter key (order.map calls)
  waiting : ∀ i, i ∉ order → t.own i = .start
  finished : ∀ before i after, order = before ++ i :: after →
    t.own i = .done (outcomeAfter key (before.map calls) (calls i))

/-- The next call finds the ledger that the calls before it have left. -/
theorem OneByOne.concat {order schedule : List ι} {i : ι} (hi : i ∉ order)
    (h : OneByOne key calls order (interleaved key calls schedule)) :
    OneByOne key calls (order ++ [i]) (interleaved key calls (schedule ++ List.replicate 3 i)) := by
  obtain ⟨hshared, hwaiting, hfinished⟩ := h
  rw [interleaved_append_solo (hwaiting i hi), hshared]
  refine ⟨?_, fun j hj => ?_, fun before j after hsplit => ?_⟩
  · rw [List.map_append, List.map_singleton]
    exact (Machine.run_concat (fun l call => (authorize key l call).2) ..).symm
  · simp only [List.mem_append, List.mem_singleton, not_or] at hj
    exact (Function.update_of_ne hj.2 ..).trans (hwaiting j hj.1)
  · rcases List.eq_nil_or_concat after with rfl | ⟨after, last, rfl⟩
    · obtain ⟨rfl, hsame⟩ := List.append_inj' hsplit rfl
      obtain rfl := List.singleton_inj.1 hsame
      exact Function.update_self ..
    · rw [List.concat_eq_append, ← List.cons_append, ← List.append_assoc] at hsplit
      obtain ⟨rfl, -⟩ := List.append_inj' hsplit rfl
      have hne : j ≠ i := fun hji => hi (hji ▸ by simp)
      exact (Function.update_of_ne hne ..).trans (hfinished before j after rfl)

/-- **Calls that do not overlap are calls of `authorize`**, each on the ledger that the ones before
it have left. -/
theorem interleaved_oneByOne (key : List Nat) (calls : ι → IpcCall) (order : List ι)
    (hnodup : order.Nodup) : OneByOne key calls order (interleaved key calls (oneByOne order)) := by
  induction order using List.reverseRecOn with
  | nil => exact ⟨rfl, fun _ _ => rfl, fun before i after h => by simp at h⟩
  | append_singleton order i ih =>
    obtain ⟨horder, -, hdisjoint⟩ := List.nodup_append.1 hnodup
    have hi : i ∉ order := fun hmem => hdisjoint i hmem i (.head _) rfl
    have hschedule : oneByOne (order ++ [i]) = oneByOne order ++ List.replicate 3 i := by
      rw [oneByOne, List.flatMap_append, List.flatMap_singleton, oneByOne]
    rw [hschedule]
    exact (ih horder).concat hi

end

/-- Two presentations of a request, one after the other. -/
theorem interleaved_oneByOne_sample :
    OneByOne sampleKey (fun _ : Bool => sampleCall) [false, true]
      (interleaved sampleKey (fun _ : Bool => sampleCall) (oneByOne [false, true])) :=
  interleaved_oneByOne sampleKey (fun _ => sampleCall) [false, true] (by decide)

/-! ## One access -/

section
variable {key : List Nat} {call : IpcCall} {r : SealedIpcRequest} {l l' : ReplayLedger}
  {pc pc' : IpcPc} {a prior : SealedIpcSuccessReceipt}

/-- The access of a call that has decided is the append, or raises. -/
theorem conclude_cases (call : IpcCall) (r : SealedIpcRequest) (l : ReplayLedger) (d : Decision) :
    conclude call r l d = (.raised digitsError, l) ∨
      conclude call r l d = (d.outcome call r,
        l.appended r call.principal d.verdict (d.success call r)) := by
  by_cases h : r.capability.writable = true
  · exact .inr (conclude_of_writable h d)
  · exact .inl (conclude_of_unwritable (Bool.eq_false_iff.2 h) d)

/-- An access leaves the ledger as it is, or is the append of a call that has decided. -/
theorem authorizeStep_ledger (h : authorizeStep key call pc l = (pc', l')) :
    l' = l ∨ ∃ r d, call.argument = .request r ∧ pc = .conclude d ∧
      l' = l.appended r call.principal d.verdict (d.success call r) := by
  unfold authorizeStep at h
  cases harg : call.argument with
  | other requestId =>
    rw [harg] at h
    cases h
    exact .inl rfl
  | request r =>
    rw [harg] at h
    dsimp only at h
    cases pc with
    | start =>
      dsimp only at h
      split at h <;> try (cases h; exact .inl rfl)
      split at h <;> cases h <;> exact .inl rfl
    | nonceCheck pending => cases h; exact .inl rfl
    | conclude d =>
      dsimp only at h
      rcases conclude_cases call r l d with hraise | hrecord
      · rw [hraise] at h
        cases h
        exact .inl rfl
      · rw [hrecord] at h
        cases h
        exact .inr ⟨r, d, rfl, rfl, rfl⟩
    | done o => cases h; exact .inl rfl

/-- A receipt was returned before, or the call appends what it has decided. -/
theorem authorizeStep_accepted (h : authorizeStep key call pc l = (.done (.accepted a), l'))
    (harg : call.argument = .request r) :
    (pc = .done (.accepted a) ∧ l' = l) ∨
      (pc = .conclude .acceptFresh ∧ a = successReceipt r call.resultCommitment ∧
        l' = l.appended r call.principal .accepted (some a)) ∨
      ∃ prior, pc = .conclude (.acceptDuplicate prior) ∧ a = { prior with duplicate := true } ∧
        l' = l.appended r call.principal .accepted (some prior) := by
  unfold authorizeStep at h
  rw [harg] at h
  dsimp only at h
  cases pc with
  | start =>
    dsimp only at h
    split at h <;> try cases h
    split at h <;> cases h
  | nonceCheck pending => cases h
  | conclude d =>
    dsimp only at h
    rcases conclude_cases call r l d with hraise | hrecord
    · rw [hraise] at h
      cases h
    rw [hrecord] at h
    cases d with
    | deny code => cases h
    | acceptDuplicate prior => cases h; exact .inr (.inr ⟨prior, rfl, rfl, rfl⟩)
    | acceptFresh => cases h; exact .inr (.inl ⟨rfl, rfl, rfl⟩)
  | done o => cases h; exact .inl ⟨rfl, rfl⟩

/-- The nonce check denies or accepts for the first time. -/
theorem decideNonce_cases (pending : Option InternalDenialCode) (hasNonce : Bool) :
    (∃ code, decideNonce pending hasNonce = .deny code) ∨
      decideNonce pending hasNonce = .acceptFresh := by
  unfold decideNonce
  split
  · exact .inl ⟨_, rfl⟩
  · cases pending with
    | some code => exact .inl ⟨code, rfl⟩
    | none => exact .inr rfl

/-- A call that is about to repeat a receipt has just found it recorded for its request. -/
theorem authorizeStep_duplicate
    (h : authorizeStep key call pc l = (.conclude (.acceptDuplicate prior), l'))
    (harg : call.argument = .request r) :
    l' = l ∧ l.priorSuccess r.idempotencyHash = some (r.requestHash, prior) := by
  unfold authorizeStep at h
  rw [harg] at h
  dsimp only at h
  cases pc with
  | start =>
    dsimp only at h
    split at h <;> try cases h
    split at h
    · cases h
    · next d hd =>
      cases h
      rcases decidePrior_ok hd with ⟨-, h⟩ | ⟨receipt, hprior, h⟩ | ⟨_, _, -, -, h⟩
      · cases h
      · cases h
        exact ⟨rfl, hprior⟩
      · cases h
    · cases h
  | nonceCheck pending =>
    have hd := IpcPc.conclude.inj (Prod.mk.inj h).1
    rcases decideNonce_cases pending (l.hasNonce r.nonceHash) with ⟨code, hdeny⟩ | hfresh
    · cases hdeny.symm.trans hd
    · cases hfresh.symm.trans hd
  | conclude d => cases h
  | done o => cases h

end

/-! ## What the accesses keep -/

/-- What a ledger has stays. -/
structure ReplayLedger.Keeps (l l' : ReplayLedger) : Prop where
  entries : ∀ e ∈ l.entries, e ∈ l'.entries
  priorSuccess : ∀ h v, l.priorSuccess h = some v → l'.priorSuccess h = some v

section
variable {ι : Type*} {key : List Nat} {calls : ι → IpcCall} {c c' : IpcThreads ι}
  {i j : ι} {r r' : SealedIpcRequest} {a b prior : SealedIpcSuccessReceipt}

/-- What the ledger says of the calls, as long as no two calls race. -/
structure InStep (calls : ι → IpcCall) (c : IpcThreads ι) : Prop where
  /-- A success recorded for a key has an entry. -/
  recorded : ∀ h v, c.shared.priorSuccess h = some v →
    ∃ e ∈ c.shared.entries, e.disposition = "ACCEPTED" ∧ e.idempotencyKeyCommitment = h
  /-- A receipt about to be repeated is recorded. -/
  repeated : ∀ i r, (calls i).argument = .request r → ∀ prior,
    c.own i = .conclude (.acceptDuplicate prior) →
    c.shared.priorSuccess r.idempotencyHash = some (r.requestHash, prior)
  /-- A receipt that was returned is recorded, or is the duplicate of one. -/
  returned : ∀ i r, (calls i).argument = .request r → ∀ a, Returned c i a →
    ∃ prior, c.shared.priorSuccess r.idempotencyHash = some (r.requestHash, prior) ∧
      (a = prior ∨ a = { prior with duplicate := true })
  /-- A first acceptance has an entry for its nonce and for its key. -/
  claimed : ∀ i r, (calls i).argument = .request r → ∀ a, Returned c i a → a.duplicate = false →
    ∃ e ∈ c.shared.entries, e.disposition = "ACCEPTED" ∧ e.nonceCommitment = r.nonceHash ∧
      e.idempotencyKeyCommitment = r.idempotencyHash
  /-- First acceptances are for different nonces and different keys. -/
  once : ∀ i j, i ≠ j → ∀ r r' a b, (calls i).argument = .request r →
    (calls j).argument = .request r' → Returned c i a → Returned c j b → a.duplicate = false →
    b.duplicate = false → r.nonceHash ≠ r'.nonceHash ∧ r.idempotencyHash ≠ r'.idempotencyHash

/-- Threads that have not begun are in step. -/
theorem inStep_init (calls : ι → IpcCall) : InStep calls IpcThreads.init where
  recorded _ _ h := by cases h
  repeated _ _ _ _ h := by cases h
  returned _ _ _ _ h := by cases h
  claimed _ _ _ _ h := by cases h
  once _ _ _ _ _ _ _ _ _ h := by cases h

/-- A key without an entry has no recorded success. -/
theorem InStep.free (h : InStep calls c) (hr : ¬ Claimed c.shared r) :
    c.shared.priorSuccess r.idempotencyHash = none := by
  cases hp : c.shared.priorSuccess r.idempotencyHash with
  | none => rfl
  | some v =>
    obtain ⟨e, he, hd, hkey⟩ := h.recorded _ v hp
    exact (hr ⟨e, he, hd, .inr hkey⟩).elim

/-- An access that does not race keeps what the ledger has. -/
theorem InStep.keeps (h : InStep calls c) (hrace : NoRace calls c i) {pc' : IpcPc}
    {l' : ReplayLedger} (hstep : authorizeStep key (calls i) (c.own i) c.shared = (pc', l')) :
    c.shared.Keeps l' := by
  rcases authorizeStep_ledger hstep with rfl | ⟨r, d, harg, hpc, rfl⟩
  · exact ⟨fun _ he => he, fun _ _ hv => hv⟩
  · refine ⟨fun e he => ?_, fun hash v hv => ?_⟩
    · cases d <;> exact List.mem_append_left _ he
    · cases d with
      | deny code => exact hv
      | acceptDuplicate prior =>
        rw [Decision.verdict, Decision.success, priorSuccess_appended_accepted]
        split
        · next heq =>
          rw [heq, h.repeated i r harg prior hpc] at hv
          exact hv
        · exact hv
      | acceptFresh =>
        rw [Decision.verdict, Decision.success, priorSuccess_appended_accepted, if_neg]
        · exact hv
        · rintro rfl
          cases hv.symm.trans (h.free (hrace r harg hpc))

/-- A success on record after a step has its entry. -/
theorem InStep.recorded_step (h : InStep calls c) (hrace : NoRace calls c i) {pc' : IpcPc}
    {l' : ReplayLedger} (hstep : authorizeStep key (calls i) (c.own i) c.shared = (pc', l'))
    (hash : String) (v : String × SealedIpcSuccessReceipt) (hv : l'.priorSuccess hash = some v) :
    ∃ e ∈ l'.entries, e.disposition = "ACCEPTED" ∧ e.idempotencyKeyCommitment = hash := by
  have hkeeps := h.keeps hrace hstep
  have hold (hv : c.shared.priorSuccess hash = some v) :
      ∃ e ∈ l'.entries, e.disposition = "ACCEPTED" ∧ e.idempotencyKeyCommitment = hash := by
    obtain ⟨e, he, hd, hkey⟩ := h.recorded hash v hv
    exact ⟨e, hkeeps.entries e he, hd, hkey⟩
  rcases authorizeStep_ledger hstep with rfl | ⟨r, d, harg, hpc, rfl⟩
  · exact hold hv
  · cases d with
    | deny code => exact hold hv
    | acceptDuplicate | acceptFresh =>
      rw [Decision.verdict, Decision.success, priorSuccess_appended_accepted] at hv
      split at hv
      · next heq => exact ⟨_, List.mem_concat_self, rfl, heq.symm⟩
      · exact hold hv

/-- Threads in step are safe from replay. -/
theorem InStep.replaySafe (h : InStep calls c) : ReplaySafe calls c where
  nonce_once i j hij r r' a b harg harg' ha hb hfirst hfirst' heq := by
    have hne := (h.once i j hij r r' a b harg harg' ha hb hfirst hfirst').1
    exact hne (by rw [SealedIpcRequest.nonceHash, heq, SealedIpcRequest.nonceHash])
  key_once i j hij r r' a b harg harg' ha hb hfirst hfirst' heq := by
    have hne := (h.once i j hij r r' a b harg harg' ha hb hfirst hfirst').2
    exact hne (by rw [SealedIpcRequest.idempotencyHash, heq, SealedIpcRequest.idempotencyHash])
  others i j hij r r' a b harg harg' ha hb hfirst heq := by
    have hhash : r'.idempotencyHash = r.idempotencyHash := by
      rw [SealedIpcRequest.idempotencyHash, heq, SealedIpcRequest.idempotencyHash]
    obtain ⟨prior, hprior, hcase⟩ := h.returned i r harg a ha
    obtain ⟨prior', hprior', hcase'⟩ := h.returned j r' harg' b hb
    rw [hhash] at hprior'
    obtain ⟨-, rfl⟩ := Prod.mk.inj (Option.some.inj (hprior.symm.trans hprior'))
    constructor
    · by_contra hdup
      have hfirst' := Bool.eq_false_of_not_eq_true hdup
      exact (h.once i j hij r r' a b harg harg' ha hb hfirst hfirst').2 hhash.symm
    · rcases hcase with rfl | rfl <;> rcases hcase' with rfl | rfl <;> rfl

/-- The call `i` takes its next access, and the other calls stay where they are. -/
structure Moves (key : List Nat) (calls : ι → IpcCall) (i : ι) (c c' : IpcThreads ι) : Prop where
  access : authorizeStep key (calls i) (c.own i) c.shared = (c'.own i, c'.shared)
  others : ∀ j, j ≠ i → c'.own j = c.own j

/-- What another call has returned, it had returned before. -/
theorem Moves.returned (hm : Moves key calls i c c') {j : ι} (hj : j ≠ i)
    (ha : Returned c' j a) : Returned c j a :=
  (hm.others j hj).symm.trans ha

/-- A first acceptance by the call that moves was there before, or a new one finds nothing of its
nonce and its key. -/
theorem Moves.first (hm : Moves key calls i c c') (hrace : NoRace calls c i)
    (harg : (calls i).argument = .request r) (ha : Returned c' i a) (hfirst : a.duplicate = false) :
    Returned c i a ∨ ¬ Claimed c.shared r := by
  have hstep := hm.access
  rw [Returned] at ha
  rw [ha] at hstep
  rcases authorizeStep_accepted hstep harg with ⟨hpc, -⟩ | ⟨hpc, -, -⟩ | ⟨_, -, rfl, -⟩
  · exact .inl hpc
  · exact .inr (hrace r harg hpc)
  · cases hfirst

/-- A receipt about to be repeated after an access is recorded. -/
theorem InStep.repeated_step (h : InStep calls c) (hrace : NoRace calls c i)
    (hm : Moves key calls i c c') (j : ι) (harg : (calls j).argument = .request r)
    (hpc : c'.own j = .conclude (.acceptDuplicate prior)) :
    c'.shared.priorSuccess r.idempotencyHash = some (r.requestHash, prior) := by
  by_cases hj : j = i
  · subst hj
    have hstep := hm.access
    rw [hpc] at hstep
    obtain ⟨hl, hprior⟩ := authorizeStep_duplicate hstep harg
    rw [hl, hprior]
  · have hold := h.repeated j r harg prior ((hm.others j hj).symm.trans hpc)
    exact (h.keeps hrace hm.access).priorSuccess _ _ hold

/-- A receipt that was returned is recorded after an access, or is the duplicate of one. -/
theorem InStep.returned_step (h : InStep calls c) (hrace : NoRace calls c i)
    (hm : Moves key calls i c c') (j : ι) (harg : (calls j).argument = .request r)
    (ha : Returned c' j a) :
    ∃ prior, c'.shared.priorSuccess r.idempotencyHash = some (r.requestHash, prior) ∧
      (a = prior ∨ a = { prior with duplicate := true }) := by
  have hold (ha : Returned c j a) : ∃ prior, c'.shared.priorSuccess r.idempotencyHash =
      some (r.requestHash, prior) ∧ (a = prior ∨ a = { prior with duplicate := true }) := by
    obtain ⟨prior, hprior, heq⟩ := h.returned j r harg a ha
    exact ⟨prior, (h.keeps hrace hm.access).priorSuccess _ _ hprior, heq⟩
  by_cases hj : j = i
  · subst hj
    have hstep := hm.access
    rw [Returned] at ha
    rw [ha] at hstep
    rcases authorizeStep_accepted hstep harg with ⟨hpc, -⟩ | ⟨-, -, hl⟩ | ⟨prior, -, heq, hl⟩
    · exact hold hpc
    · exact ⟨a, by rw [hl, priorSuccess_appended_accepted, if_pos rfl], .inl rfl⟩
    · exact ⟨prior, by rw [hl, priorSuccess_appended_accepted, if_pos rfl], .inr heq⟩
  · exact hold (hm.returned hj ha)

/-- A first acceptance has its entry after an access. -/
theorem InStep.claimed_step (h : InStep calls c) (hrace : NoRace calls c i)
    (hm : Moves key calls i c c') (j : ι) (harg : (calls j).argument = .request r)
    (ha : Returned c' j a) (hfirst : a.duplicate = false) :
    ∃ e ∈ c'.shared.entries, e.disposition = "ACCEPTED" ∧ e.nonceCommitment = r.nonceHash ∧
      e.idempotencyKeyCommitment = r.idempotencyHash := by
  have hold (ha : Returned c j a) : ∃ e ∈ c'.shared.entries, e.disposition = "ACCEPTED" ∧
      e.nonceCommitment = r.nonceHash ∧ e.idempotencyKeyCommitment = r.idempotencyHash := by
    obtain ⟨e, he, hclaims⟩ := h.claimed j r harg a ha hfirst
    exact ⟨e, (h.keeps hrace hm.access).entries e he, hclaims⟩
  by_cases hj : j = i
  · subst hj
    have hstep := hm.access
    rw [Returned] at ha
    rw [ha] at hstep
    rcases authorizeStep_accepted hstep harg with ⟨hpc, -⟩ | ⟨-, -, hl⟩ | ⟨_, -, rfl, -⟩
    · exact hold hpc
    · rw [hl]
      exact ⟨_, List.mem_concat_self, rfl, rfl, rfl⟩
    · cases hfirst
  · exact hold (hm.returned hj ha)

/-- What has no claim on the ledger has neither the nonce nor the key of a first acceptance. -/
theorem InStep.apart (h : InStep calls c) {j : ι} (harg : (calls j).argument = .request r')
    (hb : Returned c j b) (hfirst : b.duplicate = false) (hfree : ¬ Claimed c.shared r) :
    r.nonceHash ≠ r'.nonceHash ∧ r.idempotencyHash ≠ r'.idempotencyHash := by
  obtain ⟨e, he, hd, hnonce, hkey⟩ := h.claimed j r' harg b hb hfirst
  constructor
  · intro heq
    exact hfree ⟨e, he, hd, .inl (hnonce.trans heq.symm)⟩
  · intro heq
    exact hfree ⟨e, he, hd, .inr (hkey.trans heq.symm)⟩

/-- First acceptances are for different nonces and keys after an access: both are old, or one is new
and finds nothing of the other. -/
theorem InStep.once_step (h : InStep calls c) (hrace : NoRace calls c i)
    (hm : Moves key calls i c c') {j k : ι} (hjk : j ≠ k)
    (harg : (calls j).argument = .request r) (harg' : (calls k).argument = .request r')
    (ha : Returned c' j a) (hb : Returned c' k b) (hfirst : a.duplicate = false)
    (hfirst' : b.duplicate = false) :
    r.nonceHash ≠ r'.nonceHash ∧ r.idempotencyHash ≠ r'.idempotencyHash := by
  by_cases hj : j = i
  · subst hj
    have hb := hm.returned hjk.symm hb
    rcases hm.first hrace harg ha hfirst with hold | hfree
    · exact h.once j k hjk r r' a b harg harg' hold hb hfirst hfirst'
    · exact h.apart harg' hb hfirst' hfree
  · have ha := hm.returned hj ha
    by_cases hk : k = i
    · subst hk
      rcases hm.first hrace harg' hb hfirst' with hold | hfree
      · exact h.once j k hjk r r' a b harg harg' ha hold hfirst hfirst'
      · obtain ⟨hnonce, hkey⟩ := h.apart harg ha hfirst hfree
        exact ⟨hnonce.symm, hkey.symm⟩
    · exact h.once j k hjk r r' a b harg harg' ha (hm.returned hk hb) hfirst hfirst'

/-- **An access that does not race keeps the calls in step with the ledger.** -/
theorem InStep.step [DecidableEq ι] (h : InStep calls c) (hrace : NoRace calls c i) :
    InStep calls (Threads.step (fun i => authorizeStep key (calls i)) c i) := by
  have hm : Moves key calls i c (Threads.step (fun i => authorizeStep key (calls i)) c i) := by
    refine ⟨?_, fun j hj => Threads.step_own_ne _ c hj⟩
    rw [Threads.step_own_self, Threads.step_shared]
  exact
    { recorded := h.recorded_step hrace hm.access
      repeated := fun j _ harg _ hpc => h.repeated_step hrace hm j harg hpc
      returned := fun j _ harg _ ha => h.returned_step hrace hm j harg ha
      claimed := fun j _ harg _ ha hfirst => h.claimed_step hrace hm j harg ha hfirst
      once := fun _ _ hjk _ _ _ _ harg harg' ha hb hfirst hfirst' =>
        h.once_step hrace hm hjk harg harg' ha hb hfirst hfirst' }

end

/-- **Replay safety under interleaving**: in every run in which no first acceptance is appended
after another call for its nonce or its key was accepted, what has been returned is safe. -/
theorem interleaved_replaySafe {ι : Type*} [DecidableEq ι] (key : List Nat) (calls : ι → IpcCall)
    (schedule : List ι)
    (hrace : Machine.AllSteps (Threads.step fun i => authorizeStep key (calls i)) (NoRace calls)
      IpcThreads.init schedule) : ReplaySafe calls (interleaved key calls schedule) :=
  (Machine.run_invariant_of (fun _ _ h hrace => h.step hrace) (inStep_init calls) hrace).replaySafe

/-! ## Two calls for one request -/

section
variable {key : List Nat} {call : IpcCall} {r : SealedIpcRequest} {l : ReplayLedger}

/-- A call with no prior success goes on to the nonce. -/
theorem authorizeStep_start (harg : call.argument = .request r)
    (hpre : precheck key call r = .ok (.admitted none))
    (hprior : l.priorSuccess r.idempotencyHash = none) :
    authorizeStep key call .start l = (.nonceCheck none, l) := by
  simp only [authorizeStep, harg, hpre, hprior, decidePrior]

/-- A fresh nonce is accepted. -/
theorem authorizeStep_nonceCheck (key : List Nat) (l : ReplayLedger)
    (harg : call.argument = .request r)
    (hnonce : r.nonceHash ∉ l.nonceHashes) :
    authorizeStep key call (.nonceCheck none) l = (.conclude .acceptFresh, l) := by
  have hno : l.hasNonce r.nonceHash = false := decide_eq_false hnonce
  simp only [authorizeStep, harg, decideNonce, hno, Bool.false_eq_true, if_false]

/-- The conclusion appends its entry and ends the call. -/
theorem authorizeStep_conclude (harg : call.argument = .request r)
    (hwrite : r.capability.writable = true) (d : Decision) :
    authorizeStep key call (.conclude d) l = (.done (d.outcome call r),
      l.appended r call.principal d.verdict (d.success call r)) := by
  simp only [authorizeStep, harg, conclude_of_writable hwrite]

/-- Two calls that both read before either appends are both accepted for the first time. -/
theorem both_returned (harg : call.argument = .request r)
    (hpre : precheck key call r = .ok (.admitted none)) (i : Bool) :
    Returned (interleaved key (fun _ : Bool => call) [false, true, false, true, false, true]) i
      (successReceipt r call.resultCommitment) := by
  have hstart := authorizeStep_start (l := .fresh) harg hpre rfl
  have hnonce := authorizeStep_nonceCheck key .fresh harg (Finset.notMem_empty _)
  have hwrite := (precheck_admitted_none.1 hpre).1.writable
  unfold Returned
  cases i <;>
    simp [interleaved, Threads.step, IpcThreads.init, hstart, hnonce,
      authorizeStep_conclude harg hwrite, Decision.outcome, Function.update]

/-- A call with a prior success is a duplicate. -/
theorem authorizeStep_found {prior : SealedIpcSuccessReceipt} (harg : call.argument = .request r)
    (hpre : precheck key call r = .ok (.admitted none))
    (hprior : l.priorSuccess r.idempotencyHash = some (r.requestHash, prior)) :
    authorizeStep key call .start l = (.conclude (.acceptDuplicate prior), l) := by
  have hwrite := (precheck_admitted_none.1 hpre).1.writable
  simp only [authorizeStep, harg, hpre, hprior, decidePrior_same hwrite]

/-- Two calls one after the other do not race: the second finds what the first appended. -/
theorem noRace_sequential (harg : call.argument = .request r)
    (hpre : precheck key call r = .ok (.admitted none)) :
    Machine.AllSteps (Threads.step fun _ : Bool => authorizeStep key call) (NoRace fun _ => call)
      IpcThreads.init [false, false, false, true, true, true] := by
  have hstart := authorizeStep_start (l := .fresh) harg hpre rfl
  have hnonce := authorizeStep_nonceCheck key .fresh harg (Finset.notMem_empty _)
  have hwrite := (precheck_admitted_none.1 hpre).1.writable
  have hfound := authorizeStep_found (l := ReplayLedger.appended .fresh r call.principal .accepted
    (some (successReceipt r call.resultCommitment))) harg hpre
    ((priorSuccess_appended_accepted ..).trans (if_pos rfl))
  have hfresh : ¬ Claimed .fresh r := by
    rintro ⟨e, he, -⟩
    cases he
  simp [NoRace, Threads.step, IpcThreads.init, hstart, hnonce, hfound, hfresh, harg,
    authorizeStep_conclude harg hwrite, Decision.outcome, Decision.verdict, Decision.success,
    Function.update]

end

/-- Two presentations of one request are both accepted. -/
theorem races_accept_twice :
    ¬ ReplaySafe (fun _ : Bool => sampleCall) (interleaved sampleKey (fun _ : Bool => sampleCall)
      [false, true, false, true, false, true]) := by
  intro h
  have hreturned := both_returned argument_sample precheck_sample
  exact h.nonce_once false true Bool.false_ne_true sampleRequest sampleRequest _ _ argument_sample
    argument_sample (hreturned false) (hreturned true) rfl rfl rfl

/-- One after the other, the second presentation is a duplicate. -/
theorem interleaved_replaySafe_sample :
    ReplaySafe (fun _ : Bool => sampleCall) (interleaved sampleKey (fun _ : Bool => sampleCall)
      [false, false, false, true, true, true]) :=
  interleaved_replaySafe sampleKey (fun _ : Bool => sampleCall)
    [false, false, false, true, true, true] (noRace_sequential argument_sample precheck_sample)

end LawFirmDigitalTwin
