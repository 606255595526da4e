import LawFirmDigitalTwin.SecurePipe.Adapter
import LawFirmDigitalTwin.Lib.Trace

/-!
# What a session calls

A session authenticates the worker before it lets the processor see the frame, and answers only with
what the processor gave (`Exchange`). Its cleanup runs however the session ends, and goes on only
while its own calls return: the descriptor is freed and the pipe closed, each once, exactly when
`disconnect` and `close_handle` return (`serveOne_orderly_iff`).
-/

namespace LawFirmDigitalTwin

namespace SecurePipe

open Raising Trace

section
variable {D H F E : Type}

/-! ## Reading a trace -/

/-- The security descriptors that were acquired. -/
def descriptorsOf (trace : List (Event D H F E)) : List D :=
  trace.filterMap fun
    | .securityDescriptorFromSddl _ (.ok descriptor) => some descriptor
    | _ => none

/-- The security descriptors that were passed to be freed. -/
def freesOf (trace : List (Event D H F E)) : List D :=
  trace.filterMap fun
    | .freeSecurityDescriptor descriptor _ => some descriptor
    | _ => none

/-- The pipe handles that were acquired. -/
def handlesOf (trace : List (Event D H F E)) : List H :=
  trace.filterMap fun
    | .createFirstInstance _ (.ok handle) => handle
    | _ => none

/-- The pipe handles that were passed to be closed. -/
def closesOf (trace : List (Event D H F E)) : List H :=
  trace.filterMap fun
    | .closeHandle handle _ => some handle
    | _ => none

/-- The frames that were passed to the processor. -/
def processedOf (trace : List (Event D H F E)) : List F :=
  trace.filterMap fun
    | .processor frame _ _ => some frame
    | _ => none

/-- The worker was authenticated. -/
def Authenticates (config : RuntimePrivatePipeConfig) (event : Event D H F E) : Prop :=
  ∃ handle, event = .authenticatedClientSid handle (.ok (.text config.workerSid))

/-- The processor was called. -/
def Processes (event : Event D H F E) : Prop :=
  ∃ frame principal result, event = .processor frame principal result

/-- The processor gave these bytes. -/
def Gives (response : List UInt8) (event : Event D H F E) : Prop :=
  ∃ frame principal, event = .processor frame principal (.ok (.bytes response))

/-- These bytes were written to the pipe. -/
def Writes (response : List UInt8) (event : Event D H F E) : Prop :=
  ∃ handle result, event = .writeFrame handle response result

/-- What the calls of a session keep to. -/
structure Orderly (config : RuntimePrivatePipeConfig) (trace : List (Event D H F E)) : Prop where
  freed : ∀ descriptor ∈ descriptorsOf trace, freesOf trace = [descriptor]
  closed : ∀ handle ∈ handlesOf trace, closesOf trace = [handle]
  once : (processedOf trace).length ≤ 1
  authenticated : Precedes trace (Authenticates config) Processes
  given : ∀ response, Precedes trace (Gives response) (Writes response)
  writesAuthenticated : ∀ response, Precedes trace (Authenticates config) (Writes response)
  bounded : ∀ handle response result, .writeFrame handle response result ∈ trace →
    response.length ≤ config.maxFrameBytes + 4

section
variable (config : RuntimePrivatePipeConfig) (api : WindowsPipeApi D H F E)

/-- The calls of the cleanup return, in a session that gets there. -/
def CleanupReturns : Prop :=
  ∀ sddl descriptor handle, api.currentProcessSid = .ok (.text config.kernelSid) →
    buildPipeSddl (E := E) config = .ok sddl →
    api.securityDescriptorFromSddl sddl = .ok descriptor →
    api.createFirstInstance (pipeRequest config descriptor) = .ok (some handle) →
    (api.connect (some handle) = .ok () → api.disconnect handle = .ok ()) ∧
      api.closeHandle handle = .ok ()

/-! ## The calls of the cleanup -/

/-- The calls that close the pipe and free the descriptor. -/
def closing (descriptor : D) (handle : H) : List (Event D H F E) :=
  .closeHandle handle (api.closeHandle handle) ::
    match api.closeHandle handle with
    | .ok _ => [.freeSecurityDescriptor descriptor (api.freeSecurityDescriptor descriptor)]
    | .error _ => []

/-- The calls of the cleanup. -/
def cleanupCalls (descriptor : D) : Option H → Bool → List (Event D H F E)
  | none, _ => [.freeSecurityDescriptor descriptor (api.freeSecurityDescriptor descriptor)]
  | some handle, false => closing api descriptor handle
  | some handle, true =>
    .disconnect handle (api.disconnect handle) ::
      match api.disconnect handle with
      | .ok _ => closing api descriptor handle
      | .error _ => []

end

/-- A call whose result is known. -/
theorem call_run {α : Type} (event : Except E α → Event D H F E) (result : Except E α)
    (s : Session D H F E) :
    call event result s = match result with
      | .ok a => .ok a { s with calls := s.calls ++ [event result] }
      | .error e => .error (.raised e) { s with calls := s.calls ++ [event result] } := by
  cases result <;> rfl

variable {config : RuntimePrivatePipeConfig} {api : WindowsPipeApi D H F E}

/-- The last two calls close the handle and free the descriptor. -/
theorem final_closing (descriptor : D) (handle : H) (s : Session D H F E) :
    (final ((do
      call (.closeHandle handle) (api.closeHandle handle)
      call (.freeSecurityDescriptor descriptor) (api.freeSecurityDescriptor descriptor) :
        EStateM (PipeError E) (Session D H F E) Unit) s)).calls =
      s.calls ++ closing api descriptor handle := by
  rw [final_bind, call_run, closing]
  cases api.closeHandle handle with
  | ok _ =>
    simp only [call_run]
    cases api.freeSecurityDescriptor descriptor <;> simp
  | error _ => simp

/-- **What the cleanup calls, from the state that the session reached.** -/
theorem final_cleanup (descriptor : D) (s : Session D H F E) :
    (final (cleanup api descriptor s)).calls =
      s.calls ++ cleanupCalls api descriptor s.handle s.connected := by
  unfold cleanup
  rw [final_get_bind]
  cases hhandle : s.handle with
  | none =>
    simp only [cleanupCalls, call_run]
    cases api.freeSecurityDescriptor descriptor <;> simp
  | some handle =>
    cases hconnected : s.connected with
    | false =>
      simp only [Bool.false_eq_true, if_false]
      exact final_closing descriptor handle s
    | true =>
      simp only [if_true, cleanupCalls]
      rw [final_bind, call_run]
      cases api.disconnect handle with
      | ok _ =>
        simp only []
        rw [final_closing]
        simp
      | error _ => simp

/-! ## The calls of a session -/

section
variable (config : RuntimePrivatePipeConfig) (api : WindowsPipeApi D H F E)

/-- The calls of an exchange over a connected pipe. -/
inductive Exchange (handle : Option H) : List (Event D H F E) → Prop
  | unread (e : E) : Exchange handle [.readFrame handle config.maxFrameBytes (.error e)]
  | unprocessed (frame : F) (result : Except E PyObject) :
    Exchange handle [.readFrame handle config.maxFrameBytes (.ok frame),
      .authenticatedClientSid handle result]
  | unanswered (frame : F) (principal : String) (result : Except E PyObject) :
    Exchange handle [.readFrame handle config.maxFrameBytes (.ok frame),
      .authenticatedClientSid handle (.ok (.text config.workerSid)),
      .processor frame principal result]
  | answered (frame : F) (principal : String) (response : List UInt8) (result : Except E Unit) :
    response.length ≤ config.maxFrameBytes + 4 →
    Exchange handle [.readFrame handle config.maxFrameBytes (.ok frame),
      .authenticatedClientSid handle (.ok (.text config.workerSid)),
      .processor frame principal (.ok (.bytes response)), .writeFrame handle response result]

/-- The calls of a session that has a descriptor, with the handle it got and whether it
connected. -/
inductive Opened (descriptor : D) : Option H → Bool → List (Event D H F E) → Prop
  | uncreated (e : E) :
    api.createFirstInstance (pipeRequest config descriptor) = .error e →
    Opened descriptor none false [.createFirstInstance (pipeRequest config descriptor) (.error e)]
  | unconnected (handle : Option H) (e : E) :
    api.createFirstInstance (pipeRequest config descriptor) = .ok handle →
    api.connect handle = .error e →
    Opened descriptor handle false
      [.createFirstInstance (pipeRequest config descriptor) (.ok handle),
        .connect handle (.error e)]
  | connected (handle : Option H) (exchange : List (Event D H F E)) :
    api.createFirstInstance (pipeRequest config descriptor) = .ok handle →
    api.connect handle = .ok () → Exchange config handle exchange →
    Opened descriptor handle true
      (.createFirstInstance (pipeRequest config descriptor) (.ok handle) ::
        .connect handle (.ok ()) :: exchange)

end

variable {processor : F → String → Except E PyObject}

/-- **The processor's answer is written only when it is a frame of the allowed length.** -/
theorem final_respond (handle : Option H) (frame : F) (s : Session D H F E) :
    ∃ calls, final (respond config api processor handle frame s) =
        { s with calls := s.calls ++ calls } ∧
      Exchange config handle (.readFrame handle config.maxFrameBytes (.ok frame) ::
        .authenticatedClientSid handle (.ok (.text config.workerSid)) :: calls) := by
  unfold respond
  rw [final_bind]
  cases principalCommitment (E := E) config.workerSid with
  | error e => exact ⟨[], by simp, .unprocessed frame _⟩
  | ok principal =>
    simp only [attempt_ok]
    rw [final_bind, call_run]
    cases hresult : processor frame principal with
    | error e => exact ⟨[_], rfl, .unanswered frame principal (.error e)⟩
    | ok value =>
      cases value with
      | text t => exact ⟨[_], rfl, .unanswered frame principal (.ok (.text t))⟩
      | other => exact ⟨[_], rfl, .unanswered frame principal (.ok .other)⟩
      | bytes response =>
        by_cases hlength : config.maxFrameBytes + 4 < response.length
        · refine ⟨[_], ?_, .unanswered frame principal (.ok (.bytes response))⟩
          simp only [if_pos hlength]
          rfl
        · refine ⟨[_, _], ?_, .answered frame principal response (api.writeFrame handle response)
            (Int.not_lt.1 hlength)⟩
          simp only [if_neg hlength]
          rw [final_bind, call_run]
          cases api.writeFrame handle response <;> simp

/-- **What a session calls before its cleanup.** -/
theorem final_session (descriptor : D) (s : Session D H F E) (hhandle : s.handle = none)
    (hconnected : s.connected = false) :
    ∃ handle connected calls,
      final (session config api processor descriptor s) = ⟨s.calls ++ calls, handle, connected⟩ ∧
      Opened config api descriptor handle connected calls := by
  unfold session
  rw [final_bind, call_run]
  cases hcreate : api.createFirstInstance (pipeRequest config descriptor) with
  | error e => exact ⟨none, false, [_], by simp [hhandle, hconnected], .uncreated e hcreate⟩
  | ok handle =>
    simp only []
    rw [final_modify_bind, final_bind, call_run]
    cases hconnect : api.connect handle with
    | error e =>
      exact ⟨handle, false, [_, _], by simp [hconnected], .unconnected handle e hcreate hconnect⟩
    | ok _ =>
      have hopened : ∀ exchange, Exchange config handle exchange →
          Opened config api descriptor handle true _ :=
        fun exchange => .connected handle exchange hcreate hconnect
      simp only []
      rw [final_modify_bind, final_bind, call_run]
      cases api.readFrame handle config.maxFrameBytes with
      | error e => exact ⟨handle, true, _, by simp, hopened _ (.unread e)⟩
      | ok frame =>
        simp only []
        rw [final_bind, call_run]
        cases hclient : api.authenticatedClientSid handle with
        | error e => exact ⟨handle, true, _, by simp, hopened _ (.unprocessed frame (.error e))⟩
        | ok clientSid =>
          by_cases hworker : clientSid = .text config.workerSid
          · subst hworker
            simp only [ne_eq, not_true_eq_false, if_false]
            obtain ⟨calls, hfinal, hexchange⟩ := @final_respond D H F E config api processor handle
              frame _
            exact ⟨handle, true, _, by rw [hfinal]; simp, hopened _ hexchange⟩
          · simp only [ne_eq, hworker, not_false_eq_true, if_true]
            exact ⟨handle, true, _, by simp, hopened _ (.unprocessed frame (.ok clientSid))⟩

/-! ## The order of the calls -/

section
variable {trace : List (Event D H F E)} {descriptor : D} {handle : Option H} {connected : Bool}

/-- The cleanup frees the descriptor when the calls before return. -/
theorem freesOf_cleanupCalls :
    freesOf (cleanupCalls api descriptor handle connected) = [descriptor] ↔
      ∀ h ∈ handle, (connected = true → api.disconnect h = .ok ()) ∧ api.closeHandle h = .ok () := by
  cases handle with
  | none => simp [cleanupCalls, freesOf]
  | some h =>
    simp only [Option.mem_def, Option.some.injEq, forall_eq']
    cases connected <;> cases hclose : api.closeHandle h <;> cases hdisconnect : api.disconnect h <;>
      simp [cleanupCalls, closing, freesOf, hclose, hdisconnect]

/-- The cleanup closes the pipe when it was disconnected. -/
theorem closesOf_cleanupCalls {h : H} :
    closesOf (cleanupCalls api descriptor (some h) connected) = [h] ↔
      (connected = true → api.disconnect h = .ok ()) := by
  cases connected <;> cases hclose : api.closeHandle h <;> cases hdisconnect : api.disconnect h <;>
    simp [cleanupCalls, closing, closesOf, hclose, hdisconnect]

/-- A call of the cleanup. -/
def IsCleanup : Event D H F E → Prop
  | .disconnect .. | .closeHandle .. | .freeSecurityDescriptor .. => True
  | _ => False

/-- The calls of the cleanup are cleanup. -/
theorem isCleanup_of_mem_cleanupCalls :
    ∀ event ∈ cleanupCalls api descriptor handle connected, IsCleanup event := by
  cases handle with
  | none => simp [cleanupCalls, IsCleanup]
  | some h =>
    cases connected <;> cases hclose : api.closeHandle h <;> cases hdisconnect : api.disconnect h <;>
      simp [cleanupCalls, closing, hclose, hdisconnect, IsCleanup]

variable {calls : List (Event D H F E)}

/-- What was acquired and processed before the cleanup. -/
theorem Opened.counts (h : Opened config api descriptor handle connected calls) :
    descriptorsOf calls = [] ∧ freesOf calls = [] ∧ handlesOf calls = handle.toList ∧
      closesOf calls = [] ∧ (processedOf calls).length ≤ 1 := by
  cases h with
  | uncreated e => simp [descriptorsOf, freesOf, handlesOf, closesOf, processedOf]
  | unconnected handle =>
    simp [descriptorsOf, freesOf, handlesOf, closesOf, processedOf, List.filterMap_cons]
    cases handle <;> rfl
  | connected _ _ _ _ hexchange =>
    cases hexchange <;>
      simp [descriptorsOf, freesOf, handlesOf, closesOf, processedOf, List.filterMap_cons] <;>
      cases handle <;> rfl

/-- The cleanup acquires and processes nothing. -/
theorem counts_of_isCleanup (h : ∀ event ∈ calls, IsCleanup event) :
    descriptorsOf calls = [] ∧ handlesOf calls = [] ∧ processedOf calls = [] := by
  simp only [descriptorsOf, handlesOf, processedOf, List.filterMap_eq_nil_iff]
  refine ⟨?_, ?_, ?_⟩ <;> intro event hevent <;> have := h event hevent <;>
    cases event <;> simp_all [IsCleanup]

/-- The worker is authenticated before the frame is processed. -/
theorem Opened.authenticated (h : Opened config api descriptor handle connected calls) :
    Precedes calls (Authenticates config) Processes := by
  cases h with
  | uncreated | unconnected => exact precedes_of_forall_not (by simp [Processes])
  | connected _ _ _ _ hexchange =>
    cases hexchange <;> simp [precedes_cons, precedes_nil, Processes, Authenticates]

/-- What is written is what the processor gave. -/
theorem Opened.given (h : Opened config api descriptor handle connected calls)
    (response : List UInt8) : Precedes calls (Gives response) (Writes response) := by
  cases h with
  | uncreated | unconnected => exact precedes_of_forall_not (by simp [Writes])
  | connected _ _ _ _ hexchange =>
    cases hexchange with
    | answered _ _ given =>
      by_cases hgiven : response = given <;>
        simp [precedes_cons, precedes_nil, Gives, Writes, hgiven, eq_comm]
    | _ => simp [precedes_cons, precedes_nil, Gives, Writes]

/-- No response is written over the limit. -/
theorem Opened.bounded (h : Opened config api descriptor handle connected calls) {pipe : Option H}
    {response : List UInt8} {result : Except E Unit}
    (hwrite : .writeFrame pipe response result ∈ calls) :
    response.length ≤ config.maxFrameBytes + 4 := by
  cases h with
  | uncreated | unconnected => simp at hwrite
  | connected _ _ _ _ hexchange =>
    cases hexchange with
    | answered frame principal given written hlength =>
      obtain ⟨-, rfl, -⟩ : pipe = handle ∧ response = given ∧ result = written := by
        simpa using hwrite
      exact hlength
    | _ => simp at hwrite

variable (config api) in
/-- The calls of a session that has a descriptor. -/
def descriptorCalls (sddl : String) (descriptor : D) (handle : Option H) (connected : Bool)
    (calls : List (Event D H F E)) : List (Event D H F E) :=
  [.currentProcessSid (.ok (.text config.kernelSid)),
    .securityDescriptorFromSddl sddl (.ok descriptor)] ++ calls ++
      cleanupCalls api descriptor handle connected

/-- What a session acquires, frees, closes and processes. -/
theorem Opened.counts_descriptorCalls (h : Opened config api descriptor handle connected calls)
    (sddl : String) :
    descriptorsOf (descriptorCalls config api sddl descriptor handle connected calls) =
        [descriptor] ∧
      freesOf (descriptorCalls config api sddl descriptor handle connected calls) =
        freesOf (cleanupCalls api descriptor handle connected) ∧
      handlesOf (descriptorCalls config api sddl descriptor handle connected calls) =
        handle.toList ∧
      closesOf (descriptorCalls config api sddl descriptor handle connected calls) =
        closesOf (cleanupCalls api descriptor handle connected) ∧
      (processedOf (descriptorCalls config api sddl descriptor handle connected calls)).length
        ≤ 1 := by
  obtain ⟨hdescriptors, hfrees, hhandles, hcloses, hprocessed⟩ := h.counts
  obtain ⟨hdescriptors', hhandles', hprocessed'⟩ := counts_of_isCleanup
    (@isCleanup_of_mem_cleanupCalls D H F E api descriptor handle connected)
  unfold descriptorsOf freesOf handlesOf closesOf processedOf at *
  simp only [descriptorCalls, List.filterMap_append]
  rw [hdescriptors, hdescriptors', hfrees, hhandles, hhandles', hcloses, hprocessed']
  simp [hprocessed]

/-- What a session's exchange is ordered by, the session is ordered by. -/
theorem precedes_descriptorCalls {A B : Event D H F E → Prop} (h : Precedes calls A B)
    (hB : ∀ event, B event → Processes event ∨ ∃ response, Writes response event)
    (sddl : String) :
    Precedes (descriptorCalls config api sddl descriptor handle connected calls) A B := by
  refine Precedes.append ?_ ?_
  · refine precedes_cons.2 ⟨fun hb => ?_, .inr (precedes_cons.2 ⟨fun hb => ?_, .inr h⟩)⟩ <;>
      simpa [Processes, Writes] using hB _ hb
  · intro event hevent hb
    rcases hB event hb with ⟨_, _, _, rfl⟩ | ⟨_, _, _, rfl⟩ <;>
      exact isCleanup_of_mem_cleanupCalls _ hevent

/-- **The order of a session's calls, and when its cleanup is complete.** -/
theorem Opened.orderly_iff (h : Opened config api descriptor handle connected calls)
    (sddl : String) :
    Orderly config (descriptorCalls config api sddl descriptor handle connected calls) ↔
      ∀ h ∈ handle, (connected = true → api.disconnect h = .ok ()) ∧ api.closeHandle h = .ok () := by
  obtain ⟨hdescriptors, hfrees, hhandles, hcloses, hprocessed⟩ := h.counts_descriptorCalls sddl
  constructor
  · intro horderly
    have hfreed := horderly.freed descriptor (by rw [hdescriptors]; exact .head _)
    rw [hfrees] at hfreed
    exact freesOf_cleanupCalls.1 hfreed
  · intro hreturns
    have hauthenticated : Precedes (descriptorCalls config api sddl descriptor handle connected
        calls) (Authenticates config) Processes :=
      precedes_descriptorCalls h.authenticated (fun _ => .inl) sddl
    have hgiven : ∀ response, Precedes (descriptorCalls config api sddl descriptor handle connected
        calls) (Gives response) (Writes response) := fun response =>
      precedes_descriptorCalls (h.given response) (fun _ hwrite => .inr ⟨response, hwrite⟩) sddl
    refine ⟨?_, ?_, hprocessed, hauthenticated, hgiven, fun response => ?_, ?_⟩
    · intro d hd
      rw [hdescriptors, List.mem_singleton] at hd
      rw [hfrees, hd]
      exact freesOf_cleanupCalls.2 hreturns
    · intro opened hopened
      rw [hhandles, Option.mem_toList] at hopened
      obtain rfl := hopened
      rw [hcloses]
      exact closesOf_cleanupCalls.2 (hreturns opened rfl).1
    · refine Precedes.trans (hauthenticated.imp ?_) (hgiven response)
      rintro event ⟨frame, principal, rfl⟩
      exact ⟨frame, principal, _, rfl⟩
    · intro pipe response written hwrite
      simp only [descriptorCalls, List.mem_append] at hwrite
      rcases hwrite with (hwrite | hwrite) | hwrite
      · simp at hwrite
      · exact h.bounded hwrite
      · exact absurd (isCleanup_of_mem_cleanupCalls _ hwrite) id

/-- The calls of the cleanup, in terms of what the calls of the session did. -/
theorem Opened.returns_iff (h : Opened config api descriptor handle connected calls)
    {sddl : String} (hsid : api.currentProcessSid = .ok (.text config.kernelSid))
    (hsddl : buildPipeSddl (E := E) config = .ok sddl)
    (hdescriptor : api.securityDescriptorFromSddl sddl = .ok descriptor) :
    (∀ h ∈ handle, (connected = true → api.disconnect h = .ok ()) ∧ api.closeHandle h = .ok ()) ↔
      CleanupReturns config api := by
  have hreturns : CleanupReturns config api ↔
      ∀ h, api.createFirstInstance (pipeRequest config descriptor) = .ok (some h) →
        (api.connect (some h) = .ok () → api.disconnect h = .ok ()) ∧
          api.closeHandle h = .ok () := by
    constructor
    · exact fun hreturns h => hreturns sddl descriptor h hsid hsddl hdescriptor
    · intro hreturns sddl' descriptor' h _ hsddl' hdescriptor'
      cases hsddl.symm.trans hsddl'
      cases hdescriptor.symm.trans hdescriptor'
      exact hreturns h
  rw [hreturns]
  cases h with
  | uncreated e hcreate => simp [hcreate]
  | unconnected handle e hcreate hconnect =>
    cases handle with
    | none => simp [hcreate]
    | some h => simp [hcreate, hconnect]
  | connected handle exchange hcreate hconnect =>
    cases handle with
    | none => simp [hcreate]
    | some h => simp [hcreate, hconnect]

/-- A session that has no descriptor keeps to the order. -/
theorem orderly_of_no_descriptor (hall : ∀ event ∈ calls,
      (∃ result, event = .currentProcessSid result) ∨
        ∃ sddl e, event = .securityDescriptorFromSddl sddl (.error e)) :
    Orderly config calls := by
  have hnone : descriptorsOf calls = [] ∧ handlesOf calls = [] ∧ processedOf calls = [] := by
    simp only [descriptorsOf, handlesOf, processedOf, List.filterMap_eq_nil_iff]
    refine ⟨?_, ?_, ?_⟩ <;> intro event hevent <;>
      obtain ⟨_, rfl⟩ | ⟨_, _, rfl⟩ := hall event hevent <;> rfl
  obtain ⟨hdescriptors, hhandles, hprocessed⟩ := hnone
  have hwrites : ∀ response, ∀ event ∈ calls, ¬ Writes response event := by
    rintro response event hevent ⟨_, _, rfl⟩
    simpa using hall _ hevent
  refine ⟨by simp [hdescriptors], by simp [hhandles], by simp [hprocessed], ?_,
    fun response => precedes_of_forall_not (hwrites response),
    fun response => precedes_of_forall_not (hwrites response), ?_⟩
  · refine precedes_of_forall_not ?_
    rintro event hevent ⟨_, _, _, rfl⟩
    simpa using hall _ hevent
  · intro pipe response result hwrite
    exact absurd ⟨pipe, result, rfl⟩ (hwrites response _ hwrite)

end

variable (config api processor)

/-- **Cleanup and authentication order of `serve_one`.** Whatever the calls and the processor return
or raise, the calls of a session keep to their order, and the descriptor and the pipe are disposed
of once, exactly when the calls of the cleanup return. -/
theorem serveOne_orderly_iff :
    Orderly config (callsOf config api processor) ↔ CleanupReturns config api := by
  unfold callsOf serveOne
  rw [final_bind, call_run]
  cases hsid : api.currentProcessSid with
  | error e =>
    refine iff_of_true (orderly_of_no_descriptor (by simp)) fun _ _ _ h => ?_
    rw [hsid] at h; cases h
  | ok sid =>
    by_cases hkernel : sid = .text config.kernelSid
    swap
    · simp only [ne_eq, hkernel, not_false_eq_true, if_true]
      rw [final_bind, throw_run]
      refine iff_of_true (orderly_of_no_descriptor (by simp)) fun _ _ _ h => ?_
      rw [hsid] at h; exact absurd (Except.ok.inj h) hkernel
    subst hkernel
    simp only [ne_eq, not_true_eq_false, if_false]
    rw [final_bind]
    cases hsddl : buildPipeSddl (E := E) config with
    | error e =>
      refine iff_of_true (orderly_of_no_descriptor (by simp)) fun _ _ _ _ h => ?_
      rw [hsddl] at h; cases h
    | ok sddl =>
      simp only [attempt_ok]
      rw [final_bind, call_run]
      cases hdescriptor : api.securityDescriptorFromSddl sddl with
      | error e =>
        refine iff_of_true (orderly_of_no_descriptor (by simp)) fun _ _ _ _ h h' => ?_
        rw [hsddl] at h; cases h
        rw [hdescriptor] at h'; cases h'
      | ok descriptor =>
        simp only []
        rw [final_withCleanup, final_cleanup]
        obtain ⟨handle, connected, calls, hfinal, hopened⟩ := @final_session D H F E config api
          processor descriptor ⟨_, none, false⟩ rfl rfl
        rw [hfinal]
        exact (hopened.orderly_iff sddl).trans (hopened.returns_iff hsid hsddl hdescriptor)

end

/-! A session whose `disconnect` raises. -/

/-- A pipe between two accounts of a host. -/
def hostPipe : RuntimePrivatePipeConfig where
  pipeName := "\\\\.\\pipe\\lfdt-kernel-g0"
  kernelSid := "S-1-5-21-100-200-300-1101"
  workerSid := "S-1-5-21-100-200-300-1102"

/-- Every call returns, and the client is not the worker; but `disconnect` raises. -/
def flushingPipe : WindowsPipeApi String String String String where
  currentProcessSid := .ok (.text "S-1-5-21-100-200-300-1101")
  securityDescriptorFromSddl _ := .ok "descriptor"
  freeSecurityDescriptor _ := .ok ()
  createFirstInstance _ := .ok (some "handle")
  connect _ := .ok ()
  readFrame _ _ := .ok "frame"
  authenticatedClientSid _ := .ok (.text "S-1-5-21-100-200-300-9999")
  writeFrame _ _ := .ok ()
  disconnect _ := .error "OSError"
  closeHandle _ := .ok ()

/-- Neither the pipe is closed nor the descriptor freed. -/
theorem disconnect_leaks :
    descriptorsOf (callsOf hostPipe flushingPipe fun _ _ => .ok (.bytes [])) = ["descriptor"] ∧
      freesOf (callsOf hostPipe flushingPipe fun _ _ => .ok (.bytes [])) = [] ∧
      handlesOf (callsOf hostPipe flushingPipe fun _ _ => .ok (.bytes [])) = ["handle"] ∧
      closesOf (callsOf hostPipe flushingPipe fun _ _ => .ok (.bytes [])) = [] ∧
      ¬ Orderly hostPipe (callsOf hostPipe flushingPipe fun _ _ => .ok (.bytes [])) := by
  have hdescriptors : descriptorsOf (callsOf hostPipe flushingPipe fun _ _ => .ok (.bytes [])) =
      ["descriptor"] := by decide
  have hfrees : freesOf (callsOf hostPipe flushingPipe fun _ _ => .ok (.bytes [])) = [] := by decide
  refine ⟨hdescriptors, hfrees, by decide, by decide, fun horderly => ?_⟩
  have hfreed := horderly.freed "descriptor" (by rw [hdescriptors]; exact .head _)
  rw [hfrees] at hfreed
  cases hfreed

end SecurePipe

end LawFirmDigitalTwin
