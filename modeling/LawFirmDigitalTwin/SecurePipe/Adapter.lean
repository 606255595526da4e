import LawFirmDigitalTwin.Lib.Cleanup
import LawFirmDigitalTwin.HashIO
import LawFirmDigitalTwin.PyText

/-!
# The secure pipe adapter

`windows_secure_pipe_adapter.py`: the configuration, and one session of the server. The server calls
the operating system and the processor, any of which may return any value or raise; a session leaves
a trace of its calls and of what they did.
-/

namespace LawFirmDigitalTwin

namespace SecurePipe

open Raising

/-! ## The configuration -/

/-- The zeros of the decimal digits of Unicode, ten of each kind. -/
def decimalZeros : List Nat :=
  [0x30, 0x660, 0x6f0, 0x7c0, 0x966, 0x9e6, 0xa66, 0xae6, 0xb66, 0xbe6, 0xc66, 0xce6, 0xd66,
   0xde6, 0xe50, 0xed0, 0xf20, 0x1040, 0x1090, 0x17e0, 0x1810, 0x1946, 0x19d0, 0x1a80, 0x1a90,
   0x1b50, 0x1bb0, 0x1c40, 0x1c50, 0xa620, 0xa8d0, 0xa900, 0xa9d0, 0xa9f0, 0xaa50, 0xabf0,
   0xff10, 0x104a0, 0x10d30, 0x11066, 0x110f0, 0x11136, 0x111d0, 0x112f0, 0x11450, 0x114d0,
   0x11650, 0x116c0, 0x11730, 0x118e0, 0x11950, 0x11c50, 0x11d50, 0x11da0, 0x16a60, 0x16ac0,
   0x16b50, 0x1d7ce, 0x1d7d8, 0x1d7e2, 0x1d7ec, 0x1d7f6, 0x1e140, 0x1e2f0, 0x1e950, 0x1fbf0]

/-- `\\d` of a regular expression. -/
def isDecimal (c : Char) : Bool := decimalZeros.any fun first => first ≤ c.toNat ∧ c.toNat < first + 10

/-- `_SID.fullmatch`. -/
def isSid (sid : String) : Bool :=
  startsWith sid "S-1-" ∧
    let groups := (sid.toList.drop 4).splitOn '-'
    2 ≤ groups.length ∧ groups.length ≤ 15 ∧
      groups.all fun group => group ≠ [] ∧ group.all isDecimal

/-- The prefix of the names of local pipes. -/
def pipePrefix : String := "\\\\.\\pipe\\"

/-- `_PIPE.fullmatch`. -/
def isPipeName (name : String) : Bool :=
  startsWith name pipePrefix ∧
    let rest := name.toList.drop 9
    1 ≤ rest.length ∧ rest.length ≤ 128 ∧ rest.all fun c =>
      ('A' ≤ c ∧ c ≤ 'Z') ∨ ('a' ≤ c ∧ c ≤ 'z') ∨ ('0' ≤ c ∧ c ≤ '9') ∨ c ∈ ['.', '_', '-']

/-- `MAX_FRAME_BYTES` of the sealed IPC. -/
def maxFrameBytes : Int := 65536

/-- `RuntimePrivatePipeConfig`. -/
structure RuntimePrivatePipeConfig where
  pipeName : String
  kernelSid : String
  workerSid : String
  maxFrameBytes : Int := SecurePipe.maxFrameBytes

/-- What a session raises: what a call or the processor raised, or an error of the adapter. -/
inductive PipeError (E : Type)
  | raised (e : E)
  | permissionError (text : String)
  | valueError (text : String)

section
variable {E : Type}

/-- `validate_runtime_private_pipe_config`. -/
def validateRuntimePrivatePipeConfig (config : RuntimePrivatePipeConfig) :
    Except (PipeError E) Unit := do
  if ¬ isPipeName config.pipeName then throw (.valueError "secure_pipe_name_invalid")
  if ¬ isSid config.kernelSid ∨ ¬ isSid config.workerSid then
    throw (.valueError "secure_pipe_sid_invalid")
  if config.kernelSid = config.workerSid then
    throw (.valueError "secure_pipe_identity_separation_required")
  if config.maxFrameBytes ≤ 0 ∨ SecurePipe.maxFrameBytes < config.maxFrameBytes then
    throw (.valueError "secure_pipe_frame_limit_invalid")

/-- `build_pipe_sddl`. -/
def buildPipeSddl (config : RuntimePrivatePipeConfig) : Except (PipeError E) String := do
  validateRuntimePrivatePipeConfig config
  return "O:" ++ config.kernelSid ++ "G:" ++ config.kernelSid ++ "D:P" ++
    "(A;;GA;;;SY)(A;;GA;;;BA)(A;;GA;;;" ++ config.kernelSid ++ ")" ++
    "(A;;0x00120183;;;" ++ config.workerSid ++ ")"

/-- `principal_commitment`. -/
def principalCommitment (rawSid : String) : Except (PipeError E) String :=
  if rawSid = "" ∨ 256 < rawSid.length then .error (.valueError "ipc_principal_sid_invalid")
  else .ok (digest (.dict [("kind", .str "windows_sid"), ("value", .str rawSid)]))

end

/-! ## The calls -/

/-- A value that a call returns, as far as the server tells it apart. -/
inductive PyObject
  | text (s : String)
  | bytes (b : List UInt8)
  | other
  deriving DecidableEq

/-- The arguments of `create_first_instance`. -/
structure PipeRequest (D : Type) where
  pipeName : String
  openMode : Nat
  pipeMode : Nat
  maxInstances : Nat
  bufferBytes : Nat
  timeoutMs : Nat
  securityDescriptor : D

/-- `WindowsPipeApi`: what each call does, given its arguments. A session makes each call once at
most, so that what a call did before does not count. A handle that is `None` is none. -/
structure WindowsPipeApi (D H F E : Type) where
  currentProcessSid : Except E PyObject
  securityDescriptorFromSddl : String → Except E D
  freeSecurityDescriptor : D → Except E Unit
  createFirstInstance : PipeRequest D → Except E (Option H)
  connect : Option H → Except E Unit
  readFrame : Option H → Int → Except E F
  authenticatedClientSid : Option H → Except E PyObject
  writeFrame : Option H → List UInt8 → Except E Unit
  disconnect : H → Except E Unit
  closeHandle : H → Except E Unit

/-- A call of a session, with what it did. -/
inductive Event (D H F E : Type)
  | currentProcessSid (result : Except E PyObject)
  | securityDescriptorFromSddl (sddl : String) (result : Except E D)
  | freeSecurityDescriptor (descriptor : D) (result : Except E Unit)
  | createFirstInstance (request : PipeRequest D) (result : Except E (Option H))
  | connect (handle : Option H) (result : Except E Unit)
  | readFrame (handle : Option H) (maxFrameBytes : Int) (result : Except E F)
  | authenticatedClientSid (handle : Option H) (result : Except E PyObject)
  | processor (frame : F) (principal : String) (result : Except E PyObject)
  | writeFrame (handle : Option H) (frame : List UInt8) (result : Except E Unit)
  | disconnect (handle : H) (result : Except E Unit)
  | closeHandle (handle : H) (result : Except E Unit)

/-- The variables of a session that its `finally` part reads, and the calls so far. -/
structure Session (D H F E : Type) where
  calls : List (Event D H F E)
  handle : Option H
  connected : Bool

/-- How a session ends without an error. -/
inductive Status
  | served
  | identityDenied
  deriving DecidableEq

section
variable {D H F E : Type} (config : RuntimePrivatePipeConfig) (api : WindowsPipeApi D H F E)
  (processor : F → String → Except E PyObject)

/-- A call, which is recorded however it ends. -/
def call {α : Type} (event : Except E α → Event D H F E) (result : Except E α) :
    EStateM (PipeError E) (Session D H F E) α := do
  modify fun s => { s with calls := s.calls ++ [event result] }
  attempt (result.mapError PipeError.raised)

/-- The arguments of `create_first_instance` in a session. -/
def pipeRequest (descriptor : D) : PipeRequest D :=
  ⟨config.pipeName, 0x00080003, 14, 1, 65540, 5000, descriptor⟩

/-- What follows the authentication of the worker. -/
def respond (handle : Option H) (frame : F) : EStateM (PipeError E) (Session D H F E) Status := do
  let principal ← attempt (principalCommitment config.workerSid)
  match ← call (.processor frame principal) (processor frame principal) with
  | .bytes response =>
    if config.maxFrameBytes + 4 < response.length then
      throw (.valueError "secure_pipe_response_frame_invalid")
    call (.writeFrame handle response) (api.writeFrame handle response)
    return .served
  | _ => throw (.valueError "secure_pipe_response_frame_invalid")

/-- The `try` part of a session. -/
def session (descriptor : D) : EStateM (PipeError E) (Session D H F E) Status := do
  let handle ← call (.createFirstInstance (pipeRequest config descriptor))
    (api.createFirstInstance (pipeRequest config descriptor))
  modify fun s => { s with handle }
  call (.connect handle) (api.connect handle)
  modify fun s => { s with connected := true }
  let frame ← call (.readFrame handle config.maxFrameBytes)
    (api.readFrame handle config.maxFrameBytes)
  let clientSid ← call (.authenticatedClientSid handle) (api.authenticatedClientSid handle)
  if clientSid ≠ .text config.workerSid then return .identityDenied
  respond config api processor handle frame

/-- The `finally` part of a session. -/
def cleanup (descriptor : D) : EStateM (PipeError E) (Session D H F E) Unit := do
  let s ← get
  match s.handle with
  | none => pure ()
  | some handle =>
    if s.connected then call (.disconnect handle) (api.disconnect handle)
    call (.closeHandle handle) (api.closeHandle handle)
  call (.freeSecurityDescriptor descriptor) (api.freeSecurityDescriptor descriptor)

/-- `SecureNamedPipeServer.serve_one`. -/
def serveOne : EStateM (PipeError E) (Session D H F E) Status := do
  let sid ← call .currentProcessSid api.currentProcessSid
  if sid ≠ .text config.kernelSid then
    throw (.permissionError "secure_pipe_kernel_identity_denied")
  let sddl ← attempt (buildPipeSddl config)
  let descriptor ← call (.securityDescriptorFromSddl sddl) (api.securityDescriptorFromSddl sddl)
  withCleanup (session config api processor descriptor) (cleanup api descriptor)

/-- The calls of a session. -/
def callsOf : List (Event D H F E) := (final (serveOne config api processor ⟨[], none, false⟩)).calls

end

end SecurePipe

end LawFirmDigitalTwin
