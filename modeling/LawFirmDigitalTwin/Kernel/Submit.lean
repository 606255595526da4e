import LawFirmDigitalTwin.Kernel.Transition

/-!
# The submission of a command

`G2WorldKernel.submit` and `_deny` in `g2.py`. The checks before the transition are a function of
the state (`admit`); what a call can do to the state is said once, by `step_cases`.
-/

namespace LawFirmDigitalTwin

open Raising

/-- A command that passed the checks of `submit`. -/
structure Admission where
  verb : Verb
  effectiveAuthority : List String

/-- How the checks of `submit` stop a command: by a denial, or by an exception of their own. -/
inductive Refusal
  | denied (reason : DenialReason) (missing : List String)
  | raised (e : PyError)

/-- The tokens of one kind that a command needs. -/
def required (policy requires : List String) : Finset String :=
  policy.toFinset ∪ requires.toFinset

/-- The checks of `submit`, in order. -/
def Kernel.admit (k : Kernel) (s : KernelState) (c : Command) : Except Refusal Admission :=
  if c.matterId ≠ k.bundle.matter.matterId then .error (.denied .matterBoundary [c.matterId])
  else match k.bundle.matter.actors.get? c.actorId with
  | none => .error (.denied .unknownActor [c.actorId])
  | some profile => match Verb.ofName? c.verb with
    | none => .error (.denied .unsupportedVerb [c.verb])
    | some v =>
      let policy := verbPolicy v
      if profile.roleId ≠ c.roleId then .error (.denied .roleMismatch [c.roleId])
      else if profile.roleId ∉ policy.roles then .error (.denied .verbRoleForbidden policy.roles)
      else if v = .readOracle then .error (.denied .oracleBoundary ["sealed_world"])
      else match s.authority.getItem c.actorId, s.knowledge.getItem c.actorId with
        | .error e, _ | .ok _, .error e => .error (.raised e)
        | .ok authority, .ok knowledge =>
          let requiredAuthority := required policy.authority c.requiresAuthority
          let missingAuthority := requiredAuthority \ authority
          let missingKnowledge := required policy.knowledge c.requiresKnowledge \ knowledge
          if missingAuthority ≠ ∅ then
            .error (.denied .missingAuthority (sorted missingAuthority))
          else if missingKnowledge ≠ ∅ then
            .error (.denied .missingKnowledge (sorted missingKnowledge))
          else .ok ⟨v, sorted requiredAuthority⟩

/-- The entry `_deny` appends. -/
def denial (c : Command) (reason : DenialReason) (missing : List String) : Denial where
  commandId := c.commandId
  verb := c.verb
  actorId := c.actorId
  reason := reason
  missing := missing
  denialHash := digest (.dict
    [("command_id", .str c.commandId), ("verb", .str c.verb), ("actor_id", .str c.actorId),
     ("reason", .str reason.value), ("missing", .strs missing)])

/-- `G2WorldKernel._deny`, and the count of oracle attempts that precedes it for `read_oracle`. -/
def deny {α : Type} (c : Command) (reason : DenialReason) (missing : List String) :
    KernelM α := do
  if reason = .oracleBoundary then
    modifyProjection fun p => { p with oracleAccessAttempts := p.oracleAccessAttempts + 1 }
  modify fun s => { s with denials := s.denials ++ [denial c reason missing] }
  throw (.gateError reason.value missing)

/-- `f"{n:04d}"`. -/
def fourDigits (n : Nat) : String :=
  String.ofList (List.replicate (4 - (Nat.toDigits 10 n).length) '0' ++ Nat.toDigits 10 n)

/-- The event of an accepted command, or what computing its hashes raises. The clock counts the
calls of a run, and is not taken to get too long to be written. -/
def Kernel.event (k : Kernel) (c : Command) (a : Admission) (updates : Updates) (s : KernelState) :
    Except PyError Event := do
  let knowledge ← s.knowledge.getItem c.actorId
  let inputHash ← digestOf (← c.toJson)
  let canonical ← canonicalEntries c.payload.entries
  let payload := updates.foldl (fun d e => d.set e.1 e.2) (PyDict.ofEntries canonical)
  let outputHash ← digestOf (payload.toJson id)
  return {
    eventId := "EV-" ++ fourDigits (s.events.length + 1) ++ "-" ++ firstChars 10
      (digest (.dict [("run", .str k.runId), ("cmd", .str c.commandId)]))
    runId := k.runId
    matterId := c.matterId
    simulatedAt := s.clock
    eventType := c.verb ++ "_accepted"
    commandId := c.commandId
    actorId := c.actorId
    roleId := c.roleId
    knowledgeScope := "actor:" ++ c.actorId ++ ":" ++ firstChars 10
      (digest (.strs (sorted knowledge)))
    authorityBasis :=
      if a.effectiveAuthority = [] then "front_door" else ";".intercalate a.effectiveAuthority
    payload := payload
    inputHash := inputHash
    outputHash := outputHash
    randomStreamKey := firstChars 16 (digest (.dict
      [("run", .str k.runId), ("clock", .int s.clock), ("verb", .str c.verb)]))
    treatmentArm := k.arm.value }

/-- `G2WorldKernel.submit`. -/
def Kernel.submit (k : Kernel) (c : Command) : KernelM Event := do
  match k.admit (← get) c with
  | .error (.denied reason missing) => deny c reason missing
  | .error (.raised e) => throw e
  | .ok a =>
    modify fun s => { s with clock := s.clock + 1 }
    let updates ← transition k c a.verb
    let event ← attempt (k.event c a updates (← get))
    modify fun s => { s with events := s.events ++ [event] }
    return event

/-- The state after a call of `submit`, whether it returned or raised. -/
def Kernel.step (k : Kernel) (s : KernelState) (c : Command) : KernelState := final (k.submit c s)

/-- The state after a sequence of calls on a fresh kernel. -/
def Kernel.run (k : Kernel) (cs : List Command) : KernelState := Machine.run k.step k.initial cs

end LawFirmDigitalTwin
