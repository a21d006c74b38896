import Delegation.Failure
import Delegation.Procedure
import Delegation.Remote.Answer
import Delegation.Remote.Deadline

/-!
# Spawning a remote run

The remote side is asked to run a task in a child session of the caller's. The answer is an
acceptance only if it says so and names both the run and the child session; a refusal is told from
an answer that makes no sense, and both from a failure to reach the remote side.
-/

namespace Delegation.Remote

structure SpawnRequest where
  agent : AgentName
  task : String
  label : Option String
  runTimeoutMs : UInt64
  session : Session
  deriving DecidableEq, Repr

/-- A run that the remote side took on. -/
structure Acceptance where
  runId : RunId
  childSessionKey : SessionKey
  warning : Option String
  deriving DecidableEq, Repr

namespace SpawnRequest

def args (r : SpawnRequest) : Json :=
  .obj [("agentId", r.agent.encode), ("cleanup", .str "keep"),
    ("label", .ofOption .str r.label),
    ("runTimeoutSeconds", .ofNat (windowSeconds r.runTimeoutMs).toNat), ("task", .str r.task)]

/-- The invocation, by its name. -/
def invocation (r : SpawnRequest) (callId : CallId) : Invocation where
  tool := Tool.spawn.name
  callId := callId
  args := r.args
  session := r.session
  timeoutMs := none

end SpawnRequest

namespace Acceptance

/-- Why an answer that neither accepts nor forbids is no acceptance. -/
def rejection (status : String) (answer : Entries) : String :=
  match errorField answer "error" with
  | some reason => reason
  | none =>
    if status = "" then "unrecognized spawn response"
    else "status=" ++ status ++ " without runId/childSessionKey"

/-- What the remote side answered. -/
def ofAnswer (answer : Entries) : Except Failure Acceptance :=
  let status := (statusWord? answer).getD ""
  if status = "forbidden" then
    .error (.spawnForbidden ((errorField answer "error").getD "spawn forbidden by remote"))
  else
    match textField answer "runId", textField answer "childSessionKey" with
    | some runId, some key =>
      if status = "accepted" then .ok ⟨⟨runId⟩, ⟨key⟩, textField answer "warning"⟩
      else .error (.spawnRejected (rejection status answer))
    | _, _ => .error (.spawnRejected (rejection status answer))

end Acceptance

/-- Spawn a child session. -/
def spawn (r : SpawnRequest) : Procedure (Except Failure Acceptance) := do
  let callId ← .mint .spawn
  match ← .invoke (r.invocation callId) with
  | .ok raw => return Acceptance.ofAnswer (unwrapped raw)
  | .error reason => return .error (.spawnTransport reason)

end Delegation.Remote
