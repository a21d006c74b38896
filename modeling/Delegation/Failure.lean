import Delegation.Json.Decoding

/-!
# Failures and their codes

A failure is a cause. Refusals by the remote side are kept apart from failures to reach it, and
each cause has one of the stable codes that callers see. `isTransport` tells "could not be
reached" from "was refused".
-/

namespace Delegation

/-- The codes carried by every answer. -/
inductive Code where
  | ok
  | invalidParams
  | agentNotFound
  | missingSessionContext
  | spawnFailed
  | spawnForbidden
  | sendFailed
  | sendForbidden
  | statusFailed
  deriving DecidableEq, Repr, Inhabited

namespace Code

def text : Code → String
  | .ok => "OK"
  | .invalidParams => "INVALID_PARAMS"
  | .agentNotFound => "AGENT_NOT_FOUND"
  | .missingSessionContext => "MISSING_SESSION_CONTEXT"
  | .spawnFailed => "SPAWN_FAILED"
  | .spawnForbidden => "SPAWN_FORBIDDEN"
  | .sendFailed => "SEND_FAILED"
  | .sendForbidden => "SEND_FORBIDDEN"
  | .statusFailed => "STATUS_FAILED"

def all : List Code :=
  [.ok, .invalidParams, .agentNotFound, .missingSessionContext, .spawnFailed, .spawnForbidden,
    .sendFailed, .sendForbidden, .statusFailed]

def encode (c : Code) : Json := .str c.text

def decode {ν : Type} [Json.Source ν] (v : ν) : Json.Decoded Code :=
  Json.decodeVariant (all.map fun c => (c.text, c)) v

end Code

/-- Why an operation failed. -/
inductive Failure where
  | invalidParams (detail : String)
  | agentNotFound (agent : String)
  | missingSessionContext
  | spawnForbidden (reason : String)
  | spawnRejected (reason : String)
  | spawnTransport (reason : String)
  | sendForbidden (reason : String)
  | sendRejected (reason : String)
  | sendTransport (reason : String)
  | status (reason : String)
  deriving DecidableEq, Repr

namespace Failure

def code : Failure → Code
  | .invalidParams _ => .invalidParams
  | .agentNotFound _ => .agentNotFound
  | .missingSessionContext => .missingSessionContext
  | .spawnForbidden _ => .spawnForbidden
  | .spawnRejected _ => .spawnFailed
  | .spawnTransport _ => .spawnFailed
  | .sendForbidden _ => .sendForbidden
  | .sendRejected _ => .sendFailed
  | .sendTransport _ => .sendFailed
  | .status _ => .statusFailed

def message : Failure → String
  | .invalidParams detail => "invalid params: " ++ detail
  | .agentNotFound agent => "agent not found: " ++ agent
  | .missingSessionContext => "real backend requires a caller session context"
  | .spawnForbidden reason => "spawn forbidden: " ++ reason
  | .spawnRejected reason => "spawn rejected: " ++ reason
  | .spawnTransport reason => "spawn transport failure: " ++ reason
  | .sendForbidden reason => "send forbidden: " ++ reason
  | .sendRejected reason => "send rejected: " ++ reason
  | .sendTransport reason => "send transport failure: " ++ reason
  | .status reason => "status resolution failed: " ++ reason

/-- Did the failure come from the way to the remote side, not from its decision? -/
def isTransport : Failure → Bool
  | .spawnTransport _ => true
  | .sendTransport _ => true
  | .status _ => true
  | _ => false

theorem code_ne_ok (f : Failure) : f.code ≠ .ok := by
  cases f <;> simp [code]

end Failure

end Delegation
