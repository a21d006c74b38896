import Delegation.Session

/-!
# Calls of the remote side

The remote side offers tools, invoked on behalf of a caller's session, and timed calls of named
methods.
-/

namespace Delegation.Remote

/-- The tools that are invoked; each invocation carries a name of its own. -/
inductive Tool where
  | spawn
  | send
  deriving DecidableEq, Repr

def Tool.name : Tool → String
  | .spawn => "sessions_spawn"
  | .send => "sessions_send"

/-- An invocation of a tool. Without a deadline of its own the gateway's applies. -/
structure Invocation where
  tool : String
  callId : CallId
  args : Json
  session : Session
  timeoutMs : Option UInt64

/-- A timed call of a method. -/
structure MethodCall where
  method : String
  params : Json
  timeoutMs : UInt64

def waitMethod : String := "agent.wait"
def historyMethod : String := "chat.history"

end Delegation.Remote
