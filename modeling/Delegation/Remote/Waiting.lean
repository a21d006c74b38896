import Delegation.Procedure
import Delegation.Remote.Answer
import Delegation.Remote.Deadline

/-!
# Waiting for a remote run

The remote side is asked to wait for a run, but not longer than a window. Its status words are
mapped onto the five statuses; a run that is not done within the window is still running, unless
the one who waits wants to hear of the timeout.
-/

namespace Delegation.Remote

structure WaitOutcome where
  status : Status
  error : Option String
  startedAt : Option Int64
  endedAt : Option Int64
  durationMs : Option Int64
  deriving DecidableEq, Repr

/-- The status that a word of the remote side means. -/
def waitStatus (timeoutAsRunning : Bool) : Option String → Status
  | some "ok" => .completed
  | some "error" => .failed
  | some "timeout" => if timeoutAsRunning then .running else .timeout
  | _ => .running

namespace WaitOutcome

/-- What the remote side answered. An answer that is no object says nothing. -/
def ofAnswer (timeoutAsRunning : Bool) (raw : Json) : WaitOutcome :=
  let answer := raw.entries?.getD []
  let startedAt := millisField answer "startedAt"
  let endedAt := millisField answer "endedAt"
  { status := waitStatus timeoutAsRunning (statusWord? answer)
    error := errorField answer "error"
    startedAt
    endedAt
    durationMs := elapsed? startedAt endedAt }

end WaitOutcome

/-- The call that waits for a run. -/
def waitCall (runId : RunId) (windowMs : UInt64) : MethodCall where
  method := waitMethod
  params := .obj [("runId", runId.encode), ("timeoutMs", encodeWord windowMs)]
  timeoutMs := withMargin windowMs

def wait (runId : RunId) (windowMs : UInt64) (timeoutAsRunning : Bool) :
    Procedure (Reply WaitOutcome) := do
  let answer ← .call (waitCall runId windowMs)
  return answer.map (.ofAnswer timeoutAsRunning)

end Delegation.Remote
