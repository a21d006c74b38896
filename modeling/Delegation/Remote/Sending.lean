import Delegation.Failure
import Delegation.Procedure
import Delegation.Remote.Answer
import Delegation.Remote.Deadline

/-!
# Sending into a session

A message is delivered into a session that exists already. Sending never fails outright: whatever
happens becomes an outcome with a verdict, so that it can be reported with its details. The
verdict is not part of the written form of an outcome.
-/

namespace Delegation.Remote

inductive Verdict where
  | delivered
  | forbidden
  | rejected
  /-- The remote side was not reached. -/
  | unreachable
  deriving DecidableEq, Repr

structure SendOutcome where
  attempted : Bool
  status : String
  runId : Option RunId
  reply : Option String
  error : Option String
  verdict : Option Verdict
  deriving DecidableEq, Repr

structure SendRequest where
  target : SessionKey
  message : String
  timeoutMs : UInt64
  session : Session
  deriving DecidableEq, Repr

namespace SendRequest

def args (r : SendRequest) : Json :=
  .obj [("message", .str r.message), ("sessionKey", r.target.encode),
    ("timeoutSeconds", .ofNat (windowSeconds r.timeoutMs).toNat)]

/-- The invocation, by its name. The remote side may hold the call for the whole window. -/
def invocation (r : SendRequest) (callId : CallId) : Invocation where
  tool := Tool.send.name
  callId := callId
  args := r.args
  session := r.session
  timeoutMs := some (withMargin r.timeoutMs)

end SendRequest

def Verdict.ofStatus (status : String) : Verdict :=
  if status = "ok" ∨ status = "accepted" ∨ status = "timeout" then .delivered
  else if status = "forbidden" then .forbidden
  else .rejected

namespace SendOutcome

/-- The outcome when the remote side was not reached. -/
def unreachable (reason : String) : SendOutcome :=
  ⟨true, "error", none, none, some reason, some .unreachable⟩

/-- What the remote side answered. -/
def ofAnswer (answer : Entries) : SendOutcome :=
  let status := (statusWord? answer).getD "unknown"
  { attempted := true
    status
    runId := (textField answer "runId").map Name.mk
    reply := textField answer "reply"
    error := errorField answer "error"
    verdict := some (.ofStatus status) }

/-- Why the message was not delivered; none if it was. -/
def failure? (o : SendOutcome) : Option Failure :=
  let reason := o.error.getD ("status=" ++ o.status)
  match o.verdict with
  | some .delivered => none
  | some .forbidden => some (.sendForbidden reason)
  | some .rejected => some (.sendRejected reason)
  | some .unreachable => some (.sendTransport reason)
  | none => some (.sendTransport reason)

def encode (o : SendOutcome) : Json :=
  .obj [("attempted", .bool o.attempted), ("status", .str o.status),
    ("runId", .ofOption Name.encode o.runId), ("reply", .ofOption .str o.reply),
    ("error", .ofOption .str o.error)]

/-- An outcome that was read has no verdict. -/
def decode {ν : Type} [Json.Source ν] : ν → Json.Decoded SendOutcome :=
  Json.Layout.decode "SendOutcome" <|
    (fun attempted status runId reply error =>
        SendOutcome.mk attempted status runId reply error none)
      <$> .required "attempted" Json.decodeBool
      <*> .required "status" Json.decodeString
      <*> .nullable "runId" Name.decode
      <*> .nullable "reply" Json.decodeString
      <*> .nullable "error" Json.decodeString

end SendOutcome

/-- Deliver a message. -/
def send (r : SendRequest) : Procedure SendOutcome := do
  let callId ← .mint .send
  match ← .invoke (r.invocation callId) with
  | .ok raw => return .ofAnswer (unwrapped raw)
  | .error reason => return .unreachable reason

end Delegation.Remote
