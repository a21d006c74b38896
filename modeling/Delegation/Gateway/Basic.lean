import Delegation.Config.Loading
import Delegation.Gateway.Status
import Delegation.Json.Printer
import Delegation.Procedure

/-!
# The gateway

The remote side is reached over HTTP. An invocation of a tool and a call of a method are each
posted as a document to an address below the configured one, and the answer is a document with
`ok`, the result, and the reason of a refusal. What the network makes of a request is an
`Exchange`; `invoke` and `call` work over any monad that provides exchanges. `outcome` says what an
exchange means, and `outcome_eq_ok_iff` exactly when it means success.
-/

namespace Delegation

structure Gateway where
  /-- The address below which the two services are. -/
  base : Url
  token : Option String
  requestTimeoutMs : UInt64
  deriving DecidableEq, Repr

namespace Gateway

def ofConfig (c : GatewayConfig) : Except Config.LoadError Gateway :=
  c.target.map fun u =>
    ⟨u.asDirectory, c.token.filter (Text.trim · ≠ ""), c.requestTimeoutMs⟩

/-- How the sender of a request names itself. -/
def userAgent : String := "delegate-orchestrator/0.1.0"

/-- A document to be posted. -/
structure Request where
  target : Url
  userAgent : String
  authorization : Option String
  body : Json
  timeoutMs : UInt64

/-- What the network makes of a request. -/
inductive Exchange where
  | unreachable
  | timedOut
  | answered (status : Nat) (body : ByteArray)

inductive Fault where
  | unresolved (error : Url.ParseError)
  /-- The token cannot stand in a header. -/
  | unwritableHeader
  /-- Nothing can be posted to such an address. -/
  | unsendable (target : Url)
  | unreachable (target : Url)
  | timedOut (target : Url)
  | refused (target : Url) (status : Nat)
  | undecodable
  | rejected (target : Url) (reason : String)
  deriving DecidableEq, Repr

def Fault.message : Fault → String
  | .unresolved e => e.message
  | .unwritableHeader => "builder error"
  | .unsendable u => "builder error for url (" ++ u.shown.text ++ ")"
  | .unreachable u => "error sending request for url (" ++ u.shown.text ++ ")"
  | .timedOut u => "error sending request for url (" ++ u.shown.text ++ ")"
  | .refused u status => "Gateway " ++ u.text ++ " returned HTTP " ++ statusText status
  | .undecodable => "error decoding response body"
  | .rejected u reason => "Gateway " ++ u.text ++ " rejected call: " ++ reason

/-! ## Requests -/

/-- Can the character stand in a header? -/
def isHeaderChar (c : Char) : Bool := c = '\t' || (0x20 ≤ c.toNat && c.toNat ≠ 0x7F)

/-- Can the character stand in the host that a request goes to? -/
def isHostChar (c : Char) : Bool := !"\"`\x7b\x7d".contains c

/-- The greatest length of an address that a request goes to, in bytes. -/
def longestTarget : Nat := 65534

/-- Is it an address that documents are posted to? -/
def isPostable (u : Url) : Bool :=
  (u.scheme = "http" || u.scheme = "https")
    && u.authority.all (fun a => a.host.text.toList.all isHostChar)
    && u.shown.text.utf8ByteSize ≤ longestTarget

def request (g : Gateway) (service : List String) (body : Json) (timeoutMs : UInt64) :
    Except Fault Request :=
  match g.base.join service with
  | .error e => .error (.unresolved e)
  | .ok target =>
    if !target.hasHost then .error (.unsendable target)
    else if g.token.any fun t => !t.toList.all isHeaderChar then .error .unwritableHeader
    else if !isPostable target then .error (.unsendable target)
    else .ok ⟨target, userAgent, g.token.map ("Bearer " ++ ·), body, timeoutMs⟩

/-- The document that invokes a tool: every part of the session has its place, known or not. -/
def invocationBody (i : Remote.Invocation) : Json :=
  .obj [("tool", .str i.tool), ("toolCallId", i.callId.encode), ("args", i.args),
    ("sessionKey", i.session.key.encode), ("agentId", .ofOption .str i.session.agentId),
    ("channel", .ofOption .str i.session.channel),
    ("accountId", .ofOption .str i.session.accountId)]

def callBody (c : Remote.MethodCall) : Json :=
  .obj [("method", .str c.method), ("params", c.params)]

def invocationRequest (g : Gateway) (i : Remote.Invocation) : Except Fault Request :=
  g.request ["tools", "invoke"] (invocationBody i) (i.timeoutMs.getD g.requestTimeoutMs)

def callRequest (g : Gateway) (c : Remote.MethodCall) : Except Fault Request :=
  g.request ["rpc"] (callBody c) c.timeoutMs

/-! ## Answers -/

/-- The reason of a refusal: a text, the message of an object, or the document itself. -/
def reasonText (v : Json) : String :=
  match v with
  | .str s => s
  | .obj _ => ((v.get? "message").bind Json.text?).getD v.canonicalText
  | _ => v.canonicalText

/-- The document in the body of an answer. -/
def document? (body : ByteArray) : Option Json := (String.fromUTF8? body).bind Json.read?

/-- Does a document say that the call was refused? Only `false` itself does. -/
def isRefusal (v : Json) : Bool :=
  match v.get? "ok" with
  | some (.bool ok) => !ok
  | _ => false

/-- What an answered document says; the result stands under `key`, or is the whole. -/
def result (target : Url) (key : String) (v : Json) : Except Fault Json :=
  if isRefusal v then
    .error (.rejected target (((v.get? "error").map reasonText).getD "unknown gateway error"))
  else .ok ((v.get? key).getD v)

def outcome (target : Url) (key : String) : Exchange → Except Fault Json
  | .unreachable => .error (.unreachable target)
  | .timedOut => .error (.timedOut target)
  | .answered status body =>
    if isSuccess status then
      match document? body with
      | some v => result target key v
      | none => .error .undecodable
    else .error (.refused target status)

theorem outcome_eq_ok_iff {target : Url} {key : String} {e : Exchange} {r : Json} :
    outcome target key e = .ok r ↔
      ∃ status body v, e = .answered status body ∧ isSuccess status = true ∧
        document? body = some v ∧ isRefusal v = false ∧ r = (v.get? key).getD v := by
  constructor
  · intro h
    cases e with
    | unreachable => cases h
    | timedOut => cases h
    | answered status body =>
      simp only [outcome] at h
      split at h
      · rename_i hs
        split at h
        · rename_i v hv
          unfold result at h
          split at h
          · cases h
          · rename_i hok
            cases h
            exact ⟨status, body, v, rfl, hs, hv, by simpa using hok, rfl⟩
        · cases h
      · cases h
  · rintro ⟨status, body, v, rfl, hs, hv, hok, rfl⟩
    simp [outcome, result, hs, hv, hok]

/-! ## Calls -/

variable {m : Type → Type} [Monad m]

/-- Post a document and read the answer. -/
def post (send : Request → m Exchange) (key : String) (r : Except Fault Request) :
    m (Except Fault Json) :=
  match r with
  | .error f => return .error f
  | .ok r => do
    let e ← send r
    return outcome r.target key e

def invoke (g : Gateway) (send : Request → m Exchange) (i : Remote.Invocation) :
    m (Except Fault Json) := post send "result" (g.invocationRequest i)

def call (g : Gateway) (send : Request → m Exchange) (c : Remote.MethodCall) :
    m (Except Fault Json) := post send "payload" (g.callRequest c)

end Gateway

end Delegation
