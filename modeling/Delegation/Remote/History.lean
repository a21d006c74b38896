import Delegation.Procedure
import Delegation.Remote.Answer

/-!
# The latest reply in a session

What a run produced is read from the history of its session: it is the text of the last message
of the assistant that has any. A message carries its text as a string, as a list of fragments, or
in a `text` field beside its content, and the first of these that is not blank counts.
-/

namespace Delegation.Remote

/-- The text of one fragment of a message. -/
def fragmentText? : Json → Option String
  | .str s => some s
  | .obj entries => ((Json.find "text" entries).or (Json.find "value" entries)).bind Json.text?
  | _ => none

def isBlankText (s : String) : Bool := Text.trim s == ""

/-- The fragments of a message that are not blank, joined by line feeds. -/
def fragmentsText? (parts : List Json) : Option String :=
  let texts := (parts.filterMap fragmentText?).filter (!isBlankText ·)
  if texts = [] then none else some (String.intercalate "\n" texts)

/-- The text of a message's content. -/
def contentText? : Option Json → Option String
  | some (.str s) => Text.nonBlank? s
  | some (.arr parts) => fragmentsText? parts
  | _ => none

def messageText? (message : Json) : Option String :=
  (contentText? (message.get? "content")).or
    (((message.get? "text").bind Json.text?).bind Text.nonBlank?)

def isAssistant (message : Json) : Bool := (message.get? "role").bind Json.text? == some "assistant"

/-- The text of a message of the assistant. -/
def replyText? (message : Json) : Option String :=
  if isAssistant message then messageText? message else none

/-- The messages of a history, oldest first. -/
def messages (raw : Json) : List Json :=
  (((raw.get? "messages").bind Json.items?).or raw.items?).getD []

def latestReply? (raw : Json) : Option String := (messages raw).reverse.findSome? replyText?

/-- The call that reads the history of a session. -/
def historyCall (session : SessionKey) (limit : UInt64) (timeoutMs : UInt64) : MethodCall where
  method := historyMethod
  params := .obj [("limit", encodeWord limit), ("sessionKey", session.encode)]
  timeoutMs := timeoutMs

def readLatestReply (session : SessionKey) (limit : UInt64) (timeoutMs : UInt64) :
    Procedure (Reply (Option String)) := do
  let answer ← .call (historyCall session limit timeoutMs)
  return answer.map latestReply?

end Delegation.Remote
