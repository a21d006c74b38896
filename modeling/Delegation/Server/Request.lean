import Delegation.Json.Decoding

/-!
# Requests of clients

A client sends requests, each a method and its parameters. What a request must look like to be
read at all is little; a method then looks for what it needs among the parameters.
-/

namespace Delegation

open Json (Decoded Layout decodeString decodeOption)

structure ClientRequest where
  method : String
  /-- Null if there are none. -/
  params : Json

/-- Is a part of a request an object, if it is there? -/
def isObjectOrNothing : Option Json → Bool
  | none => true
  | some .null => true
  | some (.obj _) => true
  | some _ => false

namespace ClientRequest

def pingMethod : String := "ping"

/-- Are the parameters an object with nothing but an object, if anything, under `_meta`? -/
def hasReadableParams (params : Option Json) : Bool :=
  isObjectOrNothing params && isObjectOrNothing (params.bind (·.get? "_meta"))

/-- Read a request. A ping may carry anything. -/
def ofJson? (v : Json) : Option ClientRequest :=
  match (v.get? "method").bind Json.text? with
  | none => none
  | some method =>
    let params := v.get? "params"
    if method = pingMethod || hasReadableParams params then
      some ⟨method, params.getD .null⟩
    else none

/-! ## What methods need -/

/-- A call of a tool. -/
structure ToolCall where
  name : String
  arguments : List (String × Json)
  /-- Is it to be carried on in the background? -/
  isTask : Bool

/-- The call that parameters describe. Arguments may be left out. -/
def toolCall? (params : Json) : Option ToolCall :=
  let arguments := params.get? "arguments"
  let task := params.get? "task"
  match (params.get? "name").bind Json.text? with
  | some name =>
    if isObjectOrNothing arguments && isObjectOrNothing task then
      some ⟨name, (arguments.bind Json.entries?).getD [], (task.bind Json.entries?).isSome⟩
    else none
  | none => none

def isReadable {α : Type} (decode : Json → Decoded α) (v : Json) : Bool := (decode v).toBool

/-- What a completion completes: an argument of a prompt, or of a resource. -/
def isReference (v : Json) : Bool :=
  match (v.get? "type").bind Json.text? with
  | some "ref/prompt" =>
    isReadable (Layout.decode "reference"
      (Prod.mk <$> .required "name" decodeString <*> .nullable "title" decodeString)) v
  | some "ref/resource" =>
    isReadable (Layout.decode "reference" (.required "uri" decodeString)) v
  | _ => false

def isArgument (v : Json) : Bool :=
  isReadable (Layout.decode "argument"
    (Prod.mk <$> .required "name" decodeString <*> .required "value" decodeString)) v

/-- The texts that are known of other arguments. -/
def isContext (v : Json) : Bool :=
  match v.get? "arguments" with
  | some (.obj known) => known.all fun (_, value) => value.text?.isSome
  | other => isObjectOrNothing other

/-- Do parameters ask for a completion? -/
def asksCompletion (params : Json) : Bool :=
  (params.get? "ref").any isReference && (params.get? "argument").any isArgument
    && isObjectOrNothing (params.get? "context") && (params.get? "context").all isContext

/-- Do parameters say who the client is, and what it can do? -/
def introducesClient (params : Json) : Bool :=
  (params.get? "protocolVersion").any (·.text?.isSome)
    && (params.get? "capabilities").any (·.entries?.isSome)
    && (params.get? "clientInfo").any
      (isReadable (Layout.decode "client"
        (Prod.mk <$> .required "name" decodeString <*> .required "version" decodeString)))

end ClientRequest

end Delegation
