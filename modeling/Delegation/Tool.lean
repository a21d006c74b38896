import Delegation.Dispatcher
import Delegation.Json.Printer

/-!
# The tools

The two operations as tools that a client calls by name with an object of arguments. A tool
answers with an envelope, as a document and as its text, and it is marked as an error exactly if
the envelope is not ok. Arguments that do not decode are answered in an envelope too; only an
unknown name is no call at all.
-/

namespace Delegation

open Remote (Entries)

inductive Tool where
  | runStatus
  | spawnExpert
  deriving DecidableEq, Repr

/-- What a tool call answers. -/
structure ToolAnswer where
  structured : Json
  isError : Bool

namespace ToolAnswer

def ofEnvelope {α : Type} (data : α → Json) (e : Envelope α) : ToolAnswer :=
  ⟨e.encode data, !e.ok⟩

def text (a : ToolAnswer) : String := a.structured.canonicalText

def encode (a : ToolAnswer) : Json :=
  .obj [("content", .arr [.obj [("type", .str "text"), ("text", .str a.text)]]),
    ("structuredContent", a.structured), ("isError", .bool a.isError)]

end ToolAnswer

namespace Tool

/-- All tools, by name. -/
def all : List Tool := [.runStatus, .spawnExpert]

def name : Tool → String
  | .runStatus => "delegate.run_status"
  | .spawnExpert => "delegate.spawn_expert"

def title : Tool → String
  | .runStatus => "Delegate: Run Status"
  | .spawnExpert => "Delegate: Spawn Expert"

def description : Tool → String
  | .runStatus => "Current status of a spawned run. Unknown runs report status `not_found`."
  | .spawnExpert =>
    "Spawn a named expert agent on a task. Returns a runId immediately, or the "
      ++ "result when waitMs is given and the run finishes in time."

def find? (name : String) : Option Tool := all.find? (·.name = name)

/-! ## What the tools accept -/

/-- A property of a given type, with a description if there is something to say. -/
def property (kind : String) (description : Option String)
    (bounds : List (String × Json)) : Json :=
  .obj <| [("type", .str kind)] ++ bounds ++ Json.entryIf "description" .str description

def objectSchema (properties : List (String × Json)) (required : List String)
    (description : Option String) : Json :=
  .obj <| [("type", .str "object")] ++ Json.entryIf "description" .str description
    ++ [("properties", .obj properties), ("required", .arr (required.map .str))]

def sessionSchema : Json :=
  objectSchema
    [("sessionKey", property "string" none []), ("agentId", property "string" none []),
      ("channel", property "string" none []), ("accountId", property "string" none [])]
    ["sessionKey"] (some "Caller session. Required by the real backend.")

def inputSchema : Tool → Json
  | .runStatus =>
    objectSchema
      [("runId", property "string" (some "Run id returned by delegate.spawn_expert.") [])]
      ["runId"] none
  | .spawnExpert =>
    objectSchema
      [("agent", property "string" (some "Expert to run (e.g. 'technical', 'memory').") []),
        ("task", property "string" (some "Task text handed to the expert.") []),
        ("waitMs", property "integer"
          (some "How long to wait for a first result before returning. 0 returns at once.")
          [("minimum", .ofNat 0), ("maximum", encodeWord maxWaitMs)]),
        ("timeoutMs", property "integer" (some "Run timeout.") [("minimum", .ofNat 1)]),
        ("label", property "string" none []),
        ("useSessionsSend", property "boolean"
          (some "Message an existing session instead of spawning a child session.") []),
        ("targetSessionKey", property "string"
          (some "Session to message with useSessionsSend.") []),
        ("persistMemory", property "boolean"
          (some "Store the memory agent's completed output.") []),
        ("recall", property "boolean" (some "Append recalled memories to the task.") []),
        ("session", sessionSchema)]
      ["agent", "task"] none

/-- The tool as it is announced to clients. -/
def announcement (t : Tool) : Json :=
  .obj [("name", .str t.name), ("title", .str t.title), ("description", .str t.description),
    ("inputSchema", t.inputSchema)]

end Tool

/-! ## Arguments -/

/-- The arguments of a spawn, every one of which may be left out. -/
structure SpawnArgs where
  agent : Option String
  task : Option String
  waitMs : Option UInt64
  timeoutMs : Option UInt64
  label : Option String
  useSessionsSend : Bool
  targetSessionKey : Option String
  persistMemory : Bool
  wantsRecall : Option Bool
  session : Option SessionParts
  deriving DecidableEq, Repr

def SessionParts.decode {ν : Type} [Json.Source ν] : ν → Json.Decoded SessionParts :=
  Json.Layout.decode "SessionArgs" <|
    SessionParts.mk
      <$> .omissible "sessionKey" Json.decodeString
      <*> .omissible "agentId" Json.decodeString
      <*> .omissible "channel" Json.decodeString
      <*> .omissible "accountId" Json.decodeString

namespace SpawnArgs

def decode {ν : Type} [Json.Source ν] : ν → Json.Decoded SpawnArgs :=
  Json.Layout.decode "SpawnArgs" <|
    SpawnArgs.mk
      <$> .omissible "agent" Json.decodeString
      <*> .omissible "task" Json.decodeString
      <*> .omissible "waitMs" (Json.decodeWord "u64")
      <*> .omissible "timeoutMs" (Json.decodeWord "u64")
      <*> .omissible "label" Json.decodeString
      <*> .defaulted "useSessionsSend" Json.decodeBool false
      <*> .omissible "targetSessionKey" Json.decodeString
      <*> .defaulted "persistMemory" Json.decodeBool false
      <*> .omissible "recall" Json.decodeBool
      <*> .omissible "session" SessionParts.decode

/-- The order that arguments give. The caller's own session counts if it has a key, and as a whole;
else the default session does. -/
def order (a : SpawnArgs) (defaultSession : Option Session) : SpawnOrder where
  agent := a.agent.getD ""
  task := a.task.getD ""
  waitMs := a.waitMs.getD 0
  timeoutMs := a.timeoutMs
  label := a.label
  useSessionsSend := a.useSessionsSend
  targetSessionKey := a.targetSessionKey
  persistMemory := a.persistMemory
  wantsRecall := a.wantsRecall
  session := (a.session.bind Session.ofParts?).or defaultSession

end SpawnArgs

/-! ## Calls -/

namespace Tool

def malformedArguments (e : Json.DecodeError) : String :=
  Tool.spawnExpert.name ++ " arguments are malformed: " ++ e.message

def missingRunId : String := Tool.runStatus.name ++ " requires a `runId` string"

/-- Call a tool with an object of arguments. -/
def call (d : Dispatcher) (defaultSession : Option Session) (args : Entries) :
    Tool → Procedure ToolAnswer
  | .spawnExpert => do
    let envelope ←
      match SpawnArgs.decode (Json.obj args) with
      | .ok a => d.spawn (a.order defaultSession)
      | .error e => pure (.failure .invalidParams (malformedArguments e))
    return .ofEnvelope SpawnResult.encode envelope
  | .runStatus => do
    let envelope ←
      match (Json.find "runId" args).bind Json.text? with
      | some runId => d.status runId
      | none => pure (.failure .invalidParams missingRunId)
    return .ofEnvelope StatusReport.encode envelope

/-- Why a name is not called. -/
def notFound (name : String) : String := "Tool not found: " ++ name

/-- Call the tool of a name; none if there is no such tool. -/
def callNamed (d : Dispatcher) (defaultSession : Option Session) (name : String)
    (args : Entries) : Option (Procedure ToolAnswer) :=
  (find? name).map fun t => t.call d defaultSession args

end Tool

end Delegation
