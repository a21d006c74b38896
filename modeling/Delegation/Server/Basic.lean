import Delegation.Program
import Delegation.Server.Request
import Delegation.Tool

/-!
# The server

Clients reach the tools by requests. A tool call is answered with what the tool says, also when
that is an error of the call; a refusal is only for requests that name nothing the server has. A
message that is no request ends the connection. Calls without a session of their own are made on
behalf of the session that the environment describes.
-/

namespace Delegation

structure Server where
  program : Program
  defaultSession : Option Session

namespace Server

/-- The session that the environment describes, in loose parts. -/
def sessionParts (value? : String → Option String) : SessionParts where
  sessionKey := value? "DELEGATE_SESSION_KEY"
  agentId := value? "DELEGATE_SESSION_AGENT_ID"
  channel := value? "DELEGATE_SESSION_CHANNEL"
  accountId := value? "DELEGATE_SESSION_ACCOUNT_ID"

def ofConfig (c : Config) (value? : String → Option String) : Except Config.LoadError Server :=
  (Program.ofConfig c).map fun p => ⟨p, Session.ofParts? (sessionParts value?)⟩

def protocolVersion : String := "2025-06-18"

/-- What the server offers: tools, and nothing else. -/
def capabilities : Json := .obj [("tools", .obj [])]

def instructions (s : Server) : String :=
  "Delegates tasks to expert agents on the " ++ s.program.dispatcher.config.backend.text
    ++ " backend. Spawn with " ++ Tool.spawnExpert.name ++ ", then poll " ++ Tool.runStatus.name
    ++ " with the returned runId."

/-- How the server names itself, and the version of what it speaks with. -/
def identity : Json := .obj [("name", .str "rmcp"), ("version", .str "0.14.0")]

/-- What the server says first. -/
def greeting (s : Server) : Json :=
  .obj [("protocolVersion", .str protocolVersion), ("capabilities", capabilities),
    ("serverInfo", identity), ("instructions", .str s.instructions)]

/-- Why a request is not served. -/
inductive Refusal where
  | unknownTool (name : String)
  | unknownMethod (method : String)
  | noTasks
  deriving DecidableEq, Repr

def Refusal.code : Refusal → Int
  | .unknownTool _ => -32602
  | .unknownMethod _ => -32601
  | .noTasks => -32603

def Refusal.message : Refusal → String
  | .unknownTool name => "Unknown tool: " ++ name
  | .unknownMethod method => method
  | .noTasks => "Task processing not implemented"

abbrev Answer := Except Refusal Json

def callTool (s : Server) (name : String) (args : Remote.Entries) : Procedure Answer :=
  match Tool.callNamed s.program.dispatcher s.defaultSession name args with
  | none => return .error (.unknownTool name)
  | some p => do
    let answer ← p
    return .ok answer.encode

/-- Answer a request. A method whose parameters do not suit it is as good as unknown. -/
def respond (s : Server) (r : ClientRequest) : Procedure Answer :=
  let unknown : Answer := .error (.unknownMethod r.method)
  match r.method with
  | "initialize" =>
    return if ClientRequest.introducesClient r.params then .ok s.greeting else unknown
  | "ping" => return .ok (.obj [])
  | "tools/list" => return .ok (.obj [("tools", .arr (Tool.all.map Tool.announcement))])
  | "prompts/list" => return .ok (.obj [("prompts", .arr [])])
  | "resources/list" => return .ok (.obj [("resources", .arr [])])
  | "resources/templates/list" => return .ok (.obj [("resourceTemplates", .arr [])])
  | "completion/complete" =>
    return if ClientRequest.asksCompletion r.params then
      .ok (.obj [("completion", .obj [("values", .arr [])])])
    else unknown
  | "tools/call" =>
    match ClientRequest.toolCall? r.params with
    | some c => if c.isTask then return .error .noTasks else s.callTool c.name c.arguments
    | none => return unknown
  | _ => return unknown

/-! ## Connections -/

/-- The answer to a message on a connection, if it is open. None ends the connection. -/
def serve (s : Server) (isOpen : Bool) (message : Json) : Procedure (Option Answer) :=
  match isOpen, ClientRequest.ofJson? message with
  | true, some r => do
    let answer ← s.respond r
    return some answer
  | _, _ => return none

/-- An answered request as a message. -/
def response (id : Json) : Answer → Json
  | .ok result => .obj [("jsonrpc", .str "2.0"), ("id", id), ("result", result)]
  | .error r =>
    .obj [("jsonrpc", .str "2.0"), ("id", id),
      ("error", .obj [("code", .num (.int r.code)), ("message", .str r.message)])]

end Server

end Delegation
