import Delegation.CommandLine.Help
import Delegation.Server.Basic

/-!
# Plans

Some options have a variable of the environment behind them, which counts where the option is not
given. `plan` says what a command line comes to, without doing it.
-/

namespace Delegation.CommandLine

/-- The order that the words of a spawn and the environment give. -/
def orderOf (value? : String → Option String) (s : Sorted) : SpawnOrder :=
  let option? (name : String) : Option String := s.options.lookup name
  let environment := Server.sessionParts value?
  { agent := s.operands[0]?.getD ""
    task := s.operands[1]?.getD ""
    waitMs := ((option? "wait-ms").bind word64?).getD 0
    timeoutMs := (option? "timeout-ms").bind word64?
    label := option? "label"
    persistMemory := (option? "persist-memory").isSome
    wantsRecall := (option? "recall").bind flag?
    session := Session.ofParts?
      { sessionKey := (option? "session-key").or environment.sessionKey
        agentId := (option? "session-agent-id").or environment.agentId
        channel := (option? "session-channel").or environment.channel
        accountId := (option? "session-account-id").or environment.accountId } }

/-- What a command line comes to. -/
inductive Plan where
  | misuse
  /-- The configuration is at fault. -/
  | fail (error : Config.LoadError)
  | print (text : String)
  | spawn (program : Program) (order : SpawnOrder)
  | serveStdio (server : Server)
  | serveHttp (server : Server) (bind : String)

/-- The backend, the memory agent and the experts that the simulator knows. -/
def expertsText (c : Config) : String :=
  let experts := (Simulator.ofConfig c.mock).catalog.map fun name => "- " ++ name ++ "\n"
  "backend: " ++ c.backend.text ++ "\nmemory agent: " ++ c.memoryAgent ++ "\n"
    ++ String.join experts

/-- A line in an environment. Where the line has no name for the configuration, before the command
or behind it, the environment is asked for one, and there an empty name is refused. -/
def settled (value? : String → Option String) (words : List String) : Except Stop Line :=
  match parse none words with
  | .error stop => .error stop
  | .ok l =>
    if value? "DELEGATE_CONFIG" = some "" && (l.outer.isNone || l.inner.isNone) then .error .misuse
    else .ok l

def planned (value? : String → Option String) (c : Config) :
    Command → Except Config.LoadError Plan
  | .experts => .ok (.print (expertsText c))
  | .spawn arguments =>
    (Program.ofConfig c).map fun p => .spawn p (orderOf value? arguments)
  | .serveStdio => (Server.ofConfig c value?).map .serveStdio
  | .serveHttp bind => (Server.ofConfig c value?).map fun s => .serveHttp s bind

def plan (s : Surroundings) (words : List String) : Plan :=
  match settled s.value? words with
  | .error (.help topic) => .print (helpText s.value? topic)
  | .error .misuse => .misuse
  | .ok l =>
    match Config.loadFrom s (l.config.or (Config.path? s)) with
    | .error e => .fail e
    | .ok c =>
      match planned s.value? c l.command with
      | .ok p => p
      | .error e => .fail e

/-! ## Outcomes -/

/-- How the program ends, and what it has written. -/
structure Outcome where
  exit : Nat
  output : String
  deriving DecidableEq, Repr

/-- A line that cannot be understood is complained about elsewhere. -/
def misuseOutcome : Outcome := ⟨2, ""⟩

/-- An envelope is written in the indented form, and one that is not ok is a failure. -/
def spawnOutcome (e : Envelope SpawnResult) : Outcome :=
  ⟨if e.ok then 0 else 1, (e.encode SpawnResult.encode).pretty ++ "\n"⟩

end Delegation.CommandLine
