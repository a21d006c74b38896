import Delegation.CommandLine.Words

/-!
# Commands

The first operand of a command line chooses a command, and the words after it belong to that
command; the option for the configuration belongs to all. `parse` reads a whole line.
-/

namespace Delegation.CommandLine

/-- What a command takes, and what it is for. -/
structure CommandSpec where
  name : String
  about : String
  operands : List String := []
  options : Grammar := []

def configOption : OptionSpec where
  name := "config"
  taking := aPath
  about := "Config file (JSON). Defaults to the XDG / working-directory lookup"
  source := some "DELEGATE_CONFIG"

def defaultBind : String := "127.0.0.1:3943"

def stdioSpec : CommandSpec where
  name := "mcp-stdio"
  about := "Run as an MCP stdio server (for use in mcp.json)"

def httpSpec : CommandSpec where
  name := "mcp-http"
  about := "Run as an MCP HTTP server"
  options :=
    [{ name := "bind", taking := anyText, about := "Bind address, e.g. 0.0.0.0:3943"
       preset := some defaultBind }]

def spawnSpec : CommandSpec where
  name := "spawn"
  about := "Spawn one expert run and print the result envelope"
  operands := ["agent", "task"]
  options :=
    [{ name := "wait-ms", taking := aWord, preset := some "0" },
      { name := "timeout-ms", taking := aWord },
      { name := "label", taking := anyText },
      { name := "persist-memory", taking := .nothing },
      { name := "recall", taking := aFlag, choices := ["true", "false"] },
      { name := "session-key", taking := anyText
        about := "Caller session key, required by the real backend"
        source := some "DELEGATE_SESSION_KEY" },
      { name := "session-agent-id", taking := anyText
        source := some "DELEGATE_SESSION_AGENT_ID" },
      { name := "session-channel", taking := anyText
        source := some "DELEGATE_SESSION_CHANNEL" },
      { name := "session-account-id", taking := anyText
        source := some "DELEGATE_SESSION_ACCOUNT_ID" }]

def expertsSpec : CommandSpec where
  name := "experts"
  about := "Show the active backend and the mock expert catalog"

def commandSpecs : List CommandSpec := [stdioSpec, httpSpec, spawnSpec, expertsSpec]

/-- The command that tells about commands. -/
def helpName : String := "help"

def commandNames : List String := commandSpecs.map (·.name) ++ [helpName]

/-! ## Reading -/

/-- What is asked for, apart from the configuration. -/
inductive Command where
  | serveStdio
  | serveHttp (bind : String)
  | spawn (arguments : Sorted)
  | experts
  deriving DecidableEq, Repr

/-- The words of a command sorted; none of its operands may be missing. -/
def CommandSpec.sort (spec : CommandSpec) (words : List String) : Except Stop Sorted :=
  match CommandLine.sort (configOption :: spec.options) spec.operands.length {} words with
  | .error (.help _) => .error (.help (some spec.name))
  | .error .misuse => .error .misuse
  | .ok s => if s.operands.length < spec.operands.length then .error .misuse else .ok s

/-- The command of a name with sorted words. -/
def Command.ofSorted? (name : String) (s : Sorted) : Option Command :=
  if name = stdioSpec.name then some .serveStdio
  else if name = httpSpec.name then
    some (.serveHttp ((s.options.lookup "bind").getD defaultBind))
  else if name = spawnSpec.name then some (.spawn s)
  else if name = expertsSpec.name then some .experts
  else none

/-- A command with the words after its name, and the configuration among them. -/
def command (name : String) (words : List String) : Except Stop (Command × Option String) :=
  if name = helpName then
    .error (if words.length ≤ 1 && words.all commandNames.contains then .help words.head?
      else .misuse)
  else
    match commandSpecs.find? (·.name = name) with
    | none => .error .misuse
    | some spec =>
      match spec.sort words with
      | .error stop => .error stop
      | .ok s =>
        match Command.ofSorted? name s with
        | some c => .ok (c, s.options.lookup configOption.name)
        | none => .error .misuse

/-- A command line, understood. -/
structure Line where
  command : Command
  /-- The configuration that is named before the command. -/
  outer : Option String
  /-- The configuration that is named behind it. -/
  inner : Option String
  deriving DecidableEq, Repr

/-- The later one counts. -/
def Line.config (l : Line) : Option String := l.inner.or l.outer

/-- Read a line, of which the configuration may have been read. -/
def parse (config : Option String) : List String → Except Stop Line
  | [] => .error .misuse
  | word :: rest =>
    match item [configOption] word rest.head? with
    | .error stop => .error stop
    | .ok (.endOfOptions, _) => .error .misuse
    | .ok (.operand name, _) =>
      (command name rest).map fun (c, inner) => ⟨c, config, inner⟩
    | .ok (.option _ value, takesNext) =>
      if config.isSome then .error .misuse
      else parse (some value) (if takesNext then rest.tail else rest)
termination_by words => words.length
decreasing_by exact length_rest_lt _ word rest

end Delegation.CommandLine
