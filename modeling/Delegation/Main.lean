import Delegation.CommandLine.Plan

/-!
# The executable

Gathers what a command line may need from the environment and the files, makes the plan, and
carries it out. There is no network here: a request to the gateway finds it unreachable, and
nothing can be listened on.
-/

namespace Delegation.Main

/-- What stands at a path. -/
def entryAt (path : String) : IO Entry := do
  if path = "" then return .absent .notFound
  let place := (← IO.currentDir) / path
  if ← place.isDir then return .directory
  try
    return .file (← IO.FS.readBinFile place)
  catch
    | .inappropriateType .. => return .absent .notADirectory
    | .invalidArgument .. => return .absent .invalidPath
    | _ => return .absent .notFound

/-- The variables that are asked for by fixed names. -/
def fixedNames : List String :=
  ["DELEGATE_CONFIG", "XDG_CONFIG_HOME", "DELEGATE_BACKEND", "DELEGATE_GATEWAY_URL",
    "DELEGATE_GATEWAY_TOKEN", "DELEGATE_SESSION_KEY", "DELEGATE_SESSION_AGENT_ID",
    "DELEGATE_SESSION_CHANNEL", "DELEGATE_SESSION_ACCOUNT_ID"]

def valuesOf (names : List String) : IO (List (String × String)) :=
  names.filterMapM fun name => do
    return (← IO.getEnv name).map ((name, ·))

/-- The names that a file of a configuration refers to. -/
def namesIn (e : Entry) : List String :=
  match e.text with
  | .ok text =>
    match Config.ofText text with
    | .ok c => c.references
    | .error _ => []
  | .error _ => []

def surroundings (words : List String) : IO Surroundings := do
  let fixed ← valuesOf fixedNames
  let named :=
    match CommandLine.settled (fixed.lookup ·) words with
    | .ok l => l.config.toList
    | .error _ => []
  let paths := named ++ (fixed.lookup "DELEGATE_CONFIG").toList
    ++ ((fixed.lookup "XDG_CONFIG_HOME").map Config.userFile).toList ++ [Config.fileName]
  let entries ← paths.mapM fun path => return (path, ← entryAt path)
  let referred ← valuesOf (entries.flatMap fun (_, e) => namesIn e)
  return ⟨((fixed ++ referred).lookup ·),
    fun path => (entries.lookup path).getD (.absent .notFound)⟩

/-- A request that goes nowhere. -/
def send (_ : Gateway.Request) : IO Gateway.Exchange := return .unreachable

/-- The collaborators inside, with fresh names of their own. -/
def host (p : Program) : IO Host := do
  let bytes ← IO.getRandomBytes 15
  return { p.host with supply := bytes.foldl (fun n b => 256 * n + b.toNat) 0 }

/-- Run a procedure on the clock of the machine, which was at `start` in the beginning. -/
def timed {α : Type} (p : Program) (start : Nat) (h : Host) (q : Procedure α) :
    IO (α × Host) := do
  let now := (← IO.monoMsNow) - start
  let (a, h) ← (p.run send q).run { h with clock := max h.clock now }
  let now := (← IO.monoMsNow) - start
  if now < h.clock then IO.sleep (UInt32.ofNat (h.clock - now))
  return (a, h)

def printLine (v : Json) : IO Unit := do
  let out ← IO.getStdout
  out.putStrLn v.compact
  out.flush

/-- Serve the lines that come in, up to the end or to a message that is no request. A message
without an identifier is only a notice. -/
partial def serveLines (s : Server) (start : Nat) (h : Host) : IO Unit := do
  let line ← (← IO.getStdin).getLine
  if line.isEmpty then return
  match Json.read? line with
  | none => serveLines s start h
  | some message =>
    match message.get? "id" with
    | none => serveLines s start h
    | some id => do
      let (answer, h) ← timed s.program start h (s.serve true message)
      match answer with
      | some a => do
        printLine (Server.response id a)
        serveLines s start h
      | none => return

/-- Serve a client that begins by saying who it is. -/
def serveStdio (s : Server) : IO UInt32 := do
  let start ← IO.monoMsNow
  let line ← (← IO.getStdin).getLine
  match Json.read? line with
  | none => return 1
  | some message =>
    if ((message.get? "method").bind Json.text?) ≠ some "initialize" then return 1
    let (answer, h) ← timed s.program start (← host s.program) (s.serve true message)
    match message.get? "id", answer with
    | some id, some a => do
      printLine (Server.response id a)
      serveLines s start h
      return 0
    | _, _ => return 1

def finish (o : CommandLine.Outcome) : IO UInt32 := do
  IO.print o.output
  return UInt32.ofNat o.exit

def carryOut : CommandLine.Plan → IO UInt32
  | .misuse => do
    IO.eprint CommandLine.usage
    finish CommandLine.misuseOutcome
  | .fail e => do
    IO.eprintln ("Error: " ++ e.message)
    return 1
  | .print text => finish ⟨0, text⟩
  | .spawn p order => do
    let start ← IO.monoMsNow
    let (envelope, _) ← timed p start (← host p) (p.dispatcher.spawn order)
    finish (CommandLine.spawnOutcome envelope)
  | .serveStdio s => serveStdio s
  | .serveHttp _ bind => do
    IO.eprintln ("Error: cannot listen on " ++ bind)
    return 1

end Delegation.Main

def main (words : List String) : IO UInt32 := do
  let s ← Delegation.Main.surroundings words
  Delegation.Main.carryOut (Delegation.CommandLine.plan s words)
