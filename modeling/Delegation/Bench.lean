import Delegation.Host

/-!
# The bench

On the bench procedures run against scripted collaborators, and what they ask is written down. The
remote side replies from queues, one for the tools and one for each method; the simulator can be
scripted in the same way, and the memory can be made to fail. `Bench.log` lists the questions to
the remote side, to a scripted simulator and to the memory, the latest first.
-/

namespace Delegation

/-- A simulator that answers from lists. A missing item is no record. -/
structure SimulatorScript where
  spawns : List (Option RunRecord) := []
  waits : List (Option RunRecord) := []
  snapshots : List (Option RunRecord) := []

/-- The texts with which the memory fails. -/
structure MemoryFaults where
  search : Option String := none
  store : Option String := none
  capture : Option String := none

structure Bench where
  host : Host
  toolReplies : List (Reply Json) := []
  methodReplies : List (String × Reply Json) := []
  script : Option SimulatorScript := none
  faults : MemoryFaults := {}
  log : List Question := []

/-- Take the first item off a queue. -/
def popFront {α : Type} : List (Option α) → Option α × List (Option α)
  | [] => (none, [])
  | a :: rest => (a, rest)

/-- Take the first reply for a method off a queue. -/
def popMethod (method : String) :
    List (String × Reply Json) → Option (Reply Json) × List (String × Reply Json)
  | [] => (none, [])
  | (m, reply) :: rest =>
    if m = method then (some reply, rest)
    else
      let (found, rest) := popMethod method rest
      (found, (m, reply) :: rest)

namespace Bench

/-- Are questions of this kind written down? -/
def isLogged (b : Bench) : Question → Bool
  | .invoke _ => true
  | .call _ => true
  | .simulate _ _ _ => b.script.isSome
  | .await _ _ => b.script.isSome
  | .observe _ => b.script.isSome
  | .search _ _ _ => true
  | .store _ => true
  | .capture _ _ _ => true
  | _ => false

def logged (b : Bench) (q : Question) : Bench :=
  if b.isLogged q then { b with log := q :: b.log } else b

/-- The reply of the remote side to an invocation. -/
def replyToTool (b : Bench) : Reply Json × Bench :=
  match b.toolReplies with
  | [] => (.error "no scripted tool response", b)
  | reply :: rest => (reply, { b with toolReplies := rest })

def replyToMethod (b : Bench) (method : String) : Reply Json × Bench :=
  match popMethod method b.methodReplies with
  | (none, _) => (.error ("no scripted response for " ++ method), b)
  | (some reply, rest) => (reply, { b with methodReplies := rest })

/-- The answer of the collaborators inside the program. -/
def fromHost (b : Bench) (q : Question) : q.Answer × Bench :=
  let (a, host) := b.host.answer (.error "") q
  (a, { b with host })

/-- The next run that a scripted simulator starts. -/
def nextSpawn (b : Bench) (s : SimulatorScript) (agent : AgentName) :
    Except SimulatorError RunRecord × Bench :=
  let (r, spawns) := popFront s.spawns
  (SimulatorError.orStarted agent r, { b with script := some { s with spawns } })

/-- The next record that a wait for a scripted simulator ends with. -/
def nextWait (b : Bench) (s : SimulatorScript) : Option RunRecord × Bench :=
  let (r, waits) := popFront s.waits
  (r, { b with script := some { s with waits } })

def nextSnapshot (b : Bench) (s : SimulatorScript) : Option RunRecord × Bench :=
  let (r, snapshots) := popFront s.snapshots
  (r, { b with script := some { s with snapshots } })

/-- Answer a question that was written down. -/
def respond (b : Bench) : (q : Question) → q.Answer × Bench
  | .invoke _ => b.replyToTool
  | .call c => b.replyToMethod c.method
  | .simulate agent task label =>
    match b.script with
    | some s => b.nextSpawn s agent
    | none => b.fromHost (.simulate agent task label)
  | .await id timeoutMs =>
    match b.script with
    | some s => b.nextWait s
    | none => b.fromHost (.await id timeoutMs)
  | .observe id =>
    match b.script with
    | some s => b.nextSnapshot s
    | none => b.fromHost (.observe id)
  | .search query topK minScore =>
    match b.faults.search with
    | some text => (.error text, b)
    | none => b.fromHost (.search query topK minScore)
  | .store entry =>
    match b.faults.store with
    | some text => (.error text, b)
    | none => b.fromHost (.store entry)
  | .capture agent task output =>
    match b.faults.capture with
    | some text => (.error text, b)
    | none => b.fromHost (.capture agent task output)
  | q => b.fromHost q

def answer (q : Question) : StateM Bench q.Answer := fun b => (b.logged q).respond q

/-- Run a procedure on the bench. -/
def run {α : Type} (p : Procedure α) : StateM Bench α := p.perform answer

end Bench

end Delegation
