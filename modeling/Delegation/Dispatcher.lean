import Delegation.Envelope
import Delegation.Memory.Recall
import Delegation.Remote.Spawning
import Delegation.Report
import Delegation.Tracker

/-!
# The dispatcher

The two operations that callers have: to delegate a task to an expert, and to ask what became of a
run. Both are procedures that end in an envelope. Which backend carries them out is settled by the
configuration, and nothing is asked of any collaborator before the order itself was checked.
-/

namespace Delegation

open Remote (SendOutcome)

/-- A caller's order to delegate a task. -/
structure SpawnOrder where
  agent : String
  task : String
  /-- How long to wait for the run before answering. -/
  waitMs : UInt64 := 0
  /-- How long the run may take; the configured time if absent. -/
  timeoutMs : Option UInt64 := none
  label : Option String := none
  /-- Deliver into a session that exists, and spawn nothing. -/
  useSessionsSend : Bool := false
  targetSessionKey : Option String := none
  persistMemory : Bool := false
  /-- Overrides the configured switch. -/
  wantsRecall : Option Bool := none
  session : Option Session := none
  deriving DecidableEq, Repr, Inhabited

/-- The longest wait that a caller may ask for: an hour. -/
def maxWaitMs : UInt64 := 3600000

/-- What is left of an order after its check: whom to ask, and what. -/
def SpawnOrder.checked (o : SpawnOrder) : Except Failure (AgentName × String) :=
  match Name.parse? o.agent, Text.nonBlank? o.task with
  | none, _ => .error (.invalidParams "`agent` is required")
  | some _, none => .error (.invalidParams "`task` is required")
  | some agent, some task =>
    if maxWaitMs < o.waitMs then
      .error (.invalidParams ("`waitMs` must be at most " ++ toString maxWaitMs.toNat))
    else .ok (agent, task)

/-- How an order was carried out. -/
inductive Spawned where
  | run (result : SpawnResult)
  /-- By a message; the failure says why it was not delivered. -/
  | sent (result : SpawnResult) (failure : Option Failure)
  deriving DecidableEq, Repr

def Spawned.envelope : Spawned → Envelope SpawnResult
  | .run result => .success result
  | .sent result none => .success result
  | .sent result (some f) => .failureWith f.code f.message result

structure Dispatcher where
  config : Config
  /-- Is there a memory store? -/
  hasMemory : Bool
  deriving DecidableEq, Repr

namespace Dispatcher

def tracker (d : Dispatcher) : Tracker :=
  ⟨d.config.statusPollMs, d.config.historyLimit, d.config.gateway.requestTimeoutMs⟩

def runTimeoutMs (d : Dispatcher) (o : SpawnOrder) : UInt64 :=
  o.timeoutMs.getD d.config.runTimeoutMs

/-- The task, enriched from the memory if that is wanted and there is one. -/
def augmented (d : Dispatcher) (o : SpawnOrder) (task : String) : Procedure String :=
  if d.hasMemory && o.wantsRecall.getD d.config.recalling.enabled then
    Recall.augment d.config.recalling task
  else return task

/-! ## Remembering results -/

/-- Store a result, then let the memory derive what it likes from the whole exchange. -/
def remember (agent : AgentName) (task output : String) (runId : Option RunId) :
    Procedure MemoryReport := do
  match ← .store { content := Text.trim output, agent := some agent, sourceRun := runId } with
  | .error reason => return .skipped ("store failed: " ++ reason)
  | .ok entryId => do
    let captured ← .capture agent task output
    return ⟨true, some entryId, captured.toOption.getD 0, none⟩

/-- What is remembered of a result: the output of a completed run, unless it is blank. -/
def memoryReport (d : Dispatcher) (agent : AgentName) (task : String) (r : SpawnResult) :
    Procedure MemoryReport :=
  if !d.hasMemory then return .skipped "no memory store configured"
  else if r.status ≠ .completed then
    return .skipped ("run is " ++ r.status.text ++ ", not completed")
  else
    match r.output with
    | some output =>
      if Text.trim output = "" then return .skipped "run produced no output"
      else remember agent task output r.runId
    | none => return .skipped "run produced no output"

/-- Only the memory agent's results are remembered, and only on demand. -/
def persisted (d : Dispatcher) (o : SpawnOrder) (agent : AgentName) (task : String)
    (r : SpawnResult) : Procedure SpawnResult :=
  if o.persistMemory && agent.text == d.config.memoryAgent then do
    let report ← d.memoryReport agent task r
    return { r with memory := some report }
  else return r

/-! ## The simulator -/

/-- A wait that ran out is the caller's, not the run's. -/
def softened (r : RunRecord) : RunRecord :=
  if r.status = .timeout then { r with status := .running } else r

def spawnSimulated (agent : AgentName) (task : String) (o : SpawnOrder) :
    Procedure (Except Failure SpawnResult) := do
  match ← .simulate agent task o.label with
  | .error (.unknownAgent name) => return .error (.agentNotFound name)
  | .ok started =>
    if o.waitMs = 0 then return .ok (.ofRecord started .mock none)
    else do
      let waited ← .await started.runId o.waitMs
      return .ok (.ofRecord (softened (waited.getD started)) .mock none)

/-! ## The remote side -/

/-- What is entered into the ledger when a run was accepted. -/
def acceptedReport (agent : AgentName) (a : Remote.Acceptance) : RunReport where
  runId := a.runId.text
  agent := agent.text
  status := some Status.accepted.text
  childSessionKey := some a.childSessionKey.text

/-- Follow an accepted run: enter it, and wait for it if that is wanted. A wait that fails changes
nothing. -/
def follow (d : Dispatcher) (agent : AgentName) (o : SpawnOrder) (a : Remote.Acceptance) :
    Procedure (Except Failure SpawnResult) := do
  match ← .enter (acceptedReport agent a) with
  | none => return .error (.spawnRejected missingRunId)
  | some entered =>
    if o.waitMs = 0 then return .ok (.ofRecord entered .real a.warning)
    else do
      let polled ← d.tracker.pollOnce entered o.waitMs true
      return .ok (.ofRecord (polled.toOption.getD entered) .real a.warning)

def spawnRemote (d : Dispatcher) (agent : AgentName) (task : String) (session : Session)
    (o : SpawnOrder) : Procedure (Except Failure SpawnResult) := do
  let request : Remote.SpawnRequest := ⟨agent, task, o.label, d.runTimeoutMs o, session⟩
  match ← Remote.spawn request with
  | .error f => return .error f
  | .ok a => d.follow agent o a

/-- The session that a message goes to. -/
def sendTarget (agent : AgentName) (o : SpawnOrder) : SessionKey :=
  (o.targetSessionKey.bind Name.parse?).getD ⟨"agent:" ++ agent.text ++ ":main"⟩

/-- The result of a message: a reply completes it, without one it is accepted. -/
def sendResult (agent : AgentName) (target : SessionKey) (outcome : SendOutcome) : SpawnResult :=
  let (status, output) : Status × Option String :=
    match outcome.failure?, outcome.reply with
    | some _, _ => (.failed, none)
    | none, some reply => (.completed, some reply)
    | none, none => (.accepted, none)
  { runId := outcome.runId, agent, status, output, durationMs := none, error := outcome.error
    childSessionKey := some target, spawn := ⟨.real, none⟩, sessionsSend := some outcome
    memory := none }

def send (d : Dispatcher) (agent : AgentName) (message : String) (session : Session)
    (o : SpawnOrder) : Procedure Spawned := do
  let target := sendTarget agent o
  let timeoutMs := if o.waitMs = 0 then d.runTimeoutMs o else o.waitMs
  let outcome ← Remote.send ⟨target, message, timeoutMs, session⟩
  return .sent (sendResult agent target outcome) outcome.failure?

/-! ## The operations -/

/-- Carry out an order that was checked. -/
def carryOut (d : Dispatcher) (o : SpawnOrder) (agent : AgentName) (task : String) :
    Procedure (Except Failure Spawned) :=
  match d.config.backend, o.session with
  | .mock, _ => do
    let message ← d.augmented o task
    match ← spawnSimulated agent message o with
    | .error f => return .error f
    | .ok r => return .ok (.run (← d.persisted o agent task r))
  | .real, none => return .error .missingSessionContext
  | .real, some session => do
    let message ← d.augmented o task
    if o.useSessionsSend then return .ok (← d.send agent message session o)
    else
      match ← d.spawnRemote agent message session o with
      | .error f => return .error f
      | .ok r => return .ok (.run (← d.persisted o agent task r))

/-- Delegate a task. -/
def spawn (d : Dispatcher) (o : SpawnOrder) : Procedure (Envelope SpawnResult) :=
  match o.checked with
  | .error f => return .ofFailure f
  | .ok (agent, task) => do
    match ← d.carryOut o agent task with
    | .error f => return .ofFailure f
    | .ok spawned => return spawned.envelope

/-- The record of a run, from whoever keeps it. -/
def lookUp (d : Dispatcher) (runId : String) : Procedure (Except Failure (Option RunRecord)) :=
  match d.config.backend with
  | .mock => do
    let record ← .observe ⟨runId⟩
    return .ok record
  | .real => d.tracker.reconcile runId

/-- What became of a run. A run that nobody knows is no failure. -/
def status (d : Dispatcher) (runId : String) : Procedure (Envelope StatusReport) :=
  match Text.nonBlank? runId with
  | none => return .ofFailure (.invalidParams "`runId` is required")
  | some id => do
    match ← d.lookUp id with
    | .error f => return .ofFailure f
    | .ok none => return .success (.notFound id)
    | .ok (some r) => return .success (.ofRecord r)

end Dispatcher

end Delegation
