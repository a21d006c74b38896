import Delegation.Config.Basic

/-!
# The simulator

Simulated runs go through their life on a clock of milliseconds: a run is done as soon as the
latency has passed since it started, with an output that was fixed when it was spawned. Only so
many runs are kept: before a new one is entered, runs are evicted, finished ones first, of these
and of the others the one that started first. Runs that started at one instant go in the order of
the table that they are kept in, and nothing is known about that order: it is a parameter.

The simulator is a value. Time is not in it: every operation is told the time, and waiting answers
with the time at which it is over.
-/

namespace Delegation

structure SimulatedRun where
  runId : RunId
  agent : AgentName
  task : String
  label : Option String
  /-- On the clock of the simulator. -/
  started : Nat
  /-- In epoch milliseconds. -/
  startedAt : Int64
  output : String
  deriving DecidableEq, Repr

structure Simulator where
  agents : List String
  latencyMs : Nat
  responses : List (String × String)
  /-- How many runs are kept. -/
  capacity : Nat
  /-- Where the table has the run of a name, which says who of the runs that started at one instant
  is evicted. As evicted runs do not come back, whatever is chosen from time to time is what a table
  chooses that has the runs in the order in which they go. -/
  place : RunId → Nat
  /-- In the order of entry. -/
  runs : List SimulatedRun

namespace Simulator

/-- A simulator without runs. It keeps one run at least, whatever is configured. -/
def ofConfig (c : MockConfig) (place : RunId → Nat := fun _ => 0) : Simulator where
  agents := c.agents
  latencyMs := c.latencyMs.toNat
  responses := []
  capacity := max 1 c.maxRuns.toNat
  place := place
  runs := []

/-- A fixed output for every run of an agent. -/
def withResponse (agent output : String) (s : Simulator) : Simulator :=
  { s with responses := (agent, output) :: s.responses }

/-- The known agents in ascending order, each once. -/
def catalog (s : Simulator) : List String :=
  (s.agents.mergeSort fun a b => decide (a ≤ b)).eraseDups

def find? (s : Simulator) (id : RunId) : Option SimulatedRun := s.runs.find? (·.runId = id)

/-- Without a fixed output a run produces its agent and the first line of its task. -/
def outputFor (s : Simulator) (agent : AgentName) (task : String) : String :=
  match s.responses.find? (·.1 = agent.text) with
  | some (_, fixed) => fixed
  | none => "[" ++ agent.text ++ "] " ++ Text.trim (Text.firstLine task)

def inFlight (s : Simulator) (now : Nat) (r : SimulatedRun) : Bool :=
  decide (now - r.started < s.latencyMs)

/-- Does the first run have to go before the second? -/
def goesBefore (s : Simulator) (now : Nat) (a b : SimulatedRun) : Bool :=
  match s.inFlight now a, s.inFlight now b with
  | false, true => true
  | true, false => false
  | _, _ =>
    decide (a.started < b.started ∨ a.started = b.started ∧ s.place a.runId < s.place b.runId)

/-- The run that is evicted next: one that no other has to go before. -/
def victim? (s : Simulator) (now : Nat) : List SimulatedRun → Option SimulatedRun
  | [] => none
  | r :: rest =>
    match victim? s now rest with
    | none => some r
    | some v => some (if s.goesBefore now v r then v else r)

/-- Evict runs until there is room for one more. -/
def makeRoom (s : Simulator) (now : Nat) : Nat → List SimulatedRun → List SimulatedRun
  | 0, runs => runs
  | fuel + 1, runs =>
    if runs.length < s.capacity then runs
    else
      match s.victim? now runs with
      | none => runs
      | some v => s.makeRoom now fuel (runs.filter (·.runId ≠ v.runId))

/-- What a run looks like at a time. -/
def snapshot (s : Simulator) (now : Nat) (r : SimulatedRun) : RunRecord :=
  let base : RunRecord :=
    { runId := r.runId, agent := r.agent, status := .running, childSessionKey := none
      output := none, error := none, startedAt := some r.startedAt, endedAt := none
      durationMs := none }
  if s.inFlight now r then base
  else
    let latency := Int64.ofNat s.latencyMs
    { base with
      status := .completed
      output := some r.output
      endedAt := some (r.startedAt + latency)
      durationMs := some latency }

/-- Start a run under a fresh name; none if the agent is not known. -/
def spawn (s : Simulator) (now : Nat) (startedAt : Int64) (id : RunId) (agent : AgentName)
    (task : String) (label : Option String) : Option RunRecord × Simulator :=
  if agent.text ∈ s.agents then
    let run : SimulatedRun :=
      ⟨id, agent, task, label, now, startedAt, s.outputFor agent task⟩
    let kept := s.makeRoom now s.runs.length s.runs
    (some
      { runId := id, agent, status := .accepted, childSessionKey := none, output := none
        error := none, startedAt := some startedAt, endedAt := none, durationMs := none },
      { s with runs := kept ++ [run] })
  else (none, s)

/-- The state of a run; none if it is not kept. -/
def status (s : Simulator) (now : Nat) (id : RunId) : Option RunRecord :=
  (s.find? id).map (s.snapshot now)

/-- No one waits longer than thirty years at a time. -/
def longestWait : Nat := 946080000000

/-- Wait for a run: what is known of it then, and the time when the waiting is over. A run that
is not done in time then has the status timeout, for the one who waited only. -/
def wait (s : Simulator) (now : Nat) (id : RunId) (timeoutMs : Nat) : Option RunRecord × Nat :=
  match s.find? id with
  | none => (none, now)
  | some r =>
    let remaining := s.latencyMs - (now - r.started)
    if timeoutMs < remaining then
      let later := now + min timeoutMs longestWait
      let seen := s.snapshot later r
      (some (if seen.status = .running then { seen with status := .timeout } else seen), later)
    else
      let later := now + min remaining longestWait
      (some (s.snapshot later r), later)

end Simulator

end Delegation
