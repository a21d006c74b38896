import Delegation.Memory.Store
import Delegation.Procedure
import Delegation.Simulator
import Delegation.Supply

/-!
# The collaborators inside the program

The ledger, the simulator and the memory, with the clock and the supply of fresh names, are one
value. It answers every question but those to the remote side, for which it is told the reply.
-/

namespace Delegation

structure Host where
  /-- Milliseconds of the clock that simulated runs live on. -/
  clock : Nat := 0
  /-- Where that clock started, in epoch milliseconds. -/
  epoch : Int := 0
  /-- The random part of the next fresh name. -/
  supply : Nat := 0
  /-- The wall clock that entries of the memory are dated by. No two of its readings are equal. -/
  instant : Int := 0
  ledger : Ledger := .empty
  simulator : Simulator
  memory : Memory := .empty

namespace Host

def ofConfig (c : MockConfig) : Host := { simulator := .ofConfig c }

def renewed (h : Host) : Host := { h with supply := h.supply + 1 }

/-- Start a simulated run now. -/
def simulate (h : Host) (agent : AgentName) (task : String) (label : Option String) :
    Option RunRecord × Host :=
  let (record, simulator) :=
    h.simulator.spawn h.clock (Int64.ofInt (h.epoch + h.clock)) (Supply.simulatedRun h.supply) agent
      task label
  (record, { h.renewed with simulator })

/-- Wait for a simulated run. The clock goes on. -/
def await (h : Host) (id : RunId) (timeoutMs : Nat) : Option RunRecord × Host :=
  let (record, clock) := h.simulator.wait h.clock id timeoutMs
  (record, { h with clock })

def observe (h : Host) (id : RunId) : Option RunRecord := h.simulator.status h.clock id

def store (h : Host) (entry : MemoryEntry) : Reply String × Host :=
  let (answer, memory) := h.memory.store (Supply.memory h.supply) h.instant entry
  (answer, { h.renewed with memory, instant := h.instant + 1 })

def capture (h : Host) (agent : AgentName) (task output : String) : Reply UInt64 × Host :=
  let (answer, memory) := h.memory.capture (Supply.memory h.supply) h.instant agent task output
  (answer, { h.renewed with memory, instant := h.instant + 1 })

/-- Answer a question; `remote` is what the remote side replies, should it be asked. -/
def answer (h : Host) (remote : Reply Json) : (q : Question) → q.Answer × Host
  | .mint tool => (Supply.invocation tool h.supply, h.renewed)
  | .invoke _ => (remote, h)
  | .call _ => (remote, h)
  | .find id => (h.ledger.get? id, h)
  | .enter report =>
    let (record, ledger) := h.ledger.upsert report
    (record, { h with ledger })
  | .amend id news =>
    let (record, ledger) := h.ledger.patch id news
    (record, { h with ledger })
  | .simulate agent task label =>
    let (started, h) := h.simulate agent task label
    (SimulatorError.orStarted agent started, h)
  | .await id timeoutMs => h.await id timeoutMs.toNat
  | .observe id => (h.observe id, h)
  | .search query topK minScore => (.ok (h.memory.search query topK.toNat minScore), h)
  | .store entry => h.store entry
  | .capture agent task output => h.capture agent task output

end Host

end Delegation
