import Delegation.Ledger
import Delegation.Memory.Basic
import Delegation.Remote.Call

/-!
# Procedures

An operation of the program is a procedure: it asks its collaborators one question after another
and goes on according to the answers. The collaborators are the remote side, the ledger of runs,
the simulator and the memory. A procedure by itself does nothing; `Procedure.perform` asks its
questions of somebody who answers them, in any monad, so one and the same procedure runs against
the network, against a script, and against any behaviour that a theorem quantifies over.
`perform_bind` says that performing a sequence is performing its parts in order.
-/

namespace Delegation

open Number (Single)

/-- What is asked of a collaborator. -/
inductive Question where
  /-- A fresh name for an invocation of a remote tool. -/
  | mint (tool : Remote.Tool)
  | invoke (invocation : Remote.Invocation)
  | call (call : Remote.MethodCall)
  /-- The ledger's record of the run that a text names. -/
  | find (runId : String)
  /-- Enter a report into the ledger. -/
  | enter (report : RunReport)
  /-- Merge news into a record of the ledger. -/
  | amend (runId : String) (news : RunPatch)
  /-- Start a simulated run. -/
  | simulate (agent : AgentName) (task : String) (label : Option String)
  /-- Wait for a simulated run. -/
  | await (runId : RunId) (timeoutMs : UInt64)
  /-- The state of a simulated run. -/
  | observe (runId : RunId)
  | search (query : String) (topK : UInt64) (minScore : Single)
  | store (entry : MemoryEntry)
  | capture (agent : AgentName) (task : String) (output : String)

/-- The error text of a collaborator that failed, or its answer. -/
abbrev Reply (α : Type) := Except String α

/-- Why a simulator does not start a run. -/
inductive SimulatorError where
  | unknownAgent (name : String)
  deriving DecidableEq, Repr

namespace SimulatorError

/-- A simulator's answer to who wants a run of an agent: the run, or that it has no such agent. -/
def orStarted (agent : AgentName) : Option RunRecord → Except SimulatorError RunRecord
  | some started => .ok started
  | none => .error (.unknownAgent agent.text)

variable {agent : AgentName} {found : Option RunRecord}

theorem orStarted_eq_ok_iff {started : RunRecord} :
    orStarted agent found = .ok started ↔ found = some started := by
  cases found <;> simp [orStarted]

theorem orStarted_eq_error_iff {e : SimulatorError} :
    orStarted agent found = .error e ↔ found = none ∧ e = .unknownAgent agent.text := by
  cases found <;> simp [orStarted, eq_comm]

end SimulatorError

/-- What a question is answered with. -/
@[reducible] def Question.Answer : Question → Type
  | .mint _ => CallId
  | .invoke _ => Reply Json
  | .call _ => Reply Json
  | .find _ => Option RunRecord
  | .enter _ => Option RunRecord
  | .amend _ _ => Option RunRecord
  | .simulate _ _ _ => Except SimulatorError RunRecord
  | .await _ _ => Option RunRecord
  | .observe _ => Option RunRecord
  | .search _ _ _ => Reply (List MemoryHit)
  | .store _ => Reply String
  | .capture _ _ _ => Reply UInt64

inductive Procedure (α : Type) : Type where
  | done (result : α)
  | ask (question : Question) (next : question.Answer → Procedure α)

namespace Procedure

variable {α β γ : Type}

protected def bind : Procedure α → (α → Procedure β) → Procedure β
  | .done a, f => f a
  | .ask q next, f => .ask q fun answer => (next answer).bind f

instance : Monad Procedure where
  pure := .done
  bind := Procedure.bind

theorem bind_done (p : Procedure α) : p.bind .done = p := by
  induction p with
  | done a => rfl
  | ask q next ih => simp only [Procedure.bind, ih]

theorem bind_assoc (p : Procedure α) (f : α → Procedure β) (g : β → Procedure γ) :
    (p.bind f).bind g = p.bind fun a => (f a).bind g := by
  induction p with
  | done a => rfl
  | ask q next ih => simp only [Procedure.bind, ih]

instance : LawfulMonad Procedure :=
  LawfulMonad.mk' Procedure (fun p => bind_done p) (fun _ _ => rfl) bind_assoc

/-- Ask the questions of somebody who answers them. -/
def perform {m : Type → Type} [Monad m] (answer : (q : Question) → m q.Answer) :
    Procedure α → m α
  | .done a => pure a
  | .ask q next => answer q >>= fun a => perform answer (next a)

theorem perform_bind {m : Type → Type} [Monad m] [LawfulMonad m]
    (answer : (q : Question) → m q.Answer) (p : Procedure α) (f : α → Procedure β) :
    perform answer (p >>= f) = perform answer p >>= fun a => perform answer (f a) := by
  induction p with
  | done a =>
    simp only [perform, pure_bind]
    rfl
  | ask q next ih =>
    simp only [perform, LawfulMonad.bind_assoc]
    show (answer q >>= fun a => perform answer ((next a).bind f)) = _
    congr 1
    funext a
    exact ih a

/-! ## Single questions -/

def mint (tool : Remote.Tool) : Procedure CallId := .ask (.mint tool) .done
def invoke (i : Remote.Invocation) : Procedure (Reply Json) := .ask (.invoke i) .done
def call (c : Remote.MethodCall) : Procedure (Reply Json) := .ask (.call c) .done
def find (runId : String) : Procedure (Option RunRecord) := .ask (.find runId) .done
def enter (report : RunReport) : Procedure (Option RunRecord) := .ask (.enter report) .done
def amend (runId : String) (news : RunPatch) : Procedure (Option RunRecord) :=
  .ask (.amend runId news) .done
def simulate (agent : AgentName) (task : String) (label : Option String) :
    Procedure (Except SimulatorError RunRecord) := .ask (.simulate agent task label) .done
def await (runId : RunId) (timeoutMs : UInt64) : Procedure (Option RunRecord) :=
  .ask (.await runId timeoutMs) .done
def observe (runId : RunId) : Procedure (Option RunRecord) := .ask (.observe runId) .done
def search (query : String) (topK : UInt64) (minScore : Single) :
    Procedure (Reply (List MemoryHit)) := .ask (.search query topK minScore) .done
def store (entry : MemoryEntry) : Procedure (Reply String) := .ask (.store entry) .done
def capture (agent : AgentName) (task output : String) : Procedure (Reply UInt64) :=
  .ask (.capture agent task output) .done

end Procedure

end Delegation
