import Delegation.Proofs.Simulating
import Delegation.Tool

/-!
# What a call changes

A call that does not go well changes nothing: no record is entered or amended, nothing is stored
or captured, no simulated run is started and none is evicted. A call that goes well changes at most
one record of the ledger, that of the run it answers about, and a message or a simulated run
changes none. `Call.frame` says so of every operation and of every tool, whatever its arguments,
whatever the collaborators answer, and in whatever state the host is.
-/

namespace Delegation

open Remote (Entries)

variable {d : Dispatcher} {h h' : Host} {log : List Exchange}

namespace Dispatcher

variable {o : SpawnOrder} {agent : AgentName} {task : String}

/-- Nothing but a search is asked for the enrichment of a task. -/
theorem Augments.isIdle {message : String} (ha : d.Augments o task log message) :
    ∀ e ∈ log, e.isIdle = true := by
  cases ha with
  | plain => intro e he; cases he
  | searched => intro e he; cases List.mem_singleton.1 he; rfl

theorem isIdle_invoking (h : Host) (tool : Remote.Tool) (invocation : CallId → Remote.Invocation)
    (reply : Reply Json) : ∀ e ∈ Remote.invoking h tool invocation reply, e.isIdle = true := by
  intro e he
  rcases List.mem_cons.1 he with rfl | he
  · rfl
  · cases List.mem_singleton.1 he
    rfl

/-- What is asked of the simulator does not concern the ledger. -/
theorem Starts.keepsLedger {message : String} {r : RunRecord}
    (starts : Starts o agent message h log r h') : ∀ e ∈ log, e.question.keepsLedger = true := by
  intro e he
  cases starts with
  | atOnce =>
    cases List.mem_singleton.1 he
    rfl
  | waited =>
    rcases List.mem_cons.1 he with rfl | he
    · rfl
    · cases List.mem_singleton.1 he
      rfl

end Dispatcher

/-! ## Operations -/

/-- What a caller can ask for. -/
inductive Operation where
  | spawn (order : SpawnOrder)
  | status (query : String)

/-- What an answer says in short: did it go well, and which run is it about? -/
structure Outcome where
  ok : Bool
  runId : Option String
  deriving DecidableEq, Repr

namespace Outcome

def ofSpawn (e : Envelope SpawnResult) : Outcome := ⟨e.ok, (e.data.bind (·.runId)).map (·.text)⟩

def ofStatus (e : Envelope StatusReport) : Outcome := ⟨e.ok, e.data.map (·.runId)⟩

/-- The same, read off the document of a tool's answer. -/
def ofAnswer (a : ToolAnswer) : Outcome :=
  ⟨!a.isError, ((a.structured.get? "data").bind (·.get? "runId")).bind Json.text?⟩

theorem ofAnswer_spawn (e : Envelope SpawnResult) :
    ofAnswer (.ofEnvelope SpawnResult.encode e) = ofSpawn e := by
  obtain ⟨ok, code, error, data⟩ := e
  cases ok <;> cases data with
  | none => rfl
  | some r =>
    obtain ⟨runId⟩ := r
    cases runId <;> rfl

theorem ofAnswer_status (e : Envelope StatusReport) :
    ofAnswer (.ofEnvelope StatusReport.encode e) = ofStatus e := by
  obtain ⟨ok, code, error, data⟩ := e
  cases ok <;> cases data <;> rfl

end Outcome

namespace Operation

def outcome (d : Dispatcher) : Operation → Procedure Outcome
  | .spawn o => d.spawn o >>= fun e => pure (.ofSpawn e)
  | .status q => d.status q >>= fun e => pure (.ofStatus e)

/-- Can an operation write into the ledger at all? Messages and simulated runs cannot. -/
def isTracked (d : Dispatcher) : Operation → Bool
  | .spawn o => d.config.backend = .real && !o.useSessionsSend
  | .status _ => d.config.backend = .real

/-- The run whose record an operation may write: the one that a spawn returns, or the one that is
asked about. -/
def target (out : Outcome) : Operation → Option String
  | .spawn _ => out.runId
  | .status q => some (Text.trim q)

/-- What an operation leaves as it is. -/
structure Frames (op : Operation) (d : Dispatcher) (h : Host) (log : List Exchange) (out : Outcome)
    (h' : Host) : Prop where
  failed : out.ok = false → ∀ e ∈ log, e.isIdle = true
  untracked : op.isTracked d = false → h'.ledger = h.ledger
  others : ∀ id : RunId, op.target out ≠ some id.text → h'.ledger.find? id = h.ledger.find? id

namespace Frames

variable {op : Operation} {out : Outcome}

/-- An operation that only asks. -/
theorem of_idle {α : Type} {p : Procedure α} {a : α} (hp : h.Performs p log a h')
    (idle : ∀ e ∈ log, e.isIdle = true) : op.Frames d h log out h' := by
  obtain ⟨ledger, -, -⟩ := hp.eq_of_isIdle idle
  exact ⟨fun _ => idle, fun _ => ledger, fun id _ => congrArg (·.find? id) ledger⟩

/-- An operation that goes well and writes nothing into the ledger. -/
theorem of_keepsLedger {α : Type} {p : Procedure α} {a : α} (hp : h.Performs p log a h')
    (keeps : ∀ e ∈ log, e.question.keepsLedger = true) (well : out.ok = true) :
    op.Frames d h log out h' := by
  have ledger := hp.ledger_eq keeps
  refine ⟨fun failed => ?_, fun _ => ledger, fun id _ => congrArg (·.find? id) ledger⟩
  rw [well] at failed
  cases failed

/-- An operation that goes well and writes one record. -/
theorem of_target (well : out.ok = true) (tracked : op.isTracked d = true) {id : RunId}
    (target : op.target out = some id.text)
    (others : ∀ id', id ≠ id' → h'.ledger.find? id' = h.ledger.find? id') :
    op.Frames d h log out h' := by
  refine ⟨fun failed => ?_, fun untracked => ?_, fun id' other => ?_⟩
  · rw [well] at failed
    cases failed
  · rw [tracked] at untracked
    cases untracked
  · exact others id' fun same => other (same ▸ target)

/-! ## Operations on the remote side -/

theorem of_spawn (real : d.config.backend = .real) {o : SpawnOrder} {env : Envelope SpawnResult}
    (hp : h.Performs (d.spawn o) log env h') :
    (Operation.spawn o).Frames d h log (.ofSpawn env) h' := by
  have course := (Dispatcher.performs_spawn real).1 hp
  cases course with
  | refused | sessionless => exact of_idle hp fun e he => nomatch he
  | sent _ _ augments | refusedThere _ _ augments =>
    refine of_idle hp fun e he => ?_
    rcases List.mem_append.1 he with he | he
    · exact augments.isIdle e he
    · exact Dispatcher.isIdle_invoking h _ _ _ e he
  | taken _ _ _ spawns _ follows remembers =>
    obtain ⟨memory, m, rfl⟩ := Dispatcher.performs_persisted remembers
    have ledger := remembers.ledger_eq fun e he => Question.keepsLedger_of_isMemory (memory e he)
    refine of_target rfl ?_ (congrArg (fun id : RunId => some id.text) follows.runId_eq)
      fun id other => ?_
    · simp only [isTracked, real, spawns, decide_true, Bool.not_false, Bool.and_self]
    · rw [ledger]
      exact follows.find?_of_ne other

theorem of_status (real : d.config.backend = .real) {q : String} {env : Envelope StatusReport}
    (hp : h.Performs (d.status q) log env h') :
    (Operation.status q).Frames d h log (.ofStatus env) h' := by
  have course := (Dispatcher.performs_status real).1 hp
  cases course with
  | blank => exact of_idle hp fun e he => nomatch he
  | unknown | ended =>
    refine of_idle hp fun e he => ?_
    cases List.mem_singleton.1 he
    rfl
  | unanswered =>
    refine of_idle hp fun e he => ?_
    rcases List.mem_cons.1 he with rfl | he
    · rfl
    · cases List.mem_singleton.1 he
      rfl
  | @answered id r reading output named known unfinished raw reads =>
    have asked : some (Text.trim q) = some r.runId.text := by
      obtain ⟨-, -, hid, -⟩ := Ledger.get?_of_nonBlank? named h.ledger
      rw [hid] at known
      exact congrArg (fun id : RunId => some id.text) (Ledger.runId_of_find? known).symm
    refine of_target rfl ?_ asked fun id' other => ?_
    · simp only [isTracked, real, decide_true]
    · exact Ledger.find?_put_of_ne (r := Tracker.polled r (.ofAnswer true raw) output) other _

/-! ## Operations on the simulator -/

theorem of_simulatedSpawn (mock : d.config.backend = .mock) {o : SpawnOrder}
    {env : Envelope SpawnResult} (hp : h.Performs (d.spawn o) log env h') :
    (Operation.spawn o).Frames d h log (.ofSpawn env) h' := by
  have course := Dispatcher.simulatedCourse_of_performs mock hp
  cases course with
  | refused => exact of_idle hp fun e he => nomatch he
  | unknown _ augments =>
    refine of_idle hp fun e he => ?_
    rcases List.mem_append.1 he with he | he
    · exact augments.isIdle e he
    · cases List.mem_singleton.1 he
      rfl
  | started _ augments starts remembers =>
    obtain ⟨memory, -⟩ := Dispatcher.performs_persisted remembers
    refine of_keepsLedger hp (fun e he => ?_) rfl
    rcases List.mem_append.1 he with he | he
    · rcases List.mem_append.1 he with he | he
      · exact Question.keepsLedger_of_isMemory (augments.isMemory e he)
      · exact starts.keepsLedger e he
    · exact Question.keepsLedger_of_isMemory (memory e he)

theorem of_simulatedStatus (mock : d.config.backend = .mock) {q : String}
    {env : Envelope StatusReport} (hp : h.Performs (d.status q) log env h') :
    (Operation.status q).Frames d h log (.ofStatus env) h' := by
  cases named : Text.nonBlank? q with
  | none =>
    obtain ⟨rfl, -, -⟩ := (Dispatcher.performs_status_of_blank named).1 hp
    exact of_idle hp fun e he => nomatch he
  | some id =>
    obtain ⟨found, rfl, -⟩ := Dispatcher.performs_status_simulated mock named hp
    refine of_idle hp fun e he => ?_
    cases List.mem_singleton.1 he
    rfl

end Frames

/-- What an operation leaves as it is, on either backend. -/
theorem frames {op : Operation} {out : Outcome} (hp : h.Performs (op.outcome d) log out h') :
    op.Frames d h log out h' := by
  cases op with
  | spawn o =>
    obtain ⟨env, performed, rfl⟩ := Host.performs_map.1 hp
    cases backend : d.config.backend with
    | real => exact .of_spawn backend performed
    | mock => exact .of_simulatedSpawn backend performed
  | status q =>
    obtain ⟨env, performed, rfl⟩ := Host.performs_map.1 hp
    cases backend : d.config.backend with
    | real => exact .of_status backend performed
    | mock => exact .of_simulatedStatus backend performed

end Operation

/-! ## Calls of tools -/

/-- What can be called: an operation, or a tool with an object of arguments. -/
inductive Call where
  | operation (op : Operation)
  | tool (t : Tool) (defaultSession : Option Session) (args : Entries)

namespace Call

/-- The operation that a call comes to; none if its arguments are malformed. -/
def operation? : Call → Option Operation
  | .operation op => some op
  | .tool .spawnExpert defaultSession args =>
    match SpawnArgs.decode (Json.obj args) with
    | .ok a => some (.spawn (a.order defaultSession))
    | .error _ => none
  | .tool .runStatus _ args => ((Json.find "runId" args).bind Json.text?).map .status

def outcome (d : Dispatcher) : Call → Procedure Outcome
  | .operation op => op.outcome d
  | .tool t defaultSession args =>
    t.call d defaultSession args >>= fun answer => pure (.ofAnswer answer)

/-- A tool whose arguments are an operation answers with the operation's envelope. -/
theorem outcome_tool {t : Tool} {defaultSession : Option Session} {args : Entries} {op : Operation}
    (well_formed : operation? (.tool t defaultSession args) = some op) :
    outcome d (.tool t defaultSession args) = op.outcome d := by
  cases t with
  | spawnExpert =>
    unfold operation? at well_formed
    unfold outcome Tool.call
    dsimp only at well_formed ⊢
    cases hd : SpawnArgs.decode (Json.obj args) with
    | ok a =>
      rw [hd] at well_formed
      cases well_formed
      simp only [bind_assoc, pure_bind, Outcome.ofAnswer_spawn]
      rfl
    | error e =>
      rw [hd] at well_formed
      cases well_formed
  | runStatus =>
    unfold operation? at well_formed
    unfold outcome Tool.call
    dsimp only at well_formed ⊢
    obtain ⟨q, hq, rfl⟩ := Option.map_eq_some_iff.1 well_formed
    rw [hq]
    simp only [bind_assoc, pure_bind, Outcome.ofAnswer_status]
    rfl

/-- Malformed arguments are answered without asking anybody. -/
theorem outcome_malformed {t : Tool} {defaultSession : Option Session} {args : Entries}
    (malformed : operation? (.tool t defaultSession args) = none) :
    outcome d (.tool t defaultSession args) = pure ⟨false, none⟩ := by
  cases t with
  | spawnExpert =>
    unfold operation? at malformed
    unfold outcome Tool.call
    dsimp only at malformed ⊢
    cases hd : SpawnArgs.decode (Json.obj args) with
    | ok a =>
      rw [hd] at malformed
      cases malformed
    | error e =>
      simp only [pure_bind, Outcome.ofAnswer_spawn]
      rfl
  | runStatus =>
    unfold operation? at malformed
    unfold outcome Tool.call
    dsimp only at malformed ⊢
    rw [Option.map_eq_none_iff.1 malformed]
    simp only [pure_bind, Outcome.ofAnswer_status]
    rfl

/-- A tool does what its operation does, or answers that its arguments are malformed. -/
theorem performs_outcome {c : Call} {out : Outcome} (hp : h.Performs (c.outcome d) log out h') :
    (∃ op, c.operation? = some op ∧ h.Performs (op.outcome d) log out h') ∨
      c.operation? = none ∧ log = [] ∧ out.ok = false := by
  cases c with
  | operation op => exact .inl ⟨op, rfl, hp⟩
  | tool t defaultSession args =>
    cases hop : operation? (.tool t defaultSession args) with
    | some op =>
      rw [outcome_tool hop] at hp
      exact .inl ⟨op, rfl, hp⟩
    | none =>
      rw [outcome_malformed hop] at hp
      obtain ⟨rfl, rfl, -⟩ := Host.performs_pure.1 hp
      exact .inr ⟨rfl, rfl, rfl⟩

/-- The frame of a call. -/
theorem frame {c : Call} {out : Outcome} (hp : h.Performs (c.outcome d) log out h') :
    (out.ok = false → h'.ledger = h.ledger ∧ h'.simulator = h.simulator ∧ h'.memory = h.memory ∧
      ∀ e ∈ log, e.isIdle = true) ∧
    (out.ok = true → ∃ op, c.operation? = some op ∧
      (op.isTracked d = false → h'.ledger = h.ledger) ∧
      ∀ id : RunId, op.target out ≠ some id.text → h'.ledger.find? id = h.ledger.find? id) := by
  rcases performs_outcome hp with ⟨op, hop, performed⟩ | ⟨-, rfl, failed⟩
  · have frames := Operation.frames performed
    refine ⟨fun failed => ?_, fun _ => ⟨op, hop, frames.untracked, frames.others⟩⟩
    have idle := frames.failed failed
    obtain ⟨ledger, simulator, memory⟩ := performed.eq_of_isIdle idle
    exact ⟨ledger, simulator, memory, idle⟩
  · have idle : ∀ e ∈ ([] : List Exchange), e.isIdle = true := fun e he => nomatch he
    obtain ⟨ledger, simulator, memory⟩ := hp.eq_of_isIdle idle
    refine ⟨fun _ => ⟨ledger, simulator, memory, idle⟩, fun well => ?_⟩
    rw [failed] at well
    cases well

/-- An agent that the simulator does not know, and one that it knows. -/
theorem frame_sample :
    (∃ log out h', Host.Performs (.ofConfig {})
        ((Call.operation (.spawn { agent := "nobody", task := "fix it" })).outcome ⟨{}, true⟩)
        log out h' ∧
      out.ok = false ∧ h'.ledger = .empty ∧ h'.simulator.runs = [] ∧ h'.memory = .empty) ∧
    ∃ log out h', Host.Performs (.ofConfig {})
        ((Call.operation (.spawn { agent := "writer", task := "fix it" })).outcome ⟨{}, true⟩)
        log out h' ∧
      out.ok = true ∧ h'.ledger = .empty := by
  constructor
  · obtain ⟨log, hp⟩ := Bench.performs_run { host := .ofConfig {} }
      ((Call.operation (.spawn { agent := "nobody", task := "fix it" })).outcome ⟨{}, true⟩)
    obtain ⟨ledger, simulator, memory, -⟩ := (frame hp).1 rfl
    exact ⟨log, _, _, hp, rfl, ledger, congrArg Simulator.runs simulator, memory⟩
  · obtain ⟨log, hp⟩ := Bench.performs_run { host := .ofConfig {} }
      ((Call.operation (.spawn { agent := "writer", task := "fix it" })).outcome ⟨{}, true⟩)
    obtain ⟨op, same, untracked, -⟩ := (frame hp).2 rfl
    cases same
    exact ⟨log, _, _, hp, rfl, untracked rfl⟩

end Call

end Delegation
