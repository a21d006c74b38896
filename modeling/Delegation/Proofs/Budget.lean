import Delegation.Proofs.Chronicle

/-!
# What an operation asks of the remote side

Which calls reach the remote side in the course of one operation, and in which order, is settled by
what was wanted, by the record that the ledger has of the run, and by the replies up to then. The
`budget` of an operation is that sequence, written down without its procedure, and
`arrivals_eq_budget` says that no call is missing from it and none is too many. The calls are told
apart as the remote side sees them, by the names and parameters that they arrive with.
-/

namespace Delegation

open Remote (Acceptance WaitOutcome waitCall historyCall)

/-! ## Calls as they arrive -/

/-- A call as it reaches the remote side. -/
inductive Arrival where
  | spawn
  | send
  | wait (runId : String) (windowMs : Int)
  | history (session : String)
  /-- Anything that the remote side does not know. -/
  | foreign
  deriving DecidableEq, Repr

namespace Arrival

/-- An invocation is known by the name of its tool. -/
def ofTool (tool : String) : Arrival :=
  if tool = "sessions_spawn" then .spawn else if tool = "sessions_send" then .send else .foreign

/-- The whole number under a key of a document. -/
def wholeOf (key : String) (v : Json) : Option Int :=
  match v.get? key with
  | some (.num (.int i)) => some i
  | _ => none

/-- A timed call is known by its method, and needs the parameters of that method. -/
def ofMethod (method : String) (params : Json) : Arrival :=
  if method = "agent.wait" then
    match Exchange.textOf "runId" params, wholeOf "timeoutMs" params with
    | some runId, some windowMs => .wait runId windowMs
    | _, _ => .foreign
  else if method = "chat.history" then
    match Exchange.textOf "sessionKey" params with
    | some session => .history session
    | none => .foreign
  else .foreign

end Arrival

namespace Exchange

/-- The call that reaches the remote side in an exchange. -/
def arrival? : Exchange → Option Arrival
  | ⟨.invoke i, _⟩ => some (.ofTool i.tool)
  | ⟨.call c, _⟩ => some (.ofMethod c.method c.params)
  | _ => none

/-- What the remote side replies in an exchange. -/
def reply? : Exchange → Option (Reply Json)
  | ⟨.invoke _, reply⟩ => some reply
  | ⟨.call _, reply⟩ => some reply
  | _ => none

theorem arrival?_of_not_isCall (e : Exchange) (hc : e.question.isCall = false) :
    e.arrival? = none := by
  obtain ⟨q, a⟩ := e
  cases q <;> first | rfl | cases hc

theorem reply?_of_not_isCall (e : Exchange) (hc : e.question.isCall = false) :
    e.reply? = none := by
  obtain ⟨q, a⟩ := e
  cases q <;> first | rfl | cases hc

end Exchange

/-- The calls that reach the remote side, in order. -/
def arrivals (log : List Exchange) : List Arrival := log.filterMap Exchange.arrival?

/-- The replies of the remote side, in order. -/
def replies (log : List Exchange) : List (Reply Json) := log.filterMap Exchange.reply?

theorem arrivals_calls (log : List Exchange) : arrivals (calls log) = arrivals log :=
  filterMap_calls Exchange.arrival?_of_not_isCall log

theorem replies_calls (log : List Exchange) : replies (calls log) = replies log :=
  filterMap_calls Exchange.reply?_of_not_isCall log

@[simp] theorem arrivals_spawnRequest (r : Remote.SpawnRequest) (callId : CallId)
    (reply : Reply Json) (log : List Exchange) :
    arrivals (⟨.invoke (r.invocation callId), reply⟩ :: log) = .spawn :: arrivals log := rfl

@[simp] theorem arrivals_sendRequest (r : Remote.SendRequest) (callId : CallId)
    (reply : Reply Json) (log : List Exchange) :
    arrivals (⟨.invoke (r.invocation callId), reply⟩ :: log) = .send :: arrivals log := rfl

@[simp] theorem arrivals_wait (id : RunId) (windowMs : UInt64) (reply : Reply Json)
    (log : List Exchange) :
    arrivals (⟨.call (waitCall id windowMs), reply⟩ :: log) =
      .wait id.text windowMs.toNat :: arrivals log := rfl

@[simp] theorem arrivals_history (session : SessionKey) (limit timeoutMs : UInt64)
    (reply : Reply Json) (log : List Exchange) :
    arrivals (⟨.call (historyCall session limit timeoutMs), reply⟩ :: log) =
      .history session.text :: arrivals log := rfl

@[simp] theorem replies_invoke (i : Remote.Invocation) (reply : Reply Json)
    (log : List Exchange) : replies (⟨.invoke i, reply⟩ :: log) = reply :: replies log := rfl

@[simp] theorem replies_call (c : Remote.MethodCall) (reply : Reply Json)
    (log : List Exchange) : replies (⟨.call c, reply⟩ :: log) = reply :: replies log := rfl

/-! ## The budget -/

/-- An order that is refused before anybody is asked. -/
def SpawnOrder.IsRefused (o : SpawnOrder) : Prop :=
  Text.trim o.agent = "" ∨ Text.trim o.task = "" ∨ maxWaitMs < o.waitMs ∨ o.session = none

instance (o : SpawnOrder) : Decidable o.IsRefused :=
  inferInstanceAs (Decidable (_ ∨ _ ∨ _ ∨ _))

/-- Does the answer to a wait say that the run is over? -/
def endsRun (raw : Json) : Bool :=
  decide ((WaitOutcome.ofAnswer true raw).status ∈ [Status.completed, Status.failed])

/-- The session that is looked into once the run is over: that of the run, unless it has an output
that is not blank. -/
def RunRecord.sessionToRead (r : RunRecord) : Option SessionKey :=
  if r.output.all (Text.trim · = "") then r.childSessionKey else none

/-- A poll is one wait. If the answer ends the run and there is a session to read, its history is
read once. -/
def pollBudget (id : RunId) (windowMs : UInt64) (session : Option SessionKey)
    (replied : List (Reply Json)) : List Arrival :=
  .wait id.text windowMs.toNat ::
    match replied with
    | .ok raw :: _ => if endsRun raw then session.toList.map (.history ·.text) else []
    | _ => []

/-- What an order costs: nothing if it is refused, one message if it is to be sent, and else one
spawn; an accepted run is polled once if the order waits. -/
def SpawnOrder.budget (o : SpawnOrder) (replied : List (Reply Json)) : List Arrival :=
  if o.IsRefused then []
  else if o.useSessionsSend then [.send]
  else
    .spawn ::
      match replied with
      | [] => []
      | spawned :: later =>
        match Remote.spawnReply spawned with
        | .error _ => []
        | .ok a =>
          if o.waitMs = 0 then [] else pollBudget a.runId o.waitMs (some a.childSessionKey) later

/-- What a status query costs: nothing if the run is not known or over, and else one poll. -/
def Ledger.queryBudget (l : Ledger) (windowMs : UInt64) (q : String)
    (replied : List (Reply Json)) : List Arrival :=
  match l.get? q with
  | none => []
  | some r =>
    if r.status.isTerminal then [] else pollBudget r.runId windowMs r.sessionToRead replied

def Episode.budget (d : Dispatcher) (l : Ledger) : Episode → List (Reply Json) → List Arrival
  | .spawn order _ _, replied => order.budget replied
  | .status query _ _, replied => l.queryBudget d.config.statusPollMs query replied

/-- The operation was an order that is refused at once. -/
def Episode.IsRefusal : Episode → Prop
  | .spawn order _ _ => order.IsRefused
  | .status _ _ _ => False

/-! ## Refused orders -/

namespace SpawnOrder

variable {o : SpawnOrder}

theorem isRefused_of_error {f : Failure} (unchecked : o.checked = .error f) : o.IsRefused := by
  unfold checked at unchecked
  cases ha : (Name.parse? o.agent : Option AgentName) with
  | none => exact .inl (Name.parse?_eq_none_iff.1 ha)
  | some agent =>
    cases ht : Text.nonBlank? o.task with
    | none => exact .inr (.inl (Text.trim_eq_of_nonBlank? ht))
    | some task =>
      rw [ha, ht] at unchecked
      dsimp only at unchecked
      split at unchecked
      · rename_i long
        exact .inr (.inr (.inl long))
      · cases unchecked

theorem not_isRefused {agent : AgentName} {task : String} {session : Session}
    (checked : o.checked = .ok (agent, task)) (caller : o.session = some session) :
    ¬ o.IsRefused := by
  obtain ⟨named, solid, short⟩ := checked_eq_ok_iff.1 checked
  rintro (blank | blank | long | nobody)
  · exact (Name.parse?_eq_some_iff.1 named).2 blank
  · unfold Text.nonBlank? at solid
    rw [blank] at solid
    cases solid
  · exact short long
  · rw [caller] at nobody
    cases nobody

end SpawnOrder

/-! ## Polls -/

theorem endsRun_eq_true_iff {raw : Json} :
    endsRun raw = true ↔ (WaitOutcome.ofAnswer true raw).status ≠ .running := by
  have softened := Remote.status_ofAnswer_true raw
  unfold endsRun
  revert softened
  cases (WaitOutcome.ofAnswer true raw).status <;> decide

theorem sessionToRead_of_usable {r : RunRecord} {output : String}
    (usable : r.usableOutput? = some output) : r.sessionToRead = none := by
  obtain ⟨there, solid⟩ := Option.filter_eq_some_iff.1 usable
  have solid : Text.trim output ≠ "" := by simpa using solid
  unfold RunRecord.sessionToRead
  rw [there, if_neg]
  simpa using solid

theorem sessionToRead_of_unusable {r : RunRecord} (unusable : r.usableOutput? = none) :
    r.sessionToRead = r.childSessionKey := by
  unfold RunRecord.sessionToRead
  rw [if_pos]
  unfold RunRecord.usableOutput? at unusable
  cases ho : r.output with
  | none => rfl
  | some output =>
    rw [ho] at unusable
    simpa [Option.filter] using unusable

/-- What is read after an answer is what the budget of the poll has after the wait. -/
theorem arrivals_reading {t : Tracker} {r : RunRecord} {raw : Json} {reading : List Exchange}
    {output : Option String}
    (reads : t.Reads r (WaitOutcome.ofAnswer true raw).status reading output) :
    arrivals reading =
      if endsRun raw then r.sessionToRead.toList.map (.history ·.text) else [] := by
  generalize hs : (WaitOutcome.ofAnswer true raw).status = s at reads
  have finished (ended : s ≠ .running) : endsRun raw = true := endsRun_eq_true_iff.2 (hs ▸ ended)
  cases reads with
  | unfinished =>
    have going : ¬ endsRun raw = true := fun he => endsRun_eq_true_iff.1 he hs
    rw [if_neg going]
    rfl
  | kept ended usable =>
    rw [if_pos (finished ended), sessionToRead_of_usable usable]
    rfl
  | sessionless ended unusable nowhere =>
    rw [if_pos (finished ended), sessionToRead_of_unusable unusable, nowhere]
    rfl
  | history reply ended unusable there =>
    rw [if_pos (finished ended), sessionToRead_of_unusable unusable, there, arrivals_history]
    rfl

theorem arrivals_answered {t : Tracker} {r : RunRecord} {raw : Json} {reading : List Exchange}
    {output : Option String} (windowMs : UInt64)
    (reads : t.Reads r (WaitOutcome.ofAnswer true raw).status reading output)
    (later : List (Reply Json)) :
    arrivals (⟨.call (waitCall r.runId windowMs), .ok raw⟩ :: reading) =
      pollBudget r.runId windowMs r.sessionToRead (.ok raw :: later) := by
  rw [arrivals_wait, arrivals_reading reads]
  rfl

/-! ## Whole operations -/

variable {d : Dispatcher} {h h' : Host} {log : List Exchange}

/-- An accepted run is polled if the order waits, and not otherwise. -/
theorem arrivals_follows {agent : AgentName} {o : SpawnOrder} {a : Acceptance} {l l' : Ledger}
    {r : RunRecord} (follows : d.Follows agent o a l log r l') :
    arrivals (calls log) = if o.waitMs = 0 then []
      else pollBudget a.runId o.waitMs (some a.childSessionKey) (replies (calls log)) := by
  cases follows with
  | atOnce unwaited =>
    rw [if_pos unwaited]
    rfl
  | unanswered waited reason =>
    rw [if_neg waited]
    rfl
  | answered waited raw reads =>
    rw [if_neg waited, calls_answered reads rfl rfl, replies_call]
    exact arrivals_answered o.waitMs reads _

theorem arrivals_of_spawn {o : SpawnOrder} {env : Envelope SpawnResult}
    (course : Dispatcher.SpawnCourse d o h log env h') :
    arrivals log = o.budget (replies log) ∧ (o.IsRefused → log = []) := by
  rw [← arrivals_calls, ← replies_calls]
  cases course with
  | refused unchecked =>
    refine ⟨?_, fun _ => rfl⟩
    unfold SpawnOrder.budget
    rw [if_pos (SpawnOrder.isRefused_of_error unchecked)]
    rfl
  | sessionless _ nobody =>
    refine ⟨?_, fun _ => rfl⟩
    unfold SpawnOrder.budget
    rw [if_pos (.inr (.inr (.inr nobody)))]
    rfl
  | sent checked caller augments sends reply =>
    have passed := SpawnOrder.not_isRefused checked caller
    refine ⟨?_, fun refused => absurd refused passed⟩
    unfold SpawnOrder.budget
    rw [calls_behind augments.isMemory, if_neg passed, if_pos sends, arrivals_sendRequest]
    rfl
  | refusedThere checked caller augments spawns refusal =>
    have passed := SpawnOrder.not_isRefused checked caller
    refine ⟨?_, fun refused => absurd refused passed⟩
    unfold SpawnOrder.budget
    rw [calls_behind augments.isMemory, if_neg passed, spawns, if_neg Bool.false_ne_true,
      arrivals_spawnRequest, replies_invoke]
    dsimp only
    rw [refusal]
    rfl
  | taken checked caller augments spawns acceptance follows remembers =>
    have passed := SpawnOrder.not_isRefused checked caller
    refine ⟨?_, fun refused => absurd refused passed⟩
    obtain ⟨memory, -⟩ := Dispatcher.performs_persisted remembers
    unfold SpawnOrder.budget
    rw [calls_between augments.isMemory memory, if_neg passed, spawns, if_neg Bool.false_ne_true,
      arrivals_spawnRequest, replies_invoke]
    dsimp only
    rw [acceptance, arrivals_follows follows]

theorem arrivals_of_status {q : String} {env : Envelope StatusReport}
    (course : Dispatcher.StatusCourse d q h log env h') :
    arrivals log = h.ledger.queryBudget d.config.statusPollMs q (replies log) := by
  have asked {id : String} {found : Option RunRecord} (named : Text.nonBlank? q = some id)
      (known : h.ledger.get? id = found) : h.ledger.get? q = found := by
    obtain ⟨-, -, hid, hq⟩ := Ledger.get?_of_nonBlank? named h.ledger
    rw [hq, ← hid, known]
  rw [← arrivals_calls, ← replies_calls]
  unfold Ledger.queryBudget
  cases course with
  | blank blank =>
    have nowhere : h.ledger.get? q = none := by
      unfold Ledger.get?
      rw [Name.parse?_eq_none_iff.2 (Text.trim_eq_of_nonBlank? blank)]
      rfl
    rw [nowhere]
    rfl
  | unknown named missing =>
    rw [asked named missing]
    rfl
  | ended named known terminal =>
    rw [asked named known]
    dsimp only
    rw [terminal]
    rfl
  | unanswered named known unfinished reason =>
    rw [asked named known]
    dsimp only
    rw [unfinished]
    rfl
  | answered named known unfinished raw reads =>
    rw [asked named known, calls_answered reads rfl rfl, replies_call]
    dsimp only
    rw [unfinished, if_neg Bool.false_ne_true]
    exact arrivals_answered d.config.statusPollMs reads _

/-- The calls of an operation are its budget, whatever the state of the host and whatever is
replied; for an order that is refused at once nobody is asked anything. -/
theorem arrivals_eq_budget (real : d.config.backend = .real) {e : Episode}
    (happens : e.Happens d h h') :
    arrivals e.log = e.budget d h.ledger (replies e.log) ∧ (e.IsRefusal → e.log = []) := by
  cases e with
  | spawn order log env => exact arrivals_of_spawn ((Dispatcher.performs_spawn real).1 happens)
  | status query log env =>
    exact ⟨arrivals_of_status ((Dispatcher.performs_status real).1 happens), False.elim⟩

/-- The run is over within the first wait. -/
theorem arrivals_eq_budget_sample : ∃ log env h',
    (Episode.spawn Sample.order log env).Happens Sample.dispatcher (.ofConfig {}) h' ∧
    arrivals log = [.spawn, .wait "r-1" 1000, .history "child"] := by
  have checked : Sample.order.checked = .ok (⟨"technical"⟩, "fix it") := rfl
  have accepted : Remote.spawnReply (.ok Sample.taken) = .ok Sample.acceptance := rfl
  have course : Dispatcher.SpawnCourse Sample.dispatcher Sample.order (.ofConfig {}) _ _ _ :=
    .taken checked rfl (.plain rfl) rfl accepted
      (.answered (by decide) Sample.ended (.history (.ok Sample.history) (by decide) rfl rfl))
      (.done _ _)
  have happens : (Episode.spawn Sample.order _ _).Happens Sample.dispatcher (.ofConfig {}) _ :=
    (Dispatcher.performs_spawn rfl).2 course
  exact ⟨_, _, _, happens, (arrivals_eq_budget rfl happens).1⟩

end Delegation
