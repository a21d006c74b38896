import Delegation.Proofs.Asking
import Delegation.Proofs.Budget
import Delegation.Proofs.Frame

/-!
# Deadlines cover windows

A remote call that may take long names the time that the remote side has for it: a wait in
milliseconds, a spawn and a message in whole seconds. The deadline on this side is computed in
another way, and must not come first. `Timed` says of a single question which time it names and
how its deadline covers that, and `timed_of_asks` that an operation asks no other questions. It does
not matter who answers them, so this also holds of operations that overlap. The times are words, and
the bounds are those of the numbers that they stand for: nothing wraps around.
-/

namespace Delegation

open Procedure (AsksOnly asksOnly_pure asksOnly_asking)

/-! ## Windows and deadlines -/

/-- A deadline that covers a window: two seconds more, or the greatest word if that is beyond it. -/
structure Covers (deadline window : UInt64) : Prop where
  le : window.toNat ≤ deadline.toNat
  margin : deadline.toNat = window.toNat + 2000 ∨
    deadline.toNat = wordMax ∧ wordMax < window.toNat + 2000

/-- Whole seconds for a time in milliseconds: the least number that reaches it, but one at least. -/
structure Seconds (s : Nat) (ms : UInt64) : Prop where
  pos : 1 ≤ s
  le : ms.toNat ≤ 1000 * s
  lt : 0 < ms.toNat → 1000 * s < ms.toNat + 1000
  one : ms.toNat = 0 → s = 1

theorem covers_withMargin (ms : UInt64) : Covers (Remote.withMargin ms) ms := by
  have word : ms.toNat ≤ wordMax := Nat.le_of_lt_succ ms.toNat_lt
  have deadline := Remote.toNat_withMargin ms
  unfold Remote.safetyMarginMs at deadline
  constructor <;> omega

theorem seconds_windowSeconds (ms : UInt64) : Seconds (Remote.windowSeconds ms).toNat ms := by
  have seconds := Remote.toNat_windowSeconds ms
  constructor <;> omega

/-- The seconds are rounded up by less than one, and the margin is two. -/
theorem Seconds.outlasted {s : Nat} {ms deadline : UInt64} (seconds : Seconds s ms)
    (covers : Covers deadline ms) (unclamped : ms.toNat + 2000 ≤ wordMax) :
    1000 * s + 1000 ≤ deadline.toNat := by
  have margin : deadline.toNat = ms.toNat + 2000 := by
    rcases covers.margin with whole | ⟨-, clamped⟩
    · exact whole
    · omega
  -- no time at all is rounded up by a whole second, and only the margin is left of the deadline
  rcases Nat.eq_zero_or_pos ms.toNat with zero | pos
  · have one := seconds.one zero
    omega
  · have rounded := seconds.lt pos
    omega

/-! ## Timed questions -/

/-- What the remote side is given time for. -/
inductive Errand where
  | wait
  | run
  | message

/-- The times that an operation gives, in milliseconds. A message that is waited for may take as
long as that; another one has the time of a run. -/
def Operation.timeFor (d : Dispatcher) : Operation → Errand → Option UInt64
  | .spawn o, .wait => some o.waitMs
  | .spawn o, .run => some (o.timeoutMs.getD d.config.runTimeoutMs)
  | .spawn o, .message =>
    some (if o.waitMs = 0 then o.timeoutMs.getD d.config.runTimeoutMs else o.waitMs)
  | .status _, .wait => some d.config.statusPollMs
  | .status _, _ => none

/-- The time that a question names is the one that was asked for, and its deadline covers it. -/
inductive Timed (time : Errand → Option UInt64) : Question → Prop
  | wait {c : Remote.MethodCall} {window : UInt64} (named : c.method = "agent.wait")
    (wanted : time .wait = some window)
    (told : Arrival.wholeOf "timeoutMs" c.params = some (window.toNat : Int))
    (covers : Covers c.timeoutMs window) : Timed time (.call c)
  /-- To read a history takes no window. -/
  | history {c : Remote.MethodCall} (named : c.method = "chat.history") : Timed time (.call c)
  | run {i : Remote.Invocation} {ms : UInt64} {s : Nat} (named : i.tool = "sessions_spawn")
    (wanted : time .run = some ms)
    (told : Arrival.wholeOf "runTimeoutSeconds" i.args = some (s : Int))
    (seconds : Seconds s ms) : Timed time (.invoke i)
  | message {i : Remote.Invocation} {ms deadline : UInt64} {s : Nat}
    (named : i.tool = "sessions_send") (wanted : time .message = some ms)
    (told : Arrival.wholeOf "timeoutSeconds" i.args = some (s : Int)) (seconds : Seconds s ms)
    (timed : i.timeoutMs = some deadline) (covers : Covers deadline ms)
    (outlasted : ms.toNat + 2000 ≤ wordMax → 1000 * s + 1000 ≤ deadline.toNat) :
    Timed time (.invoke i)
  /-- Nothing is asked of the remote side. -/
  | aside {q : Question} (here : q.isCall = false) : Timed time q

variable {time : Errand → Option UInt64}

theorem timed_waitCall {ms : UInt64} (wanted : time .wait = some ms) (id : RunId) :
    Timed time (.call (Remote.waitCall id ms)) :=
  .wait rfl wanted rfl (covers_withMargin ms)

theorem timed_spawnRequest {r : Remote.SpawnRequest} (wanted : time .run = some r.runTimeoutMs)
    (callId : CallId) : Timed time (.invoke (r.invocation callId)) :=
  .run rfl wanted rfl (seconds_windowSeconds r.runTimeoutMs)

theorem timed_sendRequest {r : Remote.SendRequest} (wanted : time .message = some r.timeoutMs)
    (callId : CallId) : Timed time (.invoke (r.invocation callId)) :=
  have seconds := seconds_windowSeconds r.timeoutMs
  have covers := covers_withMargin r.timeoutMs
  .message rfl wanted rfl seconds rfl covers (seconds.outlasted covers)

/-! ## Calls of the remote side -/

namespace Remote

theorem asksOnly_wait {ms : UInt64} (wanted : time .wait = some ms) (id : RunId) (soft : Bool) :
    (wait id ms soft).AsksOnly (Timed time) :=
  (asksOnly_asking (timed_waitCall wanted id)).map _

theorem asksOnly_spawn {r : SpawnRequest} (wanted : time .run = some r.runTimeoutMs) :
    (spawn r).AsksOnly (Timed time) := by
  refine (asksOnly_asking (.aside rfl)).bind fun callId =>
    (asksOnly_asking (timed_spawnRequest wanted callId)).bind fun reply => ?_
  cases reply <;> exact asksOnly_pure _

theorem asksOnly_send {r : SendRequest} (wanted : time .message = some r.timeoutMs) :
    (send r).AsksOnly (Timed time) := by
  refine (asksOnly_asking (.aside rfl)).bind fun callId =>
    (asksOnly_asking (timed_sendRequest wanted callId)).bind fun reply => ?_
  cases reply <;> exact asksOnly_pure _

end Remote

namespace Tracker

variable {t : Tracker} {r : RunRecord}

theorem asksOnly_pollOnce {windowMs : UInt64} (wanted : time .wait = some windowMs) (soft : Bool) :
    (t.pollOnce r windowMs soft).AsksOnly (Timed time) := by
  rw [pollOnce_eq]
  refine (Remote.asksOnly_wait wanted r.runId soft).bind fun x => ?_
  cases x with
  | error reason => exact asksOnly_pure _
  | ok outcome =>
    exact (asksOnly_outputFor outcome.status fun _ => .history rfl).bind fun output =>
      (asksOnly_asking (.aside rfl)).map _

theorem asksOnly_reconcile (wanted : time .wait = some t.windowMs) (runId : String) :
    (t.reconcile runId).AsksOnly (Timed time) := by
  refine (asksOnly_asking (.aside rfl)).bind fun found => ?_
  cases found with
  | none => exact asksOnly_pure _
  | some r =>
    dsimp only
    split
    · exact asksOnly_pure _
    · exact (asksOnly_pollOnce wanted true).map _

end Tracker

/-! ## Operations -/

namespace Dispatcher

variable {d : Dispatcher} {o : SpawnOrder} {agent : AgentName}

theorem asksOnly_augmented (task : String) : (d.augmented o task).AsksOnly (Timed time) := by
  unfold augmented
  split
  · exact (asksOnly_asking (.aside rfl)).map _
  · exact asksOnly_pure _

theorem asksOnly_remember (task output : String) (runId : Option RunId) :
    (remember agent task output runId).AsksOnly (Timed time) := by
  refine (asksOnly_asking (.aside rfl)).bind fun stored => ?_
  cases stored with
  | error reason => exact asksOnly_pure _
  | ok entryId => exact (asksOnly_asking (.aside rfl)).map _

theorem asksOnly_memoryReport (task : String) (r : SpawnResult) :
    (d.memoryReport agent task r).AsksOnly (Timed time) := by
  unfold memoryReport
  split
  · exact asksOnly_pure _
  · split
    · exact asksOnly_pure _
    · split
      · split
        · exact asksOnly_pure _
        · exact asksOnly_remember _ _ _
      · exact asksOnly_pure _

theorem asksOnly_persisted (task : String) (r : SpawnResult) :
    (d.persisted o agent task r).AsksOnly (Timed time) := by
  unfold persisted
  split
  · exact (asksOnly_memoryReport task r).map _
  · exact asksOnly_pure _

theorem asksOnly_spawnSimulated (task : String) :
    (spawnSimulated agent task o).AsksOnly (Timed time) := by
  refine (asksOnly_asking (.aside rfl)).bind fun started => ?_
  cases started with
  | error => exact asksOnly_pure _
  | ok r =>
    dsimp only
    split
    · exact asksOnly_pure _
    · exact (asksOnly_asking (.aside rfl)).map _

theorem asksOnly_follow (wanted : time .wait = some o.waitMs) (a : Remote.Acceptance) :
    (d.follow agent o a).AsksOnly (Timed time) := by
  refine (asksOnly_asking (.aside rfl)).bind fun entered => ?_
  cases entered with
  | none => exact asksOnly_pure _
  | some r =>
    dsimp only
    split
    · exact asksOnly_pure _
    · exact (Tracker.asksOnly_pollOnce wanted true).map _

theorem asksOnly_spawnRemote (waits : time .wait = some o.waitMs)
    (runs : time .run = some (d.runTimeoutMs o)) (task : String) (session : Session) :
    (d.spawnRemote agent task session o).AsksOnly (Timed time) := by
  refine (Remote.asksOnly_spawn runs).bind fun x => ?_
  cases x with
  | error f => exact asksOnly_pure _
  | ok a => exact asksOnly_follow waits a

theorem asksOnly_finish (task : String) (x : Except Failure SpawnResult) :
    (d.finish o agent task x).AsksOnly (Timed time) := by
  cases x with
  | error f => exact asksOnly_pure _
  | ok r => exact (asksOnly_persisted task r).map _

theorem asksOnly_carryOut (task : String) :
    (d.carryOut o agent task).AsksOnly (Timed (Operation.timeFor d (.spawn o))) := by
  unfold carryOut
  split
  · exact (asksOnly_augmented task).bind fun message =>
      (asksOnly_spawnSimulated message).bind (asksOnly_finish task)
  · exact asksOnly_pure _
  · refine (asksOnly_augmented task).bind fun message => ?_
    split
    · exact ((Remote.asksOnly_send rfl).map _).map _
    · exact (asksOnly_spawnRemote rfl rfl message _).bind (asksOnly_finish task)

theorem asksOnly_spawn : (d.spawn o).AsksOnly (Timed (Operation.timeFor d (.spawn o))) := by
  unfold spawn
  split
  · exact asksOnly_pure _
  · refine (asksOnly_carryOut _).bind fun x => ?_
    cases x <;> exact asksOnly_pure _

theorem asksOnly_lookUp (query runId : String) :
    (d.lookUp runId).AsksOnly (Timed (Operation.timeFor d (.status query))) := by
  unfold lookUp
  split
  · exact (asksOnly_asking (.aside rfl)).map _
  · exact Tracker.asksOnly_reconcile rfl runId

theorem asksOnly_status (query : String) :
    (d.status query).AsksOnly (Timed (Operation.timeFor d (.status query))) := by
  unfold status
  split
  · exact asksOnly_pure _
  · refine (asksOnly_lookUp query _).bind fun x => ?_
    split <;> exact asksOnly_pure _

end Dispatcher

/-- Whatever an operation is answered, each of its calls names the time that was asked for, rounded
up to whole seconds or not at all, and no deadline comes before the time is over. -/
theorem timed_of_asks {d : Dispatcher} {op : Operation} {log : List Exchange} {q : Question}
    (asked : (op.outcome d).Asks log q) : Timed (op.timeFor d) q := by
  cases op with
  | spawn o => exact (Dispatcher.asksOnly_spawn.map _) _ _ asked
  | status query => exact ((Dispatcher.asksOnly_status query).map _) _ _ asked

/-- A message that is not waited for, with the longest time whose margin is not clamped. -/
def Sample.patient : SpawnOrder where
  agent := "technical"
  task := "fix it"
  timeoutMs := some 18446744073709549615
  useSessionsSend := true
  session := some (.ofKey ⟨"main"⟩)

/-- The deadline is the greatest word, and the seconds, rounded up, are over before it. -/
theorem timed_of_asks_sample :
    ∃ log i deadline,
      ((Operation.spawn Sample.patient).outcome Sample.dispatcher).Asks log (.invoke i) ∧
      Arrival.wholeOf "timeoutSeconds" i.args = some 18446744073709550 ∧
      i.timeoutMs = some deadline ∧ deadline.toNat = wordMax ∧
      1000 * 18446744073709550 + 1000 ≤ deadline.toNat := by
  have course : Dispatcher.SpawnCourse Sample.dispatcher Sample.patient (.ofConfig {}) _ _ _ :=
    .sent rfl rfl (.plain rfl) rfl (.error "reset")
  have performed : Host.Performs (.ofConfig {})
      ((Operation.spawn Sample.patient).outcome Sample.dispatcher) _ _ _ :=
    Host.performs_map.2 ⟨_, (Dispatcher.performs_spawn rfl).2 course, rfl⟩
  have asked : ((Operation.spawn Sample.patient).outcome Sample.dispatcher).Asks [_] _ :=
    Procedure.asks_of_performs performed
  cases timed_of_asks asked with
  | run named => exact absurd named (by decide)
  | @message _ ms deadline s named wanted told seconds timed covers outlasted =>
    have time : ms.toNat = 18446744073709549615 := by
      cases wanted
      rfl
    have reached := seconds.le
    have rounded := seconds.lt (by omega)
    obtain rfl : s = 18446744073709550 := by omega
    have deadline_eq : deadline.toNat = wordMax := by
      rcases covers.margin with whole | ⟨greatest, -⟩
      · rw [whole, time]
        rfl
      · exact greatest
    exact ⟨_, _, deadline, asked, told, timed, deadline_eq, outlasted (by rw [time]; decide)⟩
  | aside here => cases here

end Delegation
