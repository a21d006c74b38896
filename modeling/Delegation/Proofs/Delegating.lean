import Delegation.Proofs.Bookkeeping

/-!
# How an operation of the dispatcher goes

`SpawnCourse` lists the ways in which a spawn on the remote side can go: it is refused, or sent as
a message, or not taken on, or taken on and then followed (`Follows`): entered into the ledger,
waited for if that is wanted, and remembered. `StatusCourse` does the same for a status query.
`performs_spawn` and `performs_status` say that there are no other ways, so what an operation asks,
answers and writes is settled by going through the courses once.
-/

namespace Delegation

open Remote (Acceptance SendOutcome waitCall)

variable {h h' : Host} {log : List Exchange}

namespace Question

/-- Is a question one to the memory? -/
def isMemory : Question → Bool
  | .search _ _ _ => true
  | .store _ => true
  | .capture _ _ _ => true
  | _ => false

theorem keepsLedger_of_isMemory {q : Question} (hq : q.isMemory = true) :
    q.keepsLedger = true := by
  cases q <;> first | rfl | exact absurd hq Bool.false_ne_true

end Question

namespace Remote

/-- What a reply to the invocation of a spawn comes to. -/
def spawnReply : Reply Json → Except Failure Acceptance
  | .ok raw => Acceptance.ofAnswer (unwrapped raw)
  | .error reason => .error (.spawnTransport reason)

/-- What a reply to the invocation of a send comes to. -/
def sendReply : Reply Json → SendOutcome
  | .ok raw => .ofAnswer (unwrapped raw)
  | .error reason => .unreachable reason

/-- The exchanges of an invocation under a fresh name. -/
def invoking (h : Host) (tool : Tool) (invocation : CallId → Invocation) (reply : Reply Json) :
    List Exchange :=
  [⟨.mint tool, Supply.invocation tool h.supply⟩,
    ⟨.invoke (invocation (Supply.invocation tool h.supply)), reply⟩]

/-- A fresh name, an invocation under it, and what is made of the reply. -/
theorem performs_invoking {α : Type} {tool : Tool} {invocation : CallId → Invocation}
    {read : Reply Json → α} {x : α} :
    h.Performs (.mint tool >>= fun callId => .invoke (invocation callId) >>= fun reply =>
        pure (read reply)) log x h' ↔
      ∃ reply, log = invoking h tool invocation reply ∧ x = read reply ∧ h' = h.renewed := by
  rw [Host.performs_bind]
  constructor
  · rintro ⟨log₁, callId, h₁, log₂, hm, hi, rfl⟩
    obtain ⟨rfl, answered⟩ := Host.performs_asking.1 hm
    obtain ⟨rfl, rfl⟩ := Host.answers_mint.1 answered
    obtain ⟨reply, ha, rfl⟩ := Host.performs_map.1 hi
    obtain ⟨rfl, answered⟩ := Host.performs_asking.1 ha
    exact ⟨reply, rfl, rfl, Host.answers_invoke.1 answered⟩
  · rintro ⟨reply, rfl, rfl, rfl⟩
    refine ⟨_, _, h.renewed, _, Host.performs_asking.2 ⟨rfl, Host.answers_mint.2 ⟨rfl, rfl⟩⟩,
      Host.performs_map.2 ⟨reply, Host.performs_asking.2 ⟨rfl, ?_⟩, rfl⟩, rfl⟩
    exact Host.answers_invoke.2 rfl

theorem spawn_eq (r : SpawnRequest) :
    spawn r = (.mint .spawn >>= fun callId => .invoke (r.invocation callId) >>= fun reply =>
      pure (spawnReply reply)) := by
  unfold spawn
  congr 1
  funext callId
  congr 1
  funext reply
  cases reply <;> rfl

theorem send_eq (r : SendRequest) :
    send r = (.mint .send >>= fun callId => .invoke (r.invocation callId) >>= fun reply =>
      pure (sendReply reply)) := by
  unfold send
  congr 1
  funext callId
  congr 1
  funext reply
  cases reply <;> rfl

theorem performs_spawn {r : SpawnRequest} {x : Except Failure Acceptance} :
    h.Performs (spawn r) log x h' ↔
      ∃ reply, log = invoking h .spawn r.invocation reply ∧ x = spawnReply reply ∧
        h' = h.renewed := by
  rw [spawn_eq, performs_invoking]

theorem performs_send {r : SendRequest} {x : SendOutcome} :
    h.Performs (send r) log x h' ↔
      ∃ reply, log = invoking h .send r.invocation reply ∧ x = sendReply reply ∧
        h' = h.renewed := by
  rw [send_eq, performs_invoking]

theorem parse?_of_textField {answer : Entries} {key text : String} {kind : NameKind}
    (hf : textField answer key = some text) :
    (Name.parse? text : Option (Name kind)) = some ⟨text⟩ := by
  obtain ⟨s, -, hs⟩ := Option.bind_eq_some_iff.1 hf
  have parsed : (Name.parse? s : Option (Name kind)) = some ⟨text⟩ := by
    unfold Name.parse?
    rw [hs]
    rfl
  exact Name.parse?_text parsed

/-- Both names in an acceptance are trimmed, and not blank. -/
theorem parse?_of_spawnReply {reply : Reply Json} {a : Acceptance} (ha : spawnReply reply = .ok a) :
    Name.parse? a.runId.text = some a.runId ∧
      Name.parse? a.childSessionKey.text = some a.childSessionKey := by
  cases reply with
  | error reason => cases ha
  | ok raw =>
    unfold spawnReply Acceptance.ofAnswer at ha
    dsimp only at ha
    split at ha
    · cases ha
    · split at ha
      · rename_i runId key hr hk
        split at ha
        · cases ha
          exact ⟨parse?_of_textField hr, parse?_of_textField hk⟩
        · cases ha
      · cases ha

end Remote

/-! ## The parts of a spawn -/

theorem SpawnOrder.checked_eq_ok_iff {o : SpawnOrder} {agent : AgentName} {task : String} :
    o.checked = .ok (agent, task) ↔
      Name.parse? o.agent = some agent ∧ Text.nonBlank? o.task = some task ∧
        ¬ maxWaitMs < o.waitMs := by
  unfold checked
  cases Name.parse? o.agent with
  | none => simp
  | some a =>
    cases Text.nonBlank? o.task with
    | none => simp
    | some t =>
      by_cases hw : maxWaitMs < o.waitMs
      · simp [hw]
      · simp [hw]

namespace Dispatcher

variable {d : Dispatcher} {o : SpawnOrder} {agent : AgentName} {task : String}

/-- How a task is enriched before it is delegated: not at all, or by one search. -/
inductive Augments (d : Dispatcher) (o : SpawnOrder) (task : String) :
    List Exchange → String → Prop
  | plain (unwanted : (d.hasMemory && o.wantsRecall.getD d.config.recalling.enabled) = false) :
    Augments d o task [] task
  | searched (wanted : (d.hasMemory && o.wantsRecall.getD d.config.recalling.enabled) = true)
      (answer : Reply (List MemoryHit)) :
    Augments d o task
      [⟨.search task d.config.recalling.topK d.config.recalling.minScore, answer⟩]
      (Recall.enriched task answer)

theorem performs_augmented {message : String} :
    h.Performs (d.augmented o task) log message h' ↔ d.Augments o task log message ∧ h' = h := by
  unfold augmented
  cases hw : d.hasMemory && o.wantsRecall.getD d.config.recalling.enabled with
  | false =>
    rw [if_neg Bool.false_ne_true, Host.performs_pure]
    constructor
    · rintro ⟨rfl, rfl, rfl⟩
      exact ⟨.plain hw, rfl⟩
    · rintro ⟨augments, rfl⟩
      cases augments with
      | plain => exact ⟨rfl, rfl, rfl⟩
      | searched wanted => rw [hw] at wanted; cases wanted
  | true =>
    rw [if_pos rfl]
    unfold Recall.augment
    rw [Host.performs_map]
    constructor
    · rintro ⟨answer, hp, rfl⟩
      obtain ⟨rfl, answered⟩ := Host.performs_asking.1 hp
      exact ⟨.searched hw answer, Host.answers_search.1 answered⟩
    · rintro ⟨augments, rfl⟩
      cases augments with
      | plain unwanted => rw [hw] at unwanted; cases unwanted
      | searched _ answer =>
        exact ⟨answer, Host.performs_asking.2 ⟨rfl, Host.answers_search.2 rfl⟩, rfl⟩

theorem Augments.isMemory {message : String} (ha : d.Augments o task log message) :
    ∀ e ∈ log, e.question.isMemory = true := by
  cases ha with
  | plain => intro e he; cases he
  | searched => intro e he; cases List.mem_singleton.1 he; rfl

theorem isMemory_of_remember {output : String} {runId : Option RunId} {report : MemoryReport}
    (hp : h.Performs (remember agent task output runId) log report h') :
    ∀ e ∈ log, e.question.isMemory = true := by
  obtain ⟨log₁, stored, h₁, log₂, hs, hc, rfl⟩ := Host.performs_bind.1 hp
  obtain ⟨rfl, -⟩ := Host.performs_asking.1 hs
  cases stored with
  | error reason =>
    obtain ⟨rfl, -, -⟩ := Host.performs_pure.1 hc
    intro e he
    cases List.mem_singleton.1 he
    rfl
  | ok entryId =>
    obtain ⟨captured, ha, -⟩ := Host.performs_map.1 hc
    obtain ⟨rfl, -⟩ := Host.performs_asking.1 ha
    intro e he
    rcases List.mem_cons.1 he with rfl | he
    · rfl
    · cases List.mem_singleton.1 he
      rfl

theorem isMemory_of_memoryReport {r : SpawnResult} {report : MemoryReport}
    (hp : h.Performs (d.memoryReport agent task r) log report h') :
    ∀ e ∈ log, e.question.isMemory = true := by
  have silent {reason : String} (hs : h.Performs (pure (.skipped reason)) log report h') :
      ∀ e ∈ log, e.question.isMemory = true := by
    obtain ⟨rfl, -, -⟩ := Host.performs_pure.1 hs
    intro e he
    cases he
  unfold memoryReport at hp
  split at hp
  · exact silent hp
  · split at hp
    · exact silent hp
    · split at hp
      · split at hp
        · exact silent hp
        · exact isMemory_of_remember hp
      · exact silent hp

/-- Only the memory is asked when a result is remembered, and only the result's memory part
changes. -/
theorem performs_persisted {r r' : SpawnResult}
    (hp : h.Performs (d.persisted o agent task r) log r' h') :
    (∀ e ∈ log, e.question.isMemory = true) ∧ ∃ memory, r' = { r with memory } := by
  unfold persisted at hp
  split at hp
  · obtain ⟨report, hr, rfl⟩ := Host.performs_map.1 hp
    exact ⟨isMemory_of_memoryReport hr, some report, rfl⟩
  · obtain ⟨rfl, rfl, -⟩ := Host.performs_pure.1 hp
    exact ⟨fun _ he => (nomatch he), r'.memory, rfl⟩

/-! ## Following an accepted run -/

/-- The record of a run that was accepted and not polled yet. -/
def acceptedRecord (agent : AgentName) (a : Acceptance) : RunRecord where
  runId := a.runId
  agent := agent
  status := .accepted
  childSessionKey := some a.childSessionKey
  output := none
  error := none
  startedAt := none
  endedAt := none
  durationMs := none

theorem record?_acceptedReport {a : Acceptance}
    (hr : Name.parse? a.runId.text = some a.runId)
    (hk : Name.parse? a.childSessionKey.text = some a.childSessionKey)
    (hagent : Text.trim agent.text = agent.text) :
    (acceptedReport agent a).record? = some (acceptedRecord agent a) := by
  have status : statusOrRunning (some Status.accepted.text) = .accepted := rfl
  simp only [RunReport.record?, acceptedReport, acceptedRecord, hr, hk, hagent, status,
    Option.map_some, Option.bind_some, Option.map_none, Option.none_or, elapsed?]

/-- How an accepted run is followed: what is exchanged, the record that is answered with, and the
ledger. -/
inductive Follows (d : Dispatcher) (agent : AgentName) (o : SpawnOrder) (a : Acceptance)
    (l : Ledger) : List Exchange → RunRecord → Ledger → Prop
  | atOnce (unwaited : o.waitMs = 0) :
    Follows d agent o a l [⟨.enter (acceptedReport agent a), some (acceptedRecord agent a)⟩]
      (acceptedRecord agent a) (l.put (acceptedRecord agent a))
  /-- The wait failed; the run stays as it was entered. -/
  | unanswered (waited : o.waitMs ≠ 0) (reason : String) :
    Follows d agent o a l
      [⟨.enter (acceptedReport agent a), some (acceptedRecord agent a)⟩,
        ⟨.call (waitCall a.runId o.waitMs), .error reason⟩]
      (acceptedRecord agent a) (l.put (acceptedRecord agent a))
  | answered {reading : List Exchange} {output : Option String} (waited : o.waitMs ≠ 0)
    (raw : Json)
    (reads : d.tracker.Reads (acceptedRecord agent a) (Remote.WaitOutcome.ofAnswer true raw).status
      reading output) :
    Follows d agent o a l
      (⟨.enter (acceptedReport agent a), some (acceptedRecord agent a)⟩ ::
        ⟨.call (waitCall a.runId o.waitMs), .ok raw⟩ :: (reading ++
          [⟨.amend a.runId.text (Tracker.news (.ofAnswer true raw) output),
            some (Tracker.polled (acceptedRecord agent a) (.ofAnswer true raw) output)⟩]))
      (Tracker.polled (acceptedRecord agent a) (.ofAnswer true raw) output)
      ((l.put (acceptedRecord agent a)).put
        (Tracker.polled (acceptedRecord agent a) (.ofAnswer true raw) output))

namespace Follows

variable {a : Acceptance} {l l' : Ledger} {r : RunRecord}

theorem runId_eq (follows : d.Follows agent o a l log r l') : r.runId = a.runId := by
  cases follows <;> rfl

/-- A run that is followed is the only one whose record is written. -/
theorem find?_of_ne (follows : d.Follows agent o a l log r l') {id : RunId} (other : a.runId ≠ id) :
    l'.find? id = l.find? id := by
  have entered : (l.put (acceptedRecord agent a)).find? id = l.find? id :=
    Ledger.find?_put_of_ne (r := acceptedRecord agent a) other l
  cases follows with
  | atOnce | unanswered => exact entered
  | answered _ raw =>
    rw [← entered]
    exact Ledger.find?_put_of_ne (r := Tracker.polled (acceptedRecord agent a) _ _) other _

end Follows

theorem performs_follow {a : Acceptance} {x : Except Failure SpawnResult}
    (hr : Name.parse? a.runId.text = some a.runId)
    (hk : Name.parse? a.childSessionKey.text = some a.childSessionKey)
    (hagent : Text.trim agent.text = agent.text) :
    h.Performs (d.follow agent o a) log x h' ↔
      ∃ r l, d.Follows agent o a h.ledger log r l ∧ x = .ok (.ofRecord r .real a.warning) ∧
        h' = { h with ledger := l } := by
  have entered : h.ledger.upsert (acceptedReport agent a) =
      (some (acceptedRecord agent a), h.ledger.put (acceptedRecord agent a)) := by
    unfold Ledger.upsert
    rw [record?_acceptedReport hr hk hagent]
  have stored : ({ h with ledger := h.ledger.put (acceptedRecord agent a) } : Host).ledger.get?
      (acceptedRecord agent a).runId.text = some (acceptedRecord agent a) :=
    (Ledger.get?_of_parse? hr).trans (Ledger.find?_put_self (acceptedRecord agent a) h.ledger)
  unfold follow
  rw [Host.performs_bind]
  constructor
  · rintro ⟨log₁, found, h₁, log₂, he, hn, rfl⟩
    obtain ⟨rfl, answered⟩ := Host.performs_asking.1 he
    obtain ⟨rfl, rfl⟩ := Host.answers_enter.1 answered
    rw [entered] at hn ⊢
    by_cases hw : o.waitMs = 0
    · simp only [hw, if_true] at hn
      obtain ⟨rfl, rfl, rfl⟩ := Host.performs_pure.1 hn
      exact ⟨_, _, .atOnce hw, rfl, rfl⟩
    · simp only [hw, if_false] at hn
      obtain ⟨y, hy, rfl⟩ := Host.performs_map.1 hn
      rcases Tracker.performs_pollOnce.1 hy with ⟨reason, rfl, rfl, rfl⟩ | ⟨raw, rest, hs, rfl⟩
      · exact ⟨_, _, .unanswered hw reason, rfl, rfl⟩
      · obtain ⟨reading, output, reads, rfl, rfl, rfl⟩ :=
          (Tracker.performs_settle_of_get? stored).1 hs
        exact ⟨_, _, .answered hw raw reads, rfl, rfl⟩
  · rintro ⟨r, l, follows, rfl, rfl⟩
    have asked : h.Performs (.enter (acceptedReport agent a))
        [⟨.enter (acceptedReport agent a), some (acceptedRecord agent a)⟩]
        (some (acceptedRecord agent a))
        { h with ledger := h.ledger.put (acceptedRecord agent a) } := by
      refine Host.performs_asking.2 ⟨rfl, Host.answers_enter.2 ?_⟩
      rw [entered]
      exact ⟨rfl, rfl⟩
    cases follows with
    | atOnce unwaited =>
      refine ⟨_, _, _, [], asked, ?_, rfl⟩
      simp only [unwaited, if_true]
      exact Host.performs_pure.2 ⟨rfl, rfl, rfl⟩
    | unanswered waited reason =>
      refine ⟨_, _, _, _, asked, ?_, rfl⟩
      simp only [waited, if_false]
      exact Host.performs_map.2
        ⟨_, Tracker.performs_pollOnce.2 (.inl ⟨reason, rfl, rfl, rfl⟩), rfl⟩
    | answered waited raw reads =>
      refine ⟨_, _, _, _, asked, ?_, rfl⟩
      simp only [waited, if_false]
      refine Host.performs_map.2 ⟨.ok _, Tracker.performs_pollOnce.2 (.inr ⟨raw, _, ?_, rfl⟩), rfl⟩
      exact (Tracker.performs_settle_of_get? stored).2 ⟨_, _, reads, rfl, rfl, rfl⟩

/-! ## A whole spawn on the remote side -/

/-- What a spawn of a child session asks for. -/
def spawnRequest (d : Dispatcher) (o : SpawnOrder) (agent : AgentName) (message : String)
    (session : Session) : Remote.SpawnRequest :=
  ⟨agent, message, o.label, d.runTimeoutMs o, session⟩

/-- What a message asks for. -/
def sendRequest (d : Dispatcher) (o : SpawnOrder) (agent : AgentName) (message : String)
    (session : Session) : Remote.SendRequest :=
  ⟨sendTarget agent o, message, if o.waitMs = 0 then d.runTimeoutMs o else o.waitMs, session⟩

/-- The answer to an order that was sent as a message. -/
def sentEnvelope (o : SpawnOrder) (agent : AgentName) (reply : Reply Json) :
    Envelope SpawnResult :=
  (Spawned.sent (sendResult agent (sendTarget agent o) (Remote.sendReply reply))
    (Remote.sendReply reply).failure?).envelope

/-- The ways in which a spawn on the remote side can go. -/
inductive SpawnCourse (d : Dispatcher) (o : SpawnOrder) (h : Host) :
    List Exchange → Envelope SpawnResult → Host → Prop
  /-- The order does not pass its check. -/
  | refused {f : Failure} (unchecked : o.checked = .error f) : SpawnCourse d o h [] (.ofFailure f) h
  | sessionless {agent : AgentName} {task : String} (checked : o.checked = .ok (agent, task))
    (nobody : o.session = none) : SpawnCourse d o h [] (.ofFailure .missingSessionContext) h
  | sent {agent : AgentName} {task message : String} {session : Session} {before : List Exchange}
    (checked : o.checked = .ok (agent, task)) (caller : o.session = some session)
    (augments : d.Augments o task before message) (sends : o.useSessionsSend = true)
    (reply : Reply Json) :
    SpawnCourse d o h
      (before ++ Remote.invoking h .send (d.sendRequest o agent message session).invocation reply)
      (sentEnvelope o agent reply) h.renewed
  /-- The remote side does not take the run on. -/
  | refusedThere {agent : AgentName} {task message : String} {session : Session}
    {before : List Exchange} (checked : o.checked = .ok (agent, task))
    (caller : o.session = some session) (augments : d.Augments o task before message)
    (spawns : o.useSessionsSend = false) {reply : Reply Json} {f : Failure}
    (refusal : Remote.spawnReply reply = .error f) :
    SpawnCourse d o h
      (before ++ Remote.invoking h .spawn (d.spawnRequest o agent message session).invocation reply)
      (.ofFailure f) h.renewed
  | taken {agent : AgentName} {task message : String} {session : Session}
    {before following after : List Exchange} (checked : o.checked = .ok (agent, task))
    (caller : o.session = some session) (augments : d.Augments o task before message)
    (spawns : o.useSessionsSend = false) {reply : Reply Json} {a : Acceptance}
    (acceptance : Remote.spawnReply reply = .ok a) {r : RunRecord} {l : Ledger}
    (follows : d.Follows agent o a h.ledger following r l) {result : SpawnResult} {h' : Host}
    (remembers : { h.renewed with ledger := l }.Performs
      (d.persisted o agent task (.ofRecord r .real a.warning)) after result h') :
    SpawnCourse d o h
      (before ++ Remote.invoking h .spawn (d.spawnRequest o agent message session).invocation reply
        ++ following ++ after)
      (.success result) h'

theorem trim_text_of_checked (checked : o.checked = .ok (agent, task)) :
    Text.trim agent.text = agent.text := by
  obtain ⟨hn, -, -⟩ := SpawnOrder.checked_eq_ok_iff.1 checked
  rw [(Name.parse?_eq_some_iff.1 hn).1, Text.trim_trim]

/-- How an order goes on when the remote side has answered the spawn. -/
def pursue (d : Dispatcher) (agent : AgentName) (o : SpawnOrder) :
    Except Failure Acceptance → Procedure (Except Failure SpawnResult)
  | .error f => return .error f
  | .ok a => d.follow agent o a

/-- How an order ends when its run has a result: the result is remembered. -/
def finish (d : Dispatcher) (o : SpawnOrder) (agent : AgentName) (task : String) :
    Except Failure SpawnResult → Procedure (Except Failure Spawned)
  | .error f => return .error f
  | .ok r => d.persisted o agent task r >>= fun r' => pure (.ok (.run r'))

theorem spawnRemote_eq (d : Dispatcher) (agent : AgentName) (message : String) (session : Session)
    (o : SpawnOrder) :
    d.spawnRemote agent message session o =
      (Remote.spawn (d.spawnRequest o agent message session) >>= d.pursue agent o) := rfl

/-- What the reply to a spawn leads to. -/
theorem performs_spawnRemote (checked : o.checked = .ok (agent, task)) {message : String}
    {session : Session} {x : Except Failure SpawnResult} :
    h.Performs (d.spawnRemote agent message session o) log x h' ↔
      ∃ reply following, log = Remote.invoking h .spawn
          (d.spawnRequest o agent message session).invocation reply ++ following ∧
        ((∃ f, Remote.spawnReply reply = .error f ∧ following = [] ∧ x = .error f ∧
            h' = h.renewed) ∨
          ∃ a r l, Remote.spawnReply reply = .ok a ∧ d.Follows agent o a h.ledger following r l ∧
            x = .ok (.ofRecord r .real a.warning) ∧ h' = { h.renewed with ledger := l }) := by
  rw [spawnRemote_eq, Host.performs_bind]
  constructor
  · rintro ⟨log₁, y, h₁, log₂, hs, hf, rfl⟩
    obtain ⟨reply, rfl, rfl, rfl⟩ := Remote.performs_spawn.1 hs
    refine ⟨reply, log₂, rfl, ?_⟩
    cases hr : Remote.spawnReply reply with
    | error f =>
      rw [hr] at hf
      obtain ⟨rfl, rfl, rfl⟩ := Host.performs_pure.1 hf
      exact .inl ⟨f, rfl, rfl, rfl, rfl⟩
    | ok a =>
      rw [hr] at hf
      obtain ⟨hrun, hkey⟩ := Remote.parse?_of_spawnReply hr
      obtain ⟨r, l, follows, rfl, rfl⟩ :=
        (performs_follow hrun hkey (trim_text_of_checked checked)).1 hf
      exact .inr ⟨a, r, l, rfl, follows, rfl, rfl⟩
  · rintro ⟨reply, following, rfl, (⟨f, hr, rfl, rfl, rfl⟩ | ⟨a, r, l, hr, follows, rfl, rfl⟩)⟩
    · refine ⟨_, _, _, [], Remote.performs_spawn.2 ⟨reply, rfl, rfl, rfl⟩, ?_, rfl⟩
      rw [hr]
      exact Host.performs_pure.2 ⟨rfl, rfl, rfl⟩
    · refine ⟨_, _, _, following, Remote.performs_spawn.2 ⟨reply, rfl, rfl, rfl⟩, ?_, rfl⟩
      rw [hr]
      obtain ⟨hrun, hkey⟩ := Remote.parse?_of_spawnReply hr
      exact (performs_follow hrun hkey (trim_text_of_checked checked)).2
        ⟨r, l, follows, rfl, rfl⟩

/-- The answer to an order that was carried out, or could not be. -/
def outcomeEnvelope : Except Failure Spawned → Envelope SpawnResult
  | .error f => .ofFailure f
  | .ok spawned => spawned.envelope

theorem spawn_of_checked (checked : o.checked = .ok (agent, task)) :
    d.spawn o = (d.carryOut o agent task >>= fun x => pure (outcomeEnvelope x)) := by
  unfold spawn
  rw [checked]
  dsimp only
  congr 1
  funext x
  cases x <;> rfl

theorem performs_spawn_of_checked (checked : o.checked = .ok (agent, task))
    {env : Envelope SpawnResult} :
    h.Performs (d.spawn o) log env h' ↔
      ∃ x, h.Performs (d.carryOut o agent task) log x h' ∧ env = outcomeEnvelope x := by
  rw [spawn_of_checked checked, Host.performs_map]

theorem performs_spawn_of_unchecked {f : Failure} (unchecked : o.checked = .error f)
    {env : Envelope SpawnResult} :
    h.Performs (d.spawn o) log env h' ↔ log = [] ∧ env = .ofFailure f ∧ h' = h := by
  unfold spawn
  rw [unchecked]
  exact Host.performs_pure

theorem carryOut_of_real (real : d.config.backend = .real) {session : Session}
    (caller : o.session = some session) :
    d.carryOut o agent task =
      (d.augmented o task >>= fun message =>
        if o.useSessionsSend then d.send agent message session o >>= fun sent => pure (.ok sent)
        else d.spawnRemote agent message session o >>= d.finish o agent task) := by
  unfold carryOut
  rw [caller, real]
  rfl

/-- Behind the enrichment of the task stands a message, or a spawn and what is remembered of it. -/
theorem performs_carryOut (real : d.config.backend = .real) {session : Session}
    (caller : o.session = some session) {x : Except Failure Spawned} :
    h.Performs (d.carryOut o agent task) log x h' ↔
      ∃ before message rest, d.Augments o task before message ∧ log = before ++ rest ∧
        if o.useSessionsSend then
          ∃ sent, h.Performs (d.send agent message session o) rest sent h' ∧ x = .ok sent
        else
          h.Performs (d.spawnRemote agent message session o >>= d.finish o agent task) rest x
            h' := by
  rw [carryOut_of_real real caller, Host.performs_bind]
  cases o.useSessionsSend with
  | true =>
    simp only [if_true, Host.performs_map]
    constructor
    · rintro ⟨before, message, h₁, rest, ha, hs, rfl⟩
      obtain ⟨augments, rfl⟩ := performs_augmented.1 ha
      exact ⟨before, message, rest, augments, rfl, hs⟩
    · rintro ⟨before, message, rest, augments, rfl, hs⟩
      exact ⟨before, message, h, rest, performs_augmented.2 ⟨augments, rfl⟩, hs, rfl⟩
  | false =>
    simp only [Bool.false_eq_true, if_false]
    constructor
    · rintro ⟨before, message, h₁, rest, ha, hs, rfl⟩
      obtain ⟨augments, rfl⟩ := performs_augmented.1 ha
      exact ⟨before, message, rest, augments, rfl, hs⟩
    · rintro ⟨before, message, rest, augments, rfl, hs⟩
      exact ⟨before, message, h, rest, performs_augmented.2 ⟨augments, rfl⟩, hs, rfl⟩

theorem dispatcherSend_eq (d : Dispatcher) (agent : AgentName) (message : String)
    (session : Session) (o : SpawnOrder) :
    d.send agent message session o =
      (Remote.send (d.sendRequest o agent message session) >>= fun outcome =>
        pure (.sent (sendResult agent (sendTarget agent o) outcome) outcome.failure?)) := rfl

theorem performs_dispatcherSend {message : String} {session : Session} {sent : Spawned} :
    h.Performs (d.send agent message session o) log sent h' ↔
      ∃ reply, log = Remote.invoking h .send (d.sendRequest o agent message session).invocation
          reply ∧
        sent = .sent (sendResult agent (sendTarget agent o) (Remote.sendReply reply))
          (Remote.sendReply reply).failure? ∧ h' = h.renewed := by
  rw [dispatcherSend_eq, Host.performs_map]
  constructor
  · rintro ⟨outcome, hs, rfl⟩
    obtain ⟨reply, rfl, rfl, rfl⟩ := Remote.performs_send.1 hs
    exact ⟨reply, rfl, rfl, rfl⟩
  · rintro ⟨reply, rfl, rfl, rfl⟩
    exact ⟨_, Remote.performs_send.2 ⟨reply, rfl, rfl, rfl⟩, rfl⟩

theorem spawnCourse_of_performs (real : d.config.backend = .real) {env : Envelope SpawnResult}
    (hp : h.Performs (d.spawn o) log env h') : SpawnCourse d o h log env h' := by
  cases checked : o.checked with
  | error f =>
    obtain ⟨rfl, rfl, rfl⟩ := (performs_spawn_of_unchecked checked).1 hp
    exact .refused checked
  | ok order =>
    obtain ⟨agent, task⟩ := order
    obtain ⟨x, hx, rfl⟩ := (performs_spawn_of_checked checked).1 hp
    cases caller : o.session with
    | none =>
      unfold carryOut at hx
      simp only [real, caller] at hx
      obtain ⟨rfl, rfl, rfl⟩ := Host.performs_pure.1 hx
      exact .sessionless checked caller
    | some session =>
      obtain ⟨before, message, rest, augments, rfl, hrest⟩ := (performs_carryOut real caller).1 hx
      cases sends : o.useSessionsSend with
      | true =>
        rw [sends, if_pos rfl] at hrest
        obtain ⟨sent, hs, rfl⟩ := hrest
        obtain ⟨reply, rfl, rfl, rfl⟩ := performs_dispatcherSend.1 hs
        exact .sent checked caller augments sends reply
      | false =>
        rw [sends, if_neg Bool.false_ne_true] at hrest
        obtain ⟨log₁, y, h₁, after, hy, hf, rfl⟩ := Host.performs_bind.1 hrest
        obtain ⟨reply, following, rfl, course⟩ := (performs_spawnRemote checked).1 hy
        rcases course with ⟨f, refusal, rfl, rfl, rfl⟩ | ⟨a, r, l, acceptance, follows, rfl, rfl⟩
        · obtain ⟨rfl, rfl, rfl⟩ := Host.performs_pure.1 hf
          rw [List.append_nil, List.append_nil]
          exact .refusedThere checked caller augments sends refusal
        · obtain ⟨r', remembers, rfl⟩ := Host.performs_map.1 hf
          rw [← List.append_assoc, ← List.append_assoc]
          exact .taken checked caller augments sends acceptance follows remembers

theorem SpawnCourse.performs (real : d.config.backend = .real) {env : Envelope SpawnResult}
    (course : SpawnCourse d o h log env h') : h.Performs (d.spawn o) log env h' := by
  cases course with
  | refused unchecked => exact (performs_spawn_of_unchecked unchecked).2 ⟨rfl, rfl, rfl⟩
  | sessionless checked nobody =>
    refine (performs_spawn_of_checked checked).2 ⟨.error .missingSessionContext, ?_, rfl⟩
    unfold carryOut
    simp only [real, nobody]
    exact Host.performs_pure.2 ⟨rfl, rfl, rfl⟩
  | sent checked caller augments sends reply =>
    refine (performs_spawn_of_checked checked).2 ⟨.ok _, ?_, rfl⟩
    refine (performs_carryOut real caller).2 ⟨_, _, _, augments, rfl, ?_⟩
    rw [sends, if_pos rfl]
    exact ⟨_, performs_dispatcherSend.2 ⟨reply, rfl, rfl, rfl⟩, rfl⟩
  | refusedThere checked caller augments spawns refusal =>
    refine (performs_spawn_of_checked checked).2 ⟨.error _, ?_, rfl⟩
    refine (performs_carryOut real caller).2 ⟨_, _, _, augments, rfl, ?_⟩
    rw [spawns, if_neg Bool.false_ne_true]
    refine Host.performs_bind.2 ⟨_, .error _, _, [],
      (performs_spawnRemote checked).2 ⟨_, [], rfl, .inl ⟨_, refusal, rfl, rfl, rfl⟩⟩,
      Host.performs_pure.2 ⟨rfl, rfl, rfl⟩, ?_⟩
    rw [List.append_nil, List.append_nil]
  | taken checked caller augments spawns acceptance follows remembers =>
    rw [List.append_assoc, List.append_assoc]
    refine (performs_spawn_of_checked checked).2 ⟨.ok (.run _), ?_, rfl⟩
    refine (performs_carryOut real caller).2 ⟨_, _, _, augments, rfl, ?_⟩
    rw [spawns, if_neg Bool.false_ne_true, ← List.append_assoc]
    exact Host.performs_bind.2 ⟨_, .ok _, _, _,
      (performs_spawnRemote checked).2 ⟨_, _, rfl, .inr ⟨_, _, _, acceptance, follows, rfl, rfl⟩⟩,
      Host.performs_map.2 ⟨_, remembers, rfl⟩, rfl⟩

/-- A spawn on the remote side takes one of its courses. -/
theorem performs_spawn (real : d.config.backend = .real) {env : Envelope SpawnResult} :
    h.Performs (d.spawn o) log env h' ↔ SpawnCourse d o h log env h' :=
  ⟨spawnCourse_of_performs real, SpawnCourse.performs real⟩

/-! ## A whole status query -/

/-- The report on what was found out about a run. -/
def reportEnvelope (id : String) : Except Failure (Option RunRecord) → Envelope StatusReport
  | .error f => .ofFailure f
  | .ok none => .success (.notFound id)
  | .ok (some r) => .success (.ofRecord r)

theorem status_of_named {q id : String} (named : Text.nonBlank? q = some id) :
    d.status q = (d.lookUp id >>= fun x => pure (reportEnvelope id x)) := by
  unfold status
  rw [named]
  dsimp only
  congr 1
  funext x
  match x with
  | .error f => rfl
  | .ok none => rfl
  | .ok (some r) => rfl

theorem performs_status_of_named {q id : String} (named : Text.nonBlank? q = some id)
    {env : Envelope StatusReport} :
    h.Performs (d.status q) log env h' ↔
      ∃ x, h.Performs (d.lookUp id) log x h' ∧ env = reportEnvelope id x := by
  rw [status_of_named named, Host.performs_map]

theorem performs_status_of_blank {q : String} (blank : Text.nonBlank? q = none)
    {env : Envelope StatusReport} :
    h.Performs (d.status q) log env h' ↔
      log = [] ∧ env = .ofFailure (.invalidParams "`runId` is required") ∧ h' = h := by
  unfold status
  rw [blank]
  exact Host.performs_pure

/-- The ways in which a status query on the remote side can go. -/
inductive StatusCourse (d : Dispatcher) (q : String) (h : Host) :
    List Exchange → Envelope StatusReport → Host → Prop
  | blank (blank : Text.nonBlank? q = none) :
    StatusCourse d q h [] (.ofFailure (.invalidParams "`runId` is required")) h
  | unknown {id : String} (named : Text.nonBlank? q = some id) (missing : h.ledger.get? id = none) :
    StatusCourse d q h [⟨.find id, none⟩] (.success (.notFound id)) h
  /-- The run is over; nobody is asked. -/
  | ended {id : String} {r : RunRecord} (named : Text.nonBlank? q = some id)
    (known : h.ledger.get? id = some r) (terminal : r.status.isTerminal = true) :
    StatusCourse d q h [⟨.find id, some r⟩] (.success (.ofRecord r)) h
  | unanswered {id : String} {r : RunRecord} (named : Text.nonBlank? q = some id)
    (known : h.ledger.get? id = some r) (unfinished : r.status.isTerminal = false)
    (reason : String) :
    StatusCourse d q h
      [⟨.find id, some r⟩, ⟨.call (waitCall r.runId d.config.statusPollMs), .error reason⟩]
      (.ofFailure (Tracker.waitFailure r.runId reason)) h
  | answered {id : String} {r : RunRecord} {reading : List Exchange} {output : Option String}
    (named : Text.nonBlank? q = some id) (known : h.ledger.get? id = some r)
    (unfinished : r.status.isTerminal = false) (raw : Json)
    (reads : d.tracker.Reads r (Remote.WaitOutcome.ofAnswer true raw).status reading output) :
    StatusCourse d q h
      (⟨.find id, some r⟩ :: ⟨.call (waitCall r.runId d.config.statusPollMs), .ok raw⟩ ::
        (reading ++ [⟨.amend r.runId.text (Tracker.news (.ofAnswer true raw) output),
          some (Tracker.polled r (.ofAnswer true raw) output)⟩]))
      (.success (.ofRecord (Tracker.polled r (.ofAnswer true raw) output)))
      { h with ledger := h.ledger.put (Tracker.polled r (.ofAnswer true raw) output) }

theorem lookUp_of_real (real : d.config.backend = .real) (id : String) :
    d.lookUp id = d.tracker.reconcile id := by
  unfold lookUp
  rw [real]

theorem statusCourse_of_performs (real : d.config.backend = .real) {q : String}
    {env : Envelope StatusReport} (hp : h.Performs (d.status q) log env h') :
    StatusCourse d q h log env h' := by
  cases named : Text.nonBlank? q with
  | none =>
    obtain ⟨rfl, rfl, rfl⟩ := (performs_status_of_blank named).1 hp
    exact .blank named
  | some id =>
    obtain ⟨x, hx, rfl⟩ := (performs_status_of_named named).1 hp
    rw [lookUp_of_real real] at hx
    rcases Tracker.performs_reconcile.1 hx with
      ⟨missing, rfl, rfl, rfl⟩ | ⟨r, known, (⟨terminal, rfl, rfl, rfl⟩ | polls)⟩
    · exact .unknown named missing
    · exact .ended named known terminal
    · obtain ⟨rest, y, unfinished, polled, rfl, rfl⟩ := polls
      rcases Tracker.performs_pollOnce.1 polled with
        ⟨reason, rfl, rfl, rfl⟩ | ⟨raw, rest, hs, rfl⟩
      · exact .unanswered named known unfinished reason
      · obtain ⟨reading, output, reads, rfl, rfl, rfl⟩ :=
          (Tracker.performs_settle_of_get? (Ledger.get?_text_of_get? known)).1 hs
        exact .answered named known unfinished raw reads

theorem StatusCourse.performs (real : d.config.backend = .real) {q : String}
    {env : Envelope StatusReport} (course : StatusCourse d q h log env h') :
    h.Performs (d.status q) log env h' := by
  have of_lookUp {id : String} (x : Except Failure (Option RunRecord))
      (named : Text.nonBlank? q = some id) (hx : h.Performs (d.tracker.reconcile id) log x h')
      (he : env = reportEnvelope id x) : h.Performs (d.status q) log env h' :=
    (performs_status_of_named named).2 ⟨x, lookUp_of_real real id ▸ hx, he⟩
  cases course with
  | blank blank => exact (performs_status_of_blank blank).2 ⟨rfl, rfl, rfl⟩
  | unknown named missing =>
    refine of_lookUp (.ok none) named (Tracker.performs_reconcile.2 (.inl ?_)) rfl
    exact ⟨missing, rfl, rfl, rfl⟩
  | @ended id r named known terminal =>
    refine of_lookUp (.ok (some r)) named
      (Tracker.performs_reconcile.2 (.inr ⟨r, known, .inl ?_⟩)) rfl
    exact ⟨terminal, rfl, rfl, rfl⟩
  | @unanswered id r named known unfinished reason =>
    refine of_lookUp (.error (Tracker.waitFailure r.runId reason)) named
      (Tracker.performs_reconcile.2 (.inr ⟨r, known, .inr ?_⟩)) rfl
    exact ⟨_, .error _, unfinished, Tracker.performs_pollOnce.2 (.inl ⟨reason, rfl, rfl, rfl⟩), rfl,
      rfl⟩
  | @answered id r reading output named known unfinished raw reads =>
    refine of_lookUp (.ok (some (Tracker.polled r (.ofAnswer true raw) output))) named
      (Tracker.performs_reconcile.2 (.inr ⟨r, known, .inr ?_⟩)) rfl
    refine ⟨_, .ok _, unfinished, Tracker.performs_pollOnce.2 (.inr ⟨raw, _, ?_, rfl⟩), rfl, rfl⟩
    exact (Tracker.performs_settle_of_get? (Ledger.get?_text_of_get? known)).2
      ⟨_, _, reads, rfl, rfl, rfl⟩

/-- A status query on the remote side takes one of its courses. -/
theorem performs_status (real : d.config.backend = .real) {q : String}
    {env : Envelope StatusReport} :
    h.Performs (d.status q) log env h' ↔ StatusCourse d q h log env h' :=
  ⟨statusCourse_of_performs real, StatusCourse.performs real⟩

end Dispatcher

end Delegation
