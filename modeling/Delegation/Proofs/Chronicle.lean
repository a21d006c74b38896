import Delegation.Proofs.Delegating

/-!
# What happened

A chronicle is what happened to a dispatcher from some moment on: one operation after another, in
any order, each with what was exchanged and what was answered. From the exchanges one can read off
which runs the remote side accepted (`acceptances`) and how the polls of a run were answered
(`polls`), without looking at the ledger.
-/

namespace Delegation

open Remote (Acceptance latestReply?)

/-- An operation that was carried out: what was wanted, what was exchanged, what was answered. -/
inductive Episode where
  | spawn (order : SpawnOrder) (log : List Exchange) (envelope : Envelope SpawnResult)
  | status (query : String) (log : List Exchange) (envelope : Envelope StatusReport)

namespace Episode

def log : Episode → List Exchange
  | .spawn _ log _ => log
  | .status _ log _ => log

/-- The dispatcher's own procedure went like that. -/
def Happens (d : Dispatcher) (h : Host) : Episode → Host → Prop
  | .spawn order log envelope, h' => h.Performs (d.spawn order) log envelope h'
  | .status query log envelope, h' => h.Performs (d.status query) log envelope h'

end Episode

/-- What happened since a host was in a certain state, and its state now. -/
inductive Chronicle (d : Dispatcher) (h₀ : Host) : List Episode → Host → Prop
  | start : Chronicle d h₀ [] h₀
  | next {es : List Episode} {h h' : Host} {e : Episode} (before : Chronicle d h₀ es h)
    (happens : e.Happens d h h') : Chronicle d h₀ (es ++ [e]) h'
  /-- Time goes by. -/
  | pause {es : List Episode} {h : Host} (ms : Nat) (before : Chronicle d h₀ es h) :
    Chronicle d h₀ es { h with clock := h.clock + ms }

/-! ## Reading exchanges -/

namespace Exchange

/-- The text of a field of a document. -/
def textOf (key : String) (v : Json) : Option String := (v.get? key).bind Json.text?

/-- The run that the remote side accepts in an exchange, and whom it was delegated to. -/
def acceptance? : Exchange → Option (AgentName × Acceptance)
  | ⟨.invoke i, reply⟩ =>
    if i.tool = Remote.Tool.spawn.name then
      (Remote.spawnReply reply).toOption.bind fun a =>
        (textOf "agentId" i.args).map fun agent => (⟨agent⟩, a)
    else none
  | _ => none

/-- The answer to a wait for a certain run. -/
def waitAnswer? (id : RunId) : Exchange → Option Json
  | ⟨.call c, .ok raw⟩ =>
    if c.method = Remote.waitMethod ∧ textOf "runId" c.params = some id.text then some raw else none
  | _ => none

/-- The answer to a reading of the history of a session. -/
def historyAnswer? : Exchange → Option Json
  | ⟨.call c, .ok raw⟩ => if c.method = Remote.historyMethod then some raw else none
  | _ => none

end Exchange

/-- A poll of a run that was answered: the answer, and the reply that was read with it. -/
structure Poll where
  answer : Json
  reply : Option String

/-- The polls of a run in the course of one operation. -/
def pollsIn (id : RunId) (log : List Exchange) : List Poll :=
  (log.filterMap (Exchange.waitAnswer? id)).map fun answer =>
    ⟨answer, (log.findSome? Exchange.historyAnswer?).bind latestReply?⟩

/-- All polls of a run that were answered, in order. -/
def polls (id : RunId) (es : List Episode) : List Poll := es.flatMap fun e => pollsIn id e.log

/-- All runs that the remote side accepted, in order. -/
def acceptances (es : List Episode) : List (AgentName × Acceptance) :=
  es.flatMap fun e => e.log.filterMap Exchange.acceptance?

/-- The run that a spawn answered with, and whom it was delegated to. A message returns no run. -/
def Episode.returned? : Episode → Option (RunId × AgentName)
  | .spawn order _ envelope =>
    if envelope.ok && !order.useSessionsSend then
      (envelope.data.bind (·.runId)).map fun id => (id, ⟨Text.trim order.agent⟩)
    else none
  | .status _ _ _ => none

/-- All runs that were returned, in order. -/
def returns (es : List Episode) : List (RunId × AgentName) := es.filterMap Episode.returned?

@[simp] theorem polls_append_singleton (id : RunId) (es : List Episode) (e : Episode) :
    polls id (es ++ [e]) = polls id es ++ pollsIn id e.log := by
  simp only [polls, List.flatMap_append, List.flatMap_cons, List.flatMap_nil, List.append_nil]

@[simp] theorem acceptances_append_singleton (es : List Episode) (e : Episode) :
    acceptances (es ++ [e]) = acceptances es ++ e.log.filterMap Exchange.acceptance? := by
  simp only [acceptances, List.flatMap_append, List.flatMap_cons, List.flatMap_nil,
    List.append_nil]

/-! ## The calls among the exchanges -/

namespace Question

/-- Does a question go to the remote side? -/
def isCall : Question → Bool
  | .invoke _ => true
  | .call _ => true
  | _ => false

theorem isCall_of_isMemory {q : Question} (hq : q.isMemory = true) : q.isCall = false := by
  cases q <;> first | rfl | exact absurd hq Bool.false_ne_true

end Question

/-- The exchanges with the remote side. -/
def calls (log : List Exchange) : List Exchange := log.filter (·.question.isCall)

@[simp] theorem calls_nil : calls [] = [] := rfl

@[simp] theorem calls_append (log₁ log₂ : List Exchange) :
    calls (log₁ ++ log₂) = calls log₁ ++ calls log₂ :=
  List.filter_append log₁ log₂

theorem calls_cons (e : Exchange) (log : List Exchange) :
    calls (e :: log) = if e.question.isCall then e :: calls log else calls log :=
  List.filter_cons

theorem calls_of_isMemory {log : List Exchange} (hm : ∀ e ∈ log, e.question.isMemory = true) :
    calls log = [] := by
  refine List.filter_eq_nil_iff.2 fun e he => ?_
  rw [Question.isCall_of_isMemory (hm e he)]
  exact Bool.false_ne_true

theorem calls_invoking (h : Host) (tool : Remote.Tool) (invocation : CallId → Remote.Invocation)
    (reply : Reply Json) :
    calls (Remote.invoking h tool invocation reply) =
      [⟨.invoke (invocation (Supply.invocation tool h.supply)), reply⟩] := rfl

/-- An invocation behind the enrichment of the task. -/
theorem calls_behind {before : List Exchange} (hm : ∀ e ∈ before, e.question.isMemory = true)
    (h : Host) (tool : Remote.Tool) (invocation : CallId → Remote.Invocation)
    (reply : Reply Json) :
    calls (before ++ Remote.invoking h tool invocation reply) =
      [⟨.invoke (invocation (Supply.invocation tool h.supply)), reply⟩] := by
  rw [calls_append, calls_of_isMemory hm, calls_invoking, List.nil_append]

/-- The same with what follows it, and what is remembered in the end. -/
theorem calls_between {before after : List Exchange}
    (hb : ∀ e ∈ before, e.question.isMemory = true) (ha : ∀ e ∈ after, e.question.isMemory = true)
    (h : Host) (tool : Remote.Tool) (invocation : CallId → Remote.Invocation) (reply : Reply Json)
    (following : List Exchange) :
    calls (before ++ Remote.invoking h tool invocation reply ++ following ++ after) =
      ⟨.invoke (invocation (Supply.invocation tool h.supply)), reply⟩ :: calls following := by
  rw [calls_append, calls_append, calls_behind hb, calls_of_isMemory ha, List.append_nil,
    List.singleton_append]

theorem calls_of_reads {t : Tracker} {r : RunRecord} {s : Status} {reading : List Exchange}
    {output : Option String} (reads : t.Reads r s reading output) : calls reading = reading := by
  cases reads <;> rfl

/-- A poll that was answered stands between a question to the ledger and another. -/
theorem calls_answered {t : Tracker} {r : RunRecord} {s : Status} {reading : List Exchange}
    {output : Option String} (reads : t.Reads r s reading output) {first last : Exchange}
    (hf : first.question.isCall = false) (hl : last.question.isCall = false)
    (c : Remote.MethodCall) (reply : Reply Json) :
    calls (first :: ⟨.call c, reply⟩ :: (reading ++ [last])) = ⟨.call c, reply⟩ :: reading := by
  have called : (⟨.call c, reply⟩ : Exchange).question.isCall = true := rfl
  rw [calls_cons, hf, if_neg Bool.false_ne_true, calls_cons, called, if_pos rfl, calls_append,
    calls_of_reads reads, calls_cons, hl, if_neg Bool.false_ne_true, calls_nil, List.append_nil]

/-- What is read off the exchanges is read off the calls. -/
theorem filterMap_calls {β : Type} {f : Exchange → Option β}
    (hf : ∀ e : Exchange, e.question.isCall = false → f e = none) (log : List Exchange) :
    (calls log).filterMap f = log.filterMap f := by
  induction log with
  | nil => rfl
  | cons e log ih =>
    rw [calls_cons]
    cases hc : e.question.isCall with
    | true => simp only [if_true, List.filterMap_cons, ih]
    | false =>
      simp only [Bool.false_eq_true, if_false, List.filterMap_cons, hf e hc, ih]

theorem findSome?_calls {β : Type} {f : Exchange → Option β}
    (hf : ∀ e : Exchange, e.question.isCall = false → f e = none) (log : List Exchange) :
    (calls log).findSome? f = log.findSome? f := by
  induction log with
  | nil => rfl
  | cons e log ih =>
    rw [calls_cons]
    cases hc : e.question.isCall with
    | true => simp only [if_true, List.findSome?_cons, ih]
    | false => simp only [Bool.false_eq_true, if_false, List.findSome?_cons, hf e hc, ih]

namespace Exchange

theorem acceptance?_of_not_isCall (e : Exchange) (hc : e.question.isCall = false) :
    acceptance? e = none := by
  obtain ⟨q, a⟩ := e
  cases q <;> first | rfl | cases hc

theorem waitAnswer?_of_not_isCall (id : RunId) (e : Exchange) (hc : e.question.isCall = false) :
    waitAnswer? id e = none := by
  obtain ⟨q, a⟩ := e
  cases q <;> first | rfl | cases hc

theorem historyAnswer?_of_not_isCall (e : Exchange) (hc : e.question.isCall = false) :
    historyAnswer? e = none := by
  obtain ⟨q, a⟩ := e
  cases q <;> first | rfl | cases hc

end Exchange

theorem pollsIn_calls (id : RunId) (log : List Exchange) :
    pollsIn id (calls log) = pollsIn id log := by
  unfold pollsIn
  rw [filterMap_calls (Exchange.waitAnswer?_of_not_isCall id),
    findSome?_calls Exchange.historyAnswer?_of_not_isCall]

/-! ## What the calls of the program are read as -/

namespace Exchange

theorem acceptance?_call (c : Remote.MethodCall) (a : Reply Json) :
    acceptance? ⟨.call c, a⟩ = none := rfl

theorem acceptance?_sendRequest (r : Remote.SendRequest) (callId : CallId) (reply : Reply Json) :
    acceptance? ⟨.invoke (r.invocation callId), reply⟩ = none := by
  have other : (r.invocation callId).tool ≠ Remote.Tool.spawn.name := by
    show Remote.Tool.send.name ≠ Remote.Tool.spawn.name
    decide
  unfold acceptance?
  exact if_neg other

theorem acceptance?_spawnRequest (r : Remote.SpawnRequest) (callId : CallId)
    (reply : Reply Json) :
    acceptance? ⟨.invoke (r.invocation callId), reply⟩ =
      (Remote.spawnReply reply).toOption.map fun a => (r.agent, a) := by
  have agent : textOf "agentId" (r.invocation callId).args = some r.agent.text := rfl
  unfold acceptance?
  dsimp only
  rw [if_pos (show (r.invocation callId).tool = Remote.Tool.spawn.name from rfl), agent]
  cases (Remote.spawnReply reply).toOption <;> rfl

/-- An accepted run goes by a name that parsing leaves alone. -/
theorem parse?_of_acceptance? {e : Exchange} {agent : AgentName} {a : Acceptance}
    (he : e.acceptance? = some (agent, a)) : Name.parse? a.runId.text = some a.runId := by
  obtain ⟨q, reply⟩ := e
  cases q with
  | invoke i =>
    unfold acceptance? at he
    dsimp only at he
    split at he
    · obtain ⟨a', accepted, named⟩ := Option.bind_eq_some_iff.1 he
      obtain ⟨name, -, same⟩ := Option.map_eq_some_iff.1 named
      cases same
      have replied : Remote.spawnReply reply = .ok a := by
        cases hr : Remote.spawnReply reply with
        | error f => rw [hr] at accepted; cases accepted
        | ok a' => rw [hr] at accepted; cases accepted; rfl
      exact (Remote.parse?_of_spawnReply replied).1
    · cases he
  | _ => cases he

theorem waitAnswer?_wait (id id' : RunId) (windowMs : UInt64) (raw : Json) :
    waitAnswer? id ⟨.call (Remote.waitCall id' windowMs), .ok raw⟩ =
      if id' = id then some raw else none := by
  have named : textOf "runId" (Remote.waitCall id' windowMs).params = some id'.text := rfl
  unfold waitAnswer?
  dsimp only
  rw [named]
  obtain ⟨text⟩ := id
  obtain ⟨text'⟩ := id'
  simp only [Remote.waitCall, true_and, Option.some.injEq, Name.mk.injEq]

theorem waitAnswer?_history (id : RunId) (session : SessionKey) (limit timeoutMs : UInt64)
    (reply : Reply Json) :
    waitAnswer? id ⟨.call (Remote.historyCall session limit timeoutMs), reply⟩ = none := by
  have other : (Remote.historyCall session limit timeoutMs).method ≠ Remote.waitMethod := by
    show Remote.historyMethod ≠ Remote.waitMethod
    decide
  cases reply with
  | error reason => rfl
  | ok raw =>
    unfold waitAnswer?
    exact if_neg fun both => other both.1

theorem historyAnswer?_wait (id : RunId) (windowMs : UInt64) (reply : Reply Json) :
    historyAnswer? ⟨.call (Remote.waitCall id windowMs), reply⟩ = none := by
  have other : (Remote.waitCall id windowMs).method ≠ Remote.historyMethod := by
    show Remote.waitMethod ≠ Remote.historyMethod
    decide
  cases reply with
  | error reason => rfl
  | ok raw =>
    unfold historyAnswer?
    exact if_neg other

theorem historyAnswer?_history (session : SessionKey) (limit timeoutMs : UInt64)
    (reply : Reply Json) :
    historyAnswer? ⟨.call (Remote.historyCall session limit timeoutMs), reply⟩ =
      reply.toOption := by
  cases reply with
  | error reason => rfl
  | ok raw =>
    unfold historyAnswer?
    exact if_pos (show Remote.historyMethod = Remote.historyMethod from rfl)

end Exchange

theorem parse?_of_acceptances {es : List Episode} {agent : AgentName} {a : Acceptance}
    (hm : (agent, a) ∈ acceptances es) : Name.parse? a.runId.text = some a.runId := by
  obtain ⟨e, -, he⟩ := List.mem_flatMap.1 hm
  obtain ⟨x, -, hx⟩ := List.mem_filterMap.1 he
  exact Exchange.parse?_of_acceptance? hx

/-! ## What a poll reads -/

/-- The poll that an answer and the reading after it make. -/
def Poll.ofReading (raw : Json) (reading : List Exchange) : Poll :=
  ⟨raw, (reading.findSome? Exchange.historyAnswer?).bind latestReply?⟩

section

variable {t : Tracker} {r : RunRecord} {s : Status} {reading : List Exchange}
  {output : Option String}

/-- No output goes with a run that is not over; with any other goes the one that it has, or else
the reply that is read. -/
theorem output_eq_of_reads (reads : t.Reads r s reading output) :
    output = if s = .running then none
      else r.usableOutput?.or ((reading.findSome? Exchange.historyAnswer?).bind latestReply?) := by
  cases reads with
  | unfinished => rfl
  | kept ended usable =>
    rw [if_neg ended, usable]
    rfl
  | sessionless ended unusable =>
    rw [if_neg ended, unusable]
    rfl
  | history reply ended unusable =>
    rw [if_neg ended, unusable, List.findSome?_cons, Exchange.historyAnswer?_history]
    cases reply <;> rfl

theorem reading_eq_nil_of_reads (reads : t.Reads r s reading output) (unfinished : s = .running) :
    reading = [] := by
  cases reads with
  | unfinished => rfl
  | kept ended | sessionless ended | history _ ended => exact absurd unfinished ended

/-- A reading consists of calls only. -/
theorem filterMap_reading {β : Type} (reads : t.Reads r s reading output)
    {f : Exchange → Option β} (hf : ∀ c reply, f ⟨.call c, reply⟩ = none) :
    reading.filterMap f = [] := by
  cases reads with
  | unfinished | kept | sessionless => rfl
  | history reply => rw [List.filterMap_cons, hf, List.filterMap_nil]

/-- What can be read off the exchanges of a followed run, unless off its calls or its amendment,
is read off its entry. -/
theorem filterMap_follows {β : Type} {d : Dispatcher} {agent : AgentName} {o : SpawnOrder}
    {a : Acceptance} {l l' : Ledger} {log : List Exchange} (follows : d.Follows agent o a l log r l')
    {f : Exchange → Option β} (called : ∀ c reply, f ⟨.call c, reply⟩ = none)
    (amended : ∀ id news found, f ⟨.amend id news, found⟩ = none) :
    log.filterMap f = (f ⟨.enter (Dispatcher.acceptedReport agent a),
      some (Dispatcher.acceptedRecord agent a)⟩).toList := by
  have entry (rest : List Exchange) (nothing : rest.filterMap f = []) (e : Exchange) :
      (e :: rest).filterMap f = (f e).toList := by
    rw [List.filterMap_cons, nothing]
    cases f e <;> rfl
  cases follows with
  | atOnce => exact entry [] rfl _
  | unanswered => exact entry _ (by rw [List.filterMap_cons, called, List.filterMap_nil]) _
  | answered _ raw reads =>
    refine entry _ ?_ _
    rw [List.filterMap_cons, called, List.filterMap_append, filterMap_reading reads called,
      List.filterMap_cons, amended, List.filterMap_nil, List.nil_append]

theorem acceptances_reading (reads : t.Reads r s reading output) :
    reading.filterMap Exchange.acceptance? = [] :=
  filterMap_reading reads fun _ _ => rfl

theorem waitAnswers_reading (reads : t.Reads r s reading output) (id : RunId) :
    reading.filterMap (Exchange.waitAnswer? id) = [] := by
  cases reads with
  | unfinished | kept | sessionless => rfl
  | history reply =>
    rw [List.filterMap_cons, Exchange.waitAnswer?_history]
    rfl

theorem pollsIn_answered (reads : t.Reads r s reading output) (id id' : RunId)
    (windowMs : UInt64) (raw : Json) :
    pollsIn id (⟨.call (Remote.waitCall id' windowMs), .ok raw⟩ :: reading) =
      if id' = id then [.ofReading raw reading] else [] := by
  unfold pollsIn
  rw [List.filterMap_cons, List.findSome?_cons, Exchange.historyAnswer?_wait,
    Exchange.waitAnswer?_wait, waitAnswers_reading reads]
  by_cases he : id' = id
  · rw [if_pos he, if_pos he]
    rfl
  · rw [if_neg he, if_neg he]
    rfl

end

theorem pollsIn_invoke (id : RunId) (i : Remote.Invocation) (reply : Reply Json)
    (log : List Exchange) : pollsIn id (⟨.invoke i, reply⟩ :: log) = pollsIn id log := rfl

/-! ## One run from its spawn to its end -/

namespace Sample

/-- The remote side, and no memory. -/
def dispatcher : Dispatcher := ⟨{ backend := .real }, false⟩

def order : SpawnOrder where
  agent := " technical "
  task := "fix it"
  waitMs := 1000
  session := some (.ofKey ⟨"main"⟩)

def acceptance : Acceptance := ⟨⟨"r-1"⟩, ⟨"child"⟩, none⟩

/-- The run is taken on. -/
def taken : Json :=
  .obj [("details", .obj [("childSessionKey", .str "child"), ("runId", .str "r-1"),
    ("status", .str "accepted")])]

/-- It has started. -/
def started : Json := .obj [("startedAt", .num (.int 1000)), ("status", .str "timeout")]

/-- It is over. -/
def ended : Json := .obj [("endedAt", .num (.int 3500)), ("status", .str "ok")]

def history : Json :=
  .obj [("messages", .arr [.obj [("content", .str "done"), ("role", .str "assistant")]])]

/-- The record that the spawn leaves in the ledger. -/
def unfinished : RunRecord :=
  Tracker.polled (Dispatcher.acceptedRecord ⟨"technical"⟩ acceptance) (.ofAnswer true started) none

/-- A spawn that is followed, and a query that finds the run over. -/
theorem chronicle : ∃ spawned spawnEnv asked statusEnv h r,
    Chronicle dispatcher (.ofConfig {})
      [.spawn order spawned spawnEnv, .status " r-1 " asked statusEnv] h ∧
    acceptances [.spawn order spawned spawnEnv, .status " r-1 " asked statusEnv] =
      [(⟨"technical"⟩, acceptance)] ∧
    polls ⟨"r-1"⟩ [.spawn order spawned spawnEnv, .status " r-1 " asked statusEnv] =
      [⟨started, none⟩, ⟨ended, some "done"⟩] ∧
    returns [.spawn order spawned spawnEnv, .status " r-1 " asked statusEnv] =
      [(⟨"r-1"⟩, ⟨"technical"⟩)] ∧
    h.ledger.get? "r-1" = some r ∧ r.status = .completed := by
  have checked : order.checked = .ok (⟨"technical"⟩, "fix it") := rfl
  have accepted : Remote.spawnReply (.ok taken) = .ok acceptance := rfl
  have spawns : Dispatcher.SpawnCourse dispatcher order (.ofConfig {}) _ _ _ :=
    .taken checked rfl (.plain rfl) rfl accepted (.answered (by decide) started .unfinished)
      (.done _ _)
  have named : Text.nonBlank? " r-1 " = some "r-1" := rfl
  have asks (h : Host) (known : h.ledger.get? "r-1" = some unfinished) :
      Dispatcher.StatusCourse dispatcher " r-1 " h _ _ _ :=
    .answered named known rfl ended (.history (.ok history) (by decide) rfl rfl)
  have first : Chronicle dispatcher (.ofConfig {}) ([] ++ [.spawn order _ _]) _ :=
    .next (e := .spawn order _ _) .start ((Dispatcher.performs_spawn rfl).2 spawns)
  have both : Chronicle dispatcher (.ofConfig {}) ([.spawn order _ _] ++ [.status " r-1 " _ _]) _ :=
    .next (e := .status " r-1 " _ _) first ((Dispatcher.performs_status rfl).2 (asks _ rfl))
  exact ⟨_, _, _, _, _, _, both, rfl, rfl, rfl, rfl, rfl⟩

end Sample

end Delegation
