import Delegation.Proofs.Reporting
import Delegation.Proofs.Verdicts

/-!
# What becomes of an answer of the remote side

The dispatcher follows the verdict on an answer: a message is answered as its reply says
(`messageJudged_sentEnvelope`), and a run is entered into the ledger if the reply to its spawn
accepted it, and only then (`SpawnCourse.runJudged`). This holds for every reply, and there is a way
to go for every reply (`Settles.of_judged`), since the others may behave in any way.
-/

namespace Delegation

open Remote (Acceptance SendOutcome Accepts Answered Delivers Holds Says SpawnJudged SendJudged
  unwrapped)

/-! ## What callers are told of a message -/

/-- What callers are told of a message: the outcome, and a result that goes with it. -/
structure MessageTold (reply : Reply Json) (result : SpawnResult) : Prop where
  outcome : ∃ outcome, result.sessionsSend = some outcome ∧ SendJudged reply outcome
  failed : ¬ Answered reply Delivers → result.status = .failed ∧ result.output = none
  completed : ∀ text, Answered reply (fun answer => Delivers answer ∧ Holds answer "reply" text) →
    result.status = .completed ∧ result.output = some text
  accepted : Answered reply (fun answer => Delivers answer ∧ ∀ text, ¬ Holds answer "reply" text) →
    result.status = .accepted ∧ result.output = none

/-- The answer to an order that was sent as a message, by what the remote side replied. -/
structure MessageJudged (reply : Reply Json) (env : Envelope SpawnResult) : Prop where
  well : env.ok = true ↔ Answered reply Delivers
  ok : env.code = .ok ↔ Answered reply Delivers
  forbidden : env.code = .sendForbidden ↔ Answered reply (Says · "forbidden")
  failed : env.code = .sendFailed ↔
    ¬ Answered reply Delivers ∧ ¬ Answered reply (Says · "forbidden")
  told : ∃ result, env.data = some result ∧ MessageTold reply result

namespace Dispatcher

variable {d : Dispatcher} {o : SpawnOrder} {h h' : Host} {log : List Exchange} {agent : AgentName}
  {task : String} {session : Session}

section

variable {target : SessionKey} {outcome : SendOutcome}

theorem sendResult_of_failure {f : Failure} (failed : outcome.failure? = some f) :
    (sendResult agent target outcome).status = .failed ∧
      (sendResult agent target outcome).output = none := by
  simp [sendResult, failed]

theorem sendResult_of_reply {text : String} (delivered : outcome.failure? = none)
    (replied : outcome.reply = some text) :
    (sendResult agent target outcome).status = .completed ∧
      (sendResult agent target outcome).output = some text := by
  simp [sendResult, delivered, replied]

theorem sendResult_of_silence (delivered : outcome.failure? = none)
    (silent : outcome.reply = none) :
    (sendResult agent target outcome).status = .accepted ∧
      (sendResult agent target outcome).output = none := by
  simp [sendResult, delivered, silent]

end

/-- The result of a message goes with its outcome. -/
theorem messageTold_sendResult {reply : Reply Json} {outcome : SendOutcome}
    (judged : SendJudged reply outcome) (agent : AgentName) (target : SessionKey) :
    MessageTold reply (sendResult agent target outcome) := by
  by_cases delivered : outcome.verdict = some .delivered
  · have answered := judged.delivered.1 delivered
    have fine := Remote.SendOutcome.failure?_of_delivered delivered
    refine ⟨⟨_, rfl, judged⟩, fun undelivered => absurd answered undelivered, ?_, ?_⟩
    · rintro text ⟨raw, rfl, -, holds⟩
      exact sendResult_of_reply fine ((judged.replied text).2 ⟨raw, rfl, holds⟩)
    · rintro ⟨raw, rfl, -, silent⟩
      refine sendResult_of_silence fine (Option.eq_none_iff_forall_ne_some.2 fun text replied => ?_)
      exact silent text (Remote.answered_ok.1 ((judged.replied text).1 replied))
  · have unanswered : ¬ Answered reply Delivers := mt judged.delivered.2 delivered
    obtain ⟨f, failed, -⟩ := Remote.SendOutcome.exists_failure? delivered
    refine ⟨⟨_, rfl, judged⟩, fun _ => sendResult_of_failure failed, ?_, ?_⟩
    · rintro text ⟨raw, rfl, delivers, -⟩
      exact absurd ⟨raw, rfl, delivers⟩ unanswered
    · rintro ⟨raw, rfl, delivers, -⟩
      exact absurd ⟨raw, rfl, delivers⟩ unanswered

theorem messageJudged_sentEnvelope (o : SpawnOrder) (agent : AgentName) (reply : Reply Json) :
    MessageJudged reply (sentEnvelope o agent reply) := by
  have judged := Remote.sendJudged_sendReply reply
  have told := messageTold_sendResult judged agent (sendTarget agent o)
  unfold sentEnvelope
  generalize Remote.sendReply reply = outcome at judged told ⊢
  by_cases delivered : outcome.verdict = some .delivered
  · have answered := judged.delivered.1 delivered
    have unforbidden : ¬ Answered reply (Says · "forbidden") := fun said => by
      cases delivered.symm.trans (judged.forbidden.2 said)
    rw [Remote.SendOutcome.failure?_of_delivered delivered]
    exact ⟨iff_of_true rfl answered, iff_of_true rfl answered, iff_of_false nofun unforbidden,
      iff_of_false nofun fun undelivered => undelivered.1 answered, _, rfl, told⟩
  · have unanswered : ¬ Answered reply Delivers := mt judged.delivered.2 delivered
    obtain ⟨f, failed, code⟩ := Remote.SendOutcome.exists_failure? delivered
    rw [failed]
    refine ⟨iff_of_false nofun unanswered, iff_of_false f.code_ne_ok unanswered, ?_, ?_, _, rfl,
      told⟩
    · show f.code = .sendForbidden ↔ _
      rw [code, ← judged.forbidden]
      split <;> simp [*]
    · show f.code = .sendFailed ↔ _
      rw [code, ← judged.forbidden]
      split <;> simp [*]

end Dispatcher

/-! ## What becomes of a spawn -/

namespace Exchange

/-- The invocation of a tool, with the reply to it. -/
def invoked? : Exchange → Option (Remote.Invocation × Reply Json)
  | ⟨.invoke i, reply⟩ => some (i, reply)
  | _ => none

/-- What is entered into the ledger. -/
def entered? : Exchange → Option RunReport
  | ⟨.enter report, _⟩ => some report
  | _ => none

theorem invoked?_of_not_isCall (e : Exchange) (hc : e.question.isCall = false) :
    invoked? e = none := by
  obtain ⟨q, a⟩ := e
  cases q <;> first | rfl | cases hc

theorem entered?_of_isMemory {log : List Exchange}
    (hm : ∀ e ∈ log, e.question.isMemory = true) : log.filterMap entered? = [] := by
  refine List.filterMap_eq_nil_iff.2 fun e he => ?_
  have memory := hm e he
  obtain ⟨q, a⟩ := e
  cases q <;> first | rfl | cases memory

end Exchange

/-- What a spawn answers and leaves in the ledger, by what the remote side replied. -/
structure RunJudged (agent : AgentName) (reply : Reply Json) (l : Ledger) (log : List Exchange)
    (env : Envelope SpawnResult) (l' : Ledger) : Prop where
  well : env.ok = true ↔ ∃ a, Answered reply (Accepts · a)
  forbidden : env.code = .spawnForbidden ↔ Answered reply (Says · "forbidden")
  failed : env.code = .spawnFailed ↔
    (∀ a, ¬ Answered reply (Accepts · a)) ∧ ¬ Answered reply (Says · "forbidden")
  /-- A run is registered if it was accepted, and no other is. -/
  registered : ∀ report, report ∈ log.filterMap Exchange.entered? ↔
    ∃ a, Answered reply (Accepts · a) ∧ report = Dispatcher.acceptedReport agent a
  kept : ∀ a, Answered reply (Accepts · a) → ∃ r, l'.get? a.runId.text = some r ∧
    r.agent = agent ∧ r.childSessionKey = some a.childSessionKey
  unchanged : (∀ a, ¬ Answered reply (Accepts · a)) → l' = l

namespace Dispatcher

variable {d : Dispatcher} {o : SpawnOrder} {h h' : Host} {log : List Exchange} {agent : AgentName}
  {task : String} {session : Session} {a : Acceptance} {l l' : Ledger} {r : RunRecord}

/-- The record of a followed run says whom it was delegated to, and where. -/
theorem Follows.names_eq (follows : d.Follows agent o a l log r l') :
    r.agent = agent ∧ r.childSessionKey = some a.childSessionKey := by
  cases follows <;> exact ⟨rfl, rfl⟩

theorem Follows.entered_eq (follows : d.Follows agent o a l log r l') :
    log.filterMap Exchange.entered? = [acceptedReport agent a] :=
  filterMap_follows follows (fun _ _ => rfl) fun _ _ _ => rfl

theorem Follows.invoked_eq (follows : d.Follows agent o a l log r l') :
    log.filterMap Exchange.invoked? = [] :=
  filterMap_follows follows (fun _ _ => rfl) fun _ _ _ => rfl

/-- A run that was not taken on: nothing is entered. -/
theorem runJudged_of_refusal {reply : Reply Json} {f : Failure}
    (refusal : Remote.spawnReply reply = .error f) (agent : AgentName)
    (nothing : log.filterMap Exchange.entered? = []) :
    RunJudged agent reply l log (.ofFailure f) l := by
  have judged := Remote.spawnJudged_spawnReply reply
  rw [refusal] at judged
  obtain ⟨forbidden, failed⟩ := judged.code_eq
  have unaccepted (a : Acceptance) : ¬ Answered reply (Accepts · a) := fun accepts =>
    nomatch (judged.accepted a).2 accepts
  refine ⟨iff_of_false nofun fun ⟨a, accepts⟩ => unaccepted a accepts, ?_, ?_, fun report => ?_,
    fun a accepts => absurd accepts (unaccepted a), fun _ => rfl⟩
  · refine ⟨fun coded => Classical.byContradiction fun unsaid => ?_, forbidden⟩
    cases coded.symm.trans (failed unsaid)
  · refine ⟨fun coded => ⟨unaccepted, fun said => ?_⟩, fun neither => failed neither.2⟩
    cases coded.symm.trans (forbidden said)
  · rw [nothing]
    exact iff_of_false List.not_mem_nil fun ⟨a, accepts, _⟩ => unaccepted a accepts

/-- A run that was taken on: it alone is entered, and it stays. -/
theorem runJudged_of_acceptance {reply : Reply Json}
    (acceptance : Remote.spawnReply reply = .ok a)
    (entered : log.filterMap Exchange.entered? = [acceptedReport agent a])
    (stored : l'.get? a.runId.text = some r)
    (names : r.agent = agent ∧ r.childSessionKey = some a.childSessionKey)
    (result : SpawnResult) : RunJudged agent reply l log (.success result) l' := by
  have judged := Remote.spawnJudged_spawnReply reply
  rw [acceptance] at judged
  have accepted : Answered reply (Accepts · a) := (judged.accepted a).1 rfl
  have only {a' : Acceptance} (accepts : Answered reply (Accepts · a')) : a' = a := by
    cases (judged.accepted a').2 accepts
    rfl
  have unforbidden : ¬ Answered reply (Says · "forbidden") := fun said => by
    obtain ⟨reason, same⟩ := judged.forbidden.2 said
    cases same
  refine ⟨iff_of_true rfl ⟨a, accepted⟩, iff_of_false nofun unforbidden,
    iff_of_false nofun fun neither => neither.1 a accepted, fun report => ?_, fun a' accepts => ?_,
    fun unaccepted => absurd accepted (unaccepted a)⟩
  · rw [entered, List.mem_singleton]
    constructor
    · rintro rfl
      exact ⟨a, accepted, rfl⟩
    · rintro ⟨a', accepts, rfl⟩
      rw [only accepts]
  · cases only accepts
    exact ⟨r, stored, names⟩

/-- A message is one invocation of the tool that sends, and it is answered as the reply says. -/
theorem SpawnCourse.messageJudged {env : Envelope SpawnResult}
    (course : SpawnCourse d o h log env h') (checked : o.checked = .ok (agent, task))
    (caller : o.session = some session) (sends : o.useSessionsSend = true) :
    ∃ i reply, log.filterMap Exchange.invoked? = [(i, reply)] ∧ i.tool = Remote.Tool.send.name ∧
      MessageJudged reply env := by
  cases course with
  | refused unchecked => cases unchecked.symm.trans checked
  | sessionless _ nobody => cases nobody.symm.trans caller
  | refusedThere _ _ _ spawns | taken _ _ _ spawns => cases spawns.symm.trans sends
  | @sent agent' _ message session' _ _ _ augments _ reply =>
    refine ⟨(d.sendRequest o agent' message session').invocation (Supply.invocation .send h.supply),
      reply, ?_, rfl, messageJudged_sentEnvelope o agent' reply⟩
    rw [← filterMap_calls Exchange.invoked?_of_not_isCall, calls_behind augments.isMemory]
    rfl

/-- A spawn is one invocation of the tool that spawns, and its run is registered if the reply
accepts it. -/
theorem SpawnCourse.runJudged {env : Envelope SpawnResult}
    (course : SpawnCourse d o h log env h') (checked : o.checked = .ok (agent, task))
    (caller : o.session = some session) (spawns : o.useSessionsSend = false) :
    ∃ i reply, log.filterMap Exchange.invoked? = [(i, reply)] ∧ i.tool = Remote.Tool.spawn.name ∧
      RunJudged agent reply h.ledger log env h'.ledger := by
  cases course with
  | refused unchecked => cases unchecked.symm.trans checked
  | sessionless _ nobody => cases nobody.symm.trans caller
  | sent _ _ _ sends => cases sends.symm.trans spawns
  | @refusedThere agent' _ message session' _ _ _ augments _ reply f refusal =>
    refine ⟨(d.spawnRequest o agent' message session').invocation
      (Supply.invocation .spawn h.supply), reply, ?_, rfl, runJudged_of_refusal refusal agent ?_⟩
    · rw [← filterMap_calls Exchange.invoked?_of_not_isCall, calls_behind augments.isMemory]
      rfl
    · rw [List.filterMap_append, Exchange.entered?_of_isMemory augments.isMemory]
      rfl
  | @taken agent' _ message session' _ following _ checked' _ augments _ reply a acceptance r l
      follows _ _ remembers =>
    cases checked'.symm.trans checked
    obtain ⟨memory, -⟩ := performs_persisted remembers
    have ledger := remembers.ledger_eq fun e he => Question.keepsLedger_of_isMemory (memory e he)
    have stored : h'.ledger.get? a.runId.text = some r := by
      rw [ledger, Ledger.get?_of_parse? (Remote.parse?_of_spawnReply acceptance).1,
        ← follows.runId_eq]
      exact follows.stored
    refine ⟨(d.spawnRequest o agent message session').invocation
      (Supply.invocation .spawn h.supply), reply, ?_, rfl,
      runJudged_of_acceptance acceptance ?_ stored follows.names_eq _⟩
    · rw [← filterMap_calls Exchange.invoked?_of_not_isCall, calls_between augments.isMemory memory,
        List.filterMap_cons, filterMap_calls Exchange.invoked?_of_not_isCall, follows.invoked_eq]
      rfl
    · rw [List.filterMap_append, List.filterMap_append, List.filterMap_append,
        Exchange.entered?_of_isMemory augments.isMemory, Exchange.entered?_of_isMemory memory,
        follows.entered_eq]
      rfl

end Dispatcher

/-! ## Every reply -/

open Remote (SpawnRequest SendRequest Tool)

/-- A procedure invokes a tool, once. Whatever the reply, it comes to an end, and whichever way it
goes, it goes as is judged by the reply. -/
structure Settles {α : Type} (h : Host) (p : Procedure α) (tool : Tool)
    (judged : Reply Json → List Exchange → α → Host → Prop) : Prop where
  total : ∀ reply, ∃ i log x h', h.Performs p log x h' ∧
    log.filterMap Exchange.invoked? = [(i, reply)]
  sound : ∀ log x h', h.Performs p log x h' → ∃ i reply,
    log.filterMap Exchange.invoked? = [(i, reply)] ∧ i.tool = tool.name ∧ judged reply log x h'

/-- There is a way for every reply, since the others may behave so that they reply it. -/
theorem Settles.of_judged {α : Type} {h : Host} {p : Procedure α} {tool : Tool}
    {judged : Reply Json → List Exchange → α → Host → Prop}
    (sound : ∀ log x h', h.Performs p log x h' → ∃ i reply,
      log.filterMap Exchange.invoked? = [(i, reply)] ∧ i.tool = tool.name ∧
        judged reply log x h') : Settles h p tool judged := by
  refine ⟨fun reply => ?_, sound⟩
  obtain ⟨log, x, h', performs, shows⟩ :=
    h.performs_of_behaviour (fun _ q => (h.answer reply q).1) p
  obtain ⟨i, reply', invoked, -, -⟩ := sound log x h' performs
  obtain ⟨⟨q, a⟩, he, asked⟩ := List.mem_filterMap.1
    (invoked ▸ List.mem_singleton.2 rfl : (i, reply') ∈ log.filterMap Exchange.invoked?)
  obtain ⟨before, after, split⟩ := List.append_of_mem he
  cases q with
  | invoke j =>
    cases asked
    cases shows before _ after split rfl
    exact ⟨i, log, x, h', performs, invoked⟩
  | _ => cases asked

theorem Settles.exists_judged {α : Type} {h : Host} {p : Procedure α} {tool : Tool}
    {judged : Reply Json → List Exchange → α → Host → Prop} (settles : Settles h p tool judged)
    (reply : Reply Json) : ∃ log x h', h.Performs p log x h' ∧ judged reply log x h' := by
  obtain ⟨i, log, x, h', performs, invoked⟩ := settles.total reply
  obtain ⟨i', reply', invoked', -, holds⟩ := settles.sound log x h' performs
  cases invoked.symm.trans invoked'
  exact ⟨log, x, h', performs, holds⟩

/-- What the remote side answers to a spawn or to a message decides what becomes of it: the verdict
of the call, the answer of the dispatcher, and whether a run is registered. -/
theorem replies_judged {d : Dispatcher} (real : d.config.backend = .real) {o : SpawnOrder}
    {agent : AgentName} {task : String} (checked : o.checked = .ok (agent, task))
    {session : Session} (caller : o.session = some session) (h : Host) :
    (∀ r : SpawnRequest, Settles h (Remote.spawn r) .spawn fun reply _ x _ =>
      SpawnJudged reply x) ∧
    (∀ r : SendRequest, Settles h (Remote.send r) .send fun reply _ outcome _ =>
      SendJudged reply outcome) ∧
    (o.useSessionsSend = false → Settles h (d.spawn o) .spawn fun reply log env h' =>
      RunJudged agent reply h.ledger log env h'.ledger) ∧
    (o.useSessionsSend = true → Settles h (d.spawn o) .send fun reply _ env _ =>
      MessageJudged reply env) := by
  refine ⟨fun r => .of_judged fun log x h' performs => ?_,
    fun r => .of_judged fun log x h' performs => ?_,
    fun spawns => .of_judged fun log env h' performs => ?_,
    fun sends => .of_judged fun log env h' performs => ?_⟩
  · obtain ⟨reply, rfl, rfl, -⟩ := Remote.performs_spawn.1 performs
    exact ⟨_, reply, rfl, rfl, Remote.spawnJudged_spawnReply reply⟩
  · obtain ⟨reply, rfl, rfl, -⟩ := Remote.performs_send.1 performs
    exact ⟨_, reply, rfl, rfl, Remote.sendJudged_sendReply reply⟩
  · exact ((Dispatcher.performs_spawn real).1 performs).runJudged checked caller spawns
  · exact ((Dispatcher.performs_spawn real).1 performs).messageJudged checked caller sends

namespace Sample

/-- An order that goes out as a message. -/
def message : SpawnOrder := { order with useSessionsSend := true }

/-- The message was delivered, and there is a reply to it. -/
def delivered : Json :=
  .obj [("details", .obj [("reply", .str " done\n"), ("status", .str " OK ")])]

/-- The spawn is forbidden, although the run and its session are named. -/
def forbidden : Json :=
  .obj [("details", .obj [("childSessionKey", .str "child"), ("runId", .str "r-1"),
    ("status", .str "Forbidden")])]

end Sample

/-- A message that is delivered and replied to, and a spawn that is forbidden. -/
theorem replies_judged_sample :
    (∃ log env h' result, Host.Performs (.ofConfig {}) (Sample.dispatcher.spawn Sample.message) log
        env h' ∧ env.ok = true ∧ env.data = some result ∧ result.status = .completed ∧
      result.output = some "done") ∧
    ∃ log env h', Host.Performs (.ofConfig {}) (Sample.dispatcher.spawn Sample.order) log env h' ∧
      env.ok = false ∧ env.code = .spawnForbidden ∧ h'.ledger = .empty := by
  have checked : Sample.order.checked = .ok (⟨"technical"⟩, "fix it") := rfl
  have sent : Sample.message.checked = .ok (⟨"technical"⟩, "fix it") := rfl
  constructor
  · obtain ⟨-, -, -, sends⟩ :=
      replies_judged (d := Sample.dispatcher) rfl sent rfl (.ofConfig {})
    obtain ⟨log, env, h', performs, judged⟩ := (sends rfl).exists_judged (.ok Sample.delivered)
    have delivers : Delivers (unwrapped Sample.delivered) := .inl ⟨" OK ", rfl, by decide⟩
    have holds : Holds (unwrapped Sample.delivered) "reply" "done" :=
      ⟨by decide, " done\n", rfl, by decide⟩
    obtain ⟨result, told, tells⟩ := judged.told
    obtain ⟨completed, output⟩ := tells.completed "done" ⟨_, rfl, delivers, holds⟩
    exact ⟨log, env, h', result, performs, judged.well.2 ⟨_, rfl, delivers⟩, told, completed,
      output⟩
  · obtain ⟨-, -, spawns, -⟩ :=
      replies_judged (d := Sample.dispatcher) rfl checked rfl (.ofConfig {})
    obtain ⟨log, env, h', performs, judged⟩ := (spawns rfl).exists_judged (.ok Sample.forbidden)
    have said : Says (unwrapped Sample.forbidden) "forbidden" := ⟨"Forbidden", rfl, by decide⟩
    have unaccepted (a : Acceptance) : ¬ Answered (.ok Sample.forbidden) (Accepts · a) :=
      fun accepts => (Remote.answered_ok.1 accepts).not_forbidden said
    refine ⟨log, env, h', performs, eq_false_of_ne_true fun well => ?_,
      judged.forbidden.2 ⟨_, rfl, said⟩, judged.unchanged unaccepted⟩
    obtain ⟨a, accepts⟩ := judged.well.1 well
    exact unaccepted a accepts

end Delegation
