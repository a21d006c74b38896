import Delegation.Bench

/-!
# Performing a procedure

A procedure is performed on a host: the ledger answers as it does, and whoever else is asked may
answer anything. `Host.Answers` says which answers a question can get and what the host is then;
`Host.Performs` says how a whole procedure can go, with the list of its exchanges. The procedures
that run on the bench are performances too (`performs_run`), so what holds of every performance
holds of every script. Nor is there a behaviour of the others that keeps a procedure from coming to
an end (`performs_of_behaviour`).

A collaborator outside the ledger is either the host's own or a stand-in that leaves the host as
it is. A law about all performances is therefore a law about every behaviour of the remote side,
of the simulator and of the memory.
-/

namespace Delegation

/-- A question with the answer that it got. -/
structure Exchange where
  question : Question
  answer : question.Answer

namespace Question

/-- May somebody else than the host answer this? The ledger and the supply of names are its own. -/
def isOutside : Question → Bool
  | .mint _ => false
  | .find _ => false
  | .enter _ => false
  | .amend _ _ => false
  | _ => true

/-- Does a question leave the ledger as it is, whoever answers it? -/
def keepsLedger : Question → Bool
  | .enter _ => false
  | .amend _ _ => false
  | _ => true

end Question

/-- Does an exchange leave the ledger, the simulator and the memory as they are? A simulated run
that was refused does. -/
def Exchange.isIdle : Exchange → Bool
  | ⟨.enter _, _⟩ => false
  | ⟨.amend _ _, _⟩ => false
  | ⟨.simulate _ _ _, started⟩ => !Except.isOk started
  | ⟨.store _, _⟩ => false
  | ⟨.capture _ _ _, _⟩ => false
  | _ => true

namespace Host

variable {h h' : Host}

/-- An answer that a question can get from a host, and the host afterwards. -/
inductive Answers (h : Host) : (q : Question) → q.Answer → Host → Prop
  /-- The host answers; for the remote side it is told the reply. -/
  | own (remote : Reply Json) (q : Question) :
    Answers h q (h.answer remote q).1 (h.answer remote q).2
  /-- A stand-in answers whatever it likes. -/
  | standIn (q : Question) (a : q.Answer) (outside : q.isOutside = true) : Answers h q a h

/-! ## Single answers -/

/-- Nobody but the host answers for the ledger and the supply of names, and what the remote side
would reply does not matter. -/
theorem answers_inside {q : Question} {a : q.Answer} {h₁ : Host} (inside : q.isOutside = false)
    (own : ∀ remote, h.answer remote q = (a, h₁)) {a' : q.Answer} :
    h.Answers q a' h' ↔ a' = a ∧ h' = h₁ := by
  constructor
  · intro ha
    cases ha with
    | own remote => rw [own]; exact ⟨rfl, rfl⟩
    | standIn _ _ outside => rw [inside] at outside; cases outside
  · rintro ⟨rfl, rfl⟩
    have answered := Answers.own (h := h) (.error "") q
    rwa [own] at answered

/-- A question to the remote side or to the memory can get any answer, and leaves the host as it
is if the host does. -/
theorem answers_outside {q : Question} {a : q.Answer} (outside : q.isOutside = true)
    (leaves : ∀ remote, (h.answer remote q).2 = h) : h.Answers q a h' ↔ h' = h := by
  constructor
  · intro ha
    cases ha with
    | own remote => exact leaves remote
    | standIn => rfl
  · rintro rfl
    exact .standIn q a outside

theorem answers_mint {tool : Remote.Tool} {a : CallId} :
    h.Answers (.mint tool) a h' ↔ a = Supply.invocation tool h.supply ∧ h' = h.renewed :=
  answers_inside rfl fun _ => rfl

theorem answers_find {id : String} {a : Option RunRecord} :
    h.Answers (.find id) a h' ↔ a = h.ledger.get? id ∧ h' = h :=
  answers_inside rfl fun _ => rfl

theorem answers_enter {report : RunReport} {a : Option RunRecord} :
    h.Answers (.enter report) a h' ↔
      a = (h.ledger.upsert report).1 ∧ h' = { h with ledger := (h.ledger.upsert report).2 } :=
  answers_inside rfl fun _ => by simp only [answer]

theorem answers_amend {id : String} {news : RunPatch} {a : Option RunRecord} :
    h.Answers (.amend id news) a h' ↔
      a = (h.ledger.patch id news).1 ∧ h' = { h with ledger := (h.ledger.patch id news).2 } :=
  answers_inside rfl fun _ => by simp only [answer]

theorem answers_invoke {i : Remote.Invocation} {a : Reply Json} :
    h.Answers (.invoke i) a h' ↔ h' = h :=
  answers_outside rfl fun _ => rfl

theorem answers_call {c : Remote.MethodCall} {a : Reply Json} :
    h.Answers (.call c) a h' ↔ h' = h :=
  answers_outside rfl fun _ => rfl

theorem answers_search {query : String} {topK : UInt64} {minScore : Number.Single}
    {a : Reply (List MemoryHit)} : h.Answers (.search query topK minScore) a h' ↔ h' = h :=
  answers_outside rfl fun _ => rfl

section

variable {agent : AgentName} {task : String} {label : Option String} {remote : Reply Json}

/-- The host's own simulator starts a run. -/
theorem answer_simulate_eq_ok_iff {started : RunRecord} :
    h.answer remote (.simulate agent task label) = (.ok started, h') ↔
      h.simulate agent task label = (some started, h') := by
  rw [Prod.ext_iff, Prod.ext_iff]
  exact and_congr_left' SimulatorError.orStarted_eq_ok_iff

/-- The host's own simulator starts none, and names whom it was asked for. -/
theorem answer_simulate_eq_error_iff {e : SimulatorError} :
    h.answer remote (.simulate agent task label) = (.error e, h') ↔
      h.simulate agent task label = (none, h') ∧ e = .unknownAgent agent.text := by
  rw [Prod.ext_iff, Prod.ext_iff, and_right_comm]
  exact and_congr_left' SimulatorError.orStarted_eq_error_iff

end

theorem Answers.ledger_eq {q : Question} {a : q.Answer} (ha : h.Answers q a h')
    (keeps : q.keepsLedger = true) : h'.ledger = h.ledger := by
  cases ha with
  | standIn => rfl
  | own remote =>
    cases q with
    | enter | amend => cases keeps
    | _ => simp only [answer, simulate, await, store, capture, renewed]

/-- A refused run changes nothing in the simulator: nothing was evicted for it. -/
theorem simulator_simulate {agent : AgentName} {task : String} {label : Option String}
    (refused : h.simulate agent task label = (none, h')) : h'.simulator = h.simulator := by
  unfold Host.simulate Simulator.spawn at refused
  by_cases known : agent.text ∈ h.simulator.agents
  · rw [if_pos known] at refused
    cases refused
  · rw [if_neg known] at refused
    cases refused
    rfl

theorem Answers.eq_of_isIdle {q : Question} {a : q.Answer} (ha : h.Answers q a h')
    (idle : Exchange.isIdle ⟨q, a⟩ = true) :
    h'.ledger = h.ledger ∧ h'.simulator = h.simulator ∧ h'.memory = h.memory := by
  cases ha with
  | standIn => exact ⟨rfl, rfl, rfl⟩
  | own remote =>
    cases q with
    | enter | amend | store | capture => cases idle
    | simulate agent task label =>
      cases asked : (h.answer remote (.simulate agent task label)).1 with
      | ok started => simp [Exchange.isIdle, asked, Except.isOk, Except.toBool] at idle
      | error e =>
        have refused := (answer_simulate_eq_error_iff.1 (Prod.ext asked rfl)).1
        exact ⟨rfl, simulator_simulate refused, rfl⟩
    | _ => simp only [answer, await, renewed, and_self]

/-! ## Whole procedures -/

end Host

/-- What the others answer to a question, given what was exchanged before. -/
def Behaviour := List Exchange → (q : Question) → q.Answer

/-- Everything that is asked of the others is answered as they behave. -/
def Behaviour.Shows (others : Behaviour) (log : List Exchange) : Prop :=
  ∀ before e after, log = before ++ e :: after → e.question.isOutside = true →
    e.answer = others before e.question

namespace Host

variable {h h' : Host}

/-- The ways in which a procedure can go: what is exchanged, the result, and the host at the end. -/
inductive Performs {α : Type} : Host → Procedure α → List Exchange → α → Host → Prop
  | done (h : Host) (a : α) : Performs h (.done a) [] a h
  | ask {h h₁ h' : Host} {q : Question} {next : q.Answer → Procedure α} {a : q.Answer}
      {log : List Exchange} {b : α} (answered : h.Answers q a h₁)
      (rest : Performs h₁ (next a) log b h') : Performs h (.ask q next) (⟨q, a⟩ :: log) b h'

variable {α β : Type} {log : List Exchange}

theorem performs_done {a b : α} :
    h.Performs (.done a) log b h' ↔ log = [] ∧ b = a ∧ h' = h := by
  constructor
  · intro hp
    cases hp
    exact ⟨rfl, rfl, rfl⟩
  · rintro ⟨rfl, rfl, rfl⟩
    exact .done _ _

theorem performs_pure {a b : α} :
    h.Performs (pure a) log b h' ↔ log = [] ∧ b = a ∧ h' = h :=
  performs_done

theorem performs_ask {q : Question} {next : q.Answer → Procedure α} {b : α} :
    h.Performs (.ask q next) log b h' ↔
      ∃ a h₁ rest, h.Answers q a h₁ ∧ h₁.Performs (next a) rest b h' ∧ log = ⟨q, a⟩ :: rest := by
  constructor
  · intro hp
    cases hp with
    | ask answered rest => exact ⟨_, _, _, answered, rest, rfl⟩
  · rintro ⟨a, h₁, rest, answered, hp, rfl⟩
    exact .ask answered hp

/-- A single question. -/
theorem performs_asking {q : Question} {a : q.Answer} :
    h.Performs (.ask q .done) log a h' ↔ log = [⟨q, a⟩] ∧ h.Answers q a h' := by
  rw [performs_ask]
  constructor
  · rintro ⟨b, h₁, rest, answered, hp, rfl⟩
    obtain ⟨rfl, rfl, rfl⟩ := performs_done.1 hp
    exact ⟨rfl, answered⟩
  · rintro ⟨rfl, answered⟩
    exact ⟨a, h', [], answered, .done _ _, rfl⟩

/-- To perform a sequence is to perform its parts in order. -/
theorem performs_bind {p : Procedure α} {f : α → Procedure β} {b : β} :
    h.Performs (p >>= f) log b h' ↔
      ∃ log₁ a h₁ log₂, h.Performs p log₁ a h₁ ∧ h₁.Performs (f a) log₂ b h' ∧
        log = log₁ ++ log₂ := by
  show h.Performs (p.bind f) log b h' ↔ _
  induction p generalizing h log with
  | done a =>
    constructor
    · intro hp
      exact ⟨[], a, h, log, .done h a, hp, rfl⟩
    · rintro ⟨log₁, a', h₁, log₂, hp, hf, rfl⟩
      obtain ⟨rfl, rfl, rfl⟩ := performs_done.1 hp
      exact hf
  | ask q next ih =>
    constructor
    · intro hp
      obtain ⟨a, h₁, rest, answered, hr, rfl⟩ := performs_ask.1 hp
      obtain ⟨log₁, c, h₂, log₂, hn, hf, rfl⟩ := (ih a).1 hr
      exact ⟨_, c, h₂, log₂, .ask answered hn, hf, rfl⟩
    · rintro ⟨log₁, c, h₂, log₂, hp, hf, rfl⟩
      obtain ⟨a, h₁, rest, answered, hn, rfl⟩ := performs_ask.1 hp
      exact .ask answered ((ih a).2 ⟨rest, c, h₂, log₂, hn, hf, rfl⟩)

/-- A performance after which only a function is applied. -/
theorem performs_map {p : Procedure α} {f : α → β} {b : β} :
    h.Performs (p >>= fun a => pure (f a)) log b h' ↔ ∃ a, h.Performs p log a h' ∧ b = f a := by
  rw [performs_bind]
  constructor
  · rintro ⟨log₁, a, h₁, log₂, hp, hf, rfl⟩
    obtain ⟨rfl, rfl, rfl⟩ := performs_pure.1 hf
    exact ⟨a, by rwa [List.append_nil], rfl⟩
  · rintro ⟨a, hp, rfl⟩
    exact ⟨log, a, h', [], hp, .done _ _, by rw [List.append_nil]⟩

/-- Whatever the others answer, a procedure comes to an end. -/
theorem performs_of_behaviour (h : Host) (others : Behaviour) (p : Procedure α) :
    ∃ log a h', h.Performs p log a h' ∧ others.Shows log := by
  induction p generalizing h others with
  | done a => exact ⟨[], a, h, .done h a, fun before e after split => by simp at split⟩
  | ask q next ih =>
    obtain ⟨a, h₁, answered, shown⟩ : ∃ a h₁, h.Answers q a h₁ ∧
        (q.isOutside = true → a = others [] q) := by
      cases outside : q.isOutside with
      | true => exact ⟨_, h, .standIn q (others [] q) outside, fun _ => rfl⟩
      | false => exact ⟨_, _, .own (.error "") q, nofun⟩
    -- from here on the others behave as they do after this exchange
    obtain ⟨log, b, h', rest, shows⟩ := ih a h₁ fun before => others (⟨q, a⟩ :: before)
    refine ⟨_, b, h', .ask answered rest, fun before e after split => ?_⟩
    cases before with
    | nil =>
      cases split
      exact shown
    | cons _ before =>
      cases split
      exact shows before e after rfl

/-! ## What a whole performance leaves as it is -/

theorem Performs.ledger_eq {p : Procedure α} {a : α} (hp : h.Performs p log a h')
    (keeps : ∀ e ∈ log, e.question.keepsLedger = true) : h'.ledger = h.ledger := by
  induction hp with
  | done => rfl
  | ask answered _ ih =>
    rw [ih fun e he => keeps e (.tail _ he), answered.ledger_eq (keeps _ (.head _))]

theorem Performs.eq_of_isIdle {p : Procedure α} {a : α} (hp : h.Performs p log a h')
    (idle : ∀ e ∈ log, e.isIdle = true) :
    h'.ledger = h.ledger ∧ h'.simulator = h.simulator ∧ h'.memory = h.memory := by
  induction hp with
  | done => exact ⟨rfl, rfl, rfl⟩
  | ask answered _ ih =>
    obtain ⟨hl, hs, hm⟩ := ih fun e he => idle e (.tail _ he)
    obtain ⟨hl₁, hs₁, hm₁⟩ := answered.eq_of_isIdle (idle _ (.head _))
    exact ⟨hl.trans hl₁, hs.trans hs₁, hm.trans hm₁⟩

end Host

/-! ## The bench -/

namespace Bench

theorem host_logged (b : Bench) (q : Question) : (b.logged q).host = b.host := by
  unfold logged
  split <;> rfl

theorem host_replyToTool (b : Bench) : b.replyToTool.2.host = b.host := by
  unfold replyToTool
  split <;> rfl

theorem host_replyToMethod (b : Bench) (method : String) :
    (b.replyToMethod method).2.host = b.host := by
  unfold replyToMethod
  split <;> rfl

/-- What the bench answers is an answer, scripted or not. -/
theorem answers_respond (b : Bench) (q : Question) :
    b.host.Answers q (b.respond q).1 (b.respond q).2.host := by
  have fromHost : b.host.Answers q (b.fromHost q).1 (b.fromHost q).2.host :=
    .own (.error "") q
  cases q with
  | mint | find | enter | amend => simpa only [respond] using fromHost
  | invoke i =>
    show b.host.Answers (.invoke i) b.replyToTool.1 b.replyToTool.2.host
    exact Host.answers_invoke.2 b.host_replyToTool
  | call c =>
    show b.host.Answers (.call c) (b.replyToMethod c.method).1 (b.replyToMethod c.method).2.host
    exact Host.answers_call.2 (b.host_replyToMethod c.method)
  | simulate | await | observe | search | store | capture =>
    -- scripted or made to fail, or else the host's own
    unfold respond
    dsimp only
    split
    · exact .standIn _ _ rfl
    · exact fromHost

/-- What runs on the bench is a performance on its host. -/
theorem performs_run {α : Type} (b : Bench) (p : Procedure α) :
    ∃ log, b.host.Performs p log (run p b).1 (run p b).2.host := by
  induction p generalizing b with
  | done a => exact ⟨[], .done b.host a⟩
  | ask q next ih =>
    have answered := answers_respond (b.logged q) q
    rw [host_logged] at answered
    obtain ⟨log, rest⟩ := ih (answer q b).1 (answer q b).2
    exact ⟨_, .ask answered rest⟩

end Bench

end Delegation
