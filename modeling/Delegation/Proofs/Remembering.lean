import Delegation.Proofs.Mirroring

/-!
# What is remembered of a result

A result is remembered if that is wanted, if it is the memory agent's, and if it is the result of a
run and not of a message (`SpawnOrder.isKept`). What is then asked of the memory is settled by the
result (`Dispatcher.Keeps`): nothing, or to store its output, and after that, and only if it was
stored, to capture the exchange. `persistence` says so of every spawn on either backend. Nor does it
matter to anybody what the memory answers: `keeping` compares two runs that differ in that.
-/

namespace Delegation

variable {d : Dispatcher} {o : SpawnOrder} {agent : AgentName} {task : String} {h h' : Host}
  {log : List Exchange}

namespace Question

/-- Does a question put something into the memory? -/
def isKeeping : Question → Bool
  | .store _ => true
  | .capture _ _ _ => true
  | _ => false

theorem isMemory_of_isKeeping {q : Question} (hq : q.isKeeping = true) : q.isMemory = true := by
  cases q <;> first | rfl | cases hq

end Question

/-- What was put into the memory, and how it answered. -/
def keepings (log : List Exchange) : List Exchange := log.filter (·.question.isKeeping)

@[simp] theorem keepings_append (log₁ log₂ : List Exchange) :
    keepings (log₁ ++ log₂) = keepings log₁ ++ keepings log₂ :=
  List.filter_append log₁ log₂

/-- Is the result of an order to be remembered? -/
def SpawnOrder.isKept (o : SpawnOrder) (d : Dispatcher) : Bool :=
  o.persistMemory && Text.trim o.agent == d.config.memoryAgent &&
    !(d.config.backend = .real && o.useSessionsSend)

namespace Dispatcher

/-- The output that is worth remembering: that of a completed run, if it is not blank. -/
def keepable? (d : Dispatcher) (r : SpawnResult) : Option String :=
  if d.hasMemory ∧ r.status = .completed then r.output.filter fun s => Text.trim s ≠ "" else none

/-- The entry that a result becomes. -/
def memoryOf (agent : AgentName) (output : String) (r : SpawnResult) : MemoryEntry where
  content := Text.trim output
  agent := some agent
  sourceRun := r.runId

theorem keepable?_eq_some_iff {r : SpawnResult} {output : String} :
    d.keepable? r = some output ↔
      d.hasMemory = true ∧ r.status = .completed ∧ r.output = some output ∧
        Text.trim output ≠ "" := by
  unfold keepable?
  by_cases fit : d.hasMemory = true ∧ r.status = .completed
  · rw [if_pos fit, Option.filter_eq_some_iff]
    simp [fit]
  · rw [if_neg fit]
    constructor
    · intro none
      cases none
    · rintro ⟨memory, completed, -⟩
      exact absurd ⟨memory, completed⟩ fit

/-- What is asked of the memory for a result, and what is reported of it. -/
inductive Keeps (d : Dispatcher) (agent : AgentName) (task : String) (r : SpawnResult) :
    List Exchange → MemoryReport → Prop
  | unfit (nothing : d.keepable? r = none) (reason : String) :
    Keeps d agent task r [] (.skipped reason)
  | failed {output : String} (keepable : d.keepable? r = some output) (reason : String) :
    Keeps d agent task r [⟨.store (memoryOf agent output r), .error reason⟩]
      (.skipped ("store failed: " ++ reason))
  | stored {output : String} (keepable : d.keepable? r = some output) (id : String)
    (captured : Reply UInt64) :
    Keeps d agent task r
      [⟨.store (memoryOf agent output r), .ok id⟩, ⟨.capture agent task output, captured⟩]
      ⟨true, some id, captured.toOption.getD 0, none⟩

theorem keeps_of_remember {r : SpawnResult} {output : String} {report : MemoryReport}
    (keepable : d.keepable? r = some output)
    (hp : h.Performs (remember agent task output r.runId) log report h') :
    d.Keeps agent task r log report := by
  obtain ⟨log₁, stored, h₁, log₂, hs, hc, rfl⟩ := Host.performs_bind.1 hp
  obtain ⟨rfl, -⟩ := Host.performs_asking.1 hs
  cases stored with
  | error reason =>
    obtain ⟨rfl, rfl, -⟩ := Host.performs_pure.1 hc
    exact .failed keepable reason
  | ok id =>
    obtain ⟨captured, ha, rfl⟩ := Host.performs_map.1 hc
    obtain ⟨rfl, -⟩ := Host.performs_asking.1 ha
    exact .stored keepable id captured

theorem keeps_of_memoryReport {r : SpawnResult} {report : MemoryReport}
    (hp : h.Performs (d.memoryReport agent task r) log report h') :
    d.Keeps agent task r log report := by
  have skipped {reason : String} (nothing : d.keepable? r = none)
      (hs : h.Performs (pure (.skipped reason)) log report h') :
      d.Keeps agent task r log report := by
    obtain ⟨rfl, rfl, -⟩ := Host.performs_pure.1 hs
    exact .unfit nothing reason
  unfold memoryReport at hp
  by_cases memory : d.hasMemory = true
  · by_cases completed : r.status = .completed
    · simp only [memory, completed, Bool.not_true, Bool.false_eq_true, if_false, ne_eq,
        not_true_eq_false] at hp
      cases output : r.output with
      | none =>
        rw [output] at hp
        exact skipped (by simp [keepable?, memory, completed, output]) hp
      | some text =>
        rw [output] at hp
        dsimp only at hp
        by_cases blank : Text.trim text = ""
        · rw [if_pos blank] at hp
          exact skipped (by simp [keepable?, memory, completed, output, blank]) hp
        · rw [if_neg blank] at hp
          exact keeps_of_remember (by simp [keepable?, memory, completed, output, blank]) hp
    · simp only [memory, Bool.not_true, Bool.false_eq_true, if_false, ne_eq, completed,
        not_false_eq_true, if_true] at hp
      exact skipped (by simp [keepable?, completed]) hp
  · simp only [memory, Bool.not_false, if_true] at hp
    exact skipped (by simp [keepable?, memory]) hp

/-- A result is remembered if that is wanted and it is the memory agent's; else it stays as it is,
and nobody is asked. -/
theorem keeps_of_persisted {r r' : SpawnResult}
    (hp : h.Performs (d.persisted o agent task r) log r' h') :
    if o.persistMemory && agent.text == d.config.memoryAgent then
      ∃ report, r' = { r with memory := some report } ∧ d.Keeps agent task r log report
    else r' = r ∧ log = [] := by
  unfold persisted at hp
  cases wanted : o.persistMemory && agent.text == d.config.memoryAgent with
  | true =>
    rw [wanted, if_pos rfl] at hp
    obtain ⟨report, hr, rfl⟩ := Host.performs_map.1 hp
    rw [if_pos rfl]
    exact ⟨report, rfl, keeps_of_memoryReport hr⟩
  | false =>
    rw [wanted, if_neg Bool.false_ne_true] at hp
    obtain ⟨rfl, rfl, -⟩ := Host.performs_pure.1 hp
    rw [if_neg Bool.false_ne_true]
    exact ⟨rfl, rfl⟩

/-! ## The end of a spawn -/

theorem keepings_of_augments {message : String} (augments : d.Augments o task log message) :
    keepings log = [] := by
  cases augments <;> rfl

theorem keepings_of_reads {t : Tracker} {r : RunRecord} {s : Status} {output : Option String}
    (reads : t.Reads r s log output) : keepings log = [] := by
  cases reads <;> rfl

theorem keepings_of_follows {a : Remote.Acceptance} {l l' : Ledger} {r : RunRecord}
    (follows : d.Follows agent o a l log r l') : keepings log = [] := by
  cases follows with
  | atOnce | unanswered => rfl
  | @answered reading _ _ _ reads =>
    show keepings (reading ++ _) = []
    rw [keepings_append, keepings_of_reads reads]
    rfl

theorem keepings_of_starts {message : String} {r : RunRecord}
    (starts : Starts o agent message h log r h') : keepings log = [] := by
  cases starts <;> rfl

/-- A spawn ends without a result to remember, or with the remembering of one. -/
inductive Finishes (d : Dispatcher) (o : SpawnOrder) :
    List Exchange → Envelope SpawnResult → Prop
  | unkept {log : List Exchange} {env : Envelope SpawnResult} (nothing : keepings log = [])
    (bare : ∀ result, env.data = some result → result.memory = none)
    (why : env.ok = false ∨ o.isKept d = false) : Finishes d o log env
  | run {agent : AgentName} {task : String} {before after : List Exchange} {r result : SpawnResult}
    {h h' : Host} (checked : o.checked = .ok (agent, task)) (nothing : keepings before = [])
    (spawns : (decide (d.config.backend = .real) && o.useSessionsSend) = false)
    (bare : r.memory = none) (remembers : h.Performs (d.persisted o agent task r) after result h') :
    Finishes d o (before ++ after) (.success result)

theorem finishes_of_performs {env : Envelope SpawnResult} (hp : h.Performs (d.spawn o) log env h') :
    d.Finishes o log env := by
  cases backend : d.config.backend with
  | real =>
    cases (performs_spawn backend).1 hp with
    | refused | sessionless => exact .unkept rfl (fun _ same => nomatch same) (.inl rfl)
    | sent _ _ augments sends reply =>
      refine .unkept ?_ ?_ (.inr (by simp [SpawnOrder.isKept, backend, sends]))
      · rw [keepings_append, keepings_of_augments augments]
        rfl
      · intro result same
        unfold sentEnvelope at same
        cases hf : (Remote.sendReply reply).failure? <;> rw [hf] at same <;> cases same <;> rfl
    | refusedThere _ _ augments =>
      refine .unkept ?_ (fun _ same => nomatch same) (.inl rfl)
      rw [keepings_append, keepings_of_augments augments]
      rfl
    | taken checked _ augments spawns _ follows remembers =>
      refine .run checked ?_ (by simp [spawns]) rfl remembers
      rw [keepings_append, keepings_append, keepings_of_augments augments,
        keepings_of_follows follows]
      rfl
  | mock =>
    cases simulatedCourse_of_performs backend hp with
    | refused => exact .unkept rfl (fun _ same => nomatch same) (.inl rfl)
    | unknown _ augments =>
      refine .unkept ?_ (fun _ same => nomatch same) (.inl rfl)
      rw [keepings_append, keepings_of_augments augments]
      rfl
    | started checked augments starts remembers =>
      refine .run checked ?_ (by simp [backend]) rfl remembers
      rw [keepings_append, keepings_of_augments augments, keepings_of_starts starts]
      rfl

/-- What the memory is asked in the course of a spawn, and what is reported of it. -/
structure Persists (d : Dispatcher) (o : SpawnOrder) (log : List Exchange)
    (env : Envelope SpawnResult) : Prop where
  /-- There is a report exactly if the order went well and its result is to be remembered. -/
  reported : (∃ result report, env.data = some result ∧ result.memory = some report) ↔
    env.ok = true ∧ o.isKept d = true
  /-- Something is put into the memory exactly if besides there is one, and the result is the output
  of a completed run. -/
  asked : keepings log ≠ [] ↔ env.ok = true ∧ o.isKept d = true ∧ d.hasMemory = true ∧
    ∃ result output, env.data = some result ∧ result.status = .completed ∧
      result.output = some output ∧ Text.trim output ≠ ""
  /-- The output is stored once, and if that succeeds the exchange is captured once; the report says
  what came of it. -/
  told : ∀ result report, env.data = some result → result.memory = some report →
    (keepings log = [] ∧ report.persisted = false ∧ report.captured = 0) ∨
    ∃ output, result.output = some output ∧
      ((∃ reason, report.persisted = false ∧ report.captured = 0 ∧ keepings log =
        [⟨.store ⟨Text.trim output, some ⟨Text.trim o.agent⟩, result.runId, []⟩, .error reason⟩]) ∨
      ∃ id captured, report.persisted = true ∧ report.captured = captured.toOption.getD 0 ∧
        keepings log =
          [⟨.store ⟨Text.trim output, some ⟨Text.trim o.agent⟩, result.runId, []⟩, .ok id⟩,
            ⟨.capture ⟨Text.trim o.agent⟩ (Text.trim o.task) output, captured⟩])

theorem Finishes.persists {env : Envelope SpawnResult} (finishes : d.Finishes o log env) :
    d.Persists o log env := by
  cases finishes with
  | unkept nothing bare why =>
    have unwanted : ¬ (env.ok = true ∧ o.isKept d = true) := by
      rintro ⟨well, kept⟩
      rcases why with failed | unkept
      · simp [failed] at well
      · simp [unkept] at kept
    refine ⟨⟨?_, fun wanted => absurd wanted unwanted⟩,
      ⟨fun some => absurd nothing some, fun wanted => absurd ⟨wanted.1, wanted.2.1⟩ unwanted⟩, ?_⟩
    · rintro ⟨result, report, same, remembered⟩
      simp [bare result same] at remembered
    · intro result report same remembered
      simp [bare result same] at remembered
  | @run agent task before after r result h h' checked nothing spawns bare remembers =>
    obtain ⟨named, given, -⟩ := SpawnOrder.checked_eq_ok_iff.1 checked
    obtain rfl : agent = ⟨Text.trim o.agent⟩ := by
      obtain ⟨text⟩ := agent
      exact congrArg Name.mk (Name.parse?_eq_some_iff.1 named).1
    obtain rfl : task = Text.trim o.task := Text.eq_trim_of_nonBlank? given
    have kept : o.isKept d = (o.persistMemory && Text.trim o.agent == d.config.memoryAgent) := by
      simp [SpawnOrder.isKept, spawns]
    have keeps := keeps_of_persisted remembers
    have logged : keepings (before ++ after) = keepings after := by simp [nothing]
    cases wanted : o.persistMemory && Text.trim o.agent == d.config.memoryAgent with
    | false =>
      rw [wanted, if_neg Bool.false_ne_true] at keeps
      obtain ⟨rfl, rfl⟩ := keeps
      refine ⟨?_, ?_, ?_⟩
      · simp [Envelope.success, bare, kept, wanted]
      · simp [nothing, kept, wanted]
      · rintro result report same remembered
        cases same
        simp [bare] at remembered
    | true =>
      rw [wanted, if_pos rfl] at keeps
      obtain ⟨report, rfl, keeps⟩ := keeps
      refine ⟨?_, ?_, ?_⟩
      · simp [Envelope.success, kept, wanted]
      · rw [logged, kept, wanted]
        constructor
        · intro some
          have keepable : ∃ output, d.keepable? r = .some output := by
            cases keeps with
            | unfit => exact absurd rfl some
            | failed keepable | stored keepable => exact ⟨_, keepable⟩
          obtain ⟨output, keepable⟩ := keepable
          obtain ⟨memory, completed, there, solid⟩ := keepable?_eq_some_iff.1 keepable
          exact ⟨rfl, rfl, memory, _, output, rfl, completed, there, solid⟩
        · rintro ⟨-, -, memory, result, output, same, completed, there, solid⟩
          cases same
          have keepable : d.keepable? r = some output :=
            keepable?_eq_some_iff.2 ⟨memory, completed, there, solid⟩
          cases keeps with
          | unfit nothing =>
            rw [nothing] at keepable
            cases keepable
          | failed | stored => exact List.cons_ne_nil _ _
      · rintro result report' same remembered
        cases same
        cases remembered
        rw [logged]
        cases keeps with
        | unfit _ reason => exact .inl ⟨rfl, rfl, rfl⟩
        | @failed output keepable reason =>
          obtain ⟨-, -, there, -⟩ := keepable?_eq_some_iff.1 keepable
          exact .inr ⟨output, there, .inl ⟨reason, rfl, rfl, rfl⟩⟩
        | @stored output keepable id captured =>
          obtain ⟨-, -, there, -⟩ := keepable?_eq_some_iff.1 keepable
          exact .inr ⟨output, there, .inr ⟨id, captured, rfl, rfl, rfl⟩⟩

end Dispatcher

/-! ## What the memory answers does not matter -/

/-- A result but for what became of the wish to remember it. -/
def SpawnResult.withoutMemory (r : SpawnResult) : SpawnResult := { r with memory := none }

/-- Two runs may differ in what the memory answers when something is put into it. -/
def keeping : Comparison where
  aside := Question.isKeeping
  isMemory _ := Question.isMemory_of_isKeeping
  expected _ := True
  replies := Eq
  unwrapped_eq _ _ same := congrArg _ same

namespace Comparison

variable {c : Comparison}

/-- Only the memory is asked when a result is remembered, and only its memory part changes. -/
theorem onTheSide_persisted (aside : ∀ q : Question, q.isKeeping = true → c.aside q = true)
    (d : Dispatcher) (o : SpawnOrder) (agent : AgentName) (task : String) (r : SpawnResult) :
    c.OnTheSide (fun r' => r'.withoutMemory = r.withoutMemory) (d.persisted o agent task r) := by
  have reports : c.OnTheSide (fun _ => True) (d.memoryReport agent task r) := by
    unfold Dispatcher.memoryReport
    split
    · exact .done trivial
    · split
      · exact .done trivial
      · split
        · split
          · exact .done trivial
          · refine .ask (aside _ rfl) fun stored => ?_
            cases stored with
            | error reason => exact .done trivial
            | ok id => exact .ask (aside _ rfl) fun _ => .done trivial
        · exact .done trivial
  unfold Dispatcher.persisted
  split
  · exact reports.bind fun report _ => .done rfl
  · exact .done rfl

/-- What two dispatchers remember of a result does not show without its memory part. -/
theorem mirrors_persisted (aside : ∀ q : Question, q.isKeeping = true → c.aside q = true)
    (d₁ d₂ : Dispatcher) (o : SpawnOrder) (agent : AgentName) (task : String) (r : SpawnResult) :
    c.Mirrors (fun r₁ r₂ => r₁.withoutMemory = r₂.withoutMemory) (d₁.persisted o agent task r)
      (d₂.persisted o agent task r) :=
  .of_onTheSide (onTheSide_persisted aside d₁ o agent task r)
    (onTheSide_persisted aside d₂ o agent task r) fun _ _ first second => first.trans second.symm

end Comparison

/-! ## Every spawn -/

/-- The result of a run is remembered exactly if that is wanted and it is the memory agent's. The
memory is asked to store it exactly if besides it is the output of a completed run and there is a
memory, once; and to capture the exchange once after that, exactly if it was stored. The report says
what came of it, and no other part of the answer depends on that. -/
theorem persistence {env : Envelope SpawnResult} (hp : h.Performs (d.spawn o) log env h') :
    d.Persists o log env ∧ ∀ (g g' : Host) (log' : List Exchange) (env' : Envelope SpawnResult),
      g.Performs (d.spawn o) log' env' g' → h.ledger = g.ledger → keeping.Agree log log' →
      env.map SpawnResult.withoutMemory = env'.map SpawnResult.withoutMemory := by
  refine ⟨(Dispatcher.finishes_of_performs hp).persists, fun g g' log' env' hp' ledgers agree => ?_⟩
  have mirrors := Comparison.mirrors_spawn (c := keeping) rfl
    (Comparison.mirrored_augmented (fun _ _ _ => rfl) d)
    (Comparison.mirrors_persisted (fun _ => id) d d) o
  have past : keeping.Matches [] [] := .nil
  exact (Comparison.mirrored mirrors hp hp' ledgers past agree fun _ _ _ => trivial).2.1

namespace Sample

/-- The simulator, a memory, and the memory agent's order. -/
def remembering : Dispatcher := ⟨{}, true⟩

def orderToRemember : SpawnOrder where
  agent := " memory"
  task := "sum up "
  persistMemory := true
  wantsRecall := some false

/-- A run that is over at once. -/
def concluded : RunRecord where
  runId := ⟨"mock-1"⟩
  agent := ⟨"memory"⟩
  status := .completed
  childSessionKey := none
  output := some " all well\n"
  error := none
  startedAt := none
  endedAt := none
  durationMs := none

def summedUp : MemoryEntry := ⟨"all well", some ⟨"memory"⟩, some ⟨"mock-1"⟩, []⟩

/-- What is exchanged if the output is stored and the exchange cannot be captured. -/
def storedLog : List Exchange :=
  [⟨.simulate ⟨"memory"⟩ "sum up" none, .ok concluded⟩, ⟨.store summedUp, .ok "mem-1"⟩,
    ⟨.capture ⟨"memory"⟩ "sum up" " all well\n", .error "full"⟩]

/-- What is exchanged if the output cannot even be stored. -/
def unstoredLog : List Exchange :=
  [⟨.simulate ⟨"memory"⟩ "sum up" none, .ok concluded⟩, ⟨.store summedUp, .error "full"⟩]

end Sample

/-- An output that is stored, and one that cannot be. -/
theorem persistence_sample : ∃ env env' h h',
    Host.Performs (.ofConfig {}) (Sample.remembering.spawn Sample.orderToRemember) Sample.storedLog
      env h ∧
    Host.Performs (.ofConfig {}) (Sample.remembering.spawn Sample.orderToRemember)
      Sample.unstoredLog env' h' ∧
    Sample.remembering.Persists Sample.orderToRemember Sample.storedLog env ∧
    Sample.remembering.Persists Sample.orderToRemember Sample.unstoredLog env' ∧
    env.map SpawnResult.withoutMemory = env'.map SpawnResult.withoutMemory := by
  have first : Host.Performs (.ofConfig {}) (Sample.remembering.spawn Sample.orderToRemember)
      Sample.storedLog _ _ :=
    .ask (.standIn _ _ rfl) (.ask (.standIn _ _ rfl) (.ask (.standIn _ _ rfl) (.done _ _)))
  have second : Host.Performs (.ofConfig {}) (Sample.remembering.spawn Sample.orderToRemember)
      Sample.unstoredLog _ _ :=
    .ask (.standIn _ _ rfl) (.ask (.standIn _ _ rfl) (.done _ _))
  have agree : keeping.Agree Sample.storedLog Sample.unstoredLog := by
    refine Comparison.agree_of_forall fun e₁ he₁ e₂ he₂ outside dealt unnamed => ?_
    simp only [Sample.storedLog, Sample.unstoredLog, List.mem_cons, List.not_mem_nil,
      or_false] at he₁ he₂
    rcases he₁ with rfl | rfl | rfl
    · rcases he₂ with rfl | rfl
      · exact .plain rfl
      · cases unnamed
    · cases dealt
    · cases dealt
  obtain ⟨stored, same⟩ := persistence first
  exact ⟨_, _, _, _, first, second, stored, (persistence second).1, same _ _ _ _ second rfl agree⟩

end Delegation
