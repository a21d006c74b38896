import Delegation.Proofs.Serving
import Delegation.Proofs.Twins

/-!
# Recall makes no difference to a simulated run

What the memory holds goes into the task that a simulator is given, and no further: a simulated run
comes of the first line of its task, and the recalled block begins two lines below. So two programs
with equal simulators that are given orders for the same, one after the other, start twins all along
(`Abreast.pace`), with whatever memories. They answer the same, and say the same when they are asked
for the runs later (`recall_unnoticed`). The tasks that the simulators keep do differ, and so may
their choices among runs of one instant: either may have evicted a run that the other one keeps,
but only if others were started in the same millisecond, and the run was not the last of all
(`Round.Undisputed`).
-/

namespace Delegation

/-! ## Results without names -/

/-- A result without what depends on the names that were given, and on the memory. -/
def SpawnResult.nameless (r : SpawnResult) : SpawnResult := { r.withoutMemory with runId := none }

/-- A report without the name it was asked for by. -/
def StatusReport.nameless (r : StatusReport) : StatusReport := { r with runId := "" }

/-- The name of the run that was started. -/
def Envelope.runId? (env : Envelope SpawnResult) : Option RunId := env.data.bind (·.runId)

theorem map_nameless_simulated (r : RunRecord) (memory : Option MemoryReport) :
    (Envelope.success (SpawnResult.simulated r memory)).map SpawnResult.nameless =
      .success (SpawnResult.simulated r.account none).nameless := rfl

/-- Orders for the same. -/
structure SpawnOrder.Same (o₁ o₂ : SpawnOrder) : Prop where
  agent : o₁.agent = o₂.agent
  task : o₁.task = o₂.task
  waitMs : o₁.waitMs = o₂.waitMs

theorem SpawnOrder.Same.checked {o₁ o₂ : SpawnOrder} (same : o₁.Same o₂) :
    o₁.checked = o₂.checked := by
  unfold SpawnOrder.checked
  rw [same.agent, same.task, same.waitMs]

namespace Simulator

theorem outputFor_congr {s t : Simulator} (responses : s.responses = t.responses)
    (agent : AgentName) {task task' : String} (same : Text.firstLine task = Text.firstLine task') :
    s.outputFor agent task = t.outputFor agent task' := by
  unfold outputFor
  rw [responses, same]

theorem account_softened (r : RunRecord) :
    (Dispatcher.softened r).account = Dispatcher.softened r.account := by
  unfold Dispatcher.softened
  by_cases late : r.status = .timeout
  · rw [if_pos late, if_pos (show r.account.status = .timeout from late)]
    rfl
  · rw [if_neg late, if_neg (show ¬r.account.status = .timeout from late)]

theorem account_getD {a b : Option RunRecord} {r r' : RunRecord}
    (heard : a.map RunRecord.account = b.map RunRecord.account) (same : r.account = r'.account) :
    (a.getD r).account = (b.getD r').account := by
  cases a with
  | none =>
    cases b with
    | none => exact same
    | some b => cases heard
  | some a =>
    cases b with
    | none => cases heard
    | some b => exact Option.some.inj heard

namespace Scene

variable {x y : Scene} {past : List (SimulatedRun × SimulatedRun)} {p : SimulatedRun × SimulatedRun}

theorem produces_settled {run : SimulatedRun} {r : RunRecord}
    (kept : x.simulator.find? r.runId = some run) (early : r.Produces run.output)
    (waitMs : UInt64) : (x.settled waitMs r).1.Produces run.output := by
  unfold settled
  by_cases unwaited : waitMs = 0
  · rw [if_pos unwaited]
    exact early
  · obtain ⟨seen, later, waited, told⟩ := wait_of_find? kept x.now waitMs.toNat
    rw [if_neg unwaited, waited]
    exact produces_of_status kept told

namespace Level

/-- The latest twins are told of alike after a wait, and the simulators stay level. -/
theorem settled (level : Level past x y) (last : past.getLast? = some p) {r r' : RunRecord}
    (named : r.runId = p.1.runId) (named' : r'.runId = p.2.runId) (same : r.account = r'.account)
    (waitMs : UInt64) : (x.settled waitMs r).1.account = (y.settled waitMs r').1.account ∧
      Level past (x.settled waitMs r).2 (y.settled waitMs r').2 := by
  unfold Scene.settled
  by_cases unwaited : waitMs = 0
  · rw [if_pos unwaited, if_pos unwaited]
    exact ⟨same, level⟩
  · rw [if_neg unwaited, if_neg unwaited, named, named']
    have hp := List.mem_of_getLast? last
    obtain ⟨kept, kept'⟩ := level.latest p last
    have heard := (level.heard hp kept kept' waitMs.toNat).1
    refine ⟨?_, level.wait hp kept kept' waitMs.toNat⟩
    rw [account_softened, account_softened, account_getD heard same]

/-- What two orders for the same have in common: the answers, but for names and memory reports, and
the runs that are started, which are twins. -/
structure Served (past : List (SimulatedRun × SimulatedRun)) (instant : Nat) (output : String)
    (env₁ env₂ : Envelope SpawnResult) (x y : Scene)
    (new : List (SimulatedRun × SimulatedRun)) : Prop where
  answers : env₁.map SpawnResult.nameless = env₂.map SpawnResult.nameless
  level : Level (past ++ new) x y
  names : (new.map (·.1)).map (·.runId) = env₁.runId?.toList
  names' : (new.map (·.2)).map (·.runId) = env₂.runId?.toList
  instants : ∀ p ∈ new, p.1.started = instant
  outputs : ∀ p ∈ new, p.1.output = output
  produces : ∀ result, env₁.data = some result →
    result.output = if result.status = .completed then some output else none

/-- An order that starts no run. -/
theorem Served.failure (level : Level past x y) (instant : Nat) (output : String) (f : Failure) :
    Served past instant output (.ofFailure f) (.ofFailure f) x y [] where
  answers := rfl
  level := by rwa [List.append_nil]
  names := rfl
  names' := rfl
  instants := by
    intro p hp
    cases hp
  outputs := by
    intro p hp
    cases hp
  produces := by
    intro result told
    cases told

/-- At most one run was started, and at the instant of the order. -/
theorem Served.starts {instant : Nat} {output : String} {env₁ env₂ : Envelope SpawnResult}
    {new : List (SimulatedRun × SimulatedRun)}
    (served : Served past instant output env₁ env₂ x y new) :
    (new.map (·.1)).map (·.started) = env₁.runId?.toList.map fun _ => instant := by
  rw [← served.names, List.map_map, List.map_map, List.map_map]
  exact List.map_congr_left served.instants

variable {o₁ o₂ : SpawnOrder} {message₁ message₂ : String} {id₁ id₂ : RunId}
  {startedAt₁ startedAt₂ : Int64} {memory₁ memory₂ : Option MemoryReport} {agent : AgentName}

/-- A name that no run had is borne by none that is kept. -/
theorem unborne (level : Level past x y) {id : RunId}
    (fresh : id ∉ (past.map (·.1)).map (·.runId)) : ∀ r ∈ x.simulator.runs, r.runId ≠ id := by
  rintro r hr rfl
  exact fresh (List.mem_map_of_mem (level.within.subset hr))

/-- The runs of two orders for the same are twins, and what is answered of them differs in their
names at most. -/
theorem started (level : Level past x y) (waits : o₁.waitMs = o₂.waitMs)
    (headed : Text.firstLine message₁ = Text.firstLine message₂)
    (listed : agent.text ∈ x.simulator.agents)
    (fresh₁ : id₁ ∉ (past.map (·.1)).map (·.runId)) (fresh₂ : id₂ ∉ (past.map (·.2)).map (·.runId))
    {settled₁ settled₂ : RunRecord × Scene}
    (first : settled₁ = (x.next (.spawn id₁ startedAt₁ agent message₁ o₁.label)).settled o₁.waitMs
      (begun id₁ agent startedAt₁))
    (second : settled₂ = (y.next (.spawn id₂ startedAt₂ agent message₂ o₂.label)).settled o₂.waitMs
      (begun id₂ agent startedAt₂)) :
    ∃ new, Served past x.now (x.simulator.outputFor agent message₁)
      (.success (.simulated settled₁.1 memory₁)) (.success (.simulated settled₂.1 memory₂))
      settled₁.2 settled₂.2 new := by
  let run₁ : SimulatedRun := ⟨id₁, agent, message₁, o₁.label, x.now, startedAt₁,
    x.simulator.outputFor agent message₁⟩
  let run₂ : SimulatedRun := ⟨id₂, agent, message₂, o₂.label, y.now, startedAt₂,
    y.simulator.outputFor agent message₂⟩
  -- The messages may differ; they begin alike, and the output is made of their first lines.
  have output := outputFor_congr level.responses agent headed
  have next : Level (past ++ [(run₁, run₂)])
      (x.next (.spawn id₁ startedAt₁ agent message₁ o₁.label))
      (y.next (.spawn id₂ startedAt₂ agent message₂ o₂.label)) :=
    level.spawn listed output fresh₁ fresh₂
  have named₁ := runId_settled (x.next (.spawn id₁ startedAt₁ agent message₁ o₁.label)) o₁.waitMs
    (begun id₁ agent startedAt₁)
  have named₂ := runId_settled (y.next (.spawn id₂ startedAt₂ agent message₂ o₂.label)) o₂.waitMs
    (begun id₂ agent startedAt₂)
  have kept : (x.next (.spawn id₁ startedAt₁ agent message₁ o₁.label)).simulator.find?
      (begun id₁ agent startedAt₁).runId = some run₁ :=
    find?_next (started?_of_listed listed id₁ startedAt₁ message₁ o₁.label) (level.unborne fresh₁)
  have produced := produces_settled kept rfl o₁.waitMs
  have same : (begun id₁ agent startedAt₁).account = (begun id₂ agent startedAt₂).account := rfl
  have settled := next.settled List.getLast?_concat rfl rfl same o₁.waitMs
  rw [← first] at named₁ produced settled
  rw [waits, ← second] at settled
  rw [← second] at named₂
  refine ⟨[(run₁, run₂)], ?_, settled.2, ?_, ?_, ?_, ?_, ?_⟩
  · rw [map_nameless_simulated, map_nameless_simulated, settled.1]
  · exact congrArg (fun id => [id]) named₁.symm
  · exact congrArg (fun id => [id]) named₂.symm
  · intro p hp
    cases List.mem_singleton.1 hp
    rfl
  · intro p hp
    cases List.mem_singleton.1 hp
    rfl
  · intro result told
    cases told
    exact produced

/-- Two orders for the same come to the same, whatever was added to the tasks behind their first
lines. -/
theorem served (level : Level past x y) (same : o₁.Same o₂)
    (headed₁ : Text.firstLine message₁ = Text.firstLine (Text.trim o₁.task))
    (headed₂ : Text.firstLine message₂ = Text.firstLine (Text.trim o₂.task))
    {env₁ env₂ : Envelope SpawnResult} {x' y' : Scene}
    (first : (env₁, x') = x.served o₁ id₁ startedAt₁ message₁ memory₁)
    (second : (env₂, y') = y.served o₂ id₂ startedAt₂ message₂ memory₂)
    (fresh₁ : ∀ id, env₁.runId? = some id → id ∉ (past.map (·.1)).map (·.runId))
    (fresh₂ : ∀ id, env₂.runId? = some id → id ∉ (past.map (·.2)).map (·.runId)) :
    ∃ new, Served past x.now (x.simulator.outputFor ⟨Text.trim o₁.agent⟩ (Text.trim o₁.task))
      env₁ env₂ x' y' new := by
  cases checked : o₁.checked with
  | error f =>
    rw [served_of_unchecked checked] at first
    rw [served_of_unchecked (same.checked ▸ checked)] at second
    obtain ⟨rfl, rfl⟩ := Prod.mk.inj first
    obtain ⟨rfl, rfl⟩ := Prod.mk.inj second
    exact ⟨[], .failure level _ _ f⟩
  | ok order =>
    obtain ⟨agent, task⟩ := order
    have checked' : o₂.checked = .ok (agent, task) := same.checked ▸ checked
    obtain ⟨named, -, -⟩ := SpawnOrder.eq_of_checked checked
    by_cases listed : agent.text ∈ x.simulator.agents
    · have listed' : agent.text ∈ y.simulator.agents := level.agents ▸ listed
      rw [served_of_listed checked listed rfl] at first
      rw [served_of_listed checked' listed' rfl] at second
      obtain ⟨rfl, rfl⟩ := Prod.mk.inj first
      obtain ⟨rfl, rfl⟩ := Prod.mk.inj second
      have headed : Text.firstLine message₁ = Text.firstLine message₂ := by
        rw [headed₁, headed₂, same.task]
      rw [← named, ← outputFor_congr rfl agent headed₁]
      refine level.started same.waitMs headed listed (fresh₁ id₁ ?_) (fresh₂ id₂ ?_) rfl rfl
      · exact congrArg some (runId_settled _ o₁.waitMs (begun id₁ agent startedAt₁))
      · exact congrArg some (runId_settled _ o₂.waitMs (begun id₂ agent startedAt₂))
    · have unlisted : agent.text ∉ y.simulator.agents := level.agents ▸ listed
      rw [served_of_unlisted checked listed] at first
      rw [served_of_unlisted checked' unlisted] at second
      obtain ⟨rfl, rfl⟩ := Prod.mk.inj first
      obtain ⟨rfl, rfl⟩ := Prod.mk.inj second
      exact ⟨[], .failure level _ _ _⟩

end Level

end Scene

end Simulator

/-! ## Two programs side by side -/

/-- An order as the first of two programs was given it, and when, and the answers of both. -/
structure Round where
  /-- On the clock of the simulators. -/
  instant : Nat
  order : SpawnOrder
  first : Envelope SpawnResult
  second : Envelope SpawnResult

/-- Two programs with a simulator each are given orders for the same, one after the other. Between
them either is asked for runs, and time passes for both. -/
inductive Abreast (d₁ d₂ : Dispatcher) (g₁ g₂ : Host) : List Round → Host → Host → Prop
  | start : Abreast d₁ d₂ g₁ g₂ [] g₁ g₂
  | spawn {rounds : List Round} {h₁ h₂ k₁ k₂ : Host} {o₁ o₂ : SpawnOrder}
    {log₁ log₂ : List Exchange} {env₁ env₂ : Envelope SpawnResult}
    (before : Abreast d₁ d₂ g₁ g₂ rounds h₁ h₂) (same : o₁.Same o₂)
    (first : h₁.Performs (d₁.spawn o₁) log₁ env₁ k₁) (own₁ : h₁.Unscripted log₁ k₁)
    (second : h₂.Performs (d₂.spawn o₂) log₂ env₂ k₂) (own₂ : h₂.Unscripted log₂ k₂) :
    Abreast d₁ d₂ g₁ g₂ (rounds ++ [⟨h₁.clock, o₁, env₁, env₂⟩]) k₁ k₂
  | askFirst {rounds : List Round} {h₁ h₂ k₁ : Host} {query : String} {log : List Exchange}
    {env : Envelope StatusReport} (before : Abreast d₁ d₂ g₁ g₂ rounds h₁ h₂)
    (asked : h₁.Performs (d₁.status query) log env k₁) (own : h₁.Unscripted log k₁) :
    Abreast d₁ d₂ g₁ g₂ rounds k₁ h₂
  | askSecond {rounds : List Round} {h₁ h₂ k₂ : Host} {query : String} {log : List Exchange}
    {env : Envelope StatusReport} (before : Abreast d₁ d₂ g₁ g₂ rounds h₁ h₂)
    (asked : h₂.Performs (d₂.status query) log env k₂) (own : h₂.Unscripted log k₂) :
    Abreast d₁ d₂ g₁ g₂ rounds h₁ k₂
  | pause {rounds : List Round} {h₁ h₂ : Host} (ms : Nat)
    (before : Abreast d₁ d₂ g₁ g₂ rounds h₁ h₂) :
    Abreast d₁ d₂ g₁ g₂ rounds { h₁ with clock := h₁.clock + ms } { h₂ with clock := h₂.clock + ms }

/-- The output of a run of the task as it was ordered, with nothing added to it. -/
def Simulator.plainOutput (s : Simulator) (o : SpawnOrder) : String :=
  s.outputFor ⟨Text.trim o.agent⟩ (Text.trim o.task)

/-- The names of all runs of one of two programs. -/
def namesOf (g : Host) (answer : Round → Envelope SpawnResult) (rounds : List Round) :
    List RunId :=
  g.simulator.runs.map (·.runId) ++ rounds.filterMap fun round => (answer round).runId?

theorem namesOf_append_singleton (g : Host) (answer : Round → Envelope SpawnResult)
    (rounds : List Round) (round : Round) :
    namesOf g answer (rounds ++ [round]) =
      namesOf g answer rounds ++ (answer round).runId?.toList := by
  unfold namesOf
  rw [List.filterMap_append, List.append_assoc]
  cases named : (answer round).runId? with
  | none => simp [named]
  | some id => simp [named]

/-- The instants at which the runs of either program were started. -/
def startsOf (g : Host) (rounds : List Round) : List Nat :=
  g.simulator.runs.map (·.started) ++
    rounds.filterMap fun round => round.first.runId?.map fun _ => round.instant

theorem startsOf_append_singleton (g : Host) (rounds : List Round) (round : Round) :
    startsOf g (rounds ++ [round]) =
      startsOf g rounds ++ round.first.runId?.toList.map fun _ => round.instant := by
  unfold startsOf
  rw [List.filterMap_append, List.append_assoc]
  cases named : round.first.runId? with
  | none => simp [named]
  | some id => simp [named]

/-- A round whose run is kept or not whatever is chosen among runs of one instant: no run was
started after it, or no other at its instant. -/
def Round.Undisputed (g : Host) (before : List Round) (round : Round) (after : List Round) : Prop :=
  (∀ later ∈ after, later.first.runId? = none) ∨
    (startsOf g (before ++ round :: after)).count round.instant = 1

theorem Round.undisputed_last (g : Host) (before : List Round) (round : Round) :
    round.Undisputed g before [] := by
  refine .inl fun later hl => ?_
  cases hl

/-- A name that is given in the last round was not given before. -/
theorem fresh_of_nodup {g : Host} {answer : Round → Envelope SpawnResult} {rounds : List Round}
    {round : Round} (distinct : (namesOf g answer (rounds ++ [round])).Nodup) :
    ∀ id, (answer round).runId? = some id → id ∉ namesOf g answer rounds := by
  intro id named
  rw [namesOf_append_singleton, named, List.nodup_append_comm] at distinct
  exact (List.nodup_cons.1 distinct).1

/-- A round in which both programs did the same, with runs that are among `past`. -/
structure Round.Even (s : Simulator) (past : List (SimulatedRun × SimulatedRun)) (round : Round) :
    Prop where
  answers : round.first.map SpawnResult.nameless = round.second.map SpawnResult.nameless
  given : ∀ result, round.first.data = some result → Text.trim round.order.task ≠ ""
  produces : ∀ result, round.first.data = some result →
    result.output = if result.status = .completed then some (s.plainOutput round.order) else none
  twins : ∀ id₁ id₂, round.first.runId? = some id₁ → round.second.runId? = some id₂ →
    ∃ p ∈ past, p.1.runId = id₁ ∧ p.2.runId = id₂ ∧ p.1.started = round.instant ∧
      p.1.output = s.plainOutput round.order

/-- How two programs stand to the rounds that they went through, if all their runs are `past`. -/
structure Pace (g : Host) (rounds : List Round) (past : List (SimulatedRun × SimulatedRun))
    (x y : Simulator.Scene) : Prop where
  level : x.Level past y
  responses : x.simulator.responses = g.simulator.responses
  names : (past.map (·.1)).map (·.runId) = namesOf g Round.first rounds
  names' : (past.map (·.2)).map (·.runId) = namesOf g Round.second rounds
  starts : (past.map (·.1)).map (·.started) = startsOf g rounds
  even : ∀ round ∈ rounds, round.Even g.simulator past

namespace Pace

variable {g : Host} {rounds : List Round} {past : List (SimulatedRun × SimulatedRun)}
  {x y x' y' : Simulator.Scene} {o₁ o₂ : SpawnOrder} {env₁ env₂ : Envelope SpawnResult}

theorem even_append {s : Simulator} {round : Round} (even : round.Even s past)
    (new : List (SimulatedRun × SimulatedRun)) : round.Even s (past ++ new) where
  answers := even.answers
  given := even.given
  produces := even.produces
  twins id₁ id₂ named₁ named₂ := by
    obtain ⟨p, hp, found⟩ := even.twins id₁ id₂ named₁ named₂
    exact ⟨p, List.mem_append_left new hp, found⟩

/-- A name in one list of names, and a name at its place in the other. -/
theorem mem_of_names {new : List (SimulatedRun × SimulatedRun)} {id₁ id₂ : RunId}
    (one : (new.map (·.1)).map (·.runId) = [id₁]) (two : (new.map (·.2)).map (·.runId) = [id₂]) :
    ∃ p ∈ new, p.1.runId = id₁ ∧ p.2.runId = id₂ := by
  match new with
  | [p] => exact ⟨p, List.mem_singleton_self p, List.head_eq_of_cons_eq one,
      List.head_eq_of_cons_eq two⟩

theorem spawn (pace : Pace g rounds past x y) (same : o₁.Same o₂) {id₁ id₂ : RunId}
    {startedAt₁ startedAt₂ : Int64} {message₁ message₂ : String}
    {memory₁ memory₂ : Option MemoryReport}
    (headed₁ : Text.firstLine message₁ = Text.firstLine (Text.trim o₁.task))
    (headed₂ : Text.firstLine message₂ = Text.firstLine (Text.trim o₂.task))
    (first : (env₁, x') = x.served o₁ id₁ startedAt₁ message₁ memory₁)
    (second : (env₂, y') = y.served o₂ id₂ startedAt₂ message₂ memory₂)
    (distinct₁ : (namesOf g Round.first (rounds ++ [⟨x.now, o₁, env₁, env₂⟩])).Nodup)
    (distinct₂ : (namesOf g Round.second (rounds ++ [⟨x.now, o₁, env₁, env₂⟩])).Nodup) :
    ∃ past', Pace g (rounds ++ [⟨x.now, o₁, env₁, env₂⟩]) past' x' y' := by
  obtain ⟨new, served⟩ := pace.level.served same headed₁ headed₂ first second
    (pace.names ▸ fresh_of_nodup distinct₁) (pace.names' ▸ fresh_of_nodup distinct₂)
  have plain : x.simulator.plainOutput o₁ = g.simulator.plainOutput o₁ :=
    Simulator.outputFor_congr pace.responses _ rfl
  have responses := x.responses_served o₁ id₁ startedAt₁ message₁ memory₁
  rw [← first] at responses
  refine ⟨past ++ new, served.level, responses.trans pace.responses, ?_, ?_, ?_, ?_⟩
  · rw [namesOf_append_singleton, ← pace.names, List.map_append, List.map_append, served.names]
  · rw [namesOf_append_singleton, ← pace.names', List.map_append, List.map_append, served.names']
  · rw [startsOf_append_singleton, ← pace.starts, List.map_append, List.map_append, served.starts]
  · intro round hr
    rcases List.mem_append.1 hr with hr | hr
    · exact even_append (pace.even round hr) new
    · cases List.mem_singleton.1 hr
      refine ⟨served.answers, fun _ => Simulator.Scene.given_of_served first, ?_, ?_⟩
      · rw [← plain]
        exact served.produces
      · intro id₁ id₂ named₁ named₂
        obtain ⟨p, hp, one, two⟩ := mem_of_names (served.names.trans (congrArg _ named₁))
          (served.names'.trans (congrArg _ named₂))
        exact ⟨p, List.mem_append_right past hp, one, two, served.instants p hp,
          (served.outputs p hp).trans plain⟩

theorem at_scenes (pace : Pace g rounds past x y) {m n : Nat} (now : m = n) :
    Pace g rounds past { x with now := m } { y with now := n } :=
  { pace with level := pace.level.at_now now }

end Pace

theorem Dispatcher.scene_of_status {d : Dispatcher} (mock : d.config.backend = .mock)
    {h h' : Host} {query : String} {log : List Exchange} {env : Envelope StatusReport}
    (asked : h.Performs (d.status query) log env h') (own : h.Unscripted log h') :
    h'.scene = h.scene := by
  cases named : Text.nonBlank? query with
  | none =>
    obtain ⟨-, -, rfl⟩ := (Dispatcher.performs_status_of_blank named).1 asked
    rfl
  | some id =>
    obtain ⟨found, rfl, -⟩ := Dispatcher.performs_status_simulated mock named asked
    cases own with
    | cons _ own rest =>
      cases rest
      cases own rfl
      rfl

/-- Two programs that begin alike keep pace, whatever the tables of their simulators are. -/
theorem Abreast.pace {d₁ d₂ : Dispatcher} {g₁ g₂ h₁ h₂ : Host} {rounds : List Round}
    (mock₁ : d₁.config.backend = .mock) (mock₂ : d₂.config.backend = .mock)
    {place : RunId → Nat}
    (alike : g₂.scene = { g₁.scene with simulator := { g₁.simulator with place } })
    (abreast : Abreast d₁ d₂ g₁ g₂ rounds h₁ h₂)
    (distinct₁ : (namesOf g₁ Round.first rounds).Nodup)
    (distinct₂ : (namesOf g₁ Round.second rounds).Nodup) :
    ∃ past, Pace g₁ rounds past h₁.scene h₂.scene := by
  induction abreast with
  | start =>
    rw [alike]
    rw [namesOf, List.filterMap_nil, List.append_nil] at distinct₁
    have level := Simulator.Scene.level_self g₁.scene distinct₁ place
    refine ⟨_, level, rfl, ?_, ?_, ?_, ?_⟩
    · simp [namesOf, Host.scene, Function.comp_def]
    · simp [namesOf, Host.scene, Function.comp_def]
    · simp [startsOf, Host.scene, Function.comp_def]
    · intro round hr
      cases hr
  | spawn before same first own₁ second own₂ ih =>
    have earlier₁ := distinct₁
    have earlier₂ := distinct₂
    rw [namesOf_append_singleton] at earlier₁ earlier₂
    obtain ⟨past, pace⟩ := ih earlier₁.of_append_left earlier₂.of_append_left
    -- What was recalled is forgotten here, up to the first lines of the messages.
    obtain ⟨message₁, memory₁, headed₁, served₁⟩ := Dispatcher.served_of_performs mock₁ first own₁
    obtain ⟨message₂, memory₂, headed₂, served₂⟩ := Dispatcher.served_of_performs mock₂ second own₂
    exact pace.spawn same headed₁ headed₂ served₁ served₂ distinct₁ distinct₂
  | askFirst before asked own ih =>
    rw [Dispatcher.scene_of_status mock₁ asked own]
    exact ih distinct₁ distinct₂
  | askSecond before asked own ih =>
    rw [Dispatcher.scene_of_status mock₂ asked own]
    exact ih distinct₁ distinct₂
  | pause ms before ih =>
    obtain ⟨past, pace⟩ := ih distinct₁ distinct₂
    exact ⟨past, pace.at_scenes (congrArg (· + ms) pace.level.now)⟩

/-! ## What is told later -/

/-- What a status query finds out is what the simulator says right then. -/
theorem Dispatcher.told_of_status {d : Dispatcher} (mock : d.config.backend = .mock)
    {h h' : Host} {query : String} {id : RunId} {log : List Exchange} {env : Envelope StatusReport}
    (named : Text.nonBlank? query = some id.text)
    (asked : h.Performs (d.status query) log env h') (own : h.Unscripted log h') :
    env = reportEnvelope id.text (.ok (h.scene.simulator.status h.scene.now id)) := by
  obtain ⟨found, rfl, rfl⟩ := Dispatcher.performs_status_simulated mock named asked
  rw [own.observed]
  rfl

theorem map_nameless_reportEnvelope {a b : Option RunRecord}
    (same : a.map RunRecord.account = b.map RunRecord.account) (id₁ id₂ : String) :
    (Dispatcher.reportEnvelope id₁ (.ok a)).map StatusReport.nameless =
      (Dispatcher.reportEnvelope id₂ (.ok b)).map StatusReport.nameless := by
  have reported (id : String) (r : RunRecord) :
      (Dispatcher.reportEnvelope id (.ok (some r))).map StatusReport.nameless =
        .success (StatusReport.ofRecord r.account).nameless := rfl
  cases a with
  | none =>
    cases b with
    | none => rfl
    | some b => cases same
  | some a =>
    cases b with
    | none => cases same
    | some b => rw [reported, reported, Option.some.inj same]

namespace Simulator

variable {s : Simulator} {now : Nat} {run : SimulatedRun} {id : String}

/-- A run that is reported of, and not as one that is not found, is kept. -/
theorem kept_of_told (found : s.find? run.runId = if run ∈ s.runs then some run else none)
    (known : ∀ report,
      (Dispatcher.reportEnvelope id (.ok (s.status now run.runId))).data = some report →
        report.isNotFound = false) : run ∈ s.runs := by
  by_contra gone
  rw [if_neg gone] at found
  unfold status at known
  rw [found] at known
  cases known _ rfl

/-- Whatever is reported under the name of a run, the output is that of the run. -/
theorem output_told (found : s.find? run.runId = if run ∈ s.runs then some run else none)
    {report : StatusReport}
    (told : (Dispatcher.reportEnvelope id (.ok (s.status now run.runId))).data = some report) :
    report.output = if report.status = .known .completed then some run.output else none := by
  cases seen : s.status now run.runId with
  | none =>
    rw [seen] at told
    cases told
    rfl
  | some r =>
    rw [seen] at told
    cases told
    by_cases kept : run ∈ s.runs
    · rw [if_pos kept] at found
      have produces := produces_of_status found seen
      simpa [RunRecord.Produces, StatusReport.ofRecord] using produces
    · rw [if_neg kept] at found
      simp [status, found] at seen

end Simulator

/-- Where a value occurs once, it is that of one item only. -/
theorem eq_of_count_map {α : Type} (f : α → Nat) {l : List α} {a b : α}
    (once : (l.map f).count (f a) = 1) (ha : a ∈ l) (hb : b ∈ l) (same : f b = f a) : b = a := by
  obtain ⟨front, back, rfl⟩ := List.append_of_mem ha
  rw [List.map_append, List.map_cons, List.count_append, List.count_cons_self] at once
  have left : f a ∉ front.map f := List.count_eq_zero.1 (by omega)
  have right : f a ∉ back.map f := List.count_eq_zero.1 (by omega)
  rcases List.mem_append.1 hb with hb | hb
  · exact absurd (same ▸ List.mem_map_of_mem hb) left
  · rcases List.mem_cons.1 hb with rfl | hb
    · rfl
    · exact absurd (same ▸ List.mem_map_of_mem hb) right

namespace Pace

variable {g : Host} {before after : List Round} {round : Round}
  {past : List (SimulatedRun × SimulatedRun)} {p : SimulatedRun × SimulatedRun}
  {x y : Simulator.Scene}

/-- If no run was started after that of a round, that one is the latest. -/
theorem getLast?_of_unfollowed (pace : Pace g (before ++ round :: after) past x y)
    (unfollowed : ∀ later ∈ after, later.first.runId? = none) (hp : p ∈ past)
    (named : round.first.runId? = some p.1.runId) : past.getLast? = some p := by
  have last : ((past.map (·.1)).map (·.runId)).getLast? = some p.1.runId := by
    have none : after.filterMap (fun later => later.first.runId?) = [] :=
      List.filterMap_eq_nil_iff.2 unfollowed
    rw [pace.names, namesOf, List.filterMap_append,
      List.filterMap_cons_some (f := fun round : Round => round.first.runId?) named, none,
      ← List.append_assoc, List.getLast?_concat]
  rw [List.map_map, List.getLast?_map] at last
  obtain ⟨q, hq, same⟩ := Option.map_eq_some_iff.1 last
  have distinct := pace.level.distinct
  rw [List.map_map] at distinct
  rw [hq, List.inj_on_of_nodup_map distinct (List.mem_of_getLast? hq) hp same]

/-- The run of an undisputed round is kept by both programs or by none. -/
theorem kept_iff (pace : Pace g (before ++ round :: after) past x y)
    (undisputed : round.Undisputed g before after) (hp : p ∈ past)
    (named : round.first.runId? = some p.1.runId) (started : p.1.started = round.instant) :
    p.1 ∈ x.simulator.runs ↔ p.2 ∈ y.simulator.runs := by
  rcases undisputed with unfollowed | once
  · obtain ⟨kept, kept'⟩ := pace.level.latest p (pace.getLast?_of_unfollowed unfollowed hp named)
    exact iff_of_true kept kept'
  · rw [← pace.starts, ← started, List.map_map] at once
    exact pace.level.kept_iff hp fun q hq same =>
      eq_of_count_map (fun p : SimulatedRun × SimulatedRun => p.1.started) once hp hq same

end Pace

/-- Two programs that begin with the same simulator, but for the tables that it keeps its runs in,
are given orders for the same, whatever their memories hold and whether they recall it or not. Then
they answer the same but for names and memory reports. When they are asked for the runs later, they
say the same, if no run was started after the run in question, or no other at its instant, or if
both still know it. The output is that of the plain task: without a fixed response, the trimmed
first line of the trimmed task behind the name of the agent, and that line is not blank. -/
theorem recall_unnoticed {d₁ d₂ : Dispatcher} (mock₁ : d₁.config.backend = .mock)
    (mock₂ : d₂.config.backend = .mock) {g₁ g₂ h₁ h₂ : Host} {rounds : List Round}
    (simulators : g₂.simulator = { g₁.simulator with place := g₂.simulator.place })
    (clocks : g₁.clock = g₂.clock) (abreast : Abreast d₁ d₂ g₁ g₂ rounds h₁ h₂)
    (distinct₁ : (namesOf g₁ Round.first rounds).Nodup)
    (distinct₂ : (namesOf g₂ Round.second rounds).Nodup) :
    ∀ before round after, rounds = before ++ round :: after →
      round.first.map SpawnResult.nameless = round.second.map SpawnResult.nameless ∧
      (∀ result, round.first.data = some result →
        (result.output = if result.status = .completed then
            some (g₁.simulator.plainOutput round.order) else none) ∧
        (g₁.simulator.responses.find? (·.1 = Text.trim round.order.agent) = none →
          g₁.simulator.plainOutput round.order = "[" ++ Text.trim round.order.agent ++ "] " ++
            Text.trim (Text.firstLine (Text.trim round.order.task))) ∧
        Text.trim (Text.firstLine (Text.trim round.order.task)) ≠ "") ∧
      ∀ id₁ id₂, round.first.runId? = some id₁ → round.second.runId? = some id₂ →
        ∀ query₁ log₁ env₁ k₁, Text.nonBlank? query₁ = some id₁.text →
          h₁.Performs (d₁.status query₁) log₁ env₁ k₁ → h₁.Unscripted log₁ k₁ →
        ∀ query₂ log₂ env₂ k₂, Text.nonBlank? query₂ = some id₂.text →
          h₂.Performs (d₂.status query₂) log₂ env₂ k₂ → h₂.Unscripted log₂ k₂ →
        (round.Undisputed g₁ before after ∨
            (∀ report, env₁.data = some report → report.isNotFound = false) ∧
              (∀ report, env₂.data = some report → report.isNotFound = false) →
          env₁.map StatusReport.nameless = env₂.map StatusReport.nameless) ∧
        ∀ report, env₁.data = some report ∨ env₂.data = some report →
          report.output = if report.status = .known .completed then
            some (g₁.simulator.plainOutput round.order) else none := by
  have alike : g₂.scene =
      { g₁.scene with simulator := { g₁.simulator with place := g₂.simulator.place } } := by
    unfold Host.scene
    rw [← simulators, clocks]
  have runs : g₂.simulator.runs = g₁.simulator.runs := by rw [simulators]
  have names₂ : namesOf g₁ Round.second rounds = namesOf g₂ Round.second rounds := by
    unfold namesOf
    rw [runs]
  obtain ⟨past, pace⟩ := abreast.pace mock₁ mock₂ alike distinct₁ (names₂ ▸ distinct₂)
  rintro before round after rfl
  have even := pace.even round (List.mem_append_right before (.head after))
  refine ⟨even.answers, ?_, ?_⟩
  · intro result told
    refine ⟨even.produces result told, ?_, Text.trim_firstLine_ne_empty (even.given result told)⟩
    intro free
    simp only [Simulator.plainOutput, Simulator.outputFor, free]
  · intro id₁ id₂ named₁ named₂ query₁ log₁ env₁ k₁ asks₁ asked₁ own₁ query₂ log₂ env₂ k₂ asks₂
      asked₂ own₂
    obtain ⟨p, hp, rfl, rfl, started, output⟩ := even.twins id₁ id₂ named₁ named₂
    rw [Dispatcher.told_of_status mock₁ asks₁ asked₁ own₁,
      Dispatcher.told_of_status mock₂ asks₂ asked₂ own₂]
    have found₁ := pace.level.find?_first hp
    have found₂ := pace.level.find?_second hp
    constructor
    · intro settled
      have both : p.1 ∈ h₁.scene.simulator.runs ↔ p.2 ∈ h₂.scene.simulator.runs := by
        rcases settled with undisputed | ⟨known₁, known₂⟩
        · exact pace.kept_iff undisputed hp named₁ started
        · exact iff_of_true (Simulator.kept_of_told found₁ known₁)
            (Simulator.kept_of_told found₂ known₂)
      exact map_nameless_reportEnvelope (pace.level.told hp both) _ _
    · intro report told
      rw [← output]
      rcases told with told | told
      · exact Simulator.output_told found₁ told
      · rw [(pace.level.twins p hp).output]
        exact Simulator.output_told found₂ told

namespace Sample

/-- A caller who wants to be reminded of everything. -/
def reminded : Dispatcher :=
  ⟨{ mock := { latencyMs := 5000 }, recalling := { enabled := true, minScore := .ofInt 0 } }, true⟩

def plainHost : Host := .ofConfig { latencyMs := 5000 }

/-- A host with a memory, whose names are others, and so is the table of its simulator. -/
def remindedHost : Host :=
  { plainHost with
    supply := 7
    simulator := .ofConfig { latencyMs := 5000 } (·.text.length)
    memory := ⟨[⟨"m1", 0, { content := "it was fixed\nbefore" }⟩]⟩ }

end Sample

/-- With a memory the task becomes another, and the run comes to the same. -/
theorem recall_unnoticed_sample :
    ∃ (env₁ env₂ : Envelope SpawnResult) (h₁ h₂ : Host) (told₁ told₂ : Envelope StatusReport),
      Abreast (Sample.lingering 5000) Sample.reminded Sample.plainHost Sample.remindedHost
        [⟨0, Sample.orderTo "technical", env₁, env₂⟩] h₁ h₂ ∧
      h₁.simulator.runs.map (·.task) ≠ h₂.simulator.runs.map (·.task) ∧
      env₁.map SpawnResult.nameless = env₂.map SpawnResult.nameless ∧
      told₁.map StatusReport.nameless = told₂.map StatusReport.nameless ∧
      told₁.data.bind (·.output) = some "[technical] fix it" := by
  obtain ⟨log₁, first, own₁⟩ := Host.performs_alone Sample.plainHost
    ((Sample.lingering 5000).spawn (Sample.orderTo "technical"))
  obtain ⟨log₂, second, own₂⟩ := Host.performs_alone Sample.remindedHost
    (Sample.reminded.spawn (Sample.orderTo "technical"))
  have abreast : Abreast (Sample.lingering 5000) Sample.reminded Sample.plainHost
      Sample.remindedHost ([] ++ [⟨0, Sample.orderTo "technical", _, _⟩]) _ _ :=
    .pause 5000 (.spawn .start ⟨rfl, rfl, rfl⟩ first own₁ second own₂)
  have simulators : Sample.remindedHost.simulator =
      { Sample.plainHost.simulator with place := Sample.remindedHost.simulator.place } := rfl
  have clocks : Sample.plainHost.clock = Sample.remindedHost.clock := rfl
  obtain ⟨answers, -, later⟩ := recall_unnoticed rfl rfl simulators clocks abreast
    (by decide +kernel) (by decide +kernel) [] _ [] rfl
  obtain ⟨log₃, asked₁, alone₁⟩ := Host.performs_alone _
    ((Sample.lingering 5000).status (Supply.simulatedRun 0).text)
  obtain ⟨log₄, asked₂, alone₂⟩ := Host.performs_alone _
    (Sample.reminded.status (Supply.simulatedRun 7).text)
  obtain ⟨alike, -⟩ := later (Supply.simulatedRun 0) (Supply.simulatedRun 7) (by decide +kernel)
    (by decide +kernel) _ _ _ _ (Supply.nonBlank?_simulatedRun 0) asked₁ alone₁
    _ _ _ _ (Supply.nonBlank?_simulatedRun 7) asked₂ alone₂
  have told := alike (.inl (Round.undisputed_last _ _ _))
  exact ⟨_, _, _, _, _, _, abreast, by decide +kernel, answers, told, by decide +kernel⟩

end Delegation
