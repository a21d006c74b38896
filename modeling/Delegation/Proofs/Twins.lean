import Delegation.Proofs.Eviction

/-!
# Two simulators side by side

A simulator looks at the agent of a run, at its start and at its output, and not at its task; where
its table has the run matters only beside others that were started at the same instant. Two runs
that agree in those three are twins. Simulators that started twins all along evict runs of the same
instants (`perm_makeRoom`), so a run that was started alone is kept if its twin is
(`Level.kept_iff`). They wait for twins equally long and say the same of them (`Level.told`),
whatever their tasks are: `Level` is the invariant, and each thing that can happen to both at once
keeps it.
-/

namespace Delegation

/-- A record without the name of the run and its times of day. -/
def RunRecord.account (r : RunRecord) : RunRecord :=
  { r with runId := ⟨""⟩, startedAt := none, endedAt := none }

/-- A record says what came out of a run if the run is over, and nothing before. -/
def RunRecord.Produces (r : RunRecord) (output : String) : Prop :=
  r.output = if r.status = .completed then some output else none

namespace Simulator

variable {s t : Simulator} {now : Nat} {p q : SimulatedRun × SimulatedRun}
  {pairs past : List (SimulatedRun × SimulatedRun)}

/-- Two runs that only differ in what a simulator does not look at. -/
structure Twins (p : SimulatedRun × SimulatedRun) : Prop where
  agent : p.1.agent = p.2.agent
  started : p.1.started = p.2.started
  output : p.1.output = p.2.output

/-! ## What is said of twins -/

theorem inFlight_twins (latency : s.latencyMs = t.latencyMs) (twins : Twins p) (now : Nat) :
    s.inFlight now p.1 = t.inFlight now p.2 := by
  simp only [inFlight, latency, twins.started]

theorem account_snapshot (latency : s.latencyMs = t.latencyMs) (twins : Twins p) (now : Nat) :
    (s.snapshot now p.1).account = (t.snapshot now p.2).account := by
  have flies := inFlight_twins latency twins now
  cases ht : t.inFlight now p.2 with
  | true => simp [snapshot, RunRecord.account, flies, ht, twins.agent]
  | false => simp [snapshot, RunRecord.account, flies, ht, twins.agent, twins.output, latency]

theorem produces_snapshot (s : Simulator) (now : Nat) (run : SimulatedRun) :
    (s.snapshot now run).Produces run.output := by
  cases flies : s.inFlight now run <;> simp [RunRecord.Produces, snapshot, flies]

theorem produces_of_status {id : RunId} {run : SimulatedRun} {r : RunRecord}
    (kept : s.find? id = some run) (told : s.status now id = some r) : r.Produces run.output := by
  unfold status at told
  rw [kept] at told
  cases told
  exact s.produces_snapshot now run

/-- Twins are waited for equally long, and the same is heard of them. -/
theorem wait_twins (latency : s.latencyMs = t.latencyMs) (twins : Twins p)
    (kept : s.find? p.1.runId = some p.1) (kept' : t.find? p.2.runId = some p.2) (now ms : Nat) :
    (s.wait now p.1.runId ms).1.map RunRecord.account =
        (t.wait now p.2.runId ms).1.map RunRecord.account ∧
      (s.wait now p.1.runId ms).2 = (t.wait now p.2.runId ms).2 := by
  unfold wait
  rw [kept, kept']
  dsimp only
  rw [latency, twins.started]
  by_cases short : ms < t.latencyMs - (now - p.2.started)
  · rw [if_pos short, if_pos short]
    refine ⟨congrArg some ?_, rfl⟩
    have same := account_snapshot latency twins (now + min ms longestWait)
    have status := congrArg RunRecord.status same
    simp only [RunRecord.account] at status
    rw [status]
    by_cases running : (t.snapshot (now + min ms longestWait) p.2).status = .running
    · rw [if_pos running, if_pos running]
      exact congrArg (fun r : RunRecord => { r with status := .timeout }) same
    · rw [if_neg running, if_neg running]
      exact same
  · rw [if_neg short, if_neg short]
    exact ⟨congrArg some (account_snapshot latency twins _), rfl⟩

/-! ## Who is evicted -/

/-- Whoever goes first is chosen by its instant, whatever the table is: of the instants at which two
simulators have started runs, if they are the same, the same one is chosen. -/
theorem started_victim? (latency : s.latencyMs = t.latencyMs) {runs runs' : List SimulatedRun}
    (instants : (runs.map (·.started)).Perm (runs'.map (·.started))) {v v' : SimulatedRun}
    (chosen : s.victim? now runs = some v) (chosen' : t.victim? now runs' = some v') :
    v.started = v'.started := by
  obtain ⟨member, first⟩ := victim?_spec chosen
  obtain ⟨member', first'⟩ := victim?_spec chosen'
  obtain ⟨w, hw, same⟩ := List.mem_map.1 (instants.mem_iff.2 (List.mem_map_of_mem member'))
  obtain ⟨w', hw', same'⟩ := List.mem_map.1 (instants.mem_iff.1 (List.mem_map_of_mem member))
  have unbeaten := first w hw
  have unbeaten' := first' w' hw'
  rw [← Bool.not_eq_true, goesBefore_iff] at unbeaten unbeaten'
  simp only [inFlight, latency, same, same', decide_eq_decide, decide_eq_true_eq,
    decide_eq_false_iff_not] at unbeaten unbeaten'
  omega

/-- Who is evicted takes one instant away. -/
theorem perm_evicted {v : SimulatedRun} {runs : List SimulatedRun}
    (distinct : (runs.map (·.runId)).Nodup) (member : v ∈ runs) :
    (runs.map (·.started)).Perm
      (v.started :: (runs.filter (·.runId ≠ v.runId)).map (·.started)) := by
  obtain ⟨before, after, rfl⟩ := List.append_of_mem member
  rw [filter_of_nodup distinct]
  exact List.perm_middle.map _

/-- Room is made by evicting runs of the same instants. -/
theorem perm_makeRoom (latency : s.latencyMs = t.latencyMs) (capacity : s.capacity = t.capacity)
    {runs runs' : List SimulatedRun} (distinct : (runs.map (·.runId)).Nodup)
    (distinct' : (runs'.map (·.runId)).Nodup)
    (instants : (runs.map (·.started)).Perm (runs'.map (·.started))) (now fuel : Nat) :
    ((s.makeRoom now fuel runs).map (·.started)).Perm
      ((t.makeRoom now fuel runs').map (·.started)) := by
  induction fuel generalizing runs runs' with
  | zero => exact instants
  | succ fuel ih =>
    have length : runs.length = runs'.length := by
      simpa only [List.length_map] using instants.length_eq
    simp only [makeRoom, length, capacity]
    by_cases room : runs'.length < t.capacity
    · rw [if_pos room, if_pos room]
      exact instants
    · rw [if_neg room, if_neg room]
      cases chosen : s.victim? now runs with
      | none =>
        have empty := victim?_eq_none_iff.1 chosen
        subst empty
        have empty' : runs' = [] := List.eq_nil_of_length_eq_zero length.symm
        subst empty'
        exact .refl _
      | some v =>
        cases chosen' : t.victim? now runs' with
        | none =>
          rw [victim?_eq_none_iff.1 chosen'] at length
          rw [List.eq_nil_of_length_eq_zero length] at chosen
          cases chosen
        | some v' =>
          have same := started_victim? latency instants chosen chosen'
          have left := (perm_evicted distinct (victim?_spec chosen).1).symm.trans
            (instants.trans (perm_evicted distinct' (victim?_spec chosen').1))
          rw [same] at left
          exact ih (distinct.sublist (List.filter_sublist.map _))
            (distinct'.sublist (List.filter_sublist.map _)) left.cons_inv

/-! ## Level simulators -/

/-- Among runs of different names, those that are kept are found, and no others. -/
theorem find?_eq_ite {run : SimulatedRun} {runs : List SimulatedRun}
    (distinct : (runs.map (·.runId)).Nodup) (within : s.runs.Sublist runs) (member : run ∈ runs) :
    s.find? run.runId = if run ∈ s.runs then some run else none := by
  have alone : ∀ r ∈ s.runs, r.runId = run.runId → r = run := fun r hr same =>
    List.inj_on_of_nodup_map distinct (within.subset hr) member same
  by_cases kept : run ∈ s.runs
  · rw [if_pos kept]
    refine find?_of_alone alone ?_
    unfold find?
    rw [List.find?_isSome]
    exact ⟨run, kept, decide_eq_true rfl⟩
  · rw [if_neg kept]
    unfold find?
    rw [List.find?_eq_none]
    intro r hr same
    exact kept (alone r hr (of_decide_eq_true same) ▸ hr)

/-- Whether a run is kept that no other was started with can be seen by its instant. -/
theorem mem_iff_started {run : SimulatedRun} {kept runs : List SimulatedRun}
    (within : kept.Sublist runs) (alone : ∀ r ∈ runs, r.started = run.started → r = run) :
    run ∈ kept ↔ run.started ∈ kept.map (·.started) := by
  constructor
  · intro hr
    exact List.mem_map_of_mem hr
  · intro hr
    obtain ⟨r, hr, same⟩ := List.mem_map.1 hr
    exact alone r (within.subset hr) same ▸ hr

namespace Scene

variable {x y : Scene}

/-- Two simulators with one configuration and one clock, and tables of their own, that have started
the runs of `past` two by two. The runs that they keep need not be the same, but they were started
at the same instants, and both keep the latest. -/
structure Level (past : List (SimulatedRun × SimulatedRun)) (x y : Scene) : Prop where
  now : x.now = y.now
  agents : x.simulator.agents = y.simulator.agents
  latency : x.simulator.latencyMs = y.simulator.latencyMs
  responses : x.simulator.responses = y.simulator.responses
  capacity : x.simulator.capacity = y.simulator.capacity
  twins : ∀ p ∈ past, Twins p
  within : x.simulator.runs.Sublist (past.map (·.1))
  within' : y.simulator.runs.Sublist (past.map (·.2))
  instants : (x.simulator.runs.map (·.started)).Perm (y.simulator.runs.map (·.started))
  latest : ∀ p, past.getLast? = some p → p.1 ∈ x.simulator.runs ∧ p.2 ∈ y.simulator.runs
  distinct : ((past.map (·.1)).map (·.runId)).Nodup
  distinct' : ((past.map (·.2)).map (·.runId)).Nodup

/-- A simulator is level with itself, and with one that only has another table. -/
theorem level_self (x : Scene) (distinct : (x.simulator.runs.map (·.runId)).Nodup)
    (place : RunId → Nat) :
    Level (x.simulator.runs.map fun r => (r, r)) x
      { x with simulator := { x.simulator with place } } := by
  have same : ∀ f : SimulatedRun × SimulatedRun → SimulatedRun, (∀ r, f (r, r) = r) →
      (x.simulator.runs.map fun r => (r, r)).map f = x.simulator.runs := by
    intro f hf
    rw [List.map_map]
    exact (List.map_congr_left fun r _ => hf r).trans (List.map_id _)
  have first := same (·.1) fun _ => rfl
  have second := same (·.2) fun _ => rfl
  constructor
  case twins =>
    intro p hp
    obtain ⟨r, -, rfl⟩ := List.mem_map.1 hp
    exact ⟨rfl, rfl, rfl⟩
  case latest =>
    intro p last
    obtain ⟨r, hr, rfl⟩ := List.mem_map.1 (List.mem_of_getLast? last)
    exact ⟨hr, hr⟩
  case within => rw [first]
  case within' => rw [second]
  case instants => exact .refl _
  case distinct => rwa [first]
  case distinct' => rwa [second]
  all_goals rfl

theorem started?_of_listed {agent : AgentName} (listed : agent.text ∈ x.simulator.agents)
    (id : RunId) (startedAt : Int64) (task : String) (label : Option String) :
    x.started? (.spawn id startedAt agent task label) =
      some ⟨id, agent, task, label, x.now, startedAt, x.simulator.outputFor agent task⟩ :=
  if_pos listed

namespace Level

theorem find?_first (level : Level past x y) (hp : p ∈ past) :
    x.simulator.find? p.1.runId = if p.1 ∈ x.simulator.runs then some p.1 else none :=
  find?_eq_ite level.distinct level.within (List.mem_map_of_mem hp)

theorem find?_second (level : Level past x y) (hp : p ∈ past) :
    y.simulator.find? p.2.runId = if p.2 ∈ y.simulator.runs then some p.2 else none :=
  find?_eq_ite level.distinct' level.within' (List.mem_map_of_mem hp)

/-- Of twins that no other run was started with, both are kept or none. -/
theorem kept_iff (level : Level past x y) (hp : p ∈ past)
    (alone : ∀ q ∈ past, q.1.started = p.1.started → q = p) :
    p.1 ∈ x.simulator.runs ↔ p.2 ∈ y.simulator.runs := by
  have first : p.1 ∈ x.simulator.runs ↔ p.1.started ∈ x.simulator.runs.map (·.started) := by
    refine mem_iff_started level.within fun r hr same => ?_
    obtain ⟨q, hq, rfl⟩ := List.mem_map.1 hr
    rw [alone q hq same]
  have second : p.2 ∈ y.simulator.runs ↔ p.2.started ∈ y.simulator.runs.map (·.started) := by
    refine mem_iff_started level.within' fun r hr same => ?_
    obtain ⟨q, hq, rfl⟩ := List.mem_map.1 hr
    rw [← (level.twins q hq).started, ← (level.twins p hp).started] at same
    rw [alone q hq same]
  rw [first, second, (level.twins p hp).started]
  exact level.instants.mem_iff

/-- Of two runs of one instant, the table says which has to go for a third. -/
example :
    let orders : List Event := ["a", "b", "c"].map fun id => .spawn ⟨id⟩ 0 ⟨"technical"⟩ "" none
    let keeping (place : RunId → Nat) : List String :=
      (Scene.after ⟨.ofConfig { maxRuns := 2 } place, 0⟩ orders).simulator.runs.map (·.runId.text)
    keeping (fun id => if id = ⟨"a"⟩ then 0 else 1) = ["b", "c"] ∧
      keeping (fun id => if id = ⟨"b"⟩ then 0 else 1) = ["a", "c"] := by
  decide

/-- The same is said of twins, if both are kept or none. -/
theorem told (level : Level past x y) (hp : p ∈ past)
    (both : p.1 ∈ x.simulator.runs ↔ p.2 ∈ y.simulator.runs) :
    (x.simulator.status x.now p.1.runId).map RunRecord.account =
      (y.simulator.status y.now p.2.runId).map RunRecord.account := by
  unfold status
  rw [level.now, level.find?_first hp, level.find?_second hp]
  by_cases kept : p.2 ∈ y.simulator.runs
  · rw [if_pos (both.2 kept), if_pos kept]
    exact congrArg some (account_snapshot level.latency (level.twins p hp) y.now)
  · rw [if_neg (mt both.1 kept), if_neg kept]
    rfl

/-- Twins that are kept are waited for equally long, and the same is heard of them. -/
theorem heard (level : Level past x y) (hp : p ∈ past) (kept : p.1 ∈ x.simulator.runs)
    (kept' : p.2 ∈ y.simulator.runs) (ms : Nat) :
    (x.simulator.wait x.now p.1.runId ms).1.map RunRecord.account =
        (y.simulator.wait y.now p.2.runId ms).1.map RunRecord.account ∧
      (x.simulator.wait x.now p.1.runId ms).2 = (y.simulator.wait y.now p.2.runId ms).2 := by
  rw [level.now]
  exact wait_twins level.latency (level.twins p hp) ((level.find?_first hp).trans (if_pos kept))
    ((level.find?_second hp).trans (if_pos kept')) y.now ms

theorem at_now (level : Level past x y) {m n : Nat} (now : m = n) :
    Level past { x with now := m } { y with now := n } :=
  { level with now }

theorem wait (level : Level past x y) (hp : p ∈ past) (kept : p.1 ∈ x.simulator.runs)
    (kept' : p.2 ∈ y.simulator.runs) (ms : Nat) :
    Level past (x.next (.wait p.1.runId ms)) (y.next (.wait p.2.runId ms)) :=
  level.at_now (level.heard hp kept kept' ms).2

/-- Two runs of one agent are started, with tasks of which the same becomes. -/
theorem spawn (level : Level past x y) {id id' : RunId} {startedAt startedAt' : Int64}
    {agent : AgentName} {task task' : String} {label label' : Option String}
    (listed : agent.text ∈ x.simulator.agents)
    (output : x.simulator.outputFor agent task = y.simulator.outputFor agent task')
    (fresh : id ∉ (past.map (·.1)).map (·.runId)) (fresh' : id' ∉ (past.map (·.2)).map (·.runId)) :
    Level
      (past ++ [(⟨id, agent, task, label, x.now, startedAt, x.simulator.outputFor agent task⟩,
        ⟨id', agent, task', label', y.now, startedAt', y.simulator.outputFor agent task'⟩)])
      (x.next (.spawn id startedAt agent task label))
      (y.next (.spawn id' startedAt' agent task' label')) := by
  have listed' : agent.text ∈ y.simulator.agents := level.agents ▸ listed
  rw [next_of_started? (started?_of_listed listed id startedAt task label),
    next_of_started? (started?_of_listed listed' id' startedAt' task' label')]
  have length : x.simulator.runs.length = y.simulator.runs.length := by
    simpa only [List.length_map] using level.instants.length_eq
  have left := perm_makeRoom level.latency level.capacity
    (level.distinct.sublist (level.within.map _)) (level.distinct'.sublist (level.within'.map _))
    level.instants y.now y.simulator.runs.length
  constructor
  case now => exact level.now
  case agents => exact level.agents
  case latency => exact level.latency
  case responses => exact level.responses
  case capacity => exact level.capacity
  case twins =>
    intro p hp
    rcases List.mem_append.1 hp with hp | hp
    · exact level.twins p hp
    · cases List.mem_singleton.1 hp
      exact ⟨rfl, level.now, output⟩
  case within =>
    rw [List.map_append]
    exact ((makeRoom_sublist _ _ _ _).trans level.within).append (.refl _)
  case within' =>
    rw [List.map_append]
    exact ((makeRoom_sublist _ _ _ _).trans level.within').append (.refl _)
  case instants =>
    dsimp only
    rw [List.map_append, List.map_append, level.now, length]
    exact left.append (.refl _)
  case latest =>
    intro p last
    rw [List.getLast?_concat] at last
    cases last
    exact ⟨List.mem_append_right _ (.head _), List.mem_append_right _ (.head _)⟩
  case distinct =>
    rw [List.map_append, List.map_append, List.nodup_append_comm]
    exact List.nodup_cons.2 ⟨fresh, level.distinct⟩
  case distinct' =>
    rw [List.map_append, List.map_append, List.nodup_append_comm]
    exact List.nodup_cons.2 ⟨fresh', level.distinct'⟩

end Level

end Scene

end Simulator

end Delegation
