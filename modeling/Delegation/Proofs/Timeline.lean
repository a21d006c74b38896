import Delegation.Simulator

/-!
# The simulator in time

A `Scene` is a simulator with its clock. What happens to it is a list of events: a run is spawned,
waited for or asked for, or time passes. An event changes nothing of a simulator but its runs
(`next_simulator`), the runs change only if one is started (`next_of_started_none`), and the clock
never goes back (`now_le_after`). `Scene.spawned` lists the runs that were started, in order.
-/

namespace Delegation.Simulator

theorem makeRoom_sublist (s : Simulator) (now fuel : Nat) (runs : List SimulatedRun) :
    (s.makeRoom now fuel runs).Sublist runs := by
  induction fuel generalizing runs with
  | zero => exact List.Sublist.refl _
  | succ fuel ih =>
    simp only [makeRoom]
    split
    · exact List.Sublist.refl _
    · split
      · exact List.Sublist.refl _
      · exact (ih _).trans List.filter_sublist

theorem find?_of_alone {s : Simulator} {run : SimulatedRun}
    (alone : ∀ r ∈ s.runs, r.runId = run.runId → r = run)
    (kept : (s.find? run.runId).isSome = true) : s.find? run.runId = some run := by
  obtain ⟨r, hr⟩ := Option.isSome_iff_exists.1 kept
  have same : r.runId = run.runId := by simpa using List.find?_some hr
  rw [hr, alone r (List.mem_of_find?_eq_some hr) same]

/-- What can happen to a simulator. A spawn has its fresh name and the time of day. -/
inductive Event where
  | spawn (id : RunId) (startedAt : Int64) (agent : AgentName) (task : String)
    (label : Option String)
  | wait (id : RunId) (timeoutMs : Nat)
  | status (id : RunId)
  | pass (ms : Nat)

structure Scene where
  simulator : Simulator
  now : Nat

namespace Scene

variable {x : Scene} {e : Event} {es : List Event}

def next (x : Scene) : Event → Scene
  | .spawn id startedAt agent task label =>
    { x with simulator := (x.simulator.spawn x.now startedAt id agent task label).2 }
  | .wait id timeoutMs => { x with now := (x.simulator.wait x.now id timeoutMs).2 }
  | .status _ => x
  | .pass ms => { x with now := x.now + ms }

def after (x : Scene) (es : List Event) : Scene := es.foldl next x

/-- The run that an event starts. -/
def started? (x : Scene) : Event → Option SimulatedRun
  | .spawn id startedAt agent task label =>
    if agent.text ∈ x.simulator.agents then
      some ⟨id, agent, task, label, x.now, startedAt, x.simulator.outputFor agent task⟩
    else none
  | _ => none

/-- The runs that are started in the course of events, in order. -/
def spawned : Scene → List Event → List SimulatedRun
  | _, [] => []
  | x, e :: es => (x.started? e).toList ++ (x.next e).spawned es

/-! ## One event -/

theorem next_of_started? {run : SimulatedRun} (hr : x.started? e = some run) :
    x.next e = { x with simulator := { x.simulator with
      runs := x.simulator.makeRoom x.now x.simulator.runs.length x.simulator.runs ++ [run] } } := by
  cases e with
  | spawn id startedAt agent task label =>
    simp only [started?] at hr
    split at hr
    · rename_i known
      cases hr
      simp [next, Simulator.spawn, known]
    · cases hr
  | wait | status | pass => cases hr

/-- What starts no run changes nothing in the simulator: nothing is evicted. -/
theorem next_of_started_none (hr : x.started? e = none) : (x.next e).simulator = x.simulator := by
  cases e with
  | spawn id startedAt agent task label =>
    simp only [started?] at hr
    split at hr
    · cases hr
    · rename_i unknown
      simp [next, Simulator.spawn, unknown]
  | wait | status | pass => rfl

theorem started_eq_now {run : SimulatedRun} (hr : x.started? e = some run) :
    run.started = x.now := by
  cases e with
  | spawn id startedAt agent task label =>
    simp only [started?] at hr
    split at hr
    · cases hr; rfl
    · cases hr
  | wait | status | pass => cases hr

/-- The agents, the latency, the responses and the capacity stay as they are. -/
theorem next_simulator (x : Scene) (e : Event) :
    ∃ runs, (x.next e).simulator = { x.simulator with runs } := by
  cases hr : x.started? e with
  | none => exact ⟨x.simulator.runs, next_of_started_none hr⟩
  | some run => exact ⟨_, by rw [next_of_started? hr]⟩

theorem now_le_next (x : Scene) (e : Event) : x.now ≤ (x.next e).now := by
  cases e with
  | spawn | status => exact Nat.le_refl _
  | pass ms => exact Nat.le_add_right _ _
  | wait id timeoutMs =>
    simp only [next, Simulator.wait]
    split
    · exact Nat.le_refl _
    · split <;> exact Nat.le_add_right _ _

/-- A run that is started under a fresh name bears it alone. -/
theorem alone_next {run : SimulatedRun} (hr : x.started? e = some run)
    (fresh : ∀ r ∈ x.simulator.runs, r.runId ≠ run.runId) :
    ∀ r ∈ (x.next e).simulator.runs, r.runId = run.runId → r = run := by
  intro r member same
  rw [next_of_started? hr] at member
  rcases List.mem_append.1 member with old | new
  · exact absurd same (fresh r ((makeRoom_sublist _ _ _ _).subset old))
  · exact List.mem_singleton.1 new

theorem find?_next {run : SimulatedRun} (hr : x.started? e = some run)
    (fresh : ∀ r ∈ x.simulator.runs, r.runId ≠ run.runId) :
    (x.next e).simulator.find? run.runId = some run := by
  refine find?_of_alone (alone_next hr fresh) ?_
  rw [next_of_started? hr]
  simp [Simulator.find?]

/-! ## Many events -/

theorem after_cons (x : Scene) (e : Event) (es : List Event) :
    x.after (e :: es) = (x.next e).after es := rfl

theorem after_simulator (x : Scene) (es : List Event) :
    ∃ runs, (x.after es).simulator = { x.simulator with runs } := by
  induction es generalizing x with
  | nil => exact ⟨x.simulator.runs, rfl⟩
  | cons e es ih =>
    obtain ⟨runs, hn⟩ := x.next_simulator e
    obtain ⟨runs', ha⟩ := ih (x.next e)
    exact ⟨runs', by rw [after_cons, ha, hn]⟩

/-- A run that bears its name alone bears it alone from then on. -/
theorem alone_after {run : SimulatedRun}
    (alone : ∀ r ∈ x.simulator.runs, r.runId = run.runId → r = run)
    (unused : run.runId ∉ (x.spawned es).map (·.runId)) :
    ∀ r ∈ (x.after es).simulator.runs, r.runId = run.runId → r = run := by
  induction es generalizing x with
  | nil => exact alone
  | cons e es ih =>
    rw [spawned, List.map_append, List.mem_append, not_or] at unused
    refine ih ?_ unused.2
    intro r hr same
    cases hs : x.started? e with
    | none =>
      rw [next_of_started_none hs] at hr
      exact alone r hr same
    | some new =>
      rw [next_of_started? hs] at hr
      rcases List.mem_append.1 hr with hr | hr
      · exact alone r ((makeRoom_sublist _ _ _ _).subset hr) same
      · rw [List.mem_singleton] at hr
        subst hr
        simp [hs, same] at unused

theorem now_le_after (x : Scene) (es : List Event) : x.now ≤ (x.after es).now := by
  induction es generalizing x with
  | nil => exact Nat.le_refl _
  | cons e es ih => exact Nat.le_trans (x.now_le_next e) (ih (x.next e))

end Scene

end Delegation.Simulator
