import Delegation.Proofs.Lifecycle
import Delegation.Proofs.Replies
import Delegation.Proofs.Splicing

/-!
# What an order does to the simulator

Of a host, an order on the simulator concerns the simulator and its clock, and of what the memory
did before it only the message that came of the task. `Scene.served` says what is answered and what
becomes of the simulator, and `served_of_performs` that it is so for every dispatcher and every
memory. The host's ledger, its memory and its other clocks do not matter.
-/

namespace Delegation

variable {d : Dispatcher} {o : SpawnOrder} {h h' : Host} {log : List Exchange}

/-! ## The first line of a task -/

namespace Text

theorem firstLine_append_lineFeed (s t : String) : firstLine (s ++ "\n" ++ t) = firstLine s := by
  unfold firstLine
  rw [String.toList_append, String.toList_append, List.append_assoc]
  congr 1
  induction s.toList with
  | nil => rfl
  | cons c cs ih => rw [List.cons_append, List.takeWhile_cons, List.takeWhile_cons, ih]

/-- The first line of a trimmed text is not blank, if the text is not. -/
theorem trim_firstLine_ne_empty {s : String} (solid : trim s ≠ "") :
    trim (firstLine (trim s)) ≠ "" := by
  cases hs : (trim s).toList with
  | nil => exact absurd (String.toList_eq_nil_iff.1 hs) solid
  | cons c cs =>
    have first : isBlank c = false := isBlank_head?_trim (by rw [hs]; rfl)
    have kept : c ≠ '\n' := by
      rintro rfl
      exact absurd first (by decide)
    refine trim_ne_empty_of_mem (c := c) ?_ first
    simp [firstLine, hs, kept]

end Text

namespace Recall

/-- The block stands on lines of its own. -/
theorem firstLine_splice (task : String) (hits : List MemoryHit) :
    Text.firstLine (splice task hits) = Text.firstLine task := by
  by_cases some : hits = []
  · rw [splice, if_pos some]
  · have lineFeeds : task ++ "\n\n" ++ block hits = task ++ "\n" ++ ("\n" ++ block hits) := by
      simp [← String.toList_inj]
    rw [splice_of_ne_nil some, lineFeeds, Text.firstLine_append_lineFeed]

theorem firstLine_enriched (task : String) (answer : Reply (List MemoryHit)) :
    Text.firstLine (enriched task answer) = Text.firstLine task := by
  cases answer with
  | ok hits => exact firstLine_splice task hits
  | error reason => rfl

end Recall

/-- A task that was enriched begins as it did before. -/
theorem Dispatcher.Augments.firstLine_eq {task message : String}
    (augments : d.Augments o task log message) :
    Text.firstLine message = Text.firstLine task := by
  cases augments with
  | plain => rfl
  | searched => exact Recall.firstLine_enriched task _

/-! ## Orders on a scene -/

theorem SpawnOrder.eq_of_checked {agent : AgentName} {task : String}
    (checked : o.checked = .ok (agent, task)) :
    agent = ⟨Text.trim o.agent⟩ ∧ task = Text.trim o.task ∧ Text.trim o.task ≠ "" := by
  obtain ⟨named, given, -⟩ := SpawnOrder.checked_eq_ok_iff.1 checked
  have trimmed := Text.eq_trim_of_nonBlank? given
  refine ⟨congrArg Name.mk (Name.parse?_eq_some_iff.1 named).1, trimmed, ?_⟩
  have solid := Text.trim_ne_empty_of_nonBlank? given
  rwa [trimmed, Text.trim_trim] at solid

/-- The simulator of a host and its clock. -/
def Host.scene (h : Host) : Simulator.Scene := ⟨h.simulator, h.clock⟩

/-- The result of a simulated run. -/
def SpawnResult.simulated (r : RunRecord) (memory : Option MemoryReport) : SpawnResult :=
  { SpawnResult.ofRecord r .mock none with memory }

namespace Simulator

/-- The record of a run that has just been started. -/
def begun (id : RunId) (agent : AgentName) (startedAt : Int64) : RunRecord where
  runId := id
  agent := agent
  status := .accepted
  childSessionKey := none
  output := none
  error := none
  startedAt := some startedAt
  endedAt := none
  durationMs := none

namespace Scene

variable {x : Scene}

/-- What is known of a run that has just been started, after it was waited for if that is wanted. -/
def settled (x : Scene) (waitMs : UInt64) (r : RunRecord) : RunRecord × Scene :=
  if waitMs = 0 then (r, x)
  else
    (Dispatcher.softened ((x.simulator.wait x.now r.runId waitMs.toNat).1.getD r),
      x.next (.wait r.runId waitMs.toNat))

theorem runId_softened (r : RunRecord) : (Dispatcher.softened r).runId = r.runId := by
  unfold Dispatcher.softened
  split <;> rfl

/-- A wait for a run is about that run. -/
theorem runId_settled (x : Scene) (waitMs : UInt64) (r : RunRecord) :
    (x.settled waitMs r).1.runId = r.runId := by
  unfold settled
  by_cases unwaited : waitMs = 0
  · rw [if_pos unwaited]
  · rw [if_neg unwaited]
    cases kept : x.simulator.find? r.runId with
    | none =>
      unfold Simulator.wait
      rw [kept]
      exact runId_softened r
    | some run =>
      obtain ⟨seen, later, waited, told⟩ := wait_of_find? kept x.now waitMs.toNat
      rw [waited]
      exact runId_of_status told

theorem simulator_settled (x : Scene) (waitMs : UInt64) (r : RunRecord) :
    (x.settled waitMs r).2.simulator = x.simulator := by
  unfold settled
  split <;> rfl

/-- What comes of an order, if its task became `message`: the answer, and what becomes of the
simulator. -/
def served (x : Scene) (o : SpawnOrder) (id : RunId) (startedAt : Int64) (message : String)
    (memory : Option MemoryReport) : Envelope SpawnResult × Scene :=
  match o.checked with
  | .error f => (.ofFailure f, x)
  | .ok (agent, _) =>
    if agent.text ∈ x.simulator.agents then
      let (r, y) := (x.next (.spawn id startedAt agent message o.label)).settled o.waitMs
        (begun id agent startedAt)
      (.success (.simulated r memory), y)
    else (.ofFailure (.agentNotFound agent.text), x)

section

variable {o : SpawnOrder} {id : RunId} {startedAt : Int64} {message : String}
  {memory : Option MemoryReport} {agent : AgentName} {task : String}

theorem served_of_unchecked {f : Failure} (unchecked : o.checked = .error f) :
    x.served o id startedAt message memory = (.ofFailure f, x) := by
  unfold served
  rw [unchecked]

theorem served_of_unlisted (checked : o.checked = .ok (agent, task))
    (unlisted : agent.text ∉ x.simulator.agents) :
    x.served o id startedAt message memory =
      (.ofFailure (.agentNotFound agent.text), x) := by
  unfold served
  rw [checked]
  exact if_neg unlisted

theorem served_of_listed (checked : o.checked = .ok (agent, task))
    (listed : agent.text ∈ x.simulator.agents) {settled : RunRecord × Scene}
    (same : settled = (x.next (.spawn id startedAt agent message o.label)).settled o.waitMs
      (begun id agent startedAt)) :
    x.served o id startedAt message memory =
      (.success (.simulated settled.1 memory), settled.2) := by
  subst same
  unfold served
  rw [checked]
  exact if_pos listed

/-- No order changes the fixed responses. -/
theorem responses_served (x : Scene) (o : SpawnOrder) (id : RunId) (startedAt : Int64)
    (message : String) (memory : Option MemoryReport) :
    (x.served o id startedAt message memory).2.simulator.responses = x.simulator.responses := by
  cases checked : o.checked with
  | error f => rw [served_of_unchecked checked]
  | ok order =>
    obtain ⟨agent, task⟩ := order
    by_cases listed : agent.text ∈ x.simulator.agents
    · obtain ⟨runs, same⟩ := x.next_simulator (.spawn id startedAt agent message o.label)
      rw [served_of_listed checked listed rfl, simulator_settled, same]
    · rw [served_of_unlisted checked listed]

/-- Whoever gets a result has given a task. -/
theorem given_of_served {y : Scene} {env : Envelope SpawnResult} {result : SpawnResult}
    (answered : (env, y) = x.served o id startedAt message memory)
    (told : env.data = some result) : Text.trim o.task ≠ "" := by
  cases checked : o.checked with
  | error f =>
    rw [served_of_unchecked checked] at answered
    cases answered
    cases told
  | ok order => exact (SpawnOrder.eq_of_checked checked).2.2

end

end Scene

end Simulator

open Simulator (begun)

namespace Host

theorem simulate_of_listed {agent : AgentName} (listed : agent.text ∈ h.simulator.agents)
    (task : String) (label : Option String) :
    (h.simulate agent task label).1 =
      some (begun (Supply.simulatedRun h.supply) agent (Int64.ofInt (h.epoch + h.clock))) := by
  simp only [simulate, Simulator.spawn, if_pos listed]
  rfl

theorem scene_simulate (h : Host) (agent : AgentName) (task : String) (label : Option String) :
    (h.simulate agent task label).2.scene =
      h.scene.next (.spawn (Supply.simulatedRun h.supply) (Int64.ofInt (h.epoch + h.clock)) agent
        task label) := rfl

theorem Unscripted.scene_eq (own : h.Unscripted log h')
    (others : ∀ e ∈ log, e.question.isSimulation = false) : h'.scene = h.scene := by
  obtain ⟨clock, simulator⟩ := own.simulation_eq others
  unfold scene
  rw [clock, simulator]

theorem Unscripted.scene_of_refused {agent : AgentName} {task : String} {label : Option String}
    {e : SimulatorError} (own : h.Unscripted [⟨.simulate agent task label, .error e⟩] h') :
    h'.scene = h.scene := by
  have unlisted := own.unlisted.1
  cases own with
  | cons _ own rest =>
    cases rest
    have refused := (answer_simulate_eq_error_iff.1 (own rfl)).1
    simp only [simulate, Simulator.spawn, if_neg unlisted] at refused
    cases refused
    rfl

end Host

namespace Dispatcher

/-- How a run is started and waited for is settled by the scene. -/
theorem Starts.settled_eq {agent : AgentName} {message : String} {r : RunRecord}
    (starts : Starts o agent message h log r h') {h₁ h₂ : Host} (own : h₁.Unscripted log h₂) :
    agent.text ∈ h₁.simulator.agents ∧
      (r, h₂.scene) = (h₁.scene.next (.spawn (Supply.simulatedRun h₁.supply)
        (Int64.ofInt (h₁.epoch + h₁.clock)) agent message o.label)).settled o.waitMs
          (begun (Supply.simulatedRun h₁.supply) agent (Int64.ofInt (h₁.epoch + h₁.clock))) := by
  obtain ⟨_, _, same⟩ := starts.log_eq
  have listed : agent.text ∈ h₁.simulator.agents := by
    rw [same] at own
    exact own.listed
  refine ⟨listed, ?_⟩
  have record := Host.simulate_of_listed listed message o.label
  rw [← Host.scene_simulate]
  unfold Simulator.Scene.settled
  cases starts with
  | atOnce _ unwaited =>
    cases own with
    | cons _ own rest =>
      cases rest
      have started := Host.answer_simulate_eq_ok_iff.1 (own rfl)
      rw [started] at record ⊢
      cases record
      rw [if_pos unwaited]
  | waited _ waits =>
    cases own with
    | @cons _ h₃ _ _ _ _ _ own rest =>
      cases rest with
      | cons _ own₁ rest =>
        cases rest
        have started := Host.answer_simulate_eq_ok_iff.1 (own rfl)
        rw [started] at record ⊢
        cases record
        have waited : h₃.await _ o.waitMs.toNat = (_, h₂) := own₁ rfl
        rw [if_neg waits]
        cases waited
        rfl

/-- An order on the host's own simulator. What the memory did shows in the message, which begins as
the task does, and in the memory report of the result. -/
theorem served_of_performs (mock : d.config.backend = .mock) {env : Envelope SpawnResult}
    (spawned : h.Performs (d.spawn o) log env h') (own : h.Unscripted log h') :
    ∃ message memory, Text.firstLine message = Text.firstLine (Text.trim o.task) ∧
      (env, h'.scene) = h.scene.served o (Supply.simulatedRun h.supply)
        (Int64.ofInt (h.epoch + h.clock)) message memory := by
  cases simulatedCourse_of_performs mock spawned with
  | refused unchecked =>
    exact ⟨Text.trim o.task, none, rfl, (Simulator.Scene.served_of_unchecked unchecked).symm⟩
  | @unknown agent task message _ before _ checked augments refusal =>
    obtain ⟨h₁, front, back⟩ := Host.unscripted_append own
    cases augments.unscripted_eq front
    obtain ⟨unlisted, named⟩ := back.unlisted
    cases named
    obtain ⟨-, trimmed, -⟩ := SpawnOrder.eq_of_checked checked
    refine ⟨message, none, trimmed ▸ augments.firstLine_eq, ?_⟩
    rw [Simulator.Scene.served_of_unlisted checked unlisted, back.scene_of_refused]
  | @started agent task message _ _ _ _ _ _ _ checked augments starts remembers =>
    -- Before the start only the memory is asked, and after it only the memory is told.
    obtain ⟨isMemory, memory, rfl⟩ := performs_persisted remembers
    obtain ⟨h₂, front, back⟩ := Host.unscripted_append own
    obtain ⟨h₃, before, following⟩ := Host.unscripted_append front
    cases augments.unscripted_eq before
    obtain ⟨listed, settled⟩ := starts.settled_eq following
    have others := back.scene_eq fun e he => Question.isSimulation_of_isMemory (isMemory e he)
    obtain ⟨-, trimmed, -⟩ := SpawnOrder.eq_of_checked checked
    refine ⟨message, memory, trimmed ▸ augments.firstLine_eq, ?_⟩
    rw [Simulator.Scene.served_of_listed checked listed settled, others]
    rfl

end Dispatcher

end Delegation
