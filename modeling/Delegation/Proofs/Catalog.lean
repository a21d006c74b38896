import Delegation.Config.Loading
import Delegation.Proofs.Remembering

/-!
# The experts that can be reached

The simulator knows the experts that its configuration lists, for as long as it lives
(`Chronicle.agents_eq`). A caller's name is trimmed before it is looked up, and the list is not, nor
is the name of the memory agent. So a caller reaches an expert exactly if the trimmed name is
listed, and the results of the memory agent are remembered exactly if its name is listed and
written without blanks around it (`spawn_listed`). The check of a configuration does not see to
either (`padded_accepted`).
-/

namespace Delegation

variable {d : Dispatcher} {o : SpawnOrder} {h h' : Host} {log : List Exchange}

namespace Config

/-- With the simulator, a configuration is accepted if the memory agent has a name. -/
theorem validate_of_mock {c : Config} (mock : c.backend = .mock) :
    c.validate = .ok () ↔ Text.trim c.memoryAgent ≠ "" := by
  unfold validate
  rw [mock]
  by_cases blank : Text.trim c.memoryAgent = ""
  · rw [if_pos blank]
    exact iff_of_false nofun (not_not_intro blank)
  · rw [if_neg blank]
    exact iff_of_true rfl blank

end Config

/-! ## The list of the simulator -/

namespace Host

theorem agents_simulate (h : Host) (agent : AgentName) (task : String) (label : Option String) :
    (h.simulate agent task label).2.simulator.agents = h.simulator.agents := by
  unfold simulate Simulator.spawn
  by_cases listed : agent.text ∈ h.simulator.agents
  · rw [if_pos listed]
  · rw [if_neg listed]

/-- The host's own simulator starts a run of an expert that is listed, and of no other. -/
theorem simulate_eq_none_iff {agent : AgentName} {task : String} {label : Option String} :
    (h.simulate agent task label).1 = none ↔ agent.text ∉ h.simulator.agents := by
  unfold simulate Simulator.spawn
  by_cases listed : agent.text ∈ h.simulator.agents
  · rw [if_pos listed]
    exact iff_of_false nofun (not_not_intro listed)
  · rw [if_neg listed]
    exact iff_of_true rfl listed

/-- A run that was started is one of an expert that is listed. -/
theorem Unscripted.listed {agent : AgentName} {task : String} {label : Option String}
    {started : RunRecord}
    (own : h.Unscripted (⟨.simulate agent task label, .ok started⟩ :: log) h') :
    agent.text ∈ h.simulator.agents := by
  cases own with
  | cons _ own =>
    have answered := answer_simulate_eq_ok_iff.1 (own rfl)
    refine Classical.not_not.1 fun unlisted => ?_
    have refused : (h.simulate agent task label).1 = none := simulate_eq_none_iff.2 unlisted
    rw [answered] at refused
    cases refused

/-- The refusal names the expert that was asked for, who is not listed. -/
theorem Unscripted.unlisted {agent : AgentName} {task : String} {label : Option String}
    {e : SimulatorError}
    (own : h.Unscripted (⟨.simulate agent task label, .error e⟩ :: log) h') :
    agent.text ∉ h.simulator.agents ∧ e = .unknownAgent agent.text := by
  cases own with
  | cons _ own =>
    obtain ⟨refused, named⟩ := answer_simulate_eq_error_iff.1 (own rfl)
    exact ⟨simulate_eq_none_iff.1 (congrArg Prod.fst refused), named⟩

/-- No answer changes the list. -/
theorem Answers.agents_eq {q : Question} {a : q.Answer} (ha : h.Answers q a h') :
    h'.simulator.agents = h.simulator.agents := by
  cases ha with
  | standIn => rfl
  | own remote =>
    cases q with
    | simulate agent task label => exact h.agents_simulate agent task label
    | _ => simp only [answer, await, store, capture, renewed]

theorem Performs.agents_eq {α : Type} {p : Procedure α} {a : α} (hp : h.Performs p log a h') :
    h'.simulator.agents = h.simulator.agents := by
  induction hp with
  | done => rfl
  | ask answered _ ih => rw [ih, answered.agents_eq]

end Host

theorem Episode.Happens.agents_eq {e : Episode} (happens : e.Happens d h h') :
    h'.simulator.agents = h.simulator.agents := by
  cases e with
  | spawn order log env => exact Host.Performs.agents_eq happens
  | status query log env => exact Host.Performs.agents_eq happens

/-- Whatever happens, the simulator knows the experts that it knew in the beginning. -/
theorem Chronicle.agents_eq {h₀ : Host} {es : List Episode} (past : Chronicle d h₀ es h) :
    h.simulator.agents = h₀.simulator.agents := by
  induction past with
  | start => rfl
  | next _ happens ih => exact happens.agents_eq.trans ih
  | pause _ _ ih => exact ih

/-! ## Who can be reached -/

theorem SpawnOrder.checked_of_named {o : SpawnOrder} (named : Text.trim o.agent ≠ "")
    (given : Text.trim o.task ≠ "") (within : o.waitMs ≤ maxWaitMs) :
    o.checked = .ok (⟨Text.trim o.agent⟩, Text.trim o.task) :=
  checked_eq_ok_iff.2 ⟨Name.parse?_eq_some_iff.2 ⟨rfl, named⟩, if_neg given, UInt64.not_lt.2 within⟩

namespace Dispatcher

theorem Starts.log_eq {agent : AgentName} {message : String} {r : RunRecord}
    (starts : Starts o agent message h log r h') :
    ∃ started waiting, log = ⟨.simulate agent message o.label, .ok started⟩ :: waiting := by
  cases starts <;> exact ⟨_, _, rfl⟩

/-- The host's own simulator carries an order out if the trimmed name is listed, and refuses it for
its expert if not. -/
theorem SimulatedCourse.listed {env : Envelope SpawnResult}
    (course : SimulatedCourse d o h log env h') (own : h.Unscripted log h')
    (checked : o.checked = .ok (⟨Text.trim o.agent⟩, Text.trim o.task)) :
    if Text.trim o.agent ∈ h.simulator.agents then env.ok = true ∧ env.code = .ok
    else env = .ofFailure (.agentNotFound (Text.trim o.agent)) := by
  cases course with
  | refused unchecked => cases unchecked.symm.trans checked
  | unknown checked' augments _ =>
    cases checked'.symm.trans checked
    obtain ⟨h₁, front, back⟩ := Host.unscripted_append own
    have others := fun e he => Question.isSimulation_of_isMemory (augments.isMemory e he)
    obtain ⟨unlisted, named⟩ := back.unlisted
    cases named
    rw [(front.simulation_eq others).2] at unlisted
    rw [if_neg unlisted]
  | started checked' augments starts _ =>
    cases checked'.symm.trans checked
    obtain ⟨h₂, front, -⟩ := Host.unscripted_append own
    obtain ⟨h₁, before, following⟩ := Host.unscripted_append front
    obtain ⟨started, waiting, rfl⟩ := starts.log_eq
    have others := fun e he => Question.isSimulation_of_isMemory (augments.isMemory e he)
    have listed := following.listed
    rw [(before.simulation_eq others).2] at listed
    rw [if_pos listed]
    exact ⟨rfl, rfl⟩

end Dispatcher

/-- A caller reaches an expert of the simulator exactly if the name, trimmed, is in the list of the
configuration; otherwise the order is refused for that reason. The memory agent's result comes with
a report exactly if its name is listed and has no blanks around it. -/
theorem spawn_listed (valid : d.config.validate = .ok ()) (mock : d.config.backend = .mock)
    {h₀ : Host} {place : RunId → Nat} (made : h₀.simulator = .ofConfig d.config.mock place)
    {es : List Episode} (past : Chronicle d h₀ es h) (given : Text.trim o.task ≠ "")
    (within : o.waitMs ≤ maxWaitMs) {env : Envelope SpawnResult}
    (spawned : h.Performs (d.spawn o) log env h') (own : h.Unscripted log h') :
    (Text.trim o.agent ≠ "" →
      (env.code = .agentNotFound ↔ Text.trim o.agent ∉ d.config.mock.agents) ∧
        (env.ok = true ↔ Text.trim o.agent ∈ d.config.mock.agents)) ∧
    (o.agent = d.config.memoryAgent → o.persistMemory = true →
      ((∃ result report, env.data = some result ∧ result.memory = some report) ↔
        d.config.memoryAgent ∈ d.config.mock.agents ∧
          Text.trim d.config.memoryAgent = d.config.memoryAgent)) := by
  have agents : h.simulator.agents = d.config.mock.agents := by
    rw [past.agents_eq, made]
    rfl
  have reached (named : Text.trim o.agent ≠ "") :
      (env.code = .agentNotFound ↔ Text.trim o.agent ∉ d.config.mock.agents) ∧
        (env.ok = true ↔ Text.trim o.agent ∈ d.config.mock.agents) := by
    have course := (Dispatcher.simulatedCourse_of_performs mock spawned).listed own
      (SpawnOrder.checked_of_named named given within)
    rw [agents] at course
    by_cases listed : Text.trim o.agent ∈ d.config.mock.agents
    · rw [if_pos listed] at course
      exact ⟨iff_of_false (by rw [course.2]; exact nofun) (not_not_intro listed),
        iff_of_true course.1 listed⟩
    · rw [if_neg listed] at course
      subst course
      exact ⟨iff_of_true rfl listed, iff_of_false nofun listed⟩
  refine ⟨reached, fun asked persists => ?_⟩
  have named : Text.trim o.agent ≠ "" := by
    rw [asked]
    exact (Config.validate_of_mock mock).1 valid
  have kept : o.isKept d = true ↔ Text.trim d.config.memoryAgent = d.config.memoryAgent := by
    simp [SpawnOrder.isKept, persists, mock, asked]
  rw [(Dispatcher.finishes_of_performs spawned).persists.reported, (reached named).2, kept, asked]
  constructor
  · rintro ⟨listed, trimmed⟩
    exact ⟨by rwa [trimmed] at listed, trimmed⟩
  · rintro ⟨listed, trimmed⟩
    exact ⟨by rwa [trimmed], trimmed⟩

namespace Sample

/-- The default configuration, with a memory. -/
def listing : Dispatcher := ⟨{}, true⟩

/-- Two listed names, and that of the memory agent, have blanks around them. -/
def padded : Dispatcher :=
  ⟨{ memoryAgent := " memory ", mock := { agents := [" technical ", " memory ", "memory"] } }, true⟩

/-- An order to an expert, whose result is to be remembered. -/
def orderTo (agent : String) : SpawnOrder := { agent, task := "fix it", persistMemory := true }

end Sample

/-- The memory agent of the default configuration is reached, and its result comes with a report. -/
theorem spawn_listed_sample : ∃ log env h' result report,
    Host.Performs (.ofConfig Sample.listing.config.mock)
      (Sample.listing.spawn (Sample.orderTo "memory")) log env h' ∧
    env.ok = true ∧ env.data = some result ∧ result.memory = some report := by
  obtain ⟨log, spawned, own⟩ := Host.performs_alone (.ofConfig Sample.listing.config.mock)
    (Sample.listing.spawn (Sample.orderTo "memory"))
  obtain ⟨reached, remembered⟩ :=
    spawn_listed (d := Sample.listing) rfl rfl rfl .start (by decide) (by decide) spawned own
  have listed : "memory" ∈ Sample.listing.config.mock.agents := by decide
  have trimmed : Text.trim "memory" = "memory" := by decide
  obtain ⟨result, report, told, reported⟩ := (remembered rfl rfl).2 ⟨listed, trimmed⟩
  have well := (reached (by decide)).2.2 (show Text.trim "memory" ∈ _ from trimmed ▸ listed)
  exact ⟨log, _, _, result, report, spawned, well, told, reported⟩

/-- A configuration that is accepted, although one of its experts cannot be reached under its own
name, and the memory agent's result is not remembered. -/
theorem padded_accepted :
    (Sample.padded.config.validate = .ok () ∧ Sample.padded.config.backend = .mock) ∧
    (" technical " ∈ Sample.padded.config.mock.agents ∧ Text.trim " technical " ≠ "" ∧
      ∃ log env h', Host.Performs (.ofConfig Sample.padded.config.mock)
        (Sample.padded.spawn (Sample.orderTo " technical ")) log env h' ∧
      Host.Unscripted (.ofConfig Sample.padded.config.mock) log h' ∧
      env.code = .agentNotFound) ∧
    Sample.padded.config.memoryAgent = " memory " ∧
      " memory " ∈ Sample.padded.config.mock.agents ∧
      ∃ log env h' result, Host.Performs (.ofConfig Sample.padded.config.mock)
        (Sample.padded.spawn (Sample.orderTo " memory ")) log env h' ∧
      Host.Unscripted (.ofConfig Sample.padded.config.mock) log h' ∧
      env.data = some result ∧ result.memory = none := by
  refine ⟨⟨rfl, rfl⟩, ⟨by decide, by decide, ?_⟩, rfl, by decide, ?_⟩
  · obtain ⟨log, spawned, own⟩ := Host.performs_alone (.ofConfig Sample.padded.config.mock)
      (Sample.padded.spawn (Sample.orderTo " technical "))
    exact ⟨log, _, _, spawned, own, rfl⟩
  · obtain ⟨log, spawned, own⟩ := Host.performs_alone (.ofConfig Sample.padded.config.mock)
      (Sample.padded.spawn (Sample.orderTo " memory "))
    exact ⟨log, _, _, _, spawned, own, rfl, rfl⟩

end Delegation
