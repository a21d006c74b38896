import Delegation.Proofs.Reporting
import Delegation.Proofs.Simulating

/-!
# A spawn is answered as it is tracked

Two values go through a spawn: the one that it answers with, and the one that is kept, in the ledger
or in the simulator. `spawn_agrees` says that whoever asks right afterwards is told the same as the
spawn answered, on either backend, whatever the remote side replied and however long the spawn
waited; and that nobody is ever told of a timeout, which is the waiting caller's and not the run's.
-/

namespace Delegation

variable {d : Dispatcher} {o : SpawnOrder} {h h' : Host} {log : List Exchange}

/-- The result of a spawn says what a record says. -/
structure SpawnResult.AgreesWith (result : SpawnResult) (r : RunRecord) : Prop where
  runId : result.runId = some r.runId
  agent : result.agent = r.agent
  status : result.status = r.status
  output : result.output = r.output
  durationMs : result.durationMs = r.durationMs
  error : result.error = r.error
  childSessionKey : result.childSessionKey = r.childSessionKey

theorem SpawnResult.agreesWith_ofRecord (r : RunRecord) (mode : Backend) (warning : Option String)
    (memory : Option MemoryReport) :
    ({ ofRecord r mode warning with memory } : SpawnResult).AgreesWith r :=
  ⟨rfl, rfl, rfl, rfl, rfl, rfl, rfl⟩

/-! ## A wait that fails -/

theorem mem_calls {e : Exchange} (he : e ∈ log) (called : e.question.isCall = true) :
    e ∈ calls log :=
  List.mem_filter.2 ⟨he, called⟩

namespace Dispatcher

/-- A failed wait was for an accepted run, which stays as it was entered. -/
theorem Follows.of_failed_wait {agent : AgentName} {a : Remote.Acceptance} {l l' : Ledger}
    {r : RunRecord} (follows : d.Follows agent o a l log r l') {c : Remote.MethodCall}
    {reason : String} (wait : c.method = "agent.wait")
    (failed : ⟨.call c, .error reason⟩ ∈ calls log) : r.status = .accepted := by
  cases follows with
  | atOnce | unanswered => rfl
  | answered _ raw reads =>
    rw [calls_answered reads rfl rfl] at failed
    rcases List.mem_cons.1 failed with same | read
    · cases eq_of_heq (Exchange.mk.inj same).2
    · exact absurd read (reads.not_mem_wait wait _)

/-- A spawn goes well although its wait fails. -/
theorem SpawnCourse.of_failed_wait {env : Envelope SpawnResult}
    (course : SpawnCourse d o h log env h') {c : Remote.MethodCall} {reason : String}
    (wait : c.method = "agent.wait") (failed : ⟨.call c, .error reason⟩ ∈ log) :
    env.ok = true ∧ ∃ result, env.data = some result ∧ result.status = .accepted := by
  have called := mem_calls failed rfl
  cases course with
  | refused | sessionless => cases failed
  | sent _ _ augments | refusedThere _ _ augments =>
    rw [calls_behind augments.isMemory] at called
    cases congrArg Exchange.question (List.mem_singleton.1 called)
  | taken _ _ augments _ _ follows remembers =>
    obtain ⟨memory, m, rfl⟩ := performs_persisted remembers
    rw [calls_between augments.isMemory memory] at called
    rcases List.mem_cons.1 called with same | waited
    · cases congrArg Exchange.question same
    · exact ⟨rfl, _, rfl, follows.of_failed_wait wait waited⟩

/-! ## The simulator -/

/-- A spawn that waited for a run of the host's own simulator answers with what can be observed. -/
theorem SimulatedCourse.observed {env : Envelope SpawnResult}
    (course : SimulatedCourse d o h log env h') (hu : h.Unscripted log h') (waits : o.waitMs ≠ 0)
    (well : env.ok = true) :
    ∃ r memory, env = .success { SpawnResult.ofRecord r .mock none with memory } ∧
      Text.nonBlank? r.runId.text = some r.runId.text ∧ r.status ≠ .timeout ∧
      h'.observe r.runId = some r := by
  cases course with
  | refused | unknown => cases well
  | @started _ _ _ _ _ after _ _ _ _ _ _ starts remembers =>
    obtain ⟨memory, m, rfl⟩ := performs_persisted remembers
    obtain ⟨h₂, front, back⟩ := Host.unscripted_append hu
    obtain ⟨h₁, -, middle⟩ := Host.unscripted_append front
    obtain ⟨named, softly, observed⟩ := starts.observed middle waits
    have others : ∀ e ∈ after, e.question.isSimulation = false := fun e he =>
      Question.isSimulation_of_isMemory (memory e he)
    refine ⟨_, m, rfl, named, softly, ?_⟩
    rw [back.observe_eq others]
    exact observed

end Dispatcher

/-! ## Whoever asks right afterwards -/

/-- What a spawn answers is what is kept of the run. On the remote side: the ledger has a record of
the run that says the same, and a wait that failed leaves the run accepted. On the host's own
simulator: a query right after a spawn that waited reports the same. -/
theorem spawn_agrees {env : Envelope SpawnResult} (spawned : h.Performs (d.spawn o) log env h') :
    (d.config.backend = .real → o.useSessionsSend = false →
      (env.ok = true → ∃ result id r, env.data = some result ∧ result.runId = some id ∧
        h'.ledger.get? id.text = some r ∧ result.AgreesWith r ∧ result.status ≠ .timeout) ∧
      ∀ c reason, c.method = "agent.wait" → ⟨.call c, .error reason⟩ ∈ log →
        env.ok = true ∧ ∃ result, env.data = some result ∧ result.status = .accepted) ∧
    (d.config.backend = .mock → o.waitMs ≠ 0 → h.Unscripted log h' → env.ok = true →
      ∃ result id, env.data = some result ∧ result.runId = some id ∧ result.status ≠ .timeout ∧
        ∀ asked answer h'', h'.Performs (d.status id.text) asked answer h'' →
          h'.Unscripted asked h'' →
          ∃ report, answer = .success report ∧ result.report? = some report ∧
            report.status ≠ .known .timeout) := by
  refine ⟨fun real spawns => ⟨fun well => ?_, fun c reason wait failed => ?_⟩,
    fun mock waits unscripted well => ?_⟩
  · obtain ⟨r, warning, memory, rfl, -, stored, softly⟩ :=
      ((Dispatcher.performs_spawn real).1 spawned).stored well spawns
    exact ⟨_, r.runId, r, rfl, rfl, stored, SpawnResult.agreesWith_ofRecord r .real warning memory,
      softly⟩
  · exact ((Dispatcher.performs_spawn real).1 spawned).of_failed_wait wait failed
  · obtain ⟨r, memory, rfl, named, softly, observed⟩ :=
      (Dispatcher.simulatedCourse_of_performs mock spawned).observed unscripted waits well
    refine ⟨_, r.runId, rfl, rfl, softly, fun asked answer h'' queried own => ?_⟩
    obtain ⟨found, rfl, rfl⟩ := Dispatcher.performs_status_simulated mock named queried
    have seen : found = some r := own.observed.trans observed
    rw [seen]
    exact ⟨_, rfl, SpawnResult.report?_ofRecord r .mock none memory,
      fun same => softly (LookupStatus.known.inj same)⟩

namespace Sample

/-- The simulator, with runs that take five seconds, and no memory. -/
def simulating : Dispatcher := ⟨{ backend := .mock, mock := { latencyMs := 5000 } }, false⟩

end Sample

/-- A spawn whose wait fails, and one that waits for a simulated run, but not long enough. -/
theorem spawn_agrees_sample :
    (∃ log env h', Host.Performs (.ofConfig {}) (Sample.dispatcher.spawn Sample.order) log env h' ∧
      env.ok = true ∧ ∃ result id r, env.data = some result ∧ result.runId = some id ∧
        result.status = .accepted ∧ h'.ledger.get? id.text = some r ∧ r.status = .accepted) ∧
    ∃ log env h' id asked answer h'',
      Host.Performs (.ofConfig Sample.simulating.config.mock) (Sample.simulating.spawn Sample.order)
        log env h' ∧
      h'.Performs (Sample.simulating.status id) asked answer h'' ∧
      ∃ report, answer = .success report ∧ report.runId = id ∧ report.status = .known .running := by
  constructor
  · have checked : Sample.order.checked = .ok (⟨"technical"⟩, "fix it") := rfl
    have accepted : Remote.spawnReply (.ok Sample.taken) = .ok Sample.acceptance := rfl
    have course : Dispatcher.SpawnCourse Sample.dispatcher Sample.order (.ofConfig {}) _ _ _ :=
      .taken checked rfl (.plain rfl) rfl accepted (.unanswered (by decide) "reset") (.done _ _)
    have spawned := (Dispatcher.performs_spawn rfl).2 course
    obtain ⟨agrees, failed⟩ := (spawn_agrees spawned).1 rfl rfl
    obtain ⟨well, result, same, status⟩ := failed (Remote.waitCall ⟨"r-1"⟩ 1000) "reset" rfl
      (.tail _ (.tail _ (.tail _ (.head _))))
    obtain ⟨result', id, r, same', named, stored, agreement, -⟩ := agrees well
    cases same.symm.trans same'
    exact ⟨_, _, _, spawned, well, result, id, r, same, named, status, stored,
      agreement.status.symm.trans status⟩
  · obtain ⟨log, spawned, unscripted⟩ := Host.performs_alone
      (.ofConfig Sample.simulating.config.mock) (Sample.simulating.spawn Sample.order)
    obtain ⟨result, id, same, named, -, agrees⟩ :=
      (spawn_agrees spawned).2 rfl (by decide) unscripted rfl
    obtain ⟨asked, queried, own⟩ := Host.performs_alone (Host.alone
      (Sample.simulating.spawn Sample.order) (.ofConfig Sample.simulating.config.mock)).2
      (Sample.simulating.status id.text)
    obtain ⟨report, answered, reported, -⟩ := agrees _ _ _ queried own
    cases same
    cases reported
    cases named
    exact ⟨_, _, _, _, _, _, _, spawned, queried, _, answered, rfl, rfl⟩

end Delegation
