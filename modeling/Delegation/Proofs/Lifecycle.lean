import Delegation.Proofs.Catalog
import Delegation.Proofs.Timeline
import Mathlib.Algebra.Order.Ring.Int

/-!
# The life of a simulated run

A run that is kept is seen as running until its latency is over, and as over from then on, always
with the same record (`seen_of_find?`). Who waits for it hears of it when it is over or when the
time given has passed, whichever comes first, exactly if that is within thirty years
(`Seen.waitsThrough_iff`). The orchestration on top of the simulator says nothing else of a run that
it has just started (`Dispatcher.SimulatedCourse.status_eq`). All this is put together in
`lifecycle`.
-/

namespace Delegation

namespace Simulator

variable {s : Simulator} {now : Nat} {run : SimulatedRun}

/-! ## Who asks -/

/-- What is known of a run that is over after a latency. Its times are told exactly if they fit into
signed words of 64 bits. -/
structure Completes (latencyMs : Nat) (run : SimulatedRun) (done : RunRecord) : Prop where
  runId : done.runId = run.runId
  agent : done.agent = run.agent
  status : done.status = .completed
  output : done.output = some run.output
  error : done.error = none
  startedAt : done.startedAt = some run.startedAt
  endedAt : (∃ t, done.endedAt = some t ∧ t.toInt = run.startedAt.toInt + latencyMs) ↔
    run.startedAt.toInt + latencyMs < 2 ^ 63
  durationMs : (∃ t, done.durationMs = some t ∧ t.toInt = latencyMs) ↔ latencyMs < 2 ^ 63

theorem inFlight_iff (started : run.started ≤ now) :
    s.inFlight now run = true ↔ now < run.started + s.latencyMs := by
  simp only [inFlight, decide_eq_true_eq]
  omega

theorem toInt_add_ofNat {t : Int64} {n : Nat} (within : t.toInt + n < 2 ^ 63) :
    (t + Int64.ofNat n).toInt = t.toInt + n := by
  have := t.le_toInt
  have size : Int64.size = 2 ^ 64 := rfl
  rw [Int64.toInt_add, Int64.toInt_ofNat', size, Int.add_bmod_bmod]
  exact Int.bmod_eq_of_le (by omega) (by omega)

theorem snapshot_running (flies : s.inFlight now run = true) :
    (s.snapshot now run).status = .running ∧ (s.snapshot now run).output = none ∧
      (s.snapshot now run).endedAt = none ∧ (s.snapshot now run).durationMs = none := by
  simp [snapshot, flies]

/-- The record of a run that is over. It does not depend on the time. -/
def finished (s : Simulator) (run : SimulatedRun) : RunRecord where
  runId := run.runId
  agent := run.agent
  status := .completed
  childSessionKey := none
  output := some run.output
  error := none
  startedAt := some run.startedAt
  endedAt := some (run.startedAt + Int64.ofNat s.latencyMs)
  durationMs := some (Int64.ofNat s.latencyMs)

theorem snapshot_finished (landed : s.inFlight now run = false) :
    s.snapshot now run = s.finished run := by
  simp [snapshot, finished, landed]

theorem completes_finished (s : Simulator) (run : SimulatedRun) :
    Completes s.latencyMs run (s.finished run) where
  runId := rfl
  agent := rfl
  status := rfl
  output := rfl
  error := rfl
  startedAt := rfl
  endedAt := by
    constructor
    · rintro ⟨t, -, same⟩
      exact same ▸ t.toInt_lt
    · intro within
      exact ⟨_, rfl, toInt_add_ofNat within⟩
  durationMs := by
    constructor
    · rintro ⟨t, -, same⟩
      have := t.toInt_lt
      omega
    · intro within
      exact ⟨_, rfl, Int64.toInt_ofNat_of_lt within⟩

/-! ## Who waits -/

/-- A wait takes as long as the run, or as long as it may, and ends with a look at the run. -/
theorem wait_eq (kept : s.find? run.runId = some run) (started : run.started ≤ now) (ms : Nat) :
    s.wait now run.runId ms =
      (let later := now + min (min ms (run.started + s.latencyMs - now)) longestWait
       let seen := s.snapshot later run
       (some (if now + ms < run.started + s.latencyMs then { seen with status := .timeout }
        else seen), later)) := by
  have remaining : s.latencyMs - (now - run.started) = run.started + s.latencyMs - now := by omega
  unfold wait
  rw [kept]
  dsimp only
  rw [remaining]
  by_cases short : ms < run.started + s.latencyMs - now
  · have early : now + ms < run.started + s.latencyMs := by omega
    have within : min ms (run.started + s.latencyMs - now) = ms := by omega
    have flies : s.inFlight (now + min ms longestWait) run = true := by
      rw [inFlight_iff (by omega)]
      omega
    rw [if_pos short, if_pos early, within, if_pos (snapshot_running flies).1]
  · have late : ¬ now + ms < run.started + s.latencyMs := by omega
    have within : min ms (run.started + s.latencyMs - now) = run.started + s.latencyMs - now := by
      omega
    rw [if_neg short, if_neg late, within]

/-- How a run is seen at a time, by those who ask for it and by those who wait for it. -/
structure Seen (s : Simulator) (run : SimulatedRun) (done : RunRecord) (now : Nat) : Prop where
  running : now < run.started + s.latencyMs → ∃ r, s.status now run.runId = some r ∧
    r.status = .running ∧ r.output = none ∧ r.endedAt = none ∧ r.durationMs = none
  completed : run.started + s.latencyMs ≤ now → s.status now run.runId = some done
  returns : ∀ ms, (s.wait now run.runId ms).2 =
    now + min (min ms (run.started + s.latencyMs - now)) longestWait
  finds : ∀ ms, (s.wait now run.runId ms).1 = some done ↔
    run.started + s.latencyMs ≤ now + min ms longestWait
  timesOut : ∀ ms, now + ms < run.started + s.latencyMs →
    ∃ seen, (s.wait now run.runId ms).1 = some seen ∧ seen.status = .timeout
  /-- A wait that was in vain does nothing to the run. -/
  leaves : ∀ ms, now + min ms longestWait < run.started + s.latencyMs →
    ∃ r, s.status (s.wait now run.runId ms).2 run.runId = some r ∧ r.status = .running

theorem seen_of_find? (kept : s.find? run.runId = some run) (started : run.started ≤ now) :
    s.Seen run (s.finished run) now := by
  have asked (t : Nat) : s.status t run.runId = some (s.snapshot t run) := by
    simp [status, kept]
  have flies {t : Nat} (later : run.started ≤ t) (early : t < run.started + s.latencyMs) :
      s.inFlight t run = true := (inFlight_iff later).2 early
  have landed {t : Nat} (later : run.started ≤ t) (late : run.started + s.latencyMs ≤ t) :
      s.snapshot t run = s.finished run := by
    refine snapshot_finished ?_
    rw [← Bool.not_eq_true, inFlight_iff later]
    omega
  constructor
  · intro early
    exact ⟨_, asked now, snapshot_running (flies started early)⟩
  · intro late
    rw [asked, landed started late]
  · intro ms
    rw [wait_eq kept started]
  · intro ms
    rw [wait_eq kept started]
    by_cases late : run.started + s.latencyMs ≤ now + min ms longestWait
    · have enough : ¬ now + ms < run.started + s.latencyMs := by omega
      simp only [if_neg enough, late, iff_true, Option.some.injEq]
      exact landed (by omega) (by omega)
    · simp only [late, iff_false, Option.some.injEq]
      intro same
      have running := (snapshot_running (flies (t := now + min (min ms
        (run.started + s.latencyMs - now)) longestWait) (by omega) (by omega))).1
      have ended := (s.completes_finished run).status
      rw [← same] at ended
      split at ended
      · cases ended
      · rw [running] at ended
        cases ended
  · intro ms early
    rw [wait_eq kept started]
    exact ⟨_, rfl, by rw [if_pos early]⟩
  · intro ms early
    rw [wait_eq kept started]
    dsimp only
    rw [asked]
    exact ⟨_, rfl, (snapshot_running (flies (by omega) (by omega))).1⟩

/-- A wait without a limit of its own: it is over when the run is or when the time given has passed,
and says which. -/
structure WaitsThrough (s : Simulator) (run : SimulatedRun) (done : RunRecord) (now ms : Nat) :
    Prop where
  returns : (s.wait now run.runId ms).2 = now + min ms (run.started + s.latencyMs - now)
  finds : (s.wait now run.runId ms).1 = some done ↔ run.started + s.latencyMs ≤ now + ms
  timesOut : now + ms < run.started + s.latencyMs →
    ∃ seen, (s.wait now run.runId ms).1 = some seen ∧ seen.status = .timeout

/-- The limit shows exactly in the waits that it cuts short. -/
theorem Seen.waitsThrough_iff {done : RunRecord} (seen : s.Seen run done now) (ms : Nat) :
    s.WaitsThrough run done now ms ↔
      min ms (run.started + s.latencyMs - now) ≤ longestWait := by
  have returns := seen.returns ms
  have finds := seen.finds ms
  constructor
  · intro through
    have full := through.returns
    omega
  · intro within
    refine ⟨?_, ?_, seen.timesOut ms⟩
    · omega
    · rw [finds]
      omega

/-- From its spawn on a run is seen in this way for as long as it is kept, whatever else happens. -/
theorem Scene.seen_after {x : Scene} {e : Event} {es : List Event}
    (spawns : x.started? e = some run) (fresh : ∀ r ∈ x.simulator.runs, r.runId ≠ run.runId)
    (unused : run.runId ∉ ((x.next e).spawned es).map (·.runId))
    (kept : (((x.next e).after es).simulator.find? run.runId).isSome = true) :
    ((x.next e).after es).simulator.latencyMs = x.simulator.latencyMs ∧
      ((x.next e).after es).simulator.Seen run (x.simulator.finished run)
        ((x.next e).after es).now := by
  have same : ∃ runs, ((x.next e).after es).simulator = { x.simulator with runs } :=
    x.after_simulator (e :: es)
  have started : run.started ≤ ((x.next e).after es).now := by
    rw [started_eq_now spawns]
    exact x.now_le_after (e :: es)
  have found := find?_of_alone (alone_after (alone_next spawns fresh) unused) kept
  obtain ⟨runs, same⟩ := same
  rw [same] at found ⊢
  exact ⟨rfl, seen_of_find? found started⟩

end Simulator

/-! ## The answer to a spawn -/

namespace Host

variable {h h' : Host}

/-- The host's simulator enters an accepted run under a fresh name, and finds it under that. -/
theorem started_of_simulate {agent : AgentName} {task : String} {label : Option String}
    {started : RunRecord} (hs : h.simulate agent task label = (some started, h'))
    (fresh : ∀ r ∈ h.simulator.runs, r.runId ≠ Supply.simulatedRun h.supply) :
    started.status = .accepted ∧ h'.clock = h.clock ∧
      h'.simulator.latencyMs = h.simulator.latencyMs ∧
      ∃ run, run.runId = started.runId ∧ run.started = h.clock ∧
        h'.simulator.find? run.runId = some run := by
  let x : Simulator.Scene := ⟨h.simulator, h.clock⟩
  let e : Simulator.Event :=
    .spawn (Supply.simulatedRun h.supply) (Int64.ofInt (h.epoch + h.clock)) agent task label
  by_cases known : agent.text ∈ h.simulator.agents
  · have spawns : x.started? e = some ⟨Supply.simulatedRun h.supply, agent, task, label, h.clock,
        Int64.ofInt (h.epoch + h.clock), h.simulator.outputFor agent task⟩ := by
      simp [x, e, Simulator.Scene.started?, known]
    have entered : (x.next e).simulator = h'.simulator := congrArg (·.2.simulator) hs
    have found := Simulator.Scene.find?_next spawns fresh
    rw [entered] at found
    simp only [simulate, Simulator.spawn, known, if_true, Prod.mk.injEq, Option.some.injEq] at hs
    obtain ⟨rfl, rfl⟩ := hs
    exact ⟨rfl, rfl, rfl, _, rfl, rfl, found⟩
  · simp [simulate, Simulator.spawn, known] at hs

end Host

namespace Dispatcher

variable {d : Dispatcher} {o : SpawnOrder} {h h' : Host} {log : List Exchange}

theorem status_softened (r : RunRecord) :
    (softened r).status = if r.status = .timeout then .running else r.status := by
  unfold softened
  split <;> rfl

/-- The search for what to add to a task leaves the host as it is. -/
theorem Augments.unscripted_eq {task message : String} (augments : d.Augments o task log message)
    (hu : h.Unscripted log h') : h' = h := by
  cases augments with
  | plain =>
    cases hu
    rfl
  | searched =>
    cases hu with
    | cons answered _ rest =>
      cases rest
      exact Host.answers_search.1 answered

/-- What the answer to an order says of its run, if runs take `latencyMs`. -/
def reachedStatus (latencyMs : Nat) (waitMs : UInt64) : Status :=
  if waitMs = 0 then .accepted
  else if latencyMs ≤ waitMs.toNat then .completed
  else .running

/-- What is answered of a run that has just been started: it is waited for, or it is not. -/
theorem Starts.status_eq {agent : AgentName} {message : String} {r : RunRecord}
    (starts : Starts o agent message h log r h') {h₁ h₂ : Host} (own : h₁.Unscripted log h₂)
    (fresh : ∀ r ∈ h₁.simulator.runs, r.runId ≠ Supply.simulatedRun h₁.supply)
    (within : o.waitMs ≤ maxWaitMs) :
    r.status = reachedStatus h₁.simulator.latencyMs o.waitMs := by
  have short : o.waitMs.toNat ≤ 3600000 := UInt64.le_iff_toNat_le.1 within
  unfold reachedStatus
  cases starts with
  | atOnce _ unwaited =>
    cases own with
    | cons _ own =>
      rw [if_pos unwaited]
      exact (Host.started_of_simulate (Host.answer_simulate_eq_ok_iff.1 (own rfl)) fresh).1
  | @waited started seen _ _ _ waits =>
    cases own with
    | @cons _ h₃ _ _ _ _ _ own rest =>
      cases rest with
      | cons _ own₁ rest =>
        cases rest
        obtain ⟨-, clock, latency, run, named, begun, found⟩ :=
          Host.started_of_simulate (Host.answer_simulate_eq_ok_iff.1 (own rfl)) fresh
        have known := Simulator.seen_of_find? found (Nat.le_of_eq (begun.trans clock.symm))
        have waited : (h₃.simulator.wait h₃.clock run.runId o.waitMs.toNat).1 = seen := by
          rw [named]
          exact congrArg Prod.fst (own₁ rfl)
        rw [if_neg waits, status_softened]
        by_cases enough : h₁.simulator.latencyMs ≤ o.waitMs.toNat
        · have found := (known.finds o.waitMs.toNat).2 (by
            simp only [Simulator.longestWait]
            omega)
          rw [waited] at found
          simp [found, (h₃.simulator.completes_finished run).status, enough]
        · obtain ⟨r, late, timeout⟩ := known.timesOut o.waitMs.toNat (by omega)
          rw [waited] at late
          simp [late, timeout, enough]

/-- The course of an order to a known agent ends with what is answered of its run. -/
theorem SimulatedCourse.status_eq {env : Envelope SpawnResult} {agent : AgentName} {task : String}
    (course : SimulatedCourse d o h log env h') (own : h.Unscripted log h')
    (checked : o.checked = .ok (agent, task)) (known : agent.text ∈ h.simulator.agents)
    (fresh : ∀ r ∈ h.simulator.runs, r.runId ≠ Supply.simulatedRun h.supply) :
    env.ok = true ∧ ∃ result, env.data = some result ∧
      result.status = reachedStatus h.simulator.latencyMs o.waitMs := by
  have within : o.waitMs ≤ maxWaitMs :=
    UInt64.not_lt.1 (SpawnOrder.checked_eq_ok_iff.1 checked).2.2
  cases course with
  | refused unchecked => cases unchecked.symm.trans checked
  | unknown checked' augments _ =>
    cases checked'.symm.trans checked
    obtain ⟨h₁, front, back⟩ := Host.unscripted_append own
    cases augments.unscripted_eq front
    exact absurd known back.unlisted.1
  | started checked' augments starts remembers =>
    obtain ⟨-, memory, rfl⟩ := performs_persisted remembers
    obtain ⟨h₂, front, -⟩ := Host.unscripted_append own
    obtain ⟨h₁, before, following⟩ := Host.unscripted_append front
    cases augments.unscripted_eq before
    exact ⟨rfl, _, rfl, starts.status_eq following fresh within⟩

end Dispatcher

/-! ## Together -/

/-- A spawned run is seen as running until its latency is over, and from then on as completed with
one and the same record, for as long as it is kept, whatever else happens. The times of that record
are right exactly if they fit into signed words of 64 bits, and a wait ends with the run or with the
time given exactly if that is within thirty years. The answer to a spawn says how far the run has
come while it was waited for. -/
theorem lifecycle (x : Simulator.Scene) (id : RunId) (agent : AgentName)
    (known : agent.text ∈ x.simulator.agents) (fresh : ∀ r ∈ x.simulator.runs, r.runId ≠ id)
    (startedAt : Int64) (task : String) (label : Option String) :
    (∃ run done, run.runId = id ∧ run.agent = agent ∧ run.started = x.now ∧
      run.startedAt = startedAt ∧ run.output = x.simulator.outputFor agent task ∧
      Simulator.Completes x.simulator.latencyMs run done ∧
      ∀ es y, y = (x.next (.spawn id startedAt agent task label)).after es →
        id ∉ ((x.next (.spawn id startedAt agent task label)).spawned es).map (·.runId) →
        (y.simulator.find? id).isSome = true →
        y.simulator.latencyMs = x.simulator.latencyMs ∧ y.simulator.Seen run done y.now ∧
        ∀ ms, y.simulator.WaitsThrough run done y.now ms ↔
          min ms (run.started + x.simulator.latencyMs - y.now) ≤ Simulator.longestWait) ∧
    ∀ (d : Dispatcher) o (h : Host) log env h' ordered, h.simulator = x.simulator →
      d.config.backend = .mock → o.checked = .ok (agent, ordered) →
      (∀ r ∈ h.simulator.runs, r.runId ≠ Supply.simulatedRun h.supply) →
      h.Performs (d.spawn o) log env h' → h.Unscripted log h' →
      env.ok = true ∧ ∃ result, env.data = some result ∧
        result.status = Dispatcher.reachedStatus x.simulator.latencyMs o.waitMs := by
  constructor
  · let run : SimulatedRun :=
      ⟨id, agent, task, label, x.now, startedAt, x.simulator.outputFor agent task⟩
    have spawns : x.started? (.spawn id startedAt agent task label) = some run := if_pos known
    refine ⟨run, x.simulator.finished run, rfl, rfl, rfl, rfl, rfl,
      x.simulator.completes_finished run, ?_⟩
    rintro es y rfl unused kept
    obtain ⟨latency, seen⟩ := Simulator.Scene.seen_after spawns fresh unused kept
    exact ⟨latency, seen, fun ms => latency ▸ seen.waitsThrough_iff ms⟩
  · intro d o h log env h' ordered same mock checked unused spawned own
    rw [← same] at known ⊢
    exact (Dispatcher.simulatedCourse_of_performs mock spawned).status_eq own checked known unused

namespace Sample

/-- A simulator of the default experts, whose runs take as long as said. -/
def lasting (latencyMs : UInt64) : Simulator := .ofConfig { latencyMs }

def begin : Simulator.Event := .spawn ⟨"run"⟩ 0 ⟨"technical"⟩ "fix it" none

/-- A caller of such a simulator, who has no memory. -/
def lingering (latencyMs : UInt64) : Dispatcher := ⟨{ mock := { latencyMs } }, false⟩

/-- An order that is waited for. -/
def orderFor (waitMs : UInt64) : SpawnOrder := { orderTo "technical" with waitMs }

end Sample

/-- A run of five seconds that is waited for in vain, and then asked for, and an order that waits
for a run of five seconds only one second. -/
theorem lifecycle_sample :
    (∃ done : RunRecord, done.status = .completed ∧ done.output = some "[technical] fix it" ∧
      ∃ y : Simulator.Scene, y.now = 6000 ∧ y.simulator.status y.now ⟨"run"⟩ = some done ∧
        y = (Simulator.Scene.next ⟨Sample.lasting 5000, 0⟩ Sample.begin).after
          [.wait ⟨"run"⟩ 1000, .pass 5000]) ∧
    ∃ log env h' result, Host.Performs (.ofConfig (Sample.lingering 5000).config.mock)
        ((Sample.lingering 5000).spawn (Sample.orderFor 1000)) log env h' ∧
      env.data = some result ∧ result.status = .running := by
  obtain ⟨⟨run, done, named, -, started, -, output, completes, seen⟩, answered⟩ :=
    lifecycle ⟨Sample.lasting 5000, 0⟩ ⟨"run"⟩ ⟨"technical"⟩ (by decide) (by decide) 0 "fix it" none
  constructor
  · obtain ⟨-, seen, -⟩ :=
      seen [.wait ⟨"run"⟩ 1000, .pass 5000] _ rfl (by decide) (by decide)
    refine ⟨done, completes.status, ?_, _, ?_, ?_, rfl⟩
    · rw [completes.output, output]
      decide
    · decide
    · have seen := seen.completed (by rw [started]; decide)
      rwa [named] at seen
  · obtain ⟨log, spawned, own⟩ := Host.performs_alone (.ofConfig (Sample.lingering 5000).config.mock)
      ((Sample.lingering 5000).spawn (Sample.orderFor 1000))
    obtain ⟨-, result, told, status⟩ := answered (Sample.lingering 5000) (Sample.orderFor 1000)
      (.ofConfig (Sample.lingering 5000).config.mock) _ _ _ "fix it" rfl rfl rfl (by decide)
      spawned own
    exact ⟨_, _, _, result, spawned, told, status⟩

/-- A wait for a run of a little more than thirty years is over before the run is, although it may
take as long, and does not say that it timed out. A run as long as the clock can tell ends with a
duration of -1 ms. -/
theorem waits_cut_short :
    (∃ x : Simulator.Scene, x = Simulator.Scene.next ⟨Sample.lasting 946080000001, 0⟩ Sample.begin ∧
      (x.simulator.wait x.now ⟨"run"⟩ 946080000001).2 ≠
        x.now + min 946080000001 (x.now + x.simulator.latencyMs - x.now) ∧
      ∃ r, (x.simulator.wait x.now ⟨"run"⟩ 946080000001).1 = some r ∧ r.status = .running) ∧
    ∃ x : Simulator.Scene, x = Simulator.Scene.next ⟨Sample.lasting 18446744073709551615, 0⟩
        Sample.begin ∧
      ∃ r, x.simulator.status (x.now + x.simulator.latencyMs) ⟨"run"⟩ = some r ∧
        r.durationMs = some (-1) := by
  refine ⟨⟨_, rfl, by decide, _, rfl, by decide⟩, _, rfl, _, rfl, by decide⟩

end Delegation
