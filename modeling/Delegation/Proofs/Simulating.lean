import Delegation.Proofs.Delegating

/-!
# How an operation on the simulator goes

`SimulatedCourse` lists the ways in which a spawn on the simulator can go: it is refused, or its
agent is not known, or a run is started, waited for if that is wanted, and remembered. A status
query is one observation (`performs_status_simulated`). Who plays the simulator is left open, as in
every performance; `Host.Unscripted` says that it is the host's own. Such a simulator reports after
a wait what it reports when it is asked right then (`status_of_wait`), but for the timeout, which is
the waiting caller's.
-/

namespace Delegation

variable {h h' : Host} {log : List Exchange}

/-! ## The simulator -/

namespace Simulator

variable {s : Simulator} {now later ms : Nat} {id : RunId} {r : RunRecord}

theorem status_snapshot (s : Simulator) (now : Nat) (run : SimulatedRun) :
    (s.snapshot now run).status = if s.inFlight now run then .running else .completed := by
  unfold snapshot
  dsimp only
  split <;> rfl

theorem runId_snapshot (s : Simulator) (now : Nat) (run : SimulatedRun) :
    (s.snapshot now run).runId = run.runId := by
  unfold snapshot
  dsimp only
  split <;> rfl

theorem runId_of_status (hs : s.status now id = some r) : r.runId = id := by
  obtain ⟨run, hf, rfl⟩ := Option.map_eq_some_iff.1 hs
  rw [runId_snapshot]
  simpa using List.find?_some hf

/-- No run times out by itself. -/
theorem status_ne_timeout (hs : s.status now id = some r) : r.status ≠ .timeout := by
  obtain ⟨run, -, rfl⟩ := Option.map_eq_some_iff.1 hs
  rw [status_snapshot]
  split <;> exact nofun

theorem softened_of_status (hs : s.status now id = some r) : Dispatcher.softened r = r :=
  if_neg (status_ne_timeout hs)

/-- After a wait that ran out, the run is still in flight. -/
theorem inFlight_of_lt {run : SimulatedRun} (short : ms < s.latencyMs - (now - run.started)) :
    s.inFlight (now + min ms longestWait) run = true := by
  have bounded : min ms longestWait ≤ ms := Nat.min_le_left ms longestWait
  unfold inFlight
  rw [decide_eq_true_eq]
  omega

/-- A run that is kept can be waited for, and what the wait answers is, softened, what the simulator
says when the wait is over. -/
theorem wait_of_find? {run : SimulatedRun} (kept : s.find? id = some run) (now ms : Nat) :
    ∃ seen later, s.wait now id ms = (some seen, later) ∧
      s.status later id = some (Dispatcher.softened seen) := by
  have asked (t : Nat) : s.status t id = some (s.snapshot t run) := by
    unfold status
    rw [kept]
    rfl
  unfold wait
  rw [kept]
  dsimp only
  split
  · rename_i short
    have running := status_snapshot s (now + min ms longestWait) run
    rw [if_pos (inFlight_of_lt short)] at running
    refine ⟨_, _, rfl, ?_⟩
    rw [asked, if_pos running]
    unfold Dispatcher.softened
    rw [if_pos rfl, ← running]
  · refine ⟨_, _, rfl, ?_⟩
    rw [asked, softened_of_status (asked _)]

/-- A run that was started goes by its fresh name, and is kept. -/
theorem find?_of_spawn {s' : Simulator} {startedAt : Int64} {agent : AgentName} {task : String}
    {label : Option String} (hs : s.spawn now startedAt id agent task label = (some r, s')) :
    r.runId = id ∧ ∃ run, s'.find? id = some run := by
  unfold spawn at hs
  split at hs
  · cases hs
    refine ⟨rfl, Option.isSome_iff_exists.1 ?_⟩
    unfold find?
    rw [List.find?_isSome]
    exact ⟨_, List.mem_append_right _ (.head _), decide_eq_true rfl⟩
  · cases hs

end Simulator

/-! ## Fresh names of runs -/

namespace Text

theorem dropWhile_isBlank_eq_self {cs : List Char}
    (solid : ∀ c, cs.head? = some c → isBlank c = false) : cs.dropWhile isBlank = cs := by
  cases cs with
  | nil => rfl
  | cons c cs =>
    refine List.dropWhile_cons_of_neg ?_
    rw [solid c rfl]
    exact Bool.false_ne_true

/-- A text whose first and last characters are not blank is trimmed. -/
theorem trim_eq_self {s : String} (first : ∀ c, s.toList.head? = some c → isBlank c = false)
    (last : ∀ c, s.toList.getLast? = some c → isBlank c = false) : trim s = s := by
  unfold trim trimmed
  rw [dropWhile_isBlank_eq_self first, dropWhile_isBlank_eq_self, List.reverse_reverse,
    String.ofList_toList]
  intro c hc
  rw [List.head?_reverse] at hc
  exact last c hc

theorem isBlank_hexDigit {n : Nat} (hn : n < 16) : isBlank (hexDigit n) = false := by
  have solid : ∀ m : Fin 16, isBlank (hexDigit m.1) = false := by decide
  exact solid ⟨n, hn⟩

end Text

/-- The name of a simulated run is parsed as it stands. -/
theorem Supply.nonBlank?_simulatedRun (n : Nat) :
    Text.nonBlank? (simulatedRun n).text = some (simulatedRun n).text := by
  have first : (simulatedRun n).text.toList.head? = some 'm' := by
    simp [simulatedRun]
  have last : (simulatedRun n).text.toList.getLast? = some (Text.hexDigit (n % 16)) := by
    simp [simulatedRun, hyphenated, groups, List.intercalate, Text.hexPadded]
  have trimmed : Text.trim (simulatedRun n).text = (simulatedRun n).text := by
    refine Text.trim_eq_self (fun c hc => ?_) (fun c hc => ?_)
    · rw [first] at hc
      cases hc
      decide
    · rw [last] at hc
      cases hc
      exact Text.isBlank_hexDigit (Nat.mod_lt n (by decide))
  unfold Text.nonBlank?
  dsimp only
  rw [trimmed, if_neg]
  intro empty
  rw [empty] at first
  cases first

/-! ## The host's own simulator -/

namespace Question

/-- Is a question one to the simulator? -/
def isSimulation : Question → Bool
  | .simulate _ _ _ => true
  | .await _ _ => true
  | .observe _ => true
  | _ => false

theorem isSimulation_of_isMemory {q : Question} (hq : q.isMemory = true) :
    q.isSimulation = false := by
  cases q <;> first | rfl | exact absurd hq Bool.false_ne_true

end Question

namespace Host

/-- The exchanges lead from one host to another, and nobody stands in for the host's simulator. -/
inductive Unscripted : Host → List Exchange → Host → Prop
  | nil (h : Host) : Unscripted h [] h
  | cons {h h₁ h' : Host} {q : Question} {a : q.Answer} {log : List Exchange}
      (answered : h.Answers q a h₁)
      (own : q.isSimulation = true → h.answer (.error "") q = (a, h₁))
      (rest : Unscripted h₁ log h') : Unscripted h (⟨q, a⟩ :: log) h'

theorem unscripted_append {log₁ log₂ : List Exchange} (hu : h.Unscripted (log₁ ++ log₂) h') :
    ∃ h₁, h.Unscripted log₁ h₁ ∧ h₁.Unscripted log₂ h' := by
  induction log₁ generalizing h with
  | nil => exact ⟨h, .nil h, hu⟩
  | cons e log₁ ih =>
    cases hu with
    | cons answered own rest =>
      obtain ⟨h₁, front, back⟩ := ih rest
      exact ⟨h₁, .cons answered own front, back⟩

/-- What is asked of others takes no time, and does not concern the simulator. -/
theorem Answers.simulation_eq {q : Question} {a : q.Answer} (ha : h.Answers q a h')
    (other : q.isSimulation = false) : h'.clock = h.clock ∧ h'.simulator = h.simulator := by
  cases ha with
  | standIn => exact ⟨rfl, rfl⟩
  | own remote =>
    cases q with
    | simulate | await | observe => cases other
    | _ => simp only [answer, store, capture, renewed, and_self]

theorem Unscripted.simulation_eq (hu : h.Unscripted log h')
    (others : ∀ e ∈ log, e.question.isSimulation = false) :
    h'.clock = h.clock ∧ h'.simulator = h.simulator := by
  induction hu with
  | nil => exact ⟨rfl, rfl⟩
  | cons answered _ _ ih =>
    obtain ⟨clock, simulator⟩ := ih fun e he => others e (.tail _ he)
    obtain ⟨clock₁, simulator₁⟩ := answered.simulation_eq (others _ (.head _))
    exact ⟨clock.trans clock₁, simulator.trans simulator₁⟩

/-- The host's simulator keeps what it starts, under a fresh name. -/
theorem kept_of_simulate {agent : AgentName} {task : String} {label : Option String}
    {started : RunRecord} (hs : h.simulate agent task label = (some started, h')) :
    started.runId = Supply.simulatedRun h.supply ∧
      ∃ run, h'.simulator.find? started.runId = some run := by
  obtain ⟨record, rfl⟩ := Prod.mk.inj hs
  obtain ⟨named, kept⟩ := Simulator.find?_of_spawn (Prod.ext record rfl)
  rw [named]
  exact ⟨rfl, kept⟩

/-- When a wait for a run that is kept is over, the run can be observed as it was answered. -/
theorem observe_of_await {id : RunId} {ms : Nat} {seen : Option RunRecord} {run : SimulatedRun}
    (kept : h.simulator.find? id = some run) (ha : h.await id ms = (seen, h')) :
    ∃ r, seen = some r ∧ h'.observe id = some (Dispatcher.softened r) := by
  obtain ⟨r, later, waited, status⟩ := Simulator.wait_of_find? kept h.clock ms
  unfold await at ha
  rw [waited] at ha
  cases ha
  exact ⟨r, rfl, status⟩

/-- What is asked of others changes nothing that can be observed. -/
theorem Unscripted.observe_eq (hu : h.Unscripted log h')
    (others : ∀ e ∈ log, e.question.isSimulation = false) (id : RunId) :
    h'.observe id = h.observe id := by
  obtain ⟨clock, simulator⟩ := hu.simulation_eq others
  unfold observe
  rw [clock, simulator]

theorem Unscripted.observed {id : RunId} {found : Option RunRecord}
    (hu : h.Unscripted [⟨.observe id, found⟩] h') : found = h.observe id := by
  cases hu with
  | cons _ own => exact (congrArg Prod.fst (own rfl)).symm

/-- The host answers everything itself; the remote side cannot be reached. -/
def alone {α : Type} (p : Procedure α) : StateM Host α :=
  p.perform fun q h => h.answer (.error "") q

/-- Every procedure comes to an end on any host, on its own simulator too. -/
theorem performs_alone {α : Type} (h : Host) (p : Procedure α) :
    ∃ log, h.Performs p log (alone p h).1 (alone p h).2 ∧ h.Unscripted log (alone p h).2 := by
  induction p generalizing h with
  | done a => exact ⟨[], .done h a, .nil h⟩
  | ask q next ih =>
    obtain ⟨log, rest, unscripted⟩ :=
      ih (h.answer (.error "") q).1 (h.answer (.error "") q).2
    have answered : h.Answers q (h.answer (.error "") q).1 (h.answer (.error "") q).2 :=
      .own (.error "") q
    exact ⟨_, .ask answered rest, .cons answered (fun _ => rfl) unscripted⟩

end Host

/-! ## A spawn on the simulator -/

namespace Dispatcher

variable {d : Dispatcher} {o : SpawnOrder} {agent : AgentName} {task : String}

/-- How a simulated run is started, and waited for if that is wanted; with the record that is
answered with. -/
inductive Starts (o : SpawnOrder) (agent : AgentName) (message : String) (h : Host) :
    List Exchange → RunRecord → Host → Prop
  | atOnce {started : RunRecord} {h₁ : Host}
    (answered : h.Answers (.simulate agent message o.label) (.ok started) h₁)
    (unwaited : o.waitMs = 0) :
    Starts o agent message h [⟨.simulate agent message o.label, .ok started⟩] started h₁
  | waited {started : RunRecord} {seen : Option RunRecord} {h₁ h₂ : Host}
    (answered : h.Answers (.simulate agent message o.label) (.ok started) h₁)
    (waits : o.waitMs ≠ 0) (awaited : h₁.Answers (.await started.runId o.waitMs) seen h₂) :
    Starts o agent message h
      [⟨.simulate agent message o.label, .ok started⟩, ⟨.await started.runId o.waitMs, seen⟩]
      (softened (seen.getD started)) h₂

/-- The ways in which a spawn on the simulator can go. -/
inductive SimulatedCourse (d : Dispatcher) (o : SpawnOrder) (h : Host) :
    List Exchange → Envelope SpawnResult → Host → Prop
  | refused {f : Failure} (unchecked : o.checked = .error f) :
    SimulatedCourse d o h [] (.ofFailure f) h
  | unknown {agent : AgentName} {task message name : String} {before : List Exchange} {h' : Host}
    (checked : o.checked = .ok (agent, task)) (augments : d.Augments o task before message)
    (refusal : h.Answers (.simulate agent message o.label) (.error (.unknownAgent name)) h') :
    SimulatedCourse d o h
      (before ++ [⟨.simulate agent message o.label, .error (.unknownAgent name)⟩])
      (.ofFailure (.agentNotFound name)) h'
  | started {agent : AgentName} {task message : String} {before following after : List Exchange}
    {r : RunRecord} {h₁ h' : Host} {result : SpawnResult}
    (checked : o.checked = .ok (agent, task)) (augments : d.Augments o task before message)
    (starts : Starts o agent message h following r h₁)
    (remembers : h₁.Performs (d.persisted o agent task (.ofRecord r .mock none)) after result h') :
    SimulatedCourse d o h (before ++ following ++ after) (.success result) h'

theorem performs_spawnSimulated {message : String} {x : Except Failure SpawnResult}
    (hp : h.Performs (spawnSimulated agent message o) log x h') :
    (∃ name, x = .error (.agentNotFound name) ∧
        log = [⟨.simulate agent message o.label, .error (.unknownAgent name)⟩] ∧
        h.Answers (.simulate agent message o.label) (.error (.unknownAgent name)) h') ∨
      ∃ r, x = .ok (.ofRecord r .mock none) ∧ Starts o agent message h log r h' := by
  unfold spawnSimulated at hp
  obtain ⟨log₁, found, h₁, log₂, hs, hw, rfl⟩ := Host.performs_bind.1 hp
  obtain ⟨rfl, answered⟩ := Host.performs_asking.1 hs
  cases found with
  | error e =>
    cases e with
    | unknownAgent name =>
      obtain ⟨rfl, rfl, rfl⟩ := Host.performs_pure.1 hw
      exact .inl ⟨name, rfl, rfl, answered⟩
  | ok started =>
    dsimp only at hw
    split at hw
    · rename_i unwaited
      obtain ⟨rfl, rfl, rfl⟩ := Host.performs_pure.1 hw
      exact .inr ⟨started, rfl, .atOnce answered unwaited⟩
    · rename_i waits
      obtain ⟨seen, ha, rfl⟩ := Host.performs_map.1 hw
      obtain ⟨rfl, awaited⟩ := Host.performs_asking.1 ha
      exact .inr ⟨_, rfl, .waited answered waits awaited⟩

theorem carryOut_of_mock (mock : d.config.backend = .mock) :
    d.carryOut o agent task =
      (d.augmented o task >>= fun message =>
        spawnSimulated agent message o >>= d.finish o agent task) := by
  unfold carryOut
  rw [mock]
  rfl

/-- A spawn on the simulator takes one of its courses. -/
theorem simulatedCourse_of_performs (mock : d.config.backend = .mock)
    {env : Envelope SpawnResult} (hp : h.Performs (d.spawn o) log env h') :
    SimulatedCourse d o h log env h' := by
  cases checked : o.checked with
  | error f =>
    obtain ⟨rfl, rfl, rfl⟩ := (performs_spawn_of_unchecked checked).1 hp
    exact .refused checked
  | ok order =>
    obtain ⟨agent, task⟩ := order
    obtain ⟨x, hx, rfl⟩ := (performs_spawn_of_checked checked).1 hp
    rw [carryOut_of_mock mock] at hx
    obtain ⟨before, message, h₁, rest, ha, hr, rfl⟩ := Host.performs_bind.1 hx
    obtain ⟨augments, rfl⟩ := performs_augmented.1 ha
    obtain ⟨following, y, h₂, after, hs, hf, rfl⟩ := Host.performs_bind.1 hr
    rcases performs_spawnSimulated hs with ⟨name, rfl, rfl, refusal⟩ | ⟨r, rfl, starts⟩
    · obtain ⟨rfl, rfl, rfl⟩ := Host.performs_pure.1 hf
      rw [List.append_nil]
      exact .unknown checked augments refusal
    · obtain ⟨r', remembers, rfl⟩ := Host.performs_map.1 hf
      rw [← List.append_assoc]
      exact .started checked augments starts remembers

/-- A status query on the simulator is one observation. -/
theorem performs_status_simulated (mock : d.config.backend = .mock) {q id : String}
    (named : Text.nonBlank? q = some id) {env : Envelope StatusReport}
    (hp : h.Performs (d.status q) log env h') :
    ∃ found, log = [⟨.observe ⟨id⟩, found⟩] ∧ env = reportEnvelope id (.ok found) := by
  obtain ⟨x, hx, rfl⟩ := (performs_status_of_named named).1 hp
  unfold lookUp at hx
  rw [mock] at hx
  obtain ⟨found, ho, rfl⟩ := Host.performs_map.1 hx
  obtain ⟨rfl, -⟩ := Host.performs_asking.1 ho
  exact ⟨found, rfl, rfl⟩

/-- After a wait for a run of the host's own simulator, the answer is what the simulator says of
the run right then. -/
theorem Starts.observed {message : String} {r : RunRecord}
    (starts : Starts o agent message h log r h') {h₁ h₂ : Host} (hu : h₁.Unscripted log h₂)
    (waits : o.waitMs ≠ 0) :
    Text.nonBlank? r.runId.text = some r.runId.text ∧ r.status ≠ .timeout ∧
      h₂.observe r.runId = some r := by
  cases starts with
  | atOnce _ unwaited => exact absurd unwaited waits
  | @waited started seen =>
    cases hu with
    | cons _ own rest =>
      cases rest with
      | cons _ own₁ rest =>
        cases rest
        have begun := Host.answer_simulate_eq_ok_iff.1 (own rfl)
        obtain ⟨fresh, run, kept⟩ := Host.kept_of_simulate begun
        obtain ⟨r, rfl, observed⟩ := Host.observe_of_await kept (own₁ rfl)
        rw [Option.getD_some]
        have named := Simulator.runId_of_status observed
        refine ⟨?_, Simulator.status_ne_timeout observed, ?_⟩
        · rw [named, fresh]
          exact Supply.nonBlank?_simulatedRun h₁.supply
        · rw [named]
          exact observed

end Dispatcher

end Delegation
