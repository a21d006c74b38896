import Delegation.Proofs.Reporting
import Delegation.Proofs.RunHistory

/-!
# Which error is reported

An answer without an error is no news about the error: the ledger keeps the text that it has. So the
error that is reported of a completed run is that of the answer that completed it, or else the
latest that came before (`error_of_completed`); an error that was only a note on the way is reported
of a run that went well in the end (`error_not_fresh`).

The law is about one run, from the moment when it was last accepted, whatever the ledger held before
and whatever happens to other runs. `life` reads that part of a run off what happened, and
`Recorded.next` says that one operation keeps the record in step with it.
-/

namespace Delegation

open Remote (Acceptance WaitOutcome)

/-- A run since it was last accepted. -/
structure Life where
  agent : AgentName
  acceptance : Acceptance
  /-- Its polls since then that were answered, in order. -/
  polls : List Poll

/-- The run after one more operation, in which runs were accepted and it was polled itself. -/
def Life.next (id : RunId) (new : List (AgentName × Acceptance)) (asked : List Poll)
    (before : Option Life) : Option Life :=
  match new.find? fun x => x.2.runId = id with
  | some (agent, a) => some ⟨agent, a, asked⟩
  | none => before.map fun x => { x with polls := x.polls ++ asked }

namespace Life

variable {id : RunId} {x : Option Life}

theorem next_nothing (id : RunId) (x : Option Life) : next id [] [] x = x := by
  cases x with
  | none => rfl
  | some y => exact congrArg (fun ps => some { y with polls := ps }) (List.append_nil y.polls)

theorem next_polled (asked : List Poll) :
    next id [] asked x = x.map fun y => { y with polls := y.polls ++ asked } := rfl

theorem next_accepted (agent : AgentName) (a : Acceptance) (asked : List Poll) :
    next a.runId [(agent, a)] asked x = some ⟨agent, a, asked⟩ := by
  simp only [next, List.find?_cons, decide_true]

/-- Another run was accepted. -/
theorem next_of_ne {a : Acceptance} (other : a.runId ≠ id) (agent : AgentName) :
    next id [(agent, a)] [] x = x := by
  simp only [next, List.find?_cons, other, decide_false]
  exact next_nothing id x

end Life

/-- The life of a run, read off what happened; none if it was never accepted. -/
def life (id : RunId) (es : List Episode) : Option Life :=
  es.foldl
    (fun x e => Life.next id (e.log.filterMap Exchange.acceptance?) (pollsIn id e.log) x) none

theorem life_append_singleton (id : RunId) (es : List Episode) (e : Episode) :
    life id (es ++ [e]) =
      Life.next id (e.log.filterMap Exchange.acceptance?) (pollsIn id e.log) (life id es) := by
  unfold life
  rw [List.foldl_append]
  rfl

/-! ## The record in step with the life -/

/-- The record of a run is the account of its life, and only the last poll of it can have ended
the run. -/
structure Recorded (id : RunId) (x : Option Life) (l : Ledger) : Prop where
  account : ∀ y, x = some y → l.find? id = some (account y.agent y.acceptance y.polls)
  open_before : ∀ y, x = some y → Pending y.polls.dropLast

namespace Recorded

variable {id : RunId} {x : Option Life} {l : Ledger}

theorem none (id : RunId) (l : Ledger) : Recorded id none l where
  account _ hy := nomatch hy
  open_before _ hy := nomatch hy

/-- A write to the record of another run changes nothing. -/
theorem put_of_ne (hr : Recorded id x l) {r : RunRecord} (other : r.runId ≠ id) :
    Recorded id x (l.put r) where
  account y hy := by
    rw [Ledger.find?_put_of_ne other]
    exact hr.account y hy
  open_before := hr.open_before

theorem enter (l : Ledger) (agent : AgentName) (a : Acceptance) :
    Recorded a.runId (some ⟨agent, a, []⟩) (l.put (Dispatcher.acceptedRecord agent a)) where
  account y hy := by
    cases hy
    exact Ledger.find?_put_self (Dispatcher.acceptedRecord agent a) l
  open_before y hy := by
    cases hy
    exact fun p hp => nomatch hp

/-- One more poll of a run that is not over. -/
theorem poll (hr : Recorded id x l) {t : Tracker} {r : RunRecord} (found : l.find? id = some r)
    (unfinished : r.status.isTerminal = false) {raw : Json} {reading : List Exchange}
    {output : Option String}
    (reads : t.Reads r (WaitOutcome.ofAnswer true raw).status reading output) :
    Recorded id (x.map fun y => { y with polls := y.polls ++ [.ofReading raw reading] })
      (l.put (Tracker.polled r (.ofAnswer true raw) output)) := by
  have pending (y : Life) (hy : x = some y) :
      r = Delegation.account y.agent y.acceptance y.polls ∧ Pending y.polls := by
    have stored := hr.account y hy
    rw [found] at stored
    cases stored
    exact ⟨rfl, (isTerminal_standing _).1 unfinished⟩
  constructor
  · intro y' hy'
    obtain ⟨y, hy, rfl⟩ := Option.map_eq_some_iff.1 hy'
    obtain ⟨same, going⟩ := pending y hy
    have written := Ledger.find?_put_self (Tracker.polled r (.ofAnswer true raw) output) l
    rw [Tracker.polled_runId, Ledger.runId_of_find? found] at written
    rw [written]
    subst same
    exact congrArg some (polled_account going reads)
  · intro y' hy'
    obtain ⟨y, hy, rfl⟩ := Option.map_eq_some_iff.1 hy'
    rw [List.dropLast_concat]
    exact (pending y hy).2

/-- One operation keeps the record in step. -/
theorem next (hr : Recorded id x l) {t : Tracker} {new : List (AgentName × Acceptance)}
    {asked : RunId → List Poll} {l' : Ledger} (effect : Effect t l new asked l') :
    Recorded id (Life.next id new (asked id) x) l' := by
  cases effect with
  | nothing =>
    rw [Life.next_nothing]
    exact hr
  | entered agent a =>
    by_cases he : a.runId = id
    · subst he
      rw [Life.next_accepted]
      exact enter l agent a
    · rw [Life.next_of_ne he]
      exact hr.put_of_ne (r := Dispatcher.acceptedRecord agent a) he
  | @followed agent a raw reading output reads =>
    dsimp only
    by_cases he : a.runId = id
    · subst he
      rw [Life.next_accepted, if_pos rfl]
      have found := Ledger.find?_put_self (Dispatcher.acceptedRecord agent a) l
      exact (enter l agent a).poll found rfl reads
    · rw [if_neg he, Life.next_of_ne he]
      have entered := hr.put_of_ne (r := Dispatcher.acceptedRecord agent a) he
      exact entered.put_of_ne
        (r := Tracker.polled (Dispatcher.acceptedRecord agent a) (.ofAnswer true raw) output) he
  | @polled r known unfinished raw reading output reads =>
    dsimp only
    by_cases he : r.runId = id
    · rw [if_pos he, Life.next_polled]
      rw [he] at known
      exact hr.poll known unfinished reads
    · rw [if_neg he, Life.next_nothing]
      exact hr.put_of_ne (r := Tracker.polled r (.ofAnswer true raw) output) he

/-- Whatever has happened, the record is in step with the life. -/
theorem of_chronicle {d : Dispatcher} (real : d.config.backend = .real) {h₀ h : Host}
    {es : List Episode} (chronicle : Chronicle d h₀ es h) (id : RunId) :
    Recorded id (life id es) h.ledger := by
  induction chronicle with
  | start => exact none id _
  | next before happens ih =>
    rw [life_append_singleton]
    exact ih.next (happens.effect real)
  | pause _ _ ih => exact ih

end Recorded

/-! ## The error of a completed run -/

/-- A run that an account calls completed was completed by its last poll. -/
theorem completing_of_standing {ps : List Poll} (pending : Pending ps.dropLast)
    (completed : standing ps = .completed) :
    ∃ earlier completing, ps = earlier ++ [completing] ∧ Pending earlier ∧
      completing.verdict? = some .completed := by
  have some_poll : ps ≠ [] := by
    rintro rfl
    cases completed
  rw [← List.dropLast_concat_getLast some_poll] at completed
  rw [standing_append_singleton pending] at completed
  refine ⟨ps.dropLast, ps.getLast some_poll, (List.dropLast_concat_getLast some_poll).symm, pending,
    ?_⟩
  cases hv : (ps.getLast some_poll).verdict? with
  | none =>
    rw [hv] at completed
    cases completed
  | some ended =>
    rw [hv] at completed
    exact congrArg some completed

/-- The error that is reported of a completed run is that of the answer that completed it; if that
had none, the latest error of the answers before it since the run was accepted. -/
theorem error_of_completed {d : Dispatcher} (real : d.config.backend = .real) {h₀ h h' : Host}
    {es : List Episode} (before : Chronicle d h₀ es h) {e : Episode} (happens : e.Happens d h h')
    {report : StatusReport} (reported : e.report? = some report)
    (completed : report.status = .known .completed) {x : Life}
    (accepted : life ⟨report.runId⟩ (es ++ [e]) = some x) :
    ∃ earlier completing, x.polls = earlier ++ [completing] ∧
      (∀ p ∈ earlier, p.verdict? = none) ∧ completing.verdict? = some .completed ∧
      report.error = completing.error.or (latest Poll.error earlier) := by
  obtain ⟨r, rfl, found⟩ := happens.stored real reported (completed ▸ nofun)
  have recorded := Recorded.of_chronicle real (before.next happens) r.runId
  have same := recorded.account x accepted
  rw [found] at same
  cases same
  obtain ⟨earlier, completing, polls, pending, ended⟩ :=
    completing_of_standing (recorded.open_before x accepted) (LookupStatus.known.inj completed)
  refine ⟨earlier, completing, polls, pending, ended, ?_⟩
  show latest Poll.error (decisive x.polls) = _
  rw [polls, pending.decisive_append_singleton, latest_append_singleton]

namespace Sample

/-- The run goes on, with a note. -/
def slow : Json := .obj [("error", .str "slow"), ("status", .str "timeout")]

/-- The record that the spawn leaves in the ledger. -/
def waiting : RunRecord :=
  Tracker.polled (Dispatcher.acceptedRecord ⟨"technical"⟩ acceptance) (.ofAnswer true slow) none

/-- A spawn whose wait is answered with a note, and a query that finds the run completed. -/
theorem noted : ∃ spawned spawnEnv asked statusEnv h h',
    Chronicle dispatcher (.ofConfig {}) [.spawn order spawned spawnEnv] h ∧
    (Episode.status "r-1" asked statusEnv).Happens dispatcher h h' ∧
    (∃ report, statusEnv = .success report ∧ report.runId = "r-1" ∧
      report.status = .known .completed ∧ report.error = some "slow") ∧
    life ⟨"r-1"⟩ ([.spawn order spawned spawnEnv] ++ [.status "r-1" asked statusEnv]) =
      some ⟨⟨"technical"⟩, acceptance, [⟨slow, none⟩] ++ [⟨ended, some "done"⟩]⟩ := by
  have checked : order.checked = .ok (⟨"technical"⟩, "fix it") := rfl
  have accepted : Remote.spawnReply (.ok taken) = .ok acceptance := rfl
  have spawns : Dispatcher.SpawnCourse dispatcher order (.ofConfig {}) _ _ _ :=
    .taken checked rfl (.plain rfl) rfl accepted (.answered (by decide) slow .unfinished)
      (.done _ _)
  have first : Chronicle dispatcher (.ofConfig {}) ([] ++ [.spawn order _ _]) _ :=
    .next (e := .spawn order _ _) .start ((Dispatcher.performs_spawn rfl).2 spawns)
  have named : Text.nonBlank? "r-1" = some "r-1" := rfl
  have asks (h : Host) (known : h.ledger.get? "r-1" = some waiting) :
      Dispatcher.StatusCourse dispatcher "r-1" h _ _ _ :=
    .answered named known rfl ended (.history (.ok history) (by decide) rfl rfl)
  exact ⟨_, _, _, _, _, _, first, (Dispatcher.performs_status rfl).2 (asks _ rfl),
    ⟨_, rfl, rfl, rfl, rfl⟩, rfl⟩

end Sample

/-- The answer that completes this run has no error, so the note of the wait before it counts. -/
theorem error_of_completed_sample : ∃ (es : List Episode) (e : Episode) (h h' : Host)
    (report : StatusReport), Chronicle Sample.dispatcher (.ofConfig {}) es h ∧
    e.Happens Sample.dispatcher h h' ∧ e.report? = some report ∧
    report.status = .known .completed ∧ report.error = latest Poll.error [⟨Sample.slow, none⟩] := by
  obtain ⟨spawned, spawnEnv, asked, statusEnv, h, h', before, happens,
    ⟨report, rfl, named, completed, -⟩, lived⟩ := Sample.noted
  have reported : (Episode.status "r-1" asked (.success report)).report? = some report := rfl
  rw [← named] at lived
  obtain ⟨earlier, completing, polls, -, -, error⟩ :=
    error_of_completed rfl before happens reported completed lived
  obtain ⟨rfl, same⟩ := List.append_inj' polls rfl
  cases same
  exact ⟨_, _, h, h', report, before, happens, reported, completed, error⟩

/-- The error of a completed run is not always that of the answer that completed it. -/
theorem error_not_fresh :
    ¬ ∀ (es : List Episode) (e : Episode) (h h' : Host) (report : StatusReport) (x : Life)
      (completing : Poll), Chronicle Sample.dispatcher (.ofConfig {}) es h →
      e.Happens Sample.dispatcher h h' → e.report? = some report →
      report.status = .known .completed → life ⟨report.runId⟩ (es ++ [e]) = some x →
      x.polls.getLast? = some completing → report.error = completing.error := by
  intro fresh
  obtain ⟨spawned, spawnEnv, asked, statusEnv, h, h', before, happens,
    ⟨report, rfl, named, completed, noted⟩, lived⟩ := Sample.noted
  rw [← named] at lived
  have error := fresh _ _ h h' report _ _ before happens rfl completed lived rfl
  rw [noted] at error
  cases error

end Delegation
