import Delegation.Proofs.Effect

/-!
# No run is lost, and none is invented

Callers know a run by the name that a spawn answered with (`Episode.returned?`). The ledger knows
the same runs: its record of a run carries the agent of the latest spawn that returned it
(`Tracks.of_chronicle`), so a status query answers about the runs that were returned and about no
others. The law is `status_of_chronicle`.
-/

namespace Delegation

open Remote (Acceptance waitCall)

variable {d : Dispatcher} {h h' : Host} {log : List Exchange}

/-! ## The runs that were returned -/

/-- Whom a run was delegated to by the latest spawn that returned it. -/
def latestAgent? (returned : List (RunId × AgentName)) (id : RunId) : Option AgentName :=
  (returned.reverse.find? (·.1 = id)).map (·.2)

theorem latestAgent?_append_singleton (returned : List (RunId × AgentName)) (id id' : RunId)
    (agent : AgentName) :
    latestAgent? (returned ++ [(id, agent)]) id' =
      if id = id' then some agent else latestAgent? returned id' := by
  unfold latestAgent?
  rw [List.reverse_append, List.reverse_singleton, List.singleton_append, List.find?_cons]
  by_cases he : id = id' <;> simp [he]

theorem acceptances_follows {agent : AgentName} {o : SpawnOrder} {a : Acceptance} {l l' : Ledger}
    {r : RunRecord} (follows : d.Follows agent o a l log r l') :
    log.filterMap Exchange.acceptance? = [] :=
  filterMap_follows follows (fun _ _ => rfl) fun _ _ _ => rfl

/-- A spawn returns the run that the remote side accepted in its course. -/
theorem returned?_of_spawn {o : SpawnOrder} {env : Envelope SpawnResult}
    (course : Dispatcher.SpawnCourse d o h log env h') :
    (Episode.spawn o log env).returned?.toList =
      (log.filterMap Exchange.acceptance?).map fun x => (x.2.runId, x.1) := by
  rw [← filterMap_calls Exchange.acceptance?_of_not_isCall]
  dsimp only [Episode.returned?]
  cases course with
  | refused | sessionless => rfl
  | sent _ _ augments sends reply =>
    rw [sends, calls_behind augments.isMemory, List.filterMap_cons,
      Exchange.acceptance?_sendRequest, Bool.not_true, Bool.and_false]
    rfl
  | refusedThere _ _ augments _ refusal =>
    rw [calls_behind augments.isMemory, List.filterMap_cons, Exchange.acceptance?_spawnRequest,
      refusal]
    rfl
  | taken checked _ augments spawns acceptance follows remembers =>
    obtain ⟨memory, m, rfl⟩ := Dispatcher.performs_persisted remembers
    obtain ⟨named, -, -⟩ := SpawnOrder.checked_eq_ok_iff.1 checked
    rw [spawns, calls_between augments.isMemory memory, List.filterMap_cons,
      Exchange.acceptance?_spawnRequest, acceptance,
      filterMap_calls Exchange.acceptance?_of_not_isCall, acceptances_follows follows]
    have agents : (⟨Text.trim o.agent⟩ : AgentName) = _ :=
      congrArg Name.mk (Name.parse?_eq_some_iff.1 named).1.symm
    exact congrArg (· :: []) (Prod.ext follows.runId_eq agents)

theorem Episode.Happens.returned? (real : d.config.backend = .real) {e : Episode}
    (happens : e.Happens d h h') :
    e.returned?.toList = (e.log.filterMap Exchange.acceptance?).map fun x => (x.2.runId, x.1) := by
  cases e with
  | spawn order log env => exact returned?_of_spawn ((Dispatcher.performs_spawn real).1 happens)
  | status query log env =>
    have course := (Dispatcher.performs_status real).1 happens
    dsimp only [Episode.log]
    cases course with
    | blank | unknown | ended | unanswered => rfl
    | answered _ _ _ _ reads =>
      rw [List.filterMap_cons, List.filterMap_cons, List.filterMap_append,
        acceptances_reading reads]
      rfl

/-! ## The ledger tracks what was returned -/

/-- The ledger has the records of the returned runs and no others, each under its latest agent, and
none of them timed out. -/
structure Tracks (returned : List (RunId × AgentName)) (l : Ledger) : Prop where
  agent : ∀ id, (l.find? id).map (·.agent) = latestAgent? returned id
  status : ∀ id r, l.find? id = some r → r.status ≠ .timeout

namespace Tracks

variable {returned : List (RunId × AgentName)} {l : Ledger}

theorem empty : Tracks [] .empty where
  agent _ := rfl
  status _ _ found := nomatch found

/-- A record is put under the name that it was returned with. -/
theorem enter (ht : Tracks returned l) {r : RunRecord} (softly : r.status ≠ .timeout) :
    Tracks (returned ++ [(r.runId, r.agent)]) (l.put r) where
  agent id := by
    rw [latestAgent?_append_singleton]
    by_cases he : r.runId = id
    · rw [if_pos he, ← he, Ledger.find?_put_self]
      rfl
    · rw [if_neg he, Ledger.find?_put_of_ne he]
      exact ht.agent id
  status id r' found := by
    by_cases he : r.runId = id
    · rw [← he, Ledger.find?_put_self] at found
      cases found
      exact softly
    · rw [Ledger.find?_put_of_ne he] at found
      exact ht.status id r' found

/-- A record takes the place of one of the same agent. -/
theorem replace (ht : Tracks returned l) {r r' : RunRecord} (found : l.find? r'.runId = some r)
    (agent : r'.agent = r.agent) (softly : r'.status ≠ .timeout) : Tracks returned (l.put r') where
  agent id := by
    by_cases he : r'.runId = id
    · rw [← he, Ledger.find?_put_self, ← ht.agent, found]
      exact congrArg some agent
    · rw [Ledger.find?_put_of_ne he]
      exact ht.agent id
  status := (ht.enter softly).status

/-- One operation keeps track. -/
theorem next (ht : Tracks returned l) {t : Tracker} {new : List (AgentName × Acceptance)}
    {asked : RunId → List Poll} {l' : Ledger} (effect : Effect t l new asked l') :
    Tracks (returned ++ new.map fun x => (x.2.runId, x.1)) l' := by
  cases effect with
  | nothing => simpa only [List.map_nil, List.append_nil] using ht
  | entered agent a =>
    exact ht.enter (r := Dispatcher.acceptedRecord agent a) nofun
  | followed agent a raw reads =>
    have entered := ht.enter (r := Dispatcher.acceptedRecord agent a) nofun
    have found := Ledger.find?_put_self (Dispatcher.acceptedRecord agent a) l
    exact entered.replace found rfl (Remote.status_ofAnswer_ne_timeout raw)
  | polled known _ raw _ =>
    rw [List.map_nil, List.append_nil]
    exact ht.replace known rfl (Remote.status_ofAnswer_ne_timeout raw)

theorem of_chronicle (real : d.config.backend = .real) {h₀ : Host} {es : List Episode}
    (chronicle : Chronicle d h₀ es h) (empty : h₀.ledger = .empty) :
    Tracks (returns es) h.ledger := by
  induction chronicle with
  | start =>
    rw [empty]
    exact .empty
  | next before happens ih =>
    have step := ih.next (happens.effect real)
    rw [← happens.returned? real] at step
    have grown (es : List Episode) (e : Episode) :
        returns (es ++ [e]) = returns es ++ e.returned?.toList := by
      unfold returns
      rw [List.filterMap_append]
      cases he : e.returned? <;> simp [he]
    rw [grown]
    exact step
  | pause _ _ ih => exact ih

end Tracks

/-! ## What a status query says -/

theorem Status.mem_of_ne_timeout {s : Status} (softly : s ≠ .timeout) :
    s ∈ [.accepted, .running, .completed, .failed] := by
  cases s with
  | timeout => exact absurd rfl softly
  | _ => decide

/-- What a status query says about a run that was returned. -/
theorem status_of_returned {returned : List (RunId × AgentName)}
    (tracks : Tracks returned h.ledger) {q : String} {env : Envelope StatusReport}
    (course : Dispatcher.StatusCourse d q h log env h') (solid : Text.trim q ≠ "")
    {agent : AgentName} (latest : latestAgent? returned ⟨Text.trim q⟩ = some agent) :
    ∃ r, h.ledger.get? q = some r ∧
      ((∃ report, env = .success report ∧ report.runId = Text.trim q ∧
          report.agent = agent.text ∧
          ∃ s, report.status = .known s ∧ s ∈ [.accepted, .running, .completed, .failed]) ∨
        env.ok = false ∧ env.code = .statusFailed) ∧
      (env.code = .statusFailed ↔ r.status.isTerminal = false ∧
        ∃ reason, ⟨.call (waitCall r.runId d.config.statusPollMs), .error reason⟩ ∈ log) := by
  obtain ⟨r, found, same⟩ := Option.map_eq_some_iff.1 ((tracks.agent _).trans latest)
  have named_so : r.runId.text = Text.trim q := congrArg Name.text (Ledger.runId_of_find? found)
  have stored {id : String} {r' : RunRecord} (named : Text.nonBlank? q = some id)
      (known : h.ledger.get? id = some r') : h.ledger.get? q = some r ∧ r' = r := by
    obtain ⟨-, -, hid, hq⟩ := Ledger.get?_of_nonBlank? named h.ledger
    rw [hid, found] at known
    exact ⟨hq.trans found, (Option.some.inj known).symm⟩
  cases course with
  | blank blank => exact absurd (Text.trim_eq_of_nonBlank? blank) solid
  | unknown named missing =>
    rw [(Ledger.get?_of_nonBlank? named h.ledger).2.2.1, found] at missing
    cases missing
  | ended named known terminal =>
    obtain ⟨hq, rfl⟩ := stored named known
    refine ⟨_, hq, .inl ⟨_, rfl, named_so, congrArg Name.text same, _, rfl, ?_⟩, nofun, ?_⟩
    · exact Status.mem_of_ne_timeout (tracks.status _ _ found)
    · rintro ⟨unfinished, -⟩
      rw [terminal] at unfinished
      cases unfinished
  | unanswered named known unfinished reason =>
    obtain ⟨hq, rfl⟩ := stored named known
    exact ⟨_, hq, .inr ⟨rfl, rfl⟩, fun _ => ⟨unfinished, reason, .tail _ (.head _)⟩, fun _ => rfl⟩
  | answered named known unfinished raw reads =>
    obtain ⟨hq, rfl⟩ := stored named known
    refine ⟨_, hq, .inl ⟨_, rfl, named_so, congrArg Name.text same, _, rfl, ?_⟩, nofun, ?_⟩
    · exact Status.mem_of_ne_timeout (Remote.status_ofAnswer_ne_timeout raw)
    · rintro ⟨-, reason, hm⟩
      -- neither of the ledger's exchanges, nor the wait that was answered, nor what was read
      simp only [List.mem_cons, List.mem_append, reads.not_mem_wait (c := waitCall _ _) rfl,
        List.not_mem_nil] at hm
      simp at hm

/-- After anything that can have happened, a status query says that a blank text is no run, that a
run which was never returned is not known, and of any other how it stands; only a wait for a run
that is not over can fail. -/
theorem status_of_chronicle (real : d.config.backend = .real) {h₀ : Host} {es : List Episode}
    (chronicle : Chronicle d h₀ es h) (empty : h₀.ledger = .empty) {q : String}
    {env : Envelope StatusReport} (asked : h.Performs (d.status q) log env h') :
    (Text.trim q = "" → env.ok = false ∧ env.code = .invalidParams ∧ calls log = []) ∧
      (Text.trim q ≠ "" → latestAgent? (returns es) ⟨Text.trim q⟩ = none →
        env = .success ⟨Text.trim q, "unknown", .notFound, none, none, none⟩ ∧ calls log = []) ∧
      ∀ agent, Text.trim q ≠ "" → latestAgent? (returns es) ⟨Text.trim q⟩ = some agent →
        ∃ r, h.ledger.get? q = some r ∧
          ((∃ report, env = .success report ∧ report.runId = Text.trim q ∧
              report.agent = agent.text ∧
              ∃ s, report.status = .known s ∧ s ∈ [.accepted, .running, .completed, .failed]) ∨
            env.ok = false ∧ env.code = .statusFailed) ∧
          (env.code = .statusFailed ↔ r.status.isTerminal = false ∧
            ∃ reason, ⟨.call (waitCall r.runId d.config.statusPollMs), .error reason⟩ ∈ log) := by
  have tracks := Tracks.of_chronicle real chronicle empty
  have course := (Dispatcher.performs_status real).1 asked
  refine ⟨fun blank => ?_, fun solid missing => ?_, fun agent solid returned => ?_⟩
  · cases course with
    | blank => exact ⟨rfl, rfl, rfl⟩
    | unknown named | ended named | unanswered named | answered named =>
      exact absurd blank (Ledger.get?_of_nonBlank? named h.ledger).2.1
  · have gone : h.ledger.find? ⟨Text.trim q⟩ = none := by
      have := tracks.agent ⟨Text.trim q⟩
      rw [missing] at this
      exact Option.map_eq_none_iff.1 this
    cases course with
    | blank blank => exact absurd (Text.trim_eq_of_nonBlank? blank) solid
    | unknown named =>
      rw [(Ledger.get?_of_nonBlank? named h.ledger).1]
      exact ⟨rfl, rfl⟩
    | ended named known | unanswered named known | answered named known =>
      rw [(Ledger.get?_of_nonBlank? named h.ledger).2.2.1, gone] at known
      cases known
  · exact status_of_returned tracks course solid returned

/-- The run is asked for under a padded name, and found over. -/
theorem status_of_chronicle_sample : ∃ es h log env h',
    Chronicle Sample.dispatcher (.ofConfig {}) es h ∧
    h.Performs (Sample.dispatcher.status " r-1 ") log env h' ∧
    ∃ report, env = .success report ∧ report.runId = "r-1" ∧ report.agent = "technical" := by
  obtain ⟨spawned, spawnEnv, asked, statusEnv, h, r, chronicle, -, -, returned, known, ended⟩ :=
    Sample.chronicle
  have asks : h.Performs (Sample.dispatcher.status " r-1 ") [⟨.find "r-1", some r⟩]
      (.success (.ofRecord r)) h :=
    (Dispatcher.performs_status rfl).2 (.ended rfl known (ended ▸ rfl))
  have law := (status_of_chronicle rfl chronicle rfl asks).2.2 ⟨"technical"⟩ (by decide)
    (by rw [returned]; decide)
  obtain ⟨-, -, ⟨report, same, runId, agent, -⟩ | ⟨failed, -⟩, -⟩ := law
  · exact ⟨_, h, _, _, h, chronicle, asks, report, same, runId, agent⟩
  · cases failed

end Delegation
