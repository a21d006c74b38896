import Delegation.Proofs.Chronicle

/-!
# What an operation does to the ledger

Whatever happens in an operation on the remote side, its effect on the ledger is one of four, and
it goes with what is read off the exchanges (`Episode.Happens.effect`): nothing is written, or a run
that was accepted is entered, or it is entered and polled, or a run that is in the ledger is polled.
What the ledger keeps through any number of operations is proved from these four.
-/

namespace Delegation

open Remote (Acceptance)

/-- What an operation does to the ledger, with the acceptances and the polls that are read off its
exchanges. -/
inductive Effect (t : Tracker) (l : Ledger) :
    List (AgentName × Acceptance) → (RunId → List Poll) → Ledger → Prop
  | nothing : Effect t l [] (fun _ => []) l
  | entered (agent : AgentName) (a : Acceptance) :
    Effect t l [(agent, a)] (fun _ => []) (l.put (Dispatcher.acceptedRecord agent a))
  | followed (agent : AgentName) (a : Acceptance) (raw : Json) {reading : List Exchange}
    {output : Option String}
    (reads : t.Reads (Dispatcher.acceptedRecord agent a)
      (Remote.WaitOutcome.ofAnswer true raw).status reading output) :
    Effect t l [(agent, a)] (fun id => if a.runId = id then [.ofReading raw reading] else [])
      ((l.put (Dispatcher.acceptedRecord agent a)).put
        (Tracker.polled (Dispatcher.acceptedRecord agent a) (.ofAnswer true raw) output))
  | polled {r : RunRecord} (known : l.find? r.runId = some r)
    (unfinished : r.status.isTerminal = false) (raw : Json) {reading : List Exchange}
    {output : Option String}
    (reads : t.Reads r (Remote.WaitOutcome.ofAnswer true raw).status reading output) :
    Effect t l [] (fun id => if r.runId = id then [.ofReading raw reading] else [])
      (l.put (Tracker.polled r (.ofAnswer true raw) output))

namespace Effect

variable {d : Dispatcher} {h h' : Host} {log : List Exchange}

/-- The effect is read off the calls. -/
theorem of_calls {t : Tracker} {l l' : Ledger}
    (he : Effect t l ((calls log).filterMap Exchange.acceptance?)
      (fun id => pollsIn id (calls log)) l') :
    Effect t l (log.filterMap Exchange.acceptance?) (fun id => pollsIn id log) l' := by
  rw [filterMap_calls Exchange.acceptance?_of_not_isCall] at he
  simpa only [pollsIn_calls] using he

theorem of_follows {agent : AgentName} {o : SpawnOrder} {a : Acceptance} {l l' : Ledger}
    {r : RunRecord} (follows : d.Follows agent o a l log r l') :
    Effect d.tracker l ((agent, a) :: (calls log).filterMap Exchange.acceptance?)
      (fun id => pollsIn id (calls log)) l' := by
  cases follows with
  | atOnce | unanswered => exact .entered agent a
  | @answered reading output _ raw reads =>
    rw [calls_answered reads rfl rfl, List.filterMap_cons, Exchange.acceptance?_call,
      acceptances_reading reads]
    simp only [pollsIn_answered reads]
    exact .followed agent a raw reads

theorem of_spawn {o : SpawnOrder} {env : Envelope SpawnResult}
    (course : Dispatcher.SpawnCourse d o h log env h') :
    Effect d.tracker h.ledger (log.filterMap Exchange.acceptance?) (fun id => pollsIn id log)
      h'.ledger := by
  cases course with
  | refused | sessionless => exact .nothing
  | sent _ _ augments _ reply =>
    refine of_calls ?_
    rw [calls_behind augments.isMemory, List.filterMap_cons, Exchange.acceptance?_sendRequest]
    exact .nothing
  | refusedThere _ _ augments _ refusal =>
    refine of_calls ?_
    rw [calls_behind augments.isMemory, List.filterMap_cons, Exchange.acceptance?_spawnRequest,
      refusal]
    exact .nothing
  | taken _ _ augments _ acceptance follows remembers =>
    obtain ⟨memory, -⟩ := Dispatcher.performs_persisted remembers
    have ledger := remembers.ledger_eq fun e he => Question.keepsLedger_of_isMemory (memory e he)
    rw [ledger]
    refine of_calls ?_
    rw [calls_between augments.isMemory memory, List.filterMap_cons,
      Exchange.acceptance?_spawnRequest, acceptance]
    simp only [pollsIn_invoke]
    exact of_follows follows

theorem of_status {q : String} {env : Envelope StatusReport}
    (course : Dispatcher.StatusCourse d q h log env h') :
    Effect d.tracker h.ledger (log.filterMap Exchange.acceptance?) (fun id => pollsIn id log)
      h'.ledger := by
  cases course with
  | blank | unknown | ended | unanswered => exact .nothing
  | @answered id r reading output named known unfinished raw reads =>
    have found : h.ledger.find? r.runId = some r := by
      obtain ⟨runId, -, hf⟩ := Option.bind_eq_some_iff.1 known
      rw [Ledger.runId_of_find? hf]
      exact hf
    refine of_calls ?_
    rw [calls_answered reads rfl rfl, List.filterMap_cons, Exchange.acceptance?_call,
      acceptances_reading reads]
    simp only [pollsIn_answered reads]
    exact .polled found unfinished raw reads

end Effect

/-- What happens in an operation on the remote side is one of the effects. -/
theorem Episode.Happens.effect {d : Dispatcher} (real : d.config.backend = .real) {h h' : Host}
    {e : Episode} (happens : e.Happens d h h') :
    Effect d.tracker h.ledger (e.log.filterMap Exchange.acceptance?) (fun id => pollsIn id e.log)
      h'.ledger := by
  cases e with
  | spawn order log env => exact .of_spawn ((Dispatcher.performs_spawn real).1 happens)
  | status query log env => exact .of_status ((Dispatcher.performs_status real).1 happens)

end Delegation
