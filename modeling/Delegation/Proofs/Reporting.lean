import Delegation.Proofs.Chronicle

/-!
# What is answered is what is stored

A spawn on the remote side threads a record through its steps and answers with it, and a status
query does the same, while the ledger is written on the side. Both say the same in the end: the
record that is answered with is the one that the ledger has afterwards (`SpawnCourse.stored`,
`StatusCourse.stored`), also when a wait or a reading of the history failed, and it never says that
the run timed out if no record of the ledger did.
-/

namespace Delegation

open Remote (Acceptance WaitOutcome waitCall)

variable {d : Dispatcher} {h h' : Host} {log : List Exchange}

/-- What the result of a spawn says about its run, as a report. -/
def SpawnResult.report? (r : SpawnResult) : Option StatusReport :=
  r.runId.map fun id =>
    { runId := id.text, agent := r.agent.text, status := .known r.status, output := r.output
      durationMs := r.durationMs, error := r.error }

/-- What an operation reports about a run. A message reports on no run. -/
def Episode.report? : Episode → Option StatusReport
  | .spawn order _ envelope =>
    if envelope.ok && !order.useSessionsSend then envelope.data.bind SpawnResult.report? else none
  | .status _ _ envelope => envelope.data

theorem SpawnResult.report?_ofRecord (r : RunRecord) (mode : Backend) (warning : Option String)
    (memory : Option MemoryReport) :
    ({ ofRecord r mode warning with memory } : SpawnResult).report? = some (.ofRecord r) := rfl

namespace Dispatcher

variable {o : SpawnOrder}

/-- The record that a followed run is answered with is stored. -/
theorem Follows.stored {agent : AgentName} {a : Acceptance} {l l' : Ledger} {r : RunRecord}
    (follows : d.Follows agent o a l log r l') : l'.find? r.runId = some r := by
  cases follows with
  | atOnce | unanswered => exact Ledger.find?_put_self (acceptedRecord agent a) l
  | answered _ raw =>
    exact Ledger.find?_put_self (Tracker.polled (acceptedRecord agent a) (.ofAnswer true raw) _) _

theorem Follows.status_ne_timeout {agent : AgentName} {a : Acceptance} {l l' : Ledger}
    {r : RunRecord} (follows : d.Follows agent o a l log r l') : r.status ≠ .timeout := by
  cases follows with
  | atOnce | unanswered => exact nofun
  | answered _ raw => exact Remote.status_ofAnswer_ne_timeout raw

/-- A spawn that goes well answers with what the ledger has then. -/
theorem SpawnCourse.stored {env : Envelope SpawnResult} (course : SpawnCourse d o h log env h')
    (well : env.ok = true) (spawns : o.useSessionsSend = false) :
    ∃ r warning memory, env = .success { SpawnResult.ofRecord r .real warning with memory } ∧
      h'.ledger.find? r.runId = some r ∧ h'.ledger.get? r.runId.text = some r ∧
      r.status ≠ .timeout := by
  cases course with
  | refused | sessionless | refusedThere => cases well
  | sent _ _ _ sends =>
    rw [spawns] at sends
    cases sends
  | taken _ _ _ _ acceptance follows remembers =>
    obtain ⟨asked, memory, rfl⟩ := performs_persisted remembers
    have ledger := remembers.ledger_eq fun e he => Question.keepsLedger_of_isMemory (asked e he)
    have found := follows.stored
    refine ⟨_, _, memory, rfl, ?_, ?_, follows.status_ne_timeout⟩
    · rw [ledger]
      exact found
    · rw [ledger, follows.runId_eq,
        Ledger.get?_of_parse? (Remote.parse?_of_spawnReply acceptance).1, ← follows.runId_eq]
      exact found

/-- A status query that knows its run answers with what the ledger has then. -/
theorem StatusCourse.stored {q : String} {env : Envelope StatusReport}
    (course : StatusCourse d q h log env h') {report : StatusReport}
    (answered : env.data = some report) (known : report.status ≠ .notFound) :
    ∃ r, report = .ofRecord r ∧ h'.ledger.find? r.runId = some r := by
  have stored {id : String} {r : RunRecord} (hg : h.ledger.get? id = some r) :
      h.ledger.find? r.runId = some r := by
    obtain ⟨runId, -, hf⟩ := Option.bind_eq_some_iff.1 hg
    rw [Ledger.runId_of_find? hf]
    exact hf
  cases course with
  | blank | unanswered => cases answered
  | unknown =>
    cases answered
    exact absurd rfl known
  | ended _ hg =>
    cases answered
    exact ⟨_, rfl, stored hg⟩
  | @answered _ r _ output _ hg _ raw =>
    cases answered
    exact ⟨_, rfl, Ledger.find?_put_self (Tracker.polled r (.ofAnswer true raw) output) _⟩

end Dispatcher

/-- A report on a run that is known is what the ledger has of the run when the operation is over. -/
theorem Episode.Happens.stored (real : d.config.backend = .real) {e : Episode}
    (happens : e.Happens d h h') {report : StatusReport} (reported : e.report? = some report)
    (known : report.status ≠ .notFound) :
    ∃ r, report = .ofRecord r ∧ h'.ledger.find? r.runId = some r := by
  cases e with
  | spawn order log env =>
    unfold Episode.report? at reported
    dsimp only at reported
    split at reported
    · rename_i well
      rw [Bool.and_eq_true, Bool.not_eq_true'] at well
      obtain ⟨r, warning, memory, rfl, found, -⟩ :=
        ((Dispatcher.performs_spawn real).1 happens).stored well.1 well.2
      cases reported
      exact ⟨r, rfl, found⟩
    · cases reported
  | status query log env =>
    exact ((Dispatcher.performs_status real).1 happens).stored reported known

end Delegation
