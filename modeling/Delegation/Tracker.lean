import Delegation.Failure
import Delegation.Remote.History
import Delegation.Remote.Waiting

/-!
# Tracking remote runs

What the ledger says of a remote run is brought up to date by polling: one bounded wait, then, if
the run is over and has no output yet, one look into the history of its session, and the news is
merged into the ledger. A run whose record is terminal is not polled again. `news` is the part of
a poll that decides what is written; it looks at the record as it was before the questions.
-/

namespace Delegation

open Remote (WaitOutcome)

/-- The settings of polling. -/
structure Tracker where
  /-- The window of a poll that a status query makes. -/
  windowMs : UInt64
  historyLimit : UInt64
  historyTimeoutMs : UInt64
  deriving DecidableEq, Repr

/-- Where the output of a finished run comes from. -/
inductive Backfill where
  /-- A reply was read from the session of the run. -/
  | fetched (text : String)
  /-- Nothing was read; the output that was there, if any, stands. -/
  | fallback (prior : Option String)
  deriving DecidableEq, Repr

namespace Backfill

def output? : Backfill → Option String
  | .fetched text => some text
  | .fallback prior => prior

end Backfill

/-- The output of a record, unless it is blank. -/
def RunRecord.usableOutput? (r : RunRecord) : Option String :=
  r.output.filter fun o => Text.trim o ≠ ""

namespace Tracker

/-- What is written after a wait, with the output that was found. -/
def news (outcome : WaitOutcome) (output : Option String) : RunPatch where
  status := some outcome.status.text
  output := output
  error := outcome.error
  startedAt := outcome.startedAt
  endedAt := outcome.endedAt
  durationMs := outcome.durationMs

/-- The output that an answer to a reading of the history gives. -/
def backfillOf (answer : Reply (Option String)) : Backfill :=
  match answer with
  | .ok (some text) => .fetched text
  | .ok none => .fallback none
  | .error _ => .fallback none

/-- Find the output of a run that is over. -/
def backfill (t : Tracker) (r : RunRecord) : Procedure Backfill :=
  match r.usableOutput?, r.childSessionKey with
  | some prior, _ => return .fallback (some prior)
  | none, none => return .fallback none
  | none, some session => do
    let answer ← Remote.readLatestReply session t.historyLimit t.historyTimeoutMs
    return backfillOf answer

/-- The failure of a wait. -/
def waitFailure (runId : RunId) (reason : String) : Failure :=
  .status ("agent.wait for " ++ runId.text ++ " failed: " ++ reason)

/-- One wait for the run of a record; its news is merged into the ledger. -/
def pollOnce (t : Tracker) (r : RunRecord) (windowMs : UInt64) (timeoutAsRunning : Bool) :
    Procedure (Except Failure RunRecord) := do
  match ← Remote.wait r.runId windowMs timeoutAsRunning with
  | .error reason => return .error (waitFailure r.runId reason)
  | .ok outcome =>
    let output ←
      if outcome.status = .running then pure none
      else do
        let found ← t.backfill r
        pure found.output?
    let merged ← .amend r.runId.text (news outcome output)
    return .ok (merged.getD r)

/-- Bring the run that a text names up to date; none if the ledger does not know it. -/
def reconcile (t : Tracker) (runId : String) : Procedure (Except Failure (Option RunRecord)) := do
  match ← .find runId with
  | none => return .ok none
  | some r =>
    if r.status.isTerminal then return .ok (some r)
    else do
      let polled ← t.pollOnce r t.windowMs true
      return polled.map some

end Tracker

end Delegation
