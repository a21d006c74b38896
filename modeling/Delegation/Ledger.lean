import Delegation.Run

/-!
# The ledger of runs

The ledger keeps one record for each run, found by the name of the run. It is passive: what it is
told it brings into shape (statuses become one of five, blank keys count as absent, durations are
derived where none is given), and the last write wins. `find?_put_self` and `find?_put_of_ne` say
what a write changes.
-/

namespace Delegation

/-- What a backend reports about a run, as it was reported. -/
structure RunReport where
  runId : String
  agent : String
  status : Option String := none
  childSessionKey : Option String := none
  output : Option String := none
  error : Option String := none
  startedAt : Option Int64 := none
  endedAt : Option Int64 := none
  durationMs : Option Int64 := none
  deriving DecidableEq, Repr, Inhabited

/-- News about a run; what is absent leaves the record as it is. -/
structure RunPatch where
  status : Option String := none
  childSessionKey : Option String := none
  output : Option String := none
  error : Option String := none
  startedAt : Option Int64 := none
  endedAt : Option Int64 := none
  durationMs : Option Int64 := none
  deriving DecidableEq, Repr, Inhabited

/-- A duration is not below zero. -/
def nonNegative (ms : Int64) : Int64 := if ms < 0 then 0 else ms

/-- A reported status that is none of the five reads as running. -/
def statusOrRunning (status : Option String) : Status :=
  (status.bind Status.parse?).getD .running

/-- The record that a report makes; none if it names no run. -/
def RunReport.record? (r : RunReport) : Option RunRecord :=
  (Name.parse? r.runId).map fun runId =>
    { runId
      agent := ⟨Text.trim r.agent⟩
      status := statusOrRunning r.status
      childSessionKey := r.childSessionKey.bind Name.parse?
      output := r.output
      error := r.error
      startedAt := r.startedAt
      endedAt := r.endedAt
      durationMs := (r.durationMs.map nonNegative).or (elapsed? r.startedAt r.endedAt) }

/-- The record with the news merged in. A status that is none of the five is no news; a duration
that is not given is derived from the merged timestamps. -/
def RunRecord.amended (p : RunPatch) (r : RunRecord) : RunRecord :=
  let startedAt := p.startedAt.or r.startedAt
  let endedAt := p.endedAt.or r.endedAt
  { r with
    status := (p.status.bind Status.parse?).getD r.status
    childSessionKey := (p.childSessionKey.bind Name.parse?).or r.childSessionKey
    output := p.output.or r.output
    error := p.error.or r.error
    startedAt
    endedAt
    durationMs :=
      match p.durationMs with
      | some ms => some (nonNegative ms)
      | none => (elapsed? startedAt endedAt).or r.durationMs }

/-- Why a report makes no record. -/
def missingRunId : String := "run record requires a non-blank runId"

structure Ledger where
  records : List RunRecord
  deriving DecidableEq, Repr

namespace Ledger

def empty : Ledger := ⟨[]⟩

/-- The record of a run. -/
def find? (l : Ledger) (id : RunId) : Option RunRecord := l.records.find? (·.runId = id)

/-- The record of the run that a text names. -/
def get? (l : Ledger) (id : String) : Option RunRecord := (Name.parse? id).bind l.find?

/-- The names of all runs. -/
def runIds (l : Ledger) : List RunId := l.records.map (·.runId)

/-- A record takes the place of the one with its name, or comes last. -/
def place (r : RunRecord) : List RunRecord → List RunRecord
  | [] => [r]
  | x :: rest => if x.runId = r.runId then r :: rest else x :: place r rest

def put (r : RunRecord) (l : Ledger) : Ledger := ⟨place r l.records⟩

/-- Enter the reported record, in place of the one with its name. -/
def upsert (report : RunReport) (l : Ledger) : Option RunRecord × Ledger :=
  match report.record? with
  | some r => (some r, l.put r)
  | none => (none, l)

/-- Merge news into the record of a run; none if there is no such run. -/
def patch (id : String) (p : RunPatch) (l : Ledger) : Option RunRecord × Ledger :=
  match l.get? id with
  | some r => (some (r.amended p), l.put (r.amended p))
  | none => (none, l)

/-- The record with the reported name, entered if there is none yet. -/
def ensure (report : RunReport) (l : Ledger) : Option RunRecord × Ledger :=
  match report.record? with
  | none => (none, l)
  | some r =>
    match l.find? r.runId with
    | some known => (some known, l)
    | none => (some r, l.put r)

/-! ## What a write changes -/

theorem find?_place_self (r : RunRecord) (rs : List RunRecord) :
    (place r rs).find? (·.runId = r.runId) = some r := by
  induction rs with
  | nil => simp [place]
  | cons x rest ih =>
    unfold place
    split
    · simp
    · rename_i h; simp [h, ih]

theorem find?_place_of_ne {r : RunRecord} {id : RunId} (h : r.runId ≠ id) (rs : List RunRecord) :
    (place r rs).find? (·.runId = id) = rs.find? (·.runId = id) := by
  induction rs with
  | nil => simp [place, h]
  | cons x rest ih =>
    unfold place
    split
    · rename_i hx
      have : x.runId ≠ id := fun e => h (hx ▸ e)
      simp [h, this]
    · simp only [List.find?_cons, ih]

theorem find?_put_self (r : RunRecord) (l : Ledger) : (l.put r).find? r.runId = some r :=
  find?_place_self r l.records

theorem find?_put_of_ne {r : RunRecord} {id : RunId} (h : r.runId ≠ id) (l : Ledger) :
    (l.put r).find? id = l.find? id :=
  find?_place_of_ne h l.records

end Ledger

end Delegation
