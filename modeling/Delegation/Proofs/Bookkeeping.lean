import Delegation.Dispatcher
import Delegation.Proofs.Polling

/-!
# What is written into the ledger

What a poll writes is news about a run that is in the ledger, and the record of that run is amended
in its place (`patch_of_get?`). `Tracker.polled` is the record after a poll, and
`performs_settle_of_get?` says that this is what a poll of a stored record writes and answers.
-/

namespace Delegation

open Remote (WaitOutcome Acceptance)

variable {h h' : Host} {log : List Exchange}

namespace Status

theorem parse?_text (s : Status) : parse? s.text = some s := by
  cases s <;> rfl

end Status

namespace Text

theorem trim_eq_of_nonBlank? {q : String} (blank : nonBlank? q = none) : trim q = "" :=
  Name.parse?_eq_none_iff.1 (show (Name.parse? q : Option RunId) = none by
    unfold Name.parse?
    rw [blank]
    rfl)

theorem eq_trim_of_nonBlank? {q t : String} (solid : nonBlank? q = some t) : t = trim q := by
  unfold nonBlank? at solid
  dsimp only at solid
  split at solid <;> cases solid
  rfl

end Text

namespace Ledger

variable {l : Ledger} {r : RunRecord} {id : RunId}

theorem runId_of_find? (hf : l.find? id = some r) : r.runId = id := by
  have := List.find?_some hf
  simpa using this

/-- Whoever is found under a text is found under the name of its record. -/
theorem get?_text_of_get? {q : String} (hg : l.get? q = some r) :
    l.get? r.runId.text = some r := by
  obtain ⟨id, hq, hf⟩ := Option.bind_eq_some_iff.1 hg
  rw [runId_of_find? hf]
  exact Option.bind_eq_some_iff.2 ⟨id, Name.parse?_text hq, hf⟩

theorem get?_of_parse? {q : String} (hq : Name.parse? q = some id) : l.get? q = l.find? id := by
  unfold get?
  rw [hq]
  rfl

/-- What is looked for by a status query. -/
theorem get?_of_nonBlank? {q id : String} (named : Text.nonBlank? q = some id) (l : Ledger) :
    id = Text.trim q ∧ Text.trim q ≠ "" ∧ l.get? id = l.find? ⟨Text.trim q⟩ ∧
      l.get? q = l.find? ⟨Text.trim q⟩ := by
  have parsed : (Name.parse? q : Option RunId) = some ⟨id⟩ := by
    unfold Name.parse?
    rw [named]
    rfl
  obtain ⟨trimmed, solid⟩ := Name.parse?_eq_some_iff.1 parsed
  have trimmed : id = Text.trim q := trimmed
  have again : (Name.parse? id : Option RunId) = some ⟨id⟩ := Name.parse?_text parsed
  refine ⟨trimmed, solid, ?_, ?_⟩
  · rw [Ledger.get?_of_parse? again, trimmed]
  · rw [Ledger.get?_of_parse? parsed, trimmed]

/-- News about a known run: its record is amended in its place. -/
theorem patch_of_get? {q : String} (p : RunPatch) (hg : l.get? q = some r) :
    l.patch q p = (some (r.amended p), l.put (r.amended p)) := by
  unfold patch
  rw [hg]

theorem patch_of_get?_eq_none {q : String} (p : RunPatch) (hg : l.get? q = none) :
    l.patch q p = (none, l) := by
  unfold patch
  rw [hg]

end Ledger

/-! ## The news of a poll -/

namespace Tracker

variable {t : Tracker} {r : RunRecord}

/-- The record of a run after a poll. Whatever it said before, its status is that of the answer;
what the answer does not say stays. -/
def polled (r : RunRecord) (outcome : WaitOutcome) (output : Option String) : RunRecord :=
  { r with
    status := outcome.status
    output := output.or r.output
    error := outcome.error.or r.error
    startedAt := outcome.startedAt.or r.startedAt
    endedAt := outcome.endedAt.or r.endedAt
    durationMs :=
      match outcome.durationMs with
      | some ms => some (nonNegative ms)
      | none =>
        (elapsed? (outcome.startedAt.or r.startedAt) (outcome.endedAt.or r.endedAt)).or
          r.durationMs }

variable {outcome : WaitOutcome} {output : Option String}

theorem amended_news : r.amended (news outcome output) = polled r outcome output := by
  have status : ((some outcome.status.text).bind Status.parse?).getD r.status =
      outcome.status := by
    rw [Option.bind_some, Status.parse?_text, Option.getD_some]
  exact congrArg (fun s => { polled r outcome output with status := s }) status

@[simp] theorem polled_runId : (polled r outcome output).runId = r.runId := rfl

@[simp] theorem polled_status : (polled r outcome output).status = outcome.status := rfl

@[simp] theorem polled_output : (polled r outcome output).output = output.or r.output := rfl

/-- A poll of a run that is in the ledger. -/
theorem performs_settle_of_get? {x : Except Failure RunRecord}
    (stored : h.ledger.get? r.runId.text = some r) :
    h.Performs (t.settle r outcome) log x h' ↔
      ∃ reading output, t.Reads r outcome.status reading output ∧
        x = .ok (polled r outcome output) ∧
        h' = { h with ledger := h.ledger.put (polled r outcome output) } ∧
        log = reading ++
          [⟨.amend r.runId.text (news outcome output), some (polled r outcome output)⟩] := by
  have patched (output : Option String) :
      h.ledger.patch r.runId.text (news outcome output) =
        (some (polled r outcome output), h.ledger.put (polled r outcome output)) := by
    rw [Ledger.patch_of_get? _ stored, amended_news]
  rw [performs_settle]
  constructor
  · rintro ⟨reading, output, merged, reads, answered, rfl, rfl⟩
    obtain ⟨rfl, rfl⟩ := Host.answers_amend.1 answered
    rw [patched output]
    exact ⟨reading, output, reads, rfl, rfl, rfl⟩
  · rintro ⟨reading, output, reads, rfl, rfl, rfl⟩
    refine ⟨reading, output, _, reads, Host.answers_amend.2 ?_, rfl, rfl⟩
    rw [patched output]
    exact ⟨rfl, rfl⟩

end Tracker

end Delegation
