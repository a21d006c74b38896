import Delegation.Proofs.Exchange
import Delegation.Tracker

/-!
# How a poll goes

A poll of a run is one wait; if it is answered with the end of the run, one look into the history
may follow (`Tracker.Reads`), and then the news is merged into the ledger. `performs_pollOnce` and
`performs_reconcile` list all the ways in which a poll and a status query can go; what they do to
the ledger, what they ask and what they answer is read off these lists.
-/

namespace Delegation

open Remote (WaitOutcome waitCall historyCall latestReply?)

variable {h h' : Host} {log : List Exchange}

namespace Remote

theorem performs_wait {id : RunId} {windowMs : UInt64} {soft : Bool} {x : Reply WaitOutcome} :
    h.Performs (wait id windowMs soft) log x h' ↔
      ∃ reply : Reply Json, log = [⟨.call (waitCall id windowMs), reply⟩] ∧
        x = reply.map (.ofAnswer soft) ∧ h' = h := by
  unfold wait
  rw [Host.performs_map]
  constructor
  · rintro ⟨reply, hp, rfl⟩
    obtain ⟨rfl, answered⟩ := Host.performs_asking.1 hp
    exact ⟨reply, rfl, rfl, Host.answers_call.1 answered⟩
  · rintro ⟨reply, rfl, rfl, rfl⟩
    exact ⟨reply, Host.performs_asking.2 ⟨rfl, Host.answers_call.2 rfl⟩, rfl⟩

/-- A wait that is softened says that the run is over, or that it is running. -/
theorem status_ofAnswer_true (raw : Json) :
    (WaitOutcome.ofAnswer true raw).status ∈ [Status.completed, .failed, .running] := by
  show waitStatus true _ ∈ _
  unfold waitStatus
  split <;> decide

/-- A wait that is softened never says that it ran out. -/
theorem status_ofAnswer_ne_timeout (raw : Json) :
    (WaitOutcome.ofAnswer true raw).status ≠ .timeout := by
  intro ranOut
  have softened := status_ofAnswer_true raw
  rw [ranOut] at softened
  exact absurd softened (by decide)

theorem performs_readLatestReply {session : SessionKey} {limit timeoutMs : UInt64}
    {x : Reply (Option String)} :
    h.Performs (readLatestReply session limit timeoutMs) log x h' ↔
      ∃ reply : Reply Json, log = [⟨.call (historyCall session limit timeoutMs), reply⟩] ∧
        x = reply.map latestReply? ∧ h' = h := by
  unfold readLatestReply
  rw [Host.performs_map]
  constructor
  · rintro ⟨reply, hp, rfl⟩
    obtain ⟨rfl, answered⟩ := Host.performs_asking.1 hp
    exact ⟨reply, rfl, rfl, Host.answers_call.1 answered⟩
  · rintro ⟨reply, rfl, rfl, rfl⟩
    exact ⟨reply, Host.performs_asking.2 ⟨rfl, Host.answers_call.2 rfl⟩, rfl⟩

end Remote

namespace Tracker

variable {t : Tracker} {r : RunRecord}

/-- The text that a reply to a reading of the history gives. -/
def readText (reply : Reply Json) : Option String := reply.toOption.bind latestReply?

theorem output?_backfillOf (reply : Reply Json) :
    (backfillOf (reply.map latestReply?)).output? = readText reply := by
  cases reply with
  | error reason => rfl
  | ok raw =>
    show (backfillOf (.ok (latestReply? raw))).output? = latestReply? raw
    cases latestReply? raw <;> rfl

/-- How the output that goes with an answer is found: what is exchanged for it, and what is found.
Only a run that is over, has no output yet and has a session of its own is looked up there. -/
inductive Reads (t : Tracker) (r : RunRecord) : Status → List Exchange → Option String → Prop
  | unfinished : Reads t r .running [] none
  | kept {s : Status} {output : String} (ended : s ≠ .running)
    (usable : r.usableOutput? = some output) : Reads t r s [] (some output)
  | sessionless {s : Status} (ended : s ≠ .running) (unusable : r.usableOutput? = none)
    (nowhere : r.childSessionKey = none) : Reads t r s [] none
  | history {s : Status} {session : SessionKey} (reply : Reply Json) (ended : s ≠ .running)
    (unusable : r.usableOutput? = none) (there : r.childSessionKey = some session) :
    Reads t r s [⟨.call (historyCall session t.historyLimit t.historyTimeoutMs), reply⟩]
      (readText reply)

/-- What is read is not a wait. -/
theorem Reads.not_mem_wait {s : Status} {output : Option String}
    (reads : t.Reads r s log output) {c : Remote.MethodCall} (wait : c.method = Remote.waitMethod)
    (reply : Reply Json) : ⟨.call c, reply⟩ ∉ log := by
  cases reads with
  | unfinished | kept | sessionless => exact List.not_mem_nil
  | history =>
    intro hm
    have same := Question.call.inj (congrArg Exchange.question (List.mem_singleton.1 hm))
    rw [same] at wait
    exact absurd (show Remote.historyMethod = Remote.waitMethod from wait) (by decide)

/-- Find the output that goes with the answer to a wait. -/
def outputFor (t : Tracker) (r : RunRecord) (s : Status) : Procedure (Option String) :=
  if s = .running then pure none else t.backfill r >>= fun found => pure found.output?

theorem reads_of_performs {s : Status} {output : Option String}
    (hp : h.Performs (t.outputFor r s) log output h') : t.Reads r s log output ∧ h' = h := by
  unfold outputFor at hp
  by_cases hs : s = .running
  · rw [if_pos hs] at hp
    obtain ⟨rfl, rfl, rfl⟩ := Host.performs_pure.1 hp
    exact ⟨hs ▸ .unfinished, rfl⟩
  · rw [if_neg hs] at hp
    obtain ⟨found, hb, rfl⟩ := Host.performs_map.1 hp
    unfold backfill at hb
    cases hu : r.usableOutput? with
    | some prior =>
      rw [hu] at hb
      obtain ⟨rfl, rfl, rfl⟩ := Host.performs_pure.1 hb
      exact ⟨.kept hs hu, rfl⟩
    | none =>
      rw [hu] at hb
      cases hk : r.childSessionKey with
      | none =>
        rw [hk] at hb
        obtain ⟨rfl, rfl, rfl⟩ := Host.performs_pure.1 hb
        exact ⟨.sessionless hs hu hk, rfl⟩
      | some session =>
        rw [hk] at hb
        obtain ⟨answer, hr, rfl⟩ := Host.performs_map.1 hb
        obtain ⟨reply, rfl, rfl, rfl⟩ := Remote.performs_readLatestReply.1 hr
        rw [output?_backfillOf]
        exact ⟨.history reply hs hu hk, rfl⟩

theorem Reads.performs {s : Status} {output : Option String} (reads : t.Reads r s log output) :
    h.Performs (t.outputFor r s) log output h := by
  unfold outputFor backfill
  cases reads with
  | unfinished => exact Host.performs_pure.2 ⟨rfl, rfl, rfl⟩
  | kept ended usable =>
    rw [if_neg ended, usable]
    exact Host.performs_map.2 ⟨_, Host.performs_pure.2 ⟨rfl, rfl, rfl⟩, rfl⟩
  | sessionless ended unusable nowhere =>
    rw [if_neg ended, unusable, nowhere]
    exact Host.performs_map.2 ⟨_, Host.performs_pure.2 ⟨rfl, rfl, rfl⟩, rfl⟩
  | history reply ended unusable there =>
    rw [if_neg ended, unusable, there]
    refine Host.performs_map.2
      ⟨backfillOf (reply.map latestReply?), ?_, (output?_backfillOf reply).symm⟩
    exact Host.performs_map.2
      ⟨_, Remote.performs_readLatestReply.2 ⟨reply, rfl, rfl, rfl⟩, rfl⟩

theorem performs_outputFor {s : Status} {output : Option String} :
    h.Performs (t.outputFor r s) log output h' ↔ t.Reads r s log output ∧ h' = h := by
  constructor
  · exact reads_of_performs
  · rintro ⟨reads, rfl⟩
    exact reads.performs

/-- After an answer: find the output that goes with it, and merge both into the ledger. -/
def settle (t : Tracker) (r : RunRecord) (outcome : WaitOutcome) :
    Procedure (Except Failure RunRecord) :=
  t.outputFor r outcome.status >>= fun output =>
    Procedure.amend r.runId.text (news outcome output) >>= fun merged =>
      pure (.ok (merged.getD r))

theorem pollOnce_eq (t : Tracker) (r : RunRecord) (windowMs : UInt64) (soft : Bool) :
    t.pollOnce r windowMs soft = Remote.wait r.runId windowMs soft >>= fun x =>
      match x with
      | .error reason => pure (.error (waitFailure r.runId reason))
      | .ok outcome => t.settle r outcome := by
  unfold pollOnce
  congr 1
  funext x
  cases x with
  | error reason => rfl
  | ok outcome =>
    unfold settle outputFor
    by_cases hs : outcome.status = .running
    · simp only [hs, if_true, pure_bind]
    · simp only [hs, if_false, bind_assoc, pure_bind]

theorem performs_settle {outcome : WaitOutcome} {x : Except Failure RunRecord} :
    h.Performs (t.settle r outcome) log x h' ↔
      ∃ reading output merged, t.Reads r outcome.status reading output ∧
        h.Answers (.amend r.runId.text (news outcome output)) merged h' ∧
        x = .ok (merged.getD r) ∧
        log = reading ++ [⟨.amend r.runId.text (news outcome output), merged⟩] := by
  unfold settle
  rw [Host.performs_bind]
  constructor
  · rintro ⟨reading, output, h₁, log₂, hr, hm, rfl⟩
    obtain ⟨reads, rfl⟩ := performs_outputFor.1 hr
    obtain ⟨merged, ha, rfl⟩ := Host.performs_map.1 hm
    obtain ⟨rfl, answered⟩ := Host.performs_asking.1 ha
    exact ⟨reading, output, merged, reads, answered, rfl, rfl⟩
  · rintro ⟨reading, output, merged, reads, answered, rfl, rfl⟩
    exact ⟨reading, output, h, _, performs_outputFor.2 ⟨reads, rfl⟩,
      Host.performs_map.2 ⟨merged, Host.performs_asking.2 ⟨rfl, answered⟩, rfl⟩, rfl⟩

/-- A poll fails with its wait, or settles what the answer says. -/
theorem performs_pollOnce {windowMs : UInt64} {soft : Bool} {x : Except Failure RunRecord} :
    h.Performs (t.pollOnce r windowMs soft) log x h' ↔
      (∃ reason, log = [⟨.call (waitCall r.runId windowMs), .error reason⟩] ∧
        x = .error (waitFailure r.runId reason) ∧ h' = h) ∨
      ∃ raw rest, h.Performs (t.settle r (.ofAnswer soft raw)) rest x h' ∧
        log = ⟨.call (waitCall r.runId windowMs), .ok raw⟩ :: rest := by
  rw [pollOnce_eq, Host.performs_bind]
  constructor
  · rintro ⟨log₁, y, h₁, log₂, hw, hs, rfl⟩
    obtain ⟨reply, rfl, rfl, rfl⟩ := Remote.performs_wait.1 hw
    cases reply with
    | error reason =>
      obtain ⟨rfl, rfl, rfl⟩ := Host.performs_pure.1 hs
      exact .inl ⟨reason, rfl, rfl, rfl⟩
    | ok raw => exact .inr ⟨raw, log₂, hs, rfl⟩
  · rintro (⟨reason, rfl, rfl, rfl⟩ | ⟨raw, rest, hs, rfl⟩)
    · exact ⟨_, _, h', [], Remote.performs_wait.2 ⟨.error reason, rfl, rfl, rfl⟩,
        Host.performs_pure.2 ⟨rfl, rfl, rfl⟩, rfl⟩
    · exact ⟨_, _, h, rest, Remote.performs_wait.2 ⟨.ok raw, rfl, rfl, rfl⟩, hs, rfl⟩

/-- A status query finds nothing, or finds a run that is over, or polls. -/
theorem performs_reconcile {id : String} {x : Except Failure (Option RunRecord)} :
    h.Performs (t.reconcile id) log x h' ↔
      (h.ledger.get? id = none ∧ log = [⟨.find id, none⟩] ∧ x = .ok none ∧ h' = h) ∨
      ∃ r, h.ledger.get? id = some r ∧
        ((r.status.isTerminal = true ∧ log = [⟨.find id, some r⟩] ∧ x = .ok (some r) ∧ h' = h) ∨
          ∃ rest y, r.status.isTerminal = false ∧
            h.Performs (t.pollOnce r t.windowMs true) rest y h' ∧ x = y.map some ∧
            log = ⟨.find id, some r⟩ :: rest) := by
  unfold reconcile
  rw [Host.performs_bind]
  constructor
  · rintro ⟨log₁, found, h₁, log₂, hf, hn, rfl⟩
    obtain ⟨rfl, answered⟩ := Host.performs_asking.1 hf
    obtain ⟨rfl, rfl⟩ := Host.answers_find.1 answered
    cases hg : h₁.ledger.get? id with
    | none =>
      rw [hg] at hn
      obtain ⟨rfl, rfl, rfl⟩ := Host.performs_pure.1 hn
      exact .inl ⟨rfl, rfl, rfl, rfl⟩
    | some r =>
      rw [hg] at hn
      refine .inr ⟨r, rfl, ?_⟩
      cases ht : r.status.isTerminal with
      | true =>
        simp only [ht, if_true] at hn
        obtain ⟨rfl, rfl, rfl⟩ := Host.performs_pure.1 hn
        exact .inl ⟨rfl, rfl, rfl, rfl⟩
      | false =>
        simp only [ht, Bool.false_eq_true, if_false] at hn
        obtain ⟨y, hp, rfl⟩ := Host.performs_map.1 hn
        exact .inr ⟨log₂, y, rfl, hp, rfl, rfl⟩
  · have finds {found : Option RunRecord} (hg : h.ledger.get? id = found) :
        h.Performs (.find id) [⟨.find id, found⟩] found h :=
      Host.performs_asking.2 ⟨rfl, Host.answers_find.2 ⟨hg.symm, rfl⟩⟩
    rintro (⟨hg, rfl, rfl, rfl⟩ | ⟨r, hg, (⟨ht, rfl, rfl, rfl⟩ | ⟨rest, y, ht, hp, rfl, rfl⟩)⟩)
    · exact ⟨_, none, h', [], finds hg, Host.performs_pure.2 ⟨rfl, rfl, rfl⟩, rfl⟩
    · refine ⟨_, some r, h', [], finds hg, ?_, rfl⟩
      simp only [ht, if_true]
      exact Host.performs_pure.2 ⟨rfl, rfl, rfl⟩
    · refine ⟨_, some r, h, rest, finds hg, ?_, rfl⟩
      simp only [ht, Bool.false_eq_true, if_false]
      exact Host.performs_map.2 ⟨y, hp, rfl⟩

end Tracker

end Delegation
