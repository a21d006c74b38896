import Delegation.Proofs.Polling

/-!
# What is asked next

What a procedure asks depends on the answers that it got, and on nothing else: `Procedure.Asks`
says which question comes after some exchanges, and `Procedure.Ends` with which result they end.
Neither mentions a host, so both also hold of a procedure whose host serves others in between.
`Procedure.AsksOnly` says what all the questions have in common. The polls of the tracker are
followed in this way: `asks_pollOnce` says that a poll writes once, at its end, and what it writes.
-/

namespace Delegation

open Remote (WaitOutcome waitCall historyCall latestReply?)

namespace Procedure

variable {α β : Type} {log : List Exchange}

/-- After some exchanges, a procedure asks a question. -/
inductive Asks : Procedure α → List Exchange → Question → Prop
  | now {q : Question} {next : q.Answer → Procedure α} : Asks (.ask q next) [] q
  | later {q : Question} {next : q.Answer → Procedure α} {a : q.Answer} {log : List Exchange}
      {q' : Question} (rest : Asks (next a) log q') : Asks (.ask q next) (⟨q, a⟩ :: log) q'

/-- After some exchanges, a procedure is done. -/
inductive Ends : Procedure α → List Exchange → α → Prop
  | done (x : α) : Ends (.done x) [] x
  | later {q : Question} {next : q.Answer → Procedure α} {a : q.Answer} {log : List Exchange}
      {x : α} (rest : Ends (next a) log x) : Ends (.ask q next) (⟨q, a⟩ :: log) x

theorem ends_pure {x y : α} (he : Ends (pure x) log y) : log = [] ∧ y = x := by
  cases (show Ends (.done x) log y from he)
  exact ⟨rfl, rfl⟩

theorem not_asks_pure {x : α} {q : Question} : ¬ Asks (pure x) log q := by
  intro ha
  cases (show Asks (.done x) log q from ha)

theorem ends_asking {q : Question} {a : q.Answer} (he : Ends (.ask q .done) log a) :
    log = [⟨q, a⟩] := by
  cases he with
  | later rest =>
    cases rest
    rfl

theorem asks_asking {q q' : Question} (ha : Asks (.ask q .done) log q') : log = [] ∧ q' = q := by
  cases ha with
  | now => exact ⟨rfl, rfl⟩
  | later rest => cases rest

theorem ends_bind {p : Procedure α} {f : α → Procedure β} {y : β} (he : Ends (p >>= f) log y) :
    ∃ log₁ x log₂, p.Ends log₁ x ∧ (f x).Ends log₂ y ∧ log = log₁ ++ log₂ := by
  replace he : Ends (p.bind f) log y := he
  induction p generalizing log with
  | done x => exact ⟨[], x, log, .done x, he, rfl⟩
  | ask q next ih =>
    cases he with
    | later rest =>
      obtain ⟨log₁, x, log₂, hp, hf, rfl⟩ := ih _ rest
      exact ⟨_, x, log₂, .later hp, hf, rfl⟩

/-- In a sequence the first part asks, or it is done and the second one does. -/
theorem asks_bind {p : Procedure α} {f : α → Procedure β} {q : Question}
    (ha : Asks (p >>= f) log q) :
    p.Asks log q ∨
      ∃ log₁ x log₂, p.Ends log₁ x ∧ (f x).Asks log₂ q ∧ log = log₁ ++ log₂ := by
  replace ha : Asks (p.bind f) log q := ha
  induction p generalizing log with
  | done x => exact .inr ⟨[], x, log, .done x, ha, rfl⟩
  | ask q₁ next ih =>
    cases ha with
    | now => exact .inl .now
    | later rest =>
      rcases ih _ rest with first | ⟨log₁, x, log₂, hp, hf, rfl⟩
      · exact .inl (.later first)
      · exact .inr ⟨_, x, log₂, .later hp, hf, rfl⟩

theorem asks_map {p : Procedure α} {f : α → β} {q : Question}
    (ha : Asks (p >>= fun x => pure (f x)) log q) : p.Asks log q := by
  rcases asks_bind ha with first | ⟨_, _, _, _, second, _⟩
  · exact first
  · exact absurd second not_asks_pure

theorem ends_map {p : Procedure α} {f : α → β} {y : β}
    (he : Ends (p >>= fun x => pure (f x)) log y) : ∃ x, p.Ends log x ∧ y = f x := by
  obtain ⟨log₁, x, log₂, hp, hf, rfl⟩ := ends_bind he
  obtain ⟨rfl, rfl⟩ := ends_pure hf
  exact ⟨x, by rwa [List.append_nil], rfl⟩

/-! ## What is asked at all -/

variable {such : Question → Prop}

/-- A procedure asks no other questions, whatever it is answered. -/
def AsksOnly (such : Question → Prop) (p : Procedure α) : Prop := ∀ log q, p.Asks log q → such q

theorem asksOnly_pure (x : α) : AsksOnly such (pure x) := fun _ _ asked =>
  absurd asked not_asks_pure

theorem asksOnly_asking {q : Question} (hq : such q) : AsksOnly such (.ask q .done) := by
  intro log q' asked
  rw [(asks_asking asked).2]
  exact hq

theorem AsksOnly.bind {p : Procedure α} {f : α → Procedure β} (first : p.AsksOnly such)
    (second : ∀ x, (f x).AsksOnly such) : (p >>= f).AsksOnly such := by
  intro log q asked
  rcases asks_bind asked with asked | ⟨log₁, x, log₂, -, asked, -⟩
  · exact first _ _ asked
  · exact second x _ _ asked

theorem AsksOnly.map {p : Procedure α} (first : p.AsksOnly such) (f : α → β) :
    (p >>= fun x => pure (f x)).AsksOnly such :=
  first.bind fun x => asksOnly_pure (f x)

/-- A question that is performed was asked after what was exchanged before it. -/
theorem asks_of_performs {p : Procedure α} {h h' : Host} {before after : List Exchange}
    {e : Exchange} {x : α} (performs : h.Performs p (before ++ e :: after) x h') :
    p.Asks before e.question := by
  generalize split : before ++ e :: after = log at performs
  -- the performance asks the question first, or the rest of it does
  induction performs generalizing before with
  | done => simp at split
  | ask answered rest ih =>
    cases before with
    | nil =>
      cases split
      exact .now
    | cons e' before =>
      cases split
      exact .later (ih rfl)

end Procedure

open Procedure (Asks Ends asks_map ends_map)

/-! ## What a poll asks -/

namespace Tracker

variable {t : Tracker} {r : RunRecord} {log : List Exchange}

theorem ends_wait {id : RunId} {windowMs : UInt64} {soft : Bool} {x : Reply WaitOutcome}
    (he : (Remote.wait id windowMs soft).Ends log x) :
    ∃ reply : Reply Json, log = [⟨.call (waitCall id windowMs), reply⟩] ∧
      x = reply.map (.ofAnswer soft) := by
  obtain ⟨reply, called, rfl⟩ := ends_map he
  exact ⟨reply, Procedure.ends_asking called, rfl⟩

theorem ends_outputFor {s : Status} {output : Option String}
    (he : (t.outputFor r s).Ends log output) : t.Reads r s log output := by
  unfold outputFor at he
  by_cases hs : s = .running
  · subst hs
    rw [if_pos rfl] at he
    obtain ⟨rfl, rfl⟩ := Procedure.ends_pure he
    exact .unfinished
  · rw [if_neg hs] at he
    obtain ⟨found, filled, rfl⟩ := ends_map he
    unfold backfill at filled
    cases hu : r.usableOutput? with
    | some prior =>
      rw [hu] at filled
      obtain ⟨rfl, rfl⟩ := Procedure.ends_pure filled
      exact .kept hs hu
    | none =>
      cases hk : r.childSessionKey with
      | none =>
        rw [hu, hk] at filled
        obtain ⟨rfl, rfl⟩ := Procedure.ends_pure filled
        exact .sessionless hs hu hk
      | some session =>
        rw [hu, hk] at filled
        obtain ⟨answer, read, rfl⟩ := ends_map filled
        obtain ⟨reply, called, rfl⟩ := ends_map read
        rw [Procedure.ends_asking called, output?_backfillOf]
        exact .history reply hs hu hk

/-- To find the output that goes with an answer, nothing is asked for but a history. -/
theorem asksOnly_outputFor {such : Question → Prop} (s : Status)
    (looks : ∀ session, such (.call (historyCall session t.historyLimit t.historyTimeoutMs))) :
    (t.outputFor r s).AsksOnly such := by
  unfold outputFor
  split
  · exact Procedure.asksOnly_pure _
  · refine Procedure.AsksOnly.map ?_ _
    unfold backfill
    split
    · exact Procedure.asksOnly_pure _
    · exact Procedure.asksOnly_pure _
    · exact ((Procedure.asksOnly_asking (looks _)).map _).map _

/-- A poll writes once, at its end, and what it writes is what its own wait was answered. -/
theorem asks_pollOnce {windowMs : UInt64} {q : Question}
    (ha : (t.pollOnce r windowMs true).Asks log q) :
    q.keepsLedger = true ∨ ∃ raw reading output,
      t.Reads r (WaitOutcome.ofAnswer true raw).status reading output ∧
        log = ⟨.call (waitCall r.runId windowMs), .ok raw⟩ :: reading ∧
        q = .amend r.runId.text (news (.ofAnswer true raw) output) := by
  rw [pollOnce_eq] at ha
  rcases Procedure.asks_bind ha with first | ⟨log₁, x, log₂, he, hs, rfl⟩
  · rw [(Procedure.asks_asking (asks_map first)).2]
    exact .inl rfl
  · obtain ⟨reply, rfl, rfl⟩ := ends_wait he
    cases reply with
    | error reason => exact absurd hs Procedure.not_asks_pure
    | ok raw =>
      rcases Procedure.asks_bind hs with reads | ⟨reading, output, log₃, hr, hm, rfl⟩
      · have keeps (s : Status) : (t.outputFor r s).AsksOnly fun q => q.keepsLedger = true :=
          asksOnly_outputFor s fun _ => rfl
        exact .inl (keeps _ _ _ reads)
      · obtain ⟨rfl, rfl⟩ := Procedure.asks_asking (asks_map hm)
        exact .inr ⟨raw, reading, output, ends_outputFor hr, by rw [List.append_nil]; rfl, rfl⟩

end Tracker

end Delegation
