import Delegation.Proofs.Delegating

/-!
# The verdict on an answer of the remote side

The remote side answers the invocation of a tool with any document at all, or it is not reached.
What becomes of that is decided by a few facts about the object in the answer: the word that its
status is (`Says`), and the texts that it has under some keys (`Holds`). `spawnJudged_spawnReply` is
the verdict on a spawn and `sendJudged_sendReply` the one on a message, for every reply.
-/

namespace Delegation

open Remote (Acceptance SendOutcome unwrapped)

namespace Text

theorem nonBlank?_eq_some_iff {s t : String} : nonBlank? s = some t ↔ t ≠ "" ∧ trim s = t := by
  unfold nonBlank?
  dsimp only
  constructor
  · intro ht
    split at ht
    · cases ht
    · rename_i solid
      cases ht
      exact ⟨solid, rfl⟩
  · rintro ⟨solid, rfl⟩
    exact if_neg solid

end Text

theorem Json.text?_eq_some_iff {v : Json} {s : String} : v.text? = some s ↔ v = .str s := by
  cases v <;> simp [Json.text?]

namespace Remote

/-! ## The object in an answer -/

/-- There is a text under the key, and this is what is left of it when it is trimmed: something. -/
def Holds (answer : Entries) (key text : String) : Prop :=
  text ≠ "" ∧ ∃ s, Json.find key answer = some (.str s) ∧ Text.trim s = text

/-- The status of an answer is this word, in letters of any case and with blanks around it. -/
def Says (answer : Entries) (word : String) : Prop :=
  ∃ s, Json.find "status" answer = some (.str s) ∧ Text.asciiLower (Text.trim s) = word

/-- An answer takes a run on: it says so, and it names the run and its session. -/
structure Accepts (answer : Entries) (a : Acceptance) : Prop where
  status : Says answer "accepted"
  runId : Holds answer "runId" a.runId.text
  childSessionKey : Holds answer "childSessionKey" a.childSessionKey.text
  warning : ∀ text, a.warning = some text ↔ Holds answer "warning" text

/-- An answer says that a message was delivered. -/
def Delivers (answer : Entries) : Prop :=
  Says answer "ok" ∨ Says answer "accepted" ∨ Says answer "timeout"

/-- The remote side was reached, and the object in its answer is such. -/
def Answered (reply : Reply Json) (such : Entries → Prop) : Prop :=
  ∃ raw, reply = .ok raw ∧ such (unwrapped raw)

variable {answer : Entries}

@[simp] theorem answered_ok {raw : Json} {such : Entries → Prop} :
    Answered (.ok raw) such ↔ such (unwrapped raw) := by
  constructor
  · rintro ⟨_, same, holds⟩
    cases same
    exact holds
  · intro holds
    exact ⟨raw, rfl, holds⟩

@[simp] theorem not_answered_error {reason : String} {such : Entries → Prop} :
    ¬ Answered (.error reason) such := nofun

theorem textField_eq_some_iff {key text : String} :
    textField answer key = some text ↔ Holds answer key text := by
  unfold textField Holds
  constructor
  · intro ht
    obtain ⟨s, hs, ht⟩ := Option.bind_eq_some_iff.1 ht
    obtain ⟨v, hv, hs⟩ := Option.bind_eq_some_iff.1 hs
    rw [Json.text?_eq_some_iff.1 hs] at hv
    obtain ⟨solid, trimmed⟩ := Text.nonBlank?_eq_some_iff.1 ht
    exact ⟨solid, s, hv, trimmed⟩
  · rintro ⟨solid, s, hv, trimmed⟩
    rw [hv]
    exact Text.nonBlank?_eq_some_iff.2 ⟨solid, trimmed⟩

theorem Says.unique {word word' : String} (said : Says answer word) (said' : Says answer word') :
    word = word' := by
  obtain ⟨s, hs, rfl⟩ := said
  obtain ⟨s', hs', rfl⟩ := said'
  cases hs.symm.trans hs'
  rfl

/-- The status word is what the answer says; an absent or a blank one says nothing. -/
theorem statusWord?_getD_eq_iff {word other : String} (solid : word ≠ "") (hd : other ≠ word) :
    (statusWord? answer).getD other = word ↔ Says answer word := by
  unfold statusWord?
  constructor
  · intro hw
    cases ht : textField answer "status" with
    | none =>
      rw [ht] at hw
      exact absurd hw hd
    | some text =>
      rw [ht] at hw
      obtain ⟨-, s, hs, rfl⟩ := textField_eq_some_iff.1 ht
      exact ⟨s, hs, hw⟩
  · rintro ⟨s, hs, rfl⟩
    have something : Text.trim s ≠ "" := by
      intro blank
      rw [blank] at solid
      exact solid rfl
    rw [textField_eq_some_iff.2 ⟨something, s, hs, rfl⟩]
    rfl

theorem Accepts.not_forbidden {a : Acceptance} (accepts : Accepts answer a) :
    ¬ Says answer "forbidden" := fun said =>
  absurd (accepts.status.unique said) (by decide)

theorem Delivers.not_forbidden (delivers : Delivers answer) : ¬ Says answer "forbidden" := by
  intro said
  rcases delivers with said' | said' | said' <;> exact absurd (said'.unique said) (by decide)

/-! ## The verdict on a spawn -/

/-- What an answer to a spawn comes to: each of the three verdicts in its case. -/
theorem ofAnswer_cases (answer : Entries) :
    (Says answer "forbidden" →
      ∃ reason, Acceptance.ofAnswer answer = .error (.spawnForbidden reason)) ∧
    (∀ a, Accepts answer a → Acceptance.ofAnswer answer = .ok a) ∧
    (¬ Says answer "forbidden" → (∀ a, ¬ Accepts answer a) →
      ∃ reason, Acceptance.ofAnswer answer = .error (.spawnRejected reason)) := by
  have forbidden : (statusWord? answer).getD "" = "forbidden" ↔ Says answer "forbidden" :=
    statusWord?_getD_eq_iff (by decide) (by decide)
  have accepted : (statusWord? answer).getD "" = "accepted" ↔ Says answer "accepted" :=
    statusWord?_getD_eq_iff (by decide) (by decide)
  unfold Acceptance.ofAnswer
  dsimp only
  refine ⟨fun said => ⟨_, if_pos (forbidden.2 said)⟩, fun a accepts => ?_, fun unsaid none => ?_⟩
  · have warning : textField answer "warning" = a.warning :=
      Option.ext fun text => textField_eq_some_iff.trans (accepts.warning text).symm
    rw [if_neg (mt forbidden.1 accepts.not_forbidden), textField_eq_some_iff.2 accepts.runId,
      textField_eq_some_iff.2 accepts.childSessionKey]
    dsimp only
    rw [if_pos (accepted.2 accepts.status), warning]
  · rw [if_neg (mt forbidden.1 unsaid)]
    split
    · rename_i runId key hr hk
      have unaccepted : ¬ Says answer "accepted" := fun said =>
        none ⟨⟨runId⟩, ⟨key⟩, textField answer "warning"⟩
          ⟨said, textField_eq_some_iff.1 hr, textField_eq_some_iff.1 hk,
            fun _ => textField_eq_some_iff⟩
      exact ⟨_, if_neg (mt accepted.1 unaccepted)⟩
    · exact ⟨_, rfl⟩

/-- The verdict on a spawn, by what the remote side replied. -/
structure SpawnJudged (reply : Reply Json) (x : Except Failure Acceptance) : Prop where
  accepted : ∀ a, x = .ok a ↔ Answered reply (Accepts · a)
  forbidden : (∃ reason, x = .error (.spawnForbidden reason)) ↔
    Answered reply (Says · "forbidden")
  unreached : ∀ reason, x = .error (.spawnTransport reason) ↔ reply = .error reason
  rejected : (∃ reason, x = .error (.spawnRejected reason)) ↔
    Answered reply fun answer => ¬ Says answer "forbidden" ∧ ∀ a, ¬ Accepts answer a

theorem spawnJudged_spawnReply (reply : Reply Json) : SpawnJudged reply (spawnReply reply) := by
  cases reply with
  | error reason => constructor <;> simp [spawnReply, eq_comm]
  | ok raw =>
    obtain ⟨onForbidden, onAccepted, onNeither⟩ := ofAnswer_cases (unwrapped raw)
    have judged : spawnReply (.ok raw) = Acceptance.ofAnswer (unwrapped raw) := rfl
    by_cases said : Says (unwrapped raw) "forbidden"
    · obtain ⟨reason, forbidden⟩ := onForbidden said
      have unaccepted (a : Acceptance) : ¬ Accepts (unwrapped raw) a := fun accepts =>
        accepts.not_forbidden said
      rw [judged, forbidden]
      constructor <;> simp [said, unaccepted]
    · by_cases taken : ∃ a, Accepts (unwrapped raw) a
      · have ⟨a, accepts⟩ := taken
        have only (a' : Acceptance) : a = a' ↔ Accepts (unwrapped raw) a' := by
          constructor
          · rintro rfl
            exact accepts
          · intro accepts'
            exact Except.ok.inj ((onAccepted a accepts).symm.trans (onAccepted a' accepts'))
        rw [judged, onAccepted a accepts]
        constructor <;> simp [said, taken, only]
      · obtain ⟨reason, rejected⟩ := onNeither said (not_exists.1 taken)
        rw [judged, rejected]
        constructor <;> simp [said, not_exists.1 taken]

/-- The code of a refusal: a spawn was forbidden, or it failed. -/
theorem SpawnJudged.code_eq {reply : Reply Json} {f : Failure}
    (judged : SpawnJudged reply (.error f)) :
    (Answered reply (Says · "forbidden") → f.code = .spawnForbidden) ∧
      (¬ Answered reply (Says · "forbidden") → f.code = .spawnFailed) := by
  refine ⟨fun said => ?_, fun unsaid => ?_⟩
  · obtain ⟨reason, same⟩ := judged.forbidden.2 said
    cases same
    rfl
  · cases reply with
    | error reason =>
      cases (judged.unreached reason).2 rfl
      rfl
    | ok raw =>
      have unaccepted (a : Acceptance) : ¬ Accepts (unwrapped raw) a := fun accepts =>
        nomatch (judged.accepted a).2 ⟨raw, rfl, accepts⟩
      obtain ⟨reason, same⟩ :=
        judged.rejected.2 ⟨raw, rfl, fun said => unsaid ⟨raw, rfl, said⟩, unaccepted⟩
      cases same
      rfl

/-! ## The verdict on a message -/

/-- The verdict on a message, by what the remote side replied. There is an outcome in every case. -/
structure SendJudged (reply : Reply Json) (outcome : SendOutcome) : Prop where
  attempted : outcome.attempted = true
  delivered : outcome.verdict = some .delivered ↔ Answered reply Delivers
  forbidden : outcome.verdict = some .forbidden ↔ Answered reply (Says · "forbidden")
  unreachable : outcome.verdict = some .unreachable ↔ ∃ reason, reply = .error reason
  rejected : outcome.verdict = some .rejected ↔
    Answered reply fun answer => ¬ Delivers answer ∧ ¬ Says answer "forbidden"
  replied : ∀ text, outcome.reply = some text ↔ Answered reply (Holds · "reply" text)

theorem verdict_cases (answer : Entries) :
    (Delivers answer → (SendOutcome.ofAnswer answer).verdict = some .delivered) ∧
    (Says answer "forbidden" → (SendOutcome.ofAnswer answer).verdict = some .forbidden) ∧
    (¬ Delivers answer → ¬ Says answer "forbidden" →
      (SendOutcome.ofAnswer answer).verdict = some .rejected) := by
  have read (word : String) (solid : word ≠ "") (hd : "unknown" ≠ word) :
      (statusWord? answer).getD "unknown" = word ↔ Says answer word :=
    statusWord?_getD_eq_iff solid hd
  have delivered : ((statusWord? answer).getD "unknown" = "ok" ∨
      (statusWord? answer).getD "unknown" = "accepted" ∨
      (statusWord? answer).getD "unknown" = "timeout") ↔ Delivers answer :=
    or_congr (read "ok" (by decide) (by decide))
      (or_congr (read "accepted" (by decide) (by decide))
        (read "timeout" (by decide) (by decide)))
  have forbidden := read "forbidden" (by decide) (by decide)
  unfold SendOutcome.ofAnswer Verdict.ofStatus
  dsimp only
  refine ⟨fun delivers => ?_, fun said => ?_, fun undelivered unsaid => ?_⟩
  · rw [if_pos (delivered.2 delivers)]
  · rw [if_neg fun sent => (delivered.1 sent).not_forbidden said, if_pos (forbidden.2 said)]
  · rw [if_neg (mt delivered.1 undelivered), if_neg (mt forbidden.1 unsaid)]

theorem sendJudged_sendReply (reply : Reply Json) : SendJudged reply (sendReply reply) := by
  cases reply with
  | error reason => constructor <;> simp [sendReply, SendOutcome.unreachable]
  | ok raw =>
    obtain ⟨onDelivered, onForbidden, onNeither⟩ := verdict_cases (unwrapped raw)
    have judged : sendReply (.ok raw) = .ofAnswer (unwrapped raw) := rfl
    have replied (text : String) : (SendOutcome.ofAnswer (unwrapped raw)).reply = some text ↔
        Answered (.ok raw) (Holds · "reply" text) := by
      rw [answered_ok]
      exact textField_eq_some_iff
    rw [judged]
    by_cases delivers : Delivers (unwrapped raw)
    · refine ⟨rfl, ?_, ?_, ?_, ?_, replied⟩ <;>
        simp [onDelivered delivers, delivers, delivers.not_forbidden]
    · by_cases said : Says (unwrapped raw) "forbidden"
      · refine ⟨rfl, ?_, ?_, ?_, ?_, replied⟩ <;> simp [onForbidden said, delivers, said]
      · refine ⟨rfl, ?_, ?_, ?_, ?_, replied⟩ <;> simp [onNeither delivers said, delivers, said]

namespace SendOutcome

variable {outcome : SendOutcome}

theorem failure?_of_delivered (delivered : outcome.verdict = some .delivered) :
    outcome.failure? = none := by
  unfold failure?
  rw [delivered]

/-- A message that was not delivered was forbidden, or it failed. -/
theorem exists_failure? (undelivered : outcome.verdict ≠ some .delivered) :
    ∃ f, outcome.failure? = some f ∧
      f.code = if outcome.verdict = some .forbidden then .sendForbidden else .sendFailed := by
  unfold failure?
  dsimp only
  split
  · rename_i delivered
    exact absurd delivered undelivered
  all_goals exact ⟨_, rfl, by simp [*, Failure.code]⟩

end SendOutcome

end Remote

end Delegation
