import Mathlib.Data.List.Forall2
import Delegation.Proofs.Chronicle
import Delegation.Proofs.Frame

/-!
# Two runs side by side

Some laws compare two runs: of one procedure with collaborators that differ in something, or of two
procedures of which one asks a few questions more. A `Comparison` says what the two may differ in:
the names of invocations, always; the questions that either of them may ask on the side; and the
replies to invocations that come to the same. `Mirrors` follows two procedures in step, and
`Mirrors.sound` says what that is good for: if those who are asked the same after the same answer
the same (`Comparison.Agree`), then the runs correspond, and leave equal ledgers behind.
`Comparison.chronicles` says the same of any number of operations.
-/

namespace Delegation

namespace Question

/-- The question, by whatever name an invocation goes. -/
def unnamed : Question → Question
  | .invoke i => .invoke { i with callId := ⟨""⟩ }
  | q => q

/-- Is a question about the name of an invocation, or does it have one? -/
def isNamed : Question → Bool
  | .mint _ => true
  | .invoke _ => true
  | _ => false

theorem isMemory_unnamed (q : Question) : q.unnamed.isMemory = q.isMemory := by
  cases q <;> rfl

theorem eq_of_unnamed {q q' : Question} (same : q.unnamed = q'.unnamed)
    (plain : q.isNamed = false) : q = q' := by
  cases q with
  | mint | invoke => cases plain
  | _ => cases q' <;> first | exact same | cases same

end Question

/-- What two runs may differ in. -/
structure Comparison where
  /-- The questions to the memory that either run may ask on the side. -/
  aside : Question → Bool
  isMemory : ∀ q, aside q = true → q.isMemory = true
  /-- What the second run is answered on the side. -/
  expected : Exchange → Prop
  /-- Replies to an invocation that come to the same. -/
  replies : Reply Json → Reply Json → Prop
  unwrapped_eq : ∀ a b, replies a b → a.map Remote.unwrapped = b.map Remote.unwrapped

namespace Comparison

variable (c : Comparison)

/-- Exchanges that count as the same. -/
inductive Alike : Exchange → Exchange → Prop
  | mint (tool : Remote.Tool) (a b : CallId) : Alike ⟨.mint tool, a⟩ ⟨.mint tool, b⟩
  | invoke {i j : Remote.Invocation} (same : (Question.invoke i).unnamed = .unnamed (.invoke j))
    {a b : Reply Json} (replied : c.replies a b) : Alike ⟨.invoke i, a⟩ ⟨.invoke j, b⟩
  | plain {e : Exchange} (plain : e.question.isNamed = false) : Alike e e

/-- The exchanges that are not made on the side. -/
def dealings (log : List Exchange) : List Exchange := log.filter fun e => !c.aside e.question

/-- What was exchanged in two runs counts as the same. -/
def Matches (log₁ log₂ : List Exchange) : Prop :=
  List.Forall₂ c.Alike (c.dealings log₁) (c.dealings log₂)

/-- Whoever is asked the same, after the same was exchanged, answers the same. -/
def Agree (log₁ log₂ : List Exchange) : Prop :=
  ∀ before₁ e₁ after₁ before₂ e₂ after₂, log₁ = before₁ ++ e₁ :: after₁ →
    log₂ = before₂ ++ e₂ :: after₂ → c.Matches before₁ before₂ →
    e₁.question.isOutside = true → c.aside e₁.question = false →
    e₁.question.unnamed = e₂.question.unnamed → c.Alike e₁ e₂

/-- Two procedures that ask the same, as long as they are answered the same, and end with results
of which `R` holds. -/
inductive Mirrors {α β : Type} (R : α → β → Prop) : Procedure α → Procedure β → Prop
  | done {a : α} {b : β} (related : R a b) : Mirrors R (.done a) (.done b)
  | ask {q₁ q₂ : Question} {next₁ : q₁.Answer → Procedure α} {next₂ : q₂.Answer → Procedure β}
    (same : q₁.unnamed = q₂.unnamed) (dealt : c.aside q₁ = false)
    (rest : ∀ a₁ a₂, c.Alike ⟨q₁, a₁⟩ ⟨q₂, a₂⟩ → Mirrors R (next₁ a₁) (next₂ a₂)) :
    Mirrors R (.ask q₁ next₁) (.ask q₂ next₂)
  | first {q : Question} {next : q.Answer → Procedure α} {p : Procedure β}
    (aside : c.aside q = true) (rest : ∀ a, Mirrors R (next a) p) : Mirrors R (.ask q next) p
  | second {q : Question} {next : q.Answer → Procedure β} {p : Procedure α}
    (aside : c.aside q = true) (rest : ∀ a, c.expected ⟨q, a⟩ → Mirrors R p (next a)) :
    Mirrors R p (.ask q next)

/-- A procedure that only asks on the side, and ends with results of which `P` holds. -/
inductive OnTheSide {α : Type} (P : α → Prop) : Procedure α → Prop
  | done {a : α} (holds : P a) : OnTheSide P (.done a)
  | ask {q : Question} {next : q.Answer → Procedure α} (aside : c.aside q = true)
    (rest : ∀ a, OnTheSide P (next a)) : OnTheSide P (.ask q next)

variable {c}

/-! ## Exchanges -/

theorem Alike.eq {e₁ e₂ : Exchange} (alike : c.Alike e₁ e₂) (plain : e₁.question.isNamed = false) :
    e₁ = e₂ := by
  cases alike with
  | mint | invoke => cases plain
  | plain => rfl

theorem Alike.answer_eq {q : Question} {a b : q.Answer} (alike : c.Alike ⟨q, a⟩ ⟨q, b⟩)
    (plain : q.isNamed = false) : a = b :=
  eq_of_heq (Exchange.mk.inj (alike.eq plain)).2

theorem Alike.replied {i j : Remote.Invocation} {a b : Reply Json}
    (alike : c.Alike ⟨.invoke i, a⟩ ⟨.invoke j, b⟩) : c.replies a b := by
  cases alike with
  | invoke _ replied => exact replied
  | plain plain => cases plain

theorem Alike.unnamed_eq {e₁ e₂ : Exchange} (alike : c.Alike e₁ e₂) :
    e₁.question.unnamed = e₂.question.unnamed := by
  cases alike with
  | mint | plain => rfl
  | invoke same => exact same

/-- Only the memory is asked on the side. -/
theorem dealt_of_not_isMemory {q : Question} (hq : q.isMemory = false) : c.aside q = false := by
  cases ha : c.aside q with
  | false => rfl
  | true =>
    rw [c.isMemory q ha] at hq
    cases hq

theorem aside_congr {q₁ q₂ : Question} (same : q₁.unnamed = q₂.unnamed) :
    c.aside q₁ = c.aside q₂ := by
  by_cases named : q₁.isNamed = true
  · have first : q₁.isMemory = false := by
      cases q₁ <;> first | rfl | cases named
    have second : q₂.isMemory = false := by
      rw [← Question.isMemory_unnamed, ← same, Question.isMemory_unnamed, first]
    rw [dealt_of_not_isMemory first, dealt_of_not_isMemory second]
  · rw [Question.eq_of_unnamed same (by simpa using named)]

@[simp] theorem dealings_nil : c.dealings [] = [] := rfl

@[simp] theorem dealings_append (log₁ log₂ : List Exchange) :
    c.dealings (log₁ ++ log₂) = c.dealings log₁ ++ c.dealings log₂ :=
  List.filter_append log₁ log₂

theorem dealings_aside {q : Question} (aside : c.aside q = true) (a : q.Answer)
    (log : List Exchange) : c.dealings (⟨q, a⟩ :: log) = c.dealings log := by
  simp [dealings, aside]

theorem dealings_dealt {q : Question} (dealt : c.aside q = false) (a : q.Answer)
    (log : List Exchange) : c.dealings (⟨q, a⟩ :: log) = ⟨q, a⟩ :: c.dealings log := by
  simp [dealings, dealt]

/-- What agrees to the end agrees up to any moment. -/
theorem Agree.before {log₁ log₂ more₁ more₂ : List Exchange}
    (agree : c.Agree (log₁ ++ more₁) (log₂ ++ more₂)) : c.Agree log₁ log₂ := by
  intro before₁ e₁ after₁ before₂ e₂ after₂ split₁ split₂
  refine agree before₁ e₁ (after₁ ++ more₁) before₂ e₂ (after₂ ++ more₂) ?_ ?_
  · simp [split₁]
  · simp [split₂]

/-- Collaborators agree whose answers depend on what they are asked, and on nothing else. -/
theorem agree_of_forall {log₁ log₂ : List Exchange}
    (alike : ∀ e₁ ∈ log₁, ∀ e₂ ∈ log₂, e₁.question.isOutside = true →
      c.aside e₁.question = false → e₁.question.unnamed = e₂.question.unnamed → c.Alike e₁ e₂) :
    c.Agree log₁ log₂ := by
  rintro before₁ e₁ after₁ before₂ e₂ after₂ rfl rfl - outside dealt same
  exact alike e₁ (by simp) e₂ (by simp) outside dealt same

/-! ## Procedures -/

theorem OnTheSide.bind {α β : Type} {P : α → Prop} {Q : β → Prop} {p : Procedure α}
    {f : α → Procedure β} (first : c.OnTheSide P p) (rest : ∀ a, P a → c.OnTheSide Q (f a)) :
    c.OnTheSide Q (p >>= f) := by
  induction first with
  | done holds => exact rest _ holds
  | ask aside _ ih => exact .ask aside ih

namespace Mirrors

variable {α β γ δ : Type} {R : α → β → Prop} {S : γ → δ → Prop}

theorem pure {a : α} {b : β} (related : R a b) :
    c.Mirrors R (Pure.pure a : Procedure α) (Pure.pure b) := .done related

/-- Sequences are followed part by part. -/
theorem bind {p₁ : Procedure α} {p₂ : Procedure β} {f : α → Procedure γ} {g : β → Procedure δ}
    (mirrors : c.Mirrors R p₁ p₂) (rest : ∀ a b, R a b → c.Mirrors S (f a) (g b)) :
    c.Mirrors S (p₁ >>= f) (p₂ >>= g) := by
  induction mirrors with
  | done related => exact rest _ _ related
  | ask same dealt _ ih => exact .ask same dealt ih
  | first aside _ ih => exact .first aside ih
  | second aside _ ih => exact .second aside ih

theorem map {p₁ : Procedure α} {p₂ : Procedure β} {f : α → γ} {g : β → δ}
    (mirrors : c.Mirrors R p₁ p₂) (rest : ∀ a b, R a b → S (f a) (g b)) :
    c.Mirrors S (p₁ >>= fun a => Pure.pure (f a)) (p₂ >>= fun b => Pure.pure (g b)) :=
  mirrors.bind fun a b related => .done (rest a b related)

/-- Procedures that only ask on the side mirror one another. -/
theorem of_onTheSide {P : α → Prop} {Q : β → Prop} {p₁ : Procedure α} {p₂ : Procedure β}
    (first : c.OnTheSide P p₁) (second : c.OnTheSide Q p₂)
    (related : ∀ a b, P a → Q b → R a b) : c.Mirrors R p₁ p₂ := by
  induction first with
  | ask aside _ ih => exact .first aside ih
  | done ha =>
    induction second with
    | ask aside _ ih => exact .second aside fun a _ => ih a
    | done hb => exact .done (related _ _ ha hb)

/-- A single question that is not about a name is answered the same. -/
theorem asking {q : Question} (plain : q.isNamed = false) (dealt : c.aside q = false) :
    c.Mirrors Eq (.ask q .done) (.ask q .done) :=
  .ask rfl dealt fun _ _ alike => .done (alike.answer_eq plain)

end Mirrors

/-! ## Performances -/

theorem Matches.append {log₁ log₂ more₁ more₂ : List Exchange} (first : c.Matches log₁ log₂)
    (second : c.Matches more₁ more₂) : c.Matches (log₁ ++ more₁) (log₂ ++ more₂) := by
  simp only [Matches, dealings_append]
  exact List.rel_append first second

section

variable {h₁ h₂ g₁ g₂ : Host}

/-- The same question is answered the same by equal ledgers, and leaves equal ledgers behind. -/
theorem alike_of_answers {q₁ q₂ : Question} {a₁ : q₁.Answer} {a₂ : q₂.Answer}
    (same : q₁.unnamed = q₂.unnamed) (answered₁ : h₁.Answers q₁ a₁ g₁)
    (answered₂ : h₂.Answers q₂ a₂ g₂) (ledgers : h₁.ledger = h₂.ledger)
    (agree : q₁.isOutside = true → c.Alike ⟨q₁, a₁⟩ ⟨q₂, a₂⟩) :
    c.Alike ⟨q₁, a₁⟩ ⟨q₂, a₂⟩ ∧ g₁.ledger = g₂.ledger := by
  have kept (keeps : q₁.keepsLedger = true) (keeps' : q₂.keepsLedger = true) :
      g₁.ledger = g₂.ledger := by
    rw [answered₁.ledger_eq keeps, answered₂.ledger_eq keeps', ledgers]
  cases hq : q₁.isNamed with
  | false =>
    cases Question.eq_of_unnamed same hq
    cases q₁ with
    | mint | invoke => cases hq
    | find id =>
      obtain ⟨rfl, rfl⟩ := Host.answers_find.1 answered₁
      obtain ⟨rfl, rfl⟩ := Host.answers_find.1 answered₂
      rw [ledgers]
      exact ⟨.plain rfl, rfl⟩
    | enter report =>
      obtain ⟨rfl, rfl⟩ := Host.answers_enter.1 answered₁
      obtain ⟨rfl, rfl⟩ := Host.answers_enter.1 answered₂
      rw [ledgers]
      exact ⟨.plain rfl, rfl⟩
    | amend id news =>
      obtain ⟨rfl, rfl⟩ := Host.answers_amend.1 answered₁
      obtain ⟨rfl, rfl⟩ := Host.answers_amend.1 answered₂
      rw [ledgers]
      exact ⟨.plain rfl, rfl⟩
    | _ => exact ⟨agree rfl, kept rfl rfl⟩
  | true =>
    cases q₁ with
    | mint tool =>
      cases q₂ <;> cases same
      exact ⟨.mint tool a₁ a₂, kept rfl rfl⟩
    | invoke i =>
      have keeps : q₂.keepsLedger = true := by
        cases q₂ <;> first | rfl | cases same
      exact ⟨agree rfl, kept rfl keeps⟩
    | _ => cases hq

theorem mirrored {α β : Type} {R : α → β → Prop} {p₁ : Procedure α} {p₂ : Procedure β}
    (mirrors : c.Mirrors R p₁ p₂) {past₁ past₂ log₁ log₂ : List Exchange} {x₁ : α} {x₂ : β}
    (hp₁ : h₁.Performs p₁ log₁ x₁ g₁) (hp₂ : h₂.Performs p₂ log₂ x₂ g₂)
    (ledgers : h₁.ledger = h₂.ledger) (past : c.Matches past₁ past₂)
    (agree : c.Agree (past₁ ++ log₁) (past₂ ++ log₂))
    (expected : ∀ e ∈ log₂, c.aside e.question = true → c.expected e) :
    c.Matches log₁ log₂ ∧ R x₁ x₂ ∧ g₁.ledger = g₂.ledger := by
  induction mirrors generalizing h₁ h₂ past₁ past₂ log₁ log₂ with
  | done related =>
    obtain ⟨rfl, rfl, rfl⟩ := Host.performs_done.1 hp₁
    obtain ⟨rfl, rfl, rfl⟩ := Host.performs_done.1 hp₂
    exact ⟨.nil, related, ledgers⟩
  | @ask q₁ q₂ next₁ next₂ same dealt _ ih =>
    obtain ⟨a₁, k₁, rest₁, answered₁, hr₁, rfl⟩ := Host.performs_ask.1 hp₁
    obtain ⟨a₂, k₂, rest₂, answered₂, hr₂, rfl⟩ := Host.performs_ask.1 hp₂
    obtain ⟨alike, ledgers⟩ := alike_of_answers same answered₁ answered₂ ledgers fun outside =>
      agree past₁ ⟨q₁, a₁⟩ rest₁ past₂ ⟨q₂, a₂⟩ rest₂ rfl rfl past outside dealt same
    have dealt₂ : c.aside q₂ = false := aside_congr same ▸ dealt
    have now : c.Matches [⟨q₁, a₁⟩] [⟨q₂, a₂⟩] := by
      unfold Matches
      rw [dealings_dealt dealt, dealings_dealt dealt₂]
      exact .cons alike .nil
    obtain ⟨later, related, ledgers⟩ := ih a₁ a₂ alike hr₁ hr₂ ledgers (past.append now)
      (by simpa using agree) fun e he => expected e (.tail _ he)
    exact ⟨now.append later, related, ledgers⟩
  | @first q next p aside _ ih =>
    obtain ⟨a, k, rest, answered, hr, rfl⟩ := Host.performs_ask.1 hp₁
    have kept := answered.ledger_eq (Question.keepsLedger_of_isMemory (c.isMemory q aside))
    have past : c.Matches (past₁ ++ [⟨q, a⟩]) past₂ := by
      simpa [Matches, dealings_aside aside] using past
    have followed := ih a hr hp₂ (kept.trans ledgers) past (by simpa using agree) expected
    simpa [Matches, dealings_aside aside] using followed
  | @second q next p aside _ ih =>
    obtain ⟨a, k, rest, answered, hr, rfl⟩ := Host.performs_ask.1 hp₂
    have kept := answered.ledger_eq (Question.keepsLedger_of_isMemory (c.isMemory q aside))
    have past : c.Matches past₁ (past₂ ++ [⟨q, a⟩]) := by
      simpa [Matches, dealings_aside aside] using past
    have followed := ih a (expected _ (.head _) aside) hp₁ hr (ledgers.trans kept.symm) past
      (by simpa using agree) fun e he => expected e (.tail _ he)
    simpa [Matches, dealings_aside aside] using followed

end

end Comparison

/-! ## Any number of operations -/

namespace Episode

/-- What was wanted. -/
def request : Episode → Operation
  | .spawn o _ _ => .spawn o
  | .status q _ _ => .status q

/-- What was answered, as far as `view` shows it of a spawn. -/
def answer (view : SpawnResult → SpawnResult) :
    Episode → Envelope SpawnResult ⊕ Envelope StatusReport
  | .spawn _ _ e => .inl (e.map view)
  | .status _ _ e => .inr e

end Episode

/-- All that was exchanged, in order. -/
def exchanges (es : List Episode) : List Exchange := es.flatMap Episode.log

@[simp] theorem exchanges_append_singleton (es : List Episode) (e : Episode) :
    exchanges (es ++ [e]) = exchanges es ++ e.log := by
  simp [exchanges]

namespace Chronicle

variable {d : Dispatcher} {h₀ h : Host} {es : List Episode}

/-- Where nothing happened, nothing was written. -/
theorem ledger_of_nil (chronicle : Chronicle d h₀ [] h) : h.ledger = h₀.ledger := by
  generalize hes : ([] : List Episode) = es at chronicle
  induction chronicle with
  | start => rfl
  | next => simp at hes
  | pause ms _ ih => exact ih hes

/-- The last thing that happened, and all before it. -/
theorem last {e : Episode} (chronicle : Chronicle d h₀ (es ++ [e]) h) :
    ∃ g g', Chronicle d h₀ es g ∧ e.Happens d g g' ∧ h.ledger = g'.ledger := by
  generalize hes : es ++ [e] = es' at chronicle
  induction chronicle with
  | start => simp at hes
  | next before happens =>
    obtain ⟨rfl, rfl⟩ := List.append_inj' hes rfl |>.imp id (List.singleton_inj.1 ·)
    exact ⟨_, _, before, happens, rfl⟩
  | pause ms _ ih => exact ih hes

end Chronicle

namespace Comparison

variable {c : Comparison} {d₁ d₂ : Dispatcher} {view : SpawnResult → SpawnResult}

/-- Whatever is wanted of two dispatchers that mirror one another, they do and answer the same, and
keep equal ledgers. -/
theorem chronicles
    (spawns : ∀ o, c.Mirrors (fun e₁ e₂ => e₁.map view = e₂.map view) (d₁.spawn o) (d₂.spawn o))
    (queries : ∀ q, c.Mirrors Eq (d₁.status q) (d₂.status q)) {g₁ g₂ h₁ h₂ : Host}
    {es₁ es₂ : List Episode} (first : Chronicle d₁ g₁ es₁ h₁) (second : Chronicle d₂ g₂ es₂ h₂)
    (requests : es₁.map Episode.request = es₂.map Episode.request)
    (ledgers : g₁.ledger = g₂.ledger) (agree : c.Agree (exchanges es₁) (exchanges es₂))
    (expected : ∀ e ∈ exchanges es₂, c.aside e.question = true → c.expected e) :
    c.Matches (exchanges es₁) (exchanges es₂) ∧
      es₁.map (Episode.answer view) = es₂.map (Episode.answer view) ∧ h₁.ledger = h₂.ledger := by
  induction first generalizing es₂ h₂ with
  | start =>
    obtain rfl : es₂ = [] := by simpa using requests.symm
    exact ⟨.nil, rfl, ledgers.trans second.ledger_of_nil.symm⟩
  | pause ms _ ih => exact ih second requests agree expected
  | @next es₁ k₁ k₁' e₁ before happens ih =>
    have split : es₂.map Episode.request = es₁.map Episode.request ++ [e₁.request] := by
      simpa using requests.symm
    obtain ⟨es₂, tail, rfl, earlier, latest⟩ := List.map_eq_append_iff.1 split
    obtain ⟨e₂, rfl, same⟩ := List.map_eq_singleton_iff.1 latest
    obtain ⟨k₂, k₂', before₂, happens₂, ledger⟩ := second.last
    simp only [exchanges_append_singleton] at agree expected ⊢
    obtain ⟨past, answers, ledgers⟩ := ih before₂ earlier.symm agree.before
      fun e he => expected e (List.mem_append_left _ he)
    have here : ∀ e ∈ e₂.log, c.aside e.question = true → c.expected e :=
      fun e he => expected e (List.mem_append_right _ he)
    have both : c.Matches e₁.log e₂.log ∧ e₁.answer view = e₂.answer view ∧
        k₁'.ledger = k₂'.ledger := by
      cases e₁ with
      | spawn o log₁ env₁ =>
        cases e₂ with
        | status => cases same
        | spawn o' log₂ env₂ =>
          cases same
          obtain ⟨now, related, ledgers⟩ :=
            mirrored (spawns o) happens happens₂ ledgers past agree here
          exact ⟨now, congrArg Sum.inl related, ledgers⟩
      | status q log₁ env₁ =>
        cases e₂ with
        | spawn => cases same
        | status q' log₂ env₂ =>
          cases same
          obtain ⟨now, related, ledgers⟩ :=
            mirrored (queries q) happens happens₂ ledgers past agree here
          exact ⟨now, congrArg Sum.inr related, ledgers⟩
    obtain ⟨now, answered, ledgers⟩ := both
    refine ⟨past.append now, ?_, ledgers.trans ledger.symm⟩
    simp [answers, answered]

end Comparison

end Delegation
