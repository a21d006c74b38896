import Mathlib.Data.Rat.Floor
import Delegation.Proofs.Merging
import Delegation.Proofs.Nearest

/-!
# Timestamps and durations of a wait

The answer to a wait may give two timestamps, each as any number of a document. A timestamp is that
number without its fraction, or the end of the signed words that is next to it, and it is the same
if a number beyond the signed words is taken for the double nearest to it (`stands_of_takenFor`).
The duration is what lies between the two, not below zero and not beyond a word. `wait_normalized`
adds that merging an answer into a record never leaves a duration beside timestamps that give
another.
-/

namespace Delegation

namespace Number

/-! ## Numbers without their fraction -/

/-- The whole part of a number. -/
def towardZero (x : ℚ) : Int := if 0 ≤ x then ⌊x⌋ else ⌈x⌉

theorem towardZero_intCast (i : Int) : towardZero i = i := by
  unfold towardZero
  split
  · exact Int.floor_intCast i
  · exact Int.ceil_intCast i

theorem towardZero_neg (x : ℚ) : towardZero (-x) = -towardZero x := by
  unfold towardZero
  rcases lt_trichotomy x 0 with below | rfl | above
  · rw [if_pos (by linarith), if_neg (by linarith), Int.floor_neg]
  · simp
  · rw [if_neg (by linarith), if_pos above.le, Int.ceil_neg]

theorem le_towardZero {k : Int} {x : ℚ} (pos : 0 ≤ k) (below : (k : ℚ) ≤ x) : k ≤ towardZero x := by
  have pos : (0 : ℚ) ≤ k := by exact_mod_cast pos
  unfold towardZero
  rw [if_pos (by linarith)]
  exact Int.le_floor.2 below

theorem Quotes.towardZero_eq {q : Nat × Nat} {x : ℚ} (quotes : Quotes q x) :
    towardZero x = (q.1 / q.2 : Nat) := by
  obtain ⟨-, rfl⟩ := quotes
  unfold towardZero
  rw [if_pos (by positivity), Rat.floor_natCast_div_natCast]
  rfl

/-- From `2 ^ 63` on, the double nearest to a whole number is not below that either. -/
theorem two_pow_le_value {n m : Nat} {e : Int} (large : 2 ^ 63 ≤ n)
    (rounded : binary64.round n 1 = some (m, e)) : 2 ^ 63 ≤ value m e := by
  have pos : n ≠ 0 := by omega
  obtain ⟨m', e', rounds, eq⟩ := binary64.round_cases (by decide) pos one_ne_zero
  rw [rounded] at eq
  split at eq
  · cases eq
  · cases eq
    have has : binary64.Has (2 ^ 63) := ⟨1, 63, by decide, by decide, by norm_num [value]⟩
    have large : ((2 ^ 63 : Nat) : ℚ) ≤ n := by exact_mod_cast large
    refine rounds.ge_of_ge has ?_
    rw [Nat.cast_one, div_one]
    exact_mod_cast large

namespace Double

/-- The number that a double is. -/
def amount (d : Double) : ℚ :=
  if d.negative then -value d.significand d.exponent else value d.significand d.exponent

theorem truncated_eq (d : Double) : d.truncated = towardZero d.amount := by
  have whole := (quotes_quotient d.significand d.exponent).towardZero_eq
  unfold truncated amount magnitude
  cases d.negative with
  | false => exact whole.symm
  | true => exact (congrArg Neg.neg whole).symm.trans (towardZero_neg _).symm

end Double

end Number

open Number (Double towardZero)

namespace Numeral

def amount : Numeral → ℚ
  | .int i => i
  | .real d => d.amount

def truncated : Numeral → Int
  | .int i => i
  | .real d => d.truncated

theorem truncated_eq (n : Numeral) : n.truncated = towardZero n.amount := by
  cases n with
  | int i => exact (Number.towardZero_intCast i).symm
  | real d => exact d.truncated_eq

/-- The double nearest to a number; none if the number is beyond the doubles. -/
def nearest? : Numeral → Option Double
  | .int i => Double.ofQuotient (decide (i < 0)) i.natAbs 1
  | .real d => some d

/-- What a number may be taken for: for itself, or for the double nearest to it if it is no signed
word. -/
inductive TakenFor : Numeral → ℚ → Prop
  | itself (n : Numeral) : TakenFor n n.amount
  | double {n : Numeral} {d : Double} (wide : n.int64? = none) (nearest : n.nearest? = some d) :
    TakenFor n d.amount

end Numeral

/-! ## Timestamps -/

/-- A signed word stands for a number: it is the number without its fraction, or the end of the
signed words that is next to it. -/
def Stands (ms : Int64) (x : ℚ) : Prop :=
  ms.toInt = max int64Min (min int64Max (towardZero x))

/-- A duration spans what lies between two timestamps: nothing if the second is not the later one,
and the greatest word if it is more than that. -/
def Spans (start finish ms : Int64) : Prop :=
  ms.toInt = min int64Max (max 0 (finish.toInt - start.toInt))

/-- It does not matter what the number is taken for. -/
theorem stands_of_takenFor {n : Numeral} {x : ℚ} (taken : n.TakenFor x) :
    Stands (saturate64 n.truncated) x := by
  unfold Stands
  rw [toInt_saturate64]
  cases taken with
  | itself => rw [n.truncated_eq]
  | @double d wide nearest =>
    cases n with
    | real d =>
      cases nearest
      rw [← d.truncated_eq]
      rfl
    | int i =>
      obtain ⟨⟨m, e⟩, rounded, rfl⟩ := Option.map_eq_some_iff.1 nearest
      have beyond : ¬ (int64Min ≤ i ∧ i ≤ int64Max) := by
        intro fits
        rw [Numeral.int64?, if_pos fits] at wide
        cases wide
      unfold int64Min int64Max at beyond ⊢
      have large := Number.le_towardZero (k := 2 ^ 63) (by decide)
        (by exact_mod_cast Number.two_pow_le_value (by omega) rounded)
      -- both are beyond the same end of the words
      show max _ (min _ i) = _
      unfold Double.amount
      by_cases below : i < 0
      · simp only [below, decide_true, if_true, Number.towardZero_neg]
        omega
      · simp only [below, decide_false, Bool.false_eq_true, if_false]
        omega

theorem spans_of_elapsed? {start finish ms : Int64}
    (derived : elapsed? (some start) (some finish) = some ms) : Spans start finish ms := by
  cases derived
  unfold Spans
  rw [toInt_saturate64]
  unfold int64Min int64Max
  omega

theorem exists_spans (start finish : Int64) :
    ∃ ms, elapsed? (some start) (some finish) = some ms ∧ Spans start finish ms :=
  ⟨_, rfl, spans_of_elapsed? rfl⟩

/-! ## The outcome of a wait -/

namespace Remote

/-- What is read of a value: if it is a number, the timestamp that stands for it, else nothing. -/
structure ReadAs (v : Option Json) (ms : Option Int64) : Prop where
  number : ∀ n, v = some (.num n) → ∃ t, ms = some t ∧ ∀ x, n.TakenFor x → Stands t x
  other : (∀ n, v ≠ some (.num n)) → ms = none

theorem readAs_millisField (entries : Entries) (key : String) :
    ReadAs (Json.find key entries) (millisField entries key) := by
  unfold millisField
  constructor
  · intro n found
    rw [found]
    refine ⟨saturate64 n.truncated, ?_, fun x taken => stands_of_takenFor taken⟩
    cases n <;> rfl
  · intro unnumbered
    split
    · rename_i found
      exact absurd found (unnumbered _)
    · rename_i found
      exact absurd found (unnumbered _)
    · rfl

theorem find_fields (raw : Json) (key : String) :
    Json.find key (raw.entries?.getD []) = raw.get? key := by
  unfold Json.get?
  cases raw.entries? <;> rfl

/-- What an outcome says about the time, by the answer. -/
structure Normalized (raw : Json) (outcome : WaitOutcome) : Prop where
  startedAt : ReadAs (raw.get? "startedAt") outcome.startedAt
  endedAt : ReadAs (raw.get? "endedAt") outcome.endedAt
  measured : (∃ ms, outcome.durationMs = some ms) ↔
    (∃ s, outcome.startedAt = some s) ∧ ∃ f, outcome.endedAt = some f
  spans : ∀ s f ms, outcome.startedAt = some s → outcome.endedAt = some f →
    outcome.durationMs = some ms → Spans s f ms ∧ 0 ≤ ms.toInt

theorem normalized_ofAnswer (soft : Bool) (raw : Json) : Normalized raw (.ofAnswer soft raw) := by
  constructor
  · rw [← find_fields]
    exact readAs_millisField _ _
  · rw [← find_fields]
    exact readAs_millisField _ _
  · show (∃ ms, elapsed? (millisField _ _) (millisField _ _) = some ms) ↔ _
    simp only [WaitOutcome.ofAnswer, ← Option.isSome_iff_exists, ← Option.ne_none_iff_isSome]
    rw [Ne, elapsed?_eq_none_iff, not_or]
  · intro s f ms started ended derived
    have derived : elapsed? (WaitOutcome.ofAnswer soft raw).startedAt
        (WaitOutcome.ofAnswer soft raw).endedAt = some ms := derived
    rw [started, ended] at derived
    exact ⟨spans_of_elapsed? derived, toInt_elapsed?_nonneg derived⟩

/-! ## Merged outcomes -/

/-- A record with an outcome merged in: each timestamp is that of the outcome, or else the older
one, and if there are both, the duration is what lies between them. -/
structure Merged (outcome : WaitOutcome) (r r' : RunRecord) : Prop where
  startedAt : r'.startedAt = outcome.startedAt.or r.startedAt
  endedAt : r'.endedAt = outcome.endedAt.or r.endedAt
  spans : ∀ s f, r'.startedAt = some s → r'.endedAt = some f →
    ∃ ms, r'.durationMs = some ms ∧ Spans s f ms

/-- The duration of a record after a poll goes with its timestamps, wherever these came from. -/
theorem durationMs_polled (soft : Bool) (raw : Json) (r : RunRecord) (output : Option String) :
    (Tracker.polled r (.ofAnswer soft raw) output).durationMs =
      (elapsed? (Tracker.polled r (.ofAnswer soft raw) output).startedAt
        (Tracker.polled r (.ofAnswer soft raw) output).endedAt).or r.durationMs :=
  elapsed?_settled _ _ _ _ _

theorem merged_polled (soft : Bool) (raw : Json) (r : RunRecord) (output : Option String) :
    Merged (.ofAnswer soft raw) r (Tracker.polled r (.ofAnswer soft raw) output) := by
  refine ⟨rfl, rfl, fun s f started ended => ?_⟩
  obtain ⟨ms, derived, spans⟩ := exists_spans s f
  refine ⟨ms, ?_, spans⟩
  rw [durationMs_polled, started, ended, derived]
  rfl

/-- What is merged into the ledger after an answer, whatever output was found with it. -/
theorem merged_patch (soft : Bool) (raw : Json) {l : Ledger} {id : String} {r : RunRecord}
    (stored : l.get? id = some r) (output : Option String) :
    ∃ r', (l.patch id (Tracker.news (.ofAnswer soft raw) output)).1 = some r' ∧
      (l.patch id (Tracker.news (.ofAnswer soft raw) output)).2.get? id = some r' ∧
      Merged (.ofAnswer soft raw) r r' := by
  refine ⟨_, ?_, Ledger.get?_patch _ stored, ?_⟩
  · rw [Ledger.patch_of_get? _ stored]
  · rw [Tracker.amended_news]
    exact merged_polled soft raw r output

/-- A poll merges the outcome of its wait into the record that the ledger has by then. -/
theorem merged_of_performs {t : Tracker} {h h' : Host} {r r₀ : RunRecord} {windowMs : UInt64}
    {soft : Bool} {raw : Json} {rest : List Exchange} {x : Except Failure RunRecord}
    (polls : h.Performs (t.pollOnce r windowMs soft)
      (⟨.call (waitCall r.runId windowMs), .ok raw⟩ :: rest) x h')
    (stored : h.ledger.get? r.runId.text = some r₀) :
    ∃ r', x = .ok r' ∧ h'.ledger.get? r.runId.text = some r' ∧
      Merged (.ofAnswer soft raw) r₀ r' := by
  rcases Tracker.performs_pollOnce.1 polls with ⟨reason, failed, -⟩ | ⟨raw', rest', settles, same⟩
  · cases failed
  · cases same
    obtain ⟨reading, output, merged, -, answered, rfl, -⟩ := Tracker.performs_settle.1 settles
    obtain ⟨rfl, rfl⟩ := Host.answers_amend.1 answered
    obtain ⟨r', found, kept, sound⟩ := merged_patch soft raw stored output
    exact ⟨r', by rw [found, Option.getD_some], kept, sound⟩

/-- Whatever document answers a wait, its timestamps are read as signed words, and the duration is
there if both of them are; merged into any record, in the ledger or by a poll, the outcome leaves
the duration that the merged timestamps give. -/
theorem wait_normalized (soft : Bool) (raw : Json) :
    Normalized raw (.ofAnswer soft raw) ∧
    (∀ (h : Host) (id : RunId) (windowMs : UInt64) (x : Reply WaitOutcome) (h' : Host),
      h.Performs (wait id windowMs soft) [⟨.call (waitCall id windowMs), .ok raw⟩] x h' ↔
        x = .ok (.ofAnswer soft raw) ∧ h' = h) ∧
    (∀ (l : Ledger) (id : String) (r : RunRecord) (output : Option String), l.get? id = some r →
      ∃ r', (l.patch id (Tracker.news (.ofAnswer soft raw) output)).1 = some r' ∧
        (l.patch id (Tracker.news (.ofAnswer soft raw) output)).2.get? id = some r' ∧
        Merged (.ofAnswer soft raw) r r') ∧
    ∀ (t : Tracker) (h : Host) (r r₀ : RunRecord) (windowMs : UInt64) (rest : List Exchange)
      (x : Except Failure RunRecord) (h' : Host),
      h.Performs (t.pollOnce r windowMs soft)
        (⟨.call (waitCall r.runId windowMs), .ok raw⟩ :: rest) x h' →
      h.ledger.get? r.runId.text = some r₀ →
      ∃ r', x = .ok r' ∧ h'.ledger.get? r.runId.text = some r' ∧
        Merged (.ofAnswer soft raw) r₀ r' := by
  refine ⟨normalized_ofAnswer soft raw, fun h id windowMs x h' => ?_,
    fun l id r output stored => merged_patch soft raw stored output,
    fun t h r r₀ windowMs rest x h' polls stored => merged_of_performs polls stored⟩
  rw [performs_wait]
  constructor
  · rintro ⟨reply, asked, rfl, rfl⟩
    cases asked
    exact ⟨rfl, rfl⟩
  · rintro ⟨rfl, rfl⟩
    exact ⟨.ok raw, rfl, rfl, rfl⟩

namespace Sample

/-- The greatest word for an end, and a text for a start. -/
def late : Json :=
  .obj [("endedAt", .num (.int 18446744073709551615)), ("startedAt", .str "1000")]

/-- A record that has begun before the epoch, with a duration of no meaning. -/
def misdated : RunRecord where
  runId := ⟨"r-1"⟩
  agent := ⟨"technical"⟩
  status := .running
  childSessionKey := none
  output := none
  error := none
  startedAt := some (-5)
  endedAt := none
  durationMs := some 3

def host : Host := { Host.ofConfig {} with ledger := Ledger.empty.put misdated }

def tracker : Tracker := ⟨250, 20, 30000⟩

end Sample

/-- The end is beyond the signed words, as is the double `2 ^ 64` that is nearest to it. What lies
between it and the start in the record is beyond them too. -/
theorem wait_normalized_sample :
    (∃ t, (WaitOutcome.ofAnswer true Sample.late).endedAt = some t ∧ Stands t (2 ^ 64)) ∧
    (WaitOutcome.ofAnswer true Sample.late).startedAt = none ∧
    ∃ rest x h' r' ms, Sample.host.Performs (Sample.tracker.pollOnce Sample.misdated 250 true)
        (⟨.call (waitCall Sample.misdated.runId 250), .ok Sample.late⟩ :: rest) x h' ∧
      h'.ledger.get? "r-1" = some r' ∧ r'.durationMs = some ms ∧ ms.toInt = 2 ^ 63 - 1 := by
  obtain ⟨normalized, -, -, polls⟩ := wait_normalized true Sample.late
  refine ⟨?_, normalized.startedAt.other nofun, ?_⟩
  · obtain ⟨t, read, stands⟩ := normalized.endedAt.number (.int 18446744073709551615) rfl
    have double : (Numeral.int 18446744073709551615).nearest? = some ⟨false, 2 ^ 52, 12⟩ := by
      decide
    refine ⟨t, read, ?_⟩
    have large := stands _ (.double rfl double)
    norm_num [Double.amount, Number.value] at large
    exact large
  · have stored : Sample.host.ledger.get? Sample.misdated.runId.text = some Sample.misdated := rfl
    have reads : Sample.tracker.Reads Sample.misdated (WaitOutcome.ofAnswer true Sample.late).status
        [] none := .unfinished
    have settles :=
      (Tracker.performs_settle_of_get? stored).2 ⟨_, _, reads, rfl, rfl, rfl⟩
    have poll : Sample.host.Performs (Sample.tracker.pollOnce Sample.misdated 250 true) _ _ _ :=
      Tracker.performs_pollOnce.2 (.inr ⟨Sample.late, _, settles, rfl⟩)
    obtain ⟨r', -, kept, merged⟩ := polls Sample.tracker _ _ _ 250 _ _ _ poll stored
    obtain ⟨ms, derived, spans⟩ := merged.spans (-5) Int64.maxValue merged.startedAt merged.endedAt
    exact ⟨_, _, _, r', ms, poll, kept, derived, spans⟩

end Remote

end Delegation
