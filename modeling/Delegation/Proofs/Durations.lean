import Delegation.Ledger

/-!
# Durations

A duration is derived from two timestamps or given, and either way it is not below zero. A record
may get its timestamps one after the other: `elapsed?_settled` says that whichever of the durations
on the way is written, it is the one that the merged timestamps give.
-/

namespace Delegation

theorem toInt_saturate64 (i : Int) :
    (saturate64 i).toInt = max int64Min (min int64Max i) := by
  unfold saturate64 int64Min int64Max
  rw [Int64.toInt_ofInt_of_le (by omega) (by omega)]

theorem toInt_saturate64_nonneg {i : Int} (hi : 0 ≤ i) : 0 ≤ (saturate64 i).toInt := by
  rw [toInt_saturate64]
  unfold int64Min int64Max
  omega

theorem toInt_nonNegative_nonneg (ms : Int64) : 0 ≤ (nonNegative ms).toInt := by
  unfold nonNegative
  split
  · exact Int.le_of_eq Int64.toInt_zero.symm
  · rename_i hn
    rw [Int64.lt_iff_toInt_lt, Int64.toInt_zero] at hn
    omega

/-- There is a derived duration as soon as both timestamps are known. -/
theorem elapsed?_eq_none_iff {start finish : Option Int64} :
    elapsed? start finish = none ↔ start = none ∨ finish = none := by
  cases start <;> cases finish <;> simp [elapsed?]

theorem toInt_elapsed?_nonneg {start finish : Option Int64} {ms : Int64}
    (he : elapsed? start finish = some ms) : 0 ≤ ms.toInt := by
  cases start with
  | none => cases he
  | some s =>
    cases finish with
    | none => cases he
    | some f =>
      cases he
      exact toInt_saturate64_nonneg (Int.le_max_left 0 _)

theorem nonNegative_of_elapsed? {start finish : Option Int64} {ms : Int64}
    (he : elapsed? start finish = some ms) : nonNegative ms = ms := by
  have above := toInt_elapsed?_nonneg he
  refine if_neg fun below => ?_
  rw [Int64.lt_iff_toInt_lt, Int64.toInt_zero] at below
  omega

/-- A wait derives a duration from the timestamps of its answer, and the ledger from the merged
ones. Whichever of the two is written, it is the one that the merged timestamps give; where they
give none, the last one stays. -/
theorem elapsed?_settled (start finish start' finish' last : Option Int64) :
    (match elapsed? start finish with
      | some ms => some (nonNegative ms)
      | none => (elapsed? (start.or start') (finish.or finish')).or last) =
      (elapsed? (start.or start') (finish.or finish')).or last := by
  cases he : elapsed? start finish with
  | none => rfl
  | some ms =>
    cases start with
    | none => cases he
    | some s =>
      cases finish with
      | none => cases he
      | some f =>
        show some (nonNegative ms) = (elapsed? (some s) (some f)).or last
        rw [nonNegative_of_elapsed? he, he]
        rfl

/-- The last one is that of an older pair, which is complete only if the merged one is. -/
theorem elapsed?_merged (start finish start' finish' : Option Int64) :
    (match elapsed? start finish with
      | some ms => some (nonNegative ms)
      | none => (elapsed? (start.or start') (finish.or finish')).or (elapsed? start' finish')) =
      elapsed? (start.or start') (finish.or finish') := by
  rw [elapsed?_settled]
  cases start' with
  | none => exact Option.or_none
  | some s' =>
    cases finish' with
    | none => exact Option.or_none
    | some f' => cases start <;> cases finish <;> rfl

end Delegation
