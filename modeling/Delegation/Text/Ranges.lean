/-!
# Sets of characters as ascending ranges

A Unicode property is carried as a list of closed ranges of code points, ascending and apart.
`memRanges_iff` says what the look-up decides: it may stop early only because the ranges ascend.
-/

namespace Delegation.Text

/-- Look-up in ascending ranges: it stops at the first range that begins beyond `n`. -/
def memRanges (n : Nat) : List (Nat × Nat) → Bool
  | [] => false
  | (lo, hi) :: rest => if n < lo then false else if n ≤ hi then true else memRanges n rest

/-- Each range is in order and ends before the next one begins. -/
def Ascending : List (Nat × Nat) → Prop
  | [] => True
  | (lo, hi) :: rest => lo ≤ hi ∧ (∀ r ∈ rest, hi < r.1) ∧ Ascending rest

theorem memRanges_iff {rs : List (Nat × Nat)} (h : Ascending rs) (n : Nat) :
    memRanges n rs = true ↔ ∃ r ∈ rs, r.1 ≤ n ∧ n ≤ r.2 := by
  induction rs with
  | nil => simp [memRanges]
  | cons r rs ih =>
    obtain ⟨lo, hi⟩ := r
    obtain ⟨hle, hlt, hrest⟩ := h
    have ih := ih hrest
    simp only [memRanges, List.mem_cons, exists_eq_or_imp]
    split
    · rename_i hn
      simp only [Bool.false_eq_true, false_iff, not_or, not_exists, not_and]
      exact ⟨by omega, fun r hr h1 => by have := hlt r hr; omega⟩
    · split
      · rename_i h1 h2
        simp only [true_iff]
        left; omega
      · rename_i h1 h2
        rw [ih]
        constructor
        · exact Or.inr
        · rintro (h | h)
          · omega
          · exact h

end Delegation.Text
