import Delegation.Number.Single
import Mathlib.Algebra.Order.Field.Basic
import Mathlib.Algebra.Order.Field.Power
import Mathlib.Data.Rat.Cast.Order
import Mathlib.Tactic.FieldSimp
import Mathlib.Tactic.Linarith
import Mathlib.Tactic.Ring

/-!
# Rounding to the nearest value

`Format.round` answers with a value of the format that is as near to the quotient as any other, in
the one form with a full significand (`Format.exists_rounds`). So rounding respects the order
(`Format.Rounds.mono`), and leaves the values of the format as they are
(`Format.Rounds.value_eq`). The quotient of two whole numbers is then computed as one expects
(`Single.exists_ratio`).
-/

namespace Delegation.Number

variable {f : Format} {num den n d m m' : Nat} {e e' : Int} {x y w : ℚ}

/-! ## Values -/

def value (m : Nat) (e : Int) : ℚ := m * 2 ^ e

theorem value_add (m k : Nat) (e : Int) : value m (e + k) = value (m * 2 ^ k) e := by
  rw [value, value, zpow_add₀ (two_ne_zero : (2 : ℚ) ≠ 0), zpow_natCast]
  push_cast
  ring

theorem value_two_pow (k : Nat) (e : Int) : value (2 ^ k) e = 2 ^ (k + e) := by
  rw [zpow_add₀ two_ne_zero, zpow_natCast, value]
  push_cast
  rfl

theorem value_le_value {k : Nat} (h : m ≤ k) : value m e ≤ value k e := by
  have : (m : ℚ) ≤ k := by exact_mod_cast h
  exact mul_le_mul_of_nonneg_right this (by positivity)

theorem value_lt_value {k : Nat} (h : m < k) : value m e < value k e := by
  have : (m : ℚ) < k := by exact_mod_cast h
  exact mul_lt_mul_of_pos_right this (by positivity)

/-- A quotient of whole numbers is `r`. -/
def Quotes (q : Nat × Nat) (r : ℚ) : Prop := 0 < q.2 ∧ (q.1 : ℚ) / q.2 = r

theorem Quotes.div_lt_iff {q : Nat × Nat} (h : Quotes q x) {k : Nat} : q.1 / q.2 < k ↔ x < k := by
  obtain ⟨pos, rfl⟩ := h
  have posd : (0 : ℚ) < q.2 := by exact_mod_cast pos
  rw [Nat.div_lt_iff_lt_mul pos, div_lt_iff₀ posd]
  exact_mod_cast Iff.rfl

theorem quotes_quotient (m : Nat) (e : Int) : Quotes (quotient m e) (value m e) := by
  unfold quotient value
  split
  · rename_i up
    obtain ⟨k, rfl⟩ := Int.eq_ofNat_of_zero_le up
    simp [Quotes]
  · rename_i down
    obtain ⟨k, hk⟩ := Int.eq_ofNat_of_zero_le (a := -e) (by omega)
    obtain rfl : e = -k := by omega
    simp [Quotes, div_eq_mul_inv]

theorem quotes_scaled (num : Nat) (hd : 0 < den) (e : Int) :
    Quotes (scaled num den e) (num / den / 2 ^ e) := by
  unfold scaled
  split
  · rename_i up
    obtain ⟨k, rfl⟩ := Int.eq_ofNat_of_zero_le up
    simp [Quotes, hd, div_div]
  · rename_i down
    obtain ⟨k, hk⟩ := Int.eq_ofNat_of_zero_le (a := -e) (by omega)
    obtain rfl : e = -k := by omega
    refine ⟨hd, ?_⟩
    simp
    ring

/-! ## Nearest whole numbers -/

theorem nearest_error (num : Nat) (hd : 0 < den) :
    |(nearest num den : ℚ) - num / den| ≤ 1 / 2 := by
  obtain ⟨low, high⟩ := nearest_bounds num den hd
  have pos : (0 : ℚ) < den := by exact_mod_cast hd
  have low : 2 * (num : ℚ) ≤ 2 * (nearest num den * den) + den := by exact_mod_cast low
  have high : 2 * (nearest num den * den : ℚ) ≤ 2 * num + den := by exact_mod_cast high
  have scale : (num : ℚ) / den * den = num := div_mul_cancel₀ _ pos.ne'
  rw [abs_le]
  constructor <;> nlinarith

/-- No whole number is nearer. -/
theorem nearest_le (num : Nat) (hd : 0 < den) (k : Nat) :
    |(nearest num den : ℚ) - num / den| ≤ |(k : ℚ) - num / den| := by
  have close := nearest_error num hd
  by_cases same : nearest num den = k
  · rw [same]
  · have apart : (1 : ℤ) ≤ |(nearest num den : ℤ) - k| := by
      have : (nearest num den : ℤ) - k ≠ 0 := by omega
      have := abs_pos.2 this
      omega
    have apart : (1 : ℚ) ≤ |(nearest num den : ℚ) - k| := by exact_mod_cast apart
    have path := abs_sub_le (nearest num den : ℚ) (num / den) k
    rw [abs_sub_comm (num / den : ℚ)] at path
    linarith

theorem nearest_le_of_le (hd : 0 < den) {k : Nat} (h : (num : ℚ) / den ≤ k) :
    nearest num den ≤ k := by
  by_contra above
  have above : (k : ℚ) < nearest num den := by exact_mod_cast Nat.lt_of_not_le above
  have close := nearest_le num hd k
  rw [abs_of_nonneg (by linarith), abs_of_nonneg (by linarith)] at close
  linarith

theorem le_nearest_of_le (hd : 0 < den) {k : Nat} (h : (k : ℚ) ≤ num / den) :
    k ≤ nearest num den := by
  by_contra below
  have below : (nearest num den : ℚ) < k := by exact_mod_cast Nat.lt_of_not_le below
  have close := nearest_le num hd k
  rw [abs_of_nonpos (by linarith), abs_of_nonpos (by linarith)] at close
  linarith

namespace Format

/-! ## What rounding means -/

/-- A value of the format, were there no largest exponent. -/
def Has (f : Format) (w : ℚ) : Prop :=
  ∃ m e, m < 2 ^ f.precision ∧ f.minExponent ≤ e ∧ w = value m e

/-- A significand and an exponent are `x` rounded: no value of the format is nearer to it. The
significand is full, unless the exponent is the least. -/
structure Rounds (f : Format) (x : ℚ) (m : Nat) (e : Int) : Prop where
  significand : m < 2 ^ f.precision
  exponent : f.minExponent ≤ e
  full : e = f.minExponent ∨ 2 ^ f.precision ≤ 2 * m
  nearest : ∀ w, f.Has w → |value m e - x| ≤ |w - x|

namespace Rounds

theorem has (h : f.Rounds x m e) : f.Has (value m e) := ⟨m, e, h.significand, h.exponent, rfl⟩

theorem le_of_le (h : f.Rounds x m e) (hw : f.Has w) (hx : x ≤ w) : value m e ≤ w := by
  by_contra above
  have close := h.nearest w hw
  rw [abs_of_nonneg (by linarith), abs_of_nonneg (by linarith)] at close
  linarith

theorem ge_of_ge (h : f.Rounds x m e) (hw : f.Has w) (hx : w ≤ x) : w ≤ value m e := by
  by_contra below
  have close := h.nearest w hw
  rw [abs_of_nonpos (by linarith), abs_of_nonpos (by linarith)] at close
  linarith

/-- A value of the format is left as it is. -/
theorem value_eq (h : f.Rounds x m e) (hx : f.Has x) : value m e = x :=
  le_antisymm (h.le_of_le hx le_rfl) (h.ge_of_ge hx le_rfl)

/-- Rounding respects the order. -/
theorem mono (hx : f.Rounds x m e) (hy : f.Rounds y m' e') (hxy : x < y) :
    value m e ≤ value m' e' := by
  by_contra crossed
  have below : value m' e' < x := by
    by_contra above
    exact crossed (hx.le_of_le hy.has (by linarith))
  have above : y < value m e := by
    by_contra below
    exact crossed (hy.ge_of_ge hx.has (by linarith))
  -- Both numbers lie between the two values, and each is nearer to the one further away.
  have left := hx.nearest _ hy.has
  have right := hy.nearest _ hx.has
  rw [abs_of_pos (by linarith), abs_of_neg (by linarith)] at left
  rw [abs_of_neg (by linarith), abs_of_pos (by linarith)] at right
  linarith

theorem exponent_le (hx : f.Rounds x m e) (hy : f.Rounds y m' e')
    (same : value m e = value m' e') : e' ≤ e := by
  by_contra less
  obtain ⟨k, rfl⟩ : ∃ k : Nat, e' = e + (k + 1 : Nat) := ⟨(e' - e - 1).toNat, by omega⟩
  have full : 2 ^ f.precision ≤ 2 * m' := hy.full.resolve_left (by have := hx.exponent; omega)
  have large : m < m' * 2 ^ (k + 1) :=
    calc m < 2 * m' := lt_of_lt_of_le hx.significand full
      _ ≤ 2 * m' * 2 ^ k := Nat.le_mul_of_pos_right _ (Nat.two_pow_pos k)
      _ = m' * 2 ^ (k + 1) := by ring
  rw [value_add] at same
  exact (value_lt_value large).ne same

/-- There is one way only to write a value with a full significand. -/
theorem unique (hx : f.Rounds x m e) (hy : f.Rounds y m' e') (same : value m e = value m' e') :
    m = m' ∧ e = e' := by
  obtain rfl : e = e' := le_antisymm (hy.exponent_le hx same.symm) (hx.exponent_le hy same)
  refine ⟨?_, rfl⟩
  rcases Nat.lt_trichotomy m m' with less | equal | more
  · exact absurd same (value_lt_value less).ne
  · exact equal
  · exact absurd same (value_lt_value more).ne'

end Rounds

/-! ## Where the last place is -/

/-- The exponent that a quotient is rounded at. -/
def place (f : Format) (num den : Nat) : Int :=
  let low := max f.minExponent ((num.log2 : Int) - den.log2 - f.precision)
  if (scaled num den low).1 / (scaled num den low).2 < Nat.pow 2 f.precision then low else low + 1

/-- How often a power of two goes into a quotient, to the nearest whole number. -/
def steps (num den : Nat) (e : Int) : Nat := nearest (scaled num den e).1 (scaled num den e).2

theorem round_eq (f : Format) (h : num ≠ 0) (he : f.place num den = e)
    (hm : steps num den e = m) :
    f.round num den =
      if m < 2 ^ f.precision then (if f.maxExponent < e then none else some (m, e))
      else (if f.maxExponent < e + 1 then none else some (m / 2, e + 1)) := by
  subst he hm
  have unfolded : f.round num den =
      (let m := steps num den (f.place num den)
       let r := if m < 2 ^ f.precision then (m, f.place num den) else (m / 2, f.place num den + 1)
       if f.maxExponent < r.2 then none else some r) := by
    rw [round, if_neg h]
    rfl
  rw [unfolded]
  dsimp only
  split <;> rfl

theorem lt_zpow_log2 (n : Nat) : (n : ℚ) < 2 ^ ((n.log2 : Int) + 1) := by
  have : n < 2 ^ (n.log2 + 1) := Nat.lt_log2_self
  exact_mod_cast this

theorem zpow_log2_le (h : n ≠ 0) : (2 : ℚ) ^ (n.log2 : Int) ≤ n := by
  have : 2 ^ n.log2 ≤ n := Nat.log2_self_le h
  exact_mod_cast this

/-- The logarithms tell the size of a quotient up to a factor of two. -/
theorem log2_bounds (hn : num ≠ 0) (hd : den ≠ 0) :
    (2 : ℚ) ^ ((num.log2 : Int) - den.log2 - 1) < num / den ∧
      (num : ℚ) / den < 2 ^ ((num.log2 : Int) - den.log2 + 1) := by
  have posn : (0 : ℚ) < num := by exact_mod_cast Nat.pos_of_ne_zero hn
  have posd : (0 : ℚ) < den := by exact_mod_cast Nat.pos_of_ne_zero hd
  constructor
  · rw [lt_div_iff₀ posd]
    calc (2 : ℚ) ^ ((num.log2 : Int) - den.log2 - 1) * den
        < 2 ^ ((num.log2 : Int) - den.log2 - 1) * 2 ^ ((den.log2 : Int) + 1) :=
          mul_lt_mul_of_pos_left (lt_zpow_log2 den) (by positivity)
      _ = 2 ^ (num.log2 : Int) := by rw [← zpow_add₀ two_ne_zero]; congr 1; omega
      _ ≤ num := zpow_log2_le hn
  · rw [div_lt_iff₀ posd]
    calc (num : ℚ) < 2 ^ ((num.log2 : Int) + 1) := lt_zpow_log2 num
      _ = 2 ^ ((num.log2 : Int) - den.log2 + 1) * 2 ^ (den.log2 : Int) := by
          rw [← zpow_add₀ two_ne_zero]; congr 1; omega
      _ ≤ 2 ^ ((num.log2 : Int) - den.log2 + 1) * den :=
          mul_le_mul_of_nonneg_left (zpow_log2_le hd) (by positivity)

/-- At its place a quotient has as many digits before the point as a significand, no more, and no
fewer either unless the exponent is the least. -/
theorem place_spec (f : Format) (hn : num ≠ 0) (hd : den ≠ 0) :
    f.minExponent ≤ f.place num den ∧ (num : ℚ) / den < 2 ^ (f.precision + f.place num den) ∧
      (f.place num den = f.minExponent ∨
        (2 : ℚ) ^ (f.precision + f.place num den - 1) ≤ num / den) := by
  obtain ⟨below, above⟩ := log2_bounds hn hd
  unfold place
  set low := max f.minExponent ((num.log2 : Int) - den.log2 - f.precision) with hlow
  have scale : (0 : ℚ) < 2 ^ low := by positivity
  have short : (scaled num den low).1 / (scaled num den low).2 < Nat.pow 2 f.precision ↔
      (num : ℚ) / den < 2 ^ (f.precision + low) := by
    refine (quotes_scaled num (Nat.pos_of_ne_zero hd) low).div_lt_iff.trans ?_
    rw [div_lt_iff₀ scale, zpow_add₀ two_ne_zero, zpow_natCast]
    exact_mod_cast Iff.rfl
  dsimp only
  by_cases fits : (num : ℚ) / den < 2 ^ (f.precision + low)
  · rw [if_pos (short.2 fits)]
    refine ⟨by omega, fits, ?_⟩
    by_cases least : low = f.minExponent
    · exact .inl least
    · refine .inr (le_trans (zpow_le_zpow_right₀ one_le_two ?_) below.le)
      omega
  · rw [if_neg (mt short.1 fits)]
    refine ⟨by omega, above.trans_le (zpow_le_zpow_right₀ one_le_two (by omega)), .inr ?_⟩
    have one : (f.precision : Int) + (low + 1) - 1 = f.precision + low := by omega
    rwa [one, ← not_lt]

/-! ## Rounding -/

/-- A multiple of the last place that no other is nearer than is nearest among all the values of the
format: values between those multiples are too small. -/
theorem nearest_of_place (hp : 0 < f.precision)
    (place : e = f.minExponent ∨ (2 : ℚ) ^ (f.precision + e - 1) ≤ x)
    (best : ∀ k : Nat, |value m e - x| ≤ |value k e - x|) (hw : f.Has w) :
    |value m e - x| ≤ |w - x| := by
  obtain ⟨k, e₁, hk, he₁, rfl⟩ := hw
  by_cases above : e ≤ e₁
  · obtain ⟨j, rfl⟩ := Int.le.dest above
    rw [value_add]
    exact best _
  · have large : (2 : ℚ) ^ (f.precision + e - 1) ≤ x := place.resolve_left (by omega)
    have half : value (2 ^ (f.precision - 1)) e = 2 ^ (f.precision + e - 1) := by
      rw [value_two_pow]
      congr 1
      omega
    have small : value k e₁ < 2 ^ (f.precision + e - 1) :=
      calc value k e₁ < value (2 ^ f.precision) e₁ := value_lt_value hk
        _ = 2 ^ (f.precision + e₁) := value_two_pow _ _
        _ ≤ 2 ^ (f.precision + e - 1) := zpow_le_zpow_right₀ one_le_two (by omega)
    refine (best (2 ^ (f.precision - 1))).trans ?_
    rw [half, abs_of_nonpos (by linarith), abs_of_nonpos (by linarith)]
    linarith

theorem steps_quotes (num : Nat) (hd : 0 < den) (e : Int) :
    ∃ n d : Nat, 0 < d ∧ (n : ℚ) / d = num / den / 2 ^ e ∧ steps num den e = nearest n d := by
  obtain ⟨pos, quotes⟩ := quotes_scaled num hd e
  exact ⟨_, _, pos, quotes, rfl⟩

/-- No other multiple of the power of two is nearer. -/
theorem steps_le (num : Nat) (hd : 0 < den) (e : Int) (k : Nat) :
    |value (steps num den e) e - num / den| ≤ |value k e - num / den| := by
  obtain ⟨n, d, pos, quotes, eq⟩ := steps_quotes num hd e
  have scale : (0 : ℚ) < 2 ^ e := by positivity
  have unscaled (j : Nat) : |value j e - num / den| = |(j : ℚ) - num / den / 2 ^ e| * 2 ^ e := by
    rw [← abs_of_pos scale, ← abs_mul, abs_of_pos scale, sub_mul, div_mul_cancel₀ _ scale.ne', value]
  rw [unscaled, unscaled, eq, ← quotes]
  exact mul_le_mul_of_nonneg_right (nearest_le n pos k) scale.le

theorem steps_le_two_pow (hd : 0 < den) {k : Nat} (h : (num : ℚ) / den ≤ 2 ^ (k + e)) :
    steps num den e ≤ 2 ^ k := by
  obtain ⟨n, d, pos, quotes, eq⟩ := steps_quotes num hd e
  rw [zpow_add₀ two_ne_zero, zpow_natCast] at h
  rw [eq]
  refine nearest_le_of_le pos ?_
  rw [quotes, div_le_iff₀ (by positivity)]
  exact_mod_cast h

theorem two_pow_le_steps (hd : 0 < den) {k : Nat} (h : (2 : ℚ) ^ (k + e) ≤ num / den) :
    2 ^ k ≤ steps num den e := by
  obtain ⟨n, d, pos, quotes, eq⟩ := steps_quotes num hd e
  rw [zpow_add₀ two_ne_zero, zpow_natCast] at h
  rw [eq]
  refine le_nearest_of_le pos ?_
  rw [quotes, le_div_iff₀ (by positivity)]
  exact_mod_cast h

/-- What a quotient is rounded to, before the exponent is looked at. -/
theorem round_cases (f : Format) (hp : 0 < f.precision) (hn : num ≠ 0) (hd : den ≠ 0) :
    ∃ m e, f.Rounds (num / den) m e ∧
      f.round num den = if f.maxExponent < e then none else some (m, e) := by
  have posd : 0 < den := Nat.pos_of_ne_zero hd
  obtain ⟨p, hp⟩ : ∃ p, f.precision = p + 1 := ⟨f.precision - 1, by omega⟩
  obtain ⟨least, fits, full⟩ := f.place_spec hn hd
  obtain ⟨e, he⟩ : ∃ e, f.place num den = e := ⟨_, rfl⟩
  obtain ⟨m, hm⟩ : ∃ m, steps num den e = m := ⟨_, rfl⟩
  rw [he] at least fits full
  have best : ∀ w, f.Has w → |value m e - num / den| ≤ |w - num / den| := by
    intro w hw
    refine nearest_of_place (by omega) full (fun k => ?_) hw
    rw [← hm]
    exact steps_le num posd e k
  have high : m ≤ 2 ^ f.precision := hm ▸ steps_le_two_pow posd fits.le
  have low : e = f.minExponent ∨ 2 ^ p ≤ m := by
    refine full.imp_right fun large => hm ▸ two_pow_le_steps posd ?_
    have : (f.precision : Int) + e - 1 = p + e := by omega
    rwa [this] at large
  have double : 2 ^ f.precision = 2 ^ p * 2 := by rw [hp, Nat.pow_succ]
  rw [f.round_eq hn he hm]
  by_cases short : m < 2 ^ f.precision
  · exact ⟨m, e, ⟨short, least, low.imp_right (by omega), best⟩, if_pos short⟩
  · -- The next power of two: its significand is halved.
    have positive : 0 < 2 ^ p := Nat.two_pow_pos p
    have halved : m / 2 = 2 ^ p := by omega
    have same : value (m / 2) (e + 1) = value m e := by
      rw [halved, (by omega : m = 2 ^ p * 2)]
      exact value_add _ 1 e
    refine ⟨m / 2, e + 1, ⟨by omega, by omega, .inr (by omega), ?_⟩, if_neg short⟩
    rwa [same]

/-- A quotient that is not too large is rounded to the nearest value of the format. -/
theorem exists_rounds (hp : 0 < f.precision) (ends : f.minExponent ≤ f.maxExponent) (hd : den ≠ 0)
    (fits : (num : ℚ) / den ≤ 2 ^ (f.precision + f.maxExponent - 1)) :
    ∃ m e, f.Rounds (num / den) m e ∧ f.round num den = some (m, e) := by
  by_cases hn : num = 0
  · refine ⟨0, f.minExponent, ⟨Nat.two_pow_pos _, le_rfl, .inl rfl, fun w _ => ?_⟩, if_pos hn⟩
    simp [value, hn]
  · obtain ⟨m, e, rounds, eq⟩ := f.round_cases hp hn hd
    refine ⟨m, e, rounds, ?_⟩
    rw [eq, if_neg]
    intro beyond
    obtain ⟨p, hp⟩ : ∃ p, f.precision = p + 1 := ⟨f.precision - 1, by omega⟩
    have large : f.Has (value (2 ^ p) f.maxExponent) :=
      ⟨_, _, by rw [hp]; exact Nat.pow_lt_pow_succ one_lt_two, ends, rfl⟩
    have below : value m e ≤ value (2 ^ p) f.maxExponent := by
      refine rounds.le_of_le large (fits.trans_eq ?_)
      rw [value_two_pow]
      congr 1
      omega
    have full : 2 ^ p ≤ m := by
      have := rounds.full.resolve_left (by omega)
      rw [hp, Nat.pow_succ] at this
      omega
    refine absurd below (not_le.2 ?_)
    calc value (2 ^ p) f.maxExponent < value (2 ^ p) e := by
          rw [value_two_pow, value_two_pow]
          exact zpow_lt_zpow_right₀ one_lt_two (by omega)
      _ ≤ value m e := value_le_value full

end Format

namespace Single

variable {a b : Nat} {s t : Single}

/-! ## The order of singles -/

/-- The number that a finite single is. -/
def amount : Single → ℚ
  | .finite negative m e => if negative then -value m e else value m e
  | _ => 0

/-- A finite number with an exponent of the format. -/
def Proper : Single → Prop
  | .finite _ _ e => -149 ≤ e
  | _ => False

theorem units_eq (negative : Bool) (least : -149 ≤ e) :
    (units negative m e : ℚ) = amount (.finite negative m e) * 2 ^ (149 : Int) := by
  obtain ⟨k, rfl⟩ : ∃ k : Nat, e = -149 + k := ⟨(e + 149).toNat, by omega⟩
  have size : ((m * Nat.pow 2 (-149 + (k : Int) + 149).toNat : Nat) : ℚ) =
      value m (-149 + k) * 2 ^ (149 : Int) := by
    have : (-149 + (k : Int) + 149).toNat = k := by omega
    rw [this, value, mul_assoc, ← zpow_add₀ two_ne_zero, neg_add_cancel_comm, zpow_natCast,
      Nat.pow_eq]
    push_cast
    rfl
  cases negative with
  | false => exact size
  | true =>
    simp only [units, amount, if_true, Int.cast_neg, Int.cast_natCast, size]
    ring

/-- Proper singles compare like the numbers that they are. -/
theorem le_iff (hs : s.Proper) (ht : t.Proper) : le s t = true ↔ s.amount ≤ t.amount := by
  cases s with
  | nan | infinite => cases hs
  | finite n₁ m₁ e₁ =>
    cases t with
    | nan | infinite => cases ht
    | finite n₂ m₂ e₂ =>
      have scale : (0 : ℚ) < 2 ^ (149 : Int) := by positivity
      simp only [le, decide_eq_true_eq]
      rw [← Int.cast_le (R := ℚ), units_eq n₁ hs, units_eq n₂ ht, mul_le_mul_iff_left₀ scale]

theorem compare?_eq (hs : s.Proper) (ht : t.Proper) :
    compare? s t = some (compare s.amount t.amount) := by
  have forth := le_iff hs ht
  have back := le_iff ht hs
  unfold compare?
  rcases lt_trichotomy s.amount t.amount with less | equal | more
  · rw [forth.2 less.le, Bool.eq_false_iff.2 (mt back.1 less.not_ge), compare_lt_iff_lt.2 less]
  · rw [forth.2 equal.le, back.2 equal.ge, compare_eq_iff_eq.2 equal]
  · rw [back.2 more.le, Bool.eq_false_iff.2 (mt forth.1 more.not_ge), compare_gt_iff_gt.2 more]

/-! ## Quotients of whole numbers -/

theorem has_two_pow {k : Int} (low : -149 ≤ k) : binary32.Has (2 ^ k) :=
  ⟨1, k, by decide, low, by simp [value]⟩

theorem has_one : binary32.Has 1 := has_two_pow (k := 0) (by decide)

theorem exists_rounds (num : Nat) (hd : den ≠ 0) (fits : (num : ℚ) / den ≤ 2 ^ (127 : Int)) :
    ∃ m e, binary32.Rounds (num / den) m e ∧ binary32.round num den = some (m, e) :=
  Format.exists_rounds (by decide) (by decide) hd fits

/-- A whole number is rounded to a number that is not less than one. -/
theorem exists_rounds_whole (pos : 0 < a) (fits : a ≤ 2 ^ 127) :
    ∃ m e, binary32.Rounds a m e ∧ binary32.round a 1 = some (m, e) ∧
      1 ≤ value m e ∧ value m e ≤ 2 ^ (127 : Int) := by
  have fits : (a : ℚ) ≤ 2 ^ (127 : Int) := by exact_mod_cast fits
  have one : (1 : ℚ) ≤ a := by exact_mod_cast pos
  obtain ⟨m, e, rounds, eq⟩ := exists_rounds a one_ne_zero (by simpa using fits)
  rw [Nat.cast_one, div_one] at rounds
  exact ⟨m, e, rounds, eq, rounds.ge_of_ge has_one one,
    rounds.le_of_le (has_two_pow (by decide)) fits⟩

/-- Two numbers are rounded, then divided, and the quotient is rounded. -/
theorem exists_ratio (ha : 0 < a) (hb : 0 < b) (fa : a ≤ 2 ^ 127) (fb : b ≤ 2 ^ 127) :
    ∃ m₁ e₁ m₂ e₂ m e, binary32.round a 1 = some (m₁, e₁) ∧ binary32.round b 1 = some (m₂, e₂) ∧
      binary32.Rounds (value m₁ e₁ / value m₂ e₂) m e ∧ ratio a b = .finite false m e := by
  obtain ⟨m₁, e₁, -, eq₁, low₁, high₁⟩ := exists_rounds_whole ha fa
  obtain ⟨m₂, e₂, -, eq₂, low₂, -⟩ := exists_rounds_whole hb fb
  obtain ⟨pos₁, quotes₁⟩ := quotes_quotient m₁ e₁
  obtain ⟨pos₂, quotes₂⟩ := quotes_quotient m₂ e₂
  have some₂ : m₂ ≠ 0 := by
    rintro rfl
    norm_num [value] at low₂
  have divisor : (quotient m₂ e₂).1 ≠ 0 := by
    intro none
    rw [none] at quotes₂
    norm_num [← quotes₂] at low₂
  have divided : (((quotient m₁ e₁).1 * (quotient m₂ e₂).2 : Nat) : ℚ) /
      ((quotient m₁ e₁).2 * (quotient m₂ e₂).1 : Nat) = value m₁ e₁ / value m₂ e₂ := by
    rw [← quotes₁, ← quotes₂, div_div_div_eq]
    push_cast
    rfl
  have fits : value m₁ e₁ / value m₂ e₂ ≤ 2 ^ (127 : Int) :=
    (div_le_self (zero_le_one.trans low₁) low₂).trans high₁
  obtain ⟨m, e, rounds, eq⟩ :=
    exists_rounds _ (Nat.mul_ne_zero pos₁.ne' divisor) (divided.le.trans fits)
  rw [divided] at rounds
  refine ⟨m₁, e₁, m₂, e₂, m, e, eq₁, eq₂, rounds, ?_⟩
  simp [ratio, eq₁, eq₂, some₂, ofQuotient, eq]

/-- Rounding whole numbers respects their order. -/
theorem value_le_of_le {m₁ m₂ : Nat} {e₁ e₂ : Int} (hab : a ≤ b) (ha : 0 < a) (fb : b ≤ 2 ^ 127)
    (eq₁ : binary32.round a 1 = some (m₁, e₁)) (eq₂ : binary32.round b 1 = some (m₂, e₂)) :
    1 ≤ value m₁ e₁ ∧ value m₁ e₁ ≤ value m₂ e₂ ∧ value m₂ e₂ ≤ 2 ^ (127 : Int) := by
  obtain ⟨m₃, e₃, rounds₁, eq₃, low, -⟩ := exists_rounds_whole ha (hab.trans fb)
  obtain ⟨m₄, e₄, rounds₂, eq₄, -, high⟩ := exists_rounds_whole (ha.trans_le hab) fb
  cases eq₁.symm.trans eq₃
  cases eq₂.symm.trans eq₄
  refine ⟨low, ?_, high⟩
  rcases hab.lt_or_eq with less | rfl
  · exact rounds₁.mono rounds₂ (by exact_mod_cast less)
  · cases eq₁.symm.trans eq₂
    rfl

/-- The quotient of a number and one that is not less is a number over zero, up to one. -/
theorem ratio_bounds (ha : 0 < a) (hab : a ≤ b) (fb : b ≤ 2 ^ 127) :
    (ratio a b).Proper ∧ 0 < (ratio a b).amount ∧ (ratio a b).amount ≤ 1 := by
  obtain ⟨m₁, e₁, m₂, e₂, m, e, eq₁, eq₂, rounds, eq⟩ :=
    exists_ratio ha (ha.trans_le hab) (hab.trans fb) fb
  obtain ⟨low, order, high⟩ := value_le_of_le hab ha fb eq₁ eq₂
  have pos : 0 < value m₂ e₂ := by linarith
  have small : (2 : ℚ) ^ (-127 : Int) ≤ value m₁ e₁ / value m₂ e₂ := by
    rw [le_div_iff₀ pos, zpow_neg, inv_mul_le_iff₀ (by positivity)]
    nlinarith
  rw [eq]
  refine ⟨rounds.exponent, ?_, rounds.le_of_le has_one ((div_le_one pos).2 order)⟩
  exact lt_of_lt_of_le (by positivity) (rounds.ge_of_ge (has_two_pow (by decide)) small)

/-- A number goes into itself once. -/
theorem ratio_self (ha : 0 < a) (fa : a ≤ 2 ^ 127) : ratio a a = ofInt 1 := by
  obtain ⟨m₁, e₁, m₂, e₂, m, e, eq₁, eq₂, rounds, eq⟩ := exists_ratio ha ha fa fa
  obtain ⟨low, -, -⟩ := value_le_of_le le_rfl ha fa eq₁ eq₁
  cases eq₁.symm.trans eq₂
  rw [div_self (by linarith)] at rounds
  obtain ⟨m', e', rounds', eq', -, -⟩ := exists_rounds_whole one_pos (by decide)
  rw [Nat.cast_one] at rounds'
  obtain ⟨rfl, rfl⟩ := rounds.unique rounds'
    ((rounds.value_eq has_one).trans (rounds'.value_eq has_one).symm)
  simp [eq, ofInt, ofQuotient, eq']

theorem ofInt_zero : ofInt 0 = .finite false 0 (-149) := by decide

theorem ofInt_one : ofInt 1 = .finite false 8388608 (-23) := by decide

theorem amount_ofInt_zero : (ofInt 0).Proper ∧ (ofInt 0).amount = 0 := by
  rw [ofInt_zero]
  exact ⟨le_refl (-149 : Int), by simp [amount, value]⟩

theorem amount_ofInt_one : (ofInt 1).Proper ∧ (ofInt 1).amount = 1 := by
  rw [ofInt_one]
  exact ⟨show (-149 : Int) ≤ -23 by decide, by norm_num [amount, value]⟩

end Single

end Delegation.Number
