/-!
# Rounding a quotient to a binary format

A binary floating format keeps `precision` bits of significand over a bounded range of exponents.
`Format.round` takes a non-negative quotient `num / den` to the nearest value of the format, a tie
going to the even significand, and answers `none` where the format has no finite value near
enough. `nearest_bounds` is the half-unit law that the whole module rests on.
-/

namespace Delegation.Number

/-- The quotient rounded to a whole number, a half going to the even neighbour. -/
def nearest (num den : Nat) : Nat :=
  if 2 * (num % den) < den then num / den
  else if den < 2 * (num % den) then num / den + 1
  else if num / den % 2 = 0 then num / den
  else num / den + 1

theorem nearest_bounds (num den : Nat) (h : 0 < den) :
    2 * num ≤ 2 * (nearest num den * den) + den ∧ 2 * (nearest num den * den) ≤ 2 * num + den := by
  have hq : den * (num / den) + num % den = num := Nat.div_add_mod num den
  have hr : num % den < den := Nat.mod_lt num h
  have hc : num / den * den = den * (num / den) := Nat.mul_comm ..
  have hs : (num / den + 1) * den = den * (num / den) + den := by
    rw [Nat.add_mul, Nat.one_mul, hc]
  unfold nearest
  split
  · rw [hc]; omega
  · split
    · rw [hs]; omega
    · split
      · rw [hc]; omega
      · rw [hs]; omega

/-- The finite values are `m * 2 ^ e` with `m < 2 ^ precision` and `e` in the given range. -/
structure Format where
  precision : Nat
  minExponent : Int
  maxExponent : Int
  deriving DecidableEq, Repr

def binary64 : Format := ⟨53, -1074, 971⟩
def binary32 : Format := ⟨24, -149, 104⟩

/-- The quotient `num / den / 2 ^ e` as a quotient of whole numbers. -/
def scaled (num den : Nat) (e : Int) : Nat × Nat :=
  if 0 ≤ e then (num, den * Nat.pow 2 e.toNat) else (num * Nat.pow 2 (-e).toNat, den)

/-- The significand and exponent nearest to `num / den`, in the one form with a full significand
(or the least exponent). -/
def Format.round (f : Format) (num den : Nat) : Option (Nat × Int) :=
  if num = 0 then some (0, f.minExponent)
  else
    let low := max f.minExponent ((num.log2 : Int) - den.log2 - f.precision)
    let (n₀, d₀) := scaled num den low
    let e := if n₀ / d₀ < Nat.pow 2 f.precision then low else low + 1
    let (n, d) := scaled num den e
    let m := nearest n d
    let (m, e) := if m < Nat.pow 2 f.precision then (m, e) else (m / 2, e + 1)
    if f.maxExponent < e then none else some (m, e)

/-- A significand and exponent as a quotient of whole numbers. -/
def quotient (m : Nat) (e : Int) : Nat × Nat :=
  if 0 ≤ e then (m * Nat.pow 2 e.toNat, 1) else (m, Nat.pow 2 (-e).toNat)

end Delegation.Number
