import Delegation.Number.Rounding

/-!
# Double precision numbers

A finite IEEE double is a sign, a significand and an exponent: its value is
`± significand * 2 ^ exponent`, and minus zero is kept apart from zero. Overflow is `none`, so no
infinity is ever carried along. `truncated` drops the fraction toward zero.
-/

namespace Delegation.Number

structure Double where
  negative : Bool
  significand : Nat
  exponent : Int
  deriving DecidableEq, Repr, Inhabited

namespace Double

/-- The double nearest to `± num / den`. -/
def ofQuotient (negative : Bool) (num den : Nat) : Option Double :=
  (binary64.round num den).map fun (m, e) => ⟨negative, m, e⟩

def zero (negative : Bool) : Double := ⟨negative, 0, binary64.minExponent⟩

def isZero (d : Double) : Bool := d.significand == 0

/-- The size of the number as a quotient of whole numbers. -/
def magnitude (d : Double) : Nat × Nat := quotient d.significand d.exponent

/-- The product of the sizes of two numbers, rounded, with the sign of the first. -/
def scaleUp (a b : Double) : Option Double :=
  let (n₁, d₁) := a.magnitude
  let (n₂, d₂) := b.magnitude
  ofQuotient a.negative (n₁ * n₂) (d₁ * d₂)

/-- The quotient of the sizes of two numbers, rounded, with the sign of the first. -/
def scaleDown (a b : Double) : Option Double :=
  let (n₁, d₁) := a.magnitude
  let (n₂, d₂) := b.magnitude
  ofQuotient a.negative (n₁ * d₂) (d₁ * n₂)

/-- The whole part, toward zero. -/
def truncated (d : Double) : Int :=
  let (n, k) := d.magnitude
  let whole : Int := (n / k : Nat)
  if d.negative then -whole else whole

end Double

end Delegation.Number
