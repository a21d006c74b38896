import Delegation.Number.Double

/-!
# Single precision numbers

Scores and thresholds are IEEE singles. Unlike a double of a document a single can be infinite or
no number at all: a threshold read from a large double becomes infinite, and a score can be given
by its bits. `le` is the comparison of IEEE: nothing is below or above what is no number, and the
two zeros are equal.
-/

namespace Delegation.Number

inductive Single where
  | nan
  | infinite (negative : Bool)
  | finite (negative : Bool) (significand : Nat) (exponent : Int)
  deriving DecidableEq, Repr, Inhabited

namespace Single

/-- The single nearest to `± num / den`; infinite if that is out of range. -/
def ofQuotient (negative : Bool) (num den : Nat) : Single :=
  match binary32.round num den with
  | some (m, e) => .finite negative m e
  | none => .infinite negative

def ofInt (i : Int) : Single := ofQuotient (decide (i < 0)) i.natAbs 1

def ofDouble (d : Double) : Single :=
  let (n, k) := d.magnitude
  ofQuotient d.negative n k

/-- The quotient of two whole numbers, each rounded before the division. -/
def ratio (a b : Nat) : Single :=
  match binary32.round a 1, binary32.round b 1 with
  | some (m₁, e₁), some (m₂, e₂) =>
    if m₂ = 0 then (if m₁ = 0 then .nan else .infinite false)
    else
      let (n₁, d₁) := quotient m₁ e₁
      let (n₂, d₂) := quotient m₂ e₂
      ofQuotient false (n₁ * d₂) (d₁ * n₂)
  | _, _ => .nan

def ofBits (bits : UInt32) : Single :=
  let n := bits.toNat
  let negative := n / Nat.pow 2 31 == 1
  let field : Nat := n / Nat.pow 2 23 % Nat.pow 2 8
  let fraction := n % Nat.pow 2 23
  if field = 255 then (if fraction = 0 then .infinite negative else .nan)
  else if field = 0 then .finite negative fraction (-149)
  else .finite negative (Nat.pow 2 23 + fraction) ((field : Int) - 150)

def toBits : Single → UInt32
  | .nan => 0x7FC00000
  | .infinite negative => if negative then 0xFF800000 else 0x7F800000
  | .finite negative m e =>
    let sign := if negative then Nat.pow 2 31 else 0
    if m < Nat.pow 2 23 then UInt32.ofNat (sign + m)
    else UInt32.ofNat (sign + (e + 150).toNat * Nat.pow 2 23 + (m - Nat.pow 2 23))

/-- The value as a double; every finite single is one exactly. -/
def toDouble? : Single → Option Double
  | .finite negative m e =>
    let (n, d) := quotient m e
    Double.ofQuotient negative n d
  | _ => none

/-- The signed size of a finite number over the unit `2 ^ -149`. -/
def units (negative : Bool) (m : Nat) (e : Int) : Int :=
  let size : Int := (m * Nat.pow 2 (e + 149).toNat : Nat)
  if negative then -size else size

def le : Single → Single → Bool
  | .nan, _ => false
  | _, .nan => false
  | .infinite true, _ => true
  | _, .infinite false => true
  | .infinite false, .finite _ _ _ => false
  | .infinite false, .infinite true => false
  | .finite _ _ _, .infinite true => false
  | .finite s₁ m₁ e₁, .finite s₂ m₂ e₂ => decide (units s₁ m₁ e₁ ≤ units s₂ m₂ e₂)

/-- The order of two numbers; none if one of them is no number. -/
def compare? (a b : Single) : Option Ordering :=
  match le a b, le b a with
  | true, true => some .eq
  | true, false => some .lt
  | false, true => some .gt
  | false, false => none

end Single

end Delegation.Number
