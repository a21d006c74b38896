import Delegation.Number.Single

/-!
# A single with two decimal places

A score inside running text has two places. They are those of the exact binary value, and a half
goes to the even neighbour, so 0.125 is written `0.12`. Minus zero keeps its sign.
-/

namespace Delegation.Number

/-- A count of hundredths with its decimal point. -/
def hundredthsText (n : Nat) : List Char :=
  let part := n % 100
  Nat.toDigits 10 (n / 100) ++ ['.', Char.ofNat (48 + part / 10), Char.ofNat (48 + part % 10)]

def Single.twoPlaces : Single → String
  | .nan => "NaN"
  | .infinite negative => if negative then "-inf" else "inf"
  | .finite negative m e =>
    let (n, d) := quotient m e
    let size := hundredthsText (nearest (100 * n) d)
    String.ofList (if negative then '-' :: size else size)

end Delegation.Number
