import Delegation.Json.Basic

/-!
# Reading numbers

A number of a document without fraction and exponent that fits a word is read exactly. Every other
one becomes a double: its leading digits are collected in a word, the further ones only count
towards the power of ten, and the word is then scaled by that power with one rounding for each
step. So the reading is that of a machine with 64-bit words and doubles, and it is total: what
overflows is refused, what underflows is zero.
-/

namespace Delegation.Json

open Number (Double)

/-- Take digits into a word as long as they fit; the digits that did not are left. -/
def collectDigits (word : Nat) : List Nat → Nat × List Nat
  | [] => (word, [])
  | d :: rest =>
    if 10 * word + d ≤ wordMax then collectDigits (10 * word + d) rest else (word, d :: rest)

/-- Powers of ten up to this one are kept as doubles. -/
def greatestTen : Nat := 308

def tenPower (k : Nat) : Double :=
  (Double.ofQuotient false (Nat.pow 10 k) 1).getD (Double.zero false)

/-- Division by a power of ten in steps that the table of powers allows. -/
def shiftDown : Nat → Double → Nat → Option Double
  | 0, d, _ => some (Double.zero d.negative)
  | fuel + 1, d, k =>
    if k ≤ greatestTen then d.scaleDown (tenPower k)
    else if d.isZero then some d
    else (d.scaleDown (tenPower greatestTen)).bind (shiftDown fuel · (k - greatestTen))

/-- The double `± word * 10 ^ power`, unless it overflows. -/
def doubleOf (negative : Bool) (word : Nat) (power : Int) : Option Double :=
  (Double.ofQuotient negative word 1).bind fun d =>
    if power < 0 then shiftDown 4 d power.natAbs
    else if power.natAbs ≤ greatestTen then d.scaleUp (tenPower power.natAbs)
    else if d.isZero then some d
    else none

/-- The written parts of a number. The fraction and the exponent may be absent. -/
structure NumeralText where
  negative : Bool
  whole : List Nat
  fraction : Option (List Nat)
  exponent : Option (Bool × List Nat)
  deriving DecidableEq, Repr

def natOfDigits (ds : List Nat) : Nat := ds.foldl (fun acc d => 10 * acc + d) 0

/-- The exponent part as a signed number; nought if there is none. -/
def exponentValue : Option (Bool × List Nat) → Int
  | none => 0
  | some (negative, ds) => if negative then -(natOfDigits ds : Int) else natOfDigits ds

/-- A whole number that fits is kept; minus zero, and a number below the signed words, become
doubles. -/
def wholeNumeral (negative : Bool) (word : Nat) : Option Numeral :=
  if !negative then some (.int word)
  else if word = 0 ∨ Nat.pow 2 63 < word then (Double.ofQuotient true word 1).map .real
  else some (.int (-(word : Int)))

/-- The number that its parts stand for; none if it is beyond the doubles. -/
def NumeralText.value (t : NumeralText) : Option Numeral :=
  let (word, dropped) := collectDigits 0 t.whole
  match t.fraction, t.exponent with
  | none, none =>
    if dropped = [] then wholeNumeral t.negative word
    else (doubleOf t.negative word dropped.length).map .real
  | fraction, exponent =>
    let digits := fraction.getD []
    let (word', unused) := collectDigits word digits
    let taken : Nat := digits.length - unused.length
    (doubleOf t.negative word' ((dropped.length : Int) - taken + exponentValue exponent)).map .real

end Delegation.Json
