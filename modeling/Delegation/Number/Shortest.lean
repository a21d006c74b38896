import Delegation.Number.Double
import Delegation.Text.Digits

/-!
# The shortest decimal form of a double

A double is written with the fewest decimal digits that read back as the same double, and of those
with the ones nearest to it. The decimals that read back form an interval around the value: it
reaches half way to each neighbour, its ends included when the significand is even. On a decimal
grid only the two neighbours of the value need a test, for if any point of the grid lies in the
interval then so does one of them.
-/

namespace Delegation.Number

/-- A point `digits * 10 ^ power` of a decimal grid. -/
structure Decimal where
  digits : Nat
  power : Int
  deriving DecidableEq, Repr

/-- The quotient `num / den / 10 ^ k` as a quotient of whole numbers. -/
def scaledTen (num den : Nat) (k : Int) : Nat × Nat :=
  if 0 ≤ k then (num, den * Nat.pow 10 k.toNat) else (num * Nat.pow 10 (-k).toNat, den)

/-- How many decimal digits a number has; zero has one. -/
def digitCount (n : Nat) : Nat := (Nat.toDigits 10 n).length

/-- The power of the leading decimal digit of `num / den`, for `num` above zero. -/
def leadingPower (num den : Nat) : Int :=
  if den ≤ num then (digitCount (num / den) : Int) - 1
  else -(digitCount ((den - 1) / num) : Int)

/-- The interval of decimals that read back as `significand * 2 ^ exponent`, in quarters of the
unit of the last bit. -/
structure Interval where
  low : Nat
  high : Nat
  closed : Bool
  exponent : Int

def Interval.ofSignificand (f : Format) (m : Nat) (e : Int) : Interval where
  low := if m = Nat.pow 2 (f.precision - 1) && f.minExponent < e then 4 * m - 1 else 4 * m - 2
  high := 4 * m + 2
  closed := m % 2 == 0
  exponent := e - 2

/-- Is `c * 10 ^ k` in the interval? -/
def Interval.contains (i : Interval) (c : Nat) (k : Int) : Bool :=
  let (lowNum, lowDen) := quotient i.low i.exponent
  let (highNum, highDen) := quotient i.high i.exponent
  let (ln, ld) := scaledTen lowNum lowDen k
  let (hn, hd) := scaledTen highNum highDen k
  if i.closed then decide (ln ≤ c * ld) && decide (c * hd ≤ hn)
  else decide (ln < c * ld) && decide (c * hd < hn)

/-- The point of the grid of power `k` that reads back, if there is one; of two the nearer. -/
def Interval.pointOn (i : Interval) (num den : Nat) (k : Int) : Option Nat :=
  let (n, d) := scaledTen num den k
  let c := n / d
  let below := i.contains c k
  let above := i.contains (c + 1) k
  if below && above then
    some (if 2 * (n % d) < d then c else if d < 2 * (n % d) then c + 1
      else if c % 2 = 0 then c else c + 1)
  else if below then some c
  else if above then some (c + 1)
  else none

/-- Trailing zeros go into the power. -/
def Decimal.stripped : Nat → Nat → Int → Decimal
  | 0, c, k => ⟨c, k⟩
  | fuel + 1, c, k =>
    if c ≠ 0 ∧ c % 10 = 0 then Decimal.stripped fuel (c / 10) (k + 1) else ⟨c, k⟩

/-- The first grid, from one digit on, that has a point which reads back. -/
def shortestFrom (i : Interval) (num den : Nat) (lead : Int) : Nat → Nat → Decimal
  | 0, _ => ⟨0, 0⟩
  | fuel + 1, n =>
    let k := lead - n
    match i.pointOn num den k with
    | some c => Decimal.stripped 20 c k
    | none => shortestFrom i num den lead fuel (n + 1)

/-- The shortest decimal that reads back as `m * 2 ^ e`, for `m` above zero. -/
def shortest (f : Format) (m : Nat) (e : Int) : Decimal :=
  let (num, den) := quotient m e
  shortestFrom (.ofSignificand f m e) num den (leadingPower num den) 18 0

/-! ## Its text -/

/-- The leading powers between which a number is written without an exponent. -/
structure DecimalStyle where
  leastPower : Int
  greatestPower : Int

/-- Numbers of a document are positional from 0.00001 up to sixteen whole digits. -/
def documentStyle : DecimalStyle := ⟨-5, 15⟩

/-- A decimal point after the first digit; none if there is one digit only. -/
def pointed : List Char → List Char
  | [] => []
  | [c] => [c]
  | c :: rest => c :: '.' :: rest

/-- An exponent always has its sign. -/
def DecimalStyle.text (st : DecimalStyle) (d : Decimal) : List Char :=
  let ds := Nat.toDigits 10 d.digits
  let lead : Int := d.power + ds.length - 1
  if st.leastPower ≤ lead && lead ≤ st.greatestPower then
    if 0 ≤ d.power then ds ++ List.replicate d.power.toNat '0' ++ ['.', '0']
    else if 0 ≤ lead then
      let whole := (lead + 1).toNat
      ds.take whole ++ '.' :: ds.drop whole
    else '0' :: '.' :: List.replicate (-lead - 1).toNat '0' ++ ds
  else
    pointed ds ++ ['e', if lead < 0 then '-' else '+'] ++ Nat.toDigits 10 lead.natAbs

/-- The text of a double in a document and in messages. -/
def Double.text (d : Double) : String :=
  let size :=
    if d.significand = 0 then ['0', '.', '0']
    else documentStyle.text (shortest binary64 d.significand d.exponent)
  String.ofList (if d.negative then '-' :: size else size)

end Delegation.Number
