/-!
# Digits

Hexadecimal and decimal digits in both directions, as small functions on characters. Numbers are
read and written elsewhere from these digits alone.
-/

namespace Delegation.Text

/-- The lower-case hexadecimal digit of a value below 16. -/
def hexDigit (n : Nat) : Char :=
  if n < 10 then Char.ofNat (48 + n) else Char.ofNat (87 + n)

/-- The value of a hexadecimal digit, in either case. -/
def hexValue? (c : Char) : Option Nat :=
  let n := c.toNat
  if 48 ≤ n && n ≤ 57 then some (n - 48)
  else if 97 ≤ n && n ≤ 102 then some (n - 87)
  else if 65 ≤ n && n ≤ 70 then some (n - 55)
  else none

/-- The value of a decimal digit. -/
def decimalValue? (c : Char) : Option Nat :=
  let n := c.toNat
  if 48 ≤ n && n ≤ 57 then some (n - 48) else none

/-- The last `width` hexadecimal digits of a number, leading zeros kept. -/
def hexPadded : Nat → Nat → List Char
  | 0, _ => []
  | width + 1, n => hexPadded width (n / 16) ++ [hexDigit (n % 16)]

/-- A number in hexadecimal, without leading zeros. -/
def hex (n : Nat) : List Char := hexPadded (n.log2 / 4 + 1) n

/-- The value of a run of decimal digits; `none` on an empty run or a foreign character. -/
def decimal? (cs : List Char) : Option Nat :=
  if cs = [] then none
  else cs.foldlM (fun acc c => (decimalValue? c).map (10 * acc + ·)) 0

theorem hexValue?_hexDigit (n : Nat) (h : n < 16) : hexValue? (hexDigit n) = some n := by
  have : ∀ m : Fin 16, hexValue? (hexDigit m.1) = some m.1 := by decide
  exact this ⟨n, h⟩

end Delegation.Text
