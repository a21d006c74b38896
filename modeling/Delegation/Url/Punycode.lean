/-!
# Labels of names in ASCII letters

A label with characters beyond ASCII is written as its ASCII characters, a hyphen, and a sequence
of numbers in base 36 that tell which further characters stand where. A number ends at its first
digit below a threshold, and the thresholds adapt to the numbers before.
-/

namespace Delegation.Url

/-- The digit of a value below 36. -/
def punycodeDigit (n : Nat) : Char :=
  if n < 26 then Char.ofNat (97 + n) else Char.ofNat (22 + n)

def punycodeValue? (c : Char) : Option Nat :=
  let n := c.toNat
  if 97 ≤ n && n ≤ 122 then some (n - 97)
  else if 65 ≤ n && n ≤ 90 then some (n - 65)
  else if 48 ≤ n && n ≤ 57 then some (n - 22)
  else none

/-- The threshold of the digit of weight `k`. -/
def threshold (k bias : Nat) : Nat := min 26 (max 1 (k - bias))

/-- The part of the adaptation that makes a number small. -/
def settle (delta k : Nat) : Nat :=
  if _h : 455 < delta then settle (delta / 35) (k + 36) else k + 36 * delta / (delta + 38)
termination_by delta

/-- The bias after a number. -/
def adapted (delta points : Nat) (isFirst : Bool) : Nat :=
  let delta := if isFirst then delta / 700 else delta / 2
  settle (delta + delta / points) 0

/-- A number in digits that end below their threshold. -/
def variableDigits (bias : Nat) (n k : Nat) : List Char :=
  let t := threshold k bias
  if h : n < t then [punycodeDigit n]
  else punycodeDigit (t + (n - t) % (36 - t)) :: variableDigits bias ((n - t) / (36 - t)) (k + 36)
termination_by n
decreasing_by
  have ht : 1 ≤ t ∧ t ≤ 26 := by
    simp only [t, threshold]
    omega
  calc (n - t) / (36 - t) ≤ n - t := Nat.div_le_self _ _
    _ < n := by omega

/-- The state while a label is written. -/
structure PunycodeState where
  delta : Nat := 0
  bias : Nat := 72
  /-- How many characters have their place. -/
  placed : Nat
  isFirst : Bool := true
  output : List Char := []

/-- Place the occurrences of one code point among the characters of the label. -/
def placePoint (point : Nat) (s : PunycodeState) (c : Char) : PunycodeState :=
  if c.toNat < point then { s with delta := s.delta + 1 }
  else if c.toNat = point then
    { delta := 0, bias := adapted s.delta (s.placed + 1) s.isFirst, placed := s.placed + 1
      isFirst := false, output := s.output ++ variableDigits s.bias s.delta 36 }
  else s

/-- Place the code points, ascending, each of which is reached from the one after the last. -/
def placePoints (label : List Char) : Nat → List Nat → PunycodeState → PunycodeState
  | _, [], s => s
  | next, point :: rest, s =>
    let s := { s with delta := s.delta + (point - next) * (s.placed + 1) }
    let s := label.foldl (placePoint point) s
    placePoints label (point + 1) rest { s with delta := s.delta + 1 }

def isAscii (c : Char) : Bool := c.toNat < 128

def punycode (label : List Char) : List Char :=
  let plain := label.filter isAscii
  let points := ((label.filter (!isAscii ·)).map Char.toNat).eraseDups.mergeSort
  let s := placePoints label 128 points { placed := plain.length }
  plain ++ (if plain = [] then [] else ['-']) ++ s.output

/-! ## Reading -/

/-- The characters before and after the last hyphen. A hyphen in front separates nothing. -/
def cutAtLastHyphen (cs : List Char) : List Char × List Char :=
  let after := (cs.reverse.takeWhile (· ≠ '-')).reverse
  let before := cs.take (cs.length - after.length - 1)
  if before = [] then ([], cs) else (before, after)

/-- Numbers and weights are below this one. -/
def punycodeBound : Nat := 4294967296

/-- Read numbers and put their characters in place; `number`, `weight` and `k` belong to the number
that is being read, `start` is what it began with. -/
def unpunycodeFrom (label : List Char) (bias point start number weight k : Nat) (isFirst : Bool) :
    List Char → Option (List Char)
  | [] => if k = 36 then some label else none
  | c :: rest =>
    match punycodeValue? c with
    | none => none
    | some d =>
      let number := number + d * weight
      let t := threshold k bias
      if punycodeBound ≤ number then none
      else if d < t then
        let length := label.length + 1
        let point := point + number / length
        let place := number % length
        if point.isValidChar then
          unpunycodeFrom (label.take place ++ Char.ofNat point :: label.drop place)
            (adapted (number - start) length isFirst) point (place + 1) (place + 1) 1 36 false rest
        else none
      else
        let weight := weight * (36 - t)
        if punycodeBound ≤ weight then none
        else unpunycodeFrom label bias point start number weight (k + 36) isFirst rest

def unpunycode? (cs : List Char) : Option (List Char) :=
  let (plain, digits) := cutAtLastHyphen cs
  if plain.all isAscii then unpunycodeFrom plain 72 128 0 0 1 36 true digits else none

end Delegation.Url
