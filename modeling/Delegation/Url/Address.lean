import Delegation.Text.Digits

/-!
# Network addresses

A host whose last label is a number is an IPv4 address, in one to four parts, each decimal, octal
after `0`, or hexadecimal after `0x`; the last part fills all the bytes that are left. An IPv6
address is eight pieces of sixteen bits in hexadecimal. One run of zero pieces may be left out at a
double colon, and the last two pieces may be written as an IPv4 address in decimal.
-/

namespace Delegation.Url

/-- The parts of a text between the occurrences of a separator, one at least. -/
def parts (separator : Char) : List Char → List (List Char)
  | [] => [[]]
  | c :: rest =>
    if c = separator then [] :: parts separator rest
    else
      match parts separator rest with
      | [] => [[c]]
      | p :: ps => (c :: p) :: ps

/-- The value of a run of digits below a radix, zero for none. -/
def inRadix? (radix : Nat) (cs : List Char) : Option Nat :=
  cs.foldlM
    (fun value c => (Text.hexValue? c).bind fun d =>
      if d < radix then some (radix * value + d) else none) 0

/-! ## Four bytes -/

/-- A number that shows its radix. -/
def number? : List Char → Option Nat
  | [] => none
  | '0' :: 'x' :: rest => inRadix? 16 rest
  | '0' :: 'X' :: rest => inRadix? 16 rest
  | '0' :: c :: rest => inRadix? 8 (c :: rest)
  | cs => inRadix? 10 cs

/-- The labels of a name without the empty one after a last dot. -/
def labels (name : List Char) : List (List Char) :=
  match (parts '.' name).reverse with
  | [] :: l :: rest => (l :: rest).reverse
  | _ => parts '.' name

/-- Is the last label a number, or made of decimal digits only? -/
def endsInNumber (name : List Char) : Bool :=
  match (labels name).getLast? with
  | none => false
  | some last => (last ≠ [] && last.all Char.isDigit) || (number? last).isSome

/-- The address that numbers give: each but the last is one byte. -/
def ipv4OfNumbers? : Nat → List Nat → Option Nat
  | _, [] => none
  | 0, _ => none
  | bytes + 1, [last] => if last < Nat.pow 256 (bytes + 1) then some last else none
  | bytes + 1, n :: rest =>
    if n < 256 then (ipv4OfNumbers? bytes rest).map (n * Nat.pow 256 bytes + ·) else none

def ipv4? (name : List Char) : Option Nat :=
  ((labels name).mapM number?).bind (ipv4OfNumbers? 4)

/-- The bytes of an address, the most significant first. -/
def ipv4Bytes (address : Nat) : List Nat :=
  [address / Nat.pow 256 3 % 256, address / Nat.pow 256 2 % 256, address / 256 % 256, address % 256]

def ipv4Text (address : Nat) : String :=
  String.intercalate "." ((ipv4Bytes address).map toString)

/-! ## Eight pieces -/

def piece? (cs : List Char) : Option Nat :=
  if cs ≠ [] && cs.length ≤ 4 then inRadix? 16 cs else none

/-- A byte in decimal without leading zeros. -/
def byte? (cs : List Char) : Option Nat :=
  match Text.decimal? cs with
  | some n => if n < 256 && (cs.length = 1 || cs.head? ≠ some '0') then some n else none
  | none => none

/-- Two pieces written as four bytes. -/
def dotted? (cs : List Char) : Option (List Nat) :=
  match (parts '.' cs).mapM byte? with
  | some [a, b, c, d] => some [256 * a + b, 256 * c + d]
  | _ => none

/-- Pieces between colons; the last may be `dotted?` if the address ends here. -/
def pieces? (isLast : Bool) : List (List Char) → Option (List Nat)
  | [] => some []
  | [p] => ((piece? p).map ([·])).or (if isLast then dotted? p else none)
  | p :: rest =>
    match piece? p, pieces? isLast rest with
    | some n, some ns => some (n :: ns)
    | _, _ => none

/-- The two sides of the first double colon. -/
def cutAtDoubleColon : List Char → Option (List Char × List Char)
  | ':' :: ':' :: rest => some ([], rest)
  | c :: rest => (cutAtDoubleColon rest).map fun (l, r) => (c :: l, r)
  | [] => none

/-- The pieces of one side of a double colon, which may be empty. -/
def side? (isLast : Bool) (cs : List Char) : Option (List Nat) :=
  if cs = [] then some [] else pieces? isLast (parts ':' cs)

def ipv6? (cs : List Char) : Option (List Nat) :=
  match cutAtDoubleColon cs with
  | none => (pieces? true (parts ':' cs)).filter (·.length = 8)
  | some (l, r) =>
    match side? false l, side? true r with
    | some ls, some rs =>
      if ls.length + rs.length < 8 then
        some (ls ++ List.replicate (8 - (ls.length + rs.length)) 0 ++ rs)
      else none
    | _, _ => none

/-- Where the first of the longest runs of zeros begins, and how long it is. -/
def longestZeros (ns : List Nat) : Nat × Nat :=
  (List.range ns.length).foldl
    (fun best start =>
      let length := ((ns.drop start).takeWhile (· = 0)).length
      if best.2 < length then (start, length) else best) (0, 0)

def ipv6Text (ns : List Nat) : String :=
  let written (ns : List Nat) := String.intercalate ":" (ns.map fun n => String.ofList (Text.hex n))
  let (start, length) := longestZeros ns
  if length < 2 then written ns
  else written (ns.take start) ++ "::" ++ written (ns.drop (start + length))

end Delegation.Url
