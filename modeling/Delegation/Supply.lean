import Delegation.Name
import Delegation.Remote.Call
import Delegation.Text.Digits

/-!
# Fresh names

What the program itself names, it names by a random UUID behind a word for the kind of thing. The
random part is a number of 122 bits; the version and the variant of the UUID fill the other six.
-/

namespace Delegation.Supply

open Text (hexPadded)

/-- The five groups of digits of the version 4 UUID with a given random part. -/
def groups (n : Nat) : List (List Char) :=
  [hexPadded 8 (n / Nat.pow 2 90), hexPadded 4 (n / Nat.pow 2 74),
    '4' :: hexPadded 3 (n / Nat.pow 2 62),
    hexPadded 4 (Nat.pow 2 15 + n / Nat.pow 2 48 % Nat.pow 2 14),
    hexPadded 12 n]

/-- The UUID with hyphens between its groups. -/
def hyphenated (n : Nat) : String := String.ofList (List.intercalate ['-'] (groups n))

/-- The UUID as 32 digits. -/
def plain (n : Nat) : String := String.ofList (groups n).flatten

def simulatedRun (n : Nat) : RunId := ⟨"mock-" ++ hyphenated n⟩

def memory (n : Nat) : String := "mem-" ++ hyphenated n

/-- The word for a kind of invocation. -/
def toolWord : Remote.Tool → String
  | .spawn => "spawn"
  | .send => "send"

def invocation (tool : Remote.Tool) (n : Nat) : CallId :=
  ⟨"delegate-" ++ toolWord tool ++ "-" ++ plain n⟩

end Delegation.Supply
