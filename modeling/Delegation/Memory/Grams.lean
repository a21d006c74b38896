import Delegation.Text.Alphanumeric
import Delegation.Text.Lowercase

/-!
# Grams

Texts are compared by the pairs of neighbouring characters that occur in them. Only letters and
digits count, in lower case. A text of one such character has that character as its only gram.
-/

namespace Delegation.Memory

/-- The letters and digits of a text, in lower case. -/
def normalized (s : String) : List Char := Text.lowered (s.toList.filter Text.isAlphanumeric)

/-- The pairs of neighbours in a list. -/
def pairs : List Char → List (List Char)
  | a :: b :: rest => [a, b] :: pairs (b :: rest)
  | _ => []

/-- All grams of normalized characters, in the order of the text. -/
def gramsOf : List Char → List (List Char)
  | [a] => [[a]]
  | cs => pairs cs

/-- The grams of a text, each once. -/
def grams (s : String) : List (List Char) := (gramsOf (normalized s)).eraseDups

end Delegation.Memory
