import Delegation.Json.Basic
import Delegation.Number.Shortest
import Delegation.Text.Digits

/-!
# Writing documents

Two written forms: the compact one without any blanks, and the indented one with two spaces for
each level. Both keep the entries of an object in their order. Inside a string the quote, the
backslash and the control characters are escaped, all else stands as it is.
-/

namespace Delegation.Json

open Text (hexPadded)

/-- One character of a string. -/
def escaped (c : Char) : List Char :=
  if c = '"' then ['\\', '"']
  else if c = '\\' then ['\\', '\\']
  else if c = '\x08' then ['\\', 'b']
  else if c = '\x09' then ['\\', 't']
  else if c = '\x0a' then ['\\', 'n']
  else if c = '\x0c' then ['\\', 'f']
  else if c = '\x0d' then ['\\', 'r']
  else if c.toNat < 32 then '\\' :: 'u' :: hexPadded 4 c.toNat
  else [c]

def stringChars (s : String) : List Char := '"' :: s.toList.flatMap escaped ++ ['"']

/-- An integer in decimal. -/
def intChars (i : Int) : List Char :=
  if i < 0 then '-' :: Nat.toDigits 10 i.natAbs else Nat.toDigits 10 i.natAbs

def numeralChars : Numeral → List Char
  | .int i => intChars i
  | .real d => d.text.toList

mutual
/-- The compact form. -/
def chars : Json → List Char
  | .null => ['n', 'u', 'l', 'l']
  | .bool true => ['t', 'r', 'u', 'e']
  | .bool false => ['f', 'a', 'l', 's', 'e']
  | .num n => numeralChars n
  | .str s => stringChars s
  | .arr items => '[' :: charsItems items ++ [']']
  | .obj entries => '\x7b' :: charsEntries entries ++ ['\x7d']

def charsItems : List Json → List Char
  | [] => []
  | [v] => chars v
  | v :: rest => chars v ++ ',' :: charsItems rest

def charsEntries : List (String × Json) → List Char
  | [] => []
  | [(k, v)] => stringChars k ++ ':' :: chars v
  | (k, v) :: rest => stringChars k ++ ':' :: chars v ++ ',' :: charsEntries rest
end

/-- The compact text of a document, its entries in their order. -/
def compact (v : Json) : String := String.ofList (chars v)

/-- The compact text with the keys of every object ascending. -/
def canonicalText (v : Json) : String := v.sorted.compact

def indentation (level : Nat) : List Char := '\n' :: List.replicate (2 * level) ' '

mutual
def prettyChars (level : Nat) : Json → List Char
  | .arr [] => ['[', ']']
  | .arr (v :: rest) =>
    '[' :: indentation (level + 1) ++ prettyChars (level + 1) v ++ prettyItems (level + 1) rest
      ++ indentation level ++ [']']
  | .obj [] => ['\x7b', '\x7d']
  | .obj ((k, v) :: rest) =>
    '\x7b' :: indentation (level + 1) ++ stringChars k ++ ':' :: ' ' :: prettyChars (level + 1) v
      ++ prettyEntries (level + 1) rest ++ indentation level ++ ['\x7d']
  | v => chars v

/-- The items after the first. -/
def prettyItems (level : Nat) : List Json → List Char
  | [] => []
  | v :: rest => ',' :: indentation level ++ prettyChars level v ++ prettyItems level rest

/-- The entries after the first. -/
def prettyEntries (level : Nat) : List (String × Json) → List Char
  | [] => []
  | (k, v) :: rest =>
    ',' :: indentation level ++ stringChars k ++ ':' :: ' ' :: prettyChars level v
      ++ prettyEntries level rest
end

/-- The indented text of a document. -/
def pretty (v : Json) : String := String.ofList (prettyChars 0 v)

end Delegation.Json
