import Delegation.Text.Digits
import Delegation.Text.Printable

/-!
# Quoted text in messages

A message that names a text it refused shows it between double quotes. Quotes and backslashes are
preceded by a backslash, four control characters have a letter, and a character that cannot stand
for itself is written by its code point in hexadecimal between braces.
-/

namespace Delegation.Text

/-- One character inside double quotes. -/
def quotedChar (c : Char) : List Char :=
  if c = '\x00' then ['\\', '0']
  else if c = '\t' then ['\\', 't']
  else if c = '\r' then ['\\', 'r']
  else if c = '\n' then ['\\', 'n']
  else if c = '\\' || c = '"' then ['\\', c]
  else if isPrintable c then [c]
  else ['\\', 'u', '\x7b'] ++ hex c.toNat ++ ['\x7d']

def quoted (s : String) : String :=
  String.ofList ('"' :: s.toList.flatMap quotedChar ++ ['"'])

/-- A name in running text stands between backticks. -/
def ticked (s : String) : String := "\x60" ++ s ++ "\x60"

end Delegation.Text
