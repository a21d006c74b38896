import Delegation.Json.Draft
import Delegation.Text.Blank

/-!
# What a remote answer holds

The result of a remote tool comes in one of two shapes: with a `details` object, or with a
`content` list of which the first text item is itself the text of an object. The details come
first; an answer of neither shape holds nothing. The fields of what was found are read leniently:
a field of the wrong type is an absent one.
-/

namespace Delegation.Remote

/-- The entries of an object. -/
abbrev Entries := List (String × Json)

def isTextItem (item : Json) : Bool := (item.get? "type").bind Json.text? == some "text"

/-- The text of the first text item. Later ones do not count, even if the first has none. -/
def firstText? (raw : Json) : Option String := do
  let content ← raw.get? "content"
  let items ← content.items?
  let item ← items.find? isTextItem
  let text ← item.get? "text"
  text.text?

/-- The object that a tool result holds, if it holds one. -/
def unwrap? (raw : Json) : Option Entries :=
  match (raw.get? "details").bind Json.entries? with
  | some details => some details
  | none => ((firstText? raw).bind Json.read?).bind Json.entries?

/-- The object that a tool result holds, or an empty one. -/
def unwrapped (raw : Json) : Entries := (unwrap? raw).getD []

/-! ## Fields -/

/-- A text that is not blank, trimmed. -/
def textField (entries : Entries) (key : String) : Option String :=
  ((Json.find key entries).bind Json.text?).bind Text.nonBlank?

/-- Milliseconds: any number, its fraction dropped, clamped to a signed word. -/
def millisField (entries : Entries) (key : String) : Option Int64 :=
  match Json.find key entries with
  | some (.num (.int i)) => some (saturate64 i)
  | some (.num (.real d)) => some (saturate64 d.truncated)
  | _ => none

/-- An error is a text, or an object with a `message`. -/
def errorField (entries : Entries) (key : String) : Option String :=
  match Json.find key entries with
  | some (.str s) => Text.nonBlank? s
  | some (.obj inner) => textField inner "message"
  | _ => none

/-- The status word of an answer, in lower case. -/
def statusWord? (entries : Entries) : Option String :=
  (textField entries "status").map Text.asciiLower

end Delegation.Remote
