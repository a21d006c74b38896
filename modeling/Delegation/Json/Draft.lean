import Delegation.Json.Scan

/-!
# A document text, read as far as it goes

`Draft.read` turns any text into a draft of a document. Where the text is at fault the draft says
so at the place of the fault, and everything before it is kept. So the outcome of a reading that
wants a certain shape can be told from the draft alone: it meets the faults in the order of the
text, and one that it never gets to does not count. `Json.read?` is the reading that wants any
document at all.
-/

namespace Delegation.Json

inductive Draft where
  | null
  | bool (value : Bool)
  | num (value : Scanned Numeral)
  | str (value : Scanned String)
  /-- The items, and what is wrong after the last one. -/
  | arr (items : List Draft) (ending : Option Fault)
  /-- The entries, and what is wrong after the last one. -/
  | obj (entries : List (Scanned String × Draft)) (ending : Option Fault)
  /-- An object whose first key is no string. -/
  | keyless (key : Draft)
  /-- No value: has one begun? -/
  | broken (begun : Bool) (fault : Fault)

instance : Inhabited Draft := ⟨.null⟩

namespace Draft

def isSpace (c : Char) : Bool := c = ' ' || c = '\n' || c = '\t' || c = '\r'

def skipSpace (cs : List Char) : List Char := cs.dropWhile isSpace

/-- The rest of a word such as `null`, of which the first letter was seen. -/
def expectWord (meaning : Draft) : List Char → List Char → Draft × Rest
  | [], rest => (meaning, some rest)
  | _ :: _, [] => (.broken true .unfinished, none)
  | w :: ws, c :: rest =>
    if w = c then expectWord meaning ws rest else (.broken true .malformed, none)

/-- A fault where an entry should stand. -/
def missingEntry (fault : Fault) : Scanned String × Draft :=
  (⟨.error fault, some fault⟩, .broken false fault)

mutual
/-- A value, blanks before it skipped. -/
def value : Nat → List Char → Draft × Rest
  | 0, _ => (.broken false .malformed, none)
  | fuel + 1, cs =>
    match skipSpace cs with
    | [] => (.broken false .unfinished, none)
    | c :: rest =>
      if c = 'n' then expectWord .null ['u', 'l', 'l'] rest
      else if c = 't' then expectWord (.bool true) ['r', 'u', 'e'] rest
      else if c = 'f' then expectWord (.bool false) ['a', 'l', 's', 'e'] rest
      else if c = '-' || c.isDigit then
        let (n, rest) := scanNumeral (c :: rest)
        (.num n, rest)
      else if c = '"' then
        let (s, rest) := scanString rest
        (.str s, rest)
      else if c = '[' then
        match skipSpace rest with
        | [] => (.arr [] (some .unfinished), none)
        | c :: rest =>
          if c = ']' then (.arr [] none, some rest)
          else
            let (items, ending, rest) := items fuel (c :: rest)
            (.arr items ending, rest)
      else if c = '\x7b' then
        match skipSpace rest with
        | [] => (.obj [] (some .unfinished), none)
        | c :: rest =>
          if c = '\x7d' then (.obj [] none, some rest)
          else if c = '"' then
            let (entries, ending, rest) := entries fuel (c :: rest)
            (.obj entries ending, rest)
          else (.keyless (value fuel (c :: rest)).1, none)
      else (.broken true .malformed, none)

/-- The items of an array, one at least, up to its closing bracket. -/
def items : Nat → List Char → List Draft × Option Fault × Rest
  | 0, _ => ([], some .malformed, none)
  | fuel + 1, cs =>
    match value fuel cs with
    | (v, none) => ([v], none, none)
    | (v, some rest) =>
      match skipSpace rest with
      | [] => ([v], some .unfinished, none)
      | c :: rest =>
        if c = ']' then ([v], none, some rest)
        else if c = ',' then
          let (vs, ending, rest) := items fuel rest
          (v :: vs, ending, rest)
        else ([v], some .malformed, none)

/-- The entries of an object, one at least, up to its closing brace. -/
def entries : Nat → List Char → List (Scanned String × Draft) × Option Fault × Rest
  | 0, _ => ([missingEntry .malformed], none, none)
  | fuel + 1, cs =>
    match skipSpace cs with
    | [] => ([missingEntry .unfinished], none, none)
    | c :: rest =>
      if c = '"' then
        match scanString rest with
        | (key, none) => ([(key, .broken false .malformed)], none, none)
        | (key, some rest) =>
          match skipSpace rest with
          | [] => ([(key, .broken false .unfinished)], none, none)
          | c :: rest =>
            if c = ':' then
              match value fuel rest with
              | (v, none) => ([(key, v)], none, none)
              | (v, some rest) =>
                match skipSpace rest with
                | [] => ([(key, v)], some .unfinished, none)
                | c :: rest =>
                  if c = '\x7d' then ([(key, v)], none, some rest)
                  else if c = ',' then
                    let (es, ending, rest) := entries fuel rest
                    ((key, v) :: es, ending, rest)
                  else ([(key, v)], some .malformed, none)
            else ([(key, .broken false .malformed)], none, none)
      else ([missingEntry .malformed], none, none)
end

/-- A whole text: its draft, and what is wrong after the document. -/
def read (text : String) : Draft × Option Fault :=
  let cs := text.toList
  match value (2 * cs.length + 2) cs with
  | (d, some rest) => (d, if skipSpace rest = [] then none else some .malformed)
  | (d, none) => (d, none)

/-! ## Passing over a draft -/

mutual
/-- The fault met when the value is passed over. -/
def pass : Draft → Option Fault
  | .null => none
  | .bool _ => none
  | .num n => n.skip
  | .str s => s.skip
  | .arr items ending => (passItems items).or ending
  | .obj entries ending => (passEntries entries).or ending
  | .keyless _ => some .malformed
  | .broken _ fault => some fault

def passItems : List Draft → Option Fault
  | [] => none
  | d :: rest => (pass d).or (passItems rest)

def passEntries : List (Scanned String × Draft) → Option Fault
  | [] => none
  | (k, d) :: rest => (k.skip.or (pass d)).or (passEntries rest)
end

/-! ## Reading any document -/

/-- A part that ends with a fault has no value. -/
def ended {α : Type} (ending : Option Fault) (a : α) : Except Fault α :=
  match ending with
  | some f => .error f
  | none => .ok a

mutual
/-- The document, with at most `limit` arrays and objects inside one another. -/
def toJson : Nat → Draft → Except Fault Json
  | _, .null => .ok .null
  | _, .bool b => .ok (.bool b)
  | _, .num n => n.value.map .num
  | _, .str s => s.value.map .str
  | 0, .arr _ _ => .error .malformed
  | 0, .obj _ _ => .error .malformed
  | limit + 1, .arr items ending => do
    let vs ← toItems limit items
    ended ending (.arr vs)
  | limit + 1, .obj entries ending => do
    let es ← toEntries limit entries
    ended ending (.obj (collect es))
  | _, .keyless _ => .error .malformed
  | _, .broken _ fault => .error fault

def toItems : Nat → List Draft → Except Fault (List Json)
  | _, [] => .ok []
  | limit, d :: rest => do
    let v ← toJson limit d
    let vs ← toItems limit rest
    return v :: vs

def toEntries : Nat → List (Scanned String × Draft) → Except Fault (List (String × Json))
  | _, [] => .ok []
  | limit, (k, d) :: rest => do
    let key ← k.value
    let v ← toJson limit d
    let es ← toEntries limit rest
    return (key, v) :: es
end

end Draft

/-- How many arrays and objects may be nested in one another. -/
def depthLimit : Nat := 127

/-- The document that a text holds. -/
def read (text : String) : Except Fault Json := do
  let (draft, trailing) := Draft.read text
  let v ← draft.toJson depthLimit
  Draft.ended trailing v

/-- The document that a text holds, if it holds one. -/
def read? (text : String) : Option Json := (read text).toOption

end Delegation.Json
