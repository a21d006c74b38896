/-!
# Surroundings

What the program is told by where it runs: the variables of its environment, and the files. A path
leads to a file, to a directory or nowhere.
-/

namespace Delegation

/-- Why nothing could be read. -/
inductive ReadFault where
  | notFound
  /-- A part of the path other than the last is a file. -/
  | notADirectory
  | isADirectory
  /-- The bytes are no text in UTF-8. -/
  | notText
  | invalidPath
  /-- The path, or a name on it, is longer than a path or a name can be. -/
  | tooLong
  deriving DecidableEq, Repr

/-- What a path leads to. -/
inductive Entry where
  | file (content : ByteArray)
  | directory
  | absent (fault : ReadFault)

structure Surroundings where
  value? : String → Option String
  entry : String → Entry

/-- What follows a text at the front of another. -/
def afterFront? : List Char → List Char → Option (List Char)
  | [], rest => some rest
  | a :: front, b :: rest => if a = b then afterFront? front rest else none
  | _ :: _, [] => none

/-- The value of a variable in an environment, which is a list of texts `NAME=VALUE`: what follows
the name and an equals sign in the first text that begins with them. -/
def valueIn (entries : List (String × String)) (name : String) : Option String :=
  if name = "" then none
  else
    entries.findSome? fun (n, v) =>
      (afterFront? (name ++ "=").toList (n ++ "=" ++ v).toList).map String.ofList

namespace Entry

def exists? : Entry → Bool
  | .absent _ => false
  | _ => true

/-- The text of a file. -/
def text : Entry → Except ReadFault String
  | .file content =>
    match String.fromUTF8? content with
    | some text => .ok text
    | none => .error .notText
  | .directory => .error .isADirectory
  | .absent fault => .error fault

end Entry

/-- A path below another. -/
def joinPath (base name : String) : String :=
  if base = "" || base.endsWith "/" then base ++ name else base ++ "/" ++ name

end Delegation
