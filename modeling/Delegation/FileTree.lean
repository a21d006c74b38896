import Delegation.Surroundings

/-!
# A tree of files

On the bench the files are a value: a working directory and what lies below it. A path is walked
name by name from the root or from the working directory, so it ends nowhere as soon as one of its
names leads nowhere or through a file.
-/

namespace Delegation

structure FileTree where
  /-- The working directory, from the root. -/
  here : List String
  /-- The files below it with their bytes, and the directories, by their places. -/
  nodes : List (List String × Option ByteArray)

namespace FileTree

/-- The names on a path. -/
def steps (path : String) : List String := path.splitOn "/"

/-- What lies at a place: the bytes of a file, no bytes for a directory. -/
def node? (t : FileTree) (place : List String) : Option (Option ByteArray) :=
  if place.isPrefixOf t.here then some none
  else if t.here.isPrefixOf place then
    let below := place.drop t.here.length
    match t.nodes.lookup below with
    | some node => some node
    | none => if t.nodes.any fun (p, _) => below.isPrefixOf p then some none else none
  else none

/-- The greatest lengths of a name and of a path, in bytes. -/
def longestName : Nat := 255
def longestPath : Nat := 4095

/-- Walk on from a place. -/
def walk (t : FileTree) (place : List String) : List String → Entry
  | [] =>
    match t.node? place with
    | some (some content) => .file content
    | some none => .directory
    | none => .absent .notFound
  | name :: rest =>
    match t.node? place with
    | none => .absent .notFound
    | some (some _) => .absent .notADirectory
    | some none =>
      if name = "" || name = "." then walk t place rest
      else if name = ".." then walk t place.dropLast rest
      else if longestName < name.utf8ByteSize then .absent .tooLong
      else walk t (place ++ [name]) rest

def entry (t : FileTree) (path : String) : Entry :=
  if path = "" then .absent .notFound
  else if path.contains '\x00' then .absent .invalidPath
  else if longestPath < path.utf8ByteSize then .absent .tooLong
  else if path.startsWith "/" then t.walk [] (steps path)
  else t.walk t.here (steps path)

end FileTree

end Delegation
