/-!
# Segments of paths

A path is read segment by segment onto a stack of names, the last one on top. One dot stays where
it is, two dots take a name off, though never one that names a drive, for a path does not leave its
drive. The path of a file that begins with a drive writes it with a colon, and it has no empty
names in front. A line end right behind a drive divides the segment in two. `readFrom_ne_nil` says
that a path never comes to nothing: it has one name at least.
-/

namespace Delegation.Url

/-- A dot in a segment may be escaped. -/
def isDot (name : String) : Bool := [".", "%2e"].contains (name.map Char.toLower)

def isDoubleDot (name : String) : Bool :=
  ["..", ".%2e", "%2e.", "%2e%2e"].contains (name.map Char.toLower)

/-! ## Drives -/

def isDriveMark (c : Char) : Bool := c = ':' || c = '|'

/-- A drive is a letter with a mark. -/
def isDrive (name : String) : Bool :=
  match name.toList with
  | [letter, mark] => letter.isAlpha && isDriveMark mark
  | _ => false

/-- A name that two dots do not take off: a drive, perhaps with more after a backslash. -/
def isFixed (name : String) : Bool :=
  match name.toList with
  | letter :: mark :: rest =>
    letter.isAlpha && isDriveMark mark && (rest.head?.all (· = '\\'))
  | _ => false

/-- The name of a drive with its mark as a colon. -/
def driveName (name : String) : String := String.ofList (name.toList.take 1 ++ [':'])

/-! ## Reading -/

/-- A segment of a path. -/
structure Segment where
  name : String
  /-- The drive, and what is behind it, of a segment that is divided there. -/
  divided : Option (String × String) := none

def parent : List String → List String
  | [] => []
  | name :: rest => if isFixed name then name :: rest else rest

/-- One more segment of a path, of a file or not. What is behind a drive that a path begins with
is a name as it stands. -/
def step (isFile : Bool) (stack : List String) (s : Segment) : List String :=
  match isFile && stack.isEmpty, s.divided with
  | true, some (drive, name) => [name, drive]
  | isFront, _ =>
    if isDoubleDot s.name then parent stack
    else if isDot s.name then stack
    else if isFront && isDrive s.name then [driveName s.name]
    else s.name :: stack

/-- The names that segments come to after those on a stack. A path that ends with dots names a
directory: its last name is empty. -/
def readFrom (isFile : Bool) (stack : List String) : List Segment → List String
  | [] => stack.reverse
  | [last] =>
    let stack := step isFile stack last
    if isDot last.name || isDoubleDot last.name then ("" :: stack).reverse else stack.reverse
  | s :: rest => readFrom isFile (step isFile stack s) rest

/-- Is one of the segments, after the names on a stack, the drive that the path of a file begins
with? -/
def entersDrive (stack : List String) : List Segment → Bool
  | [] => false
  | s :: rest => (stack.isEmpty && isDrive s.name) || entersDrive (step true stack s) rest

/-- The names without the empty ones in front, as far as others follow. -/
def withoutEmptyFront : List String → List String
  | "" :: name :: rest => withoutEmptyFront (name :: rest)
  | names => names

/-- Read the segments of the path of a file. -/
def readFile (segments : List Segment) : List String :=
  withoutEmptyFront (readFrom true [] segments)

def readPlain (names : List String) : List String := readFrom false [] (names.map (⟨·, none⟩))

theorem step_ne_nil {isFile : Bool} {stack : List String} {s : Segment}
    (h : isDoubleDot s.name = false) (h' : isDot s.name = false) : step isFile stack s ≠ [] := by
  unfold step
  rw [h, h']
  split
  · simp
  · split
    · contradiction
    · split <;> simp

/-- Segments, one at least, come to one name at least. -/
theorem readFrom_ne_nil (isFile : Bool) (stack : List String) (s : Segment)
    (rest : List Segment) : readFrom isFile stack (s :: rest) ≠ [] := by
  induction rest generalizing stack s with
  | nil =>
    unfold readFrom
    split
    · simp
    · rename_i h
      simp only [Bool.or_eq_true, not_or, Bool.not_eq_true] at h
      simpa using step_ne_nil h.2 h.1
  | cons next rest ih => exact ih _ next

end Delegation.Url
