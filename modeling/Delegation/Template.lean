/-!
# Texts with references

In a text, `$` with a name between braces refers to a variable. `fill` puts the values of the known
variables in place and writes the other references out as they stand; a value is never looked
through for references. `pieces` is the text taken apart, and `fill_eq_written_pieces` says that
filling a text in is filling in its pieces, one by one.
-/

namespace Delegation.Template

/-- The name of a reference, up to the first closing brace or the end of the text. -/
def referenceName (cs : List Char) : String := String.ofList (cs.takeWhile (· ≠ '\x7d'))

/-- What follows the closing brace. -/
def afterReference (cs : List Char) : List Char := (cs.dropWhile (· ≠ '\x7d')).drop 1

theorem length_afterReference_le (cs : List Char) : (afterReference cs).length ≤ cs.length := by
  have := (List.dropWhile_sublist (l := cs) (· ≠ '\x7d')).length_le
  simp only [afterReference, List.length_drop]
  omega

/-- A reference as it stands in a text. -/
def reference (name : String) : List Char := ['$', '\x7b'] ++ name.toList ++ ['\x7d']

/-- A text with the known references replaced. -/
def fill (value? : String → Option String) : List Char → List Char
  | '$' :: '\x7b' :: rest =>
    let name := referenceName rest
    (match value? name with
      | some value => value.toList
      | none => reference name) ++ fill value? (afterReference rest)
  | c :: rest => c :: fill value? rest
  | [] => []
termination_by cs => cs.length
decreasing_by
  · have := length_afterReference_le rest
    simp only [List.length_cons]
    omega
  · simp

/-! ## Pieces -/

/-- A part of a text: a character that stands for itself, or a reference. -/
inductive Piece where
  | literal (c : Char)
  | reference (name : String)
  deriving DecidableEq, Repr

def pieces : List Char → List Piece
  | '$' :: '\x7b' :: rest => .reference (referenceName rest) :: pieces (afterReference rest)
  | c :: rest => .literal c :: pieces rest
  | [] => []
termination_by cs => cs.length
decreasing_by
  · have := length_afterReference_le rest
    simp only [List.length_cons]
    omega
  · simp

def Piece.written (value? : String → Option String) : Piece → List Char
  | .literal c => [c]
  | .reference name =>
    match value? name with
    | some value => value.toList
    | none => Template.reference name

def Piece.name? : Piece → Option String
  | .literal _ => none
  | .reference name => some name

theorem fill_eq_written_pieces (value? : String → Option String) (cs : List Char) :
    fill value? cs = (pieces cs).flatMap (Piece.written value?) := by
  fun_induction fill value? cs with
  | case1 rest name ih => rw [pieces, List.flatMap_cons, ih]; rfl
  | case2 c rest h ih => rw [pieces.eq_2 c rest h, List.flatMap_cons, ih]; rfl
  | case3 => rw [pieces]; rfl

/-! ## Texts -/

def expand (value? : String → Option String) (text : String) : String :=
  String.ofList (fill value? text.toList)

/-- The names that a text refers to, in order. -/
def names (text : String) : List String := (pieces text.toList).filterMap Piece.name?

end Delegation.Template
