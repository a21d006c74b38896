import Delegation.Text.Canonical
import Delegation.Text.Printable
import Delegation.Url.Direction
import Delegation.Url.Folding
import Delegation.Url.Joiners
import Delegation.Url.Punycode

/-!
# Names of hosts

A name is folded first and brought into its composed form. Then each label has to be well formed,
and one that goes beyond ASCII is written in ASCII letters behind `xn--`. A label that comes in
that writing is read back and has to be what folding would have left. If any part of the name runs
to the left, each label has to run one way. `not_isForbidden_of_label?` says what an accepted name
is free of.
-/

namespace Delegation.Url

/-- The characters of ASCII that no host name contains. -/
def isForbiddenInName (c : Char) : Bool :=
  c.toNat ≤ 0x20 || c.toNat == 0x7F || "%#/:<>?@[\\]^|".contains c

/-- The characters of a text as a name has them. -/
def normal (cs : List Char) : List Char := Text.composed (cs.flatMap folded)

/-- Characters with a glyph that a name does not contain: dots and numbers with a dot, signs that
describe a character, and replacements. -/
def refusedRanges : List (Nat × Nat) :=
  [(0x2024, 0x2026), (0x2488, 0x249B), (0x2FF0, 0x2FFF), (0x31EF, 0x31EF), (0x33C2, 0x33C2),
    (0x33C7, 0x33C7), (0x33D8, 0x33D8), (0xFE12, 0xFE12), (0xFE19, 0xFE19), (0xFE30, 0xFE30),
    (0xFE52, 0xFE52), (0xFFFC, 0xFFFD), (0x1F100, 0x1F100)]

def isRefusedInName (c : Char) : Bool :=
  !isJoiner c
    && (Text.memRanges c.toNat Text.glyphlessRanges || Text.memRanges c.toNat refusedRanges)

/-- A label beyond ASCII has visible characters only, does not begin with a mark, and its joiners
fit. -/
def isWellFormedLabel (label : List Char) : Bool :=
  !label.any isRefusedInName && !label.head?.any Text.isMark && joinersFit [] label

/-- What stands before a label that is written in ASCII letters. -/
def writtenMark : List Char := "xn--".toList

/-- The greatest lengths of a label beyond ASCII, and of its writing. -/
def longestLabel : Nat := 1000
def longestWriting : Nat := 2000

/-- Read back a label from its writing. -/
def readBack? (writing : List Char) : Option (List Char) :=
  if longestWriting < writing.length then none
  else
    (unpunycode? writing).filter fun full =>
      !full.all isAscii && isWellFormedLabel full && normal full = full

/-- A label in ASCII, and as it is to be read. -/
structure Label where
  ascii : List Char
  full : List Char
  deriving DecidableEq, Repr

/-- The forms of a label of a normal name. -/
def label? (label : List Char) : Option Label :=
  if label.any isForbiddenInName then none
  else if writtenMark.isPrefixOf label then
    (readBack? (label.drop writtenMark.length)).map (⟨label, ·⟩)
  else if label.all isAscii then some ⟨label, label⟩
  else if isWellFormedLabel label && label.length ≤ longestLabel then
    some ⟨writtenMark ++ punycode label, label⟩
  else none

/-- Is it clear which way each label runs? -/
def isClear (labels : List Label) : Bool :=
  labels.all (fun l => !l.full.any runsLeft) || labels.all fun l => isDirected l.full

/-- The ASCII form of the name that bytes spell. -/
def name? (bytes : List UInt8) : Option (List Char) :=
  match String.fromUTF8? ⟨bytes.toArray⟩ with
  | none => none
  | some text =>
    (((parts '.' (normal text.toList)).mapM label?).filter isClear).map fun labels =>
      List.intercalate ['.'] (labels.map (·.ascii))

theorem not_isForbidden_of_label? {label : List Char} {l : Label} (h : label? label = some l) :
    ∀ c ∈ label, isForbiddenInName c = false := by
  unfold label? at h
  split at h
  · cases h
  · rename_i hf
    simpa using hf

end Delegation.Url
