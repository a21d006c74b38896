import Delegation.Text.CombiningClass
import Delegation.Text.Composites

/-!
# The composed form of a text

Texts that differ only in their composites, or in the order of marks that may change it, are the
same to a reader. `composed` gives one of them for all: composites are taken apart, marks brought
into the order of their classes, and what can be put together is. `reordered_perm` says that the
second step only moves characters.
-/

namespace Delegation.Text

/-! ## Korean syllables -/

/-- A syllable has a first letter, a vowel, and perhaps a last letter. -/
def syllableBase : Nat := 0xAC00
def firstBase : Nat := 0x1100
def vowelBase : Nat := 0x1161
/-- One below the first of the last letters. -/
def lastBase : Nat := 0x11A7
def firstCount : Nat := 19
def vowelCount : Nat := 21
/-- Having no last letter counts as one. -/
def lastCount : Nat := 28

/-- The letters of a syllable. -/
def letters? (n : Nat) : Option (List Char) :=
  if syllableBase ≤ n ∧ n < syllableBase + firstCount * vowelCount * lastCount then
    let i := n - syllableBase
    let last := i % lastCount
    some <|
      Char.ofNat (firstBase + i / lastCount / vowelCount)
        :: Char.ofNat (vowelBase + i / lastCount % vowelCount)
        :: if last = 0 then [] else [Char.ofNat (lastBase + last)]
  else none

/-- The syllable of a first letter and a vowel, or of a syllable without a last letter and one. -/
def syllable? (a b : Nat) : Option Nat :=
  if firstBase ≤ a ∧ a < firstBase + firstCount ∧ vowelBase ≤ b ∧ b < vowelBase + vowelCount then
    some (syllableBase + ((a - firstBase) * vowelCount + (b - vowelBase)) * lastCount)
  else if syllableBase ≤ a ∧ a < syllableBase + firstCount * vowelCount * lastCount
      ∧ (a - syllableBase) % lastCount = 0 ∧ lastBase < b ∧ b < lastBase + lastCount then
    some (a + (b - lastBase))
  else none

/-! ## Taking apart -/

/-- The first of a composite may be one too, but not deeper than this. -/
def compositeDepth : Nat := 4

/-- The characters that a character stands for. -/
def decomposed : Nat → Char → List Char
  | 0, c => [c]
  | depth + 1, c =>
    match letters? c.toNat, composites.find? (·.whole = c.toNat) with
    | some letters, _ => letters
    | none, some p => decomposed depth (Char.ofNat p.first) ++ [Char.ofNat p.second]
    | none, none => [c]

/-! ## Order -/

/-- Put a mark before marks in their order, as far to the right as its class tells. -/
def insertMark (c : Char) : List Char → List Char
  | [] => [c]
  | d :: rest =>
    if 0 < combiningClass d ∧ combiningClass d < combiningClass c then d :: insertMark c rest
    else c :: d :: rest

/-- Each run of marks in the ascending order of their classes. -/
def reordered (cs : List Char) : List Char := cs.foldr insertMark []

theorem insertMark_perm (c : Char) (cs : List Char) : (insertMark c cs).Perm (c :: cs) := by
  induction cs with
  | nil => exact .refl _
  | cons d rest ih =>
    unfold insertMark
    split
    · exact (ih.cons d).trans (.swap c d rest)
    · exact .refl _

theorem reordered_perm (cs : List Char) : (reordered cs).Perm cs := by
  induction cs with
  | nil => exact .refl _
  | cons c rest ih => exact (insertMark_perm c (reordered rest)).trans (ih.cons c)

/-! ## Putting together -/

/-- The one character for two. -/
def joined? (a b : Char) : Option Char :=
  ((syllable? a.toNat b.toNat).or
    ((composites.find? fun p => p.first = a.toNat ∧ p.second = b.toNat).map (·.whole))).map
    Char.ofNat

/-- Can a character reach the one before the marks, of which the last comes first here? -/
def reaches (marks : List Char) (c : Char) : Bool :=
  marks.head?.all (combiningClass · < combiningClass c)

/-- Put together what follows a character and the marks after it, the last of them first. -/
def composedFrom (start : Char) (marks : List Char) : List Char → List Char
  | [] => start :: marks.reverse
  | c :: rest =>
    match if reaches marks c then joined? start c else none with
    | some whole => composedFrom whole marks rest
    | none =>
      if combiningClass c = 0 then start :: marks.reverse ++ composedFrom c [] rest
      else composedFrom start (c :: marks) rest

/-- The composed form. -/
def composed (cs : List Char) : List Char :=
  match reordered (cs.flatMap (decomposed compositeDepth)) with
  | [] => []
  | c :: rest => composedFrom c [] rest

end Delegation.Text
