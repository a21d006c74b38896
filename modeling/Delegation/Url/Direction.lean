import Delegation.Text.Marks

/-!
# Directions of writing

Letters are written to the right or to the left, and digits go along with either. A name with
characters that run to the left is clear only if each of its labels runs one way; `isDirected` says
when a label does. The directions are those of Unicode 17, as far as a character may stand in a
name at all.
-/

namespace Delegation.Url

open Text (isNonspacing memRanges)

inductive Direction where
  | right
  | left
  /-- A digit of the European kind. -/
  | europeanDigit
  | arabicDigit
  /-- A mark runs as the character that it is on. -/
  | mark
  | neutral
  deriving DecidableEq, Repr

/-- Nonspacing marks that are letters of their own here. -/
def letterMarks : List Nat := [0xCBF, 0xCC6, 0x11A07, 0x11A08, 0x11C3F]

def europeanDigitRanges : List (Nat × Nat) :=
  [(0x30, 0x39), (0x6F0, 0x6F9), (0x102E1, 0x102FB)]

def arabicDigitRanges : List (Nat × Nat) :=
  [(0x660, 0x669), (0x66B, 0x66C), (0x10D30, 0x10D49), (0x10E60, 0x10E7E)]

/-- Signs without a direction. -/
def neutralRanges : List (Nat × Nat) :=
  [(0x0, 0x2F), (0x3A, 0x60), (0x7B, 0xD7), (0xF7, 0xF7), (0x2B9, 0x2BA), (0x2C2, 0x2CF),
    (0x2D2, 0x2ED), (0x2EF, 0x2FF), (0x375, 0x375), (0x3F6, 0x3F6), (0x58A, 0x58F), (0x606, 0x607),
    (0x609, 0x60A), (0x60C, 0x60C), (0x60E, 0x60F), (0x66A, 0x66A), (0x6DE, 0x6DE), (0x6E9, 0x6E9),
    (0x7F6, 0x7F9), (0x9F2, 0x9F3), (0x9FB, 0x9FB), (0xAF1, 0xAF1), (0xBF3, 0xBFA), (0xC78, 0xC7E),
    (0xE3F, 0xE3F), (0xF3A, 0xF3D), (0x1390, 0x1399), (0x1400, 0x1400), (0x169B, 0x169C),
    (0x17DB, 0x17DB), (0x17F0, 0x180A), (0x1940, 0x1945), (0x19DE, 0x19FF), (0x200C, 0x214D),
    (0x218A, 0x2335), (0x237B, 0x2394), (0x2396, 0x26AB), (0x26AD, 0x27FF), (0x2900, 0x2BFF),
    (0x2CE5, 0x2CEA), (0x2CF9, 0x2CFF), (0x2E00, 0x3004), (0x3008, 0x3020), (0x3030, 0x3030),
    (0x3037, 0x3037), (0x303D, 0x303F), (0x30A0, 0x30A0), (0x30FB, 0x30FB), (0x31C0, 0x31E5),
    (0x4DC0, 0x4DFF), (0xA490, 0xA4C6), (0xA60D, 0xA60F), (0xA673, 0xA67F), (0xA700, 0xA721),
    (0xA788, 0xA788), (0xA828, 0xA82B), (0xA838, 0xA839), (0xA874, 0xA877), (0xAB6A, 0xAB6B),
    (0xFBC3, 0xFE46), (0x10101, 0x10101), (0x10140, 0x1018C), (0x10190, 0x101A0),
    (0x1091F, 0x1091F), (0x10B39, 0x10B3F), (0x10D6E, 0x10D6E), (0x10ED0, 0x10ED8),
    (0x11052, 0x11065), (0x11660, 0x1166C), (0x11FD5, 0x11FF1), (0x16FE2, 0x16FE2),
    (0x1CC00, 0x1CEF0), (0x1D1E9, 0x1D245), (0x1D300, 0x1D356), (0x1E2FF, 0x1E2FF),
    (0x1EEF0, 0x1F12F), (0x1F16D, 0x1F16F), (0x1F1AD, 0x1F1AD), (0x1F260, 0x1FBFA)]

/-- The blocks of the scripts that run to the left. -/
def leftRanges : List (Nat × Nat) :=
  [(0x590, 0x8FF), (0xFB1D, 0xFDFF), (0xFE70, 0xFEFF), (0x10800, 0x10FFF), (0x1E800, 0x1EFFF)]

def direction (c : Char) : Direction :=
  let n := c.toNat
  if isNonspacing c && !letterMarks.contains n then .mark
  else if memRanges n europeanDigitRanges then .europeanDigit
  else if memRanges n arabicDigitRanges then .arabicDigit
  else if memRanges n neutralRanges then .neutral
  else if memRanges n leftRanges then .left
  else .right

/-! ## Labels -/

/-- Does a name with the character in it run to the left, at least in part? -/
def runsLeft (c : Char) : Bool := direction c = .left || direction c = .arabicDigit

/-- The directions of a label without those of the marks at its end. -/
def directions (label : List Char) : List Direction :=
  ((label.map direction).reverse.dropWhile (· = .mark)).reverse

/-- A label that runs to the right begins with a letter and ends with a letter or a digit. -/
def runsRight (ds : List Direction) : Bool :=
  ds.head? = some .right
    && ds.all ([.right, .europeanDigit, .neutral, .mark].contains ·)
    && ds.getLast?.any ([.right, .europeanDigit].contains ·)

/-- A label that runs to the left does so too, but has digits of one kind only. -/
def runsAllLeft (ds : List Direction) : Bool :=
  ds.head? = some .left
    && ds.all ([.left, .europeanDigit, .arabicDigit, .neutral, .mark].contains ·)
    && ds.getLast?.any ([.left, .europeanDigit, .arabicDigit].contains ·)
    && !(ds.contains .europeanDigit && ds.contains .arabicDigit)

/-- Does the label run one way? -/
def isDirected (label : List Char) : Bool :=
  label = [] || runsRight (directions label) || runsAllLeft (directions label)

end Delegation.Url
