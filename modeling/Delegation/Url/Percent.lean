import Delegation.Text.Digits

/-!
# Percent encoding

A character that may not stand for itself in a part of a URL is written as its bytes in UTF-8, each
a percent sign with two hexadecimal digits. Which characters stay differs from part to part, so it
is an argument. `percentEncoded_of_stays` says that a text of staying characters is left alone.
-/

namespace Delegation.Url

def utf8 (c : Char) : List UInt8 := (String.singleton c).toUTF8.data.toList

def escapedByte (b : UInt8) : List Char := '%' :: (Text.hexPadded 2 b.toNat).map Char.toUpper

def percentEncoded (stays : Char → Bool) (cs : List Char) : List Char :=
  cs.flatMap fun c => if stays c then [c] else (utf8 c).flatMap escapedByte

/-- The bytes that a text stands for. A percent sign without two digits stands for itself. -/
def percentDecoded : List Char → List UInt8
  | '%' :: a :: b :: rest =>
    match Text.hexValue? a, Text.hexValue? b with
    | some x, some y => UInt8.ofNat (16 * x + y) :: percentDecoded rest
    | _, _ => 0x25 :: percentDecoded (a :: b :: rest)
  | c :: rest => utf8 c ++ percentDecoded rest
  | [] => []

theorem percentEncoded_of_stays (stays : Char → Bool) (cs : List Char)
    (h : ∀ c ∈ cs, stays c = true) : percentEncoded stays cs = cs := by
  induction cs with
  | nil => rfl
  | cons c cs ih =>
    have ih := ih fun d hd => h d (List.mem_cons_of_mem c hd)
    simp only [percentEncoded] at ih
    simp [percentEncoded, h c List.mem_cons_self, ih]

/-! ## What stays -/

/-- The printing characters of ASCII, the space among them. -/
def staysPlain (c : Char) : Bool := 0x20 ≤ c.toNat && c.toNat ≤ 0x7E

def staysInFragment (c : Char) : Bool := staysPlain c && !" \"<>`".contains c

def staysInQuery (isSpecial : Bool) (c : Char) : Bool :=
  staysPlain c && !" \"#<>".contains c && !(isSpecial && c == '\'')

def staysInPath (c : Char) : Bool := staysInFragment c && !"#?\x7b\x7d".contains c

def staysInUserinfo (c : Char) : Bool := staysInPath c && !"/:;=@[\\]^|".contains c

end Delegation.Url
