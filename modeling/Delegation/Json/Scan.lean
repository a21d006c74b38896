import Delegation.Json.Numerals
import Delegation.Text.Digits

/-!
# Strings and numbers of a document text

A text is read from its front as a list of characters. A string or a number can be *read*, for its
value, or *skipped*, because nobody asked for it; skipping is more lenient. Both outcomes are kept
in a `Scanned`. A fault is either that the text ends too early or that it is malformed.
-/

namespace Delegation.Json

open Text (hexValue? decimalValue?)

/-- Why a text is no document. -/
inductive Fault where
  /-- The text ends inside a document. -/
  | unfinished
  /-- No continuation could make the text a document. -/
  | malformed
  deriving DecidableEq, Repr, Inhabited

/-- A part of a text: its value, or why it has none; and whether it can be skipped. -/
structure Scanned (α : Type) where
  value : Except Fault α
  skip : Option Fault

/-- What is left of the text; none after a fault that stops both reading and skipping. -/
abbrev Rest := Option (List Char)

/-! ## Strings -/

/-- The characters that a backslash and one letter stand for. -/
def shortEscape? (c : Char) : Option Char :=
  if c = '"' then some '"'
  else if c = '\\' then some '\\'
  else if c = '/' then some '/'
  else if c = 'b' then some '\x08'
  else if c = 'f' then some '\x0c'
  else if c = 'n' then some '\x0a'
  else if c = 'r' then some '\x0d'
  else if c = 't' then some '\x09'
  else none

/-- The value of four hexadecimal digits. -/
def word? (a b c d : Char) : Option Nat := do
  let a ← hexValue? a
  let b ← hexValue? b
  let c ← hexValue? c
  let d ← hexValue? d
  return ((a * 16 + b) * 16 + c) * 16 + d

/-- Four digits are missing: too little text (counted in bytes), or something else in their
place. -/
def wordFault (rest : List Char) : Fault :=
  let bytes := (rest.take 4).foldl (fun n c => n + c.utf8Size) 0
  if bytes < 4 then .unfinished else .malformed

def isHighSurrogate (n : Nat) : Bool := 0xD800 ≤ n && n ≤ 0xDBFF
def isLowSurrogate (n : Nat) : Bool := 0xDC00 ≤ n && n ≤ 0xDFFF

/-- The second half of a surrogate pair is missing. -/
def pairFault : List Char → Fault
  | [] => .unfinished
  | ['\\'] => .unfinished
  | '\\' :: 'u' :: rest => wordFault rest
  | _ => .malformed

/-- The character of a surrogate pair. -/
def pairChar (high low : Nat) : Char :=
  Char.ofNat (0x10000 + (high - 0xD800) * 1024 + (low - 0xDC00))

/-- One more character before the text that was read. -/
def withChar (c : Char) :
    Except Fault (List Char × List Char) → Except Fault (List Char × List Char)
  | .ok (cs, rest) => .ok (c :: cs, rest)
  | .error f => .error f

/-- Read a string after its opening quote: its characters, and the text after its closing
quote. -/
def readString : List Char → Except Fault (List Char × List Char)
  | [] => .error .unfinished
  | c :: rest =>
    if c = '"' then .ok ([], rest)
    else if c = '\\' then
      match rest with
      | [] => .error .unfinished
      | e :: rest =>
        match shortEscape? e with
        | some s => withChar s (readString rest)
        | none =>
          if e = 'u' then
            match rest with
            | a :: b :: c :: d :: rest =>
              match word? a b c d with
              | none => .error (wordFault (a :: b :: c :: d :: rest))
              | some n =>
                if isLowSurrogate n then .error .malformed
                else if isHighSurrogate n then
                  match rest with
                  | '\\' :: 'u' :: a' :: b' :: c' :: d' :: rest' =>
                    match word? a' b' c' d' with
                    | none => .error (wordFault (a' :: b' :: c' :: d' :: rest'))
                    | some m =>
                      if isLowSurrogate m then withChar (pairChar n m) (readString rest')
                      else .error .malformed
                  | other => .error (pairFault other)
                else withChar (Char.ofNat n) (readString rest)
            | other => .error (wordFault other)
          else .error .malformed
    else if c.toNat < 32 then .error .malformed
    else withChar c (readString rest)

/-- Skip a string after its opening quote: surrogates need not be paired. -/
def skipString : List Char → Except Fault (List Char)
  | [] => .error .unfinished
  | c :: rest =>
    if c = '"' then .ok rest
    else if c = '\\' then
      match rest with
      | [] => .error .unfinished
      | e :: rest =>
        if (shortEscape? e).isSome then skipString rest
        else if e = 'u' then
          match rest with
          | a :: b :: c :: d :: rest =>
            if (word? a b c d).isSome then skipString rest
            else .error (wordFault (a :: b :: c :: d :: rest))
          | other => .error (wordFault other)
        else .error .malformed
    else if c.toNat < 32 then .error .malformed
    else skipString rest

/-- A string after its opening quote. -/
def scanString (cs : List Char) : Scanned String × Rest :=
  let value := (readString cs).map fun (s, _) => String.ofList s
  match skipString cs with
  | .ok rest => (⟨value, none⟩, some rest)
  | .error f => (⟨value, some f⟩, none)

/-! ## Numbers -/

/-- The digits at the front of a text, and the text after them. -/
def spanDigits : List Char → List Nat × List Char
  | [] => ([], [])
  | c :: rest =>
    match decimalValue? c with
    | some d => let (ds, rest) := spanDigits rest; (d :: ds, rest)
    | none => ([], c :: rest)

/-- A digit is missing where `rest` begins. A number that is only skipped has no excuse for
ending early. -/
def missingDigit (rest : List Char) : Scanned Numeral × Rest :=
  (⟨.error (if rest = [] then .unfinished else .malformed), some .malformed⟩, none)

def completed (t : NumeralText) (rest : List Char) : Scanned Numeral × Rest :=
  (⟨match t.value with
    | some n => .ok n
    | none => .error .malformed, none⟩, some rest)

/-- The exponent, if one follows. -/
def scanExponent (negative : Bool) (whole : List Nat) (fraction : Option (List Nat))
    (cs : List Char) : Scanned Numeral × Rest :=
  match cs with
  | c :: rest =>
    if c = 'e' ∨ c = 'E' then
      let (below, rest) :=
        match rest with
        | '-' :: rest => (true, rest)
        | '+' :: rest => (false, rest)
        | rest => (false, rest)
      match spanDigits rest with
      | ([], rest) => missingDigit rest
      | (ds, rest) => completed ⟨negative, whole, fraction, some (below, ds)⟩ rest
    else completed ⟨negative, whole, fraction, none⟩ cs
  | [] => completed ⟨negative, whole, fraction, none⟩ []

/-- The digits before the point, then a fraction, if one follows. -/
def scanUnsigned (negative : Bool) (cs : List Char) : Scanned Numeral × Rest :=
  match spanDigits cs with
  | ([], rest) => missingDigit rest
  | (whole, rest) =>
    if whole.head? = some 0 ∧ 1 < whole.length then
      (⟨.error .malformed, some .malformed⟩, none)
    else
      match rest with
      | '.' :: rest =>
        match spanDigits rest with
        | ([], rest) => missingDigit rest
        | (fraction, rest) => scanExponent negative whole (some fraction) rest
      | rest => scanExponent negative whole none rest

/-- A number, from its sign or first digit on. -/
def scanNumeral : List Char → Scanned Numeral × Rest
  | '-' :: rest => scanUnsigned true rest
  | cs => scanUnsigned false cs

end Delegation.Json
