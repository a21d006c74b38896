import Delegation.Json.Decoding
import Delegation.Text.Blank

/-!
# Backends

Runs go either to a simulator inside the program or to the real remote side.
-/

namespace Delegation

inductive Backend where
  | mock
  | real
  deriving DecidableEq, Repr, Inhabited

namespace Backend

def text : Backend → String
  | .mock => "mock"
  | .real => "real"

def all : List Backend := [.mock, .real]

/-- The backend that a text names; case and blanks around it do not matter. -/
def parse? (s : String) : Option Backend :=
  all.find? fun b => b.text = Text.asciiLower (Text.trim s)

def encode (b : Backend) : Json := .str b.text

def decode {ν : Type} [Json.Source ν] (v : ν) : Json.Decoded Backend :=
  Json.decodeVariant (all.map fun b => (b.text, b)) v

end Backend

end Delegation
