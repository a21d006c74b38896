import Delegation.Config.Basic
import Delegation.Surroundings
import Delegation.Template
import Delegation.Url.Parser

/-!
# Loading the configuration

A configuration has three layers: the defaults, a document in a file, and variables of the
environment, each above the one before. References to variables are filled in only in the url and
the token of the file. The outcome is checked once, after the last layer, so a variable can mend
what the file spoils. `load` does all of this.
-/

namespace Delegation

namespace Config

inductive LoadError where
  | unreadable (fault : ReadFault)
  | undecodable (error : Json.DecodeError)
  | unknownBackend (text : String)
  | invalidUrl (url : String) (error : Url.ParseError)
  | blankMemoryAgent
  deriving DecidableEq, Repr

def LoadError.message : LoadError → String
  | .unreadable .notFound => "No such file or directory (os error 2)"
  | .unreadable .notADirectory => "Not a directory (os error 20)"
  | .unreadable .isADirectory => "Is a directory (os error 21)"
  | .unreadable .notText => "stream did not contain valid UTF-8"
  | .unreadable .invalidPath => "file name contained an unexpected NUL byte"
  | .unreadable .tooLong => "File name too long (os error 36)"
  | .undecodable e => e.message
  | .unknownBackend text => "DELEGATE_BACKEND must be `mock` or `real`, got " ++ Text.ticked text
  | .invalidUrl url e => "Invalid gateway url " ++ Text.ticked url ++ ": " ++ e.message
  | .blankMemoryAgent => "memoryAgent must not be blank"

end Config

/-- The url of the gateway. -/
def GatewayConfig.target (c : GatewayConfig) : Except Config.LoadError Url :=
  match Url.parse c.url with
  | .ok u => .ok u
  | .error e => .error (.invalidUrl c.url e)

namespace Config

/-! ## The file -/

/-- The configuration that a document describes. -/
def ofText (text : String) : Json.Decoded Config :=
  match Json.Draft.read text with
  | (draft, trailing) =>
    match Config.decode draft, trailing with
    | .ok c, none => .ok c
    | .ok _, some fault => .error (.faulty fault)
    | .error e, _ => .error e

/-- The url and the token with their references filled in. -/
def expanded (value? : String → Option String) (c : Config) : Config :=
  { c with gateway :=
    { c.gateway with
      url := Template.expand value? c.gateway.url
      token := c.gateway.token.map (Template.expand value?) } }

/-- The variables that the url and the token refer to. -/
def references (c : Config) : List String :=
  Template.names c.gateway.url ++ (c.gateway.token.map Template.names).getD []

def ofFile (s : Surroundings) (path : String) : Except LoadError Config :=
  match (s.entry path).text with
  | .error fault => .error (.unreadable fault)
  | .ok text =>
    match ofText text with
    | .error e => .error (.undecodable e)
    | .ok c => .ok (c.expanded s.value?)

/-! ## The environment -/

/-- A backend, a url and a token that are set count as they are. -/
def overridden (value? : String → Option String) (c : Config) : Except LoadError Config :=
  let settled (backend : Backend) : Config :=
    { c with
      backend
      gateway :=
        { c.gateway with
          url := (value? "DELEGATE_GATEWAY_URL").getD c.gateway.url
          token := (value? "DELEGATE_GATEWAY_TOKEN").or c.gateway.token } }
  match value? "DELEGATE_BACKEND" with
  | none => .ok (settled c.backend)
  | some text =>
    match Backend.parse? text with
    | none => .error (.unknownBackend text)
    | some backend => .ok (settled backend)

/-! ## The check -/

/-- Refuse a configuration that cannot work. The url matters to the real backend only. -/
def validate (c : Config) : Except LoadError Unit := do
  if c.backend = .real then
    discard c.gateway.target
  if Text.trim c.memoryAgent = "" then
    throw .blankMemoryAgent

/-! ## All layers -/

/-- The last part of the path of a configuration. -/
def fileName : String := "delegate.json"

/-- The configuration in a directory of configurations. -/
def userFile (base : String) : String := joinPath (joinPath base "delegate") fileName

/-- The file to load: the one that is named, else one in the user's directory of configurations,
else one in the working directory. -/
def path? (s : Surroundings) : Option String :=
  let present (path : String) : Option String := if (s.entry path).exists? then some path else none
  (s.value? "DELEGATE_CONFIG").or <|
    ((s.value? "XDG_CONFIG_HOME").bind fun base => present (userFile base)).or <|
    present fileName

/-- The configuration with everything above it, from one file or from none. -/
def loadFrom (s : Surroundings) (path : Option String) : Except LoadError Config := do
  let c ← match path with
    | some path => ofFile s path
    | none => pure {}
  let c ← c.overridden s.value?
  c.validate
  return c

def load (s : Surroundings) : Except LoadError Config := loadFrom s (path? s)

end Config

end Delegation
