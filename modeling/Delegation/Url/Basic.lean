import Delegation.Url.Address
import Delegation.Url.Percent
import Delegation.Url.Segments

/-!
# URLs

A URL has a scheme, perhaps an authority, a path, and perhaps a query and a fragment, all in the
escaped form in which they are written. A URL without an authority may have a flat path, such as
the address after `mailto:`; nothing can be resolved against it.
-/

namespace Delegation

namespace Url

/-- Why a text is no URL, or why a reference cannot be resolved. -/
inductive ParseError where
  | relativeWithoutBase
  | emptyHost
  | invalidPort
  | invalidIpv4
  | invalidIpv6
  | invalidInternationalName
  | invalidDomainCharacter
  | flatBase
  deriving DecidableEq, Repr

def ParseError.message : ParseError → String
  | .relativeWithoutBase => "relative URL without a base"
  | .emptyHost => "empty host"
  | .invalidPort => "invalid port number"
  | .invalidIpv4 => "invalid IPv4 address"
  | .invalidIpv6 => "invalid IPv6 address"
  | .invalidInternationalName => "invalid international domain name"
  | .invalidDomainCharacter => "invalid domain character"
  | .flatBase => "relative URL with a cannot-be-a-base base"

inductive Host where
  /-- A name; the empty one stands for no host. -/
  | name (text : String)
  | ipv4 (address : Nat)
  | ipv6 (pieces : List Nat)
  deriving DecidableEq, Repr

def Host.text : Host → String
  | .name text => text
  | .ipv4 address => ipv4Text address
  | .ipv6 pieces => "[" ++ ipv6Text pieces ++ "]"

structure Authority where
  username : String := ""
  password : String := ""
  host : Host
  port : Option Nat := none
  deriving DecidableEq, Repr

inductive Path where
  | flat (text : String)
  | segments (names : List String)
  deriving DecidableEq, Repr

end Url

structure Url where
  scheme : String
  authority : Option Url.Authority := none
  path : Url.Path
  query : Option String := none
  fragment : Option String := none
  deriving DecidableEq, Repr

namespace Url

def Authority.userinfo (a : Authority) : String :=
  let secret := if a.password = "" then "" else ":" ++ a.password
  if a.username = "" && a.password = "" then "" else a.username ++ secret ++ "@"

def Authority.text (a : Authority) : String :=
  let port := match a.port with
    | some n => ":" ++ toString n
    | none => ""
  a.userinfo ++ a.host.text ++ port

def Path.text : Path → String
  | .flat text => text
  | .segments names => String.join (names.map ("/" ++ ·))

/-- The written form. A path that would look like an authority is kept apart by a dot. -/
def text (u : Url) : String :=
  let place := match u.authority, u.path with
    | some a, _ => "//" ++ a.text
    | none, .segments ("" :: _ :: _) => "/."
    | none, _ => ""
  let query := match u.query with
    | some q => "?" ++ q
    | none => ""
  let fragment := match u.fragment with
    | some f => "#" ++ f
    | none => ""
  u.scheme ++ ":" ++ place ++ u.path.text ++ query ++ fragment

/-- Does the URL name a host? -/
def hasHost (u : Url) : Bool := u.authority.any fun a => a.host != .name ""

/-- Do the bytes that an escaped text stands for spell a text? -/
def spellsText (escaped : String) : Bool :=
  (String.fromUTF8? ⟨(percentDecoded escaped.toList).toArray⟩).isSome

/-- Has the authority a name, or else a secret, that can be told a server? A name that is no text
tells nothing. -/
def Authority.hasCredentials (a : Authority) : Bool :=
  spellsText a.username && (a.username ≠ "" || (a.password ≠ "" && spellsText a.password))

/-- The authority without a name and a secret that can be told a server. -/
def Authority.withoutCredentials (a : Authority) : Authority :=
  if a.hasCredentials then { a with username := "", password := "" } else a

/-- The URL as it is shown. -/
def shown (u : Url) : Url :=
  { u with authority := u.authority.map Authority.withoutCredentials }

/-- The URL of the directory that a URL names: its path ends with a slash. The path of a file is
read again, for it may begin with a drive that empty names had hidden. -/
def asDirectory (u : Url) : Url :=
  match u.path with
  | .flat text => { u with path := .flat (if text.endsWith "/" then text else text ++ "/") }
  | .segments names =>
    if names.getLast? = some "" then u
    else if u.scheme = "file" then
      { u with path := .segments (readFile ((names ++ [""]).map (⟨·, none⟩))) }
    else { u with path := .segments (names ++ [""]) }

/-- Resolve a relative reference of plain segments: it takes the place of the last segment. -/
def join (u : Url) (names : List String) : Except ParseError Url :=
  match u.path with
  | .flat _ => .error .flatBase
  | .segments base =>
    .ok { u with path := .segments (base.dropLast ++ names), query := none, fragment := none }

end Url

end Delegation
