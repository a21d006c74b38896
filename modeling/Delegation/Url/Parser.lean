import Delegation.Url.Basic
import Delegation.Url.Domain
import Delegation.Url.Percent

/-!
# Reading URLs

Blanks and control characters around a URL, and tabs and line ends anywhere in it, do not count,
but for those right behind a drive, which divide a segment of the path of a file. The schemes of
the web are special: their URLs always have a host, a backslash is as good as a slash, and their
host is a name to be folded or an address. The text is cut from the left, scheme, user, host, port,
path, query, fragment, and the first part at fault is the one reported.
-/

namespace Delegation.Url

/-- How URLs of a scheme are read. -/
inductive SchemeKind where
  | special
  | file
  | other
  deriving DecidableEq, Repr

def kindOf (scheme : String) : SchemeKind :=
  if scheme = "file" then .file
  else if ["http", "https", "ws", "wss", "ftp"].contains scheme then .special
  else .other

/-- The port that need not be written. -/
def defaultPort? (scheme : String) : Option Nat :=
  if scheme = "http" || scheme = "ws" then some 80
  else if scheme = "https" || scheme = "wss" then some 443
  else if scheme = "ftp" then some 21
  else none

/-- A text without what does not count around it. -/
def inner (cs : List Char) : List Char :=
  let isOuter (c : Char) := decide (c.toNat ≤ 0x20)
  ((cs.dropWhile isOuter).reverse.dropWhile isOuter).reverse

def isBreak (c : Char) : Bool := c = '\t' || c = '\n' || c = '\r'

def withoutBreaks (cs : List Char) : List Char := cs.filter (!isBreak ·)

def isSchemeChar (c : Char) : Bool := c.isAlphanum || c = '+' || c = '-' || c = '.'

/-- The scheme in small letters, and what follows its colon. -/
def scheme? (cs : List Char) : Option (String × List Char) :=
  match cs.takeWhile isSchemeChar, cs.dropWhile isSchemeChar with
  | c :: name, ':' :: rest =>
    if c.isAlpha then some (String.ofList ((c :: name).map Char.toLower), rest) else none
  | _, _ => none

/-- Does the character end an authority? -/
def endsAuthority (isSpecial : Bool) (c : Char) : Bool :=
  c = '/' || c = '?' || c = '#' || (isSpecial && c = '\\')

/-- The characters before and after the last at sign. -/
def cutAtLastAt (cs : List Char) : Option (List Char × List Char) :=
  let after := (cs.reverse.takeWhile (· ≠ '@')).reverse
  if after.length = cs.length then none
  else some (cs.take (cs.length - after.length - 1), after)

/-- A name and a secret, apart at the first colon. -/
def userinfo (cs : List Char) : String × String :=
  let written (cs : List Char) := String.ofList (percentEncoded staysInUserinfo cs)
  (written (cs.takeWhile (· ≠ ':')), written ((cs.dropWhile (· ≠ ':')).drop 1))

/-- A host without the port after it; a colon between square brackets belongs to the host. -/
def hostChars : Bool → List Char → List Char × List Char
  | _, [] => ([], [])
  | inBrackets, c :: rest =>
    if c = ':' && !inBrackets then ([], c :: rest)
    else
      let (host, port) := hostChars (c = '[' || (inBrackets && c ≠ ']')) rest
      (c :: host, port)

/-- What stands between square brackets. -/
def bracketed? : List Char → Option (List Char)
  | '[' :: rest => if rest.getLast? = some ']' then some rest.dropLast else some []
  | _ => none

/-- A host of which nothing is known but that it is no address between brackets. -/
def plainHost (cs : List Char) : Except ParseError Host :=
  if cs.any fun c => "\x00\t\n\r #/:<>?@[\\]^|".contains c then .error .invalidDomainCharacter
  else .ok (.name (String.ofList (percentEncoded staysPlain cs)))

/-- A host name, or the address that it spells. -/
def namedHost (cs : List Char) : Except ParseError Host :=
  match name? (percentDecoded cs) with
  | none => .error .invalidInternationalName
  | some [] => .error .emptyHost
  | some name =>
    if endsInNumber name then
      match ipv4? name with
      | some address => .ok (.ipv4 address)
      | none => .error .invalidIpv4
    else .ok (.name (String.ofList name))

def readHost (isSpecial : Bool) (cs : List Char) : Except ParseError Host :=
  match bracketed? cs with
  | some inner =>
    match ipv6? inner with
    | some pieces => .ok (.ipv6 pieces)
    | none => .error .invalidIpv6
  | none => if isSpecial then namedHost cs else plainHost cs

/-- The port after a host, nothing or a colon and perhaps digits, and what a backslash cuts off. -/
def readPort (scheme : String) : List Char → Except ParseError (Option Nat × List Char)
  | [] => .ok (none, [])
  | _ :: rest =>
    let digits := rest.takeWhile (· ≠ '\\')
    let left := rest.dropWhile (· ≠ '\\')
    if digits = [] then .ok (none, left)
    else
      match Text.decimal? digits with
      | none => .error .invalidPort
      | some n =>
        if 65535 < n then .error .invalidPort
        else .ok (if defaultPort? scheme = some n then none else some n, left)

/-- The authority in front of a path, and what is left of it for the path. -/
def readAuthority (scheme : String) (isSpecial : Bool) (cs : List Char) :
    Except ParseError (Authority × List Char) := do
  let (user, place) := (cutAtLastAt cs).getD ([], cs)
  let (name, rest) := hostChars false place
  if name = [] && (isSpecial || rest ≠ []) then throw .emptyHost
  let host ← readHost isSpecial name
  let (port, left) ← readPort scheme rest
  let (username, password) := userinfo user
  if name = [] && (username ≠ "" || password ≠ "") then throw .emptyHost
  return ({ username, password, host, port }, left)

/-! ## Paths -/

/-- The escaped segments of a path, the first slash taken off. -/
def segments (isSpecial : Bool) (cs : List Char) : List String :=
  let cs := if isSpecial then cs.map fun c => if c = '\\' then '/' else c else cs
  (parts '/' cs).map fun p => String.ofList (percentEncoded staysInPath p)

/-- The segments of a path after an authority: a special URL always has one. -/
def segmentsAfter (isSpecial : Bool) : List Char → List String
  | [] => if isSpecial then [""] else []
  | c :: rest =>
    if c = '/' || (isSpecial && c = '\\') then segments isSpecial rest
    else segments isSpecial (c :: rest)

/-- The query and the fragment at the end of a URL. -/
def tail (isSpecial : Bool) (cs : List Char) : Option String × Option String :=
  let query := cs.takeWhile (· ≠ '#')
  let fragment := match cs.dropWhile (· ≠ '#') with
    | '#' :: rest => some (String.ofList (percentEncoded staysInFragment rest))
    | _ => none
  match query with
  | '?' :: rest => (some (String.ofList (percentEncoded (staysInQuery isSpecial) rest)), fragment)
  | _ => (none, fragment)

def isTailStart (c : Char) : Bool := c = '?' || c = '#'

/-- A URL, its path read by `path` from what stands before the query. -/
def assembled (scheme : String) (isSpecial : Bool) (authority : Option Authority)
    (path : List Char → Path) (cs : List Char) : Url :=
  let (query, fragment) := tail isSpecial (cs.dropWhile (!isTailStart ·))
  { scheme, authority, path := path (cs.takeWhile (!isTailStart ·)), query, fragment }

/-! ## Whole URLs -/

/-- What follows the two slashes. There has to be a host between an at sign and a path. -/
def afterSlashes (scheme : String) (isSpecial : Bool) (cs : List Char) : Except ParseError Url :=
  let front := cs.takeWhile (!endsAuthority isSpecial ·)
  let rest := cs.dropWhile (!endsAuthority isSpecial ·)
  if front = ['@'] && rest ≠ [] then .error .emptyHost
  else
    (readAuthority scheme isSpecial front).map fun (a, left) =>
      assembled scheme isSpecial (some a)
        (fun p => .segments (readPlain (segmentsAfter isSpecial p))) (left ++ rest)

/-- The host of a file may be left out, and the local one is. -/
def fileHost (cs : List Char) : Except ParseError Host :=
  if cs = [] then .ok (.name "")
  else
    (readHost true cs).map fun h => if h = .name "localhost" then .name "" else h

/-- The drive in front of a segment and what is behind it, if a break stands between them. -/
def divided? (cs : List Char) : Option (List Char × List Char) :=
  match cs.dropWhile isBreak with
  | letter :: cs =>
    match cs.dropWhile isBreak with
    | ':' :: c :: rest =>
      if letter.isAlpha && isBreak c && rest.any (!isBreak ·) then some ([letter, ':'], rest)
      else none
    | _ => none
  | [] => none

/-- A segment of the path of a file, with the breaks in it. -/
def fileSegment (cs : List Char) : Segment :=
  let written (cs : List Char) := String.ofList (percentEncoded staysInPath (withoutBreaks cs))
  ⟨written cs, (divided? cs).map fun (drive, rest) => (written drive, written rest)⟩

/-- The segments of the path of a file, one at least, with the breaks in it. -/
def fileSegments (cs : List Char) : List Segment :=
  let cs := cs.map fun c => if c = '\\' then '/' else c
  let cs := match cs.dropWhile isBreak with
    | '/' :: rest => rest
    | _ => cs
  (parts '/' cs).map fileSegment

/-- A file at a host. A path that begins with a drive is of this machine, whatever host is named. -/
def fileAt (h : Host) (cs : List Char) : Url :=
  let segments := fileSegments (cs.takeWhile (!isTailStart ·))
  let host := if entersDrive [] segments then .name "" else h
  assembled "file" true (some { host }) (fun _ => .segments (readFile segments)) (withoutBreaks cs)

/-- The URL of a file, with the breaks in it. -/
def fileUrl (cs : List Char) : Except ParseError Url :=
  let isSlash (c : Char) := c = '/' || c = '\\'
  match withoutBreaks cs with
  | a :: b :: front =>
    if isSlash a && isSlash b then
      let front := front.takeWhile (!endsAuthority true ·)
      let rest := (((cs.dropWhile isBreak).drop 1).dropWhile isBreak).drop 1
      if isDrive (String.ofList front) then .ok (fileAt (.name "") rest)
      else (fileHost front).map (fileAt · (rest.dropWhile (!endsAuthority true ·)))
    else .ok (fileAt (.name "") cs)
  | _ => .ok (fileAt (.name "") cs)

def otherUrl (scheme : String) : List Char → Url
  | '/' :: rest =>
    assembled scheme false none (fun p => .segments (readPlain (segments false p))) rest
  | cs =>
    assembled scheme false none (fun p => .flat (String.ofList (percentEncoded staysPlain p))) cs

def parse (text : String) : Except ParseError Url :=
  let cs := inner text.toList
  match scheme? (withoutBreaks cs) with
  | none => .error .relativeWithoutBase
  | some (scheme, rest) =>
    match kindOf scheme, rest with
    | .special, rest =>
      afterSlashes scheme true (rest.dropWhile fun c => c = '/' || c = '\\')
    | .file, _ => fileUrl ((cs.dropWhile (· ≠ ':')).drop 1)
    | .other, '/' :: '/' :: rest => afterSlashes scheme false rest
    | .other, rest => .ok (otherUrl scheme rest)

end Delegation.Url
