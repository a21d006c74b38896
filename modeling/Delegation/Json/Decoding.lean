import Delegation.Json.Draft
import Delegation.Number.Shortest
import Delegation.Number.Single
import Delegation.Text.Quoted

/-!
# Decoding documents into typed values

A typed value is decoded from a document in memory or straight from the draft of a text, and the
two are told apart by what they are a `Source` of. A record is decoded from an object by the names
of its fields, in the order of the object's entries, or from an array by their positions. The
first thing that is wrong is the one reported, and `DecodeError.message` words it.

A field is *required*, *nullable* (none if null or not named) or *defaulted* (may also be left out
at the end of an array).
-/

namespace Delegation

open Number (Double Single)

namespace Json

/-- What was found where something else was expected. -/
inductive Found where
  | null
  | bool (value : Bool)
  | int (value : Int)
  | real (value : Double)
  | str (value : String)
  | seq
  | map
  deriving DecidableEq, Repr

inductive DecodeError where
  | invalidType (found : Found) (expected : String)
  | invalidValue (found : Found) (expected : String)
  | invalidLength (length : Nat) (expected : String)
  | missingField (name : String)
  | duplicateField (name : String)
  | unknownVariant (found : String) (known : List String)
  /-- The text itself is at fault. -/
  | faulty (fault : Fault)
  deriving DecidableEq, Repr

def Found.text : Found → String
  | .null => "null"
  | .bool b => "boolean " ++ Text.ticked (if b then "true" else "false")
  | .int i => "integer " ++ Text.ticked (toString i)
  | .real d => "floating point " ++ Text.ticked d.text
  | .str s => "string " ++ Text.quoted s
  | .seq => "sequence"
  | .map => "map"

def choiceText : List String → String
  | [] => "there are no variants"
  | [a] => "expected " ++ Text.ticked a
  | [a, b] => "expected " ++ Text.ticked a ++ " or " ++ Text.ticked b
  | known => "expected one of " ++ String.intercalate ", " (known.map Text.ticked)

def DecodeError.message : DecodeError → String
  | .invalidType found expected => "invalid type: " ++ found.text ++ ", expected " ++ expected
  | .invalidValue found expected => "invalid value: " ++ found.text ++ ", expected " ++ expected
  | .invalidLength n expected => "invalid length " ++ toString n ++ ", expected " ++ expected
  | .missingField name => "missing field " ++ Text.ticked name
  | .duplicateField name => "duplicate field " ++ Text.ticked name
  | .unknownVariant found known =>
    "unknown variant " ++ Text.ticked found ++ ", " ++ choiceText known
  | .faulty .unfinished => "the text ends inside a document"
  | .faulty .malformed => "the text is no document"

abbrev Decoded (α : Type) := Except DecodeError α

/-! ## Sources -/

/-- Does a decoder look at a document or at the text of one? -/
inductive Origin where
  | document
  | text
  deriving DecidableEq, Repr

/-- The outermost layer of what is decoded. -/
inductive View (ν : Type) where
  | null
  | bool (value : Bool)
  | num (value : Numeral)
  | str (value : String)
  | seq (items : List ν) (ending : Option Fault)
  | map (entries : List (Except Fault String × ν)) (ending : Option Fault)
  /-- An object whose first key is no string. -/
  | keyless (key : ν)
  /-- Could it have become a name? -/
  | faulty (nameable : Bool) (fault : Fault)

class Source (ν : Type) where
  origin : Origin
  view : ν → View ν
  /-- The fault met when the value is not wanted. -/
  pass : ν → Option Fault

instance : Source Json where
  origin := .document
  view
    | .null => .null
    | .bool b => .bool b
    | .num n => .num n
    | .str s => .str s
    | .arr items => .seq items none
    | .obj entries => .map (entries.map fun e => (.ok e.1, e.2)) none
  pass _ := none

instance : Source Draft where
  origin := .text
  view
    | .null => .null
    | .bool b => .bool b
    | .num n =>
      match n.value with
      | .ok n => .num n
      | .error f => .faulty false f
    | .str s =>
      match s.value with
      | .ok s => .str s
      | .error f => .faulty true f
    | .arr items ending => .seq items ending
    | .obj entries ending => .map (entries.map fun e => (e.1.value, e.2)) ending
    | .keyless key => .keyless key
    | .broken begun fault => .faulty (!begun) fault
  pass := Draft.pass

section
variable {ν : Type} [Source ν] {α β : Type}

/-- What a layer is called when it is not what was expected. -/
def View.mismatch (expected : String) : View ν → DecodeError
  | .null => .invalidType .null expected
  | .bool b => .invalidType (.bool b) expected
  | .num (.int i) => .invalidType (.int i) expected
  | .num (.real d) => .invalidType (.real d) expected
  | .str s => .invalidType (.str s) expected
  | .seq _ _ => .invalidType .seq expected
  | .map _ _ => .invalidType .map expected
  | .keyless _ => .invalidType .map expected
  | .faulty _ fault => .faulty fault

/-- A fault that lies on the way. -/
def faultless (fault : Option Fault) : Decoded Unit :=
  match fault with
  | some f => .error (.faulty f)
  | none => .ok ()

/-! ## Plain values -/

def decodeString (v : ν) : Decoded String :=
  match Source.view v with
  | .str s => .ok s
  | other => .error (other.mismatch "a string")

def decodeBool (v : ν) : Decoded Bool :=
  match Source.view v with
  | .bool b => .ok b
  | other => .error (other.mismatch "a boolean")

/-- An unsigned word; `expected` is what its type is called in messages. -/
def decodeWord (expected : String) (v : ν) : Decoded UInt64 :=
  match Source.view v with
  | .num (.int i) =>
    if 0 ≤ i ∧ i ≤ wordMax then .ok (UInt64.ofNat i.toNat)
    else .error (.invalidValue (.int i) expected)
  | other => .error (other.mismatch expected)

def decodeInt64 (v : ν) : Decoded Int64 :=
  match Source.view v with
  | .num (.int i) =>
    if int64Min ≤ i ∧ i ≤ int64Max then .ok (Int64.ofInt i)
    else .error (.invalidValue (.int i) "i64")
  | other => .error (other.mismatch "i64")

/-- Any number is rounded to single precision. -/
def decodeSingle (v : ν) : Decoded Single :=
  match Source.view v with
  | .num (.int i) => .ok (.ofInt i)
  | .num (.real d) => .ok (.ofDouble d)
  | other => .error (other.mismatch "f32")

/-- Null is none. -/
def decodeOption (decode : ν → Decoded α) (v : ν) : Decoded (Option α) :=
  match Source.view v with
  | .null => .ok none
  | _ => (decode v).map some

def decodeItems (decode : ν → Decoded α) : List ν → Decoded (List α)
  | [] => .ok []
  | v :: rest => do
    let a ← decode v
    let as ← decodeItems decode rest
    return a :: as

def decodeList (decode : ν → Decoded α) (v : ν) : Decoded (List α) :=
  match Source.view v with
  | .seq items ending => do
    let as ← decodeItems decode items
    faultless ending
    return as
  | other => .error (other.mismatch "a sequence")

/-! ## One of several names -/

/-- The value that a name stands for. -/
def decodeName (known : List (String × α)) (name : String) : Decoded α :=
  match known.find? (·.1 = name) with
  | some (_, a) => .ok a
  | none => .error (.unknownVariant name (known.map (·.1)))

/-- A named alternative carries nothing: what stands beside its name must be null. -/
def decodeNothing (v : ν) : Decoded Unit :=
  match Source.view v with
  | .null => .ok ()
  | other => .error (other.mismatch "unit")

/-- One of the known names, alone or as the only key of an object. -/
def decodeVariant (known : List (String × α)) (v : ν) : Decoded α :=
  match Source.view v with
  | .str name => decodeName known name
  | .map entries ending =>
    match Source.origin ν, entries with
    | .document, [(key, payload)] => do
      let a ← decodeName known (← key.mapError .faulty)
      decodeNothing payload
      return a
    | .document, _ => .error (.invalidValue .map "map with a single key")
    | .text, (key, payload) :: rest => do
      let a ← decodeName known (← key.mapError .faulty)
      decodeNothing payload
      if rest.isEmpty then faultless ending else .error (.faulty .malformed)
      return a
    | .text, [] => .error (.faulty (ending.getD .malformed))
  | .keyless key => .error ((Source.view key).mismatch "variant identifier")
  | .faulty nameable fault =>
    .error (.faulty (if nameable then fault else .malformed))
  | other =>
    match Source.origin ν with
    | .document => .error (other.mismatch "string or map")
    | .text => .error (.faulty .malformed)

/-! ## Records -/

/-- An array that is decoded as a record. -/
structure Row (ν : Type) where
  items : List ν
  ending : Option Fault
  /-- What the record is called when the array is too short. -/
  expected : String

/-- The item at a position; none if the array ends before it. -/
def Row.item (row : Row ν) (i : Nat) : Decoded (Option ν) :=
  match row.items[i]? with
  | some v => .ok (some v)
  | none => do
    faultless row.ending
    return none

/-- How a record is put together from its fields. -/
structure Layout (ν : Type) (α : Type) where
  /-- The names of the fields in order, each with the check that its value decodes. -/
  fields : List (String × (ν → Decoded Unit))
  /-- The record from entries that were checked. -/
  named : List (String × ν) → Decoded α
  /-- The record from an array, its first field at a position. -/
  placed : Row ν → Nat → Decoded α

/-- The value of a key among checked entries. -/
def lookUp (name : String) (entries : List (String × ν)) : Option ν :=
  (entries.find? (·.1 = name)).map (·.2)

/-- The check of a field forgets the decoded value. -/
def checked (decode : ν → Decoded α) (v : ν) : Decoded Unit := (decode v).map fun _ => ()

namespace Layout

/-- A field; `unnamed` is its value where no entry names it, `beyond` where the array has ended. -/
def field (name : String) (decode : ν → Decoded α) (unnamed : Decoded α)
    (beyond : Option α) : Layout ν α where
  fields := [(name, checked decode)]
  named entries :=
    match lookUp name entries with
    | some v => decode v
    | none => unnamed
  placed row i := do
    match ← row.item i, beyond with
    | some v, _ => decode v
    | none, some a => return a
    | none, none => .error (.invalidLength i row.expected)

def required (name : String) (decode : ν → Decoded α) : Layout ν α :=
  field name decode (.error (.missingField name)) none

def nullable (name : String) (decode : ν → Decoded α) : Layout ν (Option α) :=
  field name (decodeOption decode) (.ok none) none

def defaulted (name : String) (decode : ν → Decoded α) (value : α) : Layout ν α :=
  field name decode (.ok value) (some value)

/-- A nullable field that may also be left out at the end of an array. -/
def omissible (name : String) (decode : ν → Decoded α) : Layout ν (Option α) :=
  defaulted name (decodeOption decode) none

protected def map (f : α → β) (l : Layout ν α) : Layout ν β where
  fields := l.fields
  named entries := (l.named entries).map f
  placed row i := (l.placed row i).map f

/-- The fields of the first part come before those of the second. -/
protected def ap (f : Layout ν (α → β)) (l : Layout ν α) : Layout ν β where
  fields := f.fields ++ l.fields
  named entries := do
    let g ← f.named entries
    let a ← l.named entries
    return g a
  placed row i := do
    let g ← f.placed row i
    let a ← l.placed row (i + f.fields.length)
    return g a

instance : Functor (Layout ν) where
  map := Layout.map

instance : Seq (Layout ν) where
  seq f l := f.ap (l ())

/-- Go through the entries in order: a known key decodes and comes once, an unknown one is passed
over. -/
def check (fields : List (String × (ν → Decoded Unit))) (seen : List String) :
    List (Except Fault String × ν) → Decoded (List (String × ν))
  | [] => .ok []
  | (key, v) :: rest => do
    let key ← key.mapError .faulty
    match fields.find? (·.1 = key) with
    | some (_, decode) =>
      if key ∈ seen then .error (.duplicateField key)
      else
        decode v
        let found ← check fields (key :: seen) rest
        return (key, v) :: found
    | none =>
      faultless (Source.pass v)
      check fields seen rest

/-- A record has so many elements. -/
def expectedRecord (name : String) (count : Nat) : String :=
  "struct " ++ name ++ " with " ++ toString count ++ (if count = 1 then " element" else " elements")

/-- An array longer than the record. -/
def surplus (origin : Origin) (length : Nat) : DecodeError :=
  match origin with
  | .document => .invalidLength length "fewer elements in array"
  | .text => .faulty .malformed

/-- Decode a record of the given name. -/
def decode (name : String) (l : Layout ν α) (v : ν) : Decoded α :=
  match Source.view v with
  | .map entries ending => do
    let found ← check l.fields [] entries
    faultless ending
    l.named found
  | .seq items ending => do
    let count := l.fields.length
    let a ← l.placed ⟨items, ending, expectedRecord name count⟩ 0
    if count < items.length then .error (surplus (Source.origin ν) items.length)
    faultless ending
    return a
  | .keyless _ => .error (.faulty .malformed)
  | other => .error (other.mismatch ("struct " ++ name))

end Layout

end

end Json

end Delegation
