import Delegation.Number.Double

/-!
# Documents

Everything that crosses a boundary of the program is a JSON document. A number is a whole number
of 64 bits (signed or not) or a double; an object lists its entries. A document that was read has
the keys of each object in ascending order, each once (`Json.Ordered`); a document that is about
to be written has them in the order in which its type declares them, and `Json.sorted` brings it
into the first form.
-/

namespace Delegation

open Number (Double)

/-- A number of a document. -/
inductive Numeral where
  | int (value : Int)
  | real (value : Double)
  deriving DecidableEq, Repr, Inhabited

inductive Json where
  | null
  | bool (value : Bool)
  | num (value : Numeral)
  | str (value : String)
  | arr (items : List Json)
  | obj (entries : List (String × Json))
  deriving Inhabited, Repr

/-- The range of a signed word of 64 bits. -/
def int64Min : Int := -9223372036854775808
def int64Max : Int := 9223372036854775807
/-- The greatest unsigned word of 64 bits. -/
def wordMax : Nat := 18446744073709551615

/-- An integer brought into the range of a signed word by clamping. -/
def saturate64 (i : Int) : Int64 := Int64.ofInt (max int64Min (min int64Max i))

namespace Numeral

/-- Whole numbers of a document lie in the range of a signed or of an unsigned word. -/
def InRange : Numeral → Prop
  | .int i => int64Min ≤ i ∧ i ≤ wordMax
  | .real _ => True

def int64? : Numeral → Option Int64
  | .int i => if int64Min ≤ i ∧ i ≤ int64Max then some (Int64.ofInt i) else none
  | .real _ => none

end Numeral

namespace Json

def text? : Json → Option String
  | .str s => some s
  | _ => none

def items? : Json → Option (List Json)
  | .arr items => some items
  | _ => none

def entries? : Json → Option (List (String × Json))
  | .obj entries => some entries
  | _ => none

/-- The value of a key among the entries of an object. -/
def find (key : String) : List (String × Json) → Option Json
  | [] => none
  | (k, v) :: rest => if k = key then some v else find key rest

/-- The value of a key; none if the document is no object. -/
def get? (v : Json) (key : String) : Option Json := v.entries?.bind (find key)

def ofNat (n : Nat) : Json := .num (.int n)
def ofInt (i : Int) : Json := .num (.int i)

/-- An absent value is written as null. -/
def ofOption {α : Type} (write : α → Json) : Option α → Json
  | some a => write a
  | none => .null

/-- An entry that is written only if there is a value. -/
def entryIf {α : Type} (key : String) (write : α → Json) : Option α → List (String × Json)
  | some a => [(key, write a)]
  | none => []

/-! ## Ascending keys -/

/-- Put an entry at its place among ascending keys; an entry of the same key gives way. -/
def insert (key : String) (value : Json) : List (String × Json) → List (String × Json)
  | [] => [(key, value)]
  | (k, v) :: rest =>
    if key < k then (key, value) :: (k, v) :: rest
    else if key = k then (key, value) :: rest
    else (k, v) :: insert key value rest

/-- Entries with ascending keys; of entries with one key the last counts. -/
def collect (entries : List (String × Json)) : List (String × Json) :=
  entries.foldl (fun acc e => insert e.1 e.2 acc) []

mutual
/-- Every object in ascending order of its keys. -/
def sorted : Json → Json
  | .arr items => .arr (sortedItems items)
  | .obj entries => .obj (collect (sortedEntries entries))
  | v => v

def sortedItems : List Json → List Json
  | [] => []
  | v :: rest => sorted v :: sortedItems rest

def sortedEntries : List (String × Json) → List (String × Json)
  | [] => []
  | (k, v) :: rest => (k, sorted v) :: sortedEntries rest
end

mutual
/-- The keys of every object ascend strictly. -/
def Ordered : Json → Prop
  | .arr items => OrderedItems items
  | .obj entries => (entries.map (·.1)).Pairwise (· < ·) ∧ OrderedEntries entries
  | _ => True

def OrderedItems : List Json → Prop
  | [] => True
  | v :: rest => Ordered v ∧ OrderedItems rest

def OrderedEntries : List (String × Json) → Prop
  | [] => True
  | (_, v) :: rest => Ordered v ∧ OrderedEntries rest
end

mutual
/-- Every number is a whole number of 64 bits. -/
def Whole : Json → Prop
  | .num (.int i) => (Numeral.int i).InRange
  | .num (.real _) => False
  | .arr items => WholeItems items
  | .obj entries => WholeEntries entries
  | _ => True

def WholeItems : List Json → Prop
  | [] => True
  | v :: rest => Whole v ∧ WholeItems rest

def WholeEntries : List (String × Json) → Prop
  | [] => True
  | (_, v) :: rest => Whole v ∧ WholeEntries rest
end

mutual
/-- How many arrays and objects are nested in one another. -/
def depth : Json → Nat
  | .arr items => depthItems items + 1
  | .obj entries => depthEntries entries + 1
  | _ => 0

def depthItems : List Json → Nat
  | [] => 0
  | v :: rest => max (depth v) (depthItems rest)

def depthEntries : List (String × Json) → Nat
  | [] => 0
  | (_, v) :: rest => max (depth v) (depthEntries rest)
end

/-! ## Small laws -/

theorem find_insert_self (key : String) (value : Json) (entries : List (String × Json)) :
    find key (insert key value entries) = some value := by
  induction entries with
  | nil => simp [insert, find]
  | cons e rest ih =>
    obtain ⟨k, v⟩ := e
    unfold insert
    split
    · simp [find]
    · split
      · simp [find]
      · rename_i hne
        have : k ≠ key := fun h => hne h.symm
        simp [find, this, ih]

theorem find_insert_of_ne {key other : String} (h : other ≠ key) (value : Json)
    (entries : List (String × Json)) :
    find other (insert key value entries) = find other entries := by
  have h' : key ≠ other := fun e => h e.symm
  induction entries with
  | nil => simp [insert, find, h']
  | cons e rest ih =>
    obtain ⟨k, v⟩ := e
    unfold insert
    split
    · simp [find, h']
    · split
      · rename_i hk
        subst hk
        simp [find, h']
      · simp [find, ih]

end Json

end Delegation
