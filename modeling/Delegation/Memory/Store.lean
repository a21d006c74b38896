import Delegation.Memory.Basic
import Delegation.Memory.Grams
import Delegation.Text.Blank

/-!
# The memory store

Entries are kept in the order in which they came, each with the time when it was created, and none
of them is blank. A search scores an entry by the share of the query's grams that it has, and
answers with the best matches, the newer one first among equals.
-/

namespace Delegation

open Number (Single)

/-- An entry under its name, with the time when it was created. -/
structure StoredMemory where
  id : String
  createdAt : Int
  entry : MemoryEntry
  deriving DecidableEq, Repr

structure Memory where
  /-- In the order in which they came. -/
  items : List StoredMemory
  deriving DecidableEq, Repr

namespace Memory

def empty : Memory := ⟨[]⟩

/-- How many grams of the query an entry shares. -/
def sharedGrams (query : List (List Char)) (content : String) : Nat :=
  let known := grams content
  (query.filter (· ∈ known)).length

/-- The entry as a hit with its time, if it matches: it shares a gram and scores high enough. -/
def match? (query : List (List Char)) (minScore : Single) (item : StoredMemory) :
    Option (MemoryHit × Int) :=
  let shared := sharedGrams query item.entry.content
  let score := Single.ratio shared query.length
  if Single.le minScore score && decide (0 < shared) then
    some (⟨item.id, item.entry.content, score⟩, item.createdAt)
  else none

/-- The better score comes first, of equal scores the newer entry. Scores that cannot be compared
count as equal. -/
def rank (a b : MemoryHit × Int) : Ordering :=
  ((Single.compare? b.1.score a.1.score).getD .eq).then (compare b.2 a.2)

/-- The best `topK` matches of a query. -/
def search (m : Memory) (query : String) (topK : Nat) (minScore : Single) : List MemoryHit :=
  let wanted := grams query
  if wanted = [] then []
  else
    let hits := m.items.filterMap (match? wanted minScore)
    ((hits.mergeSort fun a b => (rank a b).isLE).take topK).map (·.1)

def blankRefusal : String := "Refusing to store an empty memory"

/-- Keep an entry under a fresh name; a blank one is refused. -/
def store (m : Memory) (id : String) (now : Int) (entry : MemoryEntry) :
    Except String String × Memory :=
  if Text.trim entry.content = "" then (.error blankRefusal, m)
  else (.ok id, ⟨m.items ++ [⟨id, now, entry⟩]⟩)

/-- How many characters of a finished exchange are kept. -/
def captureLimit : Nat := 500

def captureTag : String := "auto-capture"

/-- A finished exchange in short. -/
def summary (task output : String) : String :=
  String.ofList ((Text.trim task ++ " → " ++ Text.trim output).toList.take captureLimit)

/-- Keep a finished exchange, unless nothing came out of it or the same text is kept already.
Answers how many entries were added. -/
def capture (m : Memory) (id : String) (now : Int) (agent : AgentName) (task output : String) :
    Except String UInt64 × Memory :=
  if Text.trim output = "" then (.ok 0, m)
  else
    let content := summary task output
    if m.items.any (·.entry.content = content) then (.ok 0, m)
    else
      let (stored, m) := m.store id now { content, agent := some agent, tags := [captureTag] }
      (stored.map fun _ => 1, m)

end Memory

end Delegation
