import Delegation.Json.Decoding
import Delegation.Text.Blank

/-!
# Names

Runs, agents, sessions and remote calls are all named by texts, and the kind of thing a name names
is part of its type. A name taken from outside is parsed: it is trimmed, and a blank text names
nothing. `parse?_text` says that a parsed name parses to itself.
-/

namespace Delegation

/-- What a name names. -/
inductive NameKind where
  | run
  | agent
  | session
  | call
  deriving DecidableEq, Repr

structure Name (kind : NameKind) where
  text : String
  deriving DecidableEq, Repr, Inhabited

/-- One delegated execution. -/
abbrev RunId := Name .run
/-- An expert that runs are delegated to. -/
abbrev AgentName := Name .agent
/-- A conversation on the remote side. -/
abbrev SessionKey := Name .session
/-- One call of a remote tool. -/
abbrev CallId := Name .call

namespace Name

variable {kind : NameKind}

/-- The name that a text from outside gives. -/
def parse? (text : String) : Option (Name kind) := (Text.nonBlank? text).map Name.mk

def encode (n : Name kind) : Json := .str n.text

def decode {ν : Type} [Json.Source ν] (v : ν) : Json.Decoded (Name kind) :=
  (Json.decodeString v).map Name.mk

theorem parse?_eq_some_iff {s : String} {n : Name kind} :
    parse? s = some n ↔ n.text = Text.trim s ∧ Text.trim s ≠ "" := by
  obtain ⟨t⟩ := n
  unfold parse? Text.nonBlank?
  by_cases h : Text.trim s = ""
  · simp [h]
  · simp [h, eq_comm]

theorem parse?_eq_none_iff {s : String} :
    (parse? s : Option (Name kind)) = none ↔ Text.trim s = "" := by
  unfold parse? Text.nonBlank?
  by_cases h : Text.trim s = "" <;> simp [h]

/-- Parsing looks at the trimmed text only. -/
theorem parse?_congr {s t : String} (h : Text.trim s = Text.trim t) :
    (parse? s : Option (Name kind)) = parse? t := by
  simp [parse?, Text.nonBlank?, h]

theorem parse?_text {s : String} {n : Name kind} (h : parse? s = some n) :
    (parse? n.text : Option (Name kind)) = some n := by
  obtain ⟨h₁, h₂⟩ := parse?_eq_some_iff.1 h
  refine parse?_eq_some_iff.2 ⟨?_, ?_⟩
  · rw [h₁, Text.trim_trim]
  · rw [h₁, Text.trim_trim]; exact h₂

end Name

end Delegation
