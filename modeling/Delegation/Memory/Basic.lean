import Delegation.Name
import Delegation.Number.Single

/-!
# Memories

What the memory keeps, and what a search of it finds: an entry has a text and where it comes from,
and a hit names an entry, with its text and a score in single precision.
-/

namespace Delegation

open Number (Single)

structure MemoryHit where
  id : String
  content : String
  score : Single
  deriving DecidableEq, Repr

structure MemoryEntry where
  content : String
  agent : Option AgentName := none
  sourceRun : Option RunId := none
  tags : List String := []
  deriving DecidableEq, Repr

/-- A single in a document: as the double that it is, and null if it is not finite. -/
def encodeSingle (x : Single) : Json :=
  match x.toDouble? with
  | some d => .num (.real d)
  | none => .null

namespace MemoryHit

def encode (h : MemoryHit) : Json :=
  .obj [("id", .str h.id), ("content", .str h.content), ("score", encodeSingle h.score)]

def decode {ν : Type} [Json.Source ν] : ν → Json.Decoded MemoryHit :=
  Json.Layout.decode "MemoryHit" <|
    MemoryHit.mk
      <$> .required "id" Json.decodeString
      <*> .required "content" Json.decodeString
      <*> .required "score" Json.decodeSingle

end MemoryHit

namespace MemoryEntry

def encode (e : MemoryEntry) : Json :=
  .obj [("content", .str e.content), ("agent", .ofOption Name.encode e.agent),
    ("source_run", .ofOption Name.encode e.sourceRun), ("tags", .arr (e.tags.map .str))]

def decode {ν : Type} [Json.Source ν] : ν → Json.Decoded MemoryEntry :=
  Json.Layout.decode "MemoryEntry" <|
    MemoryEntry.mk
      <$> .required "content" Json.decodeString
      <*> .nullable "agent" Name.decode
      <*> .nullable "source_run" Name.decode
      <*> .required "tags" (Json.decodeList Json.decodeString)

end MemoryEntry

end Delegation
