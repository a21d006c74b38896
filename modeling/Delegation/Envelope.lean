import Delegation.Failure

/-!
# Envelopes

Every operation that a caller can ask for answers with an envelope: whether it went well, the
code, the error text and the data. A failed operation may still carry data.
-/

namespace Delegation

structure Envelope (α : Type) where
  ok : Bool
  code : Code
  error : Option String
  data : Option α
  deriving DecidableEq, Repr

namespace Envelope

variable {α β : Type}

def success (data : α) : Envelope α := ⟨true, .ok, none, some data⟩

def failure (code : Code) (message : String) : Envelope α := ⟨false, code, some message, none⟩

def failureWith (code : Code) (message : String) (data : α) : Envelope α :=
  ⟨false, code, some message, some data⟩

def ofFailure (f : Failure) : Envelope α := failure f.code f.message

def ofExcept : Except Failure α → Envelope α
  | .ok data => success data
  | .error f => ofFailure f

def map (f : α → β) (e : Envelope α) : Envelope β := ⟨e.ok, e.code, e.error, e.data.map f⟩

@[simp] theorem map_id (e : Envelope α) : e.map id = e := by
  simp [map]

def encode (data : α → Json) (e : Envelope α) : Json :=
  .obj [("ok", .bool e.ok), ("code", e.code.encode), ("error", .ofOption .str e.error),
    ("data", .ofOption data e.data)]

def decode {ν : Type} [Json.Source ν] (data : ν → Json.Decoded α) :
    ν → Json.Decoded (Envelope α) :=
  Json.Layout.decode "ToolEnvelope" <|
    Envelope.mk
      <$> .required "ok" Json.decodeBool
      <*> .required "code" Code.decode
      <*> .nullable "error" Json.decodeString
      <*> .nullable "data" data

end Envelope

end Delegation
