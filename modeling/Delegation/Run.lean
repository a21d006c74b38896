import Delegation.Name

/-!
# Runs

A run is one delegated execution of an agent. Backends report statuses as free texts; here they
are one of five, and a text that is none of them is not a status. The duration of a run is derived
from its two timestamps (epoch milliseconds) and is never negative.
-/

namespace Delegation

inductive Status where
  /-- The spawn was acknowledged; nothing of the execution was seen yet. -/
  | accepted
  /-- In progress, or not known to be anything else. -/
  | running
  | completed
  | failed
  /-- Nobody waited any longer. -/
  | timeout
  deriving DecidableEq, Repr, Inhabited

namespace Status

def text : Status → String
  | .accepted => "accepted"
  | .running => "running"
  | .completed => "completed"
  | .failed => "failed"
  | .timeout => "timeout"

def all : List Status := [.accepted, .running, .completed, .failed, .timeout]

/-- The status that a backend's text means; case and blanks around it do not matter. -/
def parse? (s : String) : Option Status :=
  all.find? fun st => st.text = Text.asciiLower (Text.trim s)

/-- Status queries stop at these. -/
def isTerminal : Status → Bool
  | .completed => true
  | .failed => true
  | .timeout => true
  | _ => false

def encode (s : Status) : Json := .str s.text

def decode {ν : Type} [Json.Source ν] (v : ν) : Json.Decoded Status :=
  Json.decodeVariant (all.map fun s => (s.text, s)) v

end Status

/-- What a status query can answer: a status, or that no such run is known. -/
inductive LookupStatus where
  | known (status : Status)
  | notFound
  deriving DecidableEq, Repr, Inhabited

namespace LookupStatus

def text : LookupStatus → String
  | .known s => s.text
  | .notFound => "not_found"

def all : List LookupStatus := Status.all.map .known ++ [.notFound]

def encode (s : LookupStatus) : Json := .str s.text

def decode {ν : Type} [Json.Source ν] (v : ν) : Json.Decoded LookupStatus :=
  Json.decodeVariant (all.map fun s => (s.text, s)) v

end LookupStatus

/-! ## Records -/

/-- The milliseconds between two timestamps, both known; not below zero, not beyond a word. -/
def elapsed? : Option Int64 → Option Int64 → Option Int64
  | some start, some finish => some (saturate64 (max 0 (finish.toInt - start.toInt)))
  | _, _ => none

structure RunRecord where
  runId : RunId
  agent : AgentName
  status : Status
  /-- The remote session in which the run executes. -/
  childSessionKey : Option SessionKey
  output : Option String
  error : Option String
  startedAt : Option Int64
  endedAt : Option Int64
  durationMs : Option Int64
  deriving DecidableEq, Repr, Inhabited

def encodeInt64 (i : Int64) : Json := .ofInt i.toInt

def encodeWord (n : UInt64) : Json := .ofNat n.toNat

namespace RunRecord

def encode (r : RunRecord) : Json :=
  .obj <| [("runId", r.runId.encode), ("agent", r.agent.encode), ("status", r.status.encode)]
    ++ Json.entryIf "childSessionKey" Name.encode r.childSessionKey
    ++ [("output", .ofOption .str r.output), ("error", .ofOption .str r.error),
      ("startedAt", .ofOption encodeInt64 r.startedAt),
      ("endedAt", .ofOption encodeInt64 r.endedAt),
      ("durationMs", .ofOption encodeInt64 r.durationMs)]

def decode {ν : Type} [Json.Source ν] : ν → Json.Decoded RunRecord :=
  Json.Layout.decode "RunRecord" <|
    RunRecord.mk
      <$> .required "runId" Name.decode
      <*> .required "agent" Name.decode
      <*> .required "status" Status.decode
      <*> .omissible "childSessionKey" Name.decode
      <*> .nullable "output" Json.decodeString
      <*> .nullable "error" Json.decodeString
      <*> .omissible "startedAt" Json.decodeInt64
      <*> .omissible "endedAt" Json.decodeInt64
      <*> .omissible "durationMs" Json.decodeInt64

end RunRecord

end Delegation
