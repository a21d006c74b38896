import Delegation.Backend
import Delegation.Remote.Sending

/-!
# What callers are told

The data of the answers to the two operations: the result of a spawn, and the report on a run.
Parts that are not there are left out of their documents, or written as null, as each type says.
-/

namespace Delegation

open Remote (SendOutcome)

structure SpawnInfo where
  mode : Backend
  warning : Option String
  deriving DecidableEq, Repr

/-- What became of the wish to remember a result. -/
structure MemoryReport where
  persisted : Bool
  entryId : Option String
  captured : UInt64
  reason : Option String
  deriving DecidableEq, Repr

structure SpawnResult where
  runId : Option RunId
  agent : AgentName
  status : Status
  output : Option String
  durationMs : Option Int64
  error : Option String
  childSessionKey : Option SessionKey
  spawn : SpawnInfo
  sessionsSend : Option SendOutcome
  memory : Option MemoryReport
  deriving DecidableEq, Repr

structure StatusReport where
  runId : String
  agent : String
  status : LookupStatus
  output : Option String
  durationMs : Option Int64
  error : Option String
  deriving DecidableEq, Repr

namespace SpawnInfo

def encode (i : SpawnInfo) : Json :=
  .obj <| [("mode", i.mode.encode)] ++ Json.entryIf "warning" .str i.warning

def decode {ν : Type} [Json.Source ν] : ν → Json.Decoded SpawnInfo :=
  Json.Layout.decode "SpawnInfo" <|
    SpawnInfo.mk
      <$> .required "mode" Backend.decode
      <*> .omissible "warning" Json.decodeString

end SpawnInfo

namespace MemoryReport

/-- Nothing was remembered, for a reason. -/
def skipped (reason : String) : MemoryReport := ⟨false, none, 0, some reason⟩

def encode (r : MemoryReport) : Json :=
  .obj <| [("persisted", .bool r.persisted)] ++ Json.entryIf "entryId" .str r.entryId
    ++ [("captured", encodeWord r.captured)] ++ Json.entryIf "reason" .str r.reason

def decode {ν : Type} [Json.Source ν] : ν → Json.Decoded MemoryReport :=
  Json.Layout.decode "MemoryReport" <|
    MemoryReport.mk
      <$> .required "persisted" Json.decodeBool
      <*> .omissible "entryId" Json.decodeString
      <*> .defaulted "captured" (Json.decodeWord "usize") 0
      <*> .omissible "reason" Json.decodeString

end MemoryReport

namespace SpawnResult

/-- The result of a spawn that is tracked by a record. -/
def ofRecord (r : RunRecord) (mode : Backend) (warning : Option String) : SpawnResult where
  runId := some r.runId
  agent := r.agent
  status := r.status
  output := r.output
  durationMs := r.durationMs
  error := r.error
  childSessionKey := r.childSessionKey
  spawn := ⟨mode, warning⟩
  sessionsSend := none
  memory := none

def encode (r : SpawnResult) : Json :=
  .obj <| [("runId", .ofOption Name.encode r.runId), ("agent", r.agent.encode),
      ("status", r.status.encode), ("output", .ofOption .str r.output),
      ("durationMs", .ofOption encodeInt64 r.durationMs), ("error", .ofOption .str r.error)]
    ++ Json.entryIf "childSessionKey" Name.encode r.childSessionKey
    ++ [("spawn", r.spawn.encode)]
    ++ Json.entryIf "sessionsSend" SendOutcome.encode r.sessionsSend
    ++ Json.entryIf "memory" MemoryReport.encode r.memory

def decode {ν : Type} [Json.Source ν] : ν → Json.Decoded SpawnResult :=
  Json.Layout.decode "SpawnResult" <|
    SpawnResult.mk
      <$> .nullable "runId" Name.decode
      <*> .required "agent" Name.decode
      <*> .required "status" Status.decode
      <*> .nullable "output" Json.decodeString
      <*> .nullable "durationMs" Json.decodeInt64
      <*> .nullable "error" Json.decodeString
      <*> .omissible "childSessionKey" Name.decode
      <*> .required "spawn" SpawnInfo.decode
      <*> .omissible "sessionsSend" SendOutcome.decode
      <*> .omissible "memory" MemoryReport.decode

end SpawnResult

namespace StatusReport

def ofRecord (r : RunRecord) : StatusReport where
  runId := r.runId.text
  agent := r.agent.text
  status := .known r.status
  output := r.output
  durationMs := r.durationMs
  error := r.error

/-- The report on a run that nobody knows. -/
def notFound (runId : String) : StatusReport :=
  ⟨runId, "unknown", .notFound, none, none, none⟩

def isNotFound (r : StatusReport) : Bool := r.status = .notFound

def encode (r : StatusReport) : Json :=
  .obj [("runId", .str r.runId), ("agent", .str r.agent), ("status", r.status.encode),
    ("output", .ofOption .str r.output), ("durationMs", .ofOption encodeInt64 r.durationMs),
    ("error", .ofOption .str r.error)]

def decode {ν : Type} [Json.Source ν] : ν → Json.Decoded StatusReport :=
  Json.Layout.decode "StatusReport" <|
    StatusReport.mk
      <$> .required "runId" Json.decodeString
      <*> .required "agent" Json.decodeString
      <*> .required "status" LookupStatus.decode
      <*> .nullable "output" Json.decodeString
      <*> .nullable "durationMs" Json.decodeInt64
      <*> .nullable "error" Json.decodeString

end StatusReport

end Delegation
