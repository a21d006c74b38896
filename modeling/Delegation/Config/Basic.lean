import Delegation.Backend
import Delegation.Memory.Basic
import Delegation.Run

/-!
# The configuration

Every setting has a default, so any part of a configuration may be left out of its document. Times
are in milliseconds.
-/

namespace Delegation

open Number (Single)

structure GatewayConfig where
  url : String := "http://127.0.0.1:18789"
  token : Option String := none
  requestTimeoutMs : UInt64 := 30000
  deriving DecidableEq, Repr

structure RecallConfig where
  enabled : Bool := false
  topK : UInt64 := 3
  minScore : Single := .ofQuotient false 3 10
  deriving DecidableEq, Repr

structure MockConfig where
  latencyMs : UInt64 := 0
  agents : List String := ["technical", "memory", "research", "writer"]
  /-- How many simulated runs are kept. -/
  maxRuns : UInt64 := 1024
  deriving DecidableEq, Repr

structure Config where
  backend : Backend := .mock
  gateway : GatewayConfig := {}
  runTimeoutMs : UInt64 := 600000
  statusPollMs : UInt64 := 250
  historyLimit : UInt64 := 20
  recalling : RecallConfig := {}
  memoryAgent : String := "memory"
  mock : MockConfig := {}
  deriving DecidableEq, Repr

namespace GatewayConfig

def encode (c : GatewayConfig) : Json :=
  .obj [("url", .str c.url), ("token", .ofOption .str c.token),
    ("requestTimeoutMs", encodeWord c.requestTimeoutMs)]

def decode {ν : Type} [Json.Source ν] : ν → Json.Decoded GatewayConfig :=
  let fallback : GatewayConfig := {}
  Json.Layout.decode "GatewayConfig" <|
    GatewayConfig.mk
      <$> .defaulted "url" Json.decodeString fallback.url
      <*> .omissible "token" Json.decodeString
      <*> .defaulted "requestTimeoutMs" (Json.decodeWord "u64") fallback.requestTimeoutMs

end GatewayConfig

namespace RecallConfig

def encode (c : RecallConfig) : Json :=
  .obj [("enabled", .bool c.enabled), ("topK", encodeWord c.topK),
    ("minScore", encodeSingle c.minScore)]

def decode {ν : Type} [Json.Source ν] : ν → Json.Decoded RecallConfig :=
  let fallback : RecallConfig := {}
  Json.Layout.decode "RecallConfig" <|
    RecallConfig.mk
      <$> .defaulted "enabled" Json.decodeBool fallback.enabled
      <*> .defaulted "topK" (Json.decodeWord "usize") fallback.topK
      <*> .defaulted "minScore" Json.decodeSingle fallback.minScore

end RecallConfig

namespace MockConfig

def encode (c : MockConfig) : Json :=
  .obj [("latencyMs", encodeWord c.latencyMs), ("agents", .arr (c.agents.map .str)),
    ("maxRuns", encodeWord c.maxRuns)]

def decode {ν : Type} [Json.Source ν] : ν → Json.Decoded MockConfig :=
  let fallback : MockConfig := {}
  Json.Layout.decode "MockConfig" <|
    MockConfig.mk
      <$> .defaulted "latencyMs" (Json.decodeWord "u64") fallback.latencyMs
      <*> .defaulted "agents" (Json.decodeList Json.decodeString) fallback.agents
      <*> .defaulted "maxRuns" (Json.decodeWord "usize") fallback.maxRuns

end MockConfig

namespace Config

def encode (c : Config) : Json :=
  .obj [("backend", c.backend.encode), ("gateway", c.gateway.encode),
    ("runTimeoutMs", encodeWord c.runTimeoutMs), ("statusPollMs", encodeWord c.statusPollMs),
    ("historyLimit", encodeWord c.historyLimit), ("recall", c.recalling.encode),
    ("memoryAgent", .str c.memoryAgent), ("mock", c.mock.encode)]

def decode {ν : Type} [Json.Source ν] : ν → Json.Decoded Config :=
  let fallback : Config := {}
  Json.Layout.decode "DelegateConfig" <|
    Config.mk
      <$> .defaulted "backend" Backend.decode fallback.backend
      <*> .defaulted "gateway" GatewayConfig.decode fallback.gateway
      <*> .defaulted "runTimeoutMs" (Json.decodeWord "u64") fallback.runTimeoutMs
      <*> .defaulted "statusPollMs" (Json.decodeWord "u64") fallback.statusPollMs
      <*> .defaulted "historyLimit" (Json.decodeWord "usize") fallback.historyLimit
      <*> .defaulted "recall" RecallConfig.decode fallback.recalling
      <*> .defaulted "memoryAgent" Json.decodeString fallback.memoryAgent
      <*> .defaulted "mock" MockConfig.decode fallback.mock

end Config

end Delegation
