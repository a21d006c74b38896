import Delegation.Name

/-!
# Caller sessions

A call of the remote side is made on behalf of a caller's session. A session is built from loose
parts: the key must not be blank, and each part is trimmed and absent if blank.
-/

namespace Delegation

structure Session where
  key : SessionKey
  agentId : Option String
  channel : Option String
  accountId : Option String
  deriving DecidableEq, Repr

/-- The parts of a session as a caller gives them. -/
structure SessionParts where
  sessionKey : Option String := none
  agentId : Option String := none
  channel : Option String := none
  accountId : Option String := none
  deriving DecidableEq, Repr, Inhabited

namespace Session

/-- The session that loose parts give; none without a key. -/
def ofParts? (p : SessionParts) : Option Session :=
  (p.sessionKey.bind Name.parse?).map fun key =>
    ⟨key, p.agentId.bind Text.nonBlank?, p.channel.bind Text.nonBlank?,
      p.accountId.bind Text.nonBlank?⟩

/-- A session of which only the key is known. -/
def ofKey (key : SessionKey) : Session := ⟨key, none, none, none⟩

def encode (s : Session) : Json :=
  .obj <| [("sessionKey", s.key.encode)] ++ Json.entryIf "agentId" .str s.agentId
    ++ Json.entryIf "channel" .str s.channel ++ Json.entryIf "accountId" .str s.accountId

def decode {ν : Type} [Json.Source ν] : ν → Json.Decoded Session :=
  Json.Layout.decode "SessionContext" <|
    Session.mk
      <$> .required "sessionKey" Name.decode
      <*> .omissible "agentId" Json.decodeString
      <*> .omissible "channel" Json.decodeString
      <*> .omissible "accountId" Json.decodeString

end Session

end Delegation
