import Delegation.Proofs.Chronicle
import Delegation.Proofs.Fields
import Delegation.Proofs.Verdicts
import Delegation.Tool

/-!
# On whose behalf the remote side is called

A call of the spawn tool may name the session of its caller, and the program may have a session by
default. An invocation is made for one of them as it is: for the session that was given, if it has
a key, and else for the default one. Nothing of one is ever combined with the other
(`callers_kept_apart`), and without a session nothing is invoked.
-/

namespace Delegation

open Json (Valid decodeOption decodeString fields? given?)
open Json.Layout (makes_defaulted)
open Remote (Entries Holds textField textField_eq_some_iff)

/-! ## The session that a call gives -/

def SessionParts.names : List String := ["sessionKey", "agentId", "channel", "accountId"]

/-- What a call gives of a session; nothing if its session is absent or null. -/
def callerFields (args : Entries) : Entries :=
  ((Json.find "session" args).bind (fields? SessionParts.names)).getD []

/-- The session is made of these fields and of nothing else: each part of it is the text under its
key, trimmed, and is absent if nothing is left of that text. -/
structure MadeOf (fields : Entries) (s : Session) : Prop where
  key : Holds fields "sessionKey" s.key.text
  agentId : ∀ t, s.agentId = some t ↔ Holds fields "agentId" t
  channel : ∀ t, s.channel = some t ↔ Holds fields "channel" t
  accountId : ∀ t, s.accountId = some t ↔ Holds fields "accountId" t

/-- The text under a key, if there is one. -/
def textUnder (fields : Entries) (key : String) : Option String :=
  (Json.find key fields).bind Json.text?

theorem given_text (fields : Entries) (key : String) :
    (given? fields key (decodeOption decodeString)).getD none = textUnder fields key := by
  unfold given? textUnder
  rw [Json.find_eq_lookUp]
  cases Json.lookUp key fields with
  | none => rfl
  | some v => cases v <;> rfl

theorem SessionParts.of_decode {v : Json} {p : SessionParts} (decoded : decode v = .ok p) :
    ∃ es, fields? names v = some es ∧
      p = ⟨textUnder es "sessionKey", textUnder es "agentId", textUnder es "channel",
        textUnder es "accountId"⟩ := by
  have makes := (makes_defaulted (ν := Json) "sessionKey" (decodeOption decodeString) none).map
      SessionParts.mk
    |>.ap (makes_defaulted "agentId" (decodeOption decodeString) none)
    |>.ap (makes_defaulted "channel" (decodeOption decodeString) none)
    |>.ap (makes_defaulted "accountId" (decodeOption decodeString) none)
  obtain ⟨es, given, -, rfl⟩ := makes.of_decode (by simp) decoded
  simp only [given_text]
  exact ⟨es, given, rfl⟩

theorem SpawnArgs.of_decode {args : Entries} {a : SpawnArgs}
    (decoded : decode (Json.obj args) = .ok a) :
    a.agent = textUnder args "agent" ∧ a.task = textUnder args "task" ∧
      Valid args "session" (decodeOption SessionParts.decode) ∧
      a.session = (given? args "session" (decodeOption SessionParts.decode)).getD none := by
  have makes := (makes_defaulted (ν := Json) "agent" (decodeOption decodeString) none).map
      SpawnArgs.mk
    |>.ap (makes_defaulted "task" (decodeOption decodeString) none)
    |>.ap (makes_defaulted "waitMs" (decodeOption (Json.decodeWord "u64")) none)
    |>.ap (makes_defaulted "timeoutMs" (decodeOption (Json.decodeWord "u64")) none)
    |>.ap (makes_defaulted "label" (decodeOption decodeString) none)
    |>.ap (makes_defaulted "useSessionsSend" Json.decodeBool false)
    |>.ap (makes_defaulted "targetSessionKey" (decodeOption decodeString) none)
    |>.ap (makes_defaulted "persistMemory" Json.decodeBool false)
    |>.ap (makes_defaulted "recall" (decodeOption Json.decodeBool) none)
    |>.ap (makes_defaulted "session" (decodeOption SessionParts.decode) none)
  obtain ⟨es, given, ⟨-, valid⟩, rfl⟩ := makes.of_decode (by simp) decoded
  obtain rfl : args = es := Option.some.inj ((Json.keyed_map_ok args).symm.trans given)
  exact ⟨given_text args "agent", given_text args "task", valid, rfl⟩

/-- The session that these fields make. -/
def madeOf? (fields : Entries) : Option Session :=
  (textField fields "sessionKey").map fun key =>
    ⟨⟨key⟩, textField fields "agentId", textField fields "channel", textField fields "accountId"⟩

theorem madeOf?_eq_some_iff {fields : Entries} {s : Session} :
    madeOf? fields = some s ↔ MadeOf fields s := by
  unfold madeOf?
  rw [Option.map_eq_some_iff]
  constructor
  · rintro ⟨key, found, rfl⟩
    exact ⟨textField_eq_some_iff.1 found, fun _ => textField_eq_some_iff,
      fun _ => textField_eq_some_iff, fun _ => textField_eq_some_iff⟩
  · intro made
    obtain ⟨⟨key⟩, agentId, channel, accountId⟩ := s
    refine ⟨key, textField_eq_some_iff.2 made.key, ?_⟩
    have same {o : Option String} {name : String} (each : ∀ t, o = some t ↔ Holds fields name t) :
        textField fields name = o :=
      Option.ext fun t => textField_eq_some_iff.trans (each t).symm
    rw [same made.agentId, same made.channel, same made.accountId]

theorem madeOf?_eq_none_iff {fields : Entries} :
    madeOf? fields = none ↔ ∀ t, ¬ Holds fields "sessionKey" t := by
  simp [madeOf?, Option.eq_none_iff_forall_ne_some, textField_eq_some_iff]

theorem ofParts?_eq_madeOf? (fields : Entries) :
    Session.ofParts? ⟨textUnder fields "sessionKey", textUnder fields "agentId",
      textUnder fields "channel", textUnder fields "accountId"⟩ = madeOf? fields := by
  have key : ((textUnder fields "sessionKey").bind Name.parse? : Option SessionKey) =
      (textField fields "sessionKey").map Name.mk := by
    unfold textUnder textField Name.parse?
    cases (Json.find "sessionKey" fields).bind Json.text? <;> rfl
  unfold Session.ofParts? madeOf?
  rw [key, Option.map_map]
  rfl

/-- The session of the caller is made of what the call gives of one. -/
theorem SpawnArgs.session_of_decode {args : Entries} {a : SpawnArgs}
    (decoded : decode (Json.obj args) = .ok a) :
    a.session.bind Session.ofParts? = madeOf? (callerFields args) := by
  obtain ⟨-, -, valid, same⟩ := of_decode decoded
  rw [same]
  unfold given? callerFields
  rw [Json.find_eq_lookUp]
  cases found : Json.lookUp "session" args with
  | none => rfl
  | some v =>
    obtain ⟨o, given⟩ := valid v found
    rw [Option.bind_some, given, Option.bind_some]
    unfold decodeOption at given
    split at given
    · rename_i null
      cases given
      simp only [fields?, null]
      rfl
    · obtain ⟨p, parts, rfl⟩ := Json.ok_of_map given
      obtain ⟨es, named, rfl⟩ := SessionParts.of_decode parts
      rw [named]
      exact ofParts?_eq_madeOf? es

/-! ## The session that an invocation carries -/

/-- On whose behalf a tool is invoked. -/
def Exchange.caller? (e : Exchange) : Option Session :=
  match e.question with
  | .invoke i => some i.session
  | _ => none

theorem Exchange.caller?_of_not_isCall (e : Exchange) (h : e.question.isCall = false) :
    e.caller? = none := by
  unfold caller?
  split
  · rename_i i invokes
    rw [invokes] at h
    cases h
  · rfl

section
variable {d : Dispatcher} {o : SpawnOrder} {h h' : Host} {log : List Exchange}

theorem callers_follows {agent : AgentName} {a : Remote.Acceptance} {l l' : Ledger} {r : RunRecord}
    (follows : d.Follows agent o a l log r l') : log.filterMap Exchange.caller? = [] :=
  filterMap_follows follows (fun _ _ => rfl) fun _ _ _ => rfl

/-- Whatever a spawn invokes, it is for the session of its order. -/
theorem session_of_spawn {env : Envelope SpawnResult}
    (course : Dispatcher.SpawnCourse d o h log env h') {s : Session}
    (calls : s ∈ log.filterMap Exchange.caller?) : o.session = some s := by
  rw [← filterMap_calls Exchange.caller?_of_not_isCall] at calls
  cases course with
  | refused | sessionless => cases calls
  | sent _ caller augments =>
    rw [calls_behind augments.isMemory] at calls
    cases List.mem_singleton.1 calls
    exact caller
  | refusedThere _ caller augments =>
    rw [calls_behind augments.isMemory] at calls
    cases List.mem_singleton.1 calls
    exact caller
  | taken _ caller augments _ _ follows remembers =>
    obtain ⟨memory, -⟩ := Dispatcher.performs_persisted remembers
    rw [calls_between augments.isMemory memory, List.filterMap_cons,
      filterMap_calls Exchange.caller?_of_not_isCall, callers_follows follows] at calls
    cases List.mem_singleton.1 calls
    exact caller

/-- A call whose arguments decode is an order. -/
theorem performs_call {args : Entries} {a : SpawnArgs} {defaultSession : Option Session}
    {answer : ToolAnswer} (decoded : SpawnArgs.decode (Json.obj args) = .ok a) :
    h.Performs (Tool.spawnExpert.call d defaultSession args) log answer h' ↔
      ∃ env, h.Performs (d.spawn (a.order defaultSession)) log env h' ∧
        answer = .ofEnvelope SpawnResult.encode env := by
  unfold Tool.call
  dsimp only
  rw [decoded]
  exact Host.performs_map

/-- The order of a call is for the session that the call gives, or else for the default one. -/
theorem SpawnArgs.session_of_order {args : Entries} {a : SpawnArgs}
    (decoded : decode (Json.obj args) = .ok a) (defaultSession : Option Session) :
    (a.order defaultSession).session = (madeOf? (callerFields args)).or defaultSession := by
  rw [← session_of_decode decoded]
  rfl

/-- Either one caller or the other. -/
theorem madeOf_or_default {fields : Entries} {defaultSession : Option Session} {s : Session}
    (found : (madeOf? fields).or defaultSession = some s) :
    MadeOf fields s ∨ (∀ t, ¬ Holds fields "sessionKey" t) ∧ defaultSession = some s := by
  rcases Option.or_eq_some_iff.1 found with made | ⟨keyless, other⟩
  · exact .inl (madeOf?_eq_some_iff.1 made)
  · exact .inr ⟨madeOf?_eq_none_iff.1 keyless, other⟩

/-- The arguments name an agent and a task, all of them decode, and nobody has to wait for more than
an hour. -/
structure WellFormed (args : Entries) : Prop where
  agent : ∃ t, Holds args "agent" t
  task : ∃ t, Holds args "task" t
  decodes : ∃ a, SpawnArgs.decode (Json.obj args) = .ok a ∧ (a.waitMs.getD 0).toNat ≤ 3600000

theorem nonBlank?_of_holds {fields : Entries} {key t : String} (holds : Holds fields key t) :
    Text.nonBlank? ((textUnder fields key).getD "") = some t := by
  obtain ⟨s, under, solid⟩ := Option.bind_eq_some_iff.1 (textField_eq_some_iff.2 holds)
  rw [textUnder, under]
  exact solid

theorem WellFormed.checked {args : Entries} (wellFormed : WellFormed args) :
    ∃ a, SpawnArgs.decode (Json.obj args) = .ok a ∧
      ∀ defaultSession, ∃ agent task, (a.order defaultSession).checked = .ok (agent, task) := by
  obtain ⟨agent, named⟩ := wellFormed.agent
  obtain ⟨task, told⟩ := wellFormed.task
  obtain ⟨a, decoded, short⟩ := wellFormed.decodes
  obtain ⟨ofAgent, ofTask, -⟩ := SpawnArgs.of_decode decoded
  refine ⟨a, decoded, fun defaultSession => ⟨⟨agent⟩, task, ?_⟩⟩
  refine SpawnOrder.checked_eq_ok_iff.2 ⟨?_, ?_, ?_⟩
  · simp [SpawnArgs.order, ofAgent, Name.parse?, nonBlank?_of_holds named]
  · simp [SpawnArgs.order, ofTask, nonBlank?_of_holds told]
  · rw [UInt64.lt_iff_toNat_lt, Nat.not_lt]
    exact short

/-- An invocation carries the session that the call gives, if that has a key, and else the default
session; and it takes nothing from the other one. If there is neither, nothing is invoked, and the
answer says so. -/
theorem callers_kept_apart (real : d.config.backend = .real) (defaultSession : Option Session)
    (args : Entries) (h : Host) :
    (∀ log answer h', h.Performs (Tool.spawnExpert.call d defaultSession args) log answer h' →
      ∀ e ∈ log, ∀ i, e.question = .invoke i →
        MadeOf (callerFields args) i.session ∨
          (∀ t, ¬ Holds (callerFields args) "sessionKey" t) ∧ defaultSession = some i.session) ∧
    (WellFormed args → (∀ t, ¬ Holds (callerFields args) "sessionKey" t) → defaultSession = none →
      ∀ log answer h', h.Performs (Tool.spawnExpert.call d defaultSession args) log answer h' ↔
        log = [] ∧ h' = h ∧ answer =
          ⟨.obj [("ok", .bool false), ("code", .str "MISSING_SESSION_CONTEXT"),
            ("error", .str "real backend requires a caller session context"), ("data", .null)],
            true⟩) := by
  constructor
  · intro log answer h' hp e he i invokes
    cases decoded : SpawnArgs.decode (Json.obj args) with
    | error fault =>
      unfold Tool.call at hp
      dsimp only at hp
      rw [decoded] at hp
      obtain ⟨rfl, -, -⟩ := Host.performs_pure.1 hp
      cases he
    | ok a =>
      obtain ⟨env, spawned, -⟩ := (performs_call decoded).1 hp
      have caller : i.session ∈ log.filterMap Exchange.caller? :=
        List.mem_filterMap.2 ⟨e, he, by rw [Exchange.caller?, invokes]⟩
      have session := session_of_spawn ((Dispatcher.performs_spawn real).1 spawned) caller
      rw [SpawnArgs.session_of_order decoded] at session
      exact madeOf_or_default session
  · rintro wellFormed keyless rfl log answer h'
    obtain ⟨a, decoded, checked⟩ := wellFormed.checked
    obtain ⟨agent, task, checked⟩ := checked none
    have nobody : (a.order none).session = none := by
      rw [SpawnArgs.session_of_order decoded, madeOf?_eq_none_iff.2 keyless]
      rfl
    refine (performs_call decoded).trans ?_
    constructor
    · rintro ⟨env, spawned, rfl⟩
      cases (Dispatcher.performs_spawn real).1 spawned with
      | refused unchecked => cases checked.symm.trans unchecked
      | sessionless => exact ⟨rfl, rfl, rfl⟩
      | sent _ caller | refusedThere _ caller | taken _ caller =>
        cases nobody.symm.trans caller
    · rintro ⟨rfl, rfl, rfl⟩
      exact ⟨_, (Dispatcher.performs_spawn real).2 (.sessionless checked nobody), rfl⟩

end

namespace Sample

/-- A message on behalf of a session with a padded key and a blank part. -/
def calling : Entries :=
  [("agent", .str "technical"), ("task", .str "fix it"), ("useSessionsSend", .bool true),
    ("session", .obj [("sessionKey", .str " caller "), ("agentId", .str " "),
      ("channel", .str "chat")])]

/-- The session by default, which has other parts. -/
def fallback : Session := ⟨⟨"main"⟩, some "host", none, some "account"⟩

def arguments : SpawnArgs where
  agent := some "technical"
  task := some "fix it"
  waitMs := none
  timeoutMs := none
  label := none
  useSessionsSend := true
  targetSessionKey := none
  persistMemory := false
  wantsRecall := none
  session := some ⟨some " caller ", some " ", some "chat", none⟩

theorem decode_calling : SpawnArgs.decode (Json.obj calling) = .ok arguments := by
  decide +kernel

/-- The session has no key, so its other part does not count. -/
def keyless : Entries :=
  [("agent", .str "technical"), ("task", .str "fix it"),
    ("session", .obj [("sessionKey", .str " "), ("channel", .str "chat")])]

theorem wellFormed_keyless : WellFormed keyless where
  agent := ⟨"technical", textField_eq_some_iff.1 rfl⟩
  task := ⟨"fix it", textField_eq_some_iff.1 rfl⟩
  decodes := ⟨_, rfl, by decide⟩

end Sample

/-- The default session has parts that the caller's has not, and they are not carried. Without a
default session, a session that has no key is not enough. -/
theorem callers_kept_apart_sample :
    Sample.dispatcher.config.backend = .real ∧
    (∃ log answer h' i reply,
      Host.Performs (.ofConfig {})
        (Tool.spawnExpert.call Sample.dispatcher (some Sample.fallback) Sample.calling) log answer
        h' ∧
      ⟨.invoke i, reply⟩ ∈ log ∧ MadeOf (callerFields Sample.calling) i.session ∧
      i.session = ⟨⟨"caller"⟩, none, some "chat", none⟩) ∧
    ∃ answer, Host.Performs (.ofConfig {})
        (Tool.spawnExpert.call Sample.dispatcher none Sample.keyless) [] answer (.ofConfig {}) ∧
      answer.isError = true := by
  refine ⟨rfl, ?_, ?_⟩
  · have checked : (Sample.arguments.order (some Sample.fallback)).checked =
        .ok (⟨"technical"⟩, "fix it") := rfl
    have course : Dispatcher.SpawnCourse Sample.dispatcher
        (Sample.arguments.order (some Sample.fallback)) (.ofConfig {}) _ _ _ :=
      .sent checked rfl (.plain rfl) rfl (.error "reset")
    have performed := (performs_call Sample.decode_calling).2
      ⟨_, (Dispatcher.performs_spawn rfl).2 course, rfl⟩
    have apart := (callers_kept_apart (d := Sample.dispatcher) rfl (some Sample.fallback)
      Sample.calling (.ofConfig {})).1 _ _ _ performed
    rcases apart _ (.tail _ (.head _)) _ rfl with made | ⟨keyless, -⟩
    · exact ⟨_, _, _, _, _, performed, .tail _ (.head _), made, by decide +kernel⟩
    · exact absurd (textField_eq_some_iff.1 (by decide +kernel)) (keyless "caller")
  · have keyless : ∀ t, ¬ Holds (callerFields Sample.keyless) "sessionKey" t :=
      madeOf?_eq_none_iff.1 (by decide +kernel)
    have apart := (callers_kept_apart (d := Sample.dispatcher) rfl none Sample.keyless
      (.ofConfig {})).2 Sample.wellFormed_keyless keyless rfl
    exact ⟨_, (apart _ _ _).2 ⟨rfl, rfl, rfl⟩, rfl⟩

end Delegation
