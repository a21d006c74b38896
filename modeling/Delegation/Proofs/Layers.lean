import Delegation.Config.Loading
import Delegation.Proofs.Fields
import Delegation.Proofs.Substitution

/-!
# The layers of a configuration

Each setting is taken from the topmost layer that has it: a variable of the environment, the file,
the defaults. Which settings the file has is read off its entries and off those of its sections
(`Settings.of?`), so a setting depends on nothing but its own three layers (`layered`).

A section may be an array as well, and then its items are its settings in their order. So a
setting can come from the file although nothing in the file is called by its name
(`unnamed_setting_loaded`).
-/

namespace Delegation

open Json (Draft Plain Reads Source Valid decodeBool decodeList decodeOption decodeSingle
  decodeString decodeWord fields? given? lookUp ok_of_bind part?)
open Json.Layout (makes_defaulted)

/-! ## What can be passed over -/

namespace Json.Draft

/-- The keys of an object that are texts. -/
def keys : Draft → List String
  | .obj entries _ => entries.filterMap fun e => e.1.value.toOption
  | _ => []

theorem passEntries_eq_none_iff {es : List (Scanned String × Draft)} :
    passEntries es = none ↔ ∀ e ∈ es, e.1.skip = none ∧ e.2.pass = none := by
  induction es with
  | nil => simp [passEntries]
  | cons e es ih => simp [passEntries, Option.or_eq_none_iff, ih]

/-- Where nothing is at fault and no key is repeated, records can be decoded. -/
theorem plain {d : Draft} (sound : d.pass = none) (once : d.keys.Nodup) : Plain d := by
  cases d with
  | obj entries ending =>
    obtain ⟨passed, rfl⟩ := Option.or_eq_none_iff.1 sound
    refine ⟨rfl, ?_, ?_⟩
    · rw [List.forall_mem_map]
      exact fun e he => (passEntries_eq_none_iff.1 passed e he).2
    · rw [List.filterMap_map]
      exact once
  | arr items ending => exact (Option.or_eq_none_iff.1 sound).2
  | null | bool _ | keyless _ | broken _ _ => trivial
  | num n =>
    unfold Plain
    simp only [Source.view]
    cases n.value <;> trivial
  | str s =>
    unfold Plain
    simp only [Source.view]
    cases s.value <;> trivial

end Json.Draft

/-! ## Settings in a file -/

/-- A text is read back from its bytes. -/
theorem Entry.text_toUTF8 (text : String) : (Entry.file text.toUTF8).text = .ok text := by
  have whole : String.fromUTF8? text.toUTF8 = some text := dif_pos text.isValidUTF8
  rw [Entry.text, whole]

namespace Config

/-- The settings that a file gives, and those of its sections. -/
structure Settings where
  top : List (String × Draft)
  gateway : List (String × Draft)
  recalling : List (String × Draft)
  mock : List (String × Draft)

def gatewayNames : List String := ["url", "token", "requestTimeoutMs"]

def recallNames : List String := ["enabled", "topK", "minScore"]

def mockNames : List String := ["latencyMs", "agents", "maxRuns"]

def names : List String :=
  ["backend", "gateway", "runTimeoutMs", "statusPollMs", "historyLimit", "recall", "memoryAgent",
    "mock"]

namespace Settings

/-- The settings of a document; none if a section gives no fields. -/
def of? (d : Draft) : Option Settings := do
  let top ← fields? names d
  let gateway ← part? top "gateway" gatewayNames
  let recalling ← part? top "recall" recallNames
  let mock ← part? top "mock" mockNames
  return ⟨top, gateway, recalling, mock⟩

theorem of?_eq_some_iff {d : Draft} {f : Settings} :
    of? d = some f ↔ fields? names d = some f.top ∧
      part? f.top "gateway" gatewayNames = some f.gateway ∧
      part? f.top "recall" recallNames = some f.recalling ∧
      part? f.top "mock" mockNames = some f.mock := by
  obtain ⟨top, gateway, recalling, mock⟩ := f
  simp only [of?, Option.bind_eq_bind, Option.bind_eq_some_iff, Option.pure_def, Option.some.injEq,
    mk.injEq]
  constructor
  · rintro ⟨_, ofTop, _, ofGateway, _, ofRecall, _, ofMock, rfl, rfl, rfl, rfl⟩
    exact ⟨ofTop, ofGateway, ofRecall, ofMock⟩
  · rintro ⟨ofTop, ofGateway, ofRecall, ofMock⟩
    exact ⟨_, ofTop, _, ofGateway, _, ofRecall, _, ofMock, rfl, rfl, rfl, rfl⟩

/-- Whatever is given decodes. -/
structure Decodes (f : Settings) : Prop where
  backend : Valid f.top "backend" Backend.decode
  url : Valid f.gateway "url" decodeString
  token : Valid f.gateway "token" (decodeOption decodeString)
  requestTimeoutMs : Valid f.gateway "requestTimeoutMs" (decodeWord "u64")
  runTimeoutMs : Valid f.top "runTimeoutMs" (decodeWord "u64")
  statusPollMs : Valid f.top "statusPollMs" (decodeWord "u64")
  historyLimit : Valid f.top "historyLimit" (decodeWord "usize")
  enabled : Valid f.recalling "enabled" decodeBool
  topK : Valid f.recalling "topK" (decodeWord "usize")
  minScore : Valid f.recalling "minScore" decodeSingle
  memoryAgent : Valid f.top "memoryAgent" decodeString
  latencyMs : Valid f.mock "latencyMs" (decodeWord "u64")
  agents : Valid f.mock "agents" (decodeList decodeString)
  maxRuns : Valid f.mock "maxRuns" (decodeWord "usize")

/-- What the file says, with the defaults below it. -/
def config (f : Settings) : Config where
  backend := (given? f.top "backend" Backend.decode).getD .mock
  gateway :=
    { url := (given? f.gateway "url" decodeString).getD "http://127.0.0.1:18789"
      token := (given? f.gateway "token" (decodeOption decodeString)).getD none
      requestTimeoutMs := (given? f.gateway "requestTimeoutMs" (decodeWord "u64")).getD 30000 }
  runTimeoutMs := (given? f.top "runTimeoutMs" (decodeWord "u64")).getD 600000
  statusPollMs := (given? f.top "statusPollMs" (decodeWord "u64")).getD 250
  historyLimit := (given? f.top "historyLimit" (decodeWord "usize")).getD 20
  recalling :=
    { enabled := (given? f.recalling "enabled" decodeBool).getD false
      topK := (given? f.recalling "topK" (decodeWord "usize")).getD 3
      minScore := (given? f.recalling "minScore" decodeSingle).getD (.ofQuotient false 3 10) }
  memoryAgent := (given? f.top "memoryAgent" decodeString).getD "memory"
  mock :=
    { latencyMs := (given? f.mock "latencyMs" (decodeWord "u64")).getD 0
      agents := (given? f.mock "agents" (decodeList decodeString)).getD
        ["technical", "memory", "research", "writer"]
      maxRuns := (given? f.mock "maxRuns" (decodeWord "usize")).getD 1024 }

end Settings

/-! ## Decoding the file -/

theorem gateway_reads :
    Reads (ν := Draft) GatewayConfig.decode gatewayNames
      (fun es => (Valid es "url" decodeString ∧ Valid es "token" (decodeOption decodeString)) ∧
        Valid es "requestTimeoutMs" (decodeWord "u64"))
      fun es =>
        { url := (given? es "url" decodeString).getD "http://127.0.0.1:18789"
          token := (given? es "token" (decodeOption decodeString)).getD none
          requestTimeoutMs := (given? es "requestTimeoutMs" (decodeWord "u64")).getD 30000 } :=
  ((makes_defaulted "url" decodeString "http://127.0.0.1:18789").map GatewayConfig.mk
    |>.ap (makes_defaulted "token" (decodeOption decodeString) none)
    |>.ap (makes_defaulted "requestTimeoutMs" (decodeWord "u64") 30000)).reads
      (by simp) (by simp) "GatewayConfig"

theorem recall_reads :
    Reads (ν := Draft) RecallConfig.decode recallNames
      (fun es => (Valid es "enabled" decodeBool ∧ Valid es "topK" (decodeWord "usize")) ∧
        Valid es "minScore" decodeSingle)
      fun es =>
        { enabled := (given? es "enabled" decodeBool).getD false
          topK := (given? es "topK" (decodeWord "usize")).getD 3
          minScore := (given? es "minScore" decodeSingle).getD (.ofQuotient false 3 10) } :=
  ((makes_defaulted "enabled" decodeBool false).map RecallConfig.mk
    |>.ap (makes_defaulted "topK" (decodeWord "usize") 3)
    |>.ap (makes_defaulted "minScore" decodeSingle (.ofQuotient false 3 10))).reads
      (by simp) (by simp) "RecallConfig"

theorem mock_reads :
    Reads (ν := Draft) MockConfig.decode mockNames
      (fun es => (Valid es "latencyMs" (decodeWord "u64") ∧
        Valid es "agents" (decodeList decodeString)) ∧ Valid es "maxRuns" (decodeWord "usize"))
      fun es =>
        { latencyMs := (given? es "latencyMs" (decodeWord "u64")).getD 0
          agents := (given? es "agents" (decodeList decodeString)).getD
            ["technical", "memory", "research", "writer"]
          maxRuns := (given? es "maxRuns" (decodeWord "usize")).getD 1024 } :=
  ((makes_defaulted "latencyMs" (decodeWord "u64") 0).map MockConfig.mk
    |>.ap (makes_defaulted "agents" (decodeList decodeString)
      ["technical", "memory", "research", "writer"])
    |>.ap (makes_defaulted "maxRuns" (decodeWord "usize") 1024)).reads
      (by simp) (by simp) "MockConfig"

section
variable {d : Draft} {f : Settings}

/-- The sections of a file are decoded from the settings that it gives in them. -/
theorem Settings.config_eq (found : of? d = some f) (decodes : f.Decodes)
    (plain : ∀ k v, lookUp k f.top = some v → Plain v) :
    f.config =
      { f.config with
        gateway := (given? f.top "gateway" GatewayConfig.decode).getD {}
        recalling := (given? f.top "recall" RecallConfig.decode).getD {}
        mock := (given? f.top "mock" MockConfig.decode).getD {} } := by
  obtain ⟨-, ofGateway, ofRecall, ofMock⟩ := of?_eq_some_iff.1 found
  have gateway := gateway_reads.given_eq (plain _) ofGateway
    ⟨⟨decodes.url, decodes.token⟩, decodes.requestTimeoutMs⟩
  have recalling := recall_reads.given_eq (plain _) ofRecall
    ⟨⟨decodes.enabled, decodes.topK⟩, decodes.minScore⟩
  have mock := mock_reads.given_eq (plain _) ofMock
    ⟨⟨decodes.latencyMs, decodes.agents⟩, decodes.maxRuns⟩
  unfold Settings.config
  rw [Config.mk.injEq]
  exact ⟨rfl, gateway.symm, rfl, rfl, rfl, recalling.symm, rfl, mock.symm⟩

/-- Both levels of a file are decoded, and nothing else of it counts. -/
theorem decode_iff_settings {c : Config} (plain : Plain d)
    (parts : ∀ es, fields? names d = some es → ∀ k v, lookUp k es = some v → Plain v) :
    Config.decode d = .ok c ↔ ∃ f, Settings.of? d = some f ∧ f.Decodes ∧ c = f.config := by
  have reads := ((makes_defaulted (ν := Draft) "backend" Backend.decode .mock).map Config.mk
    |>.ap (makes_defaulted "gateway" GatewayConfig.decode {})
    |>.ap (makes_defaulted "runTimeoutMs" (decodeWord "u64") 600000)
    |>.ap (makes_defaulted "statusPollMs" (decodeWord "u64") 250)
    |>.ap (makes_defaulted "historyLimit" (decodeWord "usize") 20)
    |>.ap (makes_defaulted "recall" RecallConfig.decode {})
    |>.ap (makes_defaulted "memoryAgent" decodeString "memory")
    |>.ap (makes_defaulted "mock" MockConfig.decode {})).reads
      (by simp) (by simp) "DelegateConfig"
  refine (reads.decode_iff plain).trans ?_
  constructor
  · rintro ⟨es, given, ⟨⟨⟨⟨⟨⟨⟨backend, gateway⟩, runTimeoutMs⟩, statusPollMs⟩, historyLimit⟩,
      recalling⟩, memoryAgent⟩, mock⟩, rfl⟩
    have plains := parts es given
    obtain ⟨gw, ofGateway, ⟨url, token⟩, requestTimeoutMs⟩ :=
      (gateway_reads.valid_iff (plains _)).1 gateway
    obtain ⟨rc, ofRecall, ⟨enabled, topK⟩, minScore⟩ :=
      (recall_reads.valid_iff (plains _)).1 recalling
    obtain ⟨mk, ofMock, ⟨latencyMs, agents⟩, maxRuns⟩ := (mock_reads.valid_iff (plains _)).1 mock
    have found : Settings.of? d = some ⟨es, gw, rc, mk⟩ :=
      Settings.of?_eq_some_iff.2 ⟨given, ofGateway, ofRecall, ofMock⟩
    have decodes : Settings.Decodes ⟨es, gw, rc, mk⟩ := by constructor <;> assumption
    exact ⟨_, found, decodes, (Settings.config_eq found decodes plains).symm⟩
  · rintro ⟨f, found, decodes, rfl⟩
    obtain ⟨given, ofGateway, ofRecall, ofMock⟩ := Settings.of?_eq_some_iff.1 found
    have plains := parts f.top given
    have gateway := (gateway_reads.valid_iff (plains _)).2
      ⟨_, ofGateway, ⟨decodes.url, decodes.token⟩, decodes.requestTimeoutMs⟩
    have recalling := (recall_reads.valid_iff (plains _)).2
      ⟨_, ofRecall, ⟨decodes.enabled, decodes.topK⟩, decodes.minScore⟩
    have mock := (mock_reads.valid_iff (plains _)).2
      ⟨_, ofMock, ⟨decodes.latencyMs, decodes.agents⟩, decodes.maxRuns⟩
    exact ⟨f.top, given, ⟨⟨⟨⟨⟨⟨⟨decodes.backend, gateway⟩, decodes.runTimeoutMs⟩,
      decodes.statusPollMs⟩, decodes.historyLimit⟩, recalling⟩, decodes.memoryAgent⟩, mock⟩,
      Settings.config_eq found decodes plains⟩

end

/-! ## Above the file -/

section
variable {s : Surroundings} {f : Settings} {c made : Config} {value? : String → Option String}

/-- Every setting from the topmost layer that has it. References are filled in in the file only. -/
def layered (s : Surroundings) (f : Settings) : Config :=
  let filled := Template.expand s.value?
  { f.config with
    backend := ((s.value? "DELEGATE_BACKEND").bind Backend.parse?).getD f.config.backend
    gateway :=
      { f.config.gateway with
        url := ((s.value? "DELEGATE_GATEWAY_URL").or
          ((given? f.gateway "url" decodeString).map filled)).getD "http://127.0.0.1:18789"
        token := (s.value? "DELEGATE_GATEWAY_TOKEN").or
          (((given? f.gateway "token" (decodeOption decodeString)).getD none).map filled) } }

/-- All that has to hold of the settings of a file, so that the configuration can be loaded. What is
checked is what comes out of the layers. -/
structure Fit (s : Surroundings) (f : Settings) : Prop where
  decodes : f.Decodes
  named : ∀ text, s.value? "DELEGATE_BACKEND" = some text →
    ∃ b : Backend, Text.asciiLower (Text.trim text) = b.text
  remembering : Text.trim (layered s f).memoryAgent ≠ ""
  reachable : (layered s f).backend = .real →
    ∃ u, Url.parse (layered s f).gateway.url = .ok u

/-- A configuration with the environment above it. -/
def overlaid (value? : String → Option String) (c : Config) : Config :=
  { c with
    backend := ((value? "DELEGATE_BACKEND").bind Backend.parse?).getD c.backend
    gateway :=
      { c.gateway with
        url := (value? "DELEGATE_GATEWAY_URL").getD c.gateway.url
        token := (value? "DELEGATE_GATEWAY_TOKEN").or c.gateway.token } }

theorem overridden_eq_ok_iff :
    c.overridden value? = .ok made ↔
      (∀ text, value? "DELEGATE_BACKEND" = some text → ∃ b, Backend.parse? text = some b) ∧
        made = c.overlaid value? := by
  unfold overridden overlaid
  cases value? "DELEGATE_BACKEND" with
  | none => simp [eq_comm]
  | some text => cases known : Backend.parse? text <;> simp [known, eq_comm]

theorem validate_eq_ok_iff :
    c.validate = .ok () ↔
      (c.backend = .real → ∃ u, Url.parse c.gateway.url = .ok u) ∧
        Text.trim c.memoryAgent ≠ "" := by
  have target : discard c.gateway.target = .ok () ↔ ∃ u, Url.parse c.gateway.url = .ok u := by
    unfold GatewayConfig.target
    cases Url.parse c.gateway.url with
    | ok u => exact iff_of_true rfl ⟨u, rfl⟩
    | error e => exact iff_of_false nofun nofun
  have blank : (if Text.trim c.memoryAgent = "" then throw .blankMemoryAgent else pure ()) =
      (.ok () : Except LoadError Unit) ↔ Text.trim c.memoryAgent ≠ "" := by
    split
    · exact iff_of_false nofun (not_not_intro ‹_›)
    · exact iff_of_true rfl ‹_›
  unfold validate
  by_cases real : c.backend = .real
  · rw [if_pos real, ← target, ← blank]
    constructor
    · intro passed
      obtain ⟨_, reached, passed⟩ := ok_of_bind passed
      exact ⟨fun _ => reached, passed⟩
    · rintro ⟨reached, passed⟩
      rw [reached real]
      exact passed
  · rw [if_neg real, ← blank]
    exact (and_iff_right fun there => absurd there real).symm

/-! ## All layers -/

/-- The text is an object of these entries: nothing in it is at fault, and no key is repeated in it
or in one of its sections. -/
structure IsObject (text : String) (entries : List (Json.Scanned String × Draft)) : Prop where
  read : Draft.read text = (.obj entries none, none)
  sound : (Draft.obj entries none).pass = none
  once : (Draft.obj entries none).keys.Nodup
  onceBelow : ∀ e ∈ entries, e.2.keys.Nodup

variable {path content : String} {entries : List (Json.Scanned String × Draft)}

theorem IsObject.plain (object : IsObject content entries) : Plain (Draft.obj entries none) :=
  Draft.plain object.sound object.once

/-- What is found under the keys can be decoded. -/
theorem IsObject.plain_of_lookUp (object : IsObject content entries) (es : List (String × Draft))
    (given : fields? names (Draft.obj entries none) = some es) (k : String) (v : Draft)
    (found : lookUp k es = some v) : Plain v := by
  have keyed : entries.map (fun e => (e.1.value, e.2)) = es.map fun e => (.ok e.1, e.2) :=
    Json.keyed_eq_some_iff.1 given
  have mem := List.mem_map_of_mem (f := fun e => ((.ok e.1 : Except Json.Fault String), e.2))
    (Json.mem_of_lookUp found)
  rw [← keyed] at mem
  obtain ⟨e, he, same⟩ := List.mem_map.1 mem
  obtain ⟨-, rfl⟩ := Prod.mk.inj same
  have passed := (Option.or_eq_none_iff.1 object.sound).1
  exact Draft.plain (Draft.passEntries_eq_none_iff.1 passed e he).2 (object.onceBelow e he)

/-- It does not matter whether the default url is filled in, since it refers to nothing. -/
theorem layered_eq : layered s f = (f.config.expanded s.value?).overlaid s.value? := by
  have untouched :
      Template.expand s.value? "http://127.0.0.1:18789" = "http://127.0.0.1:18789" :=
    Template.expand_of_free (by decide +kernel)
  have url (upper : Option String) (file : Option String) :
      (upper.or (file.map (Template.expand s.value?))).getD "http://127.0.0.1:18789" =
        upper.getD (Template.expand s.value? (file.getD "http://127.0.0.1:18789")) := by
    cases upper <;> cases file <;> simp [untouched]
  simp [layered, overlaid, expanded, Settings.config, url]

/-- Case and the blanks around a name do not matter. -/
theorem parse?_known_iff {text : String} :
    (∃ b, Backend.parse? text = some b) ↔
      ∃ b : Backend, Text.asciiLower (Text.trim text) = b.text := by
  simp only [← Option.isSome_iff_exists, Backend.parse?, List.find?_isSome, decide_eq_true_eq]
  constructor
  · rintro ⟨b, -, same⟩
    exact ⟨b, same.symm⟩
  · rintro ⟨b, same⟩
    exact ⟨b, by cases b <;> decide, same.symm⟩

theorem ofFile_eq_ok_iff (there : (s.entry path).text = .ok content)
    (object : IsObject content entries) :
    ofFile s path = .ok c ↔
      ∃ f, Settings.of? (.obj entries none) = some f ∧ f.Decodes ∧
        c = f.config.expanded s.value? := by
  have decoded : ofFile s path = .ok c ↔
      ∃ made, Config.decode (Draft.obj entries none) = .ok made ∧ c = made.expanded s.value? := by
    simp only [ofFile, there, ofText, object.read]
    cases Config.decode (Draft.obj entries none) <;> simp [eq_comm]
  rw [decoded]
  simp only [decode_iff_settings object.plain object.plain_of_lookUp]
  constructor
  · rintro ⟨_, ⟨f, found, decodes, rfl⟩, rfl⟩
    exact ⟨f, found, decodes, rfl⟩
  · rintro ⟨f, found, decodes, rfl⟩
    exact ⟨_, ⟨f, found, decodes, rfl⟩, rfl⟩

end

namespace Sample

/-- The file asks for the real backend at a url that is none, and has settings that nobody knows. -/
def document : List (String × Json) :=
  [("backend", .str "real"),
    ("gateway", .obj [("url", .str "none"), ("token", .str "t-$\x7bNAME\x7d"), ("later", .null)]),
    ("memoryAgent", .str " notes "),
    ("recall", .obj [("topK", .ofNat 5)]),
    ("more", .arr [.null])]

def surroundings (document : List (String × Json)) (set : List (String × String)) : Surroundings :=
  { value? := valueIn set
    entry := fun _ => .file (Json.compact (.obj document)).toUTF8 }

/-- The environment mends the url, by one that looks like a reference. -/
def mended : Surroundings :=
  surroundings document
    [("DELEGATE_GATEWAY_URL", "http://[::1]/$\x7bNAME\x7d"), ("NAME", "me")]

def settings : Settings :=
  let given (es : List (String × Json)) := es.map fun e => (e.1, Draft.ofJson e.2)
  { top := given document
    gateway := given [("url", .str "none"), ("token", .str "t-$\x7bNAME\x7d"), ("later", .null)]
    recalling := given [("topK", .ofNat 5)]
    mock := [] }

theorem isObject_document :
    IsObject (Json.compact (.obj document)) (Draft.ofEntries document) where
  read := Draft.read_compact (v := .obj document) <| by
    simp [document, Json.Whole, Json.WholeEntries, Json.WholeItems, Json.ofNat, Numeral.InRange,
      int64Min, wordMax]
  sound := by decide
  once := by decide
  onceBelow := by decide

theorem fit_settings : Fit mended settings where
  decodes := by constructor <;> decide
  named text set := by
    have unset : mended.value? "DELEGATE_BACKEND" = none := by decide +kernel
    rw [unset] at set
    cases set
  remembering := by decide +kernel
  reachable _ := by
    have parsed : (Url.parse (layered mended settings).gateway.url).isOk = true := by
      decide +kernel
    cases url : Url.parse (layered mended settings).gateway.url with
    | ok u => exact ⟨u, rfl⟩
    | error e => simp [url, Except.isOk, Except.toBool] at parsed

end Sample

namespace Sample

/-- The gateway is an array, and its first item the url. -/
def unnamed : List (String × Json) := [("gateway", .arr [.str "http://gw.example"])]

theorem isObject_unnamed :
    IsObject (Json.compact (.obj unnamed)) (Draft.ofEntries unnamed) where
  read := Draft.read_compact (v := .obj unnamed) <| by
    simp [unnamed, Json.Whole, Json.WholeEntries, Json.WholeItems]
  sound := by decide
  once := by decide
  onceBelow := by decide

end Sample

end Config

end Delegation
