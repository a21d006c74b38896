import Delegation.Proofs.Polling
import Delegation.Proofs.Replies
import Delegation.Proofs.Verdicts

/-!
# Which reply is the latest

A history may be any document. `History` says which messages it holds, and `Replies` which of them
are replies and what they say: that is taken from the content of a message, or else from the text
beside it. The latest reply is the last message that says something (`latest_reply_decides`):
messages behind it that say nothing do not hide it, and those before it do not matter.
-/

namespace Delegation.Remote

variable {message part raw : Json} {parts ms : List Json} {texts : List String} {s t : String}

/-! ## What a message says -/

/-- A fragment has a text: it is one, or it holds one under the first of two keys that it has. -/
inductive Fragment : Json → String → Prop
  | plain (s : String) : Fragment (.str s) s
  | text {entries : Entries} {s : String} (found : Json.find "text" entries = some (.str s)) :
    Fragment (.obj entries) s
  | value {entries : Entries} {s : String} (absent : Json.find "text" entries = none)
    (found : Json.find "value" entries = some (.str s)) : Fragment (.obj entries) s

/-- The texts of the fragments that are not blank, in their order. -/
inductive Fragments : List Json → List String → Prop
  | nil : Fragments [] []
  | take {part : Json} {s : String} {parts : List Json} {texts : List String}
    (told : Fragment part s) (solid : Text.trim s ≠ "") (rest : Fragments parts texts) :
    Fragments (part :: parts) (s :: texts)
  | skip {part : Json} {parts : List Json} {texts : List String}
    (silent : ∀ s, Fragment part s → Text.trim s = "") (rest : Fragments parts texts) :
    Fragments (part :: parts) texts

/-- The content of a message is a text that is not blank, or has fragments that are not. -/
inductive Content (message : Json) : String → Prop
  | string {s t : String} (content : message.get? "content" = some (.str s))
    (trimmed : Text.trim s = t) (solid : t ≠ "") : Content message t
  | fragments {parts : List Json} {texts : List String}
    (content : message.get? "content" = some (.arr parts)) (each : Fragments parts texts)
    (any : texts ≠ []) : Content message (String.intercalate "\n" texts)

/-- The text beside the content counts only if the content says nothing. -/
inductive Usable (message : Json) : String → Prop
  | content {t : String} (said : Content message t) : Usable message t
  | aside {s t : String} (silent : ∀ t, ¬ Content message t)
    (text : message.get? "text" = some (.str s)) (trimmed : Text.trim s = t) (solid : t ≠ "") :
    Usable message t

/-- A message of the assistant that says something. -/
def Replies (message : Json) (t : String) : Prop :=
  message.get? "role" = some (.str "assistant") ∧ Usable message t

theorem fragmentText?_eq_some_iff : fragmentText? part = some s ↔ Fragment part s := by
  constructor
  · intro found
    unfold fragmentText? at found
    split at found
    · cases found
      exact .plain s
    · obtain ⟨v, found, text⟩ := Option.bind_eq_some_iff.1 found
      obtain rfl := Json.text?_eq_some_iff.1 text
      rcases Option.or_eq_some_iff.1 found with first | ⟨absent, second⟩
      · exact .text first
      · exact .value absent second
    · cases found
  · intro told
    cases told with
    | plain => rfl
    | text found => simp [fragmentText?, found, Json.text?]
    | value absent found => simp [fragmentText?, absent, found, Json.text?]

theorem filter_fragmentText?_eq_some_iff :
    (fragmentText? part).filter (!isBlankText ·) = some s ↔
      Fragment part s ∧ Text.trim s ≠ "" := by
  rw [Option.filter_eq_some_iff, fragmentText?_eq_some_iff]
  simp [isBlankText]

theorem fragments_iff :
    Fragments parts texts ↔
      (parts.filterMap fragmentText?).filter (!isBlankText ·) = texts := by
  rw [List.filter_filterMap]
  induction parts generalizing texts with
  | nil =>
    constructor
    · rintro ⟨⟩
      rfl
    · rintro rfl
      exact .nil
  | cons part parts ih =>
    cases one : (fragmentText? part).filter (!isBlankText ·) with
    | none =>
      have silent : ∀ s, ¬ (Fragment part s ∧ Text.trim s ≠ "") := by
        intro s told
        rw [filter_fragmentText?_eq_some_iff.2 told] at one
        cases one
      simp only [List.filterMap_cons, one]
      rw [← ih]
      constructor
      · rintro (_ | ⟨told, solid, -⟩ | ⟨-, rest⟩)
        · exact absurd ⟨told, solid⟩ (silent _)
        · exact rest
      · intro rest
        exact .skip (fun s told => not_not.1 fun solid => silent s ⟨told, solid⟩) rest
    | some s =>
      obtain ⟨told, solid⟩ := filter_fragmentText?_eq_some_iff.1 one
      simp only [List.filterMap_cons, one]
      constructor
      · rintro (_ | ⟨told', solid', rest⟩ | ⟨silent, -⟩)
        · rw [filter_fragmentText?_eq_some_iff.2 ⟨told', solid'⟩] at one
          cases one
          rw [ih.1 rest]
        · exact absurd (silent s told) solid
      · rintro rfl
        exact .take told solid (ih.2 rfl)

theorem contentText?_eq_some_iff :
    contentText? (message.get? "content") = some t ↔ Content message t := by
  constructor
  · intro said
    unfold contentText? at said
    split at said
    · rename_i s content
      obtain ⟨solid, trimmed⟩ := Text.nonBlank?_eq_some_iff.1 said
      exact .string content trimmed solid
    · rename_i parts content
      unfold fragmentsText? at said
      dsimp only at said
      split at said
      · cases said
      · rename_i any
        cases said
        exact .fragments content (fragments_iff.2 rfl) any
    · cases said
  · intro said
    cases said with
    | string content trimmed solid =>
      rw [content]
      exact Text.nonBlank?_eq_some_iff.2 ⟨solid, trimmed⟩
    | fragments content each any =>
      obtain rfl := fragments_iff.1 each
      rw [content]
      exact if_neg any

theorem messageText?_eq_some_iff : messageText? message = some t ↔ Usable message t := by
  have silent_iff : contentText? (message.get? "content") = none ↔ ∀ t, ¬ Content message t := by
    simp only [Option.eq_none_iff_forall_ne_some, ne_eq, contentText?_eq_some_iff]
  have aside_iff : ((message.get? "text").bind Json.text?).bind Text.nonBlank? = some t ↔
      ∃ s, message.get? "text" = some (.str s) ∧ t ≠ "" ∧ Text.trim s = t := by
    simp [Option.bind_eq_some_iff, Json.text?_eq_some_iff, Text.nonBlank?_eq_some_iff]
  rw [messageText?, Option.or_eq_some_iff, contentText?_eq_some_iff, silent_iff, aside_iff]
  constructor
  · rintro (said | ⟨silent, s, text, solid, trimmed⟩)
    · exact .content said
    · exact .aside silent text trimmed solid
  · intro usable
    cases usable with
    | content said => exact .inl said
    | aside silent text trimmed solid => exact .inr ⟨silent, _, text, solid, trimmed⟩

theorem replyText?_eq_some_iff : replyText? message = some t ↔ Replies message t := by
  have role : isAssistant message = true ↔ message.get? "role" = some (.str "assistant") := by
    simp [isAssistant, Option.bind_eq_some_iff, Json.text?_eq_some_iff]
  rw [replyText?, Replies, ← messageText?_eq_some_iff, ← role]
  split <;> simp [*]

/-! ## The messages of a history -/

/-- A history is an object with an array of messages, or such an array; there are none in anything
else. -/
inductive History : Json → List Json → Prop
  | keyed {raw : Json} {ms : List Json} (found : raw.get? "messages" = some (.arr ms)) :
    History raw ms
  | bare (ms : List Json) : History (.arr ms) ms
  | other {raw : Json} (keyless : ∀ ms, raw.get? "messages" ≠ some (.arr ms))
    (noArray : ∀ ms, raw ≠ .arr ms) : History raw []

theorem items?_eq_some_iff {v : Json} : v.items? = some ms ↔ v = .arr ms := by
  cases v <;> simp [Json.items?]

theorem history_messages (raw : Json) : History raw (messages raw) := by
  unfold messages
  cases keyed : (raw.get? "messages").bind Json.items? with
  | some ms =>
    obtain ⟨v, found, items⟩ := Option.bind_eq_some_iff.1 keyed
    obtain rfl := items?_eq_some_iff.1 items
    exact .keyed found
  | none =>
    cases bare : raw.items? with
    | some ms =>
      obtain rfl := items?_eq_some_iff.1 bare
      exact .bare ms
    | none =>
      refine .other (fun ms found => ?_) fun ms same => ?_
      · rw [found] at keyed
        cases keyed
      · rw [same] at bare
        cases bare

/-- Each document is the history of some messages and of no others. -/
theorem History.messages_eq (history : History raw ms) : messages raw = ms := by
  have others := history_messages raw
  cases history with
  | keyed found => simp [messages, found, Json.items?]
  | bare => rfl
  | other keyless noArray =>
    generalize messages raw = ms at others
    cases others with
    | keyed found => exact absurd found (keyless _)
    | bare => exact absurd rfl (noArray _)
    | other => rfl

/-! ## The latest reply -/

/-- None of the messages is a reply. -/
def Silent (ms : List Json) : Prop := ∀ m ∈ ms, ∀ t, ¬ Replies m t

theorem silent_iff : Silent ms ↔ ∀ m ∈ ms, replyText? m = none := by
  simp only [Silent, Option.eq_none_iff_forall_ne_some, ne_eq, replyText?_eq_some_iff]

/-- The last of the messages that is a reply says this. -/
def Latest (ms : List Json) (t : String) : Prop :=
  ∃ before m after, ms = before ++ m :: after ∧ Replies m t ∧ Silent after

theorem findSome?_reverse_eq_some_iff :
    ms.reverse.findSome? replyText? = some t ↔ Latest ms t := by
  simp only [List.findSome?_eq_some_iff, Latest, silent_iff, ← replyText?_eq_some_iff]
  constructor
  · rintro ⟨after, m, before, same, told, silent⟩
    refine ⟨before.reverse, m, after.reverse, ?_, told, fun x hx => ?_⟩
    · rw [← List.reverse_reverse ms, same]
      simp
    · exact silent x (List.mem_reverse.1 hx)
  · rintro ⟨before, m, after, rfl, told, silent⟩
    refine ⟨after.reverse, m, before.reverse, by simp, told, fun x hx => ?_⟩
    exact silent x (List.mem_reverse.1 hx)

theorem latestReply?_eq_some_iff (history : History raw ms) :
    latestReply? raw = some t ↔ Latest ms t := by
  rw [latestReply?, history.messages_eq, findSome?_reverse_eq_some_iff]

theorem latestReply?_eq_none_iff (history : History raw ms) :
    latestReply? raw = none ↔ Silent ms := by
  rw [latestReply?, history.messages_eq, List.findSome?_eq_none_iff, silent_iff]
  simp

/-- What stands later comes first. -/
theorem latestReply?_append {more : List Json} (history : History raw (ms ++ more)) :
    latestReply? raw =
      (more.reverse.findSome? replyText?).or (ms.reverse.findSome? replyText?) := by
  rw [latestReply?, history.messages_eq, List.reverse_append, List.findSome?_append]

theorem latestReply?_of_replies {before after : List Json}
    (history : History raw (before ++ message :: after)) (told : Replies message t) :
    latestReply? raw = (after.reverse.findSome? replyText?).or (some t) := by
  have said := replyText?_eq_some_iff.2 told
  rw [latestReply?_append history, List.reverse_cons, List.findSome?_append]
  simp [said]

/-- The latest reply that is read from a history is what the last message says that says something,
whatever document the history is and whatever else it holds. -/
theorem latest_reply_decides (raw : Json) :
    ∃ ms, (∀ others, History raw others ↔ others = ms) ∧
    (∀ t, latestReply? raw = some t ↔ Latest ms t) ∧
    (latestReply? raw = none ↔ Silent ms) ∧
    (∀ t, latestReply? raw = some t → Text.trim t ≠ "") ∧
    (∀ more raw', Silent more → History raw' (ms ++ more) →
      latestReply? raw' = latestReply? raw) ∧
    (∀ m t raw', Replies m t → History raw' (ms ++ [m]) → latestReply? raw' = some t) ∧
    (∀ before m t after, ms = before ++ m :: after → Replies m t →
      ∀ before' raw', History raw' (before' ++ m :: after) →
        latestReply? raw' = latestReply? raw) ∧
    ∀ (h : Host) (session : SessionKey) (limit timeoutMs : UInt64)
      (answer : Reply (Option String)) (h' : Host),
      h.Performs (readLatestReply session limit timeoutMs)
          [⟨.call (historyCall session limit timeoutMs), .ok raw⟩] answer h' ↔
        answer = .ok (latestReply? raw) ∧ h' = h := by
  have history := history_messages raw
  refine ⟨messages raw, fun others => ⟨fun other => other.messages_eq.symm, ?_⟩,
    fun t => latestReply?_eq_some_iff history, latestReply?_eq_none_iff history,
    fun t => latestReply?_not_blank, ?_, ?_, ?_, ?_⟩
  · rintro rfl
    exact history
  · intro more raw' silent longer
    have nothing : more.reverse.findSome? replyText? = none := by
      simpa [List.findSome?_eq_none_iff] using silent_iff.1 silent
    rw [latestReply?_append longer, nothing, Option.none_or]
    rfl
  · intro m t raw' told longer
    rw [latestReply?_of_replies longer told]
    rfl
  · intro before m t after same told before' raw' other
    rw [same] at history
    rw [latestReply?_of_replies other told, latestReply?_of_replies history told]
  · intro h session limit timeoutMs answer h'
    rw [performs_readLatestReply]
    constructor
    · rintro ⟨reply, asked, rfl, rfl⟩
      cases asked
      exact ⟨rfl, rfl⟩
    · rintro ⟨rfl, rfl⟩
      exact ⟨.ok raw, rfl, rfl, rfl⟩

namespace Sample

/-- Four fragments, of which one has no text because its text is no string, and one a blank text. -/
def fragments : List Json :=
  [.str "first", .obj [("text", .ofNat 5), ("value", .str "hidden")],
    .obj [("text", .str " "), ("value", .str "hidden")], .obj [("value", .str " last ")]]

def reply : Json :=
  .obj [("content", .arr fragments), ("role", .str "assistant"), ("text", .str "beside")]

def question : Json := .obj [("content", .str "what?"), ("role", .str "user")]

/-- Two messages are blank, one is somebody else's, and one is no message at all. -/
def asides : List Json :=
  [.obj [("content", .str " "), ("role", .str "assistant"), ("text", .str "\n")],
    .obj [("content", .arr [.str ""]), ("role", .str "assistant")],
    .obj [("content", .str "who?"), ("role", .str "Assistant")], .null]

def messages : List Json := question :: reply :: asides

theorem fragments_texts : Fragments fragments ["first", " last "] := fragments_iff.2 (by decide)

theorem silent_asides : Silent asides := silent_iff.2 (by decide)

end Sample

/-- Four messages stand behind the latest reply. -/
theorem latest_reply_decides_sample :
    History (.obj [("messages", .arr Sample.messages)]) Sample.messages ∧
      latestReply? (.obj [("messages", .arr Sample.messages)]) = some "first\n last " := by
  have history : History (.obj [("messages", .arr Sample.messages)]) Sample.messages := .keyed rfl
  have usable : Usable Sample.reply "first\n last " :=
    .content (.fragments rfl Sample.fragments_texts (by decide))
  obtain ⟨ms, only, latest, -⟩ := latest_reply_decides (.obj [("messages", .arr Sample.messages)])
  obtain rfl : Sample.messages = ms := (only _).1 history
  refine ⟨history, (latest _).2 ?_⟩
  exact ⟨[Sample.question], Sample.reply, Sample.asides, rfl, ⟨rfl, usable⟩, Sample.silent_asides⟩

end Delegation.Remote
