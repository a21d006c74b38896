import Delegation.Proofs.Mirroring
import Delegation.Proofs.ReadBack

/-!
# The shape of a remote answer does not matter

A tool result holds an object as its details, or as a text among its content (`Carries`). Whichever
it is, the same object is unwrapped (`unwrap?_of_carries`): the text of an object is read back as
the object (`Json.read?_compact`). So a spawn, a message, and any number of operations of the
dispatcher come to the same with either shape, as `shapes_interchangeable` says; two such runs are
compared by `anyShape`.
-/

namespace Delegation

namespace Remote

variable {m : Entries} {raw : Json}

/-- An object that can be written out and read back: its keys ascend, as those of every object that
was read, its numbers are whole numbers of 64 bits, and it is not nested deeper than a reader
goes. -/
structure Writable (m : Entries) : Prop where
  ordered : Json.Ordered (.obj m)
  whole : Json.Whole (.obj m)
  shallow : Json.depth (.obj m) ≤ Json.depthLimit

/-- The texts of an object: the one that it is written as, and all that are read as it. -/
inductive Spells (m : Entries) : String → Prop
  | written (writable : Writable m) : Spells m (Json.compact (.obj m))
  | reads {text : String} (reads : Json.read? text = some (.obj m)) : Spells m text

/-- The first item of a content that is a text, behind others. A payload with details has none. -/
structure FirstText (raw item : Json) : Prop where
  undetailed : ∀ es, raw.get? "details" ≠ some (.obj es)
  listed : ∃ before after, raw.get? "content" = some (.arr (before ++ item :: after)) ∧
    ∀ other ∈ before, other.get? "type" ≠ some (.str "text")
  typed : item.get? "type" = some (.str "text")

/-- The two shapes in which a payload holds an object. -/
inductive Carries (m : Entries) (raw : Json) : Prop
  | details (there : raw.get? "details" = some (.obj m))
  | content {item : Json} {text : String} (first : FirstText raw item)
    (written : item.get? "text" = some (.str text)) (spells : Spells m text)

/-! ## What is unwrapped -/

theorem isTextItem_iff {item : Json} :
    isTextItem item = true ↔ item.get? "type" = some (.str "text") := by
  unfold isTextItem
  cases item.get? "type" with
  | none => simp
  | some v => cases v <;> simp [Json.text?]

theorem details_of_undetailed (undetailed : ∀ es, raw.get? "details" ≠ some (.obj es)) :
    (raw.get? "details").bind Json.entries? = none := by
  cases hd : raw.get? "details" with
  | none => rfl
  | some v =>
    cases v with
    | obj es => exact absurd hd (undetailed es)
    | _ => rfl

/-- Only the first text item is looked at. -/
theorem FirstText.unwrap?_eq {item : Json} (first : FirstText raw item) :
    unwrap? raw = (((item.get? "text").bind Json.text?).bind Json.read?).bind Json.entries? := by
  obtain ⟨before, after, listed, others⟩ := first.listed
  have found : (before ++ item :: after).find? isTextItem = some item := by
    rw [List.find?_append, List.find?_eq_none.2, Option.none_or, List.find?_cons_of_pos]
    · exact isTextItem_iff.2 first.typed
    · intro other member typed
      exact others other member (isTextItem_iff.1 typed)
  have text : firstText? raw = (item.get? "text").bind Json.text? := by
    simp [firstText?, listed, Json.items?, found]
  unfold unwrap?
  rw [details_of_undetailed first.undetailed, text]

theorem read?_of_spells {text : String} (spells : Spells m text) :
    Json.read? text = some (.obj m) := by
  cases spells with
  | written writable =>
    exact Json.read?_compact writable.ordered writable.whole writable.shallow
  | reads reads => exact reads

/-- Either shape gives the object that it holds. -/
theorem unwrap?_of_carries (carries : Carries m raw) : unwrap? raw = some m := by
  cases carries with
  | details there => simp [unwrap?, there, Json.entries?]
  | content first written spells =>
    rw [first.unwrap?_eq, written]
    simp [Json.text?, read?_of_spells spells, Json.entries?]

/-- Behind a first text item that is no object, nothing is looked for. -/
theorem FirstText.unwrapped_eq_nil {item : Json} (first : FirstText raw item)
    (unreadable : ∀ text m, item.get? "text" = some (.str text) → Json.read? text ≠ some (.obj m)) :
    unwrapped raw = [] := by
  unfold unwrapped
  rw [first.unwrap?_eq]
  cases hi : item.get? "text" with
  | none => rfl
  | some v =>
    cases v with
    | str text =>
      cases hr : Json.read? text with
      | none => simp [Json.text?, hr]
      | some w =>
        cases w with
        | obj m => exact absurd hr (unreadable text m hi)
        | _ => simp [Json.text?, hr, Json.entries?]
    | _ => rfl

/-- Replies that hold the same object, or are the same. -/
inductive SameObject : Reply Json → Reply Json → Prop
  | same (reply : Reply Json) : SameObject reply reply
  | shapes {raw₁ raw₂ : Json} {m : Entries} (first : Carries m raw₁) (second : Carries m raw₂) :
    SameObject (.ok raw₁) (.ok raw₂)

theorem SameObject.unwrapped_eq {a b : Reply Json} (same : SameObject a b) :
    a.map unwrapped = b.map unwrapped := by
  cases same with
  | same => rfl
  | shapes first second =>
    simp [Except.map, unwrapped, unwrap?_of_carries first, unwrap?_of_carries second]

end Remote

open Remote (Carries FirstText SameObject)

/-- Two runs may differ in the names of invocations and in the shape of their replies. -/
def anyShape : Comparison where
  aside _ := false
  isMemory := nofun
  expected _ := True
  replies := SameObject
  unwrapped_eq _ _ := SameObject.unwrapped_eq

/-- Payloads that hold an object in either shape are unwrapped to it, and one whose first text item
is no object holds nothing. So a spawn and a message come to the same with either shape, and
dispatchers that are told the same, in whatever shape, answer the same and keep equal ledgers. -/
theorem shapes_interchangeable :
    (∀ m raw, Carries m raw → Remote.unwrap? raw = some m) ∧
    (∀ raw item, FirstText raw item →
      (∀ text m, item.get? "text" = some (.str text) → Json.read? text ≠ some (.obj m)) →
      Remote.unwrapped raw = []) ∧
    (∀ a b, SameObject a b →
      (∀ r h₁ h₁' x₁ h₂ h₂' x₂,
        Host.Performs h₁ (Remote.spawn r) (Remote.invoking h₁ .spawn r.invocation a) x₁ h₁' →
        Host.Performs h₂ (Remote.spawn r) (Remote.invoking h₂ .spawn r.invocation b) x₂ h₂' →
        x₁ = x₂) ∧
      ∀ r h₁ h₁' x₁ h₂ h₂' x₂,
        Host.Performs h₁ (Remote.send r) (Remote.invoking h₁ .send r.invocation a) x₁ h₁' →
        Host.Performs h₂ (Remote.send r) (Remote.invoking h₂ .send r.invocation b) x₂ h₂' →
        x₁ = x₂) ∧
    ∀ d g₁ g₂ es₁ es₂ h₁ h₂, Chronicle d g₁ es₁ h₁ → Chronicle d g₂ es₂ h₂ →
      es₁.map Episode.request = es₂.map Episode.request → g₁.ledger = g₂.ledger →
      anyShape.Agree (exchanges es₁) (exchanges es₂) →
      es₁.map (Episode.answer id) = es₂.map (Episode.answer id) ∧ h₁.ledger = h₂.ledger := by
  refine ⟨fun m raw => Remote.unwrap?_of_carries, fun raw item first => first.unwrapped_eq_nil,
    fun a b same => ⟨?_, ?_⟩, ?_⟩
  · intro r h₁ h₁' x₁ h₂ h₂' x₂ first second
    obtain ⟨reply₁, log₁, rfl, -⟩ := Remote.performs_spawn.1 first
    obtain ⟨reply₂, log₂, rfl, -⟩ := Remote.performs_spawn.1 second
    cases log₁
    cases log₂
    exact Remote.spawnReply_congr same.unwrapped_eq
  · intro r h₁ h₁' x₁ h₂ h₂' x₂ first second
    obtain ⟨reply₁, log₁, rfl, -⟩ := Remote.performs_send.1 first
    obtain ⟨reply₂, log₂, rfl, -⟩ := Remote.performs_send.1 second
    cases log₁
    cases log₂
    exact Remote.sendReply_congr same.unwrapped_eq
  · intro d g₁ g₂ es₁ es₂ h₁ h₂ first second requests ledgers agree
    have spawns (o : SpawnOrder) :
        anyShape.Mirrors (fun e₁ e₂ => e₁.map id = e₂.map id) (d.spawn o) (d.spawn o) :=
      Comparison.mirrors_spawn rfl (Comparison.mirrored_augmented (fun _ _ _ => rfl) d)
        (Comparison.mirrored_persisted (fun _ => rfl) d) o
    obtain ⟨-, answers, ledgers⟩ := Comparison.chronicles spawns
      (Comparison.mirrors_status rfl) first second requests ledgers agree fun _ _ _ => trivial
    exact ⟨answers, ledgers⟩

namespace Sample

/-- An acceptance, as an object. -/
def accepting : Remote.Entries :=
  [("childSessionKey", .str "child"), ("runId", .str "r-1"), ("status", .str "accepted")]

/-- The same acceptance as `taken`, written out behind an image. -/
def takenInWriting : Json :=
  .obj [("content", .arr [.obj [("type", .str "image")],
    .obj [("text", .str (Json.compact (.obj accepting))), ("type", .str "text")], .null]),
    ("details", .null)]

theorem carries_taken : Carries accepting taken := .details rfl

theorem carries_takenInWriting : Carries accepting takenInWriting := by
  have writable : Remote.Writable accepting :=
    ⟨⟨by decide, trivial, trivial, trivial, trivial⟩, ⟨trivial, trivial, trivial, trivial⟩,
      by decide⟩
  have written : Json.get? (.obj [("text", .str (Json.compact (.obj accepting))),
      ("type", .str "text")]) "text" = some (.str (Json.compact (.obj accepting))) := rfl
  have listed : takenInWriting.get? "content" = some (.arr ([.obj [("type", .str "image")]] ++
      .obj [("text", .str (Json.compact (.obj accepting))), ("type", .str "text")] :: [.null])) :=
    rfl
  refine .content ⟨fun es => nofun, ⟨_, _, listed, ?_⟩, rfl⟩ written (.written writable)
  intro other member same
  cases List.mem_singleton.1 member
  exact absurd (congrArg (Option.bind · Json.text?) same) (by decide)

/-- An order that is not waited for. -/
def unwaited : SpawnOrder := { order with waitMs := 0 }

/-- What is exchanged for it on a host, if the run is taken on. -/
def unwaitedLog (h : Host) (reply : Reply Json) : List Exchange :=
  Remote.invoking h .spawn
    (dispatcher.spawnRequest unwaited ⟨"technical"⟩ "fix it" (.ofKey ⟨"main"⟩)).invocation reply ++
  [⟨.enter (Dispatcher.acceptedReport ⟨"technical"⟩ acceptance),
    some (Dispatcher.acceptedRecord ⟨"technical"⟩ acceptance)⟩]

theorem chronicle_unwaited (h : Host) {reply : Reply Json}
    (accepted : Remote.spawnReply reply = .ok acceptance) :
    ∃ env h', Chronicle dispatcher h [.spawn unwaited (unwaitedLog h reply) env] h' ∧
      env.ok = true := by
  have checked : unwaited.checked = .ok (⟨"technical"⟩, "fix it") := rfl
  have course : Dispatcher.SpawnCourse dispatcher unwaited h (unwaitedLog h reply) _ _ :=
    .taken checked rfl (.plain rfl) rfl accepted (.atOnce rfl) (.done _ _)
  have happened : Chronicle dispatcher h ([] ++ [.spawn unwaited _ _]) _ :=
    .next (e := .spawn unwaited _ _) .start ((Dispatcher.performs_spawn rfl).2 course)
  exact ⟨_, _, happened, rfl⟩

/-- Two such runs agree as soon as their replies do. -/
theorem agree_unwaited {c : Comparison} (h₁ h₂ : Host) {a b : Reply Json} (replied : c.replies a b)
    (env₁ env₂ : Envelope SpawnResult) :
    c.Agree (exchanges [.spawn unwaited (unwaitedLog h₁ a) env₁])
      (exchanges [.spawn unwaited (unwaitedLog h₂ b) env₂]) := by
  refine Comparison.agree_of_forall fun e₁ he₁ e₂ he₂ outside _ unnamed => ?_
  simp only [exchanges, Episode.log, unwaitedLog, Remote.invoking, List.flatMap_cons,
    List.flatMap_nil, List.append_nil, List.cons_append, List.nil_append, List.mem_cons,
    List.not_mem_nil, or_false] at he₁ he₂
  rcases he₁ with rfl | rfl | rfl
  · cases outside
  · rcases he₂ with rfl | rfl | rfl
    · cases unnamed
    · exact .invoke unnamed replied
    · cases unnamed
  · cases outside

/-- A host whose fresh names are others. -/
def elsewhere : Host := { Host.ofConfig {} with supply := 7 }

end Sample

/-- A run that is taken on in either shape, under different names of the invocation. -/
theorem shapes_interchangeable_sample : ∃ env h₁ h₂,
    Chronicle Sample.dispatcher (.ofConfig {})
      [.spawn Sample.unwaited (Sample.unwaitedLog (.ofConfig {}) (.ok Sample.taken)) env] h₁ ∧
    Chronicle Sample.dispatcher Sample.elsewhere
      [.spawn Sample.unwaited (Sample.unwaitedLog Sample.elsewhere (.ok Sample.takenInWriting)) env]
      h₂ ∧
    env.ok = true ∧ h₁.ledger = h₂.ledger := by
  obtain ⟨-, -, -, chronicles⟩ := shapes_interchangeable
  have same : SameObject (.ok Sample.taken) (.ok Sample.takenInWriting) :=
    .shapes Sample.carries_taken Sample.carries_takenInWriting
  have accepted : Remote.spawnReply (.ok Sample.taken) = .ok Sample.acceptance := rfl
  have acceptedToo : Remote.spawnReply (.ok Sample.takenInWriting) = .ok Sample.acceptance :=
    (Remote.spawnReply_congr same.unwrapped_eq).symm.trans accepted
  obtain ⟨env₁, h₁, first, well⟩ := Sample.chronicle_unwaited (.ofConfig {}) accepted
  obtain ⟨env₂, h₂, second, -⟩ := Sample.chronicle_unwaited Sample.elsewhere acceptedToo
  obtain ⟨answers, ledgers⟩ := chronicles _ _ _ _ _ _ _ first second rfl rfl
    (Sample.agree_unwaited (c := anyShape) _ _ same env₁ env₂)
  have same : env₁ = env₂ := by simpa [Episode.answer] using answers
  exact ⟨env₁, h₁, h₂, first, same ▸ second, well, ledgers⟩

end Delegation
