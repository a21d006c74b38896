import Delegation.Memory.Store
import Delegation.Proofs.Replies
import Mathlib.Data.List.Nodup

/-!
# How the memory grows

Entries are added at the end and never changed (`Grows`, the inversion of one call). A finished
exchange is kept in short, and what is short is not blank even if the task is, because of the arrow
that stands before the output (`summary_solid`): so keeping it cannot fail. It is kept once, since
a text that an entry has already is not kept again; exchanges that differ only after the limit count
as the same. `grows_by_calls` is the whole law, for every course of calls.
-/

namespace Delegation

namespace Memory

variable {m : Memory}

/-! ## A finished exchange in short -/

theorem toList_summary (task output : String) :
    (summary task output).toList =
      ((Text.trim task).toList ++ " → ".toList ++ (Text.trim output).toList).take captureLimit := by
  simp [summary]

theorem length_summary (task output : String) : (summary task output).length ≤ captureLimit := by
  rw [← String.length_toList, toList_summary]
  exact List.length_take_le _ _

/-- A long task leaves no room for what came out of it. -/
theorem summary_of_long {task : String} (long : captureLimit ≤ (Text.trim task).toList.length)
    (output : String) :
    summary task output = String.ofList ((Text.trim task).toList.take captureLimit) := by
  rw [← String.toList_inj, toList_summary, List.append_assoc,
    List.take_append_of_le_length long, String.toList_ofList]

/-- The arrow is within the limit if nothing comes before it. -/
theorem summary_solid (task output : String) : Text.trim (summary task output) ≠ "" := by
  cases ht : (Text.trim task).toList with
  | nil =>
    refine Text.trim_ne_empty_of_mem (c := '→') ?_ (by decide)
    rw [toList_summary, ht]
    simp [captureLimit]
  | cons c cs =>
    refine Text.trim_ne_empty_of_mem (c := c) ?_ (Text.isBlank_head?_trim (by rw [ht]; rfl))
    rw [toList_summary, ht]
    simp [captureLimit]

/-! ## One call -/

theorem store_of_blank {entry : MemoryEntry} (blank : Text.trim entry.content = "") (id : String)
    (now : Int) : m.store id now entry = (.error blankRefusal, m) := by
  rw [store, if_pos blank]

theorem store_of_solid {entry : MemoryEntry} (solid : Text.trim entry.content ≠ "") (id : String)
    (now : Int) : m.store id now entry = (.ok id, ⟨m.items ++ [⟨id, now, entry⟩]⟩) := by
  rw [store, if_neg solid]

/-- Nothing came out of an exchange, or its text is kept already. -/
def Idle (m : Memory) (task output : String) : Prop :=
  Text.trim output = "" ∨ ∃ item ∈ m.items, item.entry.content = summary task output

theorem capture_of_idle {task output : String} (idle : m.Idle task output) (id : String)
    (now : Int) (agent : AgentName) : m.capture id now agent task output = (.ok 0, m) := by
  unfold capture
  by_cases blank : Text.trim output = ""
  · rw [if_pos blank]
  · obtain ⟨item, member, same⟩ := idle.resolve_left blank
    have kept : m.items.any (·.entry.content = summary task output) = true :=
      List.any_eq_true.2 ⟨item, member, decide_eq_true same⟩
    rw [if_neg blank]
    dsimp only
    rw [if_pos kept]

theorem capture_of_not_idle {task output : String} (busy : ¬m.Idle task output) (id : String)
    (now : Int) (agent : AgentName) :
    m.capture id now agent task output =
      (.ok 1, ⟨m.items ++ [⟨id, now,
        { content := summary task output, agent := some agent, tags := [captureTag] }⟩]⟩) := by
  obtain ⟨solid, new⟩ := not_or.1 busy
  have kept : ¬m.items.any (·.entry.content = summary task output) = true := by
    intro found
    obtain ⟨item, member, same⟩ := List.any_eq_true.1 found
    exact new ⟨item, member, of_decide_eq_true same⟩
  unfold capture
  rw [if_neg solid]
  dsimp only
  rw [if_neg kept, store_of_solid]
  · simp only [Except.map]
  · exact summary_solid task output

/-! ## Courses of calls -/

inductive Event where
  | store (id : String) (now : Int) (entry : MemoryEntry)
  | capture (id : String) (now : Int) (agent : AgentName) (task output : String)
  | search (query : String) (topK : Nat) (minScore : Number.Single)

def Event.isCapture : Event → Bool
  | .capture .. => true
  | _ => false

def next (m : Memory) : Event → Memory
  | .store id now entry => (m.store id now entry).2
  | .capture id now agent task output => (m.capture id now agent task output).2
  | .search .. => m

def after (m : Memory) (es : List Event) : Memory := es.foldl next m

/-- The entries that come from finished exchanges, in order. -/
def captured : Memory → List Event → List StoredMemory
  | _, [] => []
  | m, e :: es =>
    (if e.isCapture then (m.next e).items.drop m.items.length else []) ++ (m.next e).captured es

/-- What becomes of the memory with one call: nothing, or one more entry, which is not blank. If it
comes from a finished exchange it is short, and no other entry has its text. -/
inductive Grows (m : Memory) (e : Event) : Memory → Prop
  | same : Grows m e m
  | more (item : StoredMemory) (solid : Text.trim item.entry.content ≠ "")
    (short : e.isCapture = true → item.entry.content.length ≤ captureLimit)
    (new : e.isCapture = true → item.entry.content ∉ m.items.map (·.entry.content)) :
    Grows m e ⟨m.items ++ [item]⟩

theorem grows_next (m : Memory) (e : Event) : m.Grows e (m.next e) := by
  cases e with
  | store id now entry =>
    by_cases blank : Text.trim entry.content = ""
    · rw [next, store_of_blank blank]
      exact .same
    · rw [next, store_of_solid blank]
      exact .more _ blank nofun nofun
  | capture id now agent task output =>
    by_cases idle : m.Idle task output
    · rw [next, capture_of_idle idle]
      exact .same
    · rw [next, capture_of_not_idle idle]
      refine .more _ (summary_solid task output) (fun _ => length_summary task output) fun _ => ?_
      intro member
      obtain ⟨item, kept, same⟩ := List.mem_map.1 member
      exact idle (.inr ⟨item, kept, same⟩)
  | search => exact .same

theorem Grows.isPrefix {e : Event} {m' : Memory} (grows : m.Grows e m') : m.items <+: m'.items := by
  cases grows with
  | same => exact List.prefix_refl _
  | more item => exact List.prefix_append _ _

theorem prefix_after (m : Memory) (es : List Event) : m.items <+: (m.after es).items := by
  induction es generalizing m with
  | nil => exact List.prefix_refl _
  | cons e es ih => exact (m.grows_next e).isPrefix.trans (ih (m.next e))

/-- What holds of a memory and of the entries that came from finished exchanges so far. -/
structure Sound (m : Memory) (past : List StoredMemory) : Prop where
  solid : ∀ item ∈ m.items, Text.trim item.entry.content ≠ ""
  within : past.Sublist m.items
  short : ∀ item ∈ past, item.entry.content.length ≤ captureLimit
  distinct : (past.map (·.entry.content)).Nodup

theorem sound_empty : empty.Sound [] :=
  ⟨nofun, List.Sublist.refl _, nofun, List.nodup_nil⟩

theorem Sound.next {past : List StoredMemory} (sound : m.Sound past) (e : Event) :
    (m.next e).Sound
      (past ++ if e.isCapture then (m.next e).items.drop m.items.length else []) := by
  have grows := m.grows_next e
  -- From here on only what `Grows` says of the call matters, not which call it was.
  generalize m.next e = m' at grows ⊢
  cases grows with
  | same => simpa using sound
  | more item solid short new =>
    have all : ∀ other ∈ m.items ++ [item], Text.trim other.entry.content ≠ "" := by
      intro other member
      rcases List.mem_append.1 member with member | member
      · exact sound.solid other member
      · rwa [List.mem_singleton.1 member]
    by_cases finished : e.isCapture = true
    · rw [if_pos finished, List.drop_left]
      refine ⟨all, sound.within.append (List.Sublist.refl _), ?_, ?_⟩
      · intro other member
        rcases List.mem_append.1 member with member | member
        · exact sound.short other member
        · rw [List.mem_singleton.1 member]
          exact short finished
      · rw [List.map_append, List.map_singleton, List.nodup_append_comm, List.singleton_append,
          List.nodup_cons]
        refine ⟨fun member => new finished ?_, sound.distinct⟩
        exact (sound.within.map _).subset member
    · rw [if_neg finished, List.append_nil]
      exact ⟨all, sound.within.trans (List.sublist_append_left _ _), sound.short, sound.distinct⟩

theorem Sound.after {past : List StoredMemory} (sound : m.Sound past) (es : List Event) :
    (m.after es).Sound (past ++ m.captured es) := by
  induction es generalizing m past with
  | nil =>
    rw [captured, List.append_nil]
    exact sound
  | cons e es ih =>
    rw [captured, ← List.append_assoc]
    exact ih (sound.next e)

/-- After any calls on a new memory: entries stay where they are, and none is blank. An entry is
refused, and changes nothing, exactly if it is blank. Keeping a finished exchange never fails: it
adds one entry, the first 500 characters of the exchange, unless the output is blank or some entry
has that text already. So what came from finished exchanges is short and different in all
entries. -/
theorem grows_by_calls (es : List Event) :
    let m := empty.after es
    (∀ later, m.items <+: (m.after later).items) ∧
    (∀ item ∈ m.items, Text.trim item.entry.content ≠ "") ∧
    (∀ id now entry,
      ((∃ message, (m.store id now entry).1 = .error message) ↔ Text.trim entry.content = "") ∧
      ((m.store id now entry).2 = m ↔ Text.trim entry.content = "") ∧
      (Text.trim entry.content ≠ "" →
        m.store id now entry = (.ok id, ⟨m.items ++ [⟨id, now, entry⟩]⟩))) ∧
    (∀ id now agent task output,
      let content := String.ofList
        ((Text.trim task ++ " → " ++ Text.trim output).toList.take 500)
      let idle := Text.trim output = "" ∨ ∃ item ∈ m.items, item.entry.content = content
      (idle → m.capture id now agent task output = (.ok 0, m)) ∧
      (¬idle → m.capture id now agent task output = (.ok 1, ⟨m.items ++ [⟨id, now,
        { content, agent := some agent, tags := ["auto-capture"] }⟩]⟩))) ∧
    (empty.captured es).Sublist m.items ∧
    ((empty.captured es).map (·.entry.content)).Nodup ∧
    ∀ item ∈ empty.captured es, item.entry.content.length ≤ 500 := by
  intro m
  have sound : m.Sound (empty.captured es) := sound_empty.after es
  refine ⟨m.prefix_after, sound.solid, ?_, ?_, sound.within, sound.distinct, sound.short⟩
  · intro id now entry
    by_cases blank : Text.trim entry.content = ""
    · rw [store_of_blank blank]
      exact ⟨iff_of_true ⟨_, rfl⟩ blank, iff_of_true rfl blank, absurd blank⟩
    · rw [store_of_solid blank]
      refine ⟨iff_of_false nofun blank, iff_of_false ?_ blank, fun _ => rfl⟩
      intro same
      have := congrArg (List.length ∘ items) same
      simp at this
  · intro id now agent task output
    exact ⟨fun idle => capture_of_idle idle id now agent,
      fun busy => capture_of_not_idle busy id now agent⟩

namespace Sample

def longTask : String := String.ofList (List.replicate captureLimit 'x')

theorem toList_longTask : longTask.toList = List.replicate captureLimit 'x' :=
  String.toList_ofList

theorem trim_longTask : Text.trim longTask = longTask := by
  have solid : Text.isBlank 'x' = false := by decide
  rw [Text.trim, Text.trimmed, toList_longTask]
  simp [solid, longTask]

/-- The task takes all the room that there is. -/
theorem summary_longTask (output : String) : summary longTask output = longTask := by
  have length : longTask.toList.length = captureLimit := by
    rw [toList_longTask, List.length_replicate]
  rw [summary_of_long, trim_longTask, List.take_of_length_le (Nat.le_of_eq length),
    String.ofList_toList]
  rw [trim_longTask, length]

def longExchange : List Event := [.capture "m1" 0 ⟨"writer"⟩ longTask "one"]

end Sample

/-- Of two exchanges with one long task the second counts as kept already, whatever came out of it;
an exchange with a blank task is kept. -/
theorem grows_by_calls_sample :
    ∃ m, m = empty.after Sample.longExchange ∧ m.items.map (·.entry.content) = [Sample.longTask] ∧
      m.capture "m2" 1 ⟨"writer"⟩ Sample.longTask "two" = (.ok 0, m) ∧
      m.capture "m3" 2 ⟨"writer"⟩ " " "two" = (.ok 1, ⟨m.items ++ [⟨"m3", 2,
        { content := " → two", agent := some ⟨"writer"⟩, tags := ["auto-capture"] }⟩]⟩) := by
  have first : ¬empty.Idle Sample.longTask "one" := by
    rintro (blank | ⟨item, member, -⟩)
    · exact absurd blank (by decide)
    · cases member
  have kept : (empty.after Sample.longExchange).items.map (·.entry.content) =
      [Sample.longTask] := by
    rw [after, Sample.longExchange, List.foldl_cons, next, capture_of_not_idle first,
      Sample.summary_longTask]
    rfl
  have short : summary " " "two" = " → two" := by decide
  obtain ⟨-, -, -, captures, -⟩ := grows_by_calls Sample.longExchange
  generalize empty.after Sample.longExchange = m at kept captures
  have again : m.Idle Sample.longTask "two" := by
    rw [Idle, Sample.summary_longTask, ← List.mem_map, kept]
    exact .inr (List.mem_singleton_self _)
  have busy : ¬m.Idle " " "two" := by
    rw [Idle, short, ← List.mem_map, kept, List.mem_singleton]
    rintro (blank | same)
    · exact absurd blank (by decide)
    · have first := congrArg (·.toList.head?) same
      simp [Sample.toList_longTask, captureLimit] at first
  have blank := (captures "m3" 2 ⟨"writer"⟩ " " "two").2 busy
  rw [show String.ofList (List.take 500 _) = " → two" from short] at blank
  exact ⟨m, rfl, kept, (captures "m2" 1 ⟨"writer"⟩ Sample.longTask "two").1 again, blank⟩

end Memory

end Delegation
