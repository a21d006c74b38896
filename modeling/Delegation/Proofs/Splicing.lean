import Delegation.Memory.Recall
import Mathlib.Data.List.DropRight
import Mathlib.Data.List.Infix

/-!
# What is recalled, in a text

The hits of a search stand after the task in a block of their own, with their contents as they are:
nothing is escaped. So a marker stands in the text once for itself and once wherever a content
quotes it (`occurrences_splice`), and a content of several lines makes several lines
(`lines_block`). What holds for all contents is that the block begins at the first opening marker
and reaches to the end, so the task can be read back (`taskOf_splice`). `splice_delimited` puts this
together.
-/

namespace Delegation

namespace Text

variable {part cs : List Char} {c : Char}

/-! ## Parts of a text -/

/-- At how many places of a text a part stands. -/
def occurrences (part : List Char) : List Char → Nat
  | [] => 0
  | c :: cs => (if part <+: c :: cs then 1 else 0) + occurrences part cs

/-- What stands before the first place where a part stands. -/
def before (part : List Char) : List Char → List Char
  | [] => []
  | c :: cs => if part <+: c :: cs then [] else c :: before part cs

theorem occurrences_eq_zero_iff (nonempty : part ≠ []) :
    occurrences part cs = 0 ↔ ¬part <:+: cs := by
  induction cs with
  | nil => simp [occurrences, nonempty]
  | cons c cs ih =>
    rw [occurrences, Nat.add_eq_zero_iff, ih, List.infix_cons_iff, not_or]
    simp

/-- A part that begins a text stands before any character that is not in it. -/
theorem prefix_append_cons_iff (free : c ∉ part) (a b : List Char) :
    part <+: a ++ c :: b ↔ part <+: a := by
  induction part generalizing a with
  | nil => simp
  | cons p part ih =>
    rw [List.mem_cons, not_or] at free
    cases a with
    | nil => simp [Ne.symm free.1]
    | cons x a => simp [List.cons_prefix_cons, ih free.2]

theorem not_prefix_cons (nonempty : part ≠ []) (free : c ∉ part) (b : List Char) :
    ¬part <+: c :: b := by
  have none : ¬part <+: [] := mt List.prefix_nil.1 nonempty
  exact mt (prefix_append_cons_iff free [] b).1 none

/-- No place of a part reaches over a character that is not in it. -/
theorem occurrences_append_cons (nonempty : part ≠ []) (free : c ∉ part) (a b : List Char) :
    occurrences part (a ++ c :: b) = occurrences part a + occurrences part b := by
  induction a with
  | nil => simp [occurrences, not_prefix_cons nonempty free b]
  | cons x a ih =>
    have same := prefix_append_cons_iff free (x :: a) b
    rw [List.cons_append] at same ⊢
    simp only [occurrences, same, ih]
    omega

theorem before_append_cons (nonempty : part ≠ []) (free : c ∉ part) {a : List Char}
    (none : ¬part <:+: a) (b : List Char) :
    before part (a ++ c :: b) = a ++ c :: before part b := by
  induction a with
  | nil => simp [before, not_prefix_cons nonempty free b]
  | cons x a ih =>
    have same := prefix_append_cons_iff free (x :: a) b
    rw [List.infix_cons_iff, not_or] at none
    rw [List.cons_append] at same ⊢
    rw [before, if_neg (mt same.1 none.1), ih none.2]
    rfl

theorem before_of_prefix (first : part <+: cs) : before part cs = [] := by
  cases cs with
  | nil => rfl
  | cons c cs => rw [before, if_pos first]

/-! ## Lines -/

def lines (s : String) : List String := (s.toList.splitOn '\n').map String.ofList

theorem lines_of_single {s : String} (single : '\n' ∉ s.toList) : lines s = [s] := by
  rw [lines, List.splitOn_eq_singleton single, List.map_singleton, String.ofList_toList]

theorem lines_append (s t : String) : lines (s ++ "\n" ++ t) = lines s ++ lines t := by
  have split : (s ++ "\n" ++ t).toList = s.toList ++ '\n' :: t.toList := by simp
  simp only [lines, split, List.splitOn_append_cons_self, List.map_append]

end Text

/-! ## Two decimal places -/

namespace Number

theorem mem_hundredthsText {n : Nat} {c : Char} (hc : c ∈ hundredthsText n) :
    c = '.' ∨ c.isDigit = true := by
  have digit : ∀ k : Fin 10, (Char.ofNat (48 + k.1)).isDigit = true := by decide
  simp only [hundredthsText, List.mem_append, List.mem_cons, List.not_mem_nil, or_false] at hc
  rcases hc with hc | rfl | rfl | rfl
  · exact .inr (Nat.isDigit_of_mem_toDigits (by decide) (by decide) hc)
  · exact .inl rfl
  · exact .inr (digit ⟨n % 100 / 10, by omega⟩)
  · exact .inr (digit ⟨n % 100 % 10, by omega⟩)

/-- A score is written without brackets and line feeds. -/
theorem not_mem_twoPlaces (x : Single) {c : Char} (other : c = '[' ∨ c = '\n') :
    c ∉ x.twoPlaces.toList := by
  cases x with
  | nan => rcases other with rfl | rfl <;> decide
  | infinite negative => cases negative <;> rcases other with rfl | rfl <;> decide
  | finite negative m e =>
    have size (n : Nat) : c ∉ hundredthsText n := by
      intro hc
      rcases other with rfl | rfl <;> rcases mem_hundredthsText hc with h | h <;>
        exact absurd h (by decide)
    have sign : c ≠ '-' := by rcases other with rfl | rfl <;> decide
    cases negative <;> simp [Single.twoPlaces, size, sign]

end Number

namespace Recall

open Text

variable {task : String} {hits : List MemoryHit} {marker : List Char}

/-! ## The block -/

/-- What the block says of a hit. -/
def entry (h : MemoryHit) : String :=
  "- " ++ Text.trim h.content ++ " (score " ++ h.score.twoPlaces ++ ")"

/-- The entries and what follows them, each on lines of its own. -/
def entries (rest : String) : List MemoryHit → String
  | [] => rest
  | h :: hits => entry h ++ "\n" ++ entries rest hits

def block (hits : List MemoryHit) : String := openingMarker ++ "\n" ++ entries closingMarker hits

theorem line_eq_entry (h : MemoryHit) : line h = entry h ++ "\n" := by
  rw [← String.toList_inj]
  simp [line, entry]

theorem join_line (hits : List MemoryHit) (rest : String) :
    String.join (hits.map line) ++ rest = entries rest hits := by
  induction hits with
  | nil => simp [entries]
  | cons h hits ih =>
    rw [List.map_cons, String.join_cons, String.append_assoc, ih, line_eq_entry, entries]

theorem splice_of_ne_nil (given : hits ≠ []) : splice task hits = task ++ "\n\n" ++ block hits := by
  rw [splice, if_neg given, block, ← join_line]
  simp only [String.append_assoc]

theorem prefix_block (hits : List MemoryHit) :
    openingMarker.toList <+: (block hits).toList := by
  rw [block, String.append_assoc, String.toList_append]
  exact List.prefix_append _ _

theorem suffix_entries (rest : String) (hits : List MemoryHit) :
    rest.toList <:+ (entries rest hits).toList := by
  induction hits with
  | nil => exact List.suffix_refl _
  | cons h hits ih =>
    rw [entries, String.toList_append]
    exact ih.trans (List.suffix_append _ _)

theorem suffix_block (hits : List MemoryHit) :
    closingMarker.toList <:+ (block hits).toList := by
  rw [block, String.toList_append]
  exact (suffix_entries closingMarker hits).trans (List.suffix_append _ _)

/-! ## Its lines -/

theorem lines_entries (rest : String) (hits : List MemoryHit) :
    lines (entries rest hits) = hits.flatMap (fun h => lines (entry h)) ++ lines rest := by
  induction hits with
  | nil => rfl
  | cons h hits ih => rw [entries, lines_append, ih, List.flatMap_cons, List.append_assoc]

/-- The markers stand on lines of their own, and the lines of the entries between them. -/
theorem lines_block (hits : List MemoryHit) :
    lines (block hits) =
      openingMarker :: hits.flatMap (fun h => lines (entry h)) ++ [closingMarker] := by
  rw [block, lines_append, lines_entries, lines_of_single (s := openingMarker) (by decide),
    lines_of_single (s := closingMarker) (by decide)]
  rfl

theorem lines_entry {h : MemoryHit} (single : '\n' ∉ (Text.trim h.content).toList) :
    lines (entry h) = [entry h] := by
  refine lines_of_single ?_
  have score := Number.not_mem_twoPlaces h.score (.inr rfl)
  simp [entry, single, score]

theorem flatMap_lines_entry (single : ∀ h ∈ hits, '\n' ∉ (Text.trim h.content).toList) :
    hits.flatMap (fun h => lines (entry h)) = hits.map entry := by
  induction hits with
  | nil => rfl
  | cons h hits ih =>
    rw [List.forall_mem_cons] at single
    rw [List.flatMap_cons, lines_entry single.1, ih single.2]
    rfl

/-! ## Its markers -/

/-- At how many places the contents quote a part. -/
def quotes (part : List Char) : List MemoryHit → Nat
  | [] => 0
  | h :: hits => occurrences part (Text.trim h.content).toList + quotes part hits

/-- Neither blanks nor line feeds are part of a marker. -/
structure IsMarker (marker : List Char) : Prop where
  bracket : ∃ rest, marker = '[' :: rest
  noBlank : ' ' ∉ marker
  noBreak : '\n' ∉ marker

theorem isMarker_opening : IsMarker openingMarker.toList := ⟨⟨_, rfl⟩, by decide, by decide⟩

theorem isMarker_closing : IsMarker closingMarker.toList := ⟨⟨_, rfl⟩, by decide, by decide⟩

namespace IsMarker

theorem ne_nil (m : IsMarker marker) : marker ≠ [] := by
  obtain ⟨rest, rfl⟩ := m.bracket
  exact List.cons_ne_nil _ _

theorem occurrences_of_not_mem (m : IsMarker marker) (cs : List Char) (free : '[' ∉ cs) :
    occurrences marker cs = 0 := by
  rw [occurrences_eq_zero_iff m.ne_nil]
  obtain ⟨rest, rfl⟩ := m.bracket
  exact fun within => free (within.subset List.mem_cons_self)

/-- A marker stands in an entry only where the content quotes it. -/
theorem occurrences_entry (m : IsMarker marker) (h : MemoryHit) :
    occurrences marker (entry h).toList = occurrences marker (Text.trim h.content).toList := by
  -- The blanks cut the entry into parts, and of these only the content can have a bracket.
  have parts : (entry h).toList = ['-'] ++ ' ' :: ((Text.trim h.content).toList ++ ' ' ::
      ("(score".toList ++ ' ' :: (h.score.twoPlaces.toList ++ [')']))) := by
    simp [entry]
  have score := Number.not_mem_twoPlaces h.score (.inl rfl)
  rw [parts, occurrences_append_cons m.ne_nil m.noBlank, occurrences_append_cons m.ne_nil m.noBlank,
    occurrences_append_cons m.ne_nil m.noBlank, m.occurrences_of_not_mem ['-'] (by decide),
    m.occurrences_of_not_mem "(score".toList (by decide),
    m.occurrences_of_not_mem (h.score.twoPlaces.toList ++ [')']) (by simp [score])]
  omega

theorem occurrences_entries (m : IsMarker marker) (rest : String) (hits : List MemoryHit) :
    occurrences marker (entries rest hits).toList =
      quotes marker hits + occurrences marker rest.toList := by
  induction hits with
  | nil => exact (Nat.zero_add _).symm
  | cons h hits ih =>
    have parts : (entries rest (h :: hits)).toList =
        (entry h).toList ++ '\n' :: (entries rest hits).toList := by
      simp [entries]
    rw [parts, occurrences_append_cons m.ne_nil m.noBreak, m.occurrences_entry, ih, quotes,
      Nat.add_assoc]

/-- A marker stands once for each place of the task, of a content or of the block's two ends where
it stands. -/
theorem occurrences_splice (m : IsMarker marker) (given : hits ≠ []) :
    occurrences marker (splice task hits).toList =
      occurrences marker task.toList +
        (occurrences marker openingMarker.toList +
          (quotes marker hits + occurrences marker closingMarker.toList)) := by
  have parts : (splice task hits).toList = task.toList ++ '\n' :: ([] ++ '\n' ::
      (openingMarker.toList ++ '\n' :: (entries closingMarker hits).toList)) := by
    rw [splice_of_ne_nil given]
    simp [block]
  rw [parts, occurrences_append_cons m.ne_nil m.noBreak, occurrences_append_cons m.ne_nil m.noBreak,
    occurrences_append_cons m.ne_nil m.noBreak, m.occurrences_entries,
    m.occurrences_of_not_mem [] (by decide), Nat.zero_add]

theorem quotes_of_unquoted (m : IsMarker marker)
    (unquoted : ∀ h ∈ hits, ¬marker <:+: (Text.trim h.content).toList) :
    quotes marker hits = 0 := by
  induction hits with
  | nil => rfl
  | cons h hits ih =>
    rw [List.forall_mem_cons] at unquoted
    rw [quotes, ih unquoted.2, (occurrences_eq_zero_iff m.ne_nil).2 unquoted.1]

/-- What no content quotes stands only where the task and the two ends of the block have it. -/
theorem occurrences_of_unquoted (m : IsMarker marker) (given : hits ≠ [])
    (plain : ¬marker <:+: task.toList)
    (unquoted : ∀ h ∈ hits, ¬marker <:+: (Text.trim h.content).toList) :
    occurrences marker (splice task hits).toList =
      occurrences marker openingMarker.toList + occurrences marker closingMarker.toList := by
  rw [m.occurrences_splice given, (occurrences_eq_zero_iff m.ne_nil).2 plain,
    m.quotes_of_unquoted unquoted, Nat.zero_add, Nat.zero_add]

end IsMarker

/-! ## Reading the text -/

/-- The text before the blank line and the first opening marker. -/
def taskOf (text : String) : String :=
  String.ofList ((before openingMarker.toList text.toList).rdrop 2)

/-- The text from the first opening marker on. -/
def blockOf (text : String) : String :=
  String.ofList (text.toList.drop (before openingMarker.toList text.toList).length)

/-- How many lines stand between the first and the last of a block. -/
def hitCount (text : String) : Nat := (lines (blockOf text)).length - 2

/-- The task and the blank line stand before the first opening marker, whatever the contents
are. -/
theorem before_splice (plain : ¬openingMarker.toList <:+: task.toList) (given : hits ≠ []) :
    before openingMarker.toList (splice task hits).toList = (task ++ "\n\n").toList := by
  have m := isMarker_opening
  have parts : (splice task hits).toList =
      task.toList ++ '\n' :: ([] ++ '\n' :: (block hits).toList) := by
    rw [splice_of_ne_nil given]
    simp
  rw [parts, before_append_cons m.ne_nil m.noBreak plain,
    before_append_cons m.ne_nil m.noBreak (mt List.infix_nil.1 m.ne_nil),
    before_of_prefix (prefix_block hits)]
  simp

theorem taskOf_splice (plain : ¬openingMarker.toList <:+: task.toList) (given : hits ≠ []) :
    taskOf (splice task hits) = task := by
  rw [taskOf, before_splice plain given]
  simp [List.rdrop]

theorem blockOf_splice (plain : ¬openingMarker.toList <:+: task.toList) (given : hits ≠ []) :
    blockOf (splice task hits) = block hits := by
  rw [blockOf, before_splice plain given, splice_of_ne_nil given,
    String.toList_append (s := task ++ "\n\n"), List.drop_left, String.ofList_toList]

theorem hitCount_splice (plain : ¬openingMarker.toList <:+: task.toList) (given : hits ≠ [])
    (single : ∀ h ∈ hits, '\n' ∉ (Text.trim h.content).toList) :
    hitCount (splice task hits) = hits.length := by
  rw [hitCount, blockOf_splice plain given, lines_block, flatMap_lines_entry single]
  simp

/-- The task is followed by a blank line and a block, which an opening marker begins and a closing
marker ends, each on a line of its own. Between them are the entries of the hits in order: on one
line, unless the content has several. No marker stands in the text twice, unless a content quotes
it. The task can be read back from the text, and the number of the hits too, if each content is a
single line. -/
theorem splice_delimited {task : String} {hits : List MemoryHit} (given : hits ≠ [])
    (opening : ¬openingMarker.toList <:+: task.toList)
    (closing : ¬closingMarker.toList <:+: task.toList) :
    ∃ block, splice task hits = task ++ "\n\n" ++ block ∧
      openingMarker.toList <+: block.toList ∧ closingMarker.toList <:+ block.toList ∧
      lines block = openingMarker :: hits.flatMap (fun h => lines (entry h)) ++ [closingMarker] ∧
      (∀ h ∈ hits, '\n' ∉ (Text.trim h.content).toList → lines (entry h) = [entry h]) ∧
      ((∀ h ∈ hits, ¬openingMarker.toList <:+: (Text.trim h.content).toList) →
        occurrences openingMarker.toList (splice task hits).toList = 1) ∧
      ((∀ h ∈ hits, ¬closingMarker.toList <:+: (Text.trim h.content).toList) →
        occurrences closingMarker.toList (splice task hits).toList = 1) ∧
      taskOf (splice task hits) = task ∧
      ((∀ h ∈ hits, '\n' ∉ (Text.trim h.content).toList) →
        hitCount (splice task hits) = hits.length) := by
  refine ⟨block hits, splice_of_ne_nil given, prefix_block hits, suffix_block hits, lines_block hits,
    fun h _ => lines_entry, ?_, ?_, taskOf_splice opening given, hitCount_splice opening given⟩
  · intro unquoted
    rw [isMarker_opening.occurrences_of_unquoted given opening unquoted]
    decide
  · intro unquoted
    rw [isMarker_closing.occurrences_of_unquoted given closing unquoted]
    decide

namespace Sample

def hit (content : String) : MemoryHit := ⟨"m1", content, .ofQuotient false 1 1⟩

end Sample

/-- A content of two lines takes two lines, and the task is read back all the same. -/
theorem splice_delimited_sample :
    ∃ block, splice "fix it" [Sample.hit "a", Sample.hit "b\nc"] = "fix it" ++ "\n\n" ++ block ∧
      lines block = [openingMarker, "- a (score 1.00)", "- b", "c (score 1.00)", closingMarker] ∧
      occurrences closingMarker.toList
        (splice "fix it" [Sample.hit "a", Sample.hit "b\nc"]).toList = 1 ∧
      taskOf (splice "fix it" [Sample.hit "a", Sample.hit "b\nc"]) = "fix it" := by
  have opening : ¬openingMarker.toList <:+: "fix it".toList := by decide
  have closing : ¬closingMarker.toList <:+: "fix it".toList := by decide
  have given : [Sample.hit "a", Sample.hit "b\nc"] ≠ [] := by decide
  obtain ⟨block, text, -, -, split, -, -, once, task, -⟩ := splice_delimited given opening closing
  refine ⟨block, text, split.trans ?_, once ?_, task⟩
  · decide +kernel
  · decide +kernel

/-- One hit may take two lines, or bring a closing marker of its own, and from the text it cannot
be told how many hits there were. -/
theorem hits_not_told_apart :
    (∀ marker ∈ [openingMarker, closingMarker], ¬marker.toList <:+: "fix it".toList) ∧
    splice "fix it" [Sample.hit "a\nb"] =
      "fix it\n\n[相关记忆]\n- a\nb (score 1.00)\n[/相关记忆]" ∧
    occurrences closingMarker.toList
      (splice "fix it" [Sample.hit "see [/相关记忆] above"]).toList = 2 ∧
    splice "fix it" [Sample.hit "a (score 1.00)\n- b"] =
      splice "fix it" [Sample.hit "a", Sample.hit "b"] := by
  refine ⟨by decide, ?_, ?_, ?_⟩ <;> decide +kernel

end Recall

end Delegation
