import Delegation.Proofs.Searching

/-!
# Text that contains the query

Filtering characters and lowering them one by one keeps parts of a text in place, so what an entry
contains it contains after normalization (`normalized_infix`). The pairs of a part are pairs of the
whole (`mem_pairs_iff`). So an entry that contains the query has all of its grams, and is found with
the full score (`contained_found`), unless the query is a single character in a longer text: its
gram is that character, and the text has pairs only.
-/

namespace Delegation.Memory

open Number (Single)

variable {query : String} {minScore : Single} {item : StoredMemory}

/-! ## Parts of a text -/

theorem normalized_infix {s t : String} (part : s.toList <:+: t.toList) :
    normalized s <:+: normalized t := by
  obtain ⟨before, after, whole⟩ := part
  refine ⟨Text.lowered (before.filter Text.isAlphanumeric),
    Text.lowered (after.filter Text.isAlphanumeric), ?_⟩
  unfold normalized
  rw [← whole, List.filter_append, List.filter_append, Text.lowered_append, Text.lowered_append]

/-- The pairs of a text are its parts of two characters. -/
theorem mem_pairs_iff {g : List Char} : ∀ {cs : List Char}, g ∈ pairs cs ↔ g <:+: cs ∧ g.length = 2
  | [] | [_] => by
    refine iff_of_false (by simp [pairs]) ?_
    rintro ⟨part, two⟩
    have := part.length_le
    simp only [List.length_nil, List.length_singleton] at this
    omega
  | a :: b :: rest => by
    have front : g <+: a :: b :: rest ∧ g.length = 2 ↔ g = [a, b] := by
      constructor
      · rintro ⟨part, two⟩
        rw [List.prefix_iff_eq_take.1 part, two]
        rfl
      · rintro rfl
        exact ⟨⟨rest, rfl⟩, rfl⟩
    rw [pairs, List.mem_cons, mem_pairs_iff, @List.infix_cons_iff _ g a, or_and_right, front]

/-- The grams of a part are grams of the whole, but for a single character in a longer text. -/
theorem mem_gramsOf_of_infix {part whole g : List Char} (h : part <:+: whole)
    (long : 2 ≤ part.length ∨ ∃ c, part = [c] ∧ whole = [c]) (hg : g ∈ gramsOf part) :
    g ∈ gramsOf whole := by
  rcases long with long | ⟨c, rfl, rfl⟩
  · have grams_eq {cs : List Char} (longer : 2 ≤ cs.length) : gramsOf cs = pairs cs := by
      unfold gramsOf
      split
      · simp at longer
      · rfl
    rw [grams_eq long, mem_pairs_iff] at hg
    rw [grams_eq (long.trans h.length_le), mem_pairs_iff]
    exact ⟨hg.1.trans h, hg.2⟩
  · exact hg

theorem gramsOf_ne_nil {cs : List Char} (nonempty : cs ≠ []) : gramsOf cs ≠ [] := by
  match cs with
  | [] => exact absurd rfl nonempty
  | [a] => simp [gramsOf]
  | a :: b :: rest => simp [gramsOf, pairs]

/-! ## Entries that contain the query -/

/-- An entry has all grams of a query that it contains. -/
theorem common_eq_of_infix {content : String} (h : normalized query <:+: normalized content)
    (long : 2 ≤ (normalized query).length ∨
      ∃ c, normalized query = [c] ∧ normalized content = [c]) :
    common query content = gramSet query := by
  refine Finset.inter_eq_left.2 fun g hg => ?_
  rw [gramSet, List.mem_toFinset] at hg ⊢
  exact mem_gramsOf_of_infix h long hg

theorem card_gramSet_pos (nonempty : normalized query ≠ []) : 0 < (gramSet query).card := by
  rw [Finset.card_pos, gramSet, List.toFinset_nonempty_iff]
  exact gramsOf_ne_nil nonempty

/-- An entry that contains the query is found, and has the full score, whatever else is stored. -/
theorem contained_found {m : Memory} (kept : item ∈ m.items)
    (contained : query.toList <:+: item.entry.content.toList ∨
      normalized query <:+: normalized item.entry.content)
    (long : 2 ≤ (normalized query).length ∨
      ∃ c, normalized query = [c] ∧ normalized item.entry.content = [c])
    (low : Single.le minScore (.ofInt 1) = true) {topK : Nat} (room : m.items.length ≤ topK) :
    ⟨item.id, item.entry.content, .ofInt 1⟩ ∈ m.search query topK minScore := by
  have part : normalized query <:+: normalized item.entry.content :=
    contained.elim normalized_infix id
  have nonempty : normalized query ≠ [] := by
    rcases long with long | ⟨c, single, -⟩
    · exact List.ne_nil_of_length_pos (by omega)
    · simp [single]
  have all := common_eq_of_infix part long
  have full : scoreOf query item = .ofInt 1 := by
    rw [scoreOf, all]
    exact Single.ratio_self (card_gramSet_pos nonempty) (card_gramSet_le query)
  have matched : Matches query minScore item :=
    ⟨all ▸ card_gramSet_pos nonempty, full ▸ low⟩
  have few : (m.ranking query minScore).length ≤ topK := by
    rw [(m.perm_ranking query minScore).length_eq]
    exact (List.length_filter_le _ _).trans room
  rw [m.search_eq, List.take_of_length_le few]
  refine List.mem_map.2 ⟨item, mem_ranking.2 ⟨kept, matched⟩, ?_⟩
  rw [hitOf, full]

namespace Sample

/-- Two notes of the same time, which have nothing in common. -/
def preferences : Memory := ⟨[⟨"m1", 0, { content := "code in Rust, please" }⟩,
  ⟨"m2", 0, { content := "İstanbul" }⟩]⟩

end Sample

/-- Parts of the notes are found, also such as are parts but for punctuation and case. -/
theorem contained_found_sample :
    ⟨"m1", "code in Rust, please", .ofInt 1⟩ ∈ Sample.preferences.search "Rust, pl" 2 (.ofInt 1) ∧
      ⟨"m2", "İstanbul", .ofInt 1⟩ ∈ Sample.preferences.search "İS t" 2 (.ofInt 1) := by
  have first : ⟨"m1", 0, { content := "code in Rust, please" }⟩ ∈ Sample.preferences.items := .head _
  have second : ⟨"m2", 0, { content := "İstanbul" }⟩ ∈ Sample.preferences.items := .tail _ (.head _)
  have within : "Rust, pl".toList <:+: "code in Rust, please".toList :=
    ⟨"code in ".toList, "ease".toList, by decide⟩
  have folded : normalized "İS t" <:+: normalized "İstanbul" :=
    ⟨[], "anbul".toList, by decide⟩
  exact ⟨contained_found first (.inl within) (.inl (by decide)) (by decide) (by decide),
    contained_found second (.inr folded) (.inl (by decide)) (by decide) (by decide)⟩

end Delegation.Memory
