import Delegation.Memory.Store
import Delegation.Proofs.Nearest
import Mathlib.Data.Finset.Card
import Mathlib.Data.List.Nodup
import Mathlib.Data.Prod.Lex
import Mathlib.Order.Compare

/-!
# What a search finds

A search is specified without its lists: a text has a set of grams, an entry matches a query if it
shares one of them and its score is high enough, and one entry outranks another by its score or,
with equal scores, by its age. `search_eq` says that a search sorts the matching entries, and
`search_best` that the first of them are the ones that outrank all others. Two scores can always
be compared: a match scores more than zero, and one at most (`Matches.score_bounds`).
-/

namespace Delegation.Memory

open Number (Single)

variable {query content : String} {minScore : Single} {a b item : StoredMemory}

/-! ## Grams as a set -/

def gramSet (s : String) : Finset (List Char) := (gramsOf (normalized s)).toFinset

/-- The grams that two texts share. -/
def common (query content : String) : Finset (List Char) := gramSet query ∩ gramSet content

theorem nodup_eraseDups {α : Type} [BEq α] [LawfulBEq α] : ∀ xs : List α, xs.eraseDups.Nodup
  | [] => by simp
  | x :: xs => by
    rw [List.eraseDups_cons, List.nodup_cons]
    exact ⟨by simp, nodup_eraseDups (xs.filter fun y => !y == x)⟩
termination_by xs => xs.length
decreasing_by exact Nat.lt_succ_of_le (List.length_filter_le _ _)

theorem nodup_grams (s : String) : (grams s).Nodup := nodup_eraseDups _

theorem mem_grams {s : String} {g : List Char} : g ∈ grams s ↔ g ∈ gramSet s := by
  simp [grams, gramSet, List.mem_eraseDups]

theorem toFinset_grams (s : String) : (grams s).toFinset = gramSet s := by
  ext g
  rw [List.mem_toFinset, mem_grams]

theorem length_grams (s : String) : (grams s).length = (gramSet s).card := by
  rw [← toFinset_grams, List.toFinset_card_of_nodup (nodup_grams s)]

theorem sharedGrams_grams (query content : String) :
    sharedGrams (grams query) content = (common query content).card := by
  have shared : ((grams query).filter (· ∈ grams content)).toFinset = common query content := by
    ext g
    simp [common, mem_grams]
  unfold sharedGrams
  dsimp only
  rw [← shared, List.toFinset_card_of_nodup ((nodup_grams query).filter _)]

/-- A number for every list of characters, which are numbers below `2 ^ 32`. -/
def code : List Char → Nat
  | [] => 0
  | c :: cs => c.toNat + 1 + 2 ^ 33 * code cs

theorem toNat_lt (c : Char) : c.toNat < 2 ^ 32 := c.val.toNat_lt

theorem code_injective : Function.Injective code := by
  intro cs ds same
  induction cs generalizing ds with
  | nil =>
    cases ds with
    | nil => rfl
    | cons d ds =>
      simp only [code] at same
      omega
  | cons c cs ih =>
    cases ds with
    | nil =>
      simp only [code] at same
      omega
    | cons d ds =>
      have hc := toNat_lt c
      have hd := toNat_lt d
      simp only [code] at same
      have first : c = d := Char.toNat_inj.1 (by omega)
      have others : cs = ds := ih (by omega)
      rw [first, others]

theorem code_lt {cs : List Char} (short : cs.length ≤ 2) : code cs < 2 ^ 66 := by
  match cs with
  | [] => decide
  | [a] =>
    have := toNat_lt a
    simp only [code]
    omega
  | [a, b] =>
    have := toNat_lt a
    have := toNat_lt b
    simp only [code]
    omega

theorem length_le_two_of_mem_pairs {cs g : List Char} (hg : g ∈ pairs cs) : g.length ≤ 2 := by
  induction cs using pairs.induct with
  | case1 a b rest ih =>
    rcases List.mem_cons.1 hg with rfl | hg
    · simp
    · exact ih hg
  | case2 => simp_all [pairs]

theorem length_le_two_of_mem_gramSet {s : String} {g : List Char} (hg : g ∈ gramSet s) :
    g.length ≤ 2 := by
  rw [gramSet, List.mem_toFinset] at hg
  unfold gramsOf at hg
  split at hg
  · simp_all
  · exact length_le_two_of_mem_pairs hg

/-- There are only so many pairs of characters. -/
theorem card_gramSet_le (s : String) : (gramSet s).card ≤ 2 ^ 127 := by
  have below : (gramSet s).card ≤ (Finset.range (2 ^ 66)).card := by
    refine Finset.card_le_card_of_injOn code (fun g hg => ?_) code_injective.injOn
    simpa using code_lt (length_le_two_of_mem_gramSet hg)
  rw [Finset.card_range] at below
  exact below.trans (Nat.pow_le_pow_right (by decide) (by decide))

/-! ## Scores -/

/-- The share of the query's grams that an entry has. -/
def scoreOf (query : String) (item : StoredMemory) : Single :=
  Single.ratio (common query item.entry.content).card (gramSet query).card

structure Matches (query : String) (minScore : Single) (item : StoredMemory) : Prop where
  shares : 0 < (common query item.entry.content).card
  enough : Single.le minScore (scoreOf query item) = true

instance : DecidablePred (Matches query minScore) := fun item =>
  decidable_of_iff (0 < (common query item.entry.content).card ∧
    Single.le minScore (scoreOf query item) = true) ⟨fun ⟨s, e⟩ => ⟨s, e⟩, fun ⟨s, e⟩ => ⟨s, e⟩⟩

/-- The better score comes first, of equal scores the newer entry. -/
def Outranks (query : String) (a b : StoredMemory) : Prop :=
  Single.compare? (scoreOf query a) (scoreOf query b) = some .gt ∨
    Single.compare? (scoreOf query a) (scoreOf query b) = some .eq ∧ b.createdAt < a.createdAt

/-- The answer for an entry. -/
def hitOf (query : String) (item : StoredMemory) : MemoryHit :=
  ⟨item.id, item.entry.content, scoreOf query item⟩

theorem Matches.score_bounds (ha : Matches query minScore a) :
    (scoreOf query a).Proper ∧ 0 < (scoreOf query a).amount ∧ (scoreOf query a).amount ≤ 1 :=
  Single.ratio_bounds ha.shares (Finset.card_le_card Finset.inter_subset_left)
    (card_gramSet_le query)

theorem match?_eq (query : String) (minScore : Single) (item : StoredMemory) :
    match? (grams query) minScore item =
      if Matches query minScore item then some (hitOf query item, item.createdAt) else none := by
  unfold match?
  rw [sharedGrams_grams, length_grams]
  by_cases matched : Matches query minScore item
  · have both := And.intro matched.enough matched.shares
    rw [if_pos matched]
    simp only [scoreOf] at both
    simp [both, hitOf, scoreOf]
  · rw [if_neg matched, if_neg]
    intro both
    rw [Bool.and_eq_true, decide_eq_true_eq] at both
    exact matched ⟨both.2, both.1⟩

/-! ## The order of matches -/

/-- What entries are sorted by. -/
def standing (query : String) (item : StoredMemory) : ℚ ×ₗ Int :=
  toLex ((scoreOf query item).amount, item.createdAt)

theorem Matches.outranks_iff (ha : Matches query minScore a) (hb : Matches query minScore b) :
    Outranks query a b ↔ standing query b < standing query a := by
  simp only [Outranks, standing, Single.compare?_eq ha.score_bounds.1 hb.score_bounds.1,
    Option.some.injEq, compare_gt_iff_gt, compare_eq_iff_eq, Prod.Lex.toLex_lt_toLex]
  rw [eq_comm]

theorem Matches.rank_isLE (ha : Matches query minScore a) (hb : Matches query minScore b) :
    (rank (hitOf query a, a.createdAt) (hitOf query b, b.createdAt)).isLE =
      decide (standing query b ≤ standing query a) := by
  have compared := Single.compare?_eq hb.score_bounds.1 ha.score_bounds.1
  rw [Bool.eq_iff_iff, decide_eq_true_eq]
  simp only [rank, hitOf, compared, Option.getD_some, standing, Prod.Lex.toLex_le_toLex]
  rcases lt_trichotomy (scoreOf query b).amount (scoreOf query a).amount with less | same | more
  · simp [compare_lt_iff_lt.2 less, less]
  · simp [same, Std.isLE_compare]
  · simp [compare_gt_iff_gt.2 more, more.not_gt, more.ne']

/-- The matching entries in the order of their standing. -/
def ranking (m : Memory) (query : String) (minScore : Single) : List StoredMemory :=
  (m.items.filter (Matches query minScore)).mergeSort
    fun a b => decide (standing query b ≤ standing query a)

theorem filterMap_match? (m : Memory) (query : String) (minScore : Single) :
    m.items.filterMap (match? (grams query) minScore) =
      (m.items.filter (Matches query minScore)).map
        fun item => (hitOf query item, item.createdAt) := by
  induction m.items with
  | nil => rfl
  | cons item items ih =>
    rw [List.filterMap_cons, List.filter_cons, match?_eq]
    by_cases matched : Matches query minScore item <;> simp [matched, ih]

/-- A query without grams is matched by nothing. -/
theorem not_matches_of_gramSet_eq_empty (none : gramSet query = ∅) :
    ¬ Matches query minScore item := by
  intro matched
  have shares := matched.shares
  simp [common, none] at shares

/-- A search finds the first entries of the ranking. -/
theorem search_eq (m : Memory) (query : String) (topK : Nat) (minScore : Single) :
    m.search query topK minScore = ((m.ranking query minScore).take topK).map (hitOf query) := by
  unfold search ranking
  dsimp only
  split
  · rename_i none
    have empty : gramSet query = ∅ := by rw [← toFinset_grams, none, List.toFinset_nil]
    simp [not_matches_of_gramSet_eq_empty empty]
  · rw [filterMap_match?, ← List.map_mergeSort, ← List.map_take, List.map_map]
    · rfl
    · intro a ha b hb
      have ha : Matches query minScore a := by simpa using (List.mem_filter.1 ha).2
      have hb : Matches query minScore b := by simpa using (List.mem_filter.1 hb).2
      exact (ha.rank_isLE hb).symm

/-! ## The best matches -/

theorem perm_ranking (m : Memory) (query : String) (minScore : Single) :
    (m.ranking query minScore).Perm (m.items.filter (Matches query minScore)) :=
  List.mergeSort_perm _ _

theorem mem_ranking {m : Memory} :
    item ∈ m.ranking query minScore ↔ item ∈ m.items ∧ Matches query minScore item := by
  rw [(m.perm_ranking query minScore).mem_iff, List.mem_filter, decide_eq_true_eq]

theorem ranking_sorted (m : Memory) (query : String) (minScore : Single) :
    (m.ranking query minScore).Pairwise fun a b => standing query b ≤ standing query a := by
  let before (a b : StoredMemory) : Bool := decide (standing query b ≤ standing query a)
  have trans (a b c : StoredMemory) (hab : before a b = true) (hbc : before b c = true) :
      before a c = true := by
    simp only [before, decide_eq_true_eq] at hab hbc ⊢
    exact hbc.trans hab
  have total (a b : StoredMemory) : (before a b || before b a) = true := by
    simpa [before] using le_total (standing query b) (standing query a)
  simpa only [ranking, before, decide_eq_true_eq] using
    List.pairwise_mergeSort trans total (m.items.filter (Matches query minScore))

/-- If no two entries are of the same time, each entry of the ranking outranks those behind it. -/
theorem ranking_pairwise {m : Memory} (distinct : (m.items.map (·.createdAt)).Nodup)
    (query : String) (minScore : Single) :
    (m.ranking query minScore).Pairwise (Outranks query) := by
  have apart : ((m.ranking query minScore).map (·.createdAt)).Nodup := by
    rw [((m.perm_ranking query minScore).map _).nodup_iff]
    exact distinct.sublist (List.filter_sublist.map _)
  have both := (m.ranking_sorted query minScore).and (List.pairwise_map.1 apart)
  refine both.imp_of_mem fun {a b} ha hb hab => ?_
  obtain ⟨order, times⟩ := hab
  refine ((mem_ranking.1 ha).2.outranks_iff (mem_ranking.1 hb).2).2 (lt_of_le_of_ne order ?_)
  intro same
  exact times (congrArg Prod.snd (toLex.injective same)).symm

/-- A match scores more than zero, and one at most. -/
theorem Matches.score_compare (matched : Matches query minScore item) :
    Single.compare? (scoreOf query item) (.ofInt 0) = some .gt ∧
      Single.le (scoreOf query item) (.ofInt 1) = true := by
  obtain ⟨proper, positive, bounded⟩ := matched.score_bounds
  obtain ⟨proper₀, zero⟩ := Single.amount_ofInt_zero
  obtain ⟨proper₁, one⟩ := Single.amount_ofInt_one
  rw [Single.compare?_eq proper proper₀, Single.le_iff proper proper₁, zero, one]
  exact ⟨congrArg some (compare_gt_iff_gt.2 positive), bounded⟩

/-- A search finds as many matches as it may, if there are so many, in the order of their rank, and
every match that it leaves out is outranked by all that it finds. -/
theorem search_best {m : Memory} (distinct : (m.items.map (·.createdAt)).Nodup) (query : String)
    (topK : Nat) (minScore : Single) :
    ∃ found : List StoredMemory, m.search query topK minScore = found.map (hitOf query) ∧
      found.Nodup ∧ (∀ item ∈ found, item ∈ m.items ∧ Matches query minScore item) ∧
      found.length = min topK (m.items.filter (Matches query minScore)).length ∧
      found.Pairwise (Outranks query) ∧
      (∀ item ∈ m.items, Matches query minScore item → item ∉ found →
        ∀ better ∈ found, Outranks query better item) ∧
      (∀ item ∈ found, Single.compare? (scoreOf query item) (.ofInt 0) = some .gt ∧
        Single.le (scoreOf query item) (.ofInt 1) = true) ∧
      (gramSet query = ∅ → found = []) := by
  have order := ranking_pairwise distinct query minScore
  have matched {item : StoredMemory} (found : item ∈ (m.ranking query minScore).take topK) :
      item ∈ m.items ∧ Matches query minScore item :=
    mem_ranking.1 (List.mem_of_mem_take found)
  refine ⟨(m.ranking query minScore).take topK, m.search_eq query topK minScore, ?_,
    fun item => matched, ?_, order.sublist (List.take_sublist _ _), ?_,
    fun item found => (matched found).2.score_compare, ?_⟩
  · refine List.Nodup.sublist (List.take_sublist _ _) ?_
    rw [(m.perm_ranking query minScore).nodup_iff]
    exact distinct.of_map.filter _
  · rw [List.length_take, (m.perm_ranking query minScore).length_eq]
  · intro item kept wanted left better found
    rw [← List.take_append_drop topK (m.ranking query minScore)] at order
    refine (List.pairwise_append.1 order).2.2 better found item ?_
    have ranked := mem_ranking.2 ⟨kept, wanted⟩
    rw [← List.take_append_drop topK (m.ranking query minScore)] at ranked
    exact (List.mem_append.1 ranked).resolve_left left
  · intro none
    exact List.eq_nil_iff_forall_not_mem.2 fun item found =>
      not_matches_of_gramSet_eq_empty none (matched found).2

namespace Sample

/-- Three notes of different times. -/
def notes : Memory := ⟨[⟨"m1", 1, { content := "a b" }⟩, ⟨"m2", 2, { content := "abc" }⟩,
  ⟨"m3", 3, { content := "xab" }⟩]⟩

end Sample

/-- Of three matches, two of which score the same, the best one and the newer one are found. -/
theorem search_best_sample : ∃ found : List StoredMemory,
    Sample.notes.search "abc" 2 (.ofInt 0) = found.map (hitOf "abc") ∧ found.length = 2 ∧
      found.Pairwise (Outranks "abc") := by
  obtain ⟨found, same, -, -, length, order, -⟩ :=
    search_best (m := Sample.notes) (by decide) "abc" 2 (.ofInt 0)
  refine ⟨found, same, ?_, order⟩
  rw [length]
  decide

end Delegation.Memory
