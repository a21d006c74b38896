import Mathlib.Data.List.Chain
import Delegation.Proofs.Unfilled

/-!
# Filling in is substitution

A text in which no reference is left open is made up of stretches that stand for themselves and of
references, in one way only (`splits_iff`). To fill it in is to put the values in the places of the
known references, once and all at once: `expand_eq_substituted`. Behind such a text one is outside
of any reference, so what follows there is filled in by itself (`fill_append`), and a value is not
looked at again.
-/

namespace Delegation.Template

variable {cs rest : List Char} {value? : String → Option String}

/-! ## Parts of a text -/

/-- A part of a text: a stretch that stands for itself, or a reference. -/
inductive Part where
  | stretch (cs : List Char)
  | reference (name : String)
  deriving DecidableEq, Repr

namespace Part

/-- A part as it stands in the text. -/
def written : Part → List Char
  | .stretch cs => cs
  | .reference name => Template.reference name

/-- What comes to stand in the place of a part. -/
def substituted (value? : String → Option String) : Part → List Char
  | .stretch cs => cs
  | .reference name =>
    match value? name with
    | some value => value.toList
    | none => Template.reference name

def isStretch : Part → Bool
  | .stretch _ => true
  | .reference _ => false

/-- No reference begins in a stretch, and a name ends before the first closing brace. -/
def Sound : Part → Prop
  | .stretch cs => cs ≠ [] ∧ ¬['$', '\x7b'] <:+: cs
  | .reference name => '\x7d' ∉ name.toList

instance : DecidablePred Sound
  | .stretch cs => inferInstanceAs (Decidable (cs ≠ [] ∧ ¬['$', '\x7b'] <:+: cs))
  | .reference name => inferInstanceAs (Decidable ('\x7d' ∉ name.toList))

/-- The pieces that a part consists of. -/
def pieces : Part → List Piece
  | .stretch cs => cs.map .literal
  | .reference name => [.reference name]

theorem substituted_eq_written_pieces (value? : String → Option String) (p : Part) :
    p.substituted value? = p.pieces.flatMap (Piece.written value?) := by
  cases p with
  | stretch cs =>
    show cs = (cs.map Piece.literal).flatMap (Piece.written value?)
    rw [List.flatMap_map]
    exact (List.flatMap_singleton' cs).symm
  | reference name => exact (List.append_nil _).symm

end Part

/-- A text taken apart: stretches are as long as can be, so no two of them touch. -/
structure Splits (parts : List Part) (cs : List Char) : Prop where
  whole : parts.flatMap Part.written = cs
  sound : ∀ p ∈ parts, p.Sound
  maximal : parts.IsChain fun p q => p.isStretch = true → q.isStretch = false

/-! ## Closed texts, one behind the other -/

/-- A brace closes each reference that is met when nothing before it is left open. -/
def Closed (cs : List Char) : Prop :=
  ∀ front rest, cs = front ++ '$' :: '\x7b' :: rest → ¬IsOpen front → '\x7d' ∈ rest

/-- The first reference that no brace closes begins outside of any other. -/
theorem IsOpen.first (h : IsOpen cs) :
    ∃ front rest, cs = front ++ '$' :: '\x7b' :: rest ∧ ¬IsOpen front ∧ '\x7d' ∉ rest := by
  induction cs with
  | nil => exact absurd h not_isOpen_nil
  | cons c cs ih =>
    obtain ⟨rest, last, unclosed⟩ := h
    rcases List.suffix_cons_iff.1 last with same | last
    · exact ⟨[], rest, same.symm, not_isOpen_nil, unclosed⟩
    · obtain ⟨front, rest, rfl, closed, unclosed⟩ := ih ⟨rest, last, unclosed⟩
      by_cases opens : IsOpen (c :: front)
      · -- What is left open in front of the reference begins with the new character.
        obtain ⟨inner, whole, free⟩ := opens
        rcases List.suffix_cons_iff.1 whole with same | later
        · refine ⟨[], inner ++ '$' :: '\x7b' :: rest, ?_, not_isOpen_nil, ?_⟩
          · rw [← List.cons_append, ← same]
            rfl
          · simp [free, unclosed]
        · exact absurd ⟨inner, later, free⟩ closed
      · exact ⟨c :: front, rest, rfl, opens, unclosed⟩

theorem closed_iff_not_isOpen : Closed cs ↔ ¬IsOpen cs := by
  constructor
  · intro closed opens
    obtain ⟨front, rest, whole, outside, unclosed⟩ := opens.first
    exact unclosed (closed front rest whole outside)
  · rintro closed front rest rfl -
    by_contra unclosed
    exact closed ⟨rest, List.suffix_append _ _, unclosed⟩

/-- Behind a closed text one is outside of any reference. -/
theorem pieces_append (closed : ¬IsOpen cs) (apart : rest.head? ≠ some '\x7b') :
    pieces (cs ++ rest) = pieces cs ++ pieces rest ∧ (IsOpen (cs ++ rest) ↔ IsOpen rest) := by
  fun_induction pieces cs with
  | case1 inner ih =>
    by_cases brace : '\x7d' ∈ inner
    · obtain ⟨front, after, rfl, free⟩ := List.eq_append_cons_of_mem brace
      obtain ⟨named, follows⟩ := reference_of_closed free after
      obtain ⟨named', follows'⟩ := reference_of_closed free (after ++ rest)
      have same (tail : List Char) :
          IsOpen ('$' :: '\x7b' :: (front ++ '\x7d' :: tail)) ↔ IsOpen tail :=
        isOpen_append_cons_iff ('$' :: '\x7b' :: front)
      have shape : '$' :: '\x7b' :: (front ++ '\x7d' :: after) ++ rest =
        '$' :: '\x7b' :: (front ++ '\x7d' :: (after ++ rest)) := by simp
      rw [follows] at ih ⊢
      obtain ⟨taken, opens⟩ := ih ((same after).not.1 closed)
      rw [shape, same, pieces, follows', taken,
        String.toList_injective (named'.trans named.symm)]
      exact ⟨rfl, opens⟩
    · exact absurd (isOpen_of_unclosed brace) closed
  | case2 c others literal ih =>
    have still : ∀ rest', c = '$' → others ++ rest = '\x7b' :: rest' → False := by
      intro rest' dollar brace
      cases others with
      | nil =>
        rw [List.nil_append] at brace
        exact apart (by rw [brace]; rfl)
      | cons d others =>
        injection brace with first _
        exact literal others dollar (by rw [first])
    obtain ⟨taken, opens⟩ := ih ((isOpen_cons_iff literal).not.1 closed)
    rw [List.cons_append, isOpen_cons_iff still, pieces.eq_2 c _ still, taken]
    exact ⟨rfl, opens⟩
  | case3 => exact ⟨rfl, Iff.rfl⟩

theorem fill_append (closed : ¬IsOpen cs) (apart : rest.head? ≠ some '\x7b') :
    fill value? (cs ++ rest) = fill value? cs ++ fill value? rest := by
  simp only [fill_eq_written_pieces, (pieces_append closed apart).1, List.flatMap_append]

theorem pieces_reference_append {name : String} (free : '\x7d' ∉ name.toList)
    (rest : List Char) :
    pieces (reference name ++ rest) = .reference name :: pieces rest ∧
      (IsOpen (reference name ++ rest) ↔ IsOpen rest) := by
  obtain ⟨named, follows⟩ := reference_of_closed free rest
  have shape : reference name ++ rest =
      '$' :: '\x7b' :: (name.toList ++ '\x7d' :: rest) := by simp [reference]
  rw [shape, pieces, follows, String.toList_injective named]
  exact ⟨rfl, isOpen_append_cons_iff ('$' :: '\x7b' :: name.toList)⟩

/-- Where no reference begins, each character stands for itself. -/
theorem pieces_of_free (free : ¬['$', '\x7b'] <:+: cs) :
    pieces cs = cs.map .literal ∧ ¬IsOpen cs := by
  induction cs with
  | nil => exact ⟨pieces.eq_3, not_isOpen_nil⟩
  | cons c cs ih =>
    have literal : ∀ rest, c = '$' → cs = '\x7b' :: rest → False := by
      rintro rest rfl rfl
      exact free ⟨[], rest, rfl⟩
    obtain ⟨taken, closed⟩ := ih fun here => free (here.trans (List.suffix_cons c cs).isInfix)
    rw [isOpen_cons_iff literal, pieces.eq_2 c cs literal, taken]
    exact ⟨rfl, closed⟩

/-! ## There is one way to take a text apart -/

namespace Splits

variable {p : Part} {parts : List Part}

/-- A stretch ends where the text ends, or where a reference begins. -/
theorem apart (splits : Splits (p :: parts) cs) (stretch : p.isStretch = true) :
    (parts.flatMap Part.written).head? ≠ some '\x7b' := by
  cases parts with
  | nil => exact nofun
  | cons q parts =>
    have next := (List.isChain_cons_cons.1 splits.maximal).1 stretch
    cases q with
    | stretch => cases next
    | reference name =>
      show some '$' ≠ some '\x7b'
      decide

theorem tail (splits : Splits (p :: parts) cs) : Splits parts (parts.flatMap Part.written) :=
  ⟨rfl, fun q hq => splits.sound q (.tail _ hq), splits.maximal.tail⟩

/-- The pieces of a text are those of its parts, and nothing is left open. -/
theorem pieces_eq (splits : Splits parts cs) :
    Template.pieces cs = parts.flatMap Part.pieces ∧ ¬IsOpen cs := by
  induction parts generalizing cs with
  | nil =>
    cases splits.whole
    exact ⟨pieces.eq_3, not_isOpen_nil⟩
  | cons p parts ih =>
    obtain ⟨taken, closed⟩ := ih splits.tail
    have sound := splits.sound p (.head _)
    rw [← splits.whole, List.flatMap_cons, List.flatMap_cons, ← taken]
    cases p with
    | stretch cs =>
      obtain ⟨literal, still⟩ := pieces_of_free sound.2
      obtain ⟨both, opens⟩ := pieces_append still (splits.apart rfl)
      rw [literal] at both
      exact ⟨both, opens.not.2 closed⟩
    | reference name =>
      obtain ⟨both, opens⟩ := pieces_reference_append sound (parts.flatMap Part.written)
      exact ⟨both, opens.not.2 closed⟩

end Splits

/-- One more piece in front: a character lengthens a stretch, or begins one. -/
def joined : Piece → List Part → List Part
  | .literal c, .stretch cs :: parts => .stretch (c :: cs) :: parts
  | .literal c, parts => .stretch [c] :: parts
  | .reference name, parts => .reference name :: parts

/-- The parts of a text, put together from its pieces. -/
def parts (cs : List Char) : List Part := (pieces cs).foldr joined []

theorem foldr_joined_stretch (nonempty : cs ≠ []) {others : List Part}
    (next : ∀ q ∈ others.head?, q.isStretch = false) :
    (cs.map Piece.literal).foldr joined others = .stretch cs :: others := by
  induction cs with
  | nil => exact absurd rfl nonempty
  | cons c cs ih =>
    rw [List.map_cons, List.foldr_cons]
    cases cs with
    | nil =>
      cases others with
      | nil => rfl
      | cons q others =>
        cases q with
        | stretch => cases next _ rfl
        | reference => rfl
    | cons d cs =>
      rw [ih (List.cons_ne_nil d cs)]
      rfl

/-- Sound parts, as long as can be, are put together again from their pieces. -/
theorem foldr_joined_pieces {ps : List Part} (sound : ∀ p ∈ ps, p.Sound)
    (maximal : ps.IsChain fun p q => p.isStretch = true → q.isStretch = false) :
    (ps.flatMap Part.pieces).foldr joined [] = ps := by
  induction ps with
  | nil => rfl
  | cons p ps ih =>
    obtain ⟨next, others⟩ := List.isChain_cons.1 maximal
    rw [List.flatMap_cons, List.foldr_append, ih (fun q hq => sound q (.tail _ hq)) others]
    cases p with
    | stretch cs => exact foldr_joined_stretch (sound _ (.head _)).1 fun q hq => next q hq rfl
    | reference => rfl

theorem Splits.joined {c : Char} {ps : List Part} (splits : Splits ps cs)
    (literal : ∀ rest, c = '$' → cs = '\x7b' :: rest → False) :
    Splits (joined (.literal c) ps) (c :: cs) := by
  have single : (Part.stretch [c]).Sound := by
    refine ⟨List.cons_ne_nil c [], fun here => ?_⟩
    have := here.length_le
    simp at this
  cases ps with
  | nil =>
    cases splits.whole
    exact ⟨rfl, fun p hp => List.mem_singleton.1 hp ▸ single, .singleton _⟩
  | cons p ps =>
    have whole := splits.whole
    cases p with
    | reference name =>
      refine ⟨congrArg (c :: ·) whole, ?_, List.isChain_cons_cons.2 ⟨fun _ => rfl, splits.maximal⟩⟩
      exact List.forall_mem_cons.2 ⟨single, splits.sound⟩
    | stretch s =>
      obtain ⟨⟨nonempty, free⟩, sound⟩ := List.forall_mem_cons.1 splits.sound
      obtain ⟨next, maximal⟩ := List.isChain_cons.1 splits.maximal
      have longer : (Part.stretch (c :: s)).Sound := by
        refine ⟨List.cons_ne_nil c s, fun here => ?_⟩
        rcases List.infix_cons_iff.1 here with first | later
        · obtain ⟨rest, same⟩ := first
          injection same with dollar same
          exact literal _ dollar.symm (by rw [← whole, ← same]; rfl)
        · exact free later
      exact ⟨congrArg (c :: ·) whole, List.forall_mem_cons.2 ⟨longer, sound⟩,
        List.isChain_cons.2 ⟨next, maximal⟩⟩

theorem Splits.referenced {name : String} {ps : List Part} (splits : Splits ps cs)
    (free : '\x7d' ∉ name.toList) : Splits (.reference name :: ps) (reference name ++ cs) where
  whole := by
    rw [List.flatMap_cons, splits.whole]
    rfl
  sound := List.forall_mem_cons.2 ⟨free, splits.sound⟩
  maximal := List.isChain_cons.2 ⟨nofun, splits.maximal⟩

theorem splits_parts (closed : ¬IsOpen cs) : Splits (parts cs) cs := by
  unfold parts
  fun_induction pieces cs with
  | case1 inner ih =>
    by_cases brace : '\x7d' ∈ inner
    · obtain ⟨front, after, rfl, free⟩ := List.eq_append_cons_of_mem brace
      obtain ⟨named, follows⟩ := reference_of_closed free after
      have same : IsOpen ('$' :: '\x7b' :: (front ++ '\x7d' :: after)) ↔ IsOpen after :=
        isOpen_append_cons_iff ('$' :: '\x7b' :: front)
      have shape : '$' :: '\x7b' :: (front ++ '\x7d' :: after) =
          reference (referenceName (front ++ '\x7d' :: after)) ++ after := by
        simp [reference, named]
      have named' : '\x7d' ∉ (referenceName (front ++ '\x7d' :: after)).toList := by
        rw [named]
        exact free
      rw [follows] at ih ⊢
      rw [shape]
      exact (ih (same.not.1 closed)).referenced named'
    · exact absurd (isOpen_of_unclosed brace) closed
  | case2 c others literal ih =>
    exact (ih ((isOpen_cons_iff literal).not.1 closed)).joined literal
  | case3 => exact ⟨rfl, List.forall_mem_nil _, .nil⟩

/-- A text is taken apart in one way if no reference is left open in it, and in no way if one is. -/
theorem splits_iff {ps : List Part} : Splits ps cs ↔ ¬IsOpen cs ∧ ps = parts cs := by
  constructor
  · intro splits
    obtain ⟨taken, closed⟩ := splits.pieces_eq
    refine ⟨closed, ?_⟩
    rw [parts, taken, foldr_joined_pieces splits.sound splits.maximal]
  · rintro ⟨closed, rfl⟩
    exact splits_parts closed

/-! ## Filling in -/

theorem expand_of_splits {ps : List Part} {text : String} (splits : Splits ps text.toList) :
    expand value? text = String.ofList (ps.flatMap (Part.substituted value?)) := by
  have pieced : Part.substituted value? = fun p => p.pieces.flatMap (Piece.written value?) :=
    funext (Part.substituted_eq_written_pieces value?)
  rw [expand, fill_eq_written_pieces, splits.pieces_eq.1, List.flatMap_assoc, pieced]

/-- There is nothing to fill in where no reference begins. -/
theorem expand_of_free {text : String} (free : ¬['$', '\x7b'] <:+: text.toList) :
    expand value? text = text := by
  rw [expand, fill_eq_written_pieces, (pieces_of_free free).1, List.flatMap_map]
  simp [Piece.written]

theorem expand_append {text rest : String} (closed : ¬IsOpen text.toList)
    (apart : rest.toList.head? ≠ some '\x7b') :
    expand value? (text ++ rest) = expand value? text ++ expand value? rest := by
  rw [expand, String.toList_append, fill_append closed apart, String.ofList_append]
  rfl

theorem fill_reference_append {name : String} (free : '\x7d' ∉ name.toList) (rest : List Char) :
    fill value? (reference name ++ rest) =
      Part.substituted value? (.reference name) ++ fill value? rest := by
  rw [fill_eq_written_pieces, (pieces_reference_append free rest).1, List.flatMap_cons,
    ← fill_eq_written_pieces]
  rfl

theorem fill_dollar_append (apart : rest.head? ≠ some '\x7b') :
    fill value? ('$' :: rest) = '$' :: fill value? rest := by
  have still : ∀ rest', '$' = '$' → rest = '\x7b' :: rest' → False := by
    rintro rest' - rfl
    exact apart rfl
  rw [fill.eq_2 value? '$' rest still]

/-- A text in which each reference is closed is made up of stretches and references in one way,
and filling it in puts the values in place of the references that are known and changes nothing
else, whatever is in the values. What follows such a text is filled in by itself: a value stays as
it is, and so does a dollar sign that no opening brace follows. -/
theorem expand_eq_substituted {text : String} (closed : Closed text.toList) :
    (∃ parts, Splits parts text.toList ∧
      (∀ others, Splits others text.toList → others = parts) ∧
      ∀ value?, expand value? text =
        String.ofList (parts.flatMap (Part.substituted value?))) ∧
    ∀ (value? : String → Option String) (rest : String),
      (∀ name value, '\x7d' ∉ name.toList → value? name = some value →
        expand value? (text ++ "$\x7b" ++ name ++ "\x7d" ++ rest) =
          expand value? text ++ value ++ expand value? rest) ∧
      (rest.toList.head? ≠ some '\x7b' →
        expand value? (text ++ "$" ++ rest) =
          expand value? text ++ "$" ++ expand value? rest) := by
  replace closed := closed_iff_not_isOpen.1 closed
  refine ⟨⟨parts text.toList, splits_parts closed, ?_, ?_⟩, fun value? rest => ⟨?_, ?_⟩⟩
  · intro others splits
    exact (splits_iff.1 splits).2
  · intro value?
    exact expand_of_splits (splits_parts closed)
  · intro name value free known
    have shape : text ++ "$\x7b" ++ name ++ "\x7d" ++ rest =
        text ++ String.ofList (reference name ++ rest.toList) := by
      apply String.toList_injective
      simp [reference]
    have filled : expand value? (String.ofList (reference name ++ rest.toList)) =
        value ++ expand value? rest := by
      rw [expand, String.toList_ofList, fill_reference_append free]
      simp [Part.substituted, known, expand]
    rw [shape, expand_append closed (by simp [reference]), filled, String.append_assoc]
  · intro apart
    have filled : expand value? ("$" ++ rest) = "$" ++ expand value? rest := by
      rw [expand, String.toList_append]
      exact (congrArg String.ofList (fill_dollar_append apart)).trans (by simp [expand])
    rw [String.append_assoc, expand_append closed (by simp), filled, String.append_assoc]

namespace Sample

/-- A dollar sign, a reference behind it, and a reference with another one in its name. -/
def nested : String := "a$$\x7bA\x7d$\x7bB$\x7bC\x7d\x7bz"

/-- Only one variable is set, to a text that refers to it. -/
def selfReferring (name : String) : Option String :=
  if name = "A" then some "$\x7bA\x7d$" else none

theorem splits_nested :
    Splits [.stretch ['a', '$'], .reference "A", .reference "B$\x7bC", .stretch ['\x7b', 'z']]
      nested.toList where
  whole := rfl
  sound := by decide
  maximal := by simp [Part.isStretch]

end Sample

/-- The value that refers to itself is put in once, and the dollar sign before it stays. -/
theorem expand_eq_substituted_sample :
    Closed Sample.nested.toList ∧
      expand Sample.selfReferring Sample.nested = "a$$\x7bA\x7d$$\x7bB$\x7bC\x7d\x7bz" := by
  have closed : Closed Sample.nested.toList :=
    closed_iff_not_isOpen.2 Sample.splits_nested.pieces_eq.2
  obtain ⟨⟨parts, -, only, filled⟩, -⟩ := expand_eq_substituted closed
  refine ⟨closed, ?_⟩
  rw [filled, ← only _ Sample.splits_nested]
  rfl

end Delegation.Template
