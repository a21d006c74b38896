import Mathlib.Data.List.TakeWhile
import Delegation.Config.Loading

/-!
# References that are not filled in

A text whose references are all unknown comes out as it went in, wherever its dollar signs and
braces stand, with one exception: if a reference begins that no brace closes (`IsOpen`), the name
reaches to the end of the text, and it is written out with the brace that was missing.
`fill_of_unset` says both, by recursion along the text, and `unknown_untouched` says what follows
for the url and the token of a configuration.
-/

namespace Delegation

namespace Template

variable {cs rest : List Char} {value? : String → Option String}

/-! ## Open texts -/

/-- A reference begins, and no brace closes it. -/
def IsOpen (cs : List Char) : Prop := ∃ rest, '$' :: '\x7b' :: rest <:+ cs ∧ '\x7d' ∉ rest

theorem not_isOpen_nil : ¬IsOpen [] := by
  rintro ⟨rest, last, -⟩
  simp at last

theorem IsOpen.cons (h : IsOpen cs) (c : Char) : IsOpen (c :: cs) := by
  obtain ⟨rest, last, unclosed⟩ := h
  exact ⟨rest, last.trans (List.suffix_cons c cs), unclosed⟩

/-- A character by itself opens nothing. -/
theorem isOpen_cons_iff {c : Char} (literal : ∀ rest, c = '$' → cs = '\x7b' :: rest → False) :
    IsOpen (c :: cs) ↔ IsOpen cs := by
  constructor
  · rintro ⟨rest, last, unclosed⟩
    rcases List.suffix_cons_iff.1 last with same | last
    · injection same with first others
      exact (literal rest first.symm others.symm).elim
    · exact ⟨rest, last, unclosed⟩
  · intro h
    exact h.cons c

/-- A closing brace closes everything before it. -/
theorem isOpen_append_cons_iff (front : List Char) :
    IsOpen (front ++ '\x7d' :: cs) ↔ IsOpen cs := by
  induction front with
  | nil => exact isOpen_cons_iff fun _ dollar _ => absurd dollar (by decide)
  | cons c front ih =>
    constructor
    · rintro ⟨rest, last, unclosed⟩
      rcases List.suffix_cons_iff.1 last with same | last
      · -- The reference would begin right here, and the brace is among what follows.
        injection same with _ others
        have closed : '\x7d' ∈ '\x7b' :: rest := by simp [others]
        exact absurd (List.mem_of_ne_of_mem (by decide) closed) unclosed
      · exact ih.1 ⟨rest, last, unclosed⟩
    · intro h
      exact (ih.2 h).cons c

theorem isOpen_of_unclosed (unclosed : '\x7d' ∉ rest) : IsOpen ('$' :: '\x7b' :: rest) :=
  ⟨rest, List.suffix_refl _, unclosed⟩

/-! ## One reference -/

theorem toList_referenceName (cs : List Char) :
    (referenceName cs).toList = cs.takeWhile (· ≠ '\x7d') := String.toList_ofList

theorem ne_of_free {front : List Char} (free : '\x7d' ∉ front) :
    ∀ c ∈ front, decide (c ≠ '\x7d') = true := by
  intro c hc
  simp only [decide_eq_true_eq]
  rintro rfl
  exact free hc

/-- A reference ends with the first closing brace. -/
theorem reference_of_closed {front : List Char} (free : '\x7d' ∉ front) (after : List Char) :
    (referenceName (front ++ '\x7d' :: after)).toList = front ∧
      afterReference (front ++ '\x7d' :: after) = after := by
  have other := ne_of_free free
  constructor
  · rw [toList_referenceName, List.takeWhile_append_of_pos other]
    simp
  · rw [afterReference, List.dropWhile_append_of_pos other]
    simp

/-- The name of a reference that nothing closes is the rest of the text. -/
theorem reference_of_unclosed (unclosed : '\x7d' ∉ rest) :
    (referenceName rest).toList = rest ∧ afterReference rest = [] := by
  have other := ne_of_free unclosed
  constructor
  · rw [toList_referenceName, List.takeWhile_eq_self_iff]
    exact other
  · rw [afterReference, List.dropWhile_eq_nil_iff.2 other]
    rfl

/-! ## The whole text -/

theorem written_reference_of_unset {name : String} (unset : value? name = none) :
    Piece.written value? (.reference name) = '$' :: '\x7b' :: (name.toList ++ ['\x7d']) := by
  simp only [Piece.written, unset]
  rfl

/-- Unknown references are written out as they stand, and an open one is closed. -/
theorem fill_of_unset (unset : ∀ name ∈ (pieces cs).filterMap Piece.name?, value? name = none) :
    (¬IsOpen cs → fill value? cs = cs) ∧ (IsOpen cs → fill value? cs = cs ++ ['\x7d']) := by
  rw [fill_eq_written_pieces]
  fun_induction pieces cs with
  | case1 rest ih =>
    rw [List.filterMap_cons_some (f := Piece.name?) (b := referenceName rest) rfl,
      List.forall_mem_cons] at unset
    obtain ⟨unknown, others⟩ := unset
    rw [List.flatMap_cons, written_reference_of_unset unknown]
    -- Here the scanner does not look why the name ended, and that is where the two cases part.
    by_cases closed : '\x7d' ∈ rest
    · obtain ⟨front, after, rfl, free⟩ := List.eq_append_cons_of_mem closed
      obtain ⟨named, follows⟩ := reference_of_closed free after
      rw [follows] at ih others ⊢
      have same : IsOpen ('$' :: '\x7b' :: (front ++ '\x7d' :: after)) ↔ IsOpen after :=
        isOpen_append_cons_iff ('$' :: '\x7b' :: front)
      rw [named, same]
      refine ⟨fun h => ?_, fun h => ?_⟩
      · rw [(ih others).1 h]
        simp
      · rw [(ih others).2 h]
        simp
    · obtain ⟨named, follows⟩ := reference_of_unclosed closed
      refine ⟨fun h => absurd (isOpen_of_unclosed closed) h, fun _ => ?_⟩
      rw [named, follows, pieces.eq_3]
      simp
  | case2 c rest literal ih =>
    rw [List.filterMap_cons_none rfl] at unset
    rw [isOpen_cons_iff literal, List.flatMap_cons]
    refine ⟨fun h => ?_, fun h => ?_⟩
    · rw [(ih unset).1 h]
      rfl
    · rw [(ih unset).2 h]
      rfl
  | case3 => exact ⟨fun _ => rfl, fun h => absurd h not_isOpen_nil⟩

/-- How a text comes out whose references are unknown. -/
structure ComesOut (text written : String) : Prop where
  unchanged : ¬IsOpen text.toList → written = text
  closed : IsOpen text.toList → written = text ++ "\x7d"

theorem expand_of_unset {text : String} (unset : ∀ name ∈ names text, value? name = none) :
    ComesOut text (expand value? text) := by
  have filled := fill_of_unset unset
  constructor
  · intro h
    rw [expand, filled.1 h, String.ofList_toList]
  · intro h
    rw [expand, filled.2 h, String.ofList_append, String.ofList_toList]

end Template

open Template

/-- In surroundings where no variable is set that a text refers to, the text comes out unchanged,
or with a closing brace at its end if a reference is left open there. So it is with the url and
the token of a configuration that is loaded, each by itself; everything else is as in the file. -/
theorem unknown_untouched (s : Surroundings) :
    (∀ text, (∀ name ∈ names text, s.value? name = none) →
      ComesOut text (expand s.value? text)) ∧
    ∀ path content c, (s.entry path).text = .ok content → Config.ofText content = .ok c →
      ∃ loaded, Config.ofFile s path = .ok loaded ∧
        loaded = { c with gateway := { c.gateway with
          url := loaded.gateway.url, token := loaded.gateway.token } } ∧
        ((∀ name ∈ names c.gateway.url, s.value? name = none) →
          ComesOut c.gateway.url loaded.gateway.url) ∧
        (∀ token, c.gateway.token = some token → (∀ name ∈ names token, s.value? name = none) →
          ∃ written, loaded.gateway.token = some written ∧ ComesOut token written) ∧
        (c.gateway.token = none → loaded.gateway.token = none) := by
  refine ⟨fun text => expand_of_unset, ?_⟩
  intro path content c found read
  have loaded : Config.ofFile s path = .ok (c.expanded s.value?) := by
    simp only [Config.ofFile, found, read]
  refine ⟨_, loaded, rfl, expand_of_unset, ?_, ?_⟩
  · intro token given unset
    refine ⟨expand s.value? token, ?_, expand_of_unset unset⟩
    simp [Config.expanded, given]
  · intro absent
    simp [Config.expanded, absent]

namespace Sample

/-- A document with a stray dollar sign and two references, of which the second is left open. -/
def gatewayDocument : String :=
  "\x7b\"gateway\":\x7b\"url\":\"http://$gw/$\x7bNAME\x7d\",\"token\":\"abc$\x7bKEY\"\x7d\x7d"

def gatewayConfig : Config :=
  { gateway := { url := "http://$gw/$\x7bNAME\x7d", token := some "abc$\x7bKEY" } }

/-- Nothing is set, and the document is at every path. -/
def unset : Surroundings :=
  { value? := fun _ => none, entry := fun _ => .file gatewayDocument.toUTF8 }

theorem ofText_gatewayDocument : Config.ofText gatewayDocument = .ok gatewayConfig := by
  decide +kernel

theorem text_unset (path : String) : (unset.entry path).text = .ok gatewayDocument := by
  rfl

end Sample

/-- The url is loaded as it stands, and the token with a brace that closes it. -/
theorem unknown_untouched_sample :
    ∃ loaded, Config.ofFile Sample.unset "delegate.json" = .ok loaded ∧
      loaded.gateway.url = "http://$gw/$\x7bNAME\x7d" ∧
      loaded.gateway.token = some "abc$\x7bKEY\x7d" := by
  obtain ⟨loaded, done, -, ofUrl, ofToken, -⟩ :=
    (unknown_untouched Sample.unset).2 "delegate.json" _ _ (Sample.text_unset _)
      Sample.ofText_gatewayDocument
  have whole : ¬IsOpen "http://$gw/$\x7bNAME\x7d".toList :=
    (isOpen_append_cons_iff "http://$gw/$\x7bNAME".toList).not.2 not_isOpen_nil
  have unclosed : IsOpen "abc$\x7bKEY".toList := ⟨"KEY".toList, ⟨"abc".toList, rfl⟩, by decide⟩
  obtain ⟨written, told, out⟩ := ofToken _ rfl fun _ _ => rfl
  rw [out.closed unclosed] at told
  exact ⟨loaded, done, (ofUrl fun _ _ => rfl).unchanged whole, told⟩

/-- A token that refers to nothing that is set, and is changed by loading it. -/
theorem open_reference_closed :
    ∃ c loaded token, Config.ofText Sample.gatewayDocument = .ok c ∧
      c.gateway.token = some token ∧ (∀ name ∈ names token, Sample.unset.value? name = none) ∧
      expand Sample.unset.value? token ≠ token ∧
      Config.ofFile Sample.unset "delegate.json" = .ok loaded ∧
      loaded.gateway.token ≠ c.gateway.token := by
  refine ⟨Sample.gatewayConfig, Sample.gatewayConfig.expanded fun _ => none, "abc$\x7bKEY",
    Sample.ofText_gatewayDocument, rfl, fun _ _ => rfl, by decide +kernel, ?_, by decide +kernel⟩
  simp only [Config.ofFile, Sample.text_unset, Sample.ofText_gatewayDocument]
  rfl

end Delegation
