import Delegation.Remote.History
import Mathlib.Data.List.TakeWhile

/-!
# A reply says something

Whatever a history holds, the text that is read from it is not blank (`latestReply?_not_blank`). A
text is blank if all its characters are, so what is put together from texts that are not blank is
not blank either.
-/

namespace Delegation

namespace Text

theorem trimmed_eq_nil_iff {cs : List Char} : trimmed cs = [] ↔ ∀ c ∈ cs, isBlank c = true := by
  unfold trimmed
  rw [List.reverse_eq_nil_iff, List.dropWhile_eq_nil_iff]
  constructor
  · intro ends c hc
    by_cases hd : cs.dropWhile isBlank = []
    · exact List.dropWhile_eq_nil_iff.1 hd c hc
    · -- the first character that was kept is not blank, and it is still there
      have kept := List.head_dropWhile_not isBlank hd
      have blank := ends _ (List.mem_reverse.2 (List.head_mem hd))
      rw [kept] at blank
      cases blank
  · intro blank c hc
    exact blank c ((List.dropWhile_sublist isBlank).subset (List.mem_reverse.1 hc))

theorem trim_eq_empty_iff {s : String} : trim s = "" ↔ ∀ c ∈ s.toList, isBlank c = true := by
  rw [← trimmed_eq_nil_iff]
  unfold trim
  constructor
  · intro he
    simpa using congrArg String.toList he
  · intro he
    rw [he]

/-- A text that goes on is not blank if it was not. -/
theorem trim_append_ne_empty {s : String} (solid : trim s ≠ "") (t : String) :
    trim (s ++ t) ≠ "" := by
  intro blank
  refine solid (trim_eq_empty_iff.2 fun c hc => ?_)
  refine trim_eq_empty_iff.1 blank c ?_
  rw [String.toList_append]
  exact List.mem_append_left _ hc

/-- A trimmed text begins with a character that is not blank, if it begins at all. -/
theorem isBlank_head?_trim {s : String} {c : Char} (hc : (trim s).toList.head? = some c) :
    isBlank c = false := by
  have kept : (trim s).toList.dropWhile isBlank = (trim s).toList := by
    have near := dropWhile_reverse_dropWhile_reverse isBlank (s.toList.dropWhile isBlank)
      (fun a => head?_dropWhile_not isBlank s.toList a)
    simpa [trim, trimmed] using near
  refine head?_dropWhile_not isBlank (trim s).toList c ?_
  rw [kept]
  exact hc

theorem trim_ne_empty_of_mem {s : String} {c : Char} (hc : c ∈ s.toList)
    (solid : isBlank c = false) : trim s ≠ "" := by
  intro blank
  rw [trim_eq_empty_iff.1 blank c hc] at solid
  cases solid

theorem trim_ne_empty_of_nonBlank? {s t : String} (ht : nonBlank? s = some t) : trim t ≠ "" := by
  unfold nonBlank? at ht
  dsimp only at ht
  split at ht
  · cases ht
  · rename_i solid
    cases ht
    rwa [trim_trim]

end Text

namespace Remote

theorem fragmentsText?_not_blank {parts : List Json} {text : String}
    (ht : fragmentsText? parts = some text) : Text.trim text ≠ "" := by
  unfold fragmentsText? at ht
  dsimp only at ht
  split at ht
  · cases ht
  · rename_i some_text
    cases ht
    obtain ⟨first, rest, he⟩ := List.exists_cons_of_ne_nil some_text
    have solid : Text.trim first ≠ "" := by
      have hm : first ∈ (parts.filterMap fragmentText?).filter (!isBlankText ·) := he ▸ .head _
      simpa [isBlankText] using (List.mem_filter.1 hm).2
    rw [he]
    cases rest with
    | nil => rwa [String.intercalate_singleton]
    | cons second rest =>
      rw [String.intercalate_cons_of_ne_nil (List.cons_ne_nil second rest), String.append_assoc]
      exact Text.trim_append_ne_empty solid _

theorem contentText?_not_blank {content : Option Json} {text : String}
    (ht : contentText? content = some text) : Text.trim text ≠ "" := by
  unfold contentText? at ht
  split at ht
  · exact Text.trim_ne_empty_of_nonBlank? ht
  · exact fragmentsText?_not_blank ht
  · cases ht

theorem messageText?_not_blank {message : Json} {text : String}
    (ht : messageText? message = some text) : Text.trim text ≠ "" := by
  rcases Option.or_eq_some_iff.1 ht with content | ⟨-, aside⟩
  · exact contentText?_not_blank content
  · obtain ⟨s, -, hs⟩ := Option.bind_eq_some_iff.1 aside
    exact Text.trim_ne_empty_of_nonBlank? hs

/-- The latest reply is not blank. -/
theorem latestReply?_not_blank {raw : Json} {text : String} (ht : latestReply? raw = some text) :
    Text.trim text ≠ "" := by
  obtain ⟨message, -, hm⟩ := List.exists_of_findSome?_eq_some ht
  unfold replyText? at hm
  split at hm
  · exact messageText?_not_blank hm
  · cases hm

end Remote

end Delegation
