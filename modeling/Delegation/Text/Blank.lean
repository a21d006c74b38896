/-!
# Blank characters, trimming and ASCII case

Every text the program takes from outside is trimmed before it is compared, so "blank" has one
meaning everywhere: the characters of Unicode's White_Space property. Trimming works on the list
of characters; `trim_trim` says that a trimmed text is left alone by a second trimming.
-/

namespace Delegation.Text

/-- The 25 characters of White_Space. The separators U+001C to U+001F are not among them. -/
def isBlank (c : Char) : Bool :=
  let n := c.toNat
  (9 ≤ n && n ≤ 13) || n == 0x20 || n == 0x85 || n == 0xA0 || n == 0x1680
    || (0x2000 ≤ n && n ≤ 0x200A) || n == 0x2028 || n == 0x2029 || n == 0x202F
    || n == 0x205F || n == 0x3000

/-- A list of characters without the blank ones at its two ends. -/
def trimmed (cs : List Char) : List Char :=
  ((cs.dropWhile isBlank).reverse.dropWhile isBlank).reverse

def trim (s : String) : String := String.ofList (trimmed s.toList)

/-- The trimmed text, unless nothing is left of it. -/
def nonBlank? (s : String) : Option String :=
  let t := trim s
  if t = "" then none else some t

/-- Only the letters A to Z change: a status or a backend name is matched this way. -/
def asciiLower (s : String) : String := String.ofList (s.toList.map Char.toLower)

/-- The text up to its first line feed. -/
def firstLine (s : String) : String := String.ofList (s.toList.takeWhile (· ≠ '\n'))

/-! ## Trimming once is enough -/

theorem dropWhile_dropWhile {α : Type} (p : α → Bool) (l : List α) :
    (l.dropWhile p).dropWhile p = l.dropWhile p := by
  induction l with
  | nil => rfl
  | cons a l ih =>
    by_cases h : p a
    · simp [h, ih]
    · simp [h]

theorem head?_dropWhile_not {α : Type} (p : α → Bool) (l : List α) (a : α)
    (h : (l.dropWhile p).head? = some a) : p a = false := by
  induction l with
  | nil => simp at h
  | cons b l ih =>
    by_cases hb : p b
    · simp [hb] at h; exact ih h
    · simp [hb] at h; subst h; simpa using hb

/-- Cutting at the far end leaves the near end as it is. -/
theorem dropWhile_reverse_dropWhile_reverse {α : Type} (p : α → Bool) (l : List α)
    (h : ∀ a, l.head? = some a → p a = false) :
    ((l.reverse.dropWhile p).reverse).dropWhile p = (l.reverse.dropWhile p).reverse := by
  generalize hm : (l.reverse.dropWhile p).reverse = m
  have hpre : m <+: l := by
    have := List.dropWhile_suffix p (l := l.reverse)
    rw [← hm]
    simpa using List.reverse_prefix.mpr this
  cases m with
  | nil => rfl
  | cons a m =>
    obtain ⟨t, ht⟩ := hpre
    have : p a = false := h a (by rw [← ht]; rfl)
    simp [this]

theorem trimmed_trimmed (cs : List Char) : trimmed (trimmed cs) = trimmed cs := by
  unfold trimmed
  rw [dropWhile_reverse_dropWhile_reverse isBlank (cs.dropWhile isBlank)
    (fun a => head?_dropWhile_not isBlank cs a)]
  simp [dropWhile_dropWhile]

theorem trim_trim (s : String) : trim (trim s) = trim s := by
  simp [trim, trimmed_trimmed]

end Delegation.Text
