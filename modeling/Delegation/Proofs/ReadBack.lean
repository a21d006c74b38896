import Mathlib.Tactic.SplitIfs
import Delegation.Json.Draft
import Delegation.Json.Printer

/-!
# A written document is read back

What the compact form of a document is read as. Numbers, strings and names are read to their end
and no further, so a value may stand in front of anything that does not go on with its number
(`Unnumbered`); the fuel of a reading is enough because every step of it consumes a character
(`Draft.reads`). `Draft.read_compact` says that a document of whole numbers is written without a
fault, and `read?_compact` that it is read as it was, as long as it is not nested too deep. The
other way round, whatever was read has ascending keys (`ordered_of_read?`).
-/

namespace Delegation

/-! ## Numbers -/

namespace Text

theorem decimalValue?_of_isDigit {c : Char} (digit : c.isDigit = true) :
    decimalValue? c = some (c.toNat - '0'.toNat) := by
  have bounds : 48 ≤ c.toNat ∧ c.toNat ≤ 57 := by
    simpa [Char.isDigit, UInt32.le_iff_toNat_le] using digit
  simp [decimalValue?, bounds]

end Text

namespace Json

open Text (decimalValue?)

/-- The value of a digit that was written. -/
def digitValue (c : Char) : Nat := c.toNat - '0'.toNat

/-- A text that does not go on with a digit. -/
def Undigited (rest : List Char) : Prop := ∀ c, rest.head? = some c → decimalValue? c = none

theorem spanDigits_of_undigited {rest : List Char} (ends : Undigited rest) :
    spanDigits rest = ([], rest) := by
  cases rest with
  | nil => rfl
  | cons c rest => simp [spanDigits, ends c rfl]

/-- All digits at the front are taken. -/
theorem spanDigits_append {cs rest : List Char} (digits : ∀ c ∈ cs, c.isDigit = true)
    (ends : Undigited rest) : spanDigits (cs ++ rest) = (cs.map digitValue, rest) := by
  induction cs with
  | nil => exact spanDigits_of_undigited ends
  | cons c cs ih =>
    have value := Text.decimalValue?_of_isDigit (digits c (.head _))
    simp [spanDigits, value, ih fun c hc => digits c (.tail _ hc), digitValue]

theorem le_foldl_digits (ds : List Nat) (word : Nat) :
    word ≤ ds.foldl (fun acc d => 10 * acc + d) word := by
  induction ds generalizing word with
  | nil => exact Nat.le_refl word
  | cons d ds ih =>
    have := ih (10 * word + d)
    simp only [List.foldl_cons]
    omega

/-- Digits that make a word are all collected. -/
theorem collectDigits_of_le {ds : List Nat} {word : Nat}
    (fits : ds.foldl (fun acc d => 10 * acc + d) word ≤ wordMax) :
    collectDigits word ds = (ds.foldl (fun acc d => 10 * acc + d) word, []) := by
  induction ds generalizing word with
  | nil => rfl
  | cons d ds ih =>
    have first : 10 * word + d ≤ wordMax := Nat.le_trans (le_foldl_digits ds _) fits
    simp [collectDigits, first, ih fits]

theorem foldl_digitValue_toDigits (n : Nat) :
    ((Nat.toDigits 10 n).map digitValue).foldl (fun acc d => 10 * acc + d) 0 = n := by
  rw [List.foldl_map]
  exact Nat.ofDigitChars_ten_toDigits

theorem digitValue_digitChar {n : Nat} (small : n < 10) : digitValue n.digitChar = n := by
  have : ∀ m : Fin 10, digitValue (Nat.digitChar m.1) = m.1 := by decide
  exact this ⟨n, small⟩

/-- Only zero is written with a leading zero. -/
theorem eq_zero_of_leading_zero {n : Nat}
    (leading : ((Nat.toDigits 10 n).map digitValue).head? = some 0) : n = 0 := by
  induction n using Nat.strongRecOn with
  | ind n ih =>
    by_cases small : n < 10
    · rw [Nat.toDigits_of_lt_base small] at leading
      simpa [digitValue_digitChar small] using leading
    · rw [Nat.toDigits_of_base_le (by omega) (by omega)] at leading
      have tens : ((Nat.toDigits 10 (n / 10)).map digitValue).head? = some 0 := by
        obtain ⟨d, ds, hd⟩ : ∃ d ds, Nat.toDigits 10 (n / 10) = d :: ds :=
          List.exists_cons_of_ne_nil Nat.toDigits_ne_nil
        simpa [hd] using leading
      have := ih (n / 10) (by omega) tens
      omega

/-- A text that does not go on as a number does. -/
def Unnumbered (rest : List Char) : Prop :=
  ∀ c, rest.head? = some c → decimalValue? c = none ∧ c ≠ '.' ∧ c ≠ 'e' ∧ c ≠ 'E'

theorem scanExponent_of_unnumbered {rest : List Char} (ends : Unnumbered rest) (negative : Bool)
    (whole : List Nat) (fraction : Option (List Nat)) :
    scanExponent negative whole fraction rest =
      completed ⟨negative, whole, fraction, none⟩ rest := by
  cases rest with
  | nil => rfl
  | cons c rest =>
    obtain ⟨-, -, he, hE⟩ := ends c rfl
    simp [scanExponent, he, hE]

/-- A written natural number is scanned whole. -/
theorem scanUnsigned_toDigits {rest : List Char} (ends : Unnumbered rest) (negative : Bool)
    (n : Nat) :
    scanUnsigned negative (Nat.toDigits 10 n ++ rest) =
      completed ⟨negative, (Nat.toDigits 10 n).map digitValue, none, none⟩ rest := by
  have spanned : spanDigits (Nat.toDigits 10 n ++ rest) =
      ((Nat.toDigits 10 n).map digitValue, rest) :=
    spanDigits_append (fun c hc => Nat.isDigit_of_mem_toDigits (by omega) (by omega) hc)
      fun c hc => (ends c hc).1
  have nonempty : (Nat.toDigits 10 n).map digitValue ≠ [] := by simp
  have unpadded : ¬ (((Nat.toDigits 10 n).map digitValue).head? = some 0 ∧
      1 < ((Nat.toDigits 10 n).map digitValue).length) := by
    rintro ⟨leading, long⟩
    rw [eq_zero_of_leading_zero leading] at long
    simp [Nat.toDigits_zero] at long
  have done := scanExponent_of_unnumbered ends negative ((Nat.toDigits 10 n).map digitValue) none
  unfold scanUnsigned
  rw [spanned]
  generalize (Nat.toDigits 10 n).map digitValue = ds at nonempty unpadded done
  cases ds with
  | nil => exact absurd rfl nonempty
  | cons d ds =>
    dsimp only
    rw [if_neg unpadded]
    split
    · exact absurd rfl (ends '.' rfl).2.1
    · exact done

theorem value_natural {n : Nat} (negative : Bool) (fits : n ≤ wordMax) :
    NumeralText.value ⟨negative, (Nat.toDigits 10 n).map digitValue, none, none⟩ =
      wholeNumeral negative n := by
  have collected : collectDigits 0 ((Nat.toDigits 10 n).map digitValue) = (n, []) := by
    rw [collectDigits_of_le, foldl_digitValue_toDigits]
    rw [foldl_digitValue_toDigits]
    exact fits
  simp [NumeralText.value, collected]

/-- An integer in range is scanned as it was written. -/
theorem scanNumeral_intChars {i : Int} {rest : List Char} (inRange : (Numeral.int i).InRange)
    (ends : Unnumbered rest) :
    scanNumeral (intChars i ++ rest) = (⟨.ok (.int i), none⟩, some rest) := by
  obtain ⟨least, greatest⟩ := inRange
  simp only [int64Min, wordMax] at least greatest
  have fits : i.natAbs ≤ wordMax := by
    simp only [wordMax]
    omega
  by_cases negative : i < 0
  · have whole : wholeNumeral true i.natAbs = some (.int i) := by
      have first : ¬ (i.natAbs = 0 ∨ Nat.pow 2 63 < i.natAbs) := by
        simp only [Nat.pow_eq]
        omega
      have same : -(i.natAbs : Int) = i := by omega
      unfold wholeNumeral
      rw [if_neg (by decide), if_neg first, same]
    simp only [intChars, negative, if_true, List.cons_append, scanNumeral,
      scanUnsigned_toDigits ends, completed, value_natural _ fits, whole]
  · have whole : wholeNumeral false i.natAbs = some (.int i) := by
      have same : (i.natAbs : Int) = i := by omega
      simp [wholeNumeral, same]
    have unsigned : scanNumeral (Nat.toDigits 10 i.natAbs ++ rest) =
        scanUnsigned false (Nat.toDigits 10 i.natAbs ++ rest) := by
      unfold scanNumeral
      split
      · rename_i tail same
        have hd : '-' ∈ Nat.toDigits 10 i.natAbs := by
          cases hc : Nat.toDigits 10 i.natAbs with
          | nil => exact absurd hc Nat.toDigits_ne_nil
          | cons c cs =>
            rw [hc] at same
            cases same
            exact .head _
        exact absurd (Nat.isDigit_of_mem_toDigits (by omega) (by omega) hd) (by decide)
      · rfl
    simp only [intChars, negative, if_false, unsigned, scanUnsigned_toDigits ends, completed,
      value_natural _ fits, whole]

/-! ## Strings -/

open Text (hexDigit hexPadded)

/-- Four written digits are read as the number that they stand for. -/
theorem word?_hexDigit (a b c d : Nat) :
    word? (hexDigit (a % 16)) (hexDigit (b % 16)) (hexDigit (c % 16)) (hexDigit (d % 16)) =
      some (((a % 16 * 16 + b % 16) * 16 + c % 16) * 16 + d % 16) := by
  have value (n : Nat) : Text.hexValue? (hexDigit (n % 16)) = some (n % 16) :=
    Text.hexValue?_hexDigit _ (Nat.mod_lt n (by decide))
  simp [word?, value]

theorem hexPadded_four (n : Nat) :
    hexPadded 4 n = [hexDigit (n / 16 / 16 / 16 % 16), hexDigit (n / 16 / 16 % 16),
      hexDigit (n / 16 % 16), hexDigit (n % 16)] := rfl

/-- How a character of a string is written: for itself, with a backslash and a letter, or with a
backslash and its number. -/
inductive Spelled (c : Char) : List Char → Prop
  | plain (unquoted : c ≠ '"') (unescaped : c ≠ '\\') (printable : ¬ c.toNat < 32) :
    Spelled c [c]
  | short {e : Char} (stands : shortEscape? e = some c) : Spelled c ['\\', e]
  | number (control : c.toNat < 32) : Spelled c ('\\' :: 'u' :: hexPadded 4 c.toNat)

theorem spelled_escaped (c : Char) : Spelled c (escaped c) := by
  unfold escaped
  split_ifs with h₁ h₂ h₃ h₄ h₅ h₆ h₇ h₈
  · subst h₁; exact .short rfl
  · subst h₂; exact .short rfl
  · subst h₃; exact .short rfl
  · subst h₄; exact .short rfl
  · subst h₅; exact .short rfl
  · subst h₆; exact .short rfl
  · subst h₇; exact .short rfl
  · exact .number h₈
  · exact .plain h₁ h₂ h₈

theorem word?_control {n : Nat} (control : n < 32) :
    word? (hexDigit (n / 16 / 16 / 16 % 16)) (hexDigit (n / 16 / 16 % 16))
      (hexDigit (n / 16 % 16)) (hexDigit (n % 16)) = some n := by
  rw [word?_hexDigit]
  congr 1
  omega

theorem readString_escaped (c : Char) (rest : List Char) :
    readString (escaped c ++ rest) = withChar c (readString rest) := by
  have spelled := spelled_escaped c
  generalize escaped c = written at spelled ⊢
  cases spelled with
  | plain unquoted unescaped printable =>
    rw [List.cons_append, readString.eq_def]
    dsimp only
    rw [if_neg unquoted, if_neg unescaped, if_neg printable]
    rfl
  | short stands =>
    rw [List.cons_append, readString.eq_def]
    dsimp only
    rw [if_neg (by decide), if_pos rfl]
    simp only [List.cons_append, List.nil_append, stands]
  | number control =>
    have low : isLowSurrogate c.toNat = false := by
      simp only [isLowSurrogate, Bool.and_eq_false_imp, decide_eq_true_eq, decide_eq_false_iff_not]
      omega
    have high : isHighSurrogate c.toNat = false := by
      simp only [isHighSurrogate, Bool.and_eq_false_imp, decide_eq_true_eq, decide_eq_false_iff_not]
      omega
    have letter : shortEscape? 'u' = none := rfl
    rw [List.cons_append, readString.eq_def]
    dsimp only
    rw [if_neg (by decide), if_pos rfl, hexPadded_four]
    simp [letter, word?_control control, low, high]

theorem skipString_escaped (c : Char) (rest : List Char) :
    skipString (escaped c ++ rest) = skipString rest := by
  have spelled := spelled_escaped c
  generalize escaped c = written at spelled ⊢
  cases spelled with
  | plain unquoted unescaped printable =>
    rw [List.cons_append, skipString.eq_def]
    dsimp only
    rw [if_neg unquoted, if_neg unescaped, if_neg printable]
    rfl
  | short stands =>
    rw [List.cons_append, skipString.eq_def]
    dsimp only
    rw [if_neg (by decide), if_pos rfl]
    simp [stands]
  | number control =>
    have letter : shortEscape? 'u' = none := rfl
    rw [List.cons_append, skipString.eq_def]
    dsimp only
    rw [if_neg (by decide), if_pos rfl, hexPadded_four]
    simp [letter, word?_control control]

theorem readString_chars (cs rest : List Char) :
    readString (cs.flatMap escaped ++ '"' :: rest) = .ok (cs, rest) := by
  induction cs with
  | nil => rw [List.flatMap_nil, List.nil_append, readString.eq_def]; exact if_pos rfl
  | cons c cs ih => simp [List.flatMap_cons, readString_escaped, ih, withChar]

theorem skipString_chars (cs rest : List Char) :
    skipString (cs.flatMap escaped ++ '"' :: rest) = .ok rest := by
  induction cs with
  | nil => rw [List.flatMap_nil, List.nil_append, skipString.eq_def]; exact if_pos rfl
  | cons c cs ih => simp [List.flatMap_cons, skipString_escaped, ih]

/-- A written string is scanned as it was. -/
theorem scanString_stringChars (s : String) (rest : List Char) :
    scanString (s.toList.flatMap escaped ++ '"' :: rest) = (⟨.ok s, none⟩, some rest) := by
  simp [scanString, readString_chars, skipString_chars, Except.map]

/-! ## Values -/

/-- The first character of a number is neither blank nor the beginning of anything else. -/
theorem numeral_head {c : Char} (leading : c = '-' ∨ c.isDigit = true) :
    Draft.isSpace c = false ∧ c ≠ ']' ∧ c ≠ 'n' ∧ c ≠ 't' ∧ c ≠ 'f' ∧
      (c = '-' || c.isDigit) = true := by
  rcases leading with rfl | digit
  · decide
  · have other (c' : Char) (no : c'.isDigit = false) : c ≠ c' := by
      rintro rfl
      rw [digit] at no
      cases no
    refine ⟨?_, other _ rfl, other _ rfl, other _ rfl, other _ rfl, by simp [digit]⟩
    simp [Draft.isSpace, other ' ' rfl, other '\n' rfl, other '\t' rfl, other '\r' rfl]

theorem intChars_head (i : Int) :
    ∃ c cs, intChars i = c :: cs ∧ (c = '-' ∨ c.isDigit = true) := by
  unfold intChars
  split
  · exact ⟨_, _, rfl, .inl rfl⟩
  · cases hc : Nat.toDigits 10 i.natAbs with
    | nil => exact absurd hc Nat.toDigits_ne_nil
    | cons c cs =>
      have first : c ∈ Nat.toDigits 10 i.natAbs := hc ▸ .head _
      exact ⟨c, cs, rfl, .inr (Nat.isDigit_of_mem_toDigits (by decide) (by decide) first)⟩

theorem chars_head {v : Json} (whole : Whole v) :
    ∃ c cs, chars v = c :: cs ∧ Draft.isSpace c = false ∧ c ≠ ']' := by
  cases v with
  | null => exact ⟨'n', _, rfl, rfl, by decide⟩
  | bool b => cases b <;> exact ⟨_, _, rfl, rfl, by decide⟩
  | num n =>
    cases n with
    | real d => exact whole.elim
    | int i =>
      obtain ⟨c, cs, hc, leading⟩ := intChars_head i
      obtain ⟨solid, closing, -⟩ := numeral_head leading
      exact ⟨c, cs, hc, solid, closing⟩
  | str s => exact ⟨'"', _, rfl, rfl, by decide⟩
  | arr items => exact ⟨'[', _, rfl, rfl, by decide⟩
  | obj entries => exact ⟨'\x7b', _, rfl, rfl, by decide⟩

theorem charsItems_head {v : Json} {vs : List Json} (whole : WholeItems (v :: vs)) :
    ∃ c cs, charsItems (v :: vs) = c :: cs ∧ Draft.isSpace c = false ∧ c ≠ ']' := by
  obtain ⟨c, cs, hc, solid, more⟩ := chars_head whole.1
  cases vs with
  | nil => exact ⟨c, cs, hc, solid, more⟩
  | cons w ws =>
    exact ⟨c, cs ++ ',' :: charsItems (w :: ws), by simp [charsItems, hc], solid, more⟩

theorem charsEntries_head (e : String × Json) (es : List (String × Json)) :
    ∃ cs, charsEntries (e :: es) = '"' :: cs := by
  cases es <;> exact ⟨_, rfl⟩

namespace Draft

mutual
/-- The draft of a document, without any fault. -/
def ofJson : Json → Draft
  | .null => .null
  | .bool b => .bool b
  | .num n => .num ⟨.ok n, none⟩
  | .str s => .str ⟨.ok s, none⟩
  | .arr items => .arr (ofItems items) none
  | .obj entries => .obj (ofEntries entries) none

def ofItems : List Json → List Draft
  | [] => []
  | v :: rest => ofJson v :: ofItems rest

def ofEntries : List (String × Json) → List (Scanned String × Draft)
  | [] => []
  | (k, v) :: rest => (⟨.ok k, none⟩, ofJson v) :: ofEntries rest
end

theorem skipSpace_cons {c : Char} (solid : isSpace c = false) (cs : List Char) :
    skipSpace (c :: cs) = c :: cs := by
  simp [skipSpace, solid]

theorem value_num {i : Int} {rest : List Char} {fuel : Nat} (inRange : (Numeral.int i).InRange)
    (ends : Unnumbered rest) :
    value (fuel + 1) (intChars i ++ rest) = (.num ⟨.ok (.int i), none⟩, some rest) := by
  obtain ⟨c, cs, hc, leading⟩ := intChars_head i
  have scanned := scanNumeral_intChars inRange ends
  rw [hc] at scanned ⊢
  obtain ⟨solid, -, hn, ht, hf, hd⟩ := numeral_head leading
  rw [List.cons_append] at scanned ⊢
  rw [value.eq_def]
  dsimp only
  rw [skipSpace_cons solid]
  dsimp only
  rw [if_neg hn, if_neg ht, if_neg hf, if_pos hd, scanned]

/-! ## One step of reading -/

theorem value_arr {c : Char} (solid : isSpace c = false) (more : c ≠ ']') (fuel : Nat)
    (cs : List Char) :
    value (fuel + 1) ('[' :: c :: cs) =
      (.arr (items fuel (c :: cs)).1 (items fuel (c :: cs)).2.1, (items fuel (c :: cs)).2.2) := by
  have opening : skipSpace ('[' :: c :: cs) = '[' :: c :: cs := skipSpace_cons rfl _
  simp [value.eq_def, opening, skipSpace_cons solid, more]

theorem value_obj (fuel : Nat) (cs : List Char) :
    value (fuel + 1) ('\x7b' :: '"' :: cs) =
      (.obj (entries fuel ('"' :: cs)).1 (entries fuel ('"' :: cs)).2.1,
        (entries fuel ('"' :: cs)).2.2) := by
  have opening : skipSpace ('\x7b' :: '"' :: cs) = '\x7b' :: '"' :: cs := skipSpace_cons rfl _
  have key : skipSpace ('"' :: cs) = '"' :: cs := skipSpace_cons rfl _
  simp [value.eq_def, opening, key]

/-! ## What was written is read -/

/-- With so much fuel, values are read as they were written. -/
def ReadsValues (fuel : Nat) : Prop :=
  ∀ v rest, Whole v → Unnumbered rest → 2 * (chars v).length ≤ fuel →
    value fuel (chars v ++ rest) = (ofJson v, some rest)

def ReadsItems (fuel : Nat) : Prop :=
  ∀ v vs rest, WholeItems (v :: vs) → 2 * (charsItems (v :: vs)).length < fuel →
    items fuel (charsItems (v :: vs) ++ ']' :: rest) = (ofItems (v :: vs), none, some rest)

def ReadsEntries (fuel : Nat) : Prop :=
  ∀ e es rest, WholeEntries (e :: es) → 2 * (charsEntries (e :: es)).length < fuel →
    entries fuel (charsEntries (e :: es) ++ '\x7d' :: rest) = (ofEntries (e :: es), none, some rest)

theorem unnumbered_cons {c : Char} (plain : Text.decimalValue? c = none) (point : c ≠ '.')
    (small : c ≠ 'e') (large : c ≠ 'E') (rest : List Char) : Unnumbered (c :: rest) := by
  intro c' hc
  cases hc
  exact ⟨plain, point, small, large⟩

theorem readsValues_succ {fuel : Nat} (readsItems : ReadsItems fuel)
    (readsEntries : ReadsEntries fuel) : ReadsValues (fuel + 1) := by
  intro v rest whole ends enough
  match v with
  | .null => simp [value, chars, skipSpace_cons, isSpace, expectWord, ofJson]
  | .bool true => simp [value, chars, skipSpace_cons, isSpace, expectWord, ofJson]
  | .bool false => simp [value, chars, skipSpace_cons, isSpace, expectWord, ofJson]
  | .num (.int i) => exact value_num whole ends
  | .str s =>
    simp [value, chars, stringChars, skipSpace_cons, isSpace, ofJson, scanString_stringChars]
  | .arr [] => simp [value, chars, charsItems, skipSpace_cons, isSpace, ofJson, ofItems]
  | .arr (v :: vs) =>
    obtain ⟨c, cs, hc, solid, more⟩ := charsItems_head whole
    have listed := readsItems v vs rest whole (by
      simp only [chars, List.length_append, List.length_cons, List.length_nil] at enough
      omega)
    have written : chars (.arr (v :: vs)) ++ rest = '[' :: c :: (cs ++ ']' :: rest) := by
      simp [chars, hc]
    rw [hc, List.cons_append] at listed
    rw [written, value_arr solid more, listed]
    rfl
  | .obj [] => simp [value, chars, charsEntries, skipSpace_cons, isSpace, ofJson, ofEntries]
  | .obj (e :: es) =>
    obtain ⟨cs, hc⟩ := charsEntries_head e es
    have listed := readsEntries e es rest whole (by
      simp only [chars, List.length_append, List.length_cons, List.length_nil] at enough
      omega)
    have written : chars (.obj (e :: es)) ++ rest = '\x7b' :: '"' :: (cs ++ '\x7d' :: rest) := by
      simp [chars, hc]
    rw [hc, List.cons_append] at listed
    rw [written, value_obj, listed]
    rfl

theorem readsItems_succ {fuel : Nat} (readsValues : ReadsValues fuel)
    (readsItems : ReadsItems fuel) : ReadsItems (fuel + 1) := by
  intro v vs rest whole enough
  cases vs with
  | nil =>
    have first := readsValues v (']' :: rest) whole.1
      (unnumbered_cons rfl (by decide) (by decide) (by decide) _) (by
        simp only [charsItems] at enough
        omega)
    simp [items, charsItems, first, skipSpace_cons, isSpace, ofItems]
  | cons w ws =>
    simp only [charsItems, List.length_append, List.length_cons] at enough
    have first := readsValues v (',' :: (charsItems (w :: ws) ++ ']' :: rest)) whole.1
      (unnumbered_cons rfl (by decide) (by decide) (by decide) _) (by omega)
    have others := readsItems w ws rest whole.2 (by omega)
    simp [items, charsItems, first, skipSpace_cons, isSpace, ofItems, others]

theorem readsEntries_succ {fuel : Nat} (readsValues : ReadsValues fuel)
    (readsEntries : ReadsEntries fuel) : ReadsEntries (fuel + 1) := by
  intro (k, v) es rest whole enough
  have key := scanString_stringChars k
  cases es with
  | nil =>
    have first := readsValues v ('\x7d' :: rest) whole.1
      (unnumbered_cons rfl (by decide) (by decide) (by decide) _) (by
        simp only [charsEntries, List.length_append, List.length_cons] at enough
        omega)
    simp [entries, charsEntries, stringChars, key, first, skipSpace_cons, isSpace, ofEntries]
  | cons e es =>
    simp only [charsEntries, List.length_append, List.length_cons] at enough
    have first := readsValues v (',' :: (charsEntries (e :: es) ++ '\x7d' :: rest)) whole.1
      (unnumbered_cons rfl (by decide) (by decide) (by decide) _) (by omega)
    have others := readsEntries e es rest whole.2 (by omega)
    simp [entries, charsEntries, stringChars, key, first, skipSpace_cons, isSpace, ofEntries,
      others]

theorem reads (fuel : Nat) : ReadsValues fuel ∧ ReadsItems fuel ∧ ReadsEntries fuel := by
  induction fuel with
  | zero =>
    refine ⟨fun v rest whole _ enough => ?_, fun v vs rest _ enough => ?_,
      fun e es rest _ enough => ?_⟩
    · obtain ⟨c, cs, hc, -⟩ := chars_head whole
      simp [hc] at enough
    · exact absurd enough (Nat.not_lt_zero _)
    · exact absurd enough (Nat.not_lt_zero _)
  | succ fuel ih =>
    obtain ⟨readsValues, readsItems, readsEntries⟩ := ih
    exact ⟨readsValues_succ readsItems readsEntries, readsItems_succ readsValues readsItems,
      readsEntries_succ readsValues readsEntries⟩

/-! ## The document of a draft -/

mutual
theorem toJson_ofJson (v : Json) {limit : Nat} (shallow : depth v ≤ limit) :
    toJson limit (ofJson v) = .ok v.sorted := by
  match v, limit with
  | .null, _ | .bool _, _ | .num _, _ | .str _, _ => simp [ofJson, toJson, sorted, Except.map]
  | .arr vs, limit + 1 =>
    have within : depthItems vs ≤ limit := by simpa [depth] using shallow
    simp [ofJson, toJson, sorted, toItems_ofItems vs within, ended]
    rfl
  | .obj es, limit + 1 =>
    have within : depthEntries es ≤ limit := by simpa [depth] using shallow
    simp [ofJson, toJson, sorted, toEntries_ofEntries es within, ended]
    rfl

theorem toItems_ofItems (vs : List Json) {limit : Nat} (shallow : depthItems vs ≤ limit) :
    toItems limit (ofItems vs) = .ok (sortedItems vs) := by
  match vs with
  | [] => simp [ofItems, toItems, sortedItems]
  | v :: vs =>
    obtain ⟨first, others⟩ := Nat.max_le.1 shallow
    simp [ofItems, toItems, sortedItems, toJson_ofJson v first, toItems_ofItems vs others]
    rfl

theorem toEntries_ofEntries (es : List (String × Json)) {limit : Nat}
    (shallow : depthEntries es ≤ limit) :
    toEntries limit (ofEntries es) = .ok (sortedEntries es) := by
  match es with
  | [] => simp [ofEntries, toEntries, sortedEntries]
  | (k, v) :: es =>
    obtain ⟨first, others⟩ := Nat.max_le.1 shallow
    simp [ofEntries, toEntries, sortedEntries, toJson_ofJson v first, toEntries_ofEntries es others]
    rfl
end

theorem skipSpace_nil : skipSpace [] = [] := rfl

/-- A written document is read without any fault. -/
theorem read_compact {v : Json} (whole : Whole v) : read (compact v) = (ofJson v, none) := by
  have ends : Unnumbered [] := fun c hc => nomatch hc
  have enough : 2 * (chars v).length ≤ 2 * (chars v).length + 2 := by omega
  have drafted := (reads (2 * (chars v).length + 2)).1 v [] whole ends enough
  rw [List.append_nil] at drafted
  simp [read, compact, drafted, skipSpace_nil]

end Draft

/-! ## Ascending keys -/

theorem insert_of_last {k : String} {es : List (String × Json)} (last : ∀ e ∈ es, e.1 < k)
    (v : Json) : insert k v es = es ++ [(k, v)] := by
  induction es with
  | nil => rfl
  | cons e es ih =>
    obtain ⟨k', v'⟩ := e
    have less : k' < k := last (k', v') (.head _)
    have differs : k ≠ k' := fun same => String.lt_irrefl k (same ▸ less)
    simp [insert, String.lt_asymm less, differs, ih fun e he => last e (.tail _ he)]

/-- Entries in ascending order are left as they are. -/
theorem collect_of_ascending {es : List (String × Json)}
    (ascending : (es.map (·.1)).Pairwise (· < ·)) : collect es = es := by
  have from_front (front es : List (String × Json))
      (ascending : ((front ++ es).map (·.1)).Pairwise (· < ·)) :
      es.foldl (fun acc e => insert e.1 e.2 acc) front = front ++ es := by
    induction es generalizing front with
    | nil => simp
    | cons e es ih =>
      have last : ∀ x ∈ front, x.1 < e.1 := by
        intro x hx
        rw [List.map_append, List.pairwise_append] at ascending
        exact ascending.2.2 x.1 (List.mem_map_of_mem hx) e.1 (.head _)
      rw [List.foldl_cons, insert_of_last last, ih _ (by simpa using ascending)]
      simp
  exact from_front [] es ascending

mutual
theorem sorted_of_ordered (v : Json) (ordered : Ordered v) : v.sorted = v := by
  match v with
  | .null | .bool _ | .num _ | .str _ => simp [sorted]
  | .arr vs => simp [sorted, sortedItems_of_ordered vs ordered]
  | .obj es =>
    obtain ⟨ascending, each⟩ := ordered
    simp [sorted, sortedEntries_of_ordered es each, collect_of_ascending ascending]

theorem sortedItems_of_ordered (vs : List Json) (ordered : OrderedItems vs) :
    sortedItems vs = vs := by
  match vs with
  | [] => simp [sortedItems]
  | v :: vs =>
    simp [sortedItems, sorted_of_ordered v ordered.1, sortedItems_of_ordered vs ordered.2]

theorem sortedEntries_of_ordered (es : List (String × Json)) (ordered : OrderedEntries es) :
    sortedEntries es = es := by
  match es with
  | [] => simp [sortedEntries]
  | (k, v) :: es =>
    simp [sortedEntries, sorted_of_ordered v ordered.1, sortedEntries_of_ordered es ordered.2]
end

/-- A document of whole numbers that is not nested too deep is read as it was written, but for the
order of its keys. -/
theorem read_compact {v : Json} (whole : Whole v) (shallow : depth v ≤ depthLimit) :
    read (compact v) = .ok v.sorted := by
  simp [read, Draft.read_compact whole, Draft.toJson_ofJson v shallow, Draft.ended]
  rfl

theorem read?_compact {v : Json} (ordered : Ordered v) (whole : Whole v)
    (shallow : depth v ≤ depthLimit) : read? (compact v) = some v := by
  rw [read?, read_compact whole shallow, sorted_of_ordered v ordered]
  rfl

/-! ## What was read has ascending keys -/

theorem mem_insert {k : String} {v : Json} {es : List (String × Json)} {e : String × Json}
    (he : e ∈ insert k v es) : e = (k, v) ∨ e ∈ es := by
  induction es with
  | nil => exact .inl (by simpa [insert] using he)
  | cons e' es ih =>
    obtain ⟨k', v'⟩ := e'
    unfold insert at he
    split at he
    · simpa using he
    · split at he
      · rcases List.mem_cons.1 he with rfl | he
        · exact .inl rfl
        · exact .inr (.tail _ he)
      · rcases List.mem_cons.1 he with rfl | he
        · exact .inr (.head _)
        · exact (ih he).imp id (.tail _)

theorem ascending_insert {k : String} {v : Json} {es : List (String × Json)}
    (ascending : (es.map (·.1)).Pairwise (· < ·)) :
    ((insert k v es).map (·.1)).Pairwise (· < ·) := by
  induction es with
  | nil => simp [insert]
  | cons e es ih =>
    obtain ⟨k', v'⟩ := e
    obtain ⟨first, others⟩ := List.pairwise_cons.1 ascending
    unfold insert
    split
    · rename_i less
      refine List.pairwise_cons.2 ⟨fun key hkey => ?_, ascending⟩
      rcases List.mem_cons.1 hkey with rfl | hkey
      · exact less
      · exact String.lt_trans less (first key hkey)
    · split
      · rename_i same
        subst same
        exact ascending
      · rename_i notLess differs
        refine List.pairwise_cons.2 ⟨fun key hkey => ?_, ih others⟩
        obtain ⟨e, he, rfl⟩ := List.mem_map.1 hkey
        rcases mem_insert he with rfl | he
        · exact Std.lt_of_le_of_ne (String.not_lt.1 notLess) (Ne.symm differs)
        · exact first e.1 (List.mem_map_of_mem he)

theorem orderedEntries_iff {es : List (String × Json)} :
    OrderedEntries es ↔ ∀ e ∈ es, Ordered e.2 := by
  induction es with
  | nil => simp [OrderedEntries]
  | cons e es ih => simp [OrderedEntries, ih]

theorem ascending_collect (es : List (String × Json)) :
    ((collect es).map (·.1)).Pairwise (· < ·) := by
  have from_front (acc : List (String × Json)) (ascending : (acc.map (·.1)).Pairwise (· < ·)) :
      ((es.foldl (fun acc e => insert e.1 e.2 acc) acc).map (·.1)).Pairwise (· < ·) := by
    induction es generalizing acc with
    | nil => exact ascending
    | cons e es ih => exact ih _ (ascending_insert ascending)
  exact from_front [] List.Pairwise.nil

theorem mem_collect {es : List (String × Json)} {e : String × Json} (he : e ∈ collect es) :
    e ∈ es := by
  have from_front (es acc : List (String × Json))
      (he : e ∈ es.foldl (fun acc e => insert e.1 e.2 acc) acc) : e ∈ es ∨ e ∈ acc := by
    induction es generalizing acc with
    | nil => exact .inr he
    | cons x es ih =>
      rcases ih _ he with he | he
      · exact .inl (.tail _ he)
      · rcases mem_insert he with rfl | he
        · exact .inl (.head _)
        · exact .inr he
  simpa using from_front es [] he

theorem ordered_collect {es : List (String × Json)} (each : OrderedEntries es) :
    Ordered (.obj (collect es)) :=
  ⟨ascending_collect es,
    orderedEntries_iff.2 fun e he => orderedEntries_iff.1 each e (mem_collect he)⟩

/-- What went well has gone well step by step. -/
theorem ok_of_bind {ε α β : Type} {x : Except ε α} {f : α → Except ε β} {b : β}
    (made : x >>= f = .ok b) : ∃ a, x = .ok a ∧ f a = .ok b := by
  cases x with
  | error e => cases made
  | ok a => exact ⟨a, rfl, made⟩

theorem ok_of_map {ε α β : Type} {x : Except ε α} {f : α → β} {b : β} (made : x.map f = .ok b) :
    ∃ a, x = .ok a ∧ f a = b := by
  cases x with
  | error e => cases made
  | ok a => exact ⟨a, rfl, Except.ok.inj made⟩

namespace Draft

theorem ok_of_ended {α : Type} {ending : Option Fault} {a b : α}
    (he : ended ending a = .ok b) : b = a := by
  cases ending with
  | some f => cases he
  | none => cases he; rfl

mutual
theorem ordered_of_toJson (d : Draft) {limit : Nat} {v : Json} (hd : toJson limit d = .ok v) :
    Ordered v := by
  match d, limit with
  | .null, _ | .bool _, _ =>
    simp only [toJson, Except.ok.injEq] at hd
    subst hd
    trivial
  | .num n, _ =>
    rw [toJson] at hd
    obtain ⟨n, -, rfl⟩ := ok_of_map hd
    trivial
  | .str s, _ =>
    rw [toJson] at hd
    obtain ⟨s, -, rfl⟩ := ok_of_map hd
    trivial
  | .arr ds ending, limit + 1 =>
    rw [toJson] at hd
    obtain ⟨vs, hi, ended⟩ := ok_of_bind hd
    rw [ok_of_ended ended]
    exact orderedItems_of_toItems ds hi
  | .obj es ending, limit + 1 =>
    rw [toJson] at hd
    obtain ⟨es', hi, ended⟩ := ok_of_bind hd
    rw [ok_of_ended ended]
    exact ordered_collect (orderedEntries_of_toEntries es hi)

theorem orderedItems_of_toItems (ds : List Draft) {limit : Nat} {vs : List Json}
    (hd : toItems limit ds = .ok vs) : OrderedItems vs := by
  match ds with
  | [] =>
    simp only [toItems, Except.ok.injEq] at hd
    subst hd
    trivial
  | d :: ds =>
    rw [toItems] at hd
    obtain ⟨v, hv, others⟩ := ok_of_bind hd
    obtain ⟨vs, hvs, same⟩ := ok_of_bind others
    cases same
    exact ⟨ordered_of_toJson d hv, orderedItems_of_toItems ds hvs⟩

theorem orderedEntries_of_toEntries (ds : List (Scanned String × Draft)) {limit : Nat}
    {es : List (String × Json)} (hd : toEntries limit ds = .ok es) : OrderedEntries es := by
  match ds with
  | [] =>
    simp only [toEntries, Except.ok.injEq] at hd
    subst hd
    trivial
  | (k, d) :: ds =>
    rw [toEntries] at hd
    obtain ⟨key, -, value⟩ := ok_of_bind hd
    obtain ⟨v, hv, others⟩ := ok_of_bind value
    obtain ⟨es, hes, same⟩ := ok_of_bind others
    cases same
    exact ⟨ordered_of_toJson d hv, orderedEntries_of_toEntries ds hes⟩
end

end Draft

/-- The keys of every object that was read ascend. -/
theorem ordered_of_read? {text : String} {v : Json} (hr : read? text = some v) : Ordered v := by
  have readable : read text = .ok v := by
    unfold read? at hr
    cases hd : read text with
    | error f => rw [hd] at hr; cases hr
    | ok w => rw [hd] at hr; cases hr; rfl
  obtain ⟨w, drafted, ended⟩ := ok_of_bind readable
  rw [Draft.ok_of_ended ended]
  exact Draft.ordered_of_toJson _ drafted

end Json

end Delegation
