import Hypermedia.Cursor

/-!
How the classes of characters lie to each other. The classes of Unicode are
tables, so that white space holds no name characters is a fact about data. It
is checked here for each of the few white space characters, and from it follows
that whatever ends a bare token ends names, digits and letters too.
-/

namespace Hypermedia

namespace Text

/-- The code points of some ranges, one by one. -/
def CodeRanges.codes (ranges : CodeRanges) : List Nat :=
  ranges.flatMap fun range => List.range' range.1 (range.2 + 1 - range.1)

theorem CodeRanges.mem_codes_of_has {ranges : CodeRanges} {c : Char}
    (h : ranges.has c = true) : c.toNat ∈ ranges.codes := by
  obtain ⟨range, hmem, hrange⟩ := List.any_eq_true.mp h
  have hbounds : range.1 ≤ c.toNat ∧ c.toNat ≤ range.2 := by simpa using hrange
  refine List.mem_flatMap.mpr ⟨range, hmem, ?_⟩
  rw [List.mem_range'_1]
  omega

end Text

theorem not_isNameChar_of_isBlank {c : Char} (h : Text.isBlank c = true) :
    isNameChar c = false := by
  have hall : ∀ code ∈ Text.blankRanges.codes, isNameChar (Char.ofNat code) = false := by
    decide +kernel
  have hcode := hall c.toNat (Text.CodeRanges.mem_codes_of_has h)
  rwa [Char.ofNat_toNat] at hcode

/-- A name can stand in a bare token. -/
theorem isBareChar_of_isNameChar {c : Char} (h : isNameChar c = true) :
    isBareChar c = true := by
  have hblank : Text.isBlank c = false := by
    rw [Bool.eq_false_iff]
    intro hblank
    rw [not_isNameChar_of_isBlank hblank] at h
    cases h
  have hcomma : c ≠ ',' := by
    rintro rfl
    exact absurd h (by decide)
  simp [isBareChar, hblank, hcomma]

theorem isNameChar_of_isDigit {c : Char} (h : c.isDigit = true) : isNameChar c = true := by
  have hascii : c.toNat < 128 := by
    have hbounds := Char.isDigit_iff_toNat.mp h
    have : '9'.toNat = 57 := rfl
    omega
  simp [isNameChar, Text.isNumeric, hascii, h]

theorem isNameChar_of_isAlpha {c : Char} (h : c.isAlpha = true) : isNameChar c = true := by
  have hascii : c.toNat < 128 := by
    have hcases : c.isUpper = true ∨ c.isLower = true := Bool.or_eq_true_iff.mp h
    rcases hcases with hupper | hlower
    · have hbounds : 'A'.val ≤ c.val ∧ c.val ≤ 'Z'.val := of_decide_eq_true hupper
      have hlast : c.toNat ≤ 90 := hbounds.2
      omega
    · have hbounds := Bool.and_eq_true_iff.mp hlower
      have hlast : c.toNat ≤ 122 := of_decide_eq_true hbounds.2
      omega
  simp [isNameChar, Text.isAlphabetic, hascii, h]

/-- Case does not decide whether a character is a letter. -/
theorem isAlpha_of_toLower {c : Char} (h : c.toLower.isAlpha = true) : c.isAlpha = true := by
  by_cases hupper : c.isUpper = true
  · exact Bool.or_eq_true_iff.mpr (.inl hupper)
  · have hsame : c.toLower = c := by
      unfold Char.toLower
      exact dif_neg fun hbounds => hupper (decide_eq_true hbounds)
    rwa [hsame] at h

theorem not_isBlank_of_isBareChar {c : Char} (h : isBareChar c = true) :
    Text.isBlank c = false := by
  simp only [isBareChar, Bool.and_eq_true, Bool.not_eq_true'] at h
  exact h.1

theorem not_isBlank_of_isNameChar {c : Char} (h : isNameChar c = true) :
    Text.isBlank c = false :=
  not_isBlank_of_isBareChar (isBareChar_of_isNameChar h)

theorem isBareChar_of_isQuote {c : Char} (h : isQuote c = true) : isBareChar c = true := by
  have hcases : c = '"' ∨ c = '\'' := by simpa [isQuote] using h
  rcases hcases with rfl | rfl <;> decide

/-- What ends a bare token: white space or a comma. -/
theorem isBareChar_eq_false_iff {c : Char} :
    isBareChar c = false ↔ Text.isBlank c = true ∨ c = ',' := by
  cases h : Text.isBlank c <;> simp [isBareChar, h]

end Hypermedia
