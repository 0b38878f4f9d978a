import Hypermedia.Proofs.Grammar

/-!
Natural numbers as runs of decimal digits. A run is never empty and has no zero
in front, and it tells its number.
-/

namespace Hypermedia.Text

theorem ne_of_isDigit {c d : Char} (hd : d.isDigit = true) (hc : c.isDigit = false) : d ≠ c := by
  rintro rfl
  exact absurd hd (by simp [hc])

theorem isDigit_of_mem_toDigits (n : Nat) : ∀ c ∈ Nat.toDigits 10 n, c.isDigit = true :=
  fun _ hc => Nat.isDigit_of_mem_toDigits (by decide) (by decide) hc

theorem exists_cons_toDigits (n : Nat) :
    ∃ d ds, Nat.toDigits 10 n = d :: ds ∧ d.isDigit = true := by
  obtain ⟨d, ds, h⟩ := List.exists_cons_of_ne_nil (Nat.toDigits_ne_nil (n := n) (b := 10))
  exact ⟨d, ds, h, isDigit_of_mem_toDigits n d (by simp [h])⟩

theorem maximalRun_toDigits (n : Nat) {rest : List Char}
    (h : ∀ c ∈ rest.head?, c.isDigit = false) :
    Grammar.MaximalRun Char.isDigit (Nat.toDigits 10 n) rest :=
  ⟨isDigit_of_mem_toDigits n, h⟩

theorem toDigits_injective {n k : Nat} (h : Nat.toDigits 10 n = Nat.toDigits 10 k) : n = k := by
  have hvalue := congrArg (Nat.ofDigitChars 10 · 0) h
  simpa [Nat.ofDigitChars_ten_toDigits] using hvalue

/-- Only zero itself is written with a zero in front. -/
theorem head?_toDigits_ne_zero {n : Nat} (h : 0 < n) :
    (Nat.toDigits 10 n).head? ≠ some '0' := by
  induction n using Nat.strongRecOn with
  | ind n ih =>
      by_cases hsmall : n < 10
      · rw [Nat.toDigits_of_lt_base hsmall]
        have hall : ∀ d < 10, 0 < d → Nat.digitChar d ≠ '0' := by decide
        simpa using hall n hsmall h
      · have hten : 10 ≤ n := by omega
        have hfront := ih (n / 10) (by omega) (by omega)
        obtain ⟨d, rest, hd⟩ := List.exists_cons_of_ne_nil (Nat.toDigits_ne_nil (n := n / 10))
        rw [hd] at hfront
        rw [Nat.toDigits_of_base_le (by decide) hten, hd]
        exact hfront

end Hypermedia.Text
