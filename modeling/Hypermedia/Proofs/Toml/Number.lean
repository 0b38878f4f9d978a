import Hypermedia.Proofs.Text.Digits
import Hypermedia.Toml.Number

/-!
Natural numbers below 2^63 are read back from their decimal digits. A run of
nothing but digits takes no other turn in the reading of integers: no base, no
sign, no underscore.
-/

namespace Hypermedia.Toml.Number

theorem grouped?_of_digits {run : List Char} (hne : run ≠ [])
    (hdigits : ∀ c ∈ run, c.isDigit = true) : grouped? Char.isDigit run = some run := by
  fun_induction grouped? Char.isDigit run with
  | case1 => exact absurd rfl hne
  | case2 c => rfl
  | case3 c hc => exact absurd (hdigits c (by simp)) hc
  | case4 c rest =>
      have hunderscore := hdigits '_' (by simp)
      simp at hunderscore
  | case5 c rest =>
      have hunderscore := hdigits '_' (by simp)
      simp at hunderscore
  | case6 c rest hlong _ hc ih =>
      have hrest : rest ≠ [] := by
        rintro rfl
        exact hlong rfl
      rw [ih hrest fun d hd => hdigits d (List.mem_cons_of_mem c hd)]
      rfl
  | case7 c rest _ _ hc => exact absurd (hdigits c (by simp)) hc

theorem decimal?_toDigits (n : Nat) :
    decimal? (Nat.toDigits 10 n) = some (Nat.toDigits 10 n) := by
  unfold decimal?
  rw [grouped?_of_digits Nat.toDigits_ne_nil (Text.isDigit_of_mem_toDigits n)]
  split
  next c rest hzero =>
    exfalso
    have hrun : Nat.toDigits 10 n = '0' :: c :: rest := Option.some.inj hzero
    cases n with
    | zero =>
        rw [Nat.toDigits_zero] at hrun
        simp at hrun
    | succ n => exact Text.head?_toDigits_ne_zero n.succ_pos (by rw [hrun]; rfl)
  · rfl

theorem unbounded?_of_digits {run : List Char} (hdigits : ∀ c ∈ run, c.isDigit = true) :
    unbounded? run = inDecimal? run := by
  unfold unbounded?
  split
  case h_6 => rfl
  all_goals simp [Char.isDigit] at hdigits

/-- A number of 63 bits has its decimal digits as a text. -/
theorem integer?_toDigits {n : Nat} (h : n < 0x8000000000000000) :
    integer? (Nat.toDigits 10 n) = some (n : Int) := by
  have hread : unbounded? (Nat.toDigits 10 n) = some (n : Int) := by
    rw [unbounded?_of_digits (Text.isDigit_of_mem_toDigits n), inDecimal?, decimal?_toDigits]
    simp [Nat.ofDigitChars_ten_toDigits]
  have hrange : -0x8000000000000000 ≤ (n : Int) ∧ (n : Int) < 0x8000000000000000 := by
    omega
  simp [integer?, hread, hrange]

end Hypermedia.Toml.Number
