import Hypermedia.Proofs.Reader.Fault

/-!
Durations are exact. Digits are taken as far as they go, and so are the letters
behind them, so what is written is a number without any bound and a unit. It is
read as the product of the two, or refused: nothing wraps around and nothing is
cut off. The number is checked before the unit and the product after it, and
the first of these checks that fails decides which error there is.
-/

namespace Hypermedia

open Grammar

namespace Grammar

/-- An accepted unit and its length in milliseconds. Without a unit there are
milliseconds, whatever is accepted. -/
inductive UnitLength (units : List String) : List Char → Nat → Prop
  | none : UnitLength units [] 1
  | milliseconds (listed : "ms" ∈ units) : UnitLength units "ms".toList 1
  | seconds (listed : "s" ∈ units) : UnitLength units "s".toList 1000
  | minutes (listed : "m" ∈ units) : UnitLength units "m".toList 60000

variable {units : List String} {unit : List Char} {factor : Nat}

/-- The table of units has these three entries and no other. -/
theorem listedUnit_iff_unitLength :
    ListedUnit units unit factor ↔ UnitLength units unit factor := by
  constructor
  · intro h
    cases h with
    | none => exact .none
    | @known name _ listed millis =>
        unfold Duration.unitMillis? at millis
        split at millis
        · cases millis
          exact .milliseconds listed
        · cases millis
          exact .seconds listed
        · cases millis
          exact .minutes listed
        · cases millis
  · intro h
    cases h with
    | none => exact .none
    | milliseconds listed => exact .known listed rfl
    | seconds listed => exact .known listed rfl
    | minutes listed => exact .known listed rfl

end Grammar

namespace Cursor

/-- All digits from a cursor on, and all letters behind them. -/
structure Amount (c : Cursor) (digits unit : List Char) (behind stop : Cursor) : Prop where
  takes_digits : c.Takes digits behind
  number : MaximalRun Char.isDigit digits behind.rest
  takes_unit : behind.Takes unit stop
  letters : MaximalRun Char.isAlpha unit stop.rest

theorem exists_amount (c : Cursor) :
    ∃ digits unit behind stop, c.Amount digits unit behind stop :=
  ⟨_, _, _, _, c.takes_pastRun Char.isDigit, c.maximalRun_run Char.isDigit,
    (c.pastRun Char.isDigit).takes_pastRun Char.isAlpha,
    (c.pastRun Char.isDigit).maximalRun_run Char.isAlpha⟩

namespace Amount

open Reader

variable {c behind stop : Cursor} {digits unit : List Char} {units : List String} {factor : Nat}

theorem duration_of_digitless (h : c.Amount [] unit behind stop) (units : List String) :
    ∃ value d, c.Takes value d ∧ MaximalRun isBareChar value d.rest ∧
      duration units c = .error ⟨c.position, .invalidNumber (String.ofList value)⟩ d := by
  have htakes := c.takes_pastRun isBareChar
  have hrun := c.maximalRun_run isBareChar
  have hdigitless : c.run Char.isDigit = [] := h.takes_digits.run_eq h.number
  exact ⟨_, _, htakes, hrun, duration_run_of_digitless hdigitless htakes hrun⟩

theorem duration_of_large_number (h : c.Amount digits unit behind stop) (hne : digits ≠ [])
    (hlarge : 0x10000000000000000 ≤ Nat.ofDigitChars 10 digits 0) (units : List String) :
    duration units c = .error ⟨c.position, .invalidNumber (String.ofList digits)⟩ behind := by
  rw [duration_run_of_digits h.takes_digits h.number hne,
    Duration.ofMillis?_eq_none_iff.mpr hlarge]

/-- What is behind a number that is not too large. -/
theorem duration_of_small_number (h : c.Amount digits unit behind stop) (hne : digits ≠ [])
    (hsmall : Nat.ofDigitChars 10 digits 0 < 0x10000000000000000) :
    duration units c =
      scaledBy units c.position (String.ofList digits) ⟨_, hsmall⟩ behind := by
  rw [duration_run_of_digits h.takes_digits h.number hne,
    Duration.ofMillis?_of_lt hsmall]

theorem duration_of_unlisted (h : c.Amount digits unit behind stop) (hne : digits ≠ [])
    (hsmall : Nat.ofDigitChars 10 digits 0 < 0x10000000000000000)
    (hunlisted : ∀ factor, ¬ UnitLength units unit factor) :
    ∃ first more, unit = first :: more ∧ duration units c =
      .error ⟨behind.position,
        .unexpectedChar ("unit (" ++ ", ".intercalate units ++ ")") first⟩ stop := by
  rw [h.duration_of_small_number hne hsmall]
  exact scaledBy_run_of_unlisted h.takes_unit h.letters
    (fun factor hlisted => hunlisted factor (listedUnit_iff_unitLength.mp hlisted)) _ _ _

theorem duration_of_large_product (h : c.Amount digits unit behind stop) (hne : digits ≠ [])
    (hsmall : Nat.ofDigitChars 10 digits 0 < 0x10000000000000000)
    (hlength : UnitLength units unit factor)
    (hlarge : 0x10000000000000000 ≤ Nat.ofDigitChars 10 digits 0 * factor) :
    duration units c =
      .error ⟨c.position, .invalidNumber (String.ofList (digits ++ unit))⟩ stop := by
  have hlisted := listedUnit_iff_unitLength.mpr hlength
  rw [h.duration_of_small_number hne hsmall,
    scaledBy_run_of_listed h.takes_unit h.letters hlisted,
    Duration.ofMillis?_eq_none_iff.mpr hlarge, String.ofList_append]

theorem duration_of_product (h : c.Amount digits unit behind stop) (hne : digits ≠ [])
    (hlength : UnitLength units unit factor)
    (hproduct : Nat.ofDigitChars 10 digits 0 * factor < 0x10000000000000000) :
    duration units c = .ok ⟨_, hproduct⟩ stop := by
  have hlisted := listedUnit_iff_unitLength.mpr hlength
  have hsmall : Nat.ofDigitChars 10 digits 0 < 0x10000000000000000 :=
    Nat.lt_of_le_of_lt (Nat.le_mul_of_pos_right _ hlisted.one_le) hproduct
  rw [h.duration_of_small_number hne hsmall,
    scaledBy_run_of_listed h.takes_unit h.letters hlisted,
    Duration.ofMillis?_of_lt hproduct]

/-- A duration is read exactly if none of the checks fails, and it is the
product. -/
theorem duration_eq_ok_iff (h : c.Amount digits unit behind stop) {time : Duration} {d : Cursor} :
    duration units c = .ok time d ↔
      d = stop ∧ digits ≠ [] ∧ ∃ factor, UnitLength units unit factor ∧
        Nat.ofDigitChars 10 digits 0 * factor < 0x10000000000000000 ∧
        time.millis = Nat.ofDigitChars 10 digits 0 * factor := by
  constructor
  · intro hread
    have hne : digits ≠ [] := by
      rintro rfl
      obtain ⟨value, e, -, -, hrun⟩ := h.duration_of_digitless units
      exact nomatch hread.symm.trans hrun
    have hsmall : Nat.ofDigitChars 10 digits 0 < 0x10000000000000000 := by
      refine Nat.lt_of_not_le fun hlarge => ?_
      exact nomatch hread.symm.trans (h.duration_of_large_number hne hlarge units)
    obtain ⟨factor, hlength⟩ : ∃ factor, UnitLength units unit factor := by
      refine Classical.byContradiction fun hunlisted => ?_
      obtain ⟨first, more, -, hrun⟩ :=
        h.duration_of_unlisted hne hsmall (not_exists.mp hunlisted)
      exact nomatch hread.symm.trans hrun
    have hproduct : Nat.ofDigitChars 10 digits 0 * factor < 0x10000000000000000 := by
      refine Nat.lt_of_not_le fun hlarge => ?_
      exact nomatch hread.symm.trans (h.duration_of_large_product hne hsmall hlength hlarge)
    rw [h.duration_of_product hne hlength hproduct] at hread
    cases hread
    exact ⟨rfl, hne, factor, hlength, hproduct, rfl⟩
  · rintro ⟨rfl, hne, factor, hlength, hproduct, hvalue⟩
    have htime : time = ⟨_, hproduct⟩ := Duration.millis_injective hvalue
    rw [h.duration_of_product hne hlength hproduct, htime]

end Amount

end Cursor

namespace Reader

/-- The outcome of a duration at any cursor and for any list of units, told from
the digits there and the letters behind them. Their product is read with all of
both used up, if there are digits, the unit is accepted and the product is below
2^64. Without digits the token is refused; a number that is too large by itself
is refused whatever follows it; behind any other number the unit is refused if
it is not accepted, and with an accepted unit the product if it is too large. -/
theorem duration_outcome (units : List String) (c : Cursor) :
    ∃ digits unit behind stop, c.Amount digits unit behind stop ∧
      (∀ time d, duration units c = .ok time d ↔
        d = stop ∧ digits ≠ [] ∧ ∃ factor, UnitLength units unit factor ∧
          Nat.ofDigitChars 10 digits 0 * factor < 0x10000000000000000 ∧
          time.millis = Nat.ofDigitChars 10 digits 0 * factor) ∧
      (digits = [] → ∃ value d, c.Takes value d ∧ MaximalRun isBareChar value d.rest ∧
        duration units c = .error ⟨c.position, .invalidNumber (String.ofList value)⟩ d) ∧
      (digits ≠ [] → 0x10000000000000000 ≤ Nat.ofDigitChars 10 digits 0 →
        duration units c =
          .error ⟨c.position, .invalidNumber (String.ofList digits)⟩ behind) ∧
      (digits ≠ [] → Nat.ofDigitChars 10 digits 0 < 0x10000000000000000 →
        (∀ factor, ¬ UnitLength units unit factor) →
        ∃ first more, unit = first :: more ∧ duration units c =
          .error ⟨behind.position,
            .unexpectedChar ("unit (" ++ ", ".intercalate units ++ ")") first⟩ stop) ∧
      ∀ factor, digits ≠ [] → Nat.ofDigitChars 10 digits 0 < 0x10000000000000000 →
        UnitLength units unit factor →
        0x10000000000000000 ≤ Nat.ofDigitChars 10 digits 0 * factor →
        duration units c =
          .error ⟨c.position, .invalidNumber (String.ofList (digits ++ unit))⟩ stop := by
  obtain ⟨digits, unit, behind, stop, hamount⟩ := c.exists_amount
  refine ⟨digits, unit, behind, stop, hamount, fun _ _ => hamount.duration_eq_ok_iff, ?_,
    fun hne hlarge => hamount.duration_of_large_number hne hlarge units,
    hamount.duration_of_unlisted, fun _ => hamount.duration_of_large_product⟩
  rintro rfl
  exact hamount.duration_of_digitless units

end Reader

end Hypermedia
