import Hypermedia.Proofs.Reader.Recognition

/-!
The reader of durations succeeds exactly on decimal numbers with an accepted
unit whose milliseconds stay below 2^64. The number alone is checked before the
unit is, but since no unit is shorter than a millisecond this check refuses
nothing that the check of the product would let through.
-/

namespace Hypermedia

namespace Duration

theorem millis_injective {first second : Duration} (h : first.millis = second.millis) :
    first = second := by
  cases first
  cases second
  cases h
  rfl

theorem ofMillis?_eq_some_iff {millis : Nat} {time : Duration} :
    ofMillis? millis = some time ↔ time.millis = millis := by
  constructor
  · intro h
    unfold ofMillis? at h
    split at h
    · cases h
      rfl
    · cases h
  · rintro rfl
    exact ofMillis?_millis time

theorem ofMillis?_of_lt {millis : Nat} (h : millis < 0x10000000000000000) :
    ofMillis? millis = some ⟨millis, h⟩ :=
  dif_pos h

/-- Whatever is not more than a duration is one. -/
theorem ofMillis?_of_le {millis : Nat} {time : Duration} (h : millis ≤ time.millis) :
    ∃ count, ofMillis? millis = some count ∧ count.millis = millis :=
  ⟨_, ofMillis?_of_lt (Nat.lt_of_le_of_lt h time.bounded), rfl⟩

end Duration

namespace Grammar

/-- A unit out of a list and its milliseconds. To give none means
milliseconds. -/
inductive ListedUnit (units : List String) : List Char → Nat → Prop
  | none : ListedUnit units [] 1
  | known {unit : String} {factor : Nat} (listed : unit ∈ units)
      (millis : Duration.unitMillis? unit = some factor) : ListedUnit units unit.toList factor

/-- A decimal number with a unit out of a list behind it. -/
inductive NumberText (units : List String) : Duration → List Char → List Char → Prop
  | intro {time : Duration} {digits unit rest : List Char} {factor : Nat}
      (nonempty : digits ≠ []) (number : MaximalRun Char.isDigit digits (unit ++ rest))
      (letters : MaximalRun Char.isAlpha unit rest) (listed : ListedUnit units unit factor)
      (value : time.millis = Nat.ofDigitChars 10 digits 0 * factor) :
      NumberText units time (digits ++ unit) rest

theorem ListedUnit.unitText {unit : List Char} {factor : Nat}
    (h : ListedUnit Duration.attributeUnits unit factor) : UnitText unit factor := by
  cases h with
  | none => exact .none
  | @known unit factor listed millis =>
      have hcases : unit = "ms" ∨ unit = "s" := by
        simpa [Duration.attributeUnits] using listed
      rcases hcases with rfl | rfl
      · cases millis
        exact .milliseconds
      · cases millis
        exact .seconds

/-- No unit is shorter than a millisecond. -/
theorem ListedUnit.one_le {units : List String} {unit : List Char} {factor : Nat}
    (h : ListedUnit units unit factor) : 1 ≤ factor := by
  cases h with
  | none => exact Nat.le_refl 1
  | known listed millis =>
      unfold Duration.unitMillis? at millis
      split at millis <;> cases millis <;> decide

theorem UnitText.listedUnit {unit : List Char} {factor : Nat} (h : UnitText unit factor) :
    ListedUnit Duration.attributeUnits unit factor := by
  have hmilliseconds : ListedUnit Duration.attributeUnits "ms".toList 1 :=
    .known (by decide) rfl
  have hseconds : ListedUnit Duration.attributeUnits "s".toList 1000 := .known (by decide) rfl
  cases h with
  | none => exact .none
  | milliseconds => exact hmilliseconds
  | seconds => exact hseconds

/-- Units are looked up by their names. -/
theorem listedUnit_of_accepted {units : List String} {unit : String} {factor : Nat}
    (h : (if unit ∈ units then Duration.unitMillis? unit else none) = some factor) :
    ListedUnit units unit.toList factor := by
  split at h
  · rename_i hlisted
    exact .known hlisted h
  · cases h

theorem accepted_of_listedUnit {units : List String} {unit : List Char} {factor : Nat}
    (h : ListedUnit units unit factor) (hne : unit ≠ []) :
    (if String.ofList unit ∈ units then Duration.unitMillis? (String.ofList unit) else none)
      = some factor := by
  cases h with
  | none => exact absurd rfl hne
  | known listed millis => rw [String.ofList_toList, if_pos listed, millis]

theorem ListedUnit.eq_one_of_nil {units : List String} {factor : Nat}
    (h : ListedUnit units [] factor) : factor = 1 := by
  generalize hunit : [] = unit at h
  cases h with
  | none => rfl
  | known listed millis =>
      rw [String.toList_eq_nil_iff.mp hunit.symm] at millis
      cases millis

theorem NumberText.durationText {time : Duration} {used rest : List Char}
    (h : NumberText Duration.attributeUnits time used rest) : DurationText time used rest := by
  cases h with
  | intro nonempty number letters listed value =>
      exact .intro nonempty number letters listed.unitText value

end Grammar

namespace Reader

open Grammar

/-- The second half of a duration: the unit behind a number, which stands for
`count` without one. -/
def scaledBy (units : List String) (start : Position) (digits : String) (count : Duration) :
    Reader Duration := do
  let behindDigits := (← get).position
  let unit ← run Char.isAlpha
  match unit.toList with
  | [] => pure count
  | first :: _ =>
      match if unit ∈ units then Duration.unitMillis? unit else none with
      | none =>
          throw ⟨behindDigits,
            .unexpectedChar ("unit (" ++ ", ".intercalate units ++ ")") first⟩
      | some factor =>
          match Duration.ofMillis? (count.millis * factor) with
          | none => throw ⟨start, .invalidNumber (digits ++ unit)⟩
          | some product => pure product

/-- A duration is digits, checked for their size, and the unit behind them. -/
theorem duration_run (units : List String) (c : Cursor) :
    duration units c =
      (if (String.ofList (c.run Char.isDigit)).isEmpty then do
        let value ← bareToken
        throw ⟨c.position, .invalidNumber value⟩
      else
        match Duration.ofMillis? (Nat.ofDigitChars 10 (c.run Char.isDigit) 0) with
        | none => throw ⟨c.position, .invalidNumber (String.ofList (c.run Char.isDigit))⟩
        | some count => scaledBy units c.position (String.ofList (c.run Char.isDigit)) count
        : Reader Duration) (c.pastRun Char.isDigit) := by
  unfold duration
  rw [get_bind, run_bind, String.toList_ofList]
  rfl

/-- Behind digits the size of the number is checked, and then comes the unit. -/
theorem duration_run_of_digits {units : List String} {c d : Cursor} {digits : List Char}
    (htakes : c.Takes digits d) (hnumber : MaximalRun Char.isDigit digits d.rest)
    (hne : digits ≠ []) :
    duration units c =
      match Duration.ofMillis? (Nat.ofDigitChars 10 digits 0) with
      | none => .error ⟨c.position, .invalidNumber (String.ofList digits)⟩ d
      | some count => scaledBy units c.position (String.ofList digits) count d := by
  have hempty : ¬ (String.ofList digits).isEmpty = true := by simpa using hne
  rw [duration_run, htakes.run_eq hnumber, htakes.pastRun_eq hnumber, if_neg hempty]
  cases Duration.ofMillis? (Nat.ofDigitChars 10 digits 0) <;> rfl

/-- Without digits the whole token is refused. -/
theorem duration_run_of_digitless {units : List String} {c d : Cursor} {value : List Char}
    (hdigitless : c.run Char.isDigit = []) (htakes : c.Takes value d)
    (hrun : MaximalRun isBareChar value d.rest) :
    duration units c = .error ⟨c.position, .invalidNumber (String.ofList value)⟩ d := by
  have hstay := c.takes_pastRun Char.isDigit
  rw [hdigitless] at hstay
  rw [duration_run, hdigitless, ← hstay.eq_of_nil, ← htakes.run_eq hrun, ← htakes.pastRun_eq hrun]
  rfl

/-- A unit that is accepted leaves the size of the product to be checked. -/
theorem scaledBy_run_of_listed {units : List String} {c d : Cursor} {unit : List Char}
    {factor : Nat} {count : Duration} (htakes : c.Takes unit d)
    (hletters : MaximalRun Char.isAlpha unit d.rest) (hlisted : ListedUnit units unit factor)
    (start : Position) (digits : String) :
    scaledBy units start digits count c =
      match Duration.ofMillis? (count.millis * factor) with
      | none => .error ⟨start, .invalidNumber (digits ++ String.ofList unit)⟩ d
      | some product => .ok product d := by
  unfold scaledBy
  rw [get_bind, run_bind, htakes.run_eq hletters, htakes.pastRun_eq hletters,
    String.toList_ofList]
  cases unit with
  | nil =>
      rw [hlisted.eq_one_of_nil, Nat.mul_one, Duration.ofMillis?_millis]
      rfl
  | cons first more =>
      simp only [accepted_of_listedUnit hlisted (List.cons_ne_nil first more)]
      cases Duration.ofMillis? (count.millis * factor) <;> rfl

/-- Letters that are no unit out of the list are refused where they start. -/
theorem scaledBy_run_of_unlisted {units : List String} {c d : Cursor} {unit : List Char}
    (htakes : c.Takes unit d) (hletters : MaximalRun Char.isAlpha unit d.rest)
    (hunlisted : ∀ factor, ¬ ListedUnit units unit factor) (start : Position) (digits : String)
    (count : Duration) :
    ∃ first more, unit = first :: more ∧
      scaledBy units start digits count c =
        .error ⟨c.position, .unexpectedChar ("unit (" ++ ", ".intercalate units ++ ")") first⟩
          d := by
  cases unit with
  | nil => exact absurd .none (hunlisted 1)
  | cons first more =>
      refine ⟨first, more, rfl, ?_⟩
      unfold scaledBy
      rw [get_bind, run_bind, htakes.run_eq hletters, htakes.pastRun_eq hletters,
        String.toList_ofList]
      cases haccepted : (if String.ofList (first :: more) ∈ units then
          Duration.unitMillis? (String.ofList (first :: more)) else none) with
      | none => rfl
      | some factor =>
          have hlisted := listedUnit_of_accepted haccepted
          rw [String.toList_ofList] at hlisted
          exact absurd hlisted (hunlisted factor)

theorem scaledBy_listed {units : List String} {c d : Cursor} {start : Position}
    {digits : String} {count time : Duration}
    (h : scaledBy units start digits count c = .ok time d) :
    ∃ unit factor, c.Takes unit d ∧ MaximalRun Char.isAlpha unit d.rest ∧
      ListedUnit units unit factor ∧ time.millis = count.millis * factor := by
  have htakes := c.takes_pastRun Char.isAlpha
  have hletters := c.maximalRun_run Char.isAlpha
  by_cases hlisted : ∃ factor, ListedUnit units (c.run Char.isAlpha) factor
  · obtain ⟨factor, hlisted⟩ := hlisted
    rw [scaledBy_run_of_listed htakes hletters hlisted] at h
    cases hproduct : Duration.ofMillis? (count.millis * factor) with
    | none =>
        rw [hproduct] at h
        cases h
    | some product =>
        rw [hproduct] at h
        cases h
        have hvalue := Duration.ofMillis?_eq_some_iff.mp hproduct
        exact ⟨_, factor, htakes, hletters, hlisted, hvalue⟩
  · obtain ⟨first, more, -, hrun⟩ :=
      scaledBy_run_of_unlisted htakes hletters (not_exists.mp hlisted) start digits count
    rw [hrun] at h
    cases h

/-- Whichever units are accepted, what is read is a number with one of them. -/
theorem duration_listed {units : List String} {c d : Cursor} {time : Duration}
    (h : duration units c = .ok time d) :
    ∃ used, c.Takes used d ∧ NumberText units time used d.rest := by
  have hdigits := c.takes_pastRun Char.isDigit
  have hnumber := c.maximalRun_run Char.isDigit
  by_cases hne : c.run Char.isDigit = []
  · rw [duration_run_of_digitless hne (c.takes_pastRun isBareChar)
      (c.maximalRun_run isBareChar)] at h
    cases h
  · rw [duration_run_of_digits hdigits hnumber hne] at h
    cases hcount : Duration.ofMillis? (Nat.ofDigitChars 10 (c.run Char.isDigit) 0) with
    | none =>
        rw [hcount] at h
        cases h
    | some count =>
        rw [hcount] at h
        obtain ⟨unit, factor, hunit, hletters, hlisted, hvalue⟩ := scaledBy_listed h
        rw [Duration.ofMillis?_eq_some_iff.mp hcount] at hvalue
        rw [hunit.rest_eq] at hnumber
        exact ⟨_, hdigits.trans hunit, .intro hne hnumber hletters hlisted hvalue⟩

theorem duration_complete {c d : Cursor} {used : List Char} {time : Duration}
    (htakes : c.Takes used d) (htext : DurationText time used d.rest) :
    duration Duration.attributeUnits c = .ok time d := by
  cases htext with
  | @intro digits unit _ factor hne hnumber hletters hknown hvalue =>
      obtain ⟨here, hdigits, hunit⟩ := htakes.split
      rw [← hunit.rest_eq] at hnumber
      have hle : Nat.ofDigitChars 10 digits 0 ≤ time.millis := by
        rw [hvalue]
        exact Nat.le_mul_of_pos_right _ hknown.listedUnit.one_le
      obtain ⟨count, hcount, hmillis⟩ := Duration.ofMillis?_of_le hle
      rw [← hmillis] at hvalue
      rw [duration_run_of_digits hdigits hnumber hne, hcount]
      dsimp only
      rw [scaledBy_run_of_listed hunit hletters hknown.listedUnit,
        Duration.ofMillis?_eq_some_iff.mpr hvalue]

theorem duration_eq_ok_iff {c d : Cursor} {time : Duration} :
    duration Duration.attributeUnits c = .ok time d ↔
      ∃ used, c.Takes used d ∧ DurationText time used d.rest := by
  constructor
  · intro h
    obtain ⟨used, htakes, htext⟩ := duration_listed h
    exact ⟨used, htakes, htext.durationText⟩
  · rintro ⟨used, htakes, htext⟩
    exact duration_complete htakes htext

end Reader

namespace Grammar

/-- A text starts with one duration at most, since the reader takes one. -/
theorem DurationText.unique {time other : Duration} {used used' rest rest' : List Char}
    (h : DurationText time used rest) (h' : DurationText other used' rest')
    (htext : used ++ rest = used' ++ rest') : time = other ∧ rest = rest' := by
  have htakes : Cursor.Takes ⟨.start, used ++ rest⟩ used ⟨Position.start.after used, rest⟩ :=
    ⟨rfl, rfl⟩
  have htakes' : Cursor.Takes ⟨.start, used ++ rest⟩ used' ⟨Position.start.after used', rest'⟩ :=
    ⟨htext, rfl⟩
  have hread := Reader.duration_complete htakes h
  rw [Reader.duration_complete htakes' h'] at hread
  obtain ⟨htime, hstop⟩ := EStateM.Result.ok.inj hread
  exact ⟨htime.symm, congrArg Cursor.rest hstop.symm⟩

end Grammar

end Hypermedia
