import Hypermedia.Proofs.Fault
import Hypermedia.Proofs.Reader.Duration

/-!
Where the shared readers fail. An error is told by a fault of the grammar and
the cursor from which the text in front of the fault is counted. Some errors
are reported at a place that the reader has already left, so it is the place
of the error that the fault is about and not the cursor at the end.
-/

namespace Hypermedia

open Grammar Reader
open ParseError (Cause)

namespace Cursor

variable {c d : Cursor} {e : ParseError} {F G : Cause → List Char → List Char → Prop}

/-- From this cursor on there is such a fault, and the error reports it. -/
def Faults (F : Cause → List Char → List Char → Prop) (c : Cursor) (e : ParseError) : Prop :=
  ∃ used here, c.Takes used here ∧ e.position = here.position ∧ F e.cause used here.rest

/-- An error that is reported where the reader starts. -/
theorem faults_here {cause : Cause} (h : F cause [] c.rest) : Faults F c ⟨c.position, cause⟩ :=
  ⟨[], c, c.takes_nil, rfl, h⟩

theorem Takes.faults_behind {cause : Cause} {used : List Char} (h : c.Takes used d)
    (hfault : F cause used d.rest) : Faults F c ⟨d.position, cause⟩ :=
  ⟨used, d, h, rfl, hfault⟩

/-- Text in front of a fault makes it another fault, which may depend on all of
the text that follows. -/
theorem Takes.faults {first : List Char} (h : c.Takes first d) (hfaults : Faults F d e)
    (hfault : ∀ used behind, d.rest = used ++ behind → F e.cause used behind →
      G e.cause (first ++ used) behind) : Faults G c e := by
  obtain ⟨used, here, htakes, hplace, hF⟩ := hfaults
  exact ⟨first ++ used, here, h.trans htakes, hplace, hfault used here.rest htakes.rest_eq hF⟩

theorem Faults.imp (h : Faults F c e)
    (hfault : ∀ used behind, c.rest = used ++ behind → F e.cause used behind →
      G e.cause used behind) : Faults G c e :=
  c.takes_nil.faults h hfault

theorem missing_faults (c : Cursor) (expected : String) :
    Faults (MissingFault expected) c (c.missing expected) := by
  obtain ⟨place, rest⟩ := c
  cases rest with
  | nil => exact faults_here .ends
  | cons found more => exact faults_here .char

/-- A run of characters starts with nothing that ends it. -/
theorem head?_of_run_nil {p : Char → Bool} (h : c.run p = []) :
    ∀ x ∈ c.rest.head?, p x = false := by
  have htakes := c.takes_pastRun p
  rw [h] at htakes
  have hends := (c.maximalRun_run p).ends
  rwa [← htakes.eq_of_nil] at hends

end Cursor

namespace Reader

open Cursor

variable {α β : Type} {c d : Cursor} {e : ParseError}

/-- Either the first part fails, or it succeeds and the second part fails. -/
theorem error_of_bind {r : Reader α} {next : α → Reader β}
    (h : (r >>= next) c = .error e d) :
    (∃ here, r c = .error e here) ∨ ∃ a here, r c = .ok a here ∧ next a here = .error e d := by
  rw [bind_run] at h
  cases hr : r c with
  | ok a here =>
      rw [hr] at h
      exact .inr ⟨a, here, rfl, h⟩
  | error f here =>
      rw [hr] at h
      cases h
      exact .inl ⟨d, rfl⟩

/-- A run takes what there is. -/
theorem run_ne_error {p : Char → Bool} : run p c ≠ .error e d :=
  nofun

/-- That a literal is not there is an answer. -/
theorem literal?_ne_error {text : String} : literal? text c ≠ .error e d := by
  rw [literal?_run]
  split <;> nofun

/-- A span fails where the text ends, and its closing character is nowhere
before. -/
theorem closedBy_error {closing : Char} {expected : String}
    (h : closedBy closing expected c = .error e d) :
    c.Takes c.rest d ∧ d.rest = [] ∧ closing ∉ c.rest ∧
      e = ⟨d.position, .unexpectedEnd expected⟩ := by
  rw [closedBy_run] at h
  split at h
  · rename_i hend
    cases h
    have htakes := c.takes_pastRun (· != closing)
    have hrun := c.maximalRun_run (· != closing)
    have hrest : (c.pastRun (· != closing)).rest = [] := List.isEmpty_iff.mp hend
    have hall : c.rest = c.run (· != closing) := by
      rw [htakes.rest_eq, hrest, List.append_nil]
    refine ⟨?_, hrest, fun hmem => ?_, ?_⟩
    · rw [hall]
      exact htakes
    · rw [hall] at hmem
      simpa using hrun.all closing hmem
    · unfold missing
      rw [hrest]
  · cases h

/-- A token fails with a quote that is not closed, and leaves nothing. -/
theorem token_unclosed (h : token c = .error e d) :
    ∃ quote inner, isQuote quote = true ∧ quote ∉ inner ∧ c.Takes (quote :: inner) d ∧
      d.rest = [] ∧ e = ⟨d.position, .unexpectedEnd ("closing " ++ String.singleton quote)⟩ := by
  cases hat : c.isAt isQuote with
  | false =>
      rw [token_run_of_bare hat] at h
      exact absurd h run_ne_error
  | true =>
      obtain ⟨place, rest⟩ := c
      cases rest with
      | nil => cases hat
      | cons quote inner =>
          have hquote : isQuote quote = true := hat
          rw [token_run_of_quote rfl hquote] at h
          obtain ⟨htakes, hrest, habsent, he⟩ := closedBy_error h
          have hfirst := takes_cons place quote inner
          exact ⟨quote, inner, hquote, habsent, hfirst.trans htakes, hrest, he⟩

theorem token_error (h : token c = .error e d) : c.Faults TokenFault e := by
  obtain ⟨quote, inner, hquote, habsent, htakes, hrest, rfl⟩ := token_unclosed h
  apply htakes.faults_behind
  rw [hrest]
  exact .unclosed hquote habsent

end Reader

namespace Duration

theorem ofMillis?_eq_none_iff {millis : Nat} :
    ofMillis? millis = none ↔ 0x10000000000000000 ≤ millis := by
  unfold ofMillis?
  rw [dite_eq_right_iff]
  simp

end Duration

namespace Reader

variable {c d : Cursor} {e : ParseError}

/-- Behind a number either the unit is refused or the product, the one where it
stands and the other where the number starts. -/
theorem scaledBy_error {start : Position} {digits : String} {count : Duration}
    (h : scaledBy Duration.attributeUnits start digits count c = .error e d) :
    ∃ unit, c.Takes unit d ∧ MaximalRun Char.isAlpha unit d.rest ∧
      ((∃ first more, unit = first :: more ∧ (∀ factor, ¬ UnitText unit factor) ∧
          e = ⟨c.position, .unexpectedChar
            ("unit (" ++ ", ".intercalate Duration.attributeUnits ++ ")") first⟩) ∨
        ∃ factor, UnitText unit factor ∧ 0x10000000000000000 ≤ count.millis * factor ∧
          e = ⟨start, .invalidNumber (digits ++ String.ofList unit)⟩) := by
  have htakes := c.takes_pastRun Char.isAlpha
  have hletters := c.maximalRun_run Char.isAlpha
  by_cases hlisted : ∃ factor, ListedUnit Duration.attributeUnits (c.run Char.isAlpha) factor
  · obtain ⟨factor, hlisted⟩ := hlisted
    rw [scaledBy_run_of_listed htakes hletters hlisted] at h
    cases hproduct : Duration.ofMillis? (count.millis * factor) with
    | some product =>
        rw [hproduct] at h
        cases h
    | none =>
        rw [hproduct] at h
        cases h
        have hlarge := Duration.ofMillis?_eq_none_iff.mp hproduct
        exact ⟨_, htakes, hletters, .inr ⟨factor, hlisted.unitText, hlarge, rfl⟩⟩
  · have hunlisted := not_exists.mp hlisted
    obtain ⟨first, more, hunit, hrun⟩ :=
      scaledBy_run_of_unlisted htakes hletters hunlisted start digits count
    rw [hrun] at h
    cases h
    have hunknown : ∀ factor, ¬ UnitText (c.run Char.isAlpha) factor :=
      fun factor hknown => hunlisted factor hknown.listedUnit
    exact ⟨_, htakes, hletters, .inl ⟨first, more, hunit, hunknown, rfl⟩⟩

theorem duration_error (h : duration Duration.attributeUnits c = .error e d) :
    c.Faults DurationFault e := by
  have hdigits := c.takes_pastRun Char.isDigit
  have hnumber := c.maximalRun_run Char.isDigit
  by_cases hne : c.run Char.isDigit = []
  · have htakes := c.takes_pastRun isBareChar
    have hrun := c.maximalRun_run isBareChar
    have habsent := Cursor.head?_of_run_nil hne
    rw [duration_run_of_digitless hne htakes hrun] at h
    cases h
    apply Cursor.faults_here
    rw [htakes.rest_eq] at habsent ⊢
    exact .digitless habsent hrun
  · rw [duration_run_of_digits hdigits hnumber hne] at h
    cases hcount : Duration.ofMillis? (Nat.ofDigitChars 10 (c.run Char.isDigit) 0) with
    | none =>
        rw [hcount] at h
        cases h
        have hlarge := Duration.ofMillis?_eq_none_iff.mp hcount
        apply Cursor.faults_here
        rw [hdigits.rest_eq]
        exact .number hne hnumber hlarge
    | some count =>
        rw [hcount] at h
        have hsmall := Duration.ofMillis?_eq_some_iff.mp hcount
        obtain ⟨unit, hunit, hletters, hrefused⟩ := scaledBy_error h
        rw [hunit.rest_eq] at hnumber
        rcases hrefused with ⟨first, more, rfl, hunknown, rfl⟩ | ⟨factor, hknown, hlarge, rfl⟩
        · apply hdigits.faults_behind
          rw [hunit.rest_eq]
          exact .unit hne hnumber hsmall hletters hunknown
        · apply Cursor.faults_here
          rw [hsmall] at hlarge
          rw [hdigits.rest_eq, hunit.rest_eq]
          exact .product hne hnumber hletters hknown hlarge

end Reader

end Hypermedia
