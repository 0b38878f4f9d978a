import Hypermedia.Proofs.Grammar
import Hypermedia.Trigger

/-!
Texts that break off. A fault ties the cause of an error to the text `used` in
front of its place and to the text `behind` from there on, as the grammar ties
a value to its text. The grammar of faults follows that of texts: in front of a
fault there is always the beginning of something that could have been finished.

Two things are shown of each fault. What the cause says can be seen at its
place, and some text in the place of `behind` makes the whole a text of the
grammar.
-/

namespace Hypermedia.Grammar

open ParseError (Cause)

/-- What can be seen in front of the place of an error and behind it. A selector
that is missing has no text, so its place says nothing, but if a relation asked
for it then that relation is in front. -/
def Evidence (before behind : List Char) : Cause → Prop
  | .unexpectedChar _ found => behind.head? = some found
  | .unexpectedEnd _ => behind = []
  | .invalidNumber value => value.toList <+: behind
  | .invalidModifier name => name.toList <+: behind
  | .invalidSelector value =>
      value = "" ∨ ∃ how : Trigger.Relation, value = how.keyword ∧
        ∃ gap, Blank gap ∧ how.keyword.toList ++ gap <:+ before
  | .invalidValue key value =>
      value.toList <+: behind ∧ key.toList ++ [':'] <:+ before

/-- Evidence looks no further back than it has to. -/
theorem Evidence.append {before behind : List Char} {cause : Cause}
    (h : Evidence before behind cause) (first : List Char) :
    Evidence (first ++ before) behind cause := by
  have hback : ∀ {text : List Char}, text <:+ before → text <:+ first ++ before :=
    fun htext => htext.trans (List.suffix_append first before)
  cases cause with
  | unexpectedChar expected found => exact h
  | unexpectedEnd expected => exact h
  | invalidNumber value => exact h
  | invalidModifier name => exact h
  | invalidSelector value =>
      rcases h with hempty | ⟨how, hvalue, gap, hblank, hsuffix⟩
      · exact .inl hempty
      · exact .inr ⟨how, hvalue, gap, hblank, hback hsuffix⟩
  | invalidValue key value => exact ⟨h.1, hback h.2⟩

/-- Something is due here, and something else stands here or nothing at all. -/
inductive MissingFault (expected : String) : Cause → List Char → List Char → Prop
  | char {found : Char} {more : List Char} :
      MissingFault expected (.unexpectedChar expected found) [] (found :: more)
  | ends : MissingFault expected (.unexpectedEnd expected) [] []

/-- A token whose quote is never closed. -/
inductive TokenFault : Cause → List Char → List Char → Prop
  | unclosed {quote : Char} {inner : List Char} (kind : isQuote quote = true)
      (absent : quote ∉ inner) :
      TokenFault (.unexpectedEnd ("closing " ++ String.singleton quote)) (quote :: inner) []

/-- A text that is not a duration. Its number alone is refused where it starts,
and so is the product, but a unit is refused behind its number. -/
inductive DurationFault : Cause → List Char → List Char → Prop
  | digitless {value rest : List Char} (absent : ∀ c ∈ (value ++ rest).head?, c.isDigit = false)
      (run : MaximalRun isBareChar value rest) :
      DurationFault (.invalidNumber (String.ofList value)) [] (value ++ rest)
  | number {digits rest : List Char} (nonempty : digits ≠ [])
      (run : MaximalRun Char.isDigit digits rest)
      (large : 0x10000000000000000 ≤ Nat.ofDigitChars 10 digits 0) :
      DurationFault (.invalidNumber (String.ofList digits)) [] (digits ++ rest)
  | unit {count : Duration} {digits more rest : List Char} {first : Char}
      (nonempty : digits ≠ []) (run : MaximalRun Char.isDigit digits (first :: more ++ rest))
      (small : count.millis = Nat.ofDigitChars 10 digits 0)
      (letters : MaximalRun Char.isAlpha (first :: more) rest)
      (unknown : ∀ factor, ¬ UnitText (first :: more) factor) :
      DurationFault
        (.unexpectedChar ("unit (" ++ ", ".intercalate Duration.attributeUnits ++ ")") first)
        digits (first :: more ++ rest)
  | product {digits unit rest : List Char} {factor : Nat} (nonempty : digits ≠ [])
      (run : MaximalRun Char.isDigit digits (unit ++ rest))
      (letters : MaximalRun Char.isAlpha unit rest) (known : UnitText unit factor)
      (large : 0x10000000000000000 ≤ Nat.ofDigitChars 10 digits 0 * factor) :
      DurationFault (.invalidNumber (String.ofList digits ++ String.ofList unit)) []
        (digits ++ (unit ++ rest))

variable {cause : Cause} {used behind : List Char}

/-- What is missing is missing from here on. -/
theorem MissingFault.used_eq_nil {expected : String}
    (h : MissingFault expected cause used behind) : used = [] := by
  cases h with
  | char => rfl
  | ends => rfl

theorem MissingFault.evidence {expected : String} (h : MissingFault expected cause used behind) :
    Evidence used behind cause := by
  cases h with
  | char => rfl
  | ends => rfl

theorem TokenFault.evidence (h : TokenFault cause used behind) : Evidence used behind cause := by
  cases h with
  | unclosed kind absent => rfl

theorem DurationFault.evidence (h : DurationFault cause used behind) :
    Evidence used behind cause := by
  cases h with
  | @digitless value rest absent run =>
      refine ⟨rest, ?_⟩
      rw [String.toList_ofList]
  | @number digits rest nonempty run large =>
      refine ⟨rest, ?_⟩
      rw [String.toList_ofList]
  | unit nonempty run small letters unknown => rfl
  | @product digits unit rest factor nonempty run letters known large =>
      refine ⟨rest, ?_⟩
      rw [String.toList_append, String.toList_ofList, String.toList_ofList, List.append_assoc]

/-- The quote can be closed, and the token need not be empty. -/
theorem TokenFault.completes (h : TokenFault cause used behind) :
    used ≠ [] ∧ ∃ tail text, text ≠ "" ∧ QuotedText text (used ++ tail) := by
  cases h with
  | @unclosed quote inner kind absent =>
      have hother : quote ≠ 'x' := by
        rintro rfl
        exact absurd kind (by decide)
      have hquoted : QuotedText (String.ofList (inner ++ ['x'])) _ :=
        .intro quote kind (by simp [absent, hother])
      refine ⟨List.cons_ne_nil _ _, ['x', quote], String.ofList (inner ++ ['x']), by simp, ?_⟩
      simpa using hquoted

/-- Where a number is refused another one can stand, and behind a number that
is not too large the unit can be left out. -/
theorem DurationFault.completes (h : DurationFault cause used behind) :
    ∃ tail time, DurationText time (used ++ tail) [] := by
  have hzero : DurationText .zero (['0'] ++ []) [] :=
    .intro (by decide) (by decide) (by decide) .none rfl
  cases h with
  | digitless absent run => exact ⟨['0'], .zero, hzero⟩
  | number nonempty run large => exact ⟨['0'], .zero, hzero⟩
  | @unit count digits more rest first nonempty run small letters unknown =>
      refine ⟨[], count, .intro nonempty ⟨run.all, by simp⟩ ⟨by simp, by simp⟩ .none ?_⟩
      rw [small, Nat.mul_one]
  | product nonempty run letters known large => exact ⟨['0'], .zero, hzero⟩

end Hypermedia.Grammar
