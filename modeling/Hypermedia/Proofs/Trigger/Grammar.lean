import Hypermedia.Proofs.Grammar
import Hypermedia.Trigger

/-!
The grammar of triggers. White space is allowed wherever a relation here holds
a `gap`, and nowhere else. It is only needed where two runs would otherwise
become one: a filter may touch what stands on either side of it.

The grammar is closed under nothing but its own rules, so what a trigger cannot
say can be read off it. That is how the values are found that have a text.
-/

namespace Hypermedia.Grammar

open Trigger

/-- A selector. The words for elements and relations mean themselves only where
no quotes are set, and a relation needs a token behind it. -/
inductive SelectorText : Selector → List Char → List Char → Prop
  | quoted {text : String} {used rest : List Char} (token : QuotedText text used)
      (nonempty : text ≠ "") : SelectorText (.css text) used rest
  | scope {named : Scope} {rest : List Char}
      (word : MaximalRun isBareChar named.keyword.toList rest) :
      SelectorText (.scope named) named.keyword.toList rest
  | relative {how : Relation} {text : String} {gap used rest : List Char}
      (word : MaximalRun isBareChar how.keyword.toList (gap ++ (used ++ rest)))
      (blank : Blank gap) (token : TokenText text used rest) (nonempty : text ≠ "") :
      SelectorText (.relative how text) (how.keyword.toList ++ (gap ++ used)) rest
  | css {text : String} {rest : List Char} (run : MaximalRun isBareChar text.toList rest)
      (nonempty : text ≠ "") (unquoted : ∀ c ∈ text.toList.head?, isQuote c = false)
      (free : text ∉ Selector.reserved) : SelectorText (.css text) text.toList rest

/-- A modifier other than an interval. A key is a whole run of name characters,
since the colon behind it is not one. -/
inductive ModifierText : Modifier → List Char → List Char → Prop
  | filter {condition : String} {rest : List Char} (absent : ']' ∉ condition.toList) :
      ModifierText (.filter condition) ('[' :: (condition.toList ++ [']'])) rest
  | flag {word : Flag} {rest : List Char} (run : MaximalRun isNameChar word.keyword.toList rest)
      (alone : rest.head? ≠ some ':') : ModifierText (.flag word) word.keyword.toList rest
  | pace {kind : Pace} {time : Duration} {used rest : List Char}
      (value : DurationText time used rest) :
      ModifierText (.pace kind time) (kind.keyword.toList ++ (':' :: used)) rest
  | element {role : Role} {selector : Selector} {used rest : List Char}
      (value : SelectorText selector used rest) :
      ModifierText (.element role selector) (role.keyword.toList ++ (':' :: used)) rest
  | queue {mode : QueueMode} {rest : List Char}
      (value : MaximalRun isBareChar mode.keyword.toList rest) :
      ModifierText (.queue mode) ("queue".toList ++ (':' :: mode.keyword.toList)) rest

/-- The modifiers of a clause, and white space at its end. -/
inductive ModifiersText : List Modifier → List Char → List Char → Prop
  | nil {gap rest : List Char} (blank : Blank gap) : ModifiersText [] gap rest
  | cons {modifier : Modifier} {others : List Modifier} {gap used more rest : List Char}
      (blank : Blank gap) (first : ModifierText modifier used (more ++ rest))
      (next : ModifiersText others more rest) :
      ModifiersText (modifier :: others) (gap ++ (used ++ more)) rest

/-- The event `every` has an interval if a digit is the first thing behind it
that is not white space. -/
def Polls (event : String) (behind : List Char) : Prop :=
  event = "every" ∧
    ∃ gap first more, behind = gap ++ first :: more ∧ Blank gap ∧ first.isDigit = true

/-- A clause. An interval is its first modifier. -/
inductive ClauseText : Clause → List Char → List Char → Prop
  | event {event : String} {modifiers : List Modifier} {gap used rest : List Char}
      (blank : Blank gap) (nonempty : event ≠ "")
      (name : MaximalRun isNameChar event.toList (used ++ rest))
      (waits : ¬ Polls event (used ++ rest)) (others : ModifiersText modifiers used rest) :
      ClauseText ⟨event, modifiers⟩ (gap ++ (event.toList ++ used)) rest
  | polling {interval : Duration} {modifiers : List Modifier}
      {gap pause time used rest : List Char} (blank : Blank gap)
      (name : MaximalRun isNameChar "every".toList (pause ++ (time ++ (used ++ rest))))
      (pausing : Blank pause) (value : DurationText interval time (used ++ rest))
      (others : ModifiersText modifiers used rest) :
      ClauseText ⟨"every", .every interval :: modifiers⟩
        (gap ++ ("every".toList ++ (pause ++ (time ++ used)))) rest

/-- A trigger: clauses with commas between them. There is at least one. -/
inductive TriggerText : List Clause → List Char → Prop
  | one {clause : Clause} {text : List Char} (last : ClauseText clause text []) :
      TriggerText [clause] text
  | more {clause : Clause} {clauses : List Clause} {used text : List Char}
      (first : ClauseText clause used (',' :: text)) (others : TriggerText clauses text) :
      TriggerText (clause :: clauses) (used ++ ',' :: text)

theorem word_scope (named : Scope) : Word named.keyword := by
  cases named <;> decide

theorem word_relation (how : Relation) : Word how.keyword := by
  cases how <;> decide

theorem word_flag (flag : Flag) : Word flag.keyword := by
  cases flag <;> decide

theorem word_pace (kind : Pace) : Word kind.keyword := by
  cases kind <;> decide

theorem word_role (role : Role) : Word role.keyword := by
  cases role <;> decide

theorem word_queueMode (mode : QueueMode) : Word mode.keyword := by
  cases mode <;> decide

/-- The first character of a modifier is a bracket or part of a name, so white
space before it ends there and no clause does. -/
theorem ModifierText.head {modifier : Modifier} {used rest : List Char}
    (h : ModifierText modifier used rest) :
    ∃ c more, used = c :: more ∧ (c = '[' ∨ isNameChar c = true ∧ c.isDigit = false) := by
  cases h with
  | filter absent => exact ⟨_, _, rfl, .inl rfl⟩
  | @flag word rest run alone => cases word <;> exact ⟨_, _, rfl, .inr (by decide)⟩
  | @pace kind time used rest value => cases kind <;> exact ⟨_, _, rfl, .inr (by decide)⟩
  | @element role selector used rest value => cases role <;> exact ⟨_, _, rfl, .inr (by decide)⟩
  | @queue mode rest value => exact ⟨_, _, rfl, .inr (by decide)⟩

/-- An event does not poll if the first thing behind it is known and no
digit. -/
theorem not_polls_of_gap {event : String} {gap behind : List Char} (hgap : Blank gap)
    (h : ∀ c ∈ behind.head?, Text.isBlank c = false ∧ c.isDigit = false) :
    ¬ Polls event (gap ++ behind) := by
  rintro ⟨-, other, first, more, heq, hother, hdigit⟩
  have hnot : Text.isBlank first = false :=
    not_isBlank_of_isNameChar (isNameChar_of_isDigit hdigit)
  have hrun : MaximalRun Text.isBlank gap behind := ⟨hgap, fun c hc => (h c hc).1⟩
  have hrun' : MaximalRun Text.isBlank other (first :: more) := by
    refine ⟨hother, fun c hc => ?_⟩
    cases hc
    exact hnot
  have hbehind : behind = first :: more := by
    rw [← hrun.dropWhile_eq, heq, hrun'.dropWhile_eq]
  have hfirst := (h first (by rw [hbehind]; rfl)).2
  rw [hfirst] at hdigit
  cases hdigit

/-- No modifier starts with a digit, so modifiers are not taken for an interval. -/
theorem not_polls_of_modifiersText {modifiers : List Modifier} {used rest : List Char}
    (h : ModifiersText modifiers used rest) (hrest : ClauseEnd rest) (event : String) :
    ¬ Polls event (used ++ rest) := by
  cases h with
  | nil hblank =>
      apply not_polls_of_gap hblank
      intro c hc
      rw [hrest c hc]
      decide
  | cons hblank hfirst hnext =>
      obtain ⟨c, more, rfl, hc⟩ := hfirst.head
      rw [List.append_assoc]
      apply not_polls_of_gap hblank
      intro x hx
      cases hx
      rcases hc with rfl | ⟨hname, hdigit⟩
      · decide
      · exact ⟨not_isBlank_of_isNameChar hname, hdigit⟩

/-!
The text behind a clause, or behind a part of one, matters by its first
character alone, and so does the end of the text. What is there may be replaced
by a text that starts like it.
-/

theorem SelectorText.startsLike {selector : Selector} {used rest' rest : List Char}
    (h : SelectorText selector used rest) (hlike : StartsLike rest' rest) :
    SelectorText selector used rest' := by
  cases h with
  | quoted token nonempty => exact .quoted token nonempty
  | scope word => exact .scope (word.startsLike hlike)
  | relative word blank token nonempty =>
      have hword := word.startsLike ((hlike.append _).append _)
      exact .relative hword blank (token.startsLike hlike) nonempty
  | css run nonempty unquoted free => exact .css (run.startsLike hlike) nonempty unquoted free

theorem ModifierText.startsLike {modifier : Modifier} {used rest' rest : List Char}
    (h : ModifierText modifier used rest) (hlike : StartsLike rest' rest) :
    ModifierText modifier used rest' := by
  cases h with
  | filter absent => exact .filter absent
  | flag run alone => exact .flag (run.startsLike hlike) fun hcolon => alone (hlike ':' hcolon)
  | pace value => exact .pace (value.startsLike hlike)
  | element value => exact .element (value.startsLike hlike)
  | queue value => exact .queue (value.startsLike hlike)

theorem ModifiersText.startsLike {modifiers : List Modifier} {used rest' rest : List Char}
    (h : ModifiersText modifiers used rest) (hlike : StartsLike rest' rest) :
    ModifiersText modifiers used rest' := by
  induction h with
  | nil blank => exact .nil blank
  | cons blank first next ih => exact .cons blank (first.startsLike (hlike.append _)) (ih hlike)

/-- Whether a clause polls is decided in front of its end. -/
theorem ClauseText.startsLike {clause : Clause} {used rest' rest : List Char}
    (h : ClauseText clause used rest) (hlike : StartsLike rest' rest) (hrest : ClauseEnd rest) :
    ClauseText clause used rest' := by
  cases h with
  | @event event modifiers gap used _ blank nonempty name waits others =>
      have hothers := others.startsLike hlike
      have hwaits := not_polls_of_modifiersText hothers (hrest.startsLike hlike) event
      exact .event blank nonempty (name.startsLike (hlike.append _)) hwaits hothers
  | polling blank name pausing value others =>
      have hname := name.startsLike (((hlike.append _).append _).append _)
      have hvalue := value.startsLike (hlike.append _)
      exact .polling blank hname pausing hvalue (others.startsLike hlike)

end Hypermedia.Grammar
