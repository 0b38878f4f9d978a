import Hypermedia.Proofs.Reader.Fault
import Hypermedia.Proofs.Trigger.Recognition

/-!
Triggers that break off. Whatever precedes the fault has been read in full, so
a fault of a trigger is a fault of one clause with whole clauses in front of it,
and in that clause it is a fault of the event, of the interval or of one
modifier with whole modifiers in front of it.

A text can be finished where it breaks off because none of the parts in front
looks further than one character, and what finishes the text starts with a
character that was there before.
-/

namespace Hypermedia.Grammar

open Trigger
open ParseError (Cause)

/-- A selector that is missing, or whose quotes are not closed. A relation in
front of either is part of the text that can be kept. -/
inductive SelectorFault : Cause → List Char → List Char → Prop
  | empty {behind : List Char} : SelectorFault (.invalidSelector "") [] behind
  | quoted {cause : Cause} {used behind : List Char} (token : TokenFault cause used behind) :
      SelectorFault cause used behind
  | alone {how : Relation} {gap behind : List Char} (blank : Blank gap)
      (ends : ∀ c ∈ behind.head?, Text.isBlank c = false) :
      SelectorFault (.invalidSelector how.keyword) (how.keyword.toList ++ gap) behind
  | relative {how : Relation} {cause : Cause} {gap used behind : List Char}
      (word : MaximalRun isBareChar how.keyword.toList (gap ++ (used ++ behind)))
      (blank : Blank gap) (token : TokenFault cause used behind) :
      SelectorFault cause (how.keyword.toList ++ (gap ++ used)) behind

/-- A modifier that is none, which is reported where it starts, or one that is
broken off behind its key or inside its brackets. -/
inductive ModifierFault : Cause → List Char → List Char → Prop
  | unknown {name : String} {rest : List Char} (bare : ∀ c ∈ name.toList, isBareChar c = true)
      (solid : ∀ c ∈ (name.toList ++ rest).head?, Text.isBlank c = false) :
      ModifierFault (.invalidModifier name) [] (name.toList ++ rest)
  | filter {inner : List Char} (absent : ']' ∉ inner) :
      ModifierFault (.unexpectedEnd "']'") ('[' :: inner) []
  | pace {kind : Pace} {cause : Cause} {used behind : List Char}
      (value : DurationFault cause used behind) :
      ModifierFault cause (kind.keyword.toList ++ (':' :: used)) behind
  | element {role : Role} {cause : Cause} {used behind : List Char}
      (value : SelectorFault cause used behind) :
      ModifierFault cause (role.keyword.toList ++ (':' :: used)) behind
  | queue {mode : String} {rest : List Char} (bare : ∀ c ∈ mode.toList, isBareChar c = true) :
      ModifierFault (.invalidModifier mode) ("queue".toList ++ [':']) (mode.toList ++ rest)

inductive ModifiersFault : Cause → List Char → List Char → Prop
  | here {cause : Cause} {gap used behind : List Char} (blank : Blank gap)
      (fault : ModifierFault cause used behind) : ModifiersFault cause (gap ++ used) behind
  | later {modifier : Modifier} {cause : Cause} {gap used more behind : List Char}
      (blank : Blank gap) (first : ModifierText modifier used (more ++ behind))
      (fault : ModifiersFault cause more behind) :
      ModifiersFault cause (gap ++ (used ++ more)) behind

/-- An interval is only read where there is a digit, and then it has to be
one. -/
inductive IntervalFault : Cause → List Char → List Char → Prop
  | intro {cause : Cause} {pause used behind : List Char} (pausing : Blank pause)
      (digit : ∃ first more, used ++ behind = first :: more ∧ first.isDigit = true)
      (value : DurationFault cause used behind) : IntervalFault cause (pause ++ used) behind

inductive ClauseFault : Cause → List Char → List Char → Prop
  | event {cause : Cause} {gap used behind : List Char} (blank : Blank gap)
      (missing : MissingFault "event name" cause used behind)
      (solid : ∀ c ∈ behind.head?, Text.isBlank c = false) :
      ClauseFault cause (gap ++ used) behind
  | interval {cause : Cause} {gap used behind : List Char} (blank : Blank gap)
      (name : MaximalRun isNameChar "every".toList (used ++ behind))
      (fault : IntervalFault cause used behind) :
      ClauseFault cause (gap ++ ("every".toList ++ used)) behind
  | modifiers {event : String} {cause : Cause} {gap used behind : List Char} (blank : Blank gap)
      (nonempty : event ≠ "") (name : MaximalRun isNameChar event.toList (used ++ behind))
      (fault : ModifiersFault cause used behind) :
      ClauseFault cause (gap ++ (event.toList ++ used)) behind
  | polling {interval : Duration} {cause : Cause} {gap pause time used behind : List Char}
      (blank : Blank gap)
      (name : MaximalRun isNameChar "every".toList (pause ++ (time ++ (used ++ behind))))
      (pausing : Blank pause) (value : DurationText interval time (used ++ behind))
      (fault : ModifiersFault cause used behind) :
      ClauseFault cause (gap ++ ("every".toList ++ (pause ++ (time ++ used)))) behind

inductive TriggerFault : Cause → List Char → List Char → Prop
  | here {cause : Cause} {used behind : List Char} (fault : ClauseFault cause used behind) :
      TriggerFault cause used behind
  | later {clause : Clause} {cause : Cause} {used more behind : List Char}
      (first : ClauseText clause used (',' :: (more ++ behind)))
      (fault : TriggerFault cause more behind) :
      TriggerFault cause (used ++ ',' :: more) behind

variable {cause : Cause} {used behind : List Char}

/-!
The evidence of a fault is found where the fault is, and text in front of it
takes nothing away.
-/

theorem SelectorFault.evidence (h : SelectorFault cause used behind) :
    Evidence used behind cause := by
  cases h with
  | empty => exact .inl rfl
  | quoted token => exact token.evidence
  | @alone how gap _ blank => exact .inr ⟨how, rfl, gap, blank, List.suffix_refl _⟩
  | relative word blank token => exact (token.evidence.append _).append _

theorem ModifierFault.evidence (h : ModifierFault cause used behind) :
    Evidence used behind cause := by
  cases h with
  | unknown => exact List.prefix_append _ _
  | filter absent => rfl
  | pace value => exact (value.evidence.append [':']).append _
  | element value => exact (value.evidence.append [':']).append _
  | queue => exact List.prefix_append _ _

theorem ModifiersFault.evidence (h : ModifiersFault cause used behind) :
    Evidence used behind cause := by
  induction h with
  | here blank fault => exact fault.evidence.append _
  | later blank first fault ih => exact (ih.append _).append _

theorem IntervalFault.evidence (h : IntervalFault cause used behind) :
    Evidence used behind cause := by
  cases h with
  | intro pausing digit value => exact value.evidence.append _

theorem ClauseFault.evidence (h : ClauseFault cause used behind) :
    Evidence used behind cause := by
  cases h with
  | event blank missing => exact missing.evidence.append _
  | interval blank name fault => exact (fault.evidence.append _).append _
  | modifiers blank nonempty name fault => exact (fault.evidence.append _).append _
  | polling blank name pausing value fault =>
      exact (((fault.evidence.append _).append _).append _).append _

theorem TriggerFault.evidence (h : TriggerFault cause used behind) :
    Evidence used behind cause := by
  induction h with
  | here fault => exact fault.evidence
  | later first fault ih => exact (ih.append [',']).append _

theorem SelectorFault.completes (h : SelectorFault cause used behind) :
    ∃ tail selector, SelectorText selector (used ++ tail) [] := by
  have hname : Word "x" := by decide
  cases h with
  | empty =>
      have hselector : SelectorText (.css "x") "x".toList [] :=
        .css (hname.bareRun nofun) hname.nonempty hname.unquoted (by decide)
      exact ⟨['x'], .css "x", hselector⟩
  | quoted token =>
      obtain ⟨-, tail, text, hne, htext⟩ := token.completes
      exact ⟨tail, .css text, .quoted htext hne⟩
  | @alone how gap _ blank =>
      -- The token has to be kept apart from the relation, also where no gap is.
      have htoken : TokenText "x" "x".toList [] := .bare (hname.bareRun nofun) hname.unquoted
      have hblank : Blank (gap ++ [' ']) := blank.append blank_space
      have hword := (word_relation how).bareRun (hblank.boundary (by simp) (['x'] ++ []))
      refine ⟨[' ', 'x'], .relative how "x", ?_⟩
      have hselector := SelectorText.relative hword hblank htoken (by decide)
      simpa using hselector
  | @relative how _ gap used _ word blank token =>
      obtain ⟨hne, tail, text, hnonempty, htext⟩ := token.completes
      have hword := word.startsLike ((startsLike_append hne (tail ++ []) behind).append gap)
      refine ⟨tail, .relative how text, ?_⟩
      rw [← List.append_assoc used] at hword
      have hselector := SelectorText.relative hword blank (.quoted htext) hnonempty
      simpa using hselector

/-- An unknown modifier leaves nothing to finish. -/
theorem ModifierFault.completes (h : ModifierFault cause used behind) (hne : used ≠ []) :
    ∃ tail modifier, ModifierText modifier (used ++ tail) [] := by
  cases h with
  | unknown => exact absurd rfl hne
  | @filter inner absent =>
      refine ⟨[']'], .filter (String.ofList inner), ?_⟩
      have hfilter : ModifierText (.filter (String.ofList inner)) _ [] := .filter (by simpa)
      simpa using hfilter
  | @pace kind _ used _ value =>
      obtain ⟨tail, time, htime⟩ := value.completes
      refine ⟨tail, .pace kind time, ?_⟩
      rw [List.append_assoc]
      exact .pace htime
  | @element role _ used _ value =>
      obtain ⟨tail, selector, hselector⟩ := value.completes
      refine ⟨tail, .element role selector, ?_⟩
      rw [List.append_assoc]
      exact .element hselector
  | queue =>
      refine ⟨"all".toList, .queue .all, ?_⟩
      rw [List.append_assoc]
      exact .queue ((word_queueMode .all).bareRun nofun)

/-- What finishes the modifiers starts like what was there, so that it cannot
become part of what is in front. -/
theorem ModifiersFault.completes (h : ModifiersFault cause used behind) :
    ∃ tail modifiers, StartsLike (used ++ tail) (used ++ behind) ∧
      ModifiersText modifiers (used ++ tail) [] := by
  induction h with
  | @here _ gap used behind blank fault =>
      by_cases hempty : used = []
      · subst hempty
        refine ⟨[], [], ?_, ?_⟩
        · exact (startsLike_nil behind).append _
        · rw [List.append_nil, List.append_nil]
          exact .nil blank
      · obtain ⟨tail, modifier, hmodifier⟩ := fault.completes hempty
        refine ⟨tail, [modifier], ?_, ?_⟩
        · rw [List.append_assoc, List.append_assoc]
          exact (startsLike_append hempty tail behind).append gap
        · have hall := ModifiersText.cons blank hmodifier (.nil blank_nil)
          simpa using hall
  | @later modifier _ gap used more behind blank first fault ih =>
      obtain ⟨tail, modifiers, hlike, hmodifiers⟩ := ih
      refine ⟨tail, modifier :: modifiers, ?_, ?_⟩
      · have hlonger := (hlike.append used).append gap
        simpa using hlonger
      · rw [← List.append_nil (more ++ tail)] at hlike
        have hall := ModifiersText.cons blank (first.startsLike hlike) hmodifiers
        simpa using hall

/-- An interval that is refused can be given another one. The digit that made
the event poll is behind white space, since it is no part of the name. -/
theorem IntervalFault.completes (h : IntervalFault cause used behind)
    (hname : MaximalRun isNameChar "every".toList (used ++ behind)) :
    ∃ pause time tail interval, used ++ tail = pause ++ time ∧ Blank pause ∧
      MaximalRun isNameChar "every".toList (pause ++ time) ∧ DurationText interval time [] := by
  cases h with
  | @intro pause used _ pausing digit value =>
      obtain ⟨tail, interval, hinterval⟩ := value.completes
      obtain ⟨first, more, hfirst, hdigit⟩ := digit
      rw [List.append_assoc, hfirst] at hname
      have hne : pause ≠ [] := by
        rintro rfl
        have hends := hname.ends first rfl
        rw [isNameChar_of_isDigit hdigit] at hends
        cases hends
      refine ⟨pause, used ++ tail, tail, interval, List.append_assoc _ _ _, pausing, ?_, hinterval⟩
      exact hname.startsLike (startsLike_append hne _ _)

theorem ClauseFault.completes (h : ClauseFault cause used behind) :
    ∃ tail clause, ClauseText clause (used ++ tail) [] := by
  cases h with
  | @event _ gap used _ blank missing =>
      have hnone : ModifiersText [] [] [] := .nil blank_nil
      have hname : MaximalRun isNameChar "x".toList ([] ++ []) :=
        Word.nameRun (by decide) nofun
      have hclause : ClauseText ⟨"x", []⟩ _ [] :=
        .event blank (by decide) hname (not_polls_of_modifiersText hnone clauseEnd_nil "x") hnone
      refine ⟨['x'], ⟨"x", []⟩, ?_⟩
      cases missing <;> simpa using hclause
  | @interval _ gap used _ blank name fault =>
      obtain ⟨pause, time, tail, interval, hsplit, hpausing, hname, hvalue⟩ :=
        fault.completes name
      have hname' : MaximalRun isNameChar "every".toList (pause ++ (time ++ ([] ++ []))) := by
        simpa using hname
      have hclause := ClauseText.polling blank hname' hpausing hvalue (.nil blank_nil)
      refine ⟨tail, ⟨"every", [.every interval]⟩, ?_⟩
      rw [List.append_assoc, List.append_assoc, hsplit]
      simpa using hclause
  | @modifiers event _ gap used _ blank nonempty name fault =>
      obtain ⟨tail, modifiers, hlike, hmodifiers⟩ := fault.completes
      have hwaits := not_polls_of_modifiersText hmodifiers clauseEnd_nil event
      have hname := name.startsLike hlike
      rw [← List.append_nil (used ++ tail)] at hname
      refine ⟨tail, ⟨event, modifiers⟩, ?_⟩
      rw [List.append_assoc, List.append_assoc]
      exact .event blank nonempty hname hwaits hmodifiers
  | @polling interval _ gap pause time used _ blank name pausing value fault =>
      obtain ⟨tail, modifiers, hlike, hmodifiers⟩ := fault.completes
      rw [← List.append_nil (used ++ tail)] at hlike
      have hname := name.startsLike ((hlike.append time).append pause)
      have hclause :=
        ClauseText.polling blank hname pausing (value.startsLike hlike) hmodifiers
      refine ⟨tail, ⟨"every", .every interval :: modifiers⟩, ?_⟩
      simpa using hclause

/-- The beginning of a trigger up to a fault is the beginning of a trigger that
has none. -/
theorem TriggerFault.completes (h : TriggerFault cause used behind) :
    ∃ tail clauses, TriggerText clauses (used ++ tail) := by
  induction h with
  | here fault =>
      obtain ⟨tail, clause, hclause⟩ := fault.completes
      exact ⟨tail, [clause], .one hclause⟩
  | @later clause _ used more behind first fault ih =>
      obtain ⟨tail, clauses, hclauses⟩ := ih
      have hfirst := first.startsLike (startsLike_cons ',' (more ++ tail) _) (clauseEnd_comma _)
      refine ⟨tail, clause :: clauses, ?_⟩
      rw [List.append_assoc]
      exact .more hfirst hclauses

end Hypermedia.Grammar

namespace Hypermedia.Trigger

open Cursor Grammar Reader
open ParseError (Cause)

variable {c d : Cursor} {e : ParseError}

theorem error_of_empty {α : Type} {text : String} {f : ParseError} {a : α}
    (h : (if text.isEmpty then throw f else pure a : Reader α) c = .error e d) : e = f := by
  by_cases hempty : text.isEmpty = true
  · rw [if_pos hempty] at h
    cases h
    rfl
  · rw [if_neg hempty] at h
    cases h

/-- Behind a word the fault is that it is empty, or that a relation lacks its
token. -/
theorem ofWord_error {start : Position} {word : String}
    (hrun : MaximalRun isBareChar word.toList c.rest)
    (h : Selector.ofWord start word c = .error e d) :
    e = ⟨start, .invalidSelector ""⟩ ∨
      Faults (fun cause used => SelectorFault cause (word.toList ++ used)) c e := by
  unfold Selector.ofWord at h
  cases hscope : Scope.ofKeyword? word with
  | some named =>
      rw [hscope] at h
      cases h
  | none =>
      rw [hscope] at h
      cases hrelation : Relation.ofKeyword? word with
      | some how =>
          rw [hrelation] at h
          dsimp only at h
          rw [blank_bind, get_bind] at h
          have hgap := c.takes_pastRun Text.isBlank
          have hblank := (c.maximalRun_run Text.isBlank).all
          obtain rfl := keyword_of_find? hrelation
          rcases error_of_bind h with ⟨here, htoken⟩ | ⟨text, here, -, h⟩
          · right
            apply hgap.faults (token_error htoken)
            intro used behind hrest htoken
            rw [hgap.rest_eq, hrest] at hrun
            exact .relative hrun hblank htoken
          · obtain rfl := error_of_empty h
            have hends := (c.maximalRun_run Text.isBlank).ends
            exact .inr (hgap.faults_behind (.alone hblank hends))
      | none =>
          rw [hrelation] at h
          exact .inl (error_of_empty h)

theorem selector_error (h : Selector.reader c = .error e d) : c.Faults SelectorFault e := by
  cases hat : c.isAt isQuote with
  | true =>
      rw [selector_run_of_quote hat] at h
      rcases error_of_bind h with ⟨here, htoken⟩ | ⟨text, here, -, h⟩
      · exact (token_error htoken).imp fun _ _ _ htoken => .quoted htoken
      · obtain rfl := error_of_empty h
        exact faults_here .empty
  | false =>
      rw [selector_run_of_bare hat] at h
      rcases error_of_bind h with ⟨here, hword⟩ | ⟨word, here, hword, h⟩
      · exact absurd hword run_ne_error
      · obtain ⟨htakes, hrun⟩ := bareToken_eq_ok_iff.mp hword
        rcases ofWord_error hrun h with rfl | hfaults
        · exact faults_here .empty
        · exact htakes.faults hfaults fun _ _ _ hfault => hfault

theorem queueMode_error (h : queueMode c = .error e d) :
    ∃ mode rest, c.rest = mode.toList ++ rest ∧ (∀ x ∈ mode.toList, isBareChar x = true) ∧
      e = ⟨c.position, .invalidModifier mode⟩ := by
  unfold queueMode at h
  rw [get_bind] at h
  rcases error_of_bind h with ⟨here, hword⟩ | ⟨word, here, hword, h⟩
  · exact absurd hword run_ne_error
  · obtain ⟨htakes, hrun⟩ := bareToken_eq_ok_iff.mp hword
    cases hmode : QueueMode.ofKeyword? word with
    | some mode =>
        rw [hmode] at h
        cases h
    | none =>
        rw [hmode] at h
        cases h
        exact ⟨word, _, htakes.rest_eq, hrun.all, rfl⟩

/-- Behind a key and its colon, either the key is refused or its value is. -/
theorem valueReader_error {start : Position} {key : String}
    (h : Modifier.valueReader start key c = .error e d) :
    e = ⟨start, .invalidModifier key⟩ ∨
      Faults (fun cause used => ModifierFault cause (key.toList ++ (':' :: used))) c e := by
  unfold Modifier.valueReader at h
  cases hpace : Pace.ofKeyword? key with
  | some kind =>
      rw [hpace] at h
      obtain rfl := keyword_of_find? hpace
      rcases error_of_bind h with ⟨here, htime⟩ | ⟨time, here, -, h⟩
      · exact .inr ((duration_error htime).imp fun _ _ _ hfault => .pace hfault)
      · cases h
  | none =>
      rw [hpace] at h
      cases hrole : Role.ofKeyword? key with
      | some role =>
          rw [hrole] at h
          obtain rfl := keyword_of_find? hrole
          rcases error_of_bind h with ⟨here, hselector⟩ | ⟨selector, here, -, h⟩
          · exact .inr ((selector_error hselector).imp fun _ _ _ hfault => .element hfault)
          · cases h
      | none =>
          rw [hrole] at h
          dsimp only at h
          by_cases hkey : key = "queue"
          · subst hkey
            rw [if_pos rfl] at h
            rcases error_of_bind h with ⟨here, hmode⟩ | ⟨mode, here, -, h⟩
            · obtain ⟨mode, rest, hrest, hbare, rfl⟩ := queueMode_error hmode
              right
              apply faults_here
              rw [hrest]
              exact .queue hbare
            · cases h
          · rw [if_neg hkey] at h
            cases h
            exact .inl rfl

theorem namedReader_error (hsolid : ∀ x ∈ c.rest.head?, Text.isBlank x = false)
    (h : Modifier.namedReader c = .error e d) : c.Faults ModifierFault e := by
  have hunknown : ∀ {name : String} {here : Cursor}, c.Takes name.toList here →
      (∀ x ∈ name.toList, isBareChar x = true) →
        c.Faults ModifierFault ⟨c.position, .invalidModifier name⟩ := by
    intro name here htakes hbare
    apply faults_here
    rw [htakes.rest_eq] at hsolid ⊢
    exact .unknown hbare hsolid
  unfold Modifier.namedReader at h
  rw [get_bind, get_bind] at h
  by_cases hat : c.isAt isNameChar = true
  · rw [if_pos hat] at h
    rcases error_of_bind h with ⟨here, hname⟩ | ⟨key, here, hkey, h⟩
    · rw [name_run, if_pos hat] at hname
      cases hname
    · obtain ⟨htakes, -, hrun⟩ := name_eq_ok_iff.mp hkey
      have hbare : ∀ x ∈ key.toList, isBareChar x = true :=
        fun x hx => isBareChar_of_isNameChar (hrun.all x hx)
      rcases error_of_bind h with ⟨behind, hfound⟩ | ⟨found, behind, hfound, h⟩
      · exact absurd hfound literal?_ne_error
      · cases found with
        | true =>
            have hcolon := takes_of_literal? hfound
            rcases valueReader_error h with rfl | hfaults
            · exact hunknown htakes hbare
            · apply (htakes.trans hcolon).faults hfaults
              intro used rest _ hfault
              rw [List.append_assoc]
              exact hfault
        | false =>
            cases hflag : Flag.ofKeyword? key with
            | none =>
                simp only [hflag] at h
                cases h
                exact hunknown htakes hbare
            | some word =>
                simp only [hflag] at h
                cases h
  · rw [if_neg hat] at h
    rcases error_of_bind h with ⟨here, hword⟩ | ⟨word, here, hword, h⟩
    · exact absurd hword run_ne_error
    · obtain ⟨htakes, hrun⟩ := bareToken_eq_ok_iff.mp hword
      cases h
      exact hunknown htakes hrun.all

theorem filterReader_error (hopen : c.rest.head? = some '[')
    (h : Modifier.filterReader c = .error e d) : c.Faults ModifierFault e := by
  rcases error_of_bind h with ⟨here, hspan⟩ | ⟨condition, here, -, h⟩
  · obtain ⟨more, hmore⟩ := List.head?_eq_some_iff.mp hopen
    have hbracket : c.Takes "[".toList (c.past 1) := ⟨by simp [past, hmore], by simp [past, hmore]⟩
    unfold bracketed at hspan
    rw [bind_of_ok (literal_eq_ok_iff.mpr hbracket)] at hspan
    obtain ⟨htakes, hrest, habsent, rfl⟩ := closedBy_error hspan
    apply (hbracket.trans htakes).faults_behind
    rw [hrest]
    exact .filter habsent
  · cases h

theorem next?_error (h : Modifier.next? c = .error e d) : c.Faults ModifiersFault e := by
  rw [next?_run] at h
  have hgap := c.takes_pastRun Text.isBlank
  obtain ⟨hblank, hsolid⟩ := c.maximalRun_run Text.isBlank
  generalize c.pastRun Text.isBlank = here at h hgap hsolid
  have hhere : here.Faults ModifierFault e := by
    cases hpeek : here.peek with
    | none =>
        rw [hpeek] at h
        cases h
    | some first =>
        rw [hpeek] at h
        dsimp only at h
        by_cases hcomma : first = ','
        · rw [if_pos hcomma] at h
          cases h
        · rw [if_neg hcomma] at h
          by_cases hopen : first = '['
          · rw [if_pos hopen] at h
            rcases error_of_bind h with ⟨behind, hfilter⟩ | ⟨modifier, behind, -, h⟩
            · rw [hopen] at hpeek
              exact filterReader_error hpeek hfilter
            · cases h
          · rw [if_neg hopen] at h
            rcases error_of_bind h with ⟨behind, hnamed⟩ | ⟨modifier, behind, -, h⟩
            · exact namedReader_error hsolid hnamed
            · cases h
  exact hgap.faults hhere fun _ _ _ hfault => .here hblank hfault

theorem readAll_error (h : Modifier.readAll c = .error e d) : c.Faults ModifiersFault e := by
  fun_induction Modifier.readAll c with
  | case1 c f here hnext =>
      cases h
      exact next?_error hnext
  | case2 c here hnext => cases h
  | case3 c modifier here hnext f behind hrest ih =>
      cases h
      obtain ⟨gap, hblank, used, htakes, htext⟩ := next?_sound hnext
      apply htakes.faults (ih hrest)
      intro more rest hmore hfault
      rw [hmore] at htext
      rw [List.append_assoc]
      exact .later hblank htext hfault
  | case4 c modifier here hnext others behind hrest ih => cases h

theorem modifiersFault_of_gap {cause : Cause} {gap used behind : List Char} (hgap : Blank gap)
    (h : ModifiersFault cause used behind) : ModifiersFault cause (gap ++ used) behind := by
  cases h with
  | here blank fault =>
      rw [← List.append_assoc]
      exact .here (hgap.append blank) fault
  | later blank first fault =>
      rw [← List.append_assoc]
      exact .later (hgap.append blank) first fault

theorem interval_error {event : String} (h : intervalReader event c = .error e d) :
    event = "every" ∧ c.Faults IntervalFault e := by
  unfold intervalReader at h
  by_cases hevent : event = "every"
  · rw [if_pos hevent, blank_bind, get_bind] at h
    have hgap := c.takes_pastRun Text.isBlank
    have hblank := (c.maximalRun_run Text.isBlank).all
    generalize c.pastRun Text.isBlank = here at h hgap
    by_cases hat : here.isAt Char.isDigit = true
    · rw [if_pos hat] at h
      rcases error_of_bind h with ⟨behind, htime⟩ | ⟨time, behind, -, h⟩
      · refine ⟨hevent, hgap.faults (duration_error htime) fun used rest hrest hfault => ?_⟩
        refine .intro hblank ?_ hfault
        unfold isAt at hat
        rw [hrest] at hat
        cases hlist : used ++ rest with
        | nil =>
            rw [hlist] at hat
            cases hat
        | cons first more =>
            rw [hlist] at hat
            exact ⟨first, more, rfl, hat⟩
      · cases h
    · rw [if_neg hat] at h
      cases h
  · rw [if_neg hevent] at h
    cases h

theorem clause_error (h : Clause.reader c = .error e d) : c.Faults ClauseFault e := by
  unfold Clause.reader at h
  rw [blank_bind, get_bind] at h
  have hgap := c.takes_pastRun Text.isBlank
  obtain ⟨hblank, hsolid⟩ := c.maximalRun_run Text.isBlank
  generalize c.pastRun Text.isBlank = here at h hgap hsolid
  by_cases hat : here.isAt isNameChar = true
  · rw [if_pos hat] at h
    rcases error_of_bind h with ⟨behind, hname⟩ | ⟨event, behind, hevent, h⟩
    · rw [name_run, if_pos hat] at hname
      cases hname
    obtain ⟨hname, hne, hrun⟩ := name_eq_ok_iff.mp hevent
    rcases error_of_bind h with ⟨waiting, hinterval⟩ | ⟨interval, waiting, hinterval, h⟩
    · obtain ⟨rfl, hfaults⟩ := interval_error hinterval
      apply (hgap.trans hname).faults hfaults
      intro used rest hrest hfault
      rw [hrest] at hrun
      rw [List.append_assoc]
      exact .interval hblank hrun hfault
    rcases error_of_bind h with ⟨stop, hall⟩ | ⟨others, stop, -, h⟩
    · have hfaults := readAll_error hall
      rcases interval_sound hinterval with
        ⟨-, -, pause, hpause, hpausing⟩ | ⟨rfl, time, pause, digits, -, hpausing, htakes, hvalue⟩
      · apply ((hgap.trans hname).trans hpause).faults hfaults
        intro used rest hrest hfault
        rw [hpause.rest_eq, hrest, ← List.append_assoc] at hrun
        rw [List.append_assoc, List.append_assoc]
        exact .modifiers hblank hne hrun (modifiersFault_of_gap hpausing hfault)
      · apply ((hgap.trans hname).trans htakes).faults hfaults
        intro used rest hrest hfault
        rw [htakes.rest_eq, hrest, List.append_assoc] at hrun
        rw [hrest] at hvalue
        have hclause := ClauseFault.polling hblank hrun hpausing hvalue hfault
        simpa using hclause
    · cases h
  · rw [if_neg hat] at h
    cases h
    apply hgap.faults (missing_faults _ "event name")
    intro used behind hrest hfault
    rw [hrest, hfault.used_eq_nil] at hsolid
    exact .event hblank hfault hsolid

/-- Whole clauses in front of a fault keep it one. -/
theorem Course.faults {reading : Reading Clause} (h : Course c reading)
    (herror : reading.toExcept = .error e) : c.Faults TriggerFault e := by
  induction h with
  | failed fault =>
      cases herror
      exact (clause_error fault).imp fun _ _ _ hfault => .here hfault
  | last read ends => cases herror
  | more read comma others ih =>
      have hlater := ih (Reading.toExcept_cons_eq_error_iff.mp herror)
      obtain ⟨used, htakes, htext, -⟩ := clause_sound read
      apply (htakes.trans comma).faults hlater
      intro more rest hmore hfault
      rw [comma.rest_eq, hmore] at htext
      rw [List.append_assoc]
      exact .later htext hfault

/-- An error in a trigger reports a fault that its text has. -/
theorem parse_error_triggerFault {text : String} (h : parse text = .error e) :
    (Cursor.start text).Faults TriggerFault e :=
  (course_of_clauses _).faults h

end Hypermedia.Trigger
