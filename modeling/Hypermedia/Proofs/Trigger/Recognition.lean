import Hypermedia.Proofs.Reader.Duration
import Hypermedia.Proofs.Trigger.Grammar
import Hypermedia.Trigger.Reading

/-!
The reader of triggers accepts exactly the grammar and gives the value that the
grammar gives. Each reader has two lemmas: what it accepts is in the grammar,
and what is in the grammar it accepts, to the end of that text and no further.
Both loops are inductions over the text that is left.
-/

namespace Hypermedia

namespace Trigger

open Grammar Reader

/-- The reserved words are those that the two tables know. -/
theorem Selector.not_mem_reserved_iff {word : String} :
    word ∉ Selector.reserved ↔
      Scope.ofKeyword? word = none ∧ Relation.ofKeyword? word = none := by
  unfold Selector.reserved Scope.ofKeyword? Relation.ofKeyword?
  rw [find?_keyword_eq_none_iff, find?_keyword_eq_none_iff, List.mem_append, not_or]

/-- What was read has to be some text before it is taken as a value. -/
theorem nonempty_of_ok {α : Type} {text : String} {e : ParseError} {a b : α} {c d : Cursor}
    (h : (if text.isEmpty then throw e else pure a : Reader α) c = .ok b d) :
    text ≠ "" ∧ a = b ∧ c = d := by
  by_cases hempty : text.isEmpty = true
  · rw [if_pos hempty] at h
    cases h
  · rw [if_neg hempty] at h
    cases h
    exact ⟨fun heq => hempty (String.isEmpty_iff.mpr heq), rfl, rfl⟩

theorem ok_of_nonempty {α : Type} {text : String} (h : text ≠ "") (e : ParseError) (a : α)
    (c : Cursor) : (if text.isEmpty then throw e else pure a : Reader α) c = .ok a c := by
  rw [if_neg (mt String.isEmpty_iff.mp h)]
  rfl

/-- What a word without quotes means at the start of a selector, together with
what it asks for behind it. -/
def Selector.ofWord (start : Position) (word : String) : Reader Selector :=
  match Scope.ofKeyword? word with
  | some named => pure (.scope named)
  | none =>
      match Relation.ofKeyword? word with
      | some how => do
          blank
          let behindBlank := (← get).position
          let text ← token
          if text.isEmpty then throw ⟨behindBlank, .invalidSelector word⟩
          else pure (.relative how text)
      | none =>
          if word.isEmpty then throw ⟨start, .invalidSelector ""⟩
          else pure (.css word)

theorem selector_run_of_bare {c : Cursor} (h : c.isAt isQuote = false) :
    Selector.reader c =
      (do let word ← bareToken; Selector.ofWord c.position word : Reader Selector) c := by
  have hat : ¬ c.isAt isQuote = true := by simp [h]
  unfold Selector.reader
  rw [get_bind, get_bind, if_neg hat]
  rfl

theorem selector_run_of_quote {c : Cursor} (h : c.isAt isQuote = true) :
    Selector.reader c =
      (do
        let text ← token
        if text.isEmpty then throw ⟨c.position, .invalidSelector ""⟩
        else pure (.css text) : Reader Selector) c := by
  unfold Selector.reader
  rw [get_bind, get_bind, if_pos h]

theorem selector_run_of_word {c d : Cursor} {word : String} (htakes : c.Takes word.toList d)
    (hrun : MaximalRun isBareChar word.toList d.rest)
    (hunquoted : ∀ first ∈ word.toList.head?, isQuote first = false) :
    Selector.reader c = Selector.ofWord c.position word d := by
  rw [selector_run_of_bare (isAt_isQuote_of_bare htakes hrun hunquoted)]
  exact bind_of_ok (bareToken_eq_ok_iff.mpr ⟨htakes, hrun⟩)

/-- The word and what it asked for make up a selector. -/
theorem ofWord_sound {start : Position} {word : String} {c d : Cursor} {selector : Selector}
    (hrun : MaximalRun isBareChar word.toList c.rest)
    (hunquoted : ∀ first ∈ word.toList.head?, isQuote first = false)
    (h : Selector.ofWord start word c = .ok selector d) :
    ∃ used, c.Takes used d ∧ SelectorText selector (word.toList ++ used) d.rest := by
  unfold Selector.ofWord at h
  cases hscope : Scope.ofKeyword? word with
  | some named =>
      rw [hscope] at h
      cases h
      obtain rfl := keyword_of_find? hscope
      refine ⟨[], c.takes_nil, ?_⟩
      rw [List.append_nil]
      exact .scope hrun
  | none =>
      rw [hscope] at h
      cases hrelation : Relation.ofKeyword? word with
      | some how =>
          rw [hrelation] at h
          dsimp only at h
          rw [blank_bind, get_bind] at h
          have hgap := c.takes_pastRun Text.isBlank
          have hblank := (c.maximalRun_run Text.isBlank).all
          obtain ⟨text, behind, htoken, h⟩ := ok_of_bind h
          obtain ⟨used, htext, hused⟩ := token_eq_ok_iff.mp htoken
          obtain ⟨hne, rfl, rfl⟩ := nonempty_of_ok h
          obtain rfl := keyword_of_find? hrelation
          rw [hgap.rest_eq, htext.rest_eq] at hrun
          exact ⟨_, hgap.trans htext, .relative hrun hblank hused hne⟩
      | none =>
          rw [hrelation] at h
          obtain ⟨hne, rfl, rfl⟩ := nonempty_of_ok h
          have hfree := Selector.not_mem_reserved_iff.mpr ⟨hscope, hrelation⟩
          refine ⟨[], c.takes_nil, ?_⟩
          rw [List.append_nil]
          exact .css hrun hne hunquoted hfree

theorem selector_sound {c d : Cursor} {selector : Selector}
    (h : Selector.reader c = .ok selector d) :
    ∃ used, c.Takes used d ∧ SelectorText selector used d.rest := by
  cases hat : c.isAt isQuote with
  | true =>
      rw [selector_run_of_quote hat] at h
      obtain ⟨text, here, htoken, h⟩ := ok_of_bind h
      obtain ⟨used, htakes, htext⟩ := token_eq_ok_iff.mp htoken
      obtain ⟨hne, rfl, rfl⟩ := nonempty_of_ok h
      cases htext with
      | quoted hquoted => exact ⟨used, htakes, .quoted hquoted hne⟩
      | bare hrun hunquoted =>
          rw [isAt_isQuote_of_bare htakes hrun hunquoted] at hat
          cases hat
  | false =>
      rw [selector_run_of_bare hat] at h
      obtain ⟨word, here, hword, h⟩ := ok_of_bind h
      obtain ⟨htakes, hrun⟩ := bareToken_eq_ok_iff.mp hword
      obtain ⟨used, hused, htext⟩ := ofWord_sound hrun (not_isQuote_of_isAt htakes hat) h
      exact ⟨_, htakes.trans hused, htext⟩

theorem ofWord_relation {how : Relation} {text : String} {c d : Cursor} {gap used : List Char}
    (htakes : c.Takes (gap ++ used) d) (hblank : Blank gap) (htoken : TokenText text used d.rest)
    (hne : text ≠ "") (start : Position) :
    Selector.ofWord start how.keyword c = .ok (.relative how text) d := by
  obtain ⟨here, hgap, hused⟩ := htakes.split
  have hpast : c.pastRun Text.isBlank = here := by
    obtain ⟨first, more, rfl, hfirst⟩ := htoken.head_bare hne
    exact hgap.pastBlank_of_next hblank hused (not_isBlank_of_isBareChar hfirst)
  have hnot : Scope.ofKeyword? how.keyword = none := by cases how <;> decide
  unfold Selector.ofWord
  rw [hnot]
  dsimp only
  rw [Relation.ofKeyword?_keyword]
  dsimp only
  rw [blank_bind, get_bind, hpast, bind_of_ok (token_eq_ok_iff.mpr ⟨used, hused, htoken⟩)]
  exact ok_of_nonempty hne _ _ d

theorem selector_complete {c d : Cursor} {used : List Char} {selector : Selector}
    (htakes : c.Takes used d) (htext : SelectorText selector used d.rest) :
    Selector.reader c = .ok selector d := by
  cases htext with
  | @quoted text used _ hquoted hne =>
      have hat : c.isAt isQuote = true := by
        cases hquoted with
        | intro quote hquote habsent => rw [htakes.isAt_eq, hquote]
      have htoken := token_eq_ok_iff.mpr ⟨used, htakes, .quoted hquoted⟩
      rw [selector_run_of_quote hat, bind_of_ok htoken]
      exact ok_of_nonempty hne _ _ d
  | @scope named _ hrun =>
      rw [selector_run_of_word htakes hrun (word_scope named).unquoted]
      unfold Selector.ofWord
      rw [Scope.ofKeyword?_keyword]
      rfl
  | @relative how text gap used _ hword hblank htoken hne =>
      obtain ⟨here, hkey, hrest⟩ := htakes.split
      rw [← List.append_assoc, ← hrest.rest_eq] at hword
      rw [selector_run_of_word hkey hword (word_relation how).unquoted]
      exact ofWord_relation hrest hblank htoken hne _
  | @css text _ hrun hne hunquoted hfree =>
      obtain ⟨hscope, hrelation⟩ := Selector.not_mem_reserved_iff.mp hfree
      rw [selector_run_of_word htakes hrun hunquoted]
      unfold Selector.ofWord
      rw [hscope]
      dsimp only
      rw [hrelation]
      exact ok_of_nonempty hne _ _ d

theorem queueMode_eq_ok_iff {c d : Cursor} {mode : QueueMode} :
    queueMode c = .ok mode d ↔
      c.Takes mode.keyword.toList d ∧ MaximalRun isBareChar mode.keyword.toList d.rest := by
  unfold queueMode
  rw [get_bind]
  constructor
  · intro h
    obtain ⟨word, here, hword, h⟩ := ok_of_bind h
    cases hmode : QueueMode.ofKeyword? word with
    | none =>
        rw [hmode] at h
        cases h
    | some found =>
        rw [hmode] at h
        cases h
        obtain rfl := QueueMode.keyword_of_ofKeyword? hmode
        exact bareToken_eq_ok_iff.mp hword
  · intro h
    rw [bind_of_ok (bareToken_eq_ok_iff.mpr h), QueueMode.ofKeyword?_keyword]
    rfl

/-- What is behind the colon makes the key and its colon a modifier. -/
theorem valueReader_sound {start : Position} {key : String} {c d : Cursor} {modifier : Modifier}
    (h : Modifier.valueReader start key c = .ok modifier d) :
    ∃ used, c.Takes used d ∧ ModifierText modifier (key.toList ++ (':' :: used)) d.rest := by
  unfold Modifier.valueReader at h
  cases hpace : Pace.ofKeyword? key with
  | some kind =>
      rw [hpace] at h
      obtain ⟨time, here, htime, h⟩ := ok_of_bind h
      cases h
      obtain rfl := keyword_of_find? hpace
      obtain ⟨used, htakes, htext⟩ := duration_eq_ok_iff.mp htime
      exact ⟨used, htakes, .pace htext⟩
  | none =>
      rw [hpace] at h
      cases hrole : Role.ofKeyword? key with
      | some role =>
          rw [hrole] at h
          obtain ⟨selector, here, hselector, h⟩ := ok_of_bind h
          cases h
          obtain rfl := keyword_of_find? hrole
          obtain ⟨used, htakes, htext⟩ := selector_sound hselector
          exact ⟨used, htakes, .element htext⟩
      | none =>
          rw [hrole] at h
          by_cases hkey : key = "queue"
          · subst hkey
            obtain ⟨mode, here, hmode, h⟩ := ok_of_bind h
            cases h
            obtain ⟨htakes, hrun⟩ := queueMode_eq_ok_iff.mp hmode
            exact ⟨_, htakes, .queue hrun⟩
          · dsimp only at h
            rw [if_neg hkey] at h
            cases h

theorem namedReader_sound {c d : Cursor} {modifier : Modifier}
    (h : Modifier.namedReader c = .ok modifier d) :
    ∃ used, c.Takes used d ∧ ModifierText modifier used d.rest := by
  unfold Modifier.namedReader at h
  rw [get_bind, get_bind] at h
  by_cases hat : c.isAt isNameChar = true
  · rw [if_pos hat] at h
    obtain ⟨key, here, hkey, h⟩ := ok_of_bind h
    obtain ⟨htakes, hne, hrun⟩ := name_eq_ok_iff.mp hkey
    obtain ⟨found, behind, hfound, h⟩ := ok_of_bind h
    cases found with
    | true =>
        have hcolon := takes_of_literal? hfound
        obtain ⟨used, hused, htext⟩ := valueReader_sound h
        exact ⟨_, htakes.trans (hcolon.trans hused), htext⟩
    | false =>
        obtain ⟨rfl, halone⟩ := literal?_absent rfl hfound
        cases hflag : Flag.ofKeyword? key with
        | none =>
            simp only [hflag] at h
            cases h
        | some word =>
            simp only [hflag] at h
            cases h
            obtain rfl := keyword_of_find? hflag
            exact ⟨_, htakes, .flag hrun halone⟩
  · rw [if_neg hat] at h
    obtain ⟨word, here, hword, h⟩ := ok_of_bind h
    cases h

theorem namedReader_run_of_key {c d : Cursor} {key : String} {used : List Char}
    (hkey : Word key) (htakes : c.Takes (key.toList ++ (':' :: used)) d) :
    ∃ here, here.Takes used d ∧
      Modifier.namedReader c = Modifier.valueReader c.position key here := by
  obtain ⟨behind, here, hat, hname, hcolon, hused⟩ := key_of_takes hkey htakes
  refine ⟨here, hused, ?_⟩
  unfold Modifier.namedReader
  rw [get_bind, get_bind, if_pos hat, bind_of_ok hname, bind_of_ok hcolon]
  rfl

theorem namedReader_complete {c d : Cursor} {used : List Char} {modifier : Modifier}
    (htakes : c.Takes used d) (htext : ModifierText modifier used d.rest)
    (hname : c.isAt isNameChar = true) : Modifier.namedReader c = .ok modifier d := by
  cases htext with
  | filter habsent =>
      rw [htakes.isAt_eq] at hname
      exact absurd hname (by decide)
  | @flag word _ hrun halone =>
      unfold Modifier.namedReader
      rw [get_bind, get_bind, if_pos hname,
        bind_of_ok (name_eq_ok_iff.mpr ⟨htakes, (word_flag word).nonempty, hrun⟩),
        bind_of_ok (literal?_of_absent rfl halone)]
      simp only [Flag.ofKeyword?_keyword]
      rfl
  | @pace kind time value _ hvalue =>
      obtain ⟨here, hused, hrun⟩ := namedReader_run_of_key (word_pace kind) htakes
      rw [hrun]
      unfold Modifier.valueReader
      rw [Pace.ofKeyword?_keyword]
      exact bind_of_ok (duration_eq_ok_iff.mpr ⟨value, hused, hvalue⟩)
  | @element role selector value _ hvalue =>
      obtain ⟨here, hused, hrun⟩ := namedReader_run_of_key (word_role role) htakes
      have hpace : Pace.ofKeyword? role.keyword = none := by cases role <;> decide
      rw [hrun]
      unfold Modifier.valueReader
      rw [hpace]
      dsimp only
      rw [Role.ofKeyword?_keyword]
      exact bind_of_ok (selector_complete hused hvalue)
  | @queue mode _ hvalue =>
      obtain ⟨here, hused, hrun⟩ := namedReader_run_of_key (by decide) htakes
      rw [hrun]
      exact bind_of_ok (queueMode_eq_ok_iff.mpr ⟨hused, hvalue⟩)

theorem filterReader_eq_ok_iff {c d : Cursor} {modifier : Modifier} :
    Modifier.filterReader c = .ok modifier d ↔
      ∃ condition : String, modifier = .filter condition ∧ ']' ∉ condition.toList ∧
        c.Takes ('[' :: (condition.toList ++ [']'])) d := by
  constructor
  · intro h
    obtain ⟨condition, here, hspan, h⟩ := ok_of_bind h
    cases h
    obtain ⟨htakes, habsent⟩ := bracketed_eq_ok_iff.mp hspan
    exact ⟨condition, rfl, habsent, htakes⟩
  · rintro ⟨condition, rfl, habsent, htakes⟩
    exact bind_of_ok (bracketed_eq_ok_iff.mpr ⟨htakes, habsent⟩)

/-- What comes next in a clause, told by the first character that is not white
space. -/
theorem next?_run (c : Cursor) :
    Modifier.next? c =
      match (c.pastRun Text.isBlank).peek with
      | none => .ok none (c.pastRun Text.isBlank)
      | some first =>
          if first = ',' then .ok none (c.pastRun Text.isBlank)
          else if first = '[' then
            (do let modifier ← Modifier.filterReader; pure (some modifier)
              : Reader (Option Modifier)) (c.pastRun Text.isBlank)
          else
            (do let modifier ← Modifier.namedReader; pure (some modifier)
              : Reader (Option Modifier)) (c.pastRun Text.isBlank) := by
  unfold Modifier.next?
  rw [blank_bind, get_bind]
  cases (c.pastRun Text.isBlank).peek with
  | none => rfl
  | some first =>
      dsimp only
      split
      · rfl
      · split <;> rfl

/-- A clause has ended, or a modifier has been read behind white space. -/
theorem next?_sound {c d : Cursor} {found : Option Modifier}
    (h : Modifier.next? c = .ok found d) :
    ∃ gap, Blank gap ∧
      match found with
      | none => c.Takes gap d ∧ ClauseEnd d.rest
      | some modifier => ∃ used, c.Takes (gap ++ used) d ∧ ModifierText modifier used d.rest := by
  rw [next?_run] at h
  have hgap := c.takes_pastRun Text.isBlank
  refine ⟨c.run Text.isBlank, (c.maximalRun_run Text.isBlank).all, ?_⟩
  generalize c.pastRun Text.isBlank = here at h hgap
  generalize c.run Text.isBlank = gap at hgap
  cases hpeek : here.peek with
  | none =>
      rw [hpeek] at h
      cases h
      refine ⟨hgap, fun x hx => ?_⟩
      unfold Cursor.peek at hpeek
      rw [hpeek] at hx
      cases hx
  | some first =>
      rw [hpeek] at h
      dsimp only at h
      by_cases hcomma : first = ','
      · rw [if_pos hcomma] at h
        cases h
        refine ⟨hgap, fun x hx => ?_⟩
        unfold Cursor.peek at hpeek
        rw [hpeek] at hx
        cases hx
        exact hcomma
      · rw [if_neg hcomma] at h
        by_cases hopen : first = '['
        · rw [if_pos hopen] at h
          obtain ⟨modifier, behind, hmodifier, h⟩ := ok_of_bind h
          cases h
          obtain ⟨condition, rfl, habsent, htakes⟩ := filterReader_eq_ok_iff.mp hmodifier
          exact ⟨_, hgap.trans htakes, .filter habsent⟩
        · rw [if_neg hopen] at h
          obtain ⟨modifier, behind, hmodifier, h⟩ := ok_of_bind h
          cases h
          obtain ⟨used, htakes, htext⟩ := namedReader_sound hmodifier
          exact ⟨used, hgap.trans htakes, htext⟩

theorem next?_of_clauseEnd {c d : Cursor} {gap : List Char} (htakes : c.Takes gap d)
    (hblank : Blank gap) (hend : ClauseEnd d.rest) : Modifier.next? c = .ok none d := by
  rw [next?_run, htakes.pastBlank_eq hblank hend.not_blank]
  unfold Cursor.peek
  rcases hend.cases with hrest | ⟨text, hrest⟩
  · rw [hrest]
    rfl
  · rw [hrest]
    rfl

theorem next?_of_modifierText {c d : Cursor} {gap used : List Char} {modifier : Modifier}
    (htakes : c.Takes (gap ++ used) d) (hblank : Blank gap)
    (htext : ModifierText modifier used d.rest) :
    Modifier.next? c = .ok (some modifier) d := by
  obtain ⟨here, hgap, hused⟩ := htakes.split
  obtain ⟨first, more, rfl, hfirst⟩ := htext.head
  have hnot : Text.isBlank first = false := by
    rcases hfirst with rfl | ⟨hname, -⟩
    · decide
    · exact not_isBlank_of_isNameChar hname
  have hpast := hgap.pastBlank_of_next hblank hused hnot
  rw [next?_run, hpast, hused.peek_eq]
  dsimp only
  by_cases hopen : first = '['
  · subst hopen
    rw [if_neg (by decide), if_pos rfl]
    generalize hlist : '[' :: more = text at htext hused
    cases htext with
    | @filter condition _ habsent =>
        have hfilter := filterReader_eq_ok_iff.mpr ⟨condition, rfl, habsent, hused⟩
        exact bind_of_ok hfilter
    | @flag word _ _ _ => cases word <;> cases hlist
    | @pace kind _ _ _ _ => cases kind <;> cases hlist
    | @element role _ _ _ _ => cases role <;> cases hlist
    | queue _ => cases hlist
  · have hname : isNameChar first = true := by
      rcases hfirst with hbracket | ⟨hname, -⟩
      · exact absurd hbracket hopen
      · exact hname
    have hcomma : first ≠ ',' := by
      rintro rfl
      exact absurd hname (by decide)
    rw [if_neg hcomma, if_neg hopen]
    exact bind_of_ok (namedReader_complete hused htext (by rw [hused.isAt_eq, hname]))

/-- The loop over modifiers, one step of it. -/
theorem readAll_run (c : Cursor) :
    Modifier.readAll c =
      (do
        match ← Modifier.next? with
        | none => pure []
        | some modifier =>
            let others ← Modifier.readAll
            pure (modifier :: others) : Reader (List Modifier)) c := by
  rw [Modifier.readAll, bind_run]
  split
  · rename_i hnext
    rw [hnext]
  · rename_i hnext
    rw [hnext]
    rfl
  · rename_i modifier here hnext
    have hbind := bind_run Modifier.readAll (fun others => pure (modifier :: others)) here
    rw [hnext]
    refine Eq.trans ?_ hbind.symm
    cases Modifier.readAll here <;> rfl

theorem readAll_of_none {c d : Cursor} (h : Modifier.next? c = .ok none d) :
    Modifier.readAll c = .ok [] d := by
  rw [readAll_run, bind_of_ok h]
  rfl

theorem readAll_of_some {c d : Cursor} {modifier : Modifier}
    (h : Modifier.next? c = .ok (some modifier) d) :
    Modifier.readAll c =
      (do let others ← Modifier.readAll; pure (modifier :: others) : Reader (List Modifier)) d := by
  rw [readAll_run, bind_of_ok h]

theorem readAll_sound {c d : Cursor} {modifiers : List Modifier}
    (h : Modifier.readAll c = .ok modifiers d) :
    ∃ used, c.Takes used d ∧ ModifiersText modifiers used d.rest ∧ ClauseEnd d.rest := by
  fun_induction Modifier.readAll c generalizing modifiers with
  | case1 c e here hnext => cases h
  | case2 c here hnext =>
      cases h
      obtain ⟨gap, hblank, htakes, hend⟩ := next?_sound hnext
      exact ⟨gap, htakes, .nil hblank, hend⟩
  | case3 c modifier here hnext e behind hrest ih => cases h
  | case4 c modifier here hnext others behind hrest ih =>
      cases h
      obtain ⟨gap, hblank, used, htakes, htext⟩ := next?_sound hnext
      obtain ⟨more, hmore, hothers, hend⟩ := ih hrest
      rw [hmore.rest_eq] at htext
      have hall := htakes.trans hmore
      rw [List.append_assoc] at hall
      exact ⟨_, hall, .cons hblank htext hothers, hend⟩

theorem readAll_complete {c d : Cursor} {used : List Char} {modifiers : List Modifier}
    (htakes : c.Takes used d) (htext : ModifiersText modifiers used d.rest)
    (hend : ClauseEnd d.rest) : Modifier.readAll c = .ok modifiers d := by
  generalize hrest : d.rest = rest at htext
  induction htext generalizing c with
  | nil hblank => exact readAll_of_none (next?_of_clauseEnd htakes hblank hend)
  | @cons modifier others gap used more rest hblank hfirst hnext ih =>
      rw [← List.append_assoc] at htakes
      obtain ⟨here, hgap, hmore⟩ := htakes.split
      subst hrest
      rw [← hmore.rest_eq] at hfirst
      rw [readAll_of_some (next?_of_modifierText hgap hblank hfirst)]
      exact bind_of_ok (ih hmore rfl)

/-- The first thing behind the event decides whether it polls. -/
theorem polls_iff {event : String} {c : Cursor} :
    Polls event c.rest ↔
      event = "every" ∧ (c.pastRun Text.isBlank).isAt Char.isDigit = true := by
  constructor
  · rintro ⟨hevent, gap, first, more, hrest, hblank, hdigit⟩
    refine ⟨hevent, ?_⟩
    have hnot : Text.isBlank first = false :=
      not_isBlank_of_isNameChar (isNameChar_of_isDigit hdigit)
    have hrun : MaximalRun Text.isBlank gap (first :: more) := by
      refine ⟨hblank, fun x hx => ?_⟩
      cases hx
      exact hnot
    unfold Cursor.isAt Cursor.pastRun
    rw [hrest, hrun.dropWhile_eq]
    exact hdigit
  · rintro ⟨hevent, hat⟩
    refine ⟨hevent, ?_⟩
    have hgap := c.takes_pastRun Text.isBlank
    have hblank := (c.maximalRun_run Text.isBlank).all
    cases hrest : (c.pastRun Text.isBlank).rest with
    | nil => simp [Cursor.isAt, hrest] at hat
    | cons first more =>
        rw [hgap.rest_eq, hrest]
        exact ⟨_, first, more, rfl, hblank, by simpa [Cursor.isAt, hrest] using hat⟩

/-- An event that does not poll may still have lost the white space behind it
to the search for a digit. -/
theorem interval_sound {event : String} {c d : Cursor} {interval : List Modifier}
    (h : intervalReader event c = .ok interval d) :
    (¬ Polls event c.rest ∧ interval = [] ∧ ∃ gap, c.Takes gap d ∧ Blank gap) ∨
      (event = "every" ∧ ∃ time pause used, interval = [.every time] ∧ Blank pause ∧
        c.Takes (pause ++ used) d ∧ DurationText time used d.rest) := by
  unfold intervalReader at h
  by_cases hevent : event = "every"
  · rw [if_pos hevent, blank_bind, get_bind] at h
    have hgap := c.takes_pastRun Text.isBlank
    have hblank := (c.maximalRun_run Text.isBlank).all
    by_cases hat : (c.pastRun Text.isBlank).isAt Char.isDigit = true
    · rw [if_pos hat] at h
      obtain ⟨time, here, htime, h⟩ := ok_of_bind h
      cases h
      obtain ⟨used, htakes, htext⟩ := duration_eq_ok_iff.mp htime
      exact .inr ⟨hevent, time, _, used, rfl, hblank, hgap.trans htakes, htext⟩
    · rw [if_neg hat] at h
      cases h
      exact .inl ⟨fun hpolls => hat (polls_iff.mp hpolls).2, rfl, _, hgap, hblank⟩
  · rw [if_neg hevent] at h
    cases h
    exact .inl ⟨fun hpolls => hevent hpolls.1, rfl, [], c.takes_nil, blank_nil⟩

theorem interval_of_polling {c d : Cursor} {time : Duration} {pause used : List Char}
    (htakes : c.Takes (pause ++ used) d) (hblank : Blank pause)
    (htext : DurationText time used d.rest) :
    intervalReader "every" c = .ok [.every time] d := by
  obtain ⟨here, hpause, hused⟩ := htakes.split
  obtain ⟨first, more, hlist, hdigit⟩ := htext.head_digit
  have hpolls : Polls "every" c.rest := by
    refine ⟨rfl, pause, first, more ++ d.rest, ?_, hblank, hdigit⟩
    rw [hpause.rest_eq, hused.rest_eq, hlist]
    rfl
  have hat := (polls_iff.mp hpolls).2
  have hpast : c.pastRun Text.isBlank = here := by
    have hnot := not_isBlank_of_isNameChar (isNameChar_of_isDigit hdigit)
    rw [hlist] at hused
    exact hpause.pastBlank_of_next hblank hused hnot
  unfold intervalReader
  rw [if_pos rfl, blank_bind, get_bind, if_pos hat, hpast]
  exact bind_of_ok (duration_eq_ok_iff.mpr ⟨used, hused, htext⟩)

/-- Whether or not the search for a digit has skipped white space, the modifiers
behind it are the same. -/
theorem interval_of_waiting {event : String} {c : Cursor} (h : ¬ Polls event c.rest) :
    ∃ d, intervalReader event c = .ok [] d ∧ Modifier.next? d = Modifier.next? c := by
  unfold intervalReader
  by_cases hevent : event = "every"
  · have hat : ¬ (c.pastRun Text.isBlank).isAt Char.isDigit = true :=
      fun hat => h (polls_iff.mpr ⟨hevent, hat⟩)
    refine ⟨c.pastRun Text.isBlank, ?_, ?_⟩
    · rw [if_pos hevent, blank_bind, get_bind, if_neg hat]
      rfl
    · rw [next?_run, next?_run, Cursor.pastRun_pastRun]
  · refine ⟨c, ?_, rfl⟩
    rw [if_neg hevent]
    rfl

/-- What the loop finds depends on its first step alone. -/
theorem readAll_congr {c d : Cursor} (h : Modifier.next? d = Modifier.next? c) :
    Modifier.readAll d = Modifier.readAll c := by
  rw [readAll_run, readAll_run, bind_run, bind_run, h]

theorem modifiersText_of_gap {modifiers : List Modifier} {gap used rest : List Char}
    (hblank : Blank gap) (h : ModifiersText modifiers used rest) :
    ModifiersText modifiers (gap ++ used) rest := by
  cases h with
  | nil hrest => exact .nil (hblank.append hrest)
  | cons hrest hfirst hnext =>
      rw [← List.append_assoc]
      exact .cons (hblank.append hrest) hfirst hnext

theorem clause_sound {c d : Cursor} {clause : Clause} (h : Clause.reader c = .ok clause d) :
    ∃ used, c.Takes used d ∧ ClauseText clause used d.rest ∧ ClauseEnd d.rest := by
  unfold Clause.reader at h
  rw [blank_bind, get_bind] at h
  have hgap := c.takes_pastRun Text.isBlank
  have hblank := (c.maximalRun_run Text.isBlank).all
  generalize c.pastRun Text.isBlank = here at h hgap
  generalize c.run Text.isBlank = gap at hgap hblank
  by_cases hat : here.isAt isNameChar = true
  · rw [if_pos hat] at h
    obtain ⟨event, behind, hevent, h⟩ := ok_of_bind h
    obtain ⟨hname, hne, hrun⟩ := name_eq_ok_iff.mp hevent
    obtain ⟨interval, waiting, hinterval, h⟩ := ok_of_bind h
    obtain ⟨others, stop, hothers, h⟩ := ok_of_bind h
    cases h
    obtain ⟨used, hused, htext, hend⟩ := readAll_sound hothers
    rcases interval_sound hinterval with
      ⟨hwaits, rfl, pause, hpause, hpausing⟩ |
      ⟨rfl, time, pause, digits, rfl, hpausing, htakes, hvalue⟩
    · have hbehind := hpause.trans hused
      rw [hbehind.rest_eq] at hrun hwaits
      refine ⟨_, hgap.trans (hname.trans hbehind), ?_, hend⟩
      exact .event hblank hne hrun hwaits (modifiersText_of_gap hpausing htext)
    · rw [hused.rest_eq] at hvalue
      have hrest : behind.rest = pause ++ (digits ++ (used ++ d.rest)) := by
        rw [htakes.rest_eq, hused.rest_eq, List.append_assoc]
      have hbehind := htakes.trans hused
      rw [List.append_assoc] at hbehind
      rw [hrest] at hrun
      refine ⟨_, hgap.trans (hname.trans hbehind), ?_, hend⟩
      exact .polling hblank hrun hpausing hvalue htext
  · rw [if_neg hat] at h
    cases h

/-- Behind its event, a clause is an interval and modifiers. -/
theorem clause_run_of_event {c here behind : Cursor} {gap : List Char} {event : String}
    (hgap : c.Takes gap here) (hblank : Blank gap) (hname : here.Takes event.toList behind)
    (hne : event ≠ "") (hrun : MaximalRun isNameChar event.toList behind.rest) :
    Clause.reader c =
      (do
        let interval ← intervalReader event
        let others ← Modifier.readAll
        pure ⟨event, interval ++ others⟩ : Reader Clause) behind := by
  have hlist : event.toList ≠ [] := mt String.toList_eq_nil_iff.mp hne
  have hat := hname.isAt_of_all hlist hrun.all
  have hpast : c.pastRun Text.isBlank = here := by
    obtain ⟨first, more, hcons⟩ := List.exists_cons_of_ne_nil hlist
    have hfirst := hrun.all first (by simp [hcons])
    rw [hcons] at hname
    exact hgap.pastBlank_of_next hblank hname (not_isBlank_of_isNameChar hfirst)
  unfold Clause.reader
  rw [blank_bind, get_bind, hpast, if_pos hat,
    bind_of_ok (name_eq_ok_iff.mpr ⟨hname, hne, hrun⟩)]

theorem clause_complete {c d : Cursor} {used : List Char} {clause : Clause}
    (htakes : c.Takes used d) (htext : ClauseText clause used d.rest)
    (hend : ClauseEnd d.rest) : Clause.reader c = .ok clause d := by
  cases htext with
  | @event event modifiers gap used _ hblank hne hrun hwaits hothers =>
      obtain ⟨here, hgap, hrest⟩ := htakes.split
      obtain ⟨behind, hname, hused⟩ := hrest.split
      rw [← hused.rest_eq] at hrun hwaits
      obtain ⟨waiting, hinterval, hnext⟩ := interval_of_waiting hwaits
      have hall := readAll_complete hused hothers hend
      rw [← readAll_congr hnext] at hall
      rw [clause_run_of_event hgap hblank hname hne hrun, bind_of_ok hinterval,
        bind_of_ok hall]
      rfl
  | @polling time modifiers gap pause digits used _ hblank hrun hpausing hvalue hothers =>
      obtain ⟨here, hgap, hrest⟩ := htakes.split
      obtain ⟨behind, hname, hrest⟩ := hrest.split
      rw [← List.append_assoc] at hrest
      obtain ⟨waiting, htime, hused⟩ := hrest.split
      have hbehind : behind.rest = pause ++ (digits ++ (used ++ d.rest)) := by
        rw [htime.rest_eq, hused.rest_eq, List.append_assoc]
      rw [← hbehind] at hrun
      rw [← hused.rest_eq] at hvalue
      rw [clause_run_of_event hgap hblank hname (by decide) hrun,
        bind_of_ok (interval_of_polling htime hpausing hvalue),
        bind_of_ok (readAll_complete hused hothers hend)]
      rfl

/-- A clause ends where the next one may begin, so the comma is never missing:
what is left is a comma or nothing. -/
theorem clauses_of_ok {c d : Cursor} {clause : Clause} (h : Clause.reader c = .ok clause d) :
    (d.rest = [] ∧ clauses c = .cons clause .done) ∨
      ∃ text, d.rest = ',' :: text ∧ clauses c = .cons clause (clauses (d.past 1)) := by
  obtain ⟨used, htakes, htext, hend⟩ := clause_sound h
  have hstay : d.pastRun Text.isBlank = d :=
    d.takes_nil.pastRun_eq ⟨by simp, hend.not_blank⟩
  rw [clauses]
  rcases hend.cases with hrest | ⟨text, hrest⟩
  · left
    refine ⟨hrest, ?_⟩
    split
    · simp_all
    · rename_i found here hfound
      rw [h] at hfound
      cases hfound
      have hat : d.atEnd = true := by simp [Cursor.atEnd, hrest]
      simp only [hstay, hat, if_true]
  · right
    refine ⟨text, hrest, ?_⟩
    have hcomma : literal "," d = .ok () (d.past 1) := by
      apply literal_eq_ok_iff.mpr
      obtain ⟨place, rest⟩ := d
      cases hrest
      exact Cursor.takes_cons place ',' text
    split
    · simp_all
    · rename_i found here hfound
      rw [h] at hfound
      cases hfound
      have hat : ¬ d.atEnd = true := by simp [Cursor.atEnd, hrest]
      simp only [hstay, if_neg hat]
      split
      · simp_all
      · simp_all

theorem clauses_of_error {c d : Cursor} {e : ParseError} (h : Clause.reader c = .error e d) :
    clauses c = .failed e := by
  rw [clauses]
  split <;> simp_all

/-- How the reading of a trigger goes from here on: clause by clause, up to a
clause that cannot be read or to one with nothing behind it. -/
inductive Course : Cursor → Reading Clause → Prop
  | failed {c d : Cursor} {e : ParseError} (fault : Clause.reader c = .error e d) :
      Course c (.failed e)
  | last {c d : Cursor} {clause : Clause} (read : Clause.reader c = .ok clause d)
      (ends : d.rest = []) : Course c (.cons clause .done)
  | more {c d next : Cursor} {clause : Clause} {reading : Reading Clause}
      (read : Clause.reader c = .ok clause d) (comma : d.Takes [','] next)
      (others : Course next reading) : Course c (.cons clause reading)

/-- The induction that every fact about the loop over clauses needs. -/
theorem course_of_clauses (c : Cursor) : Course c (clauses c) := by
  induction hlength : c.rest.length using Nat.strongRecOn generalizing c with
  | ind length ih =>
      cases hclause : Clause.reader c with
      | error e d =>
          rw [clauses_of_error hclause]
          exact .failed hclause
      | ok clause d =>
          rcases clauses_of_ok hclause with ⟨hrest, hrun⟩ | ⟨text, hrest, hrun⟩
          · rw [hrun]
            exact .last hclause hrest
          · have hcomma : d.Takes [','] (d.past 1) := by
              obtain ⟨place, rest⟩ := d
              cases hrest
              exact Cursor.takes_cons place ',' text
            have hshorter : (d.past 1).rest.length < length := by
              have hconsumed := Clause.consuming_reader c clause d hclause
              rw [hcomma.rest_eq, List.length_append, List.length_singleton] at hconsumed
              omega
            rw [hrun]
            exact .more hclause hcomma (ih _ hshorter _ rfl)

theorem clauses_of_comma {c d next : Cursor} {clause : Clause}
    (h : Clause.reader c = .ok clause d) (hcomma : d.Takes [','] next) :
    clauses c = .cons clause (clauses next) := by
  rcases clauses_of_ok h with ⟨hrest, -⟩ | ⟨text, -, hrun⟩
  · rw [hcomma.rest_eq] at hrest
    cases hrest
  · rw [hrun, hcomma.past_one_eq]

theorem Course.triggerText {c : Cursor} {reading : Reading Clause} {found : List Clause}
    (h : Course c reading) (hfound : reading.toExcept = .ok found) : TriggerText found c.rest := by
  induction h generalizing found with
  | failed fault => cases hfound
  | last read ends =>
      cases hfound
      obtain ⟨used, htakes, htext, -⟩ := clause_sound read
      rw [ends] at htext
      rw [htakes.rest_eq, ends, List.append_nil]
      exact .one htext
  | more read comma others ih =>
      obtain ⟨others, rfl, hothers⟩ := Reading.toExcept_cons_eq_ok_iff.mp hfound
      obtain ⟨used, htakes, htext, -⟩ := clause_sound read
      rw [comma.rest_eq] at htext
      rw [htakes.rest_eq, comma.rest_eq]
      exact .more htext (ih hothers)

theorem clauses_sound {c : Cursor} {found : List Clause}
    (h : (clauses c).toExcept = .ok found) : TriggerText found c.rest :=
  (course_of_clauses c).triggerText h

theorem clauses_complete {c : Cursor} {found : List Clause} {text : List Char}
    (hrest : c.rest = text) (h : TriggerText found text) :
    (clauses c).toExcept = .ok found := by
  induction h generalizing c with
  | @one clause text hlast =>
      have htakes : c.Takes text ⟨c.position.after text, []⟩ := ⟨by simp [hrest], rfl⟩
      have hclause := clause_complete htakes hlast clauseEnd_nil
      rcases clauses_of_ok hclause with ⟨_, hrun⟩ | ⟨more, hmore, _⟩
      · rw [hrun]
        rfl
      · cases hmore
  | @more clause others used text hfirst hothers ih =>
      have htakes : c.Takes used ⟨c.position.after used, ',' :: text⟩ := ⟨hrest, rfl⟩
      have hclause := clause_complete htakes hfirst (clauseEnd_comma text)
      rw [clauses_of_comma hclause (Cursor.takes_cons _ ',' text)]
      exact Reading.toExcept_cons_eq_ok_iff.mpr ⟨others, rfl, ih rfl⟩

/-- The grammar is what a trigger is: a text reads as these clauses exactly if
the grammar derives them from it. -/
theorem parse_eq_ok_iff_triggerText (text : String) (found : List Clause) :
    parse text = .ok found ↔ TriggerText found text.toList := by
  constructor
  · intro h
    exact clauses_sound (c := .start text) h
  · intro h
    exact clauses_complete (c := .start text) rfl h

end Trigger

end Hypermedia
