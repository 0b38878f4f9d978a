import Hypermedia.Proofs.Reader.Fault
import Hypermedia.Proofs.Swap.Grammar
import Hypermedia.Swap.Reading

/-!
The reader of swaps follows its grammar: it accepts exactly the runs of items,
and what a text sets is what its items set, one after another. As for triggers,
each reader has a lemma for what it accepts and one for what is accepted, and
the loop is an induction over the text that is left.
-/

namespace Hypermedia.Swap

open Cursor Grammar Reader

variable {c d : Cursor} {isFirst : Bool} {item : Item} {key : String} {used : List Char}

theorem switchValue_eq_ok_iff {switch : Switch} {isOn : Bool} :
    switchValue switch c = .ok isOn d ↔
      c.Takes (Switch.state isOn).toList d ∧
        MaximalRun isBareChar (Switch.state isOn).toList d.rest := by
  unfold switchValue
  rw [get_bind]
  constructor
  · intro h
    obtain ⟨word, here, hword, h⟩ := ok_of_bind h
    by_cases htrue : word = "true"
    · subst htrue
      cases h
      exact bareToken_eq_ok_iff.mp hword
    · rw [if_neg htrue] at h
      by_cases hfalse : word = "false"
      · subst hfalse
        cases h
        exact bareToken_eq_ok_iff.mp hword
      · rw [if_neg hfalse] at h
        cases h
  · intro h
    rw [bind_of_ok (bareToken_eq_ok_iff.mpr h)]
    cases isOn <;> rfl

/-- The value of an unknown key is a token, or a quote with all that is behind
it. -/
theorem unknownValue_sound {value : String} (h : unknownValue c = .ok value d) :
    (∃ used, c.Takes used d ∧ TokenText value used d.rest) ∨
      ∃ quote inner, isQuote quote = true ∧ quote ∉ inner ∧ c.Takes (quote :: inner) d ∧
        d.rest = [] ∧ value = String.ofList (quote :: inner) := by
  unfold unknownValue at h
  cases htoken : token c with
  | ok text here =>
      rw [htoken] at h
      cases h
      exact .inl (token_eq_ok_iff.mp htoken)
  | error e here =>
      rw [htoken] at h
      cases h
      obtain ⟨quote, inner, hquote, habsent, htakes, hrest, -⟩ := token_unclosed htoken
      refine .inr ⟨quote, inner, hquote, habsent, htakes, hrest, ?_⟩
      rw [htakes.rest_eq, hrest, List.append_nil]

theorem unknownValue_of_tokenText {value : String} (htakes : c.Takes used d)
    (htext : TokenText value used d.rest) : unknownValue c = .ok value d := by
  unfold unknownValue
  rw [token_eq_ok_iff.mpr ⟨used, htakes, htext⟩]

theorem unknownValue_of_unclosed {quote : Char} {inner : List Char}
    (hquote : isQuote quote = true) (habsent : quote ∉ inner) (htakes : c.Takes (quote :: inner) d)
    (hrest : d.rest = []) : unknownValue c = .ok (String.ofList (quote :: inner)) d := by
  have hall : c.rest = quote :: inner := by
    rw [htakes.rest_eq, hrest, List.append_nil]
  unfold unknownValue
  cases htoken : token c with
  | error e here =>
      obtain ⟨other, more, -, -, htakes', hrest', -⟩ := token_unclosed htoken
      have hsame : other :: more = quote :: inner := by
        rw [← hall, htakes'.rest_eq, hrest', List.append_nil]
      rw [hsame] at htakes'
      rw [hall, htakes'.unique htakes]
  | ok text here =>
      -- A token of this text would have closed the quote.
      obtain ⟨first, htakes', htext⟩ := token_eq_ok_iff.mp htoken
      have hat : c.isAt isQuote = true := by rw [htakes.isAt_eq, hquote]
      cases htext with
      | bare hrun hunquoted =>
          rw [isAt_isQuote_of_bare htakes' hrun hunquoted] at hat
          cases hat
      | quoted hquoted =>
          cases hquoted with
          | intro other hother habsent' =>
              have hsplit := htakes'.rest_eq
              rw [hall, List.cons_append] at hsplit
              obtain ⟨rfl, hinner⟩ := List.cons.inj hsplit
              rw [hinner] at habsent
              simp at habsent

/-- A key and its colon make what is behind them an item. -/
theorem valueReader_sound (hword : Word key) (h : Item.valueReader key c = .ok item d) :
    ∃ used, c.Takes used d ∧ ItemText isFirst item (key.toList ++ (':' :: used)) d.rest := by
  unfold Item.valueReader at h
  cases htiming : Timing.ofKeyword? key with
  | some timing =>
      rw [htiming] at h
      obtain ⟨time, here, htime, h⟩ := ok_of_bind h
      cases h
      obtain rfl := keyword_of_find? htiming
      obtain ⟨used, htakes, htext⟩ := duration_eq_ok_iff.mp htime
      exact ⟨used, htakes, .setting (.delay htext)⟩
  | none =>
      rw [htiming] at h
      cases hmovement : Movement.ofKeyword? key with
      | some movement =>
          rw [hmovement] at h
          obtain ⟨place, here, hplace, h⟩ := ok_of_bind h
          cases h
          obtain rfl := keyword_of_find? hmovement
          obtain ⟨used, htakes, htext⟩ := token_eq_ok_iff.mp hplace
          exact ⟨used, htakes, .setting (.move htext)⟩
      | none =>
          rw [hmovement] at h
          cases hswitch : Switch.ofKeyword? key with
          | some switch =>
              rw [hswitch] at h
              obtain ⟨isOn, here, hisOn, h⟩ := ok_of_bind h
              cases h
              obtain rfl := keyword_of_find? hswitch
              obtain ⟨htakes, hrun⟩ := switchValue_eq_ok_iff.mp hisOn
              exact ⟨_, htakes, .setting (.turn hrun)⟩
          | none =>
              rw [hswitch] at h
              obtain ⟨value, here, hvalue, h⟩ := ok_of_bind h
              cases h
              have hfree := not_mem_keys_iff.mpr ⟨htiming, hmovement, hswitch⟩
              rcases unknownValue_sound hvalue with
                ⟨used, htakes, htext⟩ | ⟨quote, inner, hquote, habsent, htakes, hrest, rfl⟩
              · exact ⟨used, htakes, .unknown hword hfree htext⟩
              · refine ⟨_, htakes, ?_⟩
                rw [hrest]
                exact .unclosed hword hfree hquote habsent

theorem valueReader_of_free (hfree : key ∉ Setting.keys) :
    Item.valueReader key =
      (do let value ← unknownValue; pure (.ignored (.setting key value)) : Reader Item) := by
  obtain ⟨htiming, hmovement, hswitch⟩ := not_mem_keys_iff.mp hfree
  unfold Item.valueReader
  simp only [htiming, hmovement, hswitch]

theorem valueReader_of_timing (timing : Timing) :
    Item.valueReader timing.keyword =
      (do
        let time ← duration Duration.attributeUnits
        pure (.setting (.delay timing time)) : Reader Item) := by
  unfold Item.valueReader
  rw [Timing.ofKeyword?_keyword]

theorem valueReader_of_movement (movement : Movement) :
    Item.valueReader movement.keyword =
      (do let place ← token; pure (.setting (.move movement place)) : Reader Item) := by
  have htiming : Timing.ofKeyword? movement.keyword = none := by cases movement <;> decide
  unfold Item.valueReader
  simp only [htiming, Movement.ofKeyword?_keyword]

theorem valueReader_of_switch (switch : Switch) :
    Item.valueReader switch.keyword =
      (do let isOn ← switchValue switch; pure (.setting (.turn switch isOn)) : Reader Item) := by
  have htiming : Timing.ofKeyword? switch.keyword = none := by cases switch <;> decide
  have hmovement : Movement.ofKeyword? switch.keyword = none := by cases switch <;> decide
  unfold Item.valueReader
  simp only [htiming, hmovement, Switch.ofKeyword?_keyword]

theorem namedReader_sound (h : Item.namedReader isFirst c = .ok item d) :
    ∃ used, c.Takes used d ∧ ItemText isFirst item used d.rest := by
  unfold Item.namedReader at h
  obtain ⟨key, here, hkey, h⟩ := ok_of_bind h
  obtain ⟨htakes, hne, hrun⟩ := name_eq_ok_iff.mp hkey
  obtain ⟨found, behind, hfound, h⟩ := ok_of_bind h
  cases found with
  | true =>
      have hcolon := takes_of_literal? hfound
      obtain ⟨used, hused, htext⟩ := valueReader_sound ⟨hne, hrun.all⟩ h
      exact ⟨_, htakes.trans (hcolon.trans hused), htext⟩
  | false =>
      obtain ⟨rfl, halone⟩ := literal?_absent rfl hfound
      cases hnamed : (if isFirst then Strategy.ofKeyword? key else none) with
      | some named =>
          simp only [hnamed] at h
          cases h
          cases isFirst with
          | false => cases hnamed
          | true => exact ⟨_, htakes, .strategy hne hrun halone hnamed⟩
      | none =>
          simp only [hnamed] at h
          obtain ⟨tail, stop, htail, h⟩ := ok_of_bind h
          cases h
          obtain ⟨htakes', hrun'⟩ := bareToken_eq_ok_iff.mp htail
          rw [htakes'.rest_eq] at hrun halone
          refine ⟨_, htakes.trans htakes', .word hne hrun halone (fun hfirst => ?_) hrun'⟩
          rwa [if_pos hfirst] at hnamed

theorem namedReader_run_of_key (isFirst : Bool) (hkey : Word key)
    (htakes : c.Takes (key.toList ++ (':' :: used)) d) :
    ∃ here, here.Takes used d ∧ c.isAt isNameChar = true ∧
      Item.namedReader isFirst c = Item.valueReader key here := by
  obtain ⟨behind, here, hat, hname, hcolon, hused⟩ := key_of_takes hkey htakes
  refine ⟨here, hused, hat, ?_⟩
  unfold Item.namedReader
  rw [bind_of_ok hname, bind_of_ok hcolon]
  rfl

theorem settingText_complete {setting : Setting} (isFirst : Bool) (htakes : c.Takes used d)
    (htext : SettingText setting used d.rest) :
    c.isAt isNameChar = true ∧ Item.namedReader isFirst c = .ok (.setting setting) d := by
  cases htext with
  | @delay timing time value _ hvalue =>
      obtain ⟨here, hused, hat, hrun⟩ := namedReader_run_of_key isFirst (word_timing timing) htakes
      refine ⟨hat, ?_⟩
      rw [hrun, valueReader_of_timing]
      exact bind_of_ok (duration_eq_ok_iff.mpr ⟨value, hused, hvalue⟩)
  | @move movement place value _ hvalue =>
      obtain ⟨here, hused, hat, hrun⟩ :=
        namedReader_run_of_key isFirst (word_movement movement) htakes
      refine ⟨hat, ?_⟩
      rw [hrun, valueReader_of_movement]
      exact bind_of_ok (token_eq_ok_iff.mpr ⟨value, hused, hvalue⟩)
  | @turn switch isOn _ hvalue =>
      obtain ⟨here, hused, hat, hrun⟩ := namedReader_run_of_key isFirst (word_switch switch) htakes
      refine ⟨hat, ?_⟩
      rw [hrun, valueReader_of_switch]
      exact bind_of_ok (switchValue_eq_ok_iff.mpr ⟨hused, hvalue⟩)

/-- A word that stands alone, up to what decides whether it is a strategy. -/
theorem namedReader_run_of_word (isFirst : Bool) (hne : key ≠ "") (htakes : c.Takes key.toList d)
    (hrun : MaximalRun isNameChar key.toList d.rest) (halone : d.rest.head? ≠ some ':') :
    c.isAt isNameChar = true ∧
      Item.namedReader isFirst c =
        (match if isFirst then Strategy.ofKeyword? key else none with
        | some named => pure (.strategy named)
        | none => do
            let tail ← bareToken
            pure (.ignored (.word (key ++ tail))) : Reader Item) d := by
  have hlist : key.toList ≠ [] := mt String.toList_eq_nil_iff.mp hne
  refine ⟨htakes.isAt_of_all hlist hrun.all, ?_⟩
  unfold Item.namedReader
  rw [bind_of_ok (name_eq_ok_iff.mpr ⟨htakes, hne, hrun⟩),
    bind_of_ok (literal?_of_absent rfl halone)]
  rfl

theorem tokenReader_sound (hhere : c.isAt isNameChar = false)
    (hblank : c.isAt Text.isBlank = false) (hend : c.atEnd = false)
    (h : Item.tokenReader c = .ok item d) :
    ∃ used, c.Takes used d ∧ ItemText isFirst item used d.rest := by
  unfold Item.tokenReader at h
  obtain ⟨text, here, htext, h⟩ := ok_of_bind h
  obtain ⟨htakes, hrun⟩ := bareToken_eq_ok_iff.mp htext
  have hnameless : ∀ x ∈ text.toList.head?, isNameChar x = false := by
    intro x hx
    obtain ⟨more, hmore⟩ := List.head?_eq_some_iff.mp hx
    rw [hmore] at htakes
    rwa [htakes.isAt_eq] at hhere
  obtain ⟨found, behind, hfound, h⟩ := ok_of_bind h
  cases found with
  | true =>
      cases h
      have hcomma := takes_of_literal? hfound
      exact ⟨_, htakes.trans hcomma, .comma hnameless hrun.all⟩
  | false =>
      cases h
      obtain ⟨rfl, halone⟩ := literal?_absent rfl hfound
      refine ⟨_, htakes, .token ?_ hnameless hrun halone⟩
      -- Without text there is white space here or a comma, and neither is.
      rintro rfl
      obtain rfl := htakes.eq_of_nil
      obtain ⟨place, rest⟩ := c
      cases rest with
      | nil => cases hend
      | cons x more =>
          rcases isBareChar_eq_false_iff.mp (hrun.ends x rfl) with hx | rfl
          · have hx' : Text.isBlank x = false := hblank
            rw [hx] at hx'
            cases hx'
          · exact halone rfl

theorem reader_sound (hblank : c.isAt Text.isBlank = false) (hend : c.atEnd = false)
    (h : Item.reader isFirst c = .ok item d) :
    ∃ used, c.Takes used d ∧ ItemText isFirst item used d.rest := by
  unfold Item.reader at h
  rw [get_bind] at h
  by_cases hat : c.isAt isNameChar = true
  · rw [if_pos hat] at h
    exact namedReader_sound h
  · rw [if_neg hat] at h
    exact tokenReader_sound (Bool.eq_false_iff.mpr hat) hblank hend h

theorem reader_run_of_name (h : c.isAt isNameChar = true) :
    Item.reader isFirst c = Item.namedReader isFirst c := by
  unfold Item.reader
  rw [get_bind, if_pos h]

theorem reader_run_of_bare {text : String} (htakes : c.Takes text.toList d)
    (hnameless : ∀ x ∈ text.toList.head?, isNameChar x = false)
    (hrun : MaximalRun isBareChar text.toList d.rest) :
    Item.reader isFirst c =
      (do let _ ← literal? ","; pure (.ignored (.token text)) : Reader Item) d := by
  have hat : ¬ c.isAt isNameChar = true := by
    unfold isAt
    rw [htakes.rest_eq]
    cases hlist : text.toList with
    | cons x more =>
        have hx := hnameless x (by rw [hlist]; rfl)
        simpa using hx
    | nil =>
        cases hrest : d.rest with
        | nil => simp
        | cons x more =>
            -- A character that ends a token is no part of a name either.
            have hx := hrun.ends x (by rw [hrest]; rfl)
            intro hname
            have hname : isNameChar x = true := by simpa using hname
            rw [isBareChar_of_isNameChar hname] at hx
            cases hx
  unfold Item.reader Item.tokenReader
  rw [get_bind, if_neg hat, bind_of_ok (bareToken_eq_ok_iff.mpr ⟨htakes, hrun⟩)]

theorem reader_complete (htakes : c.Takes used d) (htext : ItemText isFirst item used d.rest) :
    Item.reader isFirst c = .ok item d := by
  generalize hrest : d.rest = rest at htext
  cases htext with
  | @strategy key named _ hne hrun halone hknown =>
      subst hrest
      obtain ⟨hat, hread⟩ := namedReader_run_of_word true hne htakes hrun halone
      rw [reader_run_of_name hat, hread, if_pos rfl, hknown]
      rfl
  | @word _ key tail _ hne hrun halone hplain hrun' =>
      subst hrest
      obtain ⟨here, hkey, htail⟩ := htakes.split
      rw [← htail.rest_eq] at hrun halone
      obtain ⟨hat, hread⟩ := namedReader_run_of_word isFirst hne hkey hrun halone
      have hnone : (if isFirst then Strategy.ofKeyword? key else none) = none := by
        split
        · exact hplain ‹_›
        · rfl
      rw [reader_run_of_name hat, hread, hnone]
      exact bind_of_ok (bareToken_eq_ok_iff.mpr ⟨htail, hrun'⟩)
  | setting text =>
      subst hrest
      obtain ⟨hat, hread⟩ := settingText_complete isFirst htakes text
      rw [reader_run_of_name hat, hread]
  | @unknown _ key value _ _ hword hfree htext =>
      subst hrest
      obtain ⟨here, hused, hat, hread⟩ := namedReader_run_of_key isFirst hword htakes
      rw [reader_run_of_name hat, hread, valueReader_of_free hfree]
      exact bind_of_ok (unknownValue_of_tokenText hused htext)
  | @unclosed _ key quote inner hword hfree hquote habsent =>
      obtain ⟨here, hused, hat, hread⟩ := namedReader_run_of_key isFirst hword htakes
      rw [reader_run_of_name hat, hread, valueReader_of_free hfree]
      exact bind_of_ok (unknownValue_of_unclosed hquote habsent hused hrest)
  | @token _ text _ hne hnameless hrun halone =>
      subst hrest
      rw [reader_run_of_bare htakes hnameless hrun]
      exact bind_of_ok (literal?_of_absent rfl halone)
  | @comma _ text _ hnameless hbare =>
      obtain ⟨here, htext, hcomma⟩ := htakes.split
      have hrun : MaximalRun isBareChar text.toList here.rest := by
        refine ⟨hbare, fun x hx => ?_⟩
        rw [hcomma.rest_eq] at hx
        cases hx
        decide
      have hliteral : literal? "," here = .ok true d := literal?_of_takes hcomma
      rw [reader_run_of_bare htext hnameless hrun]
      exact bind_of_ok hliteral

theorem entries_of_end (h : (c.pastRun Text.isBlank).rest = []) : entries isFirst c = .done := by
  have hend : (c.pastRun Text.isBlank).atEnd = true := by simp [atEnd, h]
  rw [entries]
  simp only [hend, dite_true]

theorem entries_of_error {e : ParseError} (hend : (c.pastRun Text.isBlank).atEnd = false)
    (h : Item.reader isFirst (c.pastRun Text.isBlank) = .error e d) :
    entries isFirst c = .failed e := by
  rw [entries]
  simp only [hend, Bool.false_eq_true, dite_false]
  split <;> simp_all

/-- One round of the loop. The entry keeps the place and the text of its
item. -/
theorem entries_of_ok (hend : (c.pastRun Text.isBlank).atEnd = false)
    (h : Item.reader isFirst (c.pastRun Text.isBlank) = .ok item d) :
    ∃ entry : Entry, entry.item = item ∧ entry.start = (c.pastRun Text.isBlank).position ∧
      (c.pastRun Text.isBlank).Takes entry.text.toList d ∧
      ItemText isFirst entry.item entry.text.toList d.rest ∧
      entries isFirst c = .cons entry (entries false d) := by
  obtain ⟨used, htakes, htext⟩ := reader_sound (isAt_pastRun_isBlank c) hend h
  have hused : (c.pastRun Text.isBlank).rest.take
      ((c.pastRun Text.isBlank).rest.length - d.rest.length) = used := by
    rw [htakes.rest_eq, List.length_append, Nat.add_sub_cancel, List.take_left]
  refine ⟨⟨(c.pastRun Text.isBlank).position, String.ofList used, item⟩, rfl, rfl, ?_, ?_, ?_⟩
  · rwa [String.toList_ofList]
  · rwa [String.toList_ofList]
  · rw [entries]
    simp only [hend, Bool.false_eq_true, dite_false]
    split
    · simp_all
    · rename_i other next hother
      rw [h] at hother
      cases hother
      rw [hused]

/-- White space, and then the end of the text or an item. -/
theorem entries_cases (isFirst : Bool) (c : Cursor) :
    (Blank c.rest ∧ entries isFirst c = .done) ∨
      (∃ e d, Item.reader isFirst (c.pastRun Text.isBlank) = .error e d ∧
        entries isFirst c = .failed e) ∨
      ∃ entry d, Entry.start entry = (c.pastRun Text.isBlank).position ∧
        (c.pastRun Text.isBlank).Takes entry.text.toList d ∧
        ItemText isFirst entry.item entry.text.toList d.rest ∧
        entries isFirst c = .cons entry (entries false d) := by
  have hgap := c.takes_pastRun Text.isBlank
  have hblank := (c.maximalRun_run Text.isBlank).all
  cases hend : (c.pastRun Text.isBlank).atEnd with
  | true =>
      have hrest : (c.pastRun Text.isBlank).rest = [] := List.isEmpty_iff.mp hend
      refine .inl ⟨?_, entries_of_end hrest⟩
      rw [hgap.rest_eq, hrest, List.append_nil]
      exact hblank
  | false =>
      cases hitem : Item.reader isFirst (c.pastRun Text.isBlank) with
      | error e d => exact .inr (.inl ⟨e, d, rfl, entries_of_error hend hitem⟩)
      | ok item d =>
          obtain ⟨entry, -, hfound⟩ := entries_of_ok hend hitem
          exact .inr (.inr ⟨entry, d, hfound⟩)

/-- What is behind an item is shorter, which is what the inductions over the
loop need. -/
theorem length_lt_of_itemText (hgap : (c.pastRun Text.isBlank).Takes used d)
    (htext : ItemText isFirst item used d.rest) : d.rest.length < c.rest.length := by
  obtain ⟨first, more, rfl, -⟩ := htext.head
  rw [(c.takes_pastRun Text.isBlank).rest_eq, hgap.rest_eq]
  simp only [List.length_append, List.length_cons]
  omega

/-- How the entries lie in the text from here on: each of them behind white
space, where there is some, and the last one with nothing else behind it. -/
inductive Layout : Bool → Cursor → List Entry → Prop
  | nil {isFirst : Bool} {c : Cursor} (blank : Blank c.rest) : Layout isFirst c []
  | cons {isFirst : Bool} {c here d : Cursor} {gap : List Char} {entry : Entry}
      {others : List Entry} (blank : Blank gap) (before : c.Takes gap here)
      (start : entry.start = here.position) (takes : here.Takes entry.text.toList d)
      (first : ItemText isFirst entry.item entry.text.toList d.rest)
      (next : Layout false d others) : Layout isFirst c (entry :: others)

theorem layout_of_entries {found : List Entry} (h : (entries isFirst c).toExcept = .ok found) :
    Layout isFirst c found := by
  induction hlength : c.rest.length using Nat.strongRecOn generalizing c isFirst found with
  | ind length ih =>
      rcases entries_cases isFirst c with
        ⟨hblank, hrun⟩ | ⟨e, d, -, hrun⟩ | ⟨entry, d, hstart, htakes, htext, hrun⟩
      · rw [hrun] at h
        cases h
        exact .nil hblank
      · rw [hrun] at h
        cases h
      · rw [hrun] at h
        obtain ⟨others, rfl, hothers⟩ := Reading.toExcept_cons_eq_ok_iff.mp h
        have hshorter := length_lt_of_itemText htakes htext
        rw [hlength] at hshorter
        have hblank := (c.maximalRun_run Text.isBlank).all
        exact .cons hblank (c.takes_pastRun Text.isBlank) hstart htakes htext
          (ih _ hshorter hothers rfl)

theorem Layout.itemsText {found : List Entry} (h : Layout isFirst c found) :
    ItemsText isFirst (found.map Entry.item) c.rest := by
  induction h with
  | nil blank => exact .nil blank
  | cons blank before start takes first next ih =>
      rw [before.rest_eq, takes.rest_eq]
      exact .cons blank first ih

theorem entries_complete {items : List Item} (h : ItemsText isFirst items c.rest) :
    ∃ found, (entries isFirst c).toExcept = .ok found ∧ found.map Entry.item = items := by
  generalize hrest : c.rest = text at h
  induction h generalizing c with
  | @nil _ gap blank =>
      have htakes : c.Takes gap ⟨c.position.after gap, []⟩ := ⟨by simp [hrest], rfl⟩
      have hpast := htakes.pastBlank_eq blank (by simp)
      rw [entries_of_end (by rw [hpast])]
      exact ⟨[], rfl, rfl⟩
  | @cons isFirst item items gap used rest blank first others ih =>
      obtain ⟨d, htakes, rfl⟩ : ∃ d : Cursor, c.Takes (gap ++ used) d ∧ d.rest = rest :=
        ⟨⟨c.position.after (gap ++ used), rest⟩, ⟨by simp [hrest], rfl⟩, rfl⟩
      obtain ⟨here, hgap, hused⟩ := htakes.split
      have hread := reader_complete hused first
      obtain ⟨x, more, rfl, hx⟩ := first.head
      have hpast := hgap.pastBlank_of_next blank hused hx
      have hend : here.atEnd = false := by simp [atEnd, hused.rest_eq]
      rw [← hpast] at hread hend
      obtain ⟨entry, hentry, -, -, -, hrun⟩ := entries_of_ok hend hread
      obtain ⟨found, hfound, hitems⟩ := ih rfl
      refine ⟨entry :: found, ?_, ?_⟩
      · rw [hrun]
        exact Reading.toExcept_cons_eq_ok_iff.mpr ⟨found, rfl, hfound⟩
      · rw [List.map_cons, hentry, hitems]

/-- The options after one more item. -/
def Options.applyItem (options : Options) : Item → Options
  | .strategy named => { options with strategy := named }
  | .setting setting => options.set setting
  | .ignored _ => options

theorem ofEntries_eq_foldl (defaults : Defaults) (found : List Entry) :
    Options.ofEntries defaults found =
      (found.map Entry.item).foldl Options.applyItem (.start defaults) := by
  rw [List.foldl_map]
  rfl

/-- A swap can be read exactly if its text is a run of items, and then they are
laid over the starting values one after another. -/
theorem parse_eq_ok_iff_itemsText {defaults : Defaults} {text : String} {options : Options} :
    parse defaults text = .ok options ↔
      ∃ items, ItemsText true items text.toList ∧
        options = items.foldl Options.applyItem (.start defaults) := by
  unfold parse read
  constructor
  · intro h
    cases hfound : (entries true (.start text)).toExcept with
    | error e =>
        rw [hfound] at h
        cases h
    | ok found =>
        rw [hfound] at h
        cases h
        exact ⟨_, (layout_of_entries hfound).itemsText, ofEntries_eq_foldl defaults found⟩
  · rintro ⟨items, hitems, rfl⟩
    obtain ⟨found, hfound, rfl⟩ := entries_complete (c := .start text) hitems
    rw [hfound, ← ofEntries_eq_foldl]
    rfl

end Hypermedia.Swap
