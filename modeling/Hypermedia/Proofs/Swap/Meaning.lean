import Mathlib.Control.Monad.Basic
import Hypermedia.Proofs.Swap.Recognition

/-!
What a swap means. Its items set one field each, and the last one for a field
counts. Which items a text has can depend on what touches what, but not in a
text whose items are kept apart by white space, which is how swaps are written:
there each of them can be described alone. A strategy counts if it comes first,
so does the last setting of a key, and everything else is passed over.
-/

namespace Hypermedia

open Swap

namespace Swap

/-- The setting that an item gives. -/
def Item.setting? : Item → Option Setting
  | .setting given => some given
  | _ => none

/-- The strategy that an item names. -/
def Item.strategy? : Item → Option Strategy
  | .strategy named => some named
  | _ => none

/-- Something that stands between two stretches of white space. -/
inductive Phrase where
  | word (text : String)
  | setting (given : Setting)
  /-- A key that is not known, with a value. -/
  | unknown (key value : String)
  | comma
  /-- Any other text that does not start like a word. -/
  | token (text : String)

namespace Phrase

def setting? : Phrase → Option Setting
  | .setting given => some given
  | _ => none

/-- The strategy that a phrase names in front of all others. -/
def strategy? : Phrase → Option Strategy
  | .word text => Strategy.ofKeyword? text
  | _ => none

/-- The phrase as an item of the text. -/
def item (isFirst : Bool) : Phrase → Item
  | .word text =>
      match if isFirst then Strategy.ofKeyword? text else none with
      | some named => .strategy named
      | none => .ignored (.word text)
  | .setting given => .setting given
  | .unknown key value => .ignored (.setting key value)
  | .comma => .ignored (.token "")
  | .token text => .ignored (.token text)

theorem item_of_some {isFirst : Bool} {text : String} {named : Strategy}
    (h : (if isFirst then Strategy.ofKeyword? text else none) = some named) :
    (word text).item isFirst = .strategy named := by
  simp only [item, h]

theorem item_of_none {isFirst : Bool} {text : String}
    (h : (if isFirst then Strategy.ofKeyword? text else none) = none) :
    (word text).item isFirst = .ignored (.word text) := by
  simp only [item, h]

def items : Bool → List Phrase → List Item
  | _, [] => []
  | isFirst, phrase :: others => phrase.item isFirst :: items false others

theorem setting?_item (isFirst : Bool) (phrase : Phrase) :
    (phrase.item isFirst).setting? = phrase.setting? := by
  cases phrase with
  | word text =>
      cases hnamed : (if isFirst then Strategy.ofKeyword? text else none) with
      | some named =>
          rw [item_of_some hnamed]
          rfl
      | none =>
          rw [item_of_none hnamed]
          rfl
  | setting given => rfl
  | unknown key value => rfl
  | comma => rfl
  | token text => rfl

/-- Only the first phrase can name a strategy. -/
theorem strategy?_item (isFirst : Bool) (phrase : Phrase) :
    (phrase.item isFirst).strategy? = if isFirst then phrase.strategy? else none := by
  cases phrase with
  | word text =>
      cases hnamed : (if isFirst then Strategy.ofKeyword? text else none) with
      | some named =>
          rw [item_of_some hnamed]
          exact hnamed.symm
      | none =>
          rw [item_of_none hnamed]
          exact hnamed.symm
  | setting given => exact (ite_self none).symm
  | unknown key value => exact (ite_self none).symm
  | comma => exact (ite_self none).symm
  | token text => exact (ite_self none).symm

theorem settings_items (isFirst : Bool) (phrases : List Phrase) :
    (items isFirst phrases).filterMap Item.setting? = phrases.filterMap setting? := by
  induction phrases generalizing isFirst with
  | nil => rfl
  | cons phrase others ih =>
      unfold items
      rw [List.filterMap_cons, List.filterMap_cons, setting?_item, ih]

theorem strategies_items_false (phrases : List Phrase) :
    (items false phrases).filterMap Item.strategy? = [] := by
  induction phrases with
  | nil => rfl
  | cons phrase others ih =>
      unfold items
      rw [List.filterMap_cons, strategy?_item, ih]
      rfl

theorem strategies_items_true (phrases : List Phrase) :
    ((items true phrases).filterMap Item.strategy?).getLast? =
      phrases.head?.bind strategy? := by
  cases phrases with
  | nil => rfl
  | cons phrase others =>
      unfold items
      rw [List.filterMap_cons, strategy?_item, strategies_items_false]
      have hhead : (phrase :: others).head?.bind strategy? = phrase.strategy? := rfl
      rw [hhead, if_pos rfl]
      cases phrase.strategy? <;> rfl

end Phrase

namespace Setting

def time? (timing : Timing) : Setting → Option Duration
  | .delay other time => if other = timing then some time else none
  | _ => none

def place? (movement : Movement) : Setting → Option String
  | .move other place => if other = movement then some place else none
  | _ => none

def isOn? (switch : Switch) : Setting → Option Bool
  | .turn other isOn => if other = switch then some isOn else none
  | _ => none

/-- What the last setting of some kind says. -/
def last? {α : Type} (select : Setting → Option α) (settings : List Setting) : Option α :=
  settings.reverse.findSome? select

theorem getD_last?_cons {α : Type} (select : Setting → Option α) (setting : Setting)
    (settings : List Setting) (value : α) :
    (last? select (setting :: settings)).getD value =
      (last? select settings).getD ((select setting).getD value) := by
  unfold last?
  rw [List.reverse_cons, List.findSome?_append, List.findSome?_singleton]
  cases settings.reverse.findSome? select <;> rfl

end Setting

namespace Options

/-- The options after some settings. Each field is that of the last setting for
it, and stays as it was without one. -/
def override (options : Options) (settings : List Setting) : Options where
  strategy := options.strategy
  swapDelay := (Setting.last? (Setting.time? .swap) settings).getD options.swapDelay
  settleDelay := (Setting.last? (Setting.time? .settle) settings).getD options.settleDelay
  scroll := (Setting.last? (Setting.place? .scroll) settings).getD options.scroll
  reveal := (Setting.last? (Setting.place? .reveal) settings).getD options.reveal
  focusScroll := (Setting.last? (Setting.isOn? .focusScroll) settings).getD options.focusScroll
  transition := (Setting.last? (Setting.isOn? .transition) settings).getD options.transition
  ignoreTitle := (Setting.last? (Setting.isOn? .ignoreTitle) settings).getD options.ignoreTitle

/-- A setting is read by one field and by no other. -/
theorem override_cons (options : Options) (setting : Setting) (settings : List Setting) :
    options.override (setting :: settings) = (options.set setting).override settings := by
  unfold override
  simp only [Setting.getD_last?_cons]
  cases setting with
  | delay timing time => cases timing <;> rfl
  | move movement place => cases movement <;> rfl
  | turn switch isOn => cases switch <;> rfl

/-- A setting leaves the strategy alone, so it does not matter which is first. -/
theorem set_with_strategy (options : Options) (setting : Setting) (strategy : Strategy) :
    { options.set setting with strategy } = { options with strategy }.set setting := by
  cases setting with
  | delay timing time => cases timing <;> rfl
  | move movement place => cases movement <;> rfl
  | turn switch isOn => cases switch <;> rfl

theorem set_strategy (options : Options) (setting : Setting) :
    (options.set setting).strategy = options.strategy :=
  (congrArg Options.strategy (set_with_strategy options setting options.strategy)).symm

/-- What items do to any options, one after another: each is taken up by the
field that it sets, where a later one for the same field replaces it. -/
theorem foldl_applyItem (options : Options) (items : List Item) :
    items.foldl applyItem options =
      { options with
        strategy := (items.filterMap Item.strategy?).getLast?.getD options.strategy }.override
          (items.filterMap Item.setting?) := by
  induction items generalizing options with
  | nil => rfl
  | cons item others ih =>
      rw [List.foldl_cons, ih]
      cases item with
      | strategy named =>
          have hlast : (named :: others.filterMap Item.strategy?).getLast?.getD options.strategy =
              (others.filterMap Item.strategy?).getLast?.getD named := by
            rw [List.getLast?_cons]
            rfl
          simp only [List.filterMap_cons, Item.strategy?, Item.setting?, hlast]
          rfl
      | setting setting =>
          simp only [List.filterMap_cons, Item.strategy?, Item.setting?, override_cons,
            applyItem, set_strategy, set_with_strategy]
      | ignored what => rfl

end Options

end Swap

namespace Grammar

/-- A phrase by itself. -/
inductive PhraseText : Phrase → List Char → Prop
  | word {text : String} (word : Word text) : PhraseText (.word text) text.toList
  | setting {setting : Setting} {used : List Char} (text : SettingText setting used []) :
      PhraseText (.setting setting) used
  | unknown {key value : String} {used : List Char} (word : Word key) (free : key ∉ Setting.keys)
      (text : TokenText value used []) :
      PhraseText (.unknown key value) (key.toList ++ (':' :: used))
  | comma : PhraseText .comma [',']
  | token {text : String} (nonempty : text ≠ "") (bare : ∀ c ∈ text.toList, isBareChar c = true)
      (nameless : ∀ c ∈ text.toList.head?, isNameChar c = false) :
      PhraseText (.token text) text.toList

/-- Phrases with white space between any two of them, and around all of them
where there is some. -/
inductive PhrasesText : List Phrase → List Char → Prop
  | nil {gap : List Char} (blank : Blank gap) : PhrasesText [] gap
  | cons {phrase : Phrase} {others : List Phrase} {gap used rest : List Char} (blank : Blank gap)
      (first : PhraseText phrase used) (apart : Apart rest) (next : PhrasesText others rest) :
      PhrasesText (phrase :: others) (gap ++ (used ++ rest))

variable {used rest : List Char}

theorem SettingText.before {setting : Setting} (h : SettingText setting used [])
    (hrest : Boundary rest) : SettingText setting used rest := by
  cases h with
  | delay value => exact .delay (value.before hrest)
  | move value => exact .move (value.before hrest)
  | turn value => exact .turn ((word_state _).bareRun hrest)

/-- Before white space a phrase is an item. -/
theorem PhraseText.itemText {phrase : Phrase} (h : PhraseText phrase used) (hrest : Apart rest)
    (isFirst : Bool) : ItemText isFirst (phrase.item isFirst) used rest := by
  cases h with
  | @word text word =>
      have halone := hrest.head?_ne (c := ':') (by decide)
      have hname := word.nameRun hrest.boundary
      cases hnamed : (if isFirst then Strategy.ofKeyword? text else none) with
      | some named =>
          rw [Phrase.item_of_some hnamed]
          cases isFirst with
          | false => cases hnamed
          | true => exact .strategy word.nonempty hname halone hnamed
      | none =>
          rw [Phrase.item_of_none hnamed]
          have hplain : isFirst = true → Strategy.ofKeyword? text = none := by
            intro hfirst
            rwa [if_pos hfirst] at hnamed
          have htail : MaximalRun isBareChar "".toList rest := ⟨nofun, hrest.boundary⟩
          have hitem : ItemText isFirst (.ignored (.word (text ++ ""))) _ rest :=
            .word word.nonempty hname halone hplain htail
          simpa using hitem
  | setting text => exact .setting (text.before hrest.boundary)
  | unknown word free text => exact .unknown word free (text.before hrest.boundary)
  | comma =>
      have hitem : ItemText isFirst (.ignored (.token "")) ("".toList ++ [',']) rest :=
        .comma nofun nofun
      exact hitem
  | token nonempty bare nameless =>
      have hrun := MaximalRun.of_boundary (fun _ hc => hc) hrest.boundary bare
      exact .token nonempty nameless hrun (hrest.head?_ne (by decide))

theorem PhrasesText.itemsText {phrases : List Phrase} {text : List Char}
    (h : PhrasesText phrases text) (isFirst : Bool) :
    ItemsText isFirst (Phrase.items isFirst phrases) text := by
  induction h generalizing isFirst with
  | nil blank => exact .nil blank
  | cons blank first apart next ih => exact .cons blank (first.itemText apart isFirst) (ih false)

end Grammar

namespace Swap

open Grammar

theorem parse_of_phrasesText {phrases : List Phrase} {text : String}
    (h : PhrasesText phrases text.toList) (defaults : Defaults) :
    parse defaults text =
      .ok ({ Options.start defaults with
        strategy := (phrases.head?.bind Phrase.strategy?).getD defaults.strategy }.override
          (phrases.filterMap Phrase.setting?)) := by
  refine parse_eq_ok_iff_itemsText.mpr ⟨_, h.itemsText true, ?_⟩
  rw [Options.foldl_applyItem, Phrase.settings_items, Phrase.strategies_items_true]
  rfl

/-- Every text that is made of phrases is read. A field is what the last
setting for it says and its starting value without one, and the strategy is the
one that the first phrase names, or else that of the starting values. -/
theorem parse_eq_last_settings (defaults : Defaults) (phrases : List Phrase) (text : String)
    (h : PhrasesText phrases text.toList) :
    parse defaults text = .ok
      { strategy := (phrases.head?.bind Phrase.strategy?).getD defaults.strategy
        swapDelay := (Setting.last? (Setting.time? .swap)
          (phrases.filterMap Phrase.setting?)).getD defaults.swapDelay
        settleDelay := (Setting.last? (Setting.time? .settle)
          (phrases.filterMap Phrase.setting?)).getD defaults.settleDelay
        scroll := (Setting.last? (Setting.place? .scroll)
          (phrases.filterMap Phrase.setting?)).getD ""
        reveal := (Setting.last? (Setting.place? .reveal)
          (phrases.filterMap Phrase.setting?)).getD ""
        focusScroll := (Setting.last? (Setting.isOn? .focusScroll)
          (phrases.filterMap Phrase.setting?)).getD true
        transition := (Setting.last? (Setting.isOn? .transition)
          (phrases.filterMap Phrase.setting?)).getD false
        ignoreTitle := (Setting.last? (Setting.isOn? .ignoreTitle)
          (phrases.filterMap Phrase.setting?)).getD false } :=
  parse_of_phrasesText h defaults

theorem parse_eq_last_settings_behind_skipped :
    PhrasesText
        [.word "beforeEND", .setting (.delay .swap ⟨5000, by decide⟩), .comma,
          .unknown "foo" "swap:1 2", .setting (.delay .swap ⟨20, by decide⟩), .word "delete"]
        "beforeEND\u3000swap:5s , foo:'swap:1 2' swap:20 delete\n".toList ∧
      parse ⟨.keep, ⟨7, by decide⟩, ⟨9, by decide⟩⟩
          "beforeEND\u3000swap:5s , foo:'swap:1 2' swap:20 delete\n" =
        .ok ⟨.beforeEnd, ⟨20, by decide⟩, ⟨9, by decide⟩, "", "", true, false, false⟩ := by
  have hwide : Blank ['\u3000'] := by decide
  have hline : Blank ['\n'] := by decide
  have hspace : ∀ text, Apart (' ' :: text) := blank_space.apart (by decide)
  have hfirst : PhraseText (.word "beforeEND") _ := .word (by decide)
  have hseconds : DurationText ⟨5000, by decide⟩ (['5'] ++ ['s']) [] :=
    .intro (by decide) (by decide) (by decide) .seconds (by decide)
  have hlong : PhraseText (.setting (.delay .swap ⟨5000, by decide⟩)) _ :=
    .setting (.delay hseconds)
  have hquoted : TokenText "swap:1 2" _ [] := .quoted (.intro '\'' (by decide) (by decide))
  have hunknown : PhraseText (.unknown "foo" "swap:1 2") _ :=
    .unknown (by decide) (by decide) hquoted
  have hplain : DurationText ⟨20, by decide⟩ (['2', '0'] ++ []) [] :=
    .intro (by decide) (by decide) (by decide) .none (by decide)
  have hshort : PhraseText (.setting (.delay .swap ⟨20, by decide⟩)) _ :=
    .setting (.delay hplain)
  have hlast : PhraseText (.word "delete") _ := .word (by decide)
  have hphrases : PhrasesText _ _ :=
    .cons blank_nil hfirst (hwide.apart (by decide) _) <|
    .cons hwide hlong (hspace _) <|
    .cons blank_space .comma (hspace _) <|
    .cons blank_space hunknown (hspace _) <|
    .cons blank_space hshort (hspace _) <|
    .cons blank_space hlast (hline.apart (by decide) []) <|
    .nil hline
  refine ⟨hphrases, (parse_eq_last_settings _ _ _ hphrases).trans ?_⟩
  decide

end Swap

end Hypermedia
