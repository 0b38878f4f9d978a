import Mathlib.Control.Monad.Basic
import Hypermedia.Proofs.Swap.Meaning
import Hypermedia.Proofs.Token

/-!
What becomes of a swap that is written down and read again. The writer leaves
out what has its documented starting value, while the reader may start from
other values. The two agree about everything but the delays, because those are
all that the starting values and the settings have in common.
-/

namespace Hypermedia.Swap

open Grammar

namespace Options

/-- The settings that are written. -/
def spoken (options : Options) : List Setting :=
  options.settings.filter fun setting => !(start .documented).settings.contains setting

theorem mem_spoken_iff {options : Options} {setting : Setting} :
    setting ∈ options.spoken ↔
      setting ∈ options.settings ∧ setting ∉ (start .documented).settings := by
  unfold spoken
  rw [List.mem_filter]
  simp

/-- The options as they are read back over some starting values. A delay of
zero is not written, so it is not read back either. -/
def reread (options : Options) (defaults : Defaults) : Options :=
  { options with
    swapDelay := if options.swapDelay = .zero then defaults.swapDelay else options.swapDelay
    settleDelay :=
      if options.settleDelay = .zero then defaults.settleDelay else options.settleDelay }

theorem ite_zero_eq_self_iff {time other : Duration} :
    (if time = .zero then other else time) = time ↔ (time = .zero → other = .zero) := by
  split
  · rename_i h
    subst h
    exact ⟨fun h _ => h, fun h => h rfl⟩
  · rename_i h
    exact ⟨fun _ hzero => absurd hzero h, fun _ => rfl⟩

theorem reread_eq_self_iff {options : Options} {defaults : Defaults} :
    options.reread defaults = options ↔
      (options.swapDelay = .zero → defaults.swapDelay = .zero) ∧
        (options.settleDelay = .zero → defaults.settleDelay = .zero) := by
  rw [← ite_zero_eq_self_iff, ← ite_zero_eq_self_iff]
  constructor
  · intro h
    exact ⟨congrArg swapDelay h, congrArg settleDelay h⟩
  · rintro ⟨hswap, hsettle⟩
    unfold reread
    rw [hswap, hsettle]

end Options

/-- A field of the options, together with the settings that are for it. Among
the settings of any options there is exactly one of them, and it gives the
value of the field. -/
structure Field (α : Type) where
  get : Options → α
  make : α → Setting
  select : Setting → Option α
  select_make : ∀ value, select (make value) = some value
  mem_settings : ∀ options, make (get options) ∈ options.settings
  only : ∀ options, ∀ setting ∈ options.settings, ∀ value,
    select setting = some value → setting = make (get options)

namespace Field

def delay (timing : Timing) : Field Duration where
  get options :=
    match timing with
    | .swap => options.swapDelay
    | .settle => options.settleDelay
  make := .delay timing
  select := Setting.time? timing
  select_make _ := if_pos rfl
  mem_settings _ := by cases timing <;> simp [Options.settings]
  only _ := by cases timing <;> simp [Options.settings, Setting.time?]

def move (movement : Movement) : Field String where
  get options :=
    match movement with
    | .scroll => options.scroll
    | .reveal => options.reveal
  make := .move movement
  select := Setting.place? movement
  select_make _ := if_pos rfl
  mem_settings _ := by cases movement <;> simp [Options.settings]
  only _ := by cases movement <;> simp [Options.settings, Setting.place?]

def turn (switch : Switch) : Field Bool where
  get options :=
    match switch with
    | .focusScroll => options.focusScroll
    | .transition => options.transition
    | .ignoreTitle => options.ignoreTitle
  make := .turn switch
  select := Setting.isOn? switch
  select_make _ := if_pos rfl
  mem_settings _ := by cases switch <;> simp [Options.settings]
  only _ := by cases switch <;> simp [Options.settings, Setting.isOn?]

theorem mem_settings_iff {α : Type} (field : Field α) {options other : Options} :
    field.make (field.get options) ∈ other.settings ↔ field.get options = field.get other := by
  constructor
  · intro h
    have hmake := field.only other _ h _ (field.select_make _)
    have hselect := congrArg field.select hmake
    rw [field.select_make, field.select_make] at hselect
    exact Option.some.inj hselect
  · intro h
    rw [h]
    exact field.mem_settings other

variable {α : Type} [DecidableEq α]

/-- A field is read back as it was, or as some other value if it was left
out. -/
theorem getD_last?_spoken (field : Field α) (options : Options) (value : α) :
    (Setting.last? field.select options.spoken).getD value =
      if field.get options = field.get (.start .documented) then value
      else field.get options := by
  unfold Setting.last?
  cases hfound : options.spoken.reverse.findSome? field.select with
  | some found =>
      obtain ⟨setting, hmem, hselect⟩ := List.exists_of_findSome?_eq_some hfound
      obtain ⟨hsetting, hspoken⟩ := Options.mem_spoken_iff.mp (List.mem_reverse.mp hmem)
      obtain rfl := field.only options setting hsetting found hselect
      rw [field.mem_settings_iff] at hspoken
      rw [if_neg hspoken]
      rw [field.select_make] at hselect
      exact (Option.some.inj hselect).symm
  | none =>
      have hsilent : field.get options = field.get (.start .documented) := by
        by_contra hne
        have hspoken : field.make (field.get options) ∈ options.spoken :=
          Options.mem_spoken_iff.mpr
            ⟨field.mem_settings options, mt field.mem_settings_iff.mp hne⟩
        have hnone := List.findSome?_eq_none_iff.mp hfound _ (List.mem_reverse.mpr hspoken)
        rw [field.select_make] at hnone
        cases hnone
      rw [if_pos hsilent]
      rfl

theorem getD_last?_spoken_start (field : Field α) (options : Options) :
    (Setting.last? field.select options.spoken).getD (field.get (.start .documented)) =
      field.get options := by
  rw [getD_last?_spoken]
  split
  · rename_i hsilent
    exact hsilent.symm
  · rfl

end Field

theorem Options.override_spoken (options : Options) (defaults : Defaults) :
    { start defaults with strategy := options.strategy }.override options.spoken =
      options.reread defaults := by
  have hswap := (Field.delay .swap).getD_last?_spoken options defaults.swapDelay
  have hsettle := (Field.delay .settle).getD_last?_spoken options defaults.settleDelay
  have hmove := fun movement => (Field.move movement).getD_last?_spoken_start options
  have hturn := fun switch => (Field.turn switch).getD_last?_spoken_start options
  simp only [override, reread, Options.mk.injEq, true_and]
  exact ⟨hswap, hsettle, hmove .scroll, hmove .reveal, hturn .focusScroll, hturn .transition,
    hturn .ignoreTitle⟩

/-- A setting with a text. -/
def Setting.Writable : Setting → Prop
  | .move _ place => Token.Quotable [] place
  | _ => True

/-- Options with a text: what to scroll to and what to show do not need quotes
and hold both kinds. -/
structure Options.Writable (options : Options) : Prop where
  scroll : Token.Quotable [] options.scroll
  reveal : Token.Quotable [] options.reveal

end Hypermedia.Swap

namespace Hypermedia.Grammar

open Swap

theorem settingText_written {setting : Setting} (h : setting.Writable) {rest : List Char}
    (hrest : Boundary rest) : SettingText setting setting.written.toList rest := by
  cases setting with
  | delay timing time =>
      have hwritten : (Setting.delay timing time).written.toList =
          timing.keyword.toList ++ (':' :: time.written.toList) := by
        simp [Setting.written]
      rw [hwritten]
      exact .delay (durationText_written time hrest)
  | move movement place =>
      have hwritten : (Setting.move movement place).written.toList =
          movement.keyword.toList ++ (':' :: (Token.written [] place).toList) := by
        simp [Setting.written]
      rw [hwritten]
      exact .move (tokenText_written h hrest)
  | turn switch isOn =>
      have hwritten : (Setting.turn switch isOn).written.toList =
          switch.keyword.toList ++ (':' :: (Switch.state isOn).toList) := by
        cases isOn <;> simp [Setting.written, Switch.state]
      rw [hwritten]
      exact .turn ((word_state isOn).bareRun hrest)

theorem apart_spaced (texts : List String) : Apart (Token.spaced texts) := by
  cases texts with
  | nil => exact nofun
  | cons text others => exact blank_space.apart (by decide) _

theorem phrasesText_settings {settings : List Setting}
    (h : ∀ setting ∈ settings, setting.Writable) :
    PhrasesText (settings.map .setting) (Token.spaced (settings.map Setting.written)) := by
  induction settings with
  | nil => exact .nil blank_nil
  | cons setting others ih =>
      obtain ⟨hfirst, hothers⟩ := List.forall_mem_cons.mp h
      exact .cons blank_space (.setting (settingText_written hfirst nofun)) (apart_spaced _)
        (ih hothers)

/-- Nothing but a token gives a place to go to. -/
theorem writable_of_settingText {setting : Setting} {used rest : List Char}
    (h : SettingText setting used rest) : setting.Writable := by
  cases h with
  | delay value => trivial
  | move value => exact quotable_of_tokenText value
  | turn value => trivial

end Hypermedia.Grammar

namespace Hypermedia.Swap

open Grammar

theorem Options.Writable.set {options : Options} {setting : Setting} (h : options.Writable)
    (hsetting : setting.Writable) : (options.set setting).Writable := by
  cases setting with
  | delay timing time => cases timing <;> exact ⟨h.scroll, h.reveal⟩
  | move movement place =>
      cases movement with
      | scroll => exact ⟨hsetting, h.reveal⟩
      | reveal => exact ⟨h.scroll, hsetting⟩
  | turn switch isOn => cases switch <;> exact ⟨h.scroll, h.reveal⟩

theorem Options.Writable.applyItem {options : Options} {isFirst : Bool} {item : Item}
    {used rest : List Char} (h : options.Writable) (htext : ItemText isFirst item used rest) :
    (options.applyItem item).Writable := by
  cases htext with
  | setting text => exact h.set (writable_of_settingText text)
  | strategy => exact ⟨h.scroll, h.reveal⟩
  | word => exact h
  | unknown => exact h
  | unclosed => exact h
  | token => exact h
  | comma => exact h

theorem Options.Writable.foldl_applyItem {options : Options} {isFirst : Bool} {items : List Item}
    {text : List Char} (h : options.Writable) (htext : ItemsText isFirst items text) :
    (items.foldl Options.applyItem options).Writable := by
  induction htext generalizing options with
  | nil blank => exact h
  | cons blank first others ih => exact ih (h.applyItem first)

theorem Options.writable_start (defaults : Defaults) : (start defaults).Writable := by
  have hempty : Token.Quotable [] "" := fun _ hboth => absurd hboth.1 (by decide)
  exact ⟨hempty, hempty⟩

/-- Whatever was read can be written, over any starting values. -/
theorem writable_of_parse {defaults : Defaults} {text : String} {options : Options}
    (h : parse defaults text = .ok options) : options.Writable := by
  obtain ⟨items, hitems, rfl⟩ := parse_eq_ok_iff_itemsText.mp h
  exact (Options.writable_start defaults).foldl_applyItem hitems

theorem Options.Writable.spoken {options : Options} (h : options.Writable) :
    ∀ setting ∈ options.spoken, setting.Writable := by
  intro setting hspoken
  obtain ⟨hmem, -⟩ := mem_spoken_iff.mp hspoken
  cases setting with
  | delay timing time => trivial
  | move movement place =>
      have honly := (Field.move movement).only options _ hmem place (if_pos rfl)
      cases movement with
      | scroll =>
          cases honly
          exact h.scroll
      | reveal =>
          cases honly
          exact h.reveal
  | turn switch isOn => trivial

/-- The written form is a swap of its own: the strategy and then the settings
that are written. -/
theorem phrasesText_written {options : Options} (h : options.Writable) :
    PhrasesText (.word options.strategy.keyword :: options.spoken.map .setting)
      options.written.toList := by
  have hwritten : options.written.toList = [] ++ (options.strategy.keyword.toList ++
      Token.spaced (options.spoken.map Setting.written)) :=
    Token.toList_intercalate_space _ _
  rw [hwritten]
  exact .cons blank_nil (.word (word_strategy _)) (apart_spaced _)
    (phrasesText_settings h.spoken)

theorem parse_written_of_writable {options : Options} (h : options.Writable)
    (defaults : Defaults) : parse defaults options.written = .ok (options.reread defaults) := by
  have hsettings : (Phrase.word options.strategy.keyword ::
      options.spoken.map Phrase.setting).filterMap Phrase.setting? = options.spoken := by
    rw [List.filterMap_cons, List.filterMap_map]
    exact List.filterMap_some
  have hstrategy : (Phrase.word options.strategy.keyword).strategy? = some options.strategy :=
    Strategy.ofKeyword?_keyword options.strategy
  rw [parse_of_phrasesText (phrasesText_written h), hsettings, List.head?_cons, Option.bind_some,
    hstrategy, ← Options.override_spoken]
  rfl

/-- What is written over some starting values and read over others. Only the
delays of zero depend on these, so with the documented values nothing changes.
Options without a text are never read back as they were. -/
theorem parse_written_over (defaults : Defaults) :
    (∀ options : Options, options.Writable →
        parse defaults options.written = .ok (options.reread defaults)) ∧
      (∀ options : Options, ¬ options.Writable →
        parse defaults options.written ≠ .ok options) ∧
      (∀ (text : String) (options : Options), parse defaults text = .ok options →
        options.Writable ∧ parse .documented options.written = .ok options ∧
          ∀ others : Defaults, parse others options.written = .ok options ↔
            (options.swapDelay = .zero → others.swapDelay = .zero) ∧
              (options.settleDelay = .zero → others.settleDelay = .zero)) := by
  have hagain : ∀ {options : Options}, options.Writable → ∀ others : Defaults,
      parse others options.written = .ok options ↔
        (options.swapDelay = .zero → others.swapDelay = .zero) ∧
          (options.settleDelay = .zero → others.settleDelay = .zero) := by
    intro options h others
    rw [parse_written_of_writable h, Except.ok.injEq, Options.reread_eq_self_iff]
  refine ⟨fun options h => parse_written_of_writable h defaults, ?_, ?_⟩
  · intro options hunwritable hread
    exact hunwritable (writable_of_parse hread)
  · intro text options hread
    have h := writable_of_parse hread
    exact ⟨h, (hagain h _).mpr ⟨fun _ => rfl, fun _ => rfl⟩, hagain h⟩

/-- Options can be read over starting values, written, and not be the same once
they are read over the same values again. -/
theorem parse_written_over_zero_delay :
    parse ⟨.keep, ⟨7, by decide⟩, ⟨9, by decide⟩⟩
          (Options.written ⟨.delete, .zero, ⟨250, by decide⟩, "#a, it's", "", false, true, false⟩) =
        .ok ⟨.delete, ⟨7, by decide⟩, ⟨250, by decide⟩, "#a, it's", "", false, true, false⟩ ∧
      parse .documented
          (Options.written ⟨.delete, .zero, .zero, "", "it's \"a\"", true, false, false⟩) ≠
        .ok ⟨.delete, .zero, .zero, "", "it's \"a\"", true, false, false⟩ ∧
      parse ⟨.keep, ⟨7, by decide⟩, ⟨9, by decide⟩⟩ "innerhtml settle:0s" =
        .ok ⟨.innerHTML, ⟨7, by decide⟩, .zero, "", "", true, false, false⟩ ∧
      parse .documented
          (Options.written ⟨.innerHTML, ⟨7, by decide⟩, .zero, "", "", true, false, false⟩) =
        .ok ⟨.innerHTML, ⟨7, by decide⟩, .zero, "", "", true, false, false⟩ ∧
      parse ⟨.keep, ⟨7, by decide⟩, ⟨9, by decide⟩⟩
          (Options.written ⟨.innerHTML, ⟨7, by decide⟩, .zero, "", "", true, false, false⟩) ≠
        .ok ⟨.innerHTML, ⟨7, by decide⟩, .zero, "", "", true, false, false⟩ := by
  have hread : parse ⟨.keep, ⟨7, by decide⟩, ⟨9, by decide⟩⟩ "innerhtml settle:0s" =
      .ok ⟨.innerHTML, ⟨7, by decide⟩, .zero, "", "", true, false, false⟩ := by
    decide +kernel
  obtain ⟨-, hdocumented, hothers⟩ := (parse_written_over _).2.2 _ _ hread
  refine ⟨(parse_written_over _).1 _ ⟨?_, ?_⟩, (parse_written_over _).2.1 _ ?_, hread,
    hdocumented, ?_⟩
  · exact fun _ hboth => absurd hboth.1 (by decide)
  · exact fun _ hboth => absurd hboth.1 (by decide)
  · intro hwritable
    exact hwritable.reveal (.inr (.inl ⟨' ', by decide, by decide⟩)) (by decide)
  · intro hsame
    exact absurd (((hothers _).mp hsame).2 rfl) (by decide)

end Hypermedia.Swap
