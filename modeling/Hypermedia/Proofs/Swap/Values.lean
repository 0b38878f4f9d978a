import Mathlib.Control.Monad.Basic
import Hypermedia.Proofs.Swap.Recognition

/-!
The value of a known key. A switch takes a whole token and accepts two of them.
A delay takes the longest duration behind its key and leaves the rest of the
token to the items that follow. Since nearly every text is a run of items, a
token that only starts like a duration is accepted for that duration, and what
is wrong with it is passed over.
-/

namespace Hypermedia

open Swap

namespace Grammar

/-- A duration, and at once something more that can be read as items. -/
def Overgrown (text : List Char) : Prop :=
  ∃ time used rest items, rest ≠ [] ∧ text = used ++ rest ∧ DurationText time used rest ∧
    ItemsText false items rest

/-- A duration is not overgrown as well. -/
theorem DurationText.not_overgrown {time : Duration} {text : List Char}
    (h : DurationText time text []) : ¬ Overgrown text := by
  rintro ⟨other, used, rest, items, hne, hsplit, hother, -⟩
  rw [← List.append_nil text] at hsplit
  exact hne (h.unique hother hsplit).2.symm

/-- There is nothing to read in no text. -/
theorem items_of_nil {isFirst : Bool} {items : List Item} (h : ItemsText isFirst items []) :
    items = [] := by
  generalize htext : ([] : List Char) = text at h
  cases h with
  | nil blank => rfl
  | cons blank first others =>
      obtain ⟨c, more, rfl, -⟩ := first.head
      simp at htext

end Grammar

namespace Swap

open Cursor Grammar Reader

variable {isFirst : Bool} {c : Cursor} {key : String} {behind : List Char}

/-- A text that starts with a key and a colon has the value of that key for its
first item. -/
theorem items_of_key {items : List Item} (hkey : Word key)
    (hrest : c.rest = key.toList ++ (':' :: behind)) (h : ItemsText isFirst items c.rest) :
    ∃ item others here d, items = item :: others ∧ here.rest = behind ∧
      Item.valueReader key here = .ok item d ∧ ItemsText false others d.rest := by
  obtain ⟨first, more, hhead, hname⟩ := hkey.head (':' :: behind)
  have hsolid := not_isBlank_of_isNameChar hname
  generalize htext : c.rest = text at h
  have hstart : text = first :: more := by rw [← htext, hrest, hhead]
  cases h with
  | nil blank =>
      have hblank : Text.isBlank first = true := by
        refine blank first ?_
        rw [hstart]
        exact List.mem_cons_self
      rw [hsolid] at hblank
      cases hblank
  | @cons _ item others gap used rest blank hitem hothers =>
      cases gap with
      | cons g gap =>
          have hg : g = first := (List.cons.inj hstart).1
          have hblank : Text.isBlank g = true := blank g List.mem_cons_self
          rw [hg, hsolid] at hblank
          cases hblank
      | nil =>
          have htakes : c.Takes used ⟨c.position.after used, rest⟩ := ⟨htext, rfl⟩
          have hread := reader_complete htakes hitem
          have hall := c.takes_rest
          rw [hrest] at hall
          obtain ⟨here, hbehind, hat, hrun⟩ := namedReader_run_of_key isFirst hkey hall
          rw [reader_run_of_name hat, hrun] at hread
          refine ⟨item, others, here, _, rfl, ?_, hread, hothers⟩
          rw [hbehind.rest_eq, List.append_nil]

variable {defaults : Defaults} {options : Options} {value : String}

theorem toList_keyed (key value : String) :
    (key ++ ":" ++ value).toList = key.toList ++ (':' :: value.toList) := by
  simp

/-- A delay is set to the duration that stands behind its key, and what is left
of the text is read from there on. -/
theorem parse_delay_eq_ok_iff {timing : Timing} :
    parse defaults (timing.keyword ++ ":" ++ value) = .ok options ↔
      ∃ time used rest items, value.toList = used ++ rest ∧ DurationText time used rest ∧
        ItemsText false items rest ∧
        options = items.foldl Options.applyItem
          ((Options.start defaults).set (.delay timing time)) := by
  rw [parse_eq_ok_iff_itemsText]
  constructor
  · rintro ⟨items, hitems, rfl⟩
    obtain ⟨item, others, here, d, rfl, hhere, hread, hothers⟩ :=
      items_of_key (c := .start _) (word_timing timing) (toList_keyed _ value) hitems
    rw [valueReader_of_timing] at hread
    obtain ⟨time, stop, htime, hread⟩ := ok_of_bind hread
    cases hread
    obtain ⟨used, htakes, htext⟩ := duration_eq_ok_iff.mp htime
    exact ⟨time, used, d.rest, others, hhere.symm.trans htakes.rest_eq, htext, hothers, rfl⟩
  · rintro ⟨time, used, rest, items, hvalue, htext, hitems, rfl⟩
    refine ⟨.setting (.delay timing time) :: items, ?_, rfl⟩
    have htexts : ItemsText true (.setting (.delay timing time) :: items) _ :=
      .cons blank_nil (.setting (.delay htext)) hitems
    rw [toList_keyed, hvalue]
    simpa using htexts

/-- A switch takes a whole token. -/
theorem parse_switch_eq_ok_iff {switch : Switch} (hbare : ∀ x ∈ value.toList, isBareChar x = true) :
    parse defaults (switch.keyword ++ ":" ++ value) = .ok options ↔
      ∃ isOn, value = Switch.state isOn ∧
        options = (Options.start defaults).set (.turn switch isOn) := by
  rw [parse_eq_ok_iff_itemsText]
  constructor
  · rintro ⟨items, hitems, rfl⟩
    obtain ⟨item, others, here, d, rfl, hhere, hread, hothers⟩ :=
      items_of_key (c := .start _) (word_switch switch) (toList_keyed _ value) hitems
    rw [valueReader_of_switch] at hread
    obtain ⟨isOn, stop, hisOn, hread⟩ := ok_of_bind hread
    cases hread
    obtain ⟨htakes, hrun⟩ := switchValue_eq_ok_iff.mp hisOn
    have hvalue : value.toList = (Switch.state isOn).toList ++ d.rest :=
      hhere.symm.trans htakes.rest_eq
    -- A token ends at white space or a comma, and the value has neither.
    have hend : d.rest = [] := by
      cases hrest : d.rest with
      | nil => rfl
      | cons x more =>
          have hx := hrun.ends x (by rw [hrest]; rfl)
          rw [hbare x (by rw [hvalue, hrest]; simp)] at hx
          cases hx
    rw [hend] at hothers hvalue
    rw [items_of_nil hothers]
    refine ⟨isOn, String.toList_injective ?_, rfl⟩
    rw [hvalue, List.append_nil]
  · rintro ⟨isOn, rfl, rfl⟩
    refine ⟨[.setting (.turn switch isOn)], ?_, rfl⟩
    have hrun : MaximalRun isBareChar (Switch.state isOn).toList [] :=
      (word_state isOn).bareRun nofun
    have htexts : ItemsText true [.setting (.turn switch isOn)] _ :=
      .cons blank_nil (.setting (.turn hrun)) (.nil blank_nil)
    rw [toList_keyed]
    simpa using htexts

/-- A delay is accepted by itself, and an overgrown one too. -/
theorem parse_delay_isOk_iff {timing : Timing} :
    (∃ options, parse defaults (timing.keyword ++ ":" ++ value) = .ok options) ↔
      (∃ time, DurationText time value.toList []) ∨ Overgrown value.toList := by
  simp only [parse_delay_eq_ok_iff]
  constructor
  · rintro ⟨options, time, used, rest, items, hvalue, htext, hitems, -⟩
    by_cases hrest : rest = []
    · subst hrest
      rw [List.append_nil] at hvalue
      rw [← hvalue] at htext
      exact .inl ⟨time, htext⟩
    · exact .inr ⟨time, used, rest, items, hrest, hvalue, htext, hitems⟩
  · rintro (⟨time, htext⟩ | ⟨time, used, rest, items, -, hvalue, htext, hitems⟩)
    · exact ⟨_, time, _, [], [], (List.append_nil _).symm, htext, .nil blank_nil, rfl⟩
    · exact ⟨_, time, used, rest, items, hvalue, htext, hitems, rfl⟩

/-- What the value of a known key has to be if nothing else is in the text. A
delay is set to the duration that its value starts with, whatever items touch
it, so only the values that are not overgrown are accepted exactly if they are
durations. A switch takes its two words and nothing else. -/
theorem parse_lone_setting (defaults : Defaults) (value : String)
    (hbare : ∀ c ∈ value.toList, isBareChar c = true) :
    (∀ (timing : Timing) options, parse defaults (timing.keyword ++ ":" ++ value) = .ok options ↔
      ∃ time used rest items, value.toList = used ++ rest ∧ DurationText time used rest ∧
        ItemsText false items rest ∧
        options = items.foldl Options.applyItem
          ((Options.start defaults).set (.delay timing time))) ∧
    (∀ timing : Timing,
      ((∃ options, parse defaults (timing.keyword ++ ":" ++ value) = .ok options) ↔
        ∃ time, DurationText time value.toList []) ↔ ¬ Overgrown value.toList) ∧
    ∀ (switch : Switch) options, parse defaults (switch.keyword ++ ":" ++ value) = .ok options ↔
      ∃ isOn, value = Switch.state isOn ∧
        options = (Options.start defaults).set (.turn switch isOn) := by
  refine ⟨fun _ _ => parse_delay_eq_ok_iff, fun timing => ?_,
    fun _ _ => parse_switch_eq_ok_iff hbare⟩
  rw [parse_delay_isOk_iff]
  constructor
  · rintro hsame hovergrown
    obtain ⟨time, htext⟩ := hsame.mp (.inr hovergrown)
    exact htext.not_overgrown hovergrown
  · intro hplain
    exact or_iff_left hplain

/-- A number and a letter that no unit has: the letter starts an unknown key. -/
theorem parse_lone_setting_of_overgrown :
    (∀ c ∈ "5é:'a'".toList, isBareChar c = true) ∧
      parse .documented (Timing.settle.keyword ++ ":" ++ "5é:'a'") =
        .ok ⟨.innerHTML, .zero, ⟨5, by decide⟩, "", "", true, false, false⟩ ∧
      ¬ ((∃ options, parse .documented (Timing.settle.keyword ++ ":" ++ "5é:'a'") = .ok options) ↔
        ∃ time, DurationText time "5é:'a'".toList []) ∧
      ¬ ∃ options,
        parse .documented (Switch.transition.keyword ++ ":" ++ "5é:'a'") = .ok options := by
  have hbare : ∀ c ∈ "5é:'a'".toList, isBareChar c = true := List.all_eq_true.mp (by decide)
  have hfive : DurationText ⟨5, by decide⟩ (['5'] ++ []) "é:'a'".toList :=
    .intro (by decide) (by decide) (by decide) .none (by decide)
  have hquoted : TokenText "a" _ [] := .quoted (.intro '\'' (by decide) (by decide))
  have hunknown : ItemText false (.ignored (.setting "é" "a")) _ [] :=
    .unknown (by decide) (by decide) hquoted
  have hitems : ItemsText false [.ignored (.setting "é" "a")] "é:'a'".toList :=
    .cons blank_nil hunknown (.nil blank_nil)
  have hovergrown : Overgrown "5é:'a'".toList :=
    ⟨_, _, _, _, by decide, by decide, hfive, hitems⟩
  obtain ⟨hdelay, hexact, hswitch⟩ := parse_lone_setting .documented "5é:'a'" hbare
  refine ⟨hbare, (hdelay .settle _).mpr ⟨_, _, _, _, by decide, hfive, hitems, by decide⟩,
    fun hsame => (hexact .settle).mp hsame hovergrown, ?_⟩
  rintro ⟨options, hoptions⟩
  obtain ⟨isOn, hisOn, -⟩ := (hswitch .transition _).mp hoptions
  cases isOn <;> exact absurd hisOn (by decide)

/-- A fraction is no duration, but a delay is set to its whole part. -/
theorem parse_fraction :
    parse .documented "swap:1.5s" =
        .ok ⟨.innerHTML, ⟨1, by decide⟩, .zero, "", "", true, false, false⟩ ∧
      ¬ ∃ time, DurationText time "1.5s".toList [] := by
  have hone : DurationText ⟨1, by decide⟩ (['1'] ++ []) ['.', '5', 's'] :=
    .intro (by decide) (by decide) (by decide) .none (by decide)
  refine ⟨by decide +kernel, ?_⟩
  rintro ⟨time, htext⟩
  exact absurd (htext.unique hone (by decide)).2 (by decide)

end Swap

end Hypermedia
