import Hypermedia.Manifest
import Hypermedia.Proofs.Swap.Meaning

/-!
What the configured starting values of swaps can have an effect on. The items
of a text and its first fault are the text's own, also where the options are
carried along while the text is read. The starting values only fill the fields
that no item sets, and of those only the strategy and the two delays, so no
attribute becomes readable or unreadable by a change of the settings.
-/

namespace Hypermedia

open Grammar

namespace Swap

/-- Reading with the options in hand: each item changes them as soon as it has
been read, and a fault throws them away. -/
def pass (isFirst : Bool) (options : Options) (c : Cursor) : Except ParseError Options :=
  let here := c.pastRun Text.isBlank
  if _hend : here.atEnd then .ok options
  else
    match _h : Item.reader isFirst here with
    | .error e _ => .error e
    | .ok item next => pass false (options.applyItem item) next
termination_by c.rest.length
decreasing_by
  have hitem : next.rest.length < here.rest.length :=
    Item.length_lt_of_reader (isAt_pastRun_isBlank c) (by simpa using _hend) _h
  have hblank : here.rest.length ≤ c.rest.length :=
    (c.reaches_pastRun Text.isBlank).length_le
  omega

/-- It makes no difference whether all items are found first, or each of them is
laid over the options before the next one is looked for. -/
theorem pass_eq_foldl (isFirst : Bool) (options : Options) (c : Cursor) :
    pass isFirst options c = (entries isFirst c).toExcept.map (·.foldl Options.apply options) := by
  fun_induction pass isFirst options c with
  | case1 isFirst options c here hend =>
      have hrest : here.rest = [] := by simpa [Cursor.atEnd] using hend
      rw [entries_of_end hrest]
      rfl
  | case2 isFirst options c here hend e d hfault =>
      rw [entries_of_error (by simpa using hend) hfault]
      rfl
  | case3 isFirst options c here hend item next hread ih =>
      obtain ⟨entry, hentry, -, -, -, hrun⟩ := entries_of_ok (by simpa using hend) hread
      rw [ih, hrun, Reading.toExcept_cons]
      have happly : options.applyItem item = options.apply entry := by
        rw [← hentry]
        rfl
      rw [happly]
      cases (entries false next).toExcept <;> rfl

theorem parse_eq_pass (defaults : Defaults) (text : String) :
    parse defaults text = pass true (.start defaults) (.start text) :=
  (pass_eq_foldl true _ _).symm

/-- The options that the items of a text give. A field that none of them sets
has its starting value, and only three of those can be configured. -/
def Options.ofItems (defaults : Defaults) (items : List Item) : Options :=
  let given := items.filterMap Item.setting?
  { strategy := (items.filterMap Item.strategy?).getLast?.getD defaults.strategy
    swapDelay := (Setting.last? (Setting.time? .swap) given).getD defaults.swapDelay
    settleDelay := (Setting.last? (Setting.time? .settle) given).getD defaults.settleDelay
    scroll := (Setting.last? (Setting.place? .scroll) given).getD ""
    reveal := (Setting.last? (Setting.place? .reveal) given).getD ""
    focusScroll := (Setting.last? (Setting.isOn? .focusScroll) given).getD true
    transition := (Setting.last? (Setting.isOn? .transition) given).getD false
    ignoreTitle := (Setting.last? (Setting.isOn? .ignoreTitle) given).getD false }

theorem Options.foldl_applyItem_start (defaults : Defaults) (items : List Item) :
    items.foldl applyItem (.start defaults) = .ofItems defaults items :=
  foldl_applyItem _ items

/-- Whether a text can be read, what its fault is and which items it has is the
same for all starting values. -/
theorem parse_error_or_items (text : String) :
    (∃ e, ∀ defaults, parse defaults text = .error e) ∨
      ∃ items, ItemsText true items text.toList ∧
        ∀ defaults, parse defaults text = .ok (.ofItems defaults items) := by
  cases hfound : (read text).toExcept with
  | error e =>
      left
      refine ⟨e, fun defaults => ?_⟩
      unfold parse
      rw [hfound]
      rfl
  | ok found =>
      right
      have hread : parse .documented text = .ok (.ofEntries .documented found) := by
        unfold parse
        rw [hfound]
        rfl
      obtain ⟨items, hitems, -⟩ := parse_eq_ok_iff_itemsText.mp hread
      refine ⟨items, hitems, fun defaults => parse_eq_ok_iff_itemsText.mpr ⟨items, hitems, ?_⟩⟩
      exact (Options.foldl_applyItem_start defaults items).symm

end Swap

namespace Manifest

open Swap

/-- Only swaps start from the configured values. -/
theorem Entry.report_eq {entry : Entry} (h : entry.kind ≠ .swap) (defaults others : Defaults) :
    entry.report defaults = entry.report others := by
  obtain ⟨kind, name, value⟩ := entry
  cases kind with
  | trigger => rfl
  | swap => exact absurd rfl h
  | sync => rfl

/-- A swap may get another report from other starting values, but not one that
fails where the first did not. -/
theorem Entry.isGood_report_eq (entry : Entry) (defaults others : Defaults) :
    (entry.report defaults).isGood = (entry.report others).isGood := by
  by_cases hkind : entry.kind = .swap
  · obtain ⟨kind, name, value⟩ := entry
    cases hkind
    obtain ⟨e, hfault⟩ | ⟨items, -, hread⟩ := parse_error_or_items value
    · simp only [Entry.report, Attribute.parse, hfault]
    · simp only [Entry.report, Attribute.parse, hread]
      rfl
  · rw [Entry.report_eq hkind]

/-- The starting values of swaps are seen where a text is silent, and nowhere
else, although the options are in hand all the time a text is read. Every text has its fault, or its items, whatever the starting values are;
the fields that the items set are the same for all starting values, and so are
those that cannot be configured. In a manifest the same entries fail, and the
reports on triggers and on queueing are the same. -/
theorem defaults_only_fill :
    (∀ defaults text, Swap.parse defaults text = pass true (.start defaults) (.start text)) ∧
    (∀ text, (∃ e, ∀ defaults, Swap.parse defaults text = .error e) ∨
      ∃ items, ItemsText true items text.toList ∧
        ∀ defaults, Swap.parse defaults text = .ok (.ofItems defaults items)) ∧
    ∀ (manifest : Manifest) (defaults others : Defaults),
      (manifest.check defaults).map Report.isGood = (manifest.check others).map Report.isGood ∧
      ∀ (i : Nat) (entry : Entry), manifest.entries[i]? = some entry → entry.kind ≠ .swap →
        (manifest.check defaults)[i]? = (manifest.check others)[i]? := by
  refine ⟨parse_eq_pass, parse_error_or_items, fun manifest defaults others => ⟨?_, ?_⟩⟩
  · unfold check
    rw [List.map_map, List.map_map]
    exact List.map_congr_left fun entry _ => entry.isGood_report_eq defaults others
  · intro i entry hentry hkind
    unfold check
    rw [List.getElem?_map, List.getElem?_map, hentry]
    exact congrArg some (entry.report_eq hkind defaults others)

theorem defaults_only_fill_around_fault :
    (∃ items, ItemsText true items "swap:5 delete scroll:top".toList ∧
      Swap.parse ⟨.delete, ⟨7, by decide⟩, ⟨9, by decide⟩⟩ "swap:5 delete scroll:top" =
        .ok (.ofItems ⟨.delete, ⟨7, by decide⟩, ⟨9, by decide⟩⟩ items) ∧
      Options.ofItems .documented items =
        ⟨.innerHTML, ⟨5, by decide⟩, .zero, "top", "", true, false, false⟩) ∧
      (Manifest.check ⟨[⟨.swap, "hx-swap", "settle:x"⟩, ⟨.trigger, "hx-trigger", "click"⟩]⟩
          ⟨.delete, ⟨7, by decide⟩, ⟨9, by decide⟩⟩).map Report.isGood = [false, true] ∧
      (⟨.trigger, "hx-trigger", "click"⟩ : Entry).kind ≠ .swap ∧
      (Manifest.check ⟨[⟨.swap, "hx-swap", "settle:x"⟩, ⟨.trigger, "hx-trigger", "click"⟩]⟩
          ⟨.delete, ⟨7, by decide⟩, ⟨9, by decide⟩⟩)[1]? =
        (Manifest.check ⟨[⟨.swap, "hx-swap", "settle:x"⟩, ⟨.trigger, "hx-trigger", "click"⟩]⟩
          .documented)[1]? := by
  obtain ⟨-, hparse, hcheck⟩ := defaults_only_fill
  obtain ⟨hgood, hsame⟩ := hcheck
    ⟨[⟨.swap, "hx-swap", "settle:x"⟩, ⟨.trigger, "hx-trigger", "click"⟩]⟩
    ⟨.delete, ⟨7, by decide⟩, ⟨9, by decide⟩⟩ .documented
  have hread : Swap.parse .documented "swap:5 delete scroll:top" =
      .ok ⟨.innerHTML, ⟨5, by decide⟩, .zero, "top", "", true, false, false⟩ := by decide +kernel
  refine ⟨?_, hgood.trans (by decide +kernel), by decide, hsame 1 _ rfl (by decide)⟩
  obtain ⟨e, hfault⟩ | ⟨items, hitems, hfilled⟩ := hparse "swap:5 delete scroll:top"
  · exact nomatch (hfault .documented).symm.trans hread
  · exact ⟨items, hitems, hfilled _, Except.ok.inj ((hfilled _).symm.trans hread)⟩

end Manifest

end Hypermedia
