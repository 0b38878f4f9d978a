import Mathlib.Data.List.Forall2
import Hypermedia.Proofs.Swap.Meaning

/-!
What a swap passes over. Every entry that is passed over is reported, and it
could as well not be there: with spaces in its place the text is read the same
way, and nothing is reported any more. That is not plain, since entries may
touch, and an entry that is kept is read up to whatever comes next. But a space
ends everything that an entry can end with.
-/

namespace Hypermedia

open Cursor Grammar

namespace Swap

/-- The text at a byte offset is part of this entry. -/
def Entry.covers (entry : Entry) (offset : Nat) : Bool :=
  entry.start.offset ≤ offset && offset < entry.start.offset + entry.text.utf8ByteSize

/-- An entry that has an effect: the word for a strategy, or a known setting
with its value. -/
inductive Entry.Applied (entry : Entry) : Prop
  | strategy {named : Strategy} (item : entry.item = .strategy named)
      (word : Strategy.ofKeyword? entry.text = some named)
  | setting {setting : Setting} {behind : List Char} (item : entry.item = .setting setting)
      (text : SettingText setting entry.text.toList behind)

/-- The entries that are reported, which are those that are passed over. -/
def passedOver (found : List Entry) : List Entry :=
  found.filter fun entry => entry.record?.isSome

/-- The text at a byte offset is part of one of these entries. -/
def covered (found : List Entry) (offset : Nat) : Bool :=
  found.any (·.covers offset)

/-- A text with spaces in place of each character that is hidden, as many as
`width` says for its offset. -/
def wipe (hidden : Nat → Bool) (width : Nat → Nat) : Nat → List Char → List Char
  | _, [] => []
  | offset, c :: rest =>
      (if hidden offset then List.replicate (width offset) ' ' else [c]) ++
        wipe hidden width (offset + c.utf8Size) rest

/-- A swap with spaces in place of everything that is passed over in it. -/
def cleared (width : Nat → Nat) (text : String) : String :=
  String.ofList (wipe (covered (passedOver (read text).parts)) width 0 text.toList)

section Wipe

variable {hidden hidden' : Nat → Bool} {width : Nat → Nat} {offset : Nat}

theorem wipe_append (first second : List Char) :
    wipe hidden width offset (first ++ second) =
      wipe hidden width offset first ++
        wipe hidden width (offset + (String.ofList first).utf8ByteSize) second := by
  induction first generalizing offset with
  | nil => rfl
  | cons c more ih =>
      rw [List.cons_append, wipe, wipe, ih, Position.utf8ByteSize_ofList_cons, Nat.add_assoc,
        List.append_assoc]

/-- Only what is hidden from here on matters. -/
theorem wipe_congr {text : List Char} (h : ∀ place, offset ≤ place → hidden place = hidden' place) :
    wipe hidden width offset text = wipe hidden' width offset text := by
  induction text generalizing offset with
  | nil => rfl
  | cons c more ih =>
      have hmore : ∀ place, offset + c.utf8Size ≤ place → hidden place = hidden' place :=
        fun place hplace => h place (by omega)
      rw [wipe, wipe, h offset (Nat.le_refl _), ih hmore]

theorem wipe_of_visible {text : List Char}
    (h : ∀ place, offset ≤ place → place < offset + (String.ofList text).utf8ByteSize →
      hidden place = false) : wipe hidden width offset text = text := by
  induction text generalizing offset with
  | nil => rfl
  | cons c more ih =>
      rw [Position.utf8ByteSize_ofList_cons] at h
      have hsize := c.utf8Size_pos
      have hc : hidden offset = false := h offset (by omega) (by omega)
      have hmore : wipe hidden width (offset + c.utf8Size) more = more :=
        ih fun place hfrom hto => h place (by omega) (by omega)
      rw [wipe, hmore, hc]
      rfl

theorem blank_wipe_of_hidden {text : List Char}
    (h : ∀ place, offset ≤ place → place < offset + (String.ofList text).utf8ByteSize →
      hidden place = true) : Blank (wipe hidden width offset text) := by
  induction text generalizing offset with
  | nil => exact blank_nil
  | cons c more ih =>
      rw [Position.utf8ByteSize_ofList_cons] at h
      have hsize := c.utf8Size_pos
      have hc : hidden offset = true := h offset (by omega) (by omega)
      have hmore : Blank (wipe hidden width (offset + c.utf8Size) more) :=
        ih fun place hfrom hto => h place (by omega) (by omega)
      rw [wipe, if_pos hc]
      refine Blank.append (fun x hx => ?_) hmore
      rw [List.eq_of_mem_replicate hx]
      decide

theorem wipe_ne_nil {c : Char} {more : List Char} (hc : hidden offset = true)
    (hwidth : 0 < width offset) : wipe hidden width offset (c :: more) ≠ [] := by
  rw [wipe, if_pos hc]
  intro h
  have hspaces := congrArg List.length (List.append_eq_nil_iff.mp h).1
  rw [List.length_replicate, List.length_nil] at hspaces
  omega

end Wipe

theorem Entry.covers_eq_true_iff {entry : Entry} {offset : Nat} :
    entry.covers offset = true ↔
      entry.start.offset ≤ offset ∧ offset < entry.start.offset + entry.text.utf8ByteSize := by
  unfold Entry.covers
  simp

theorem Entry.record?_eq_none_iff {entry : Entry} :
    entry.record? = none ↔ ∀ what, entry.item ≠ .ignored what := by
  unfold Entry.record?
  cases entry.item <;> simp

theorem Entry.record?_eq_some_iff {entry : Entry} {event : Log.Record} :
    entry.record? = some event ↔
      ∃ what, entry.item = .ignored what ∧ event = what.record entry.start := by
  unfold Entry.record?
  cases entry.item <;> simp [eq_comm]

theorem passedOver_cons_of_reported {entry : Entry} (h : entry.record?.isSome = true)
    (others : List Entry) : passedOver (entry :: others) = entry :: passedOver others :=
  List.filter_cons_of_pos h

theorem passedOver_cons_of_kept {entry : Entry} (h : entry.record? = none)
    (others : List Entry) : passedOver (entry :: others) = passedOver others :=
  List.filter_cons_of_neg (by simp [h])

/-- The items of the entries that are not passed over. -/
def keptItems (found : List Entry) : List Item :=
  (found.filter fun entry => entry.record?.isNone).map Entry.item

theorem keptItems_cons_of_reported {entry : Entry} (h : entry.record?.isSome = true)
    (others : List Entry) : keptItems (entry :: others) = keptItems others :=
  congrArg (List.map Entry.item) (List.filter_cons_of_neg (by simp [Option.isSome_iff_ne_none.mp h]))

theorem keptItems_cons_of_kept {entry : Entry} (h : entry.record? = none)
    (others : List Entry) : keptItems (entry :: others) = entry.item :: keptItems others :=
  congrArg (List.map Entry.item) (List.filter_cons_of_pos (by simp [h]))

end Swap

namespace Grammar

open Swap

variable {isFirst asFirst : Bool} {item : Item} {used rest rest' : List Char}

/-- An item that is not passed over is the word for a strategy, in front of all
others, or a known setting. -/
theorem ItemText.cases_of_kept (h : ItemText isFirst item used rest)
    (hkept : ∀ what, item ≠ .ignored what) :
    (∃ key named, item = .strategy named ∧ used = key.toList ∧ isFirst = true ∧ key ≠ "" ∧
        MaximalRun isNameChar key.toList rest ∧ rest.head? ≠ some ':' ∧
          Strategy.ofKeyword? key = some named) ∨
      ∃ setting, item = .setting setting ∧ SettingText setting used rest := by
  cases h with
  | strategy nonempty name alone known =>
      exact .inl ⟨_, _, rfl, rfl, rfl, nonempty, name, alone, known⟩
  | setting text => exact .inr ⟨_, rfl, text⟩
  | word nonempty name alone plain run => exact absurd rfl (hkept _)
  | unknown word free text => exact absurd rfl (hkept _)
  | unclosed word free kind absent => exact absurd rfl (hkept _)
  | token nonempty nameless run alone => exact absurd rfl (hkept _)
  | comma nameless bare => exact absurd rfl (hkept _)

/-- An item that has an effect has the same one before white space. A strategy
has to stay the first item for that. -/
theorem ItemText.kept (h : ItemText isFirst item used rest) (hkept : ∀ what, item ≠ .ignored what)
    (hfirst : isFirst = true → asFirst = true) (hnext : StartsLike rest' rest ∨ Apart rest') :
    ItemText asFirst item used rest' := by
  rcases h.cases_of_kept hkept with
    ⟨key, named, rfl, rfl, hisFirst, hne, hname, halone, hknown⟩ | ⟨setting, rfl, htext⟩
  · rw [hfirst hisFirst]
    rcases hnext with hlike | hapart
    · exact .strategy hne (hname.startsLike hlike) (fun h => halone (hlike ':' h)) hknown
    · have hword : Word key := ⟨hne, hname.all⟩
      exact .strategy hne (hword.nameRun hapart.boundary) (hapart.head?_ne (by decide)) hknown
  · rcases hnext with hlike | hapart
    · exact .setting (htext.startsLike hlike)
    · exact .setting ((htext.startsLike (startsLike_nil _)).before hapart.boundary)

theorem ItemsText.behind_blank {items : List Item} {gap text : List Char} (blank : Blank gap)
    (h : ItemsText isFirst items text) : ItemsText isFirst items (gap ++ text) := by
  cases h with
  | nil more => exact .nil (blank.append more)
  | cons more first others =>
      rw [← List.append_assoc]
      exact .cons (blank.append more) first others

end Grammar

namespace Swap

/-- A character of two texts in a row belongs to the first or to the second. -/
theorem cut_of_append {first second before behind : List Char} {x : Char}
    (h : first ++ second = before ++ x :: behind) :
    (∃ more, first = before ++ x :: more) ∨
      ∃ more, before = first ++ more ∧ second = more ++ x :: behind := by
  rcases List.append_eq_append_iff.mp h with ⟨more, hbefore, hsecond⟩ | ⟨more, hfirst, hrest⟩
  · exact .inr ⟨more, hbefore, hsecond⟩
  · cases more with
    | nil =>
        rw [List.append_nil] at hfirst
        exact .inr ⟨[], by rw [hfirst, List.append_nil], hrest.symm⟩
    | cons y more =>
        obtain ⟨rfl, -⟩ := List.cons.inj hrest
        exact .inl ⟨more, hfirst⟩

/-- An item that is not passed over comes from an entry that has an effect. -/
theorem Entry.applied_of_kept {entry : Entry} {first : Bool} {behind : List Char}
    (h : ItemText first entry.item entry.text.toList behind) (hkept : entry.record? = none) :
    entry.Applied := by
  rcases h.cases_of_kept (Entry.record?_eq_none_iff.mp hkept) with
    ⟨key, named, hitem, htext, -, -, -, -, hknown⟩ | ⟨setting, hitem, htext⟩
  · rw [← String.toList_injective htext] at hknown
    exact .strategy hitem hknown
  · exact .setting hitem htext

namespace Layout

variable {isFirst : Bool} {c : Cursor} {found : List Entry}

/-- No entry starts before the place where the reading starts. -/
theorem start_le (h : Layout isFirst c found) :
    ∀ entry ∈ found, c.position.offset ≤ entry.start.offset := by
  induction h with
  | nil blank => exact nofun
  | cons blank before start takes first next ih =>
      have hgap := before.offset_eq
      have htext := takes.offset_eq
      intro entry hentry
      rcases List.mem_cons.mp hentry with rfl | hother
      · rw [start]
        omega
      · have hlater := ih entry hother
        omega

theorem not_covered (h : Layout isFirst c found) {place : Nat} (hplace : place < c.position.offset) :
    covered (passedOver found) place = false := by
  refine List.any_eq_false.mpr fun entry hentry hcovers => ?_
  have hstart := h.start_le entry (List.mem_filter.mp hentry).1
  have hbounds := Entry.covers_eq_true_iff.mp hcovers
  omega

/-- Every character is white space or part of an entry. -/
theorem covers (h : Layout isFirst c found) {before behind : List Char} {x : Char}
    (hrest : c.rest = before ++ x :: behind) :
    Text.isBlank x = true ∨
      ∃ entry ∈ found, entry.covers (c.position.after before).offset = true := by
  induction h generalizing before with
  | nil blank => exact .inl (blank x (by simp [hrest]))
  | @cons _ c here d gap entry others blank gapTaken start takes first next ih =>
      rw [gapTaken.rest_eq, takes.rest_eq] at hrest
      rcases cut_of_append hrest with ⟨more, hgap⟩ | ⟨more, hbefore, hrest⟩
      · exact .inl (blank x (by simp [hgap]))
      · rw [hbefore, Position.after_append, ← gapTaken.position_eq]
        rcases cut_of_append hrest with ⟨inside, htext⟩ | ⟨later, hmore, hrest⟩
        · refine .inr ⟨entry, List.mem_cons_self, Entry.covers_eq_true_iff.mpr ?_⟩
          have hsize : entry.text.utf8ByteSize = (String.ofList more).utf8ByteSize +
              (String.ofList (x :: inside)).utf8ByteSize := by
            rw [Position.eq_append_of_toList htext, String.utf8ByteSize_append]
          rw [Position.utf8ByteSize_ofList_cons] at hsize
          have hx := x.utf8Size_pos
          rw [Position.offset_after, start]
          omega
        · rw [hmore, Position.after_append, ← takes.position_eq]
          rcases ih hrest with hblank | ⟨other, hother, hcovers⟩
          · exact .inl hblank
          · exact .inr ⟨other, List.mem_cons_of_mem entry hother, hcovers⟩

/-- The text of an entry, from the place where it starts. -/
theorem entry_in_text (h : Layout isFirst c found) :
    ∀ entry ∈ found, ∃ before behind, c.rest = before ++ (entry.text.toList ++ behind) ∧
      entry.start = c.position.after before ∧
        ∃ first, ItemText first entry.item entry.text.toList behind := by
  induction h with
  | nil blank => exact nofun
  | @cons isFirst c here d gap entry others blank gapTaken start takes first next ih =>
      intro found hfound
      rcases List.mem_cons.mp hfound with rfl | hother
      · refine ⟨gap, d.rest, ?_, ?_, isFirst, first⟩
        · rw [gapTaken.rest_eq, takes.rest_eq]
        · rw [start, gapTaken.position_eq]
      · obtain ⟨before, behind, hrest, hstart, hitem⟩ := ih found hother
        have htaken := gapTaken.trans takes
        refine ⟨gap ++ entry.text.toList ++ before, behind, ?_, ?_, hitem⟩
        · rw [htaken.rest_eq, hrest, ← List.append_assoc]
        · rw [hstart, htaken.position_eq, ← Position.after_append]

/-- A character of no entry that is passed over is white space or has an
effect. -/
theorem blank_or_applied (h : Layout isFirst c found) {before behind : List Char} {x : Char}
    (hrest : c.rest = before ++ x :: behind)
    (hfree : covered (passedOver found) (c.position.after before).offset = false) :
    Text.isBlank x = true ∨ ∃ entry ∈ found,
      entry.covers (c.position.after before).offset = true ∧ entry.Applied := by
  rcases h.covers hrest with hblank | ⟨entry, hentry, hcovers⟩
  · exact .inl hblank
  · have hkept : entry.record? = none := by
      rw [← Option.not_isSome_iff_eq_none]
      intro hreported
      have hpassed : entry ∈ passedOver found := List.mem_filter.mpr ⟨hentry, hreported⟩
      exact List.any_eq_false.mp hfree entry hpassed hcovers
    obtain ⟨_, _, -, -, _, hitem⟩ := h.entry_in_text entry hentry
    exact .inr ⟨entry, hentry, hcovers, Entry.applied_of_kept hitem hkept⟩

/-- The text of an entry that is passed over, and the shape that it has. -/
theorem passedOver_in_text (h : Layout isFirst c found) :
    ∀ entry ∈ passedOver found, ∃ before behind,
      c.rest = before ++ (entry.text.toList ++ behind) ∧
        entry.start = c.position.after before ∧ ∃ first what, entry.item = .ignored what ∧
          ItemText first (.ignored what) entry.text.toList behind := by
  intro entry hentry
  obtain ⟨hmem, hreported⟩ := List.mem_filter.mp hentry
  obtain ⟨event, hevent⟩ := Option.isSome_iff_exists.mp hreported
  obtain ⟨what, hwhat, -⟩ := Entry.record?_eq_some_iff.mp hevent
  obtain ⟨before, behind, htext, hstart, first, hitem⟩ := h.entry_in_text entry hmem
  rw [hwhat] at hitem
  exact ⟨before, behind, htext, hstart, first, what, hwhat, hitem⟩

theorem starts_increase (h : Layout isFirst c found) :
    found.Pairwise fun entry later => entry.start.offset < later.start.offset := by
  induction h with
  | nil blank => exact .nil
  | @cons isFirst c here d gap entry others blank gapTaken start takes first next ih =>
      refine .cons (fun later hlater => ?_) ih
      have hlater := next.start_le later hlater
      have htext := takes.offset_eq
      obtain ⟨x, more, hlist, -⟩ := first.head
      rw [hlist, Position.utf8ByteSize_ofList_cons] at htext
      have hx := x.utf8Size_pos
      rw [start]
      omega

section Cons

variable {here d : Cursor} {gap : List Char} {entry : Entry} {others : List Entry}
  {width : Nat → Nat}

/-- An entry hides nothing behind it. -/
theorem covered_behind (start : entry.start = here.position)
    (takes : here.Takes entry.text.toList d) {place : Nat} (hplace : d.position.offset ≤ place) :
    covered (passedOver (entry :: others)) place = covered (passedOver others) place := by
  cases hrecord : entry.record? with
  | none => rw [passedOver_cons_of_kept hrecord]
  | some event =>
      have hfree : entry.covers place = false := by
        rw [Bool.eq_false_iff]
        intro hcovers
        have hbounds := Entry.covers_eq_true_iff.mp hcovers
        have htext := takes.offset_eq
        rw [String.ofList_toList] at htext
        rw [start] at hbounds
        omega
      rw [passedOver_cons_of_reported (by rw [hrecord]; rfl), covered, List.any_cons, hfree]
      rfl

/-- White space stays, an entry is dealt with by itself, and the rest is as if
it stood alone. -/
theorem wipe_cons (before : c.Takes gap here) (start : entry.start = here.position)
    (takes : here.Takes entry.text.toList d)
    (first : ItemText isFirst entry.item entry.text.toList d.rest)
    (next : Layout false d others) :
    wipe (covered (passedOver (entry :: others))) width c.position.offset c.rest =
      gap ++ (wipe (covered (passedOver (entry :: others))) width here.position.offset
          entry.text.toList ++
        wipe (covered (passedOver others)) width d.position.offset d.rest) := by
  have hhere : Layout isFirst here (entry :: others) :=
    .cons blank_nil (takes_nil here) start takes first next
  have hgap : wipe (covered (passedOver (entry :: others))) width c.position.offset gap = gap := by
    refine wipe_of_visible fun place _ hto => hhere.not_covered ?_
    rwa [before.offset_eq]
  have hbehind : wipe (covered (passedOver (entry :: others))) width d.position.offset d.rest =
      wipe (covered (passedOver others)) width d.position.offset d.rest :=
    wipe_congr fun place hplace => covered_behind start takes hplace
  rw [before.rest_eq, wipe_append, hgap, ← before.offset_eq, takes.rest_eq, wipe_append,
    ← takes.offset_eq, hbehind]

theorem wipe_of_kept (takes : here.Takes entry.text.toList d) (next : Layout false d others)
    (h : entry.record? = none) :
    wipe (covered (passedOver (entry :: others))) width here.position.offset
      entry.text.toList = entry.text.toList := by
  refine wipe_of_visible fun place _ hto => ?_
  rw [passedOver_cons_of_kept h]
  apply next.not_covered
  rwa [takes.offset_eq]

theorem wipe_of_reported (others : List Entry) (start : entry.start = here.position) {x : Char}
    {more : List Char} (htext : entry.text.toList = x :: more) (h : entry.record?.isSome = true)
    (hwidth : 0 < width entry.start.offset) :
    Blank (wipe (covered (passedOver (entry :: others))) width here.position.offset
        entry.text.toList) ∧
      wipe (covered (passedOver (entry :: others))) width here.position.offset
        entry.text.toList ≠ [] := by
  have hcovered : ∀ place, here.position.offset ≤ place →
      place < here.position.offset + (String.ofList entry.text.toList).utf8ByteSize →
        covered (passedOver (entry :: others)) place = true := by
    intro place hfrom hto
    rw [String.ofList_toList] at hto
    rw [passedOver_cons_of_reported h, covered, List.any_cons,
      Entry.covers_eq_true_iff.mpr (by rw [start]; exact ⟨hfrom, hto⟩)]
    rfl
  refine ⟨blank_wipe_of_hidden hcovered, ?_⟩
  rw [htext, Position.utf8ByteSize_ofList_cons] at hcovered
  have hx := x.utf8Size_pos
  rw [start] at hwidth
  rw [htext]
  exact wipe_ne_nil (hcovered _ (Nat.le_refl _) (by omega)) hwidth

end Cons

/-- With spaces in place of what is passed over, the entries that are kept are
still there. The text starts as it did or with white space, so that whatever is
in front of it ends in the same place. -/
theorem itemsText_wipe (h : Layout isFirst c found) {width : Nat → Nat}
    (hwidth : ∀ entry ∈ passedOver found, 0 < width entry.start.offset) :
    (StartsLike (wipe (covered (passedOver found)) width c.position.offset c.rest) c.rest ∨
        Apart (wipe (covered (passedOver found)) width c.position.offset c.rest)) ∧
      ∀ asFirst, (isFirst = true → asFirst = true) → ItemsText asFirst (keptItems found)
        (wipe (covered (passedOver found)) width c.position.offset c.rest) := by
  induction h with
  | @nil _ c blank =>
      have hsame : wipe (covered (passedOver [])) width c.position.offset c.rest = c.rest :=
        wipe_of_visible fun _ _ _ => rfl
      rw [hsame]
      exact ⟨.inl fun _ hx => hx, fun _ _ => .nil blank⟩
  | @cons isFirst c here d gap entry others blank before start takes first next ih =>
      obtain ⟨x, more, htext, -⟩ := first.head
      rw [wipe_cons before start takes first next]
      cases hrecord : entry.record? with
      | none =>
          rw [passedOver_cons_of_kept hrecord] at hwidth
          obtain ⟨hnext, hothers⟩ := ih hwidth
          rw [wipe_of_kept takes next hrecord, keptItems_cons_of_kept hrecord]
          refine ⟨.inl ?_, fun asFirst hfirst => ?_⟩
          · rw [before.rest_eq, takes.rest_eq]
            exact (startsLike_append (by simp [htext]) _ _).append gap
          · have hitem := Entry.record?_eq_none_iff.mp hrecord
            exact .cons blank (first.kept hitem hfirst hnext) (hothers false nofun)
      | some event =>
          have hreported : entry.record?.isSome = true := by rw [hrecord]; rfl
          rw [passedOver_cons_of_reported hreported] at hwidth
          obtain ⟨-, hothers⟩ := ih fun later hlater => hwidth later (List.mem_cons_of_mem _ hlater)
          obtain ⟨hspaces, hne⟩ := wipe_of_reported others start htext hreported
            (hwidth entry List.mem_cons_self)
          rw [keptItems_cons_of_reported hreported, ← List.append_assoc]
          have hblank := blank.append hspaces
          refine ⟨.inr (hblank.apart ?_ _), fun asFirst hfirst => ?_⟩
          · exact fun hnone => hne (List.append_eq_nil_iff.mp hnone).2
          · exact (hothers asFirst nofun).behind_blank hblank

end Layout

/-- Only what is kept has a say in the options. -/
theorem foldl_applyItem_keptItems (options : Options) (found : List Entry) :
    (keptItems found).foldl Options.applyItem options = found.foldl Options.apply options := by
  induction found generalizing options with
  | nil => rfl
  | cons entry others ih =>
      rw [List.foldl_cons]
      cases hrecord : entry.record? with
      | none =>
          rw [keptItems_cons_of_kept hrecord, List.foldl_cons, ih]
          rfl
      | some event =>
          obtain ⟨what, hitem, -⟩ := Entry.record?_eq_some_iff.mp hrecord
          have hsame : options.apply entry = options := by
            unfold Options.apply
            rw [hitem]
          rw [keptItems_cons_of_reported (by rw [hrecord]; rfl), ih, hsame]

/-- Every report is about one of the entries that are passed over, in their
order, and starts with the place of that entry. -/
theorem reports_of_passedOver (found : List Entry) :
    List.Forall₂ (fun entry event => entry.record? = some event ∧
        event.fields.head? = some ("start", entry.start.written))
      (passedOver found) (found.filterMap Entry.record?) := by
  induction found with
  | nil => exact .nil
  | cons entry others ih =>
      cases hrecord : entry.record? with
      | none =>
          rw [passedOver_cons_of_kept hrecord, List.filterMap_cons_none hrecord]
          exact ih
      | some event =>
          rw [passedOver_cons_of_reported (by rw [hrecord]; rfl),
            List.filterMap_cons_some hrecord]
          refine .cons ⟨hrecord, ?_⟩ ih
          obtain ⟨what, -, rfl⟩ := Entry.record?_eq_some_iff.mp hrecord
          cases what <;> rfl

theorem ne_ignored_of_mem_keptItems {found : List Entry} {item : Item}
    (h : item ∈ keptItems found) : ∀ what, item ≠ .ignored what := by
  obtain ⟨entry, hentry, rfl⟩ := List.mem_map.mp h
  have hkept := (List.mem_filter.mp hentry).2
  exact Entry.record?_eq_none_iff.mp (Option.isNone_iff_eq_none.mp hkept)

/-- What is passed over in a text has no effect on the options that the text
gives. -/
structure Inert (defaults : Defaults) (text : String) (options : Options) : Prop where
  effect : options = .ofEntries defaults (read text).parts
  /-- Whatever else there is, is white space or part of an entry that counts. -/
  outside : ∀ before x behind, text.toList = before ++ x :: behind →
    covered (passedOver (read text).parts) (String.ofList before).utf8ByteSize = false →
      Text.isBlank x = true ∨ ∃ entry ∈ (read text).parts,
        entry.covers (String.ofList before).utf8ByteSize = true ∧ entry.Applied
  inside : ∀ entry ∈ passedOver (read text).parts, ∃ before behind,
    text.toList = before ++ (entry.text.toList ++ behind) ∧
      entry.start = Position.start.after before ∧ ∃ first what, entry.item = .ignored what ∧
        ItemText first (.ignored what) entry.text.toList behind
  ordered : (passedOver (read text).parts).Pairwise fun entry later =>
    entry.start.offset < later.start.offset
  reported : List.Forall₂ (fun entry event => entry.record? = some event ∧
      event.fields.head? = some ("start", entry.start.written))
    (passedOver (read text).parts) (log text)
  /-- Spaces may stand in its place, any number of them but at least one. -/
  replaceable : ∀ width : Nat → Nat,
    (∀ entry ∈ passedOver (read text).parts, 0 < width entry.start.offset) →
      parse defaults (cleared width text) = .ok options ∧ log (cleared width text) = []

theorem layout_of_parse {defaults : Defaults} {text : String} {options : Options}
    (h : parse defaults text = .ok options) :
    Layout true (.start text) (read text).parts ∧
      options = .ofEntries defaults (read text).parts := by
  unfold parse at h
  cases hread : (read text).toExcept with
  | error e =>
      rw [hread] at h
      cases h
  | ok found =>
      rw [hread] at h
      cases h
      rw [Reading.parts_of_toExcept hread]
      exact ⟨layout_of_entries hread, rfl⟩

theorem log_of_keptItems {text : String} {found others : List Entry}
    (h : (read text).toExcept = .ok found) (hitems : found.map Entry.item = keptItems others) :
    log text = [] := by
  rw [log, Reading.parts_of_toExcept h, List.filterMap_eq_nil_iff]
  intro entry hentry
  have hmem : entry.item ∈ keptItems others := hitems ▸ List.mem_map_of_mem hentry
  exact Entry.record?_eq_none_iff.mpr (ne_ignored_of_mem_keptItems hmem)

/-- What a swap passes over is inert: all of it is reported, in its order and
each time with the place where it starts, and with spaces instead of it the text
gives the same options and no report. -/
theorem passedOver_inert {defaults : Defaults} {text : String} {options : Options}
    (h : parse defaults text = .ok options) : Inert defaults text options := by
  obtain ⟨hlayout, heffect⟩ := layout_of_parse h
  refine ⟨heffect, ?_, hlayout.passedOver_in_text, hlayout.starts_increase.filter _,
    reports_of_passedOver _, ?_⟩
  · intro before x behind htext hfree
    rw [← Position.offset_start_after] at hfree ⊢
    exact hlayout.blank_or_applied htext hfree
  · intro width hwidth
    have hitems := (hlayout.itemsText_wipe hwidth).2 true id
    have htext : ItemsText true (keptItems (read text).parts) (cleared width text).toList := by
      rw [cleared, String.toList_ofList]
      exact hitems
    obtain ⟨found, hfound, hkept⟩ := entries_complete (c := .start (cleared width text)) htext
    refine ⟨?_, log_of_keptItems hfound hkept⟩
    refine parse_eq_ok_iff_itemsText.mpr ⟨_, htext, ?_⟩
    rw [foldl_applyItem_keptItems, heffect]
    rfl

theorem passedOver_inert_around_settings :
    parse .documented "delete#x,, swap:5é foo:'a b'show:top wobble:\"no end" =
        .ok ⟨.delete, ⟨5, by decide⟩, .zero, "", "top", true, false, false⟩ ∧
      cleared (fun _ => 1) "delete#x,, swap:5é foo:'a b'show:top wobble:\"no end" =
        "delete     swap:5           show:top               " ∧
      Inert .documented "delete#x,, swap:5é foo:'a b'show:top wobble:\"no end"
        ⟨.delete, ⟨5, by decide⟩, .zero, "", "top", true, false, false⟩ := by
  have hparse : parse .documented "delete#x,, swap:5é foo:'a b'show:top wobble:\"no end" =
      .ok ⟨.delete, ⟨5, by decide⟩, .zero, "", "top", true, false, false⟩ := by
    decide +kernel
  exact ⟨hparse, by decide +kernel, passedOver_inert hparse⟩

end Swap

end Hypermedia
