import Mathlib.Data.List.DropRight
import Mathlib.Data.List.Induction
import Mathlib.Order.Bounds.Basic
import Hypermedia.Proofs.Position.Offset

/-!
Checkpoints. A place in a text need not be counted from the start: from a place
that is known, counting goes on. It makes no difference then how often it has
been interrupted and where, not even inside a character, and only a checkpoint
that is no cut of the text is refused.

Counting goes over whole characters, so it stops at the first cut that is not
in front of the offset, or at the end.
-/

namespace Hypermedia.Position

/-- The offset cuts the text between two characters, or is one of its ends. -/
def IsBoundary (text : String) (offset : Nat) : Prop :=
  String.Pos.Raw.IsValid text ⟨offset⟩

/-- What stands behind the last line feed, or all of it if there is none. -/
def lastLine (run : List Char) : List Char :=
  run.rtakeWhile (· != '\n')

theorem isBoundary_iff {text : String} {offset : Nat} :
    IsBoundary text offset ↔
      ∃ used rest, text.toList = used ++ rest ∧ offset = (start.after used).offset := by
  unfold IsBoundary
  rw [String.Pos.Raw.isValid_iff_exists_append]
  constructor
  · rintro ⟨before, behind, rfl, hsize⟩
    refine ⟨before.toList, behind.toList, String.toList_append, ?_⟩
    rw [offset_start_after, String.ofList_toList]
    exact congrArg String.Pos.Raw.byteIdx hsize
  · rintro ⟨used, rest, htext, hoffset⟩
    refine ⟨String.ofList used, String.ofList rest, eq_append_of_toList htext, ?_⟩
    rw [hoffset, offset_start_after]
    rfl

/-- Counted from the start, the column is told by the last line alone. By
induction on the last character. -/
theorem column_start_after (run : List Char) :
    (start.after run).column = 1 + (lastLine run).length := by
  induction run using List.reverseRecOn with
  | nil => rfl
  | append_singleton run c ih =>
      have hlast : (start.after (run ++ [c])) = (start.after run).advance c := after_append _ _ _
      rw [hlast]
      unfold lastLine at ih ⊢
      unfold advance
      by_cases hc : c = '\n'
      · rw [if_pos hc, List.rtakeWhile_concat_neg _ _ _ (by simp [hc])]
        rfl
      · rw [if_neg hc, List.rtakeWhile_concat_pos _ _ _ (by simp [hc]), List.length_append,
          List.length_singleton]
        dsimp only
        omega

theorem scan_of_le {p : Position} {stop : Nat} (h : stop ≤ p.offset) (chars : List Char) :
    p.scan stop chars = p := by
  cases chars with
  | nil => rfl
  | cons c rest =>
      unfold scan
      rw [if_pos h]

theorem scan_cons_of_lt {p : Position} {stop : Nat} (h : p.offset < stop) (c : Char)
    (rest : List Char) : p.scan stop (c :: rest) = (p.advance c).scan stop rest := by
  conv_lhs => unfold scan
  rw [if_neg (Nat.not_le.mpr h)]

theorem offset_le_after (p : Position) (run : List Char) : p.offset ≤ (p.after run).offset := by
  rw [offset_after]
  exact Nat.le_add_right _ _

/-- Counting moves over some of the characters. It leaves some only if it has
come as far as it should. -/
theorem scan_cut (p : Position) (stop : Nat) (chars : List Char) :
    ∃ used rest, chars = used ++ rest ∧ p.scan stop chars = p.after used ∧
      (rest ≠ [] → stop ≤ (p.after used).offset) := by
  induction chars generalizing p with
  | nil => exact ⟨[], [], rfl, rfl, fun h => absurd rfl h⟩
  | cons c more ih =>
      by_cases hstop : stop ≤ p.offset
      · exact ⟨[], c :: more, rfl, scan_of_le hstop _, fun _ => hstop⟩
      · obtain ⟨used, rest, hmore, hscan, hreached⟩ := ih (p.advance c)
        refine ⟨c :: used, rest, by rw [hmore, List.cons_append], ?_, hreached⟩
        rw [scan_cons_of_lt (Nat.not_le.mp hstop), hscan]
        rfl

/-- Counting in two stages comes to where the later of the two stops is. -/
theorem scan_scan (p : Position) (first second : Nat) (chars : List Char) :
    ∃ used rest, chars = used ++ rest ∧ p.scan first chars = p.after used ∧
      (p.after used).scan second rest = p.scan (max first second) chars := by
  induction chars generalizing p with
  | nil => exact ⟨[], [], rfl, rfl, rfl⟩
  | cons c more ih =>
      by_cases hfirst : first ≤ p.offset
      · refine ⟨[], c :: more, rfl, scan_of_le hfirst _, ?_⟩
        change p.scan second (c :: more) = _
        rcases Nat.le_total first second with hle | hle
        · rw [Nat.max_eq_right hle]
        · rw [Nat.max_eq_left hle, scan_of_le hfirst, scan_of_le (Nat.le_trans hle hfirst)]
      · have hlt := Nat.not_le.mp hfirst
        obtain ⟨used, rest, hmore, hscan, htwice⟩ := ih (p.advance c)
        refine ⟨c :: used, rest, by rw [hmore, List.cons_append], ?_, ?_⟩
        · rw [scan_cons_of_lt hlt, hscan]
          rfl
        · rw [scan_cons_of_lt (Nat.lt_of_lt_of_le hlt (Nat.le_max_left _ _))]
          exact htwice

/-- The characters from an offset on are there exactly if the offset is a cut. -/
theorem charsFrom?_eq_some_iff {count : Nat} {chars rest : List Char} :
    charsFrom? count chars = some rest ↔
      ∃ used, chars = used ++ rest ∧ count = (String.ofList used).utf8ByteSize := by
  constructor
  · intro h
    fun_induction charsFrom? count chars with
    | case1 chars =>
        cases h
        exact ⟨[], rfl, rfl⟩
    | case2 count => cases h
    | case3 count c more hfits ih =>
        obtain ⟨used, hmore, hcount⟩ := ih h
        refine ⟨c :: used, by rw [hmore, List.cons_append], ?_⟩
        rw [utf8ByteSize_ofList_cons]
        omega
    | case4 count c more hcut => cases h
  · rintro ⟨used, rfl, rfl⟩
    exact charsFrom?_append used rest

section Text

variable {text : String} {used rest : List Char}

theorem isBoundary_after (h : text.toList = used ++ rest) :
    IsBoundary text (start.after used).offset :=
  isBoundary_iff.mpr ⟨used, rest, h, rfl⟩

/-- From a cut of the text, counting goes on over what is behind the cut. -/
theorem advanceTo?_after (h : text.toList = used ++ rest) (offset : Nat) :
    (start.after used).advanceTo? text offset =
      some ((start.after used).scan (min offset text.utf8ByteSize) rest) := by
  unfold advanceTo?
  by_cases hstop : min offset text.utf8ByteSize ≤ (start.after used).offset
  · rw [scan_of_le hstop]
    exact if_pos hstop
  · have hrest : charsFrom? (start.after used).offset text.toList = some rest := by
      rw [offset_start_after, h]
      exact charsFrom?_append used rest
    dsimp only
    rw [if_neg hstop, hrest]
    rfl

/-- The place of an offset is the place behind the characters that it passes,
and these reach up to it. -/
theorem ofOffset_cut (text : String) (offset : Nat) :
    ∃ used rest, text.toList = used ++ rest ∧ ofOffset text offset = start.after used ∧
      min offset text.utf8ByteSize ≤ (start.after used).offset := by
  obtain ⟨used, rest, htext, hscan, hreached⟩ :=
    scan_cut start (min offset text.utf8ByteSize) text.toList
  refine ⟨used, rest, htext, hscan, ?_⟩
  by_cases hrest : rest = []
  · rw [hrest, List.append_nil] at htext
    rw [offset_start_after, ← htext, String.ofList_toList]
    exact Nat.min_le_right _ _
  · exact hreached hrest

theorem ofOffset_max (text : String) (first second : Nat) :
    (ofOffset text first).advanceTo? text second = some (ofOffset text (max first second)) := by
  obtain ⟨used, rest, htext, hscan, htwice⟩ :=
    scan_scan start (min first text.utf8ByteSize) (min second text.utf8ByteSize) text.toList
  have hplace : ofOffset text first = start.after used := hscan
  rw [hplace, advanceTo?_after htext, htwice]
  unfold ofOffset
  rw [Nat.min_max_distrib_right]

/-- No cut at or behind an offset comes before its place. -/
theorem offset_ofOffset_le {offset cut : Nat} (hcut : IsBoundary text cut)
    (hle : min offset text.utf8ByteSize ≤ cut) : (ofOffset text offset).offset ≤ cut := by
  obtain ⟨before, behind, htext, rfl⟩ := isBoundary_iff.mp hcut
  obtain ⟨used, rest, hused, hscan, htwice⟩ :=
    scan_scan start (min offset text.utf8ByteSize) (start.after before).offset text.toList
  have hplace : ofOffset text offset = start.after used := hscan
  obtain ⟨more, _, -, hmore, -⟩ := scan_cut (start.after used) (start.after before).offset rest
  have hlater := offset_le_after (start.after used) more
  rw [Nat.max_eq_right hle, hmore, htext, scan_offset_after] at htwice
  rw [htwice] at hlater
  rw [hplace]
  exact hlater

theorem isLeast_offset_ofOffset (text : String) (offset : Nat) :
    IsLeast {cut | IsBoundary text cut ∧ min offset text.utf8ByteSize ≤ cut}
      (ofOffset text offset).offset := by
  obtain ⟨used, rest, htext, hplace, hreached⟩ := ofOffset_cut text offset
  refine ⟨?_, fun cut hcut => offset_ofOffset_le hcut.1 hcut.2⟩
  rw [hplace]
  exact ⟨isBoundary_after htext, hreached⟩

theorem advanceTo?_eq_none_iff {p : Position} {offset : Nat} :
    p.advanceTo? text offset = none ↔
      p.offset < min offset text.utf8ByteSize ∧ ¬ IsBoundary text p.offset := by
  have hcut : charsFrom? p.offset text.toList = none ↔ ¬ IsBoundary text p.offset := by
    rw [Option.eq_none_iff_forall_ne_some, isBoundary_iff]
    constructor
    · rintro hnone ⟨used, rest, htext, hoffset⟩
      rw [offset_start_after] at hoffset
      exact hnone rest (charsFrom?_eq_some_iff.mpr ⟨used, htext, hoffset⟩)
    · intro hno rest hrest
      obtain ⟨used, htext, hcount⟩ := charsFrom?_eq_some_iff.mp hrest
      rw [← offset_start_after] at hcount
      exact hno ⟨used, rest, htext, hcount⟩
  unfold advanceTo?
  dsimp only
  by_cases hstop : min offset text.utf8ByteSize ≤ p.offset
  · rw [if_pos hstop]
    simp [Nat.not_lt.mpr hstop]
  · rw [if_neg hstop, Option.map_eq_none_iff, hcut]
    simp [Nat.not_le.mp hstop]

end Text

/-- The place of an offset is the first cut that is not in front of it, with the
line feeds and the last line in front of that cut as line and column. Counting
on from the place of any offset to another one gives the place of the later of
the two. Other checkpoints are refused exactly if there is something to be read
from them and they are no cut. -/
theorem offsets_and_checkpoints (text : String) :
    (∀ offset, start.advanceTo? text offset = some (ofOffset text offset) ∧
      IsLeast {cut | IsBoundary text cut ∧ min offset text.utf8ByteSize ≤ cut}
        (ofOffset text offset).offset ∧
      ∃ before behind : String, text = before ++ behind ∧
        before.utf8ByteSize = (ofOffset text offset).offset ∧
        (ofOffset text offset).line = 1 + before.toList.count '\n' ∧
        (ofOffset text offset).column = 1 + (lastLine before.toList).length) ∧
    (∀ first second, (ofOffset text first).advanceTo? text second =
      some (ofOffset text (max first second))) ∧
    ∀ (p : Position) (offset : Nat), p.advanceTo? text offset = none ↔
      p.offset < min offset text.utf8ByteSize ∧ ¬ IsBoundary text p.offset := by
  refine ⟨fun offset => ⟨?_, isLeast_offset_ofOffset text offset, ?_⟩, ofOffset_max text,
    fun _ _ => advanceTo?_eq_none_iff⟩
  · have hnone : text.toList = [] ++ text.toList := rfl
    exact advanceTo?_after hnone offset
  · obtain ⟨used, rest, htext, hplace, -⟩ := ofOffset_cut text offset
    refine ⟨String.ofList used, String.ofList rest, eq_append_of_toList htext, ?_, ?_, ?_⟩
    · rw [hplace, offset_start_after]
    · rw [hplace, line_after, String.toList_ofList]
      rfl
    · rw [hplace, column_start_after, String.toList_ofList]

/-- An offset inside a character, and a checkpoint there. -/
example : ofOffset "a\né!" 3 = ⟨4, 2, 2⟩ ∧
    (⟨3, 2, 2⟩ : Position).advanceTo? "a\né!" 5 = none := by
  decide +kernel

end Hypermedia.Position
