import Hypermedia.Proofs.Grammar
import Hypermedia.Proofs.Position.Offset

/-!
What a cursor has moved over, as text. `Takes` says which characters lie
between two cursors, where `Reaches` only says that there are some. With it the
run that a cursor takes is the maximal run of the grammar.
-/

namespace Hypermedia.Cursor

open Grammar

/-- The second cursor is the first one moved over exactly these characters. -/
structure Takes (c : Cursor) (used : List Char) (d : Cursor) : Prop where
  rest_eq : c.rest = used ++ d.rest
  position_eq : d.position = c.position.after used

theorem takes_nil (c : Cursor) : c.Takes [] c :=
  ⟨rfl, rfl⟩

/-- All of the text that is left. -/
theorem takes_rest (c : Cursor) : c.Takes c.rest ⟨c.position.after c.rest, []⟩ :=
  ⟨(List.append_nil _).symm, rfl⟩

theorem Takes.trans {c d e : Cursor} {first second : List Char} (h : c.Takes first d)
    (h' : d.Takes second e) : c.Takes (first ++ second) e := by
  constructor
  · rw [h.rest_eq, h'.rest_eq, List.append_assoc]
  · rw [h'.position_eq, h.position_eq, Position.after_append]

/-- The text that is taken determines where it leads. -/
theorem Takes.unique {c d e : Cursor} {used : List Char} (h : c.Takes used d)
    (h' : c.Takes used e) : d = e := by
  obtain ⟨place, rest⟩ := d
  obtain ⟨place', rest'⟩ := e
  have hrest : rest = rest' := List.append_cancel_left (h.rest_eq.symm.trans h'.rest_eq)
  have hplace : place = place' := h.position_eq.trans h'.position_eq.symm
  rw [hrest, hplace]

theorem Takes.eq_of_nil {c d : Cursor} (h : c.Takes [] d) : c = d :=
  (takes_nil c).unique h

theorem Takes.offset_eq {c d : Cursor} {used : List Char} (h : c.Takes used d) :
    d.position.offset = c.position.offset + (String.ofList used).utf8ByteSize := by
  rw [h.position_eq, Position.offset_after]

/-- Between two cursors there is one for every cut of the text. -/
theorem Takes.split {c e : Cursor} {first second : List Char}
    (h : c.Takes (first ++ second) e) : ∃ d, c.Takes first d ∧ d.Takes second e := by
  refine ⟨⟨c.position.after first, second ++ e.rest⟩, ⟨?_, rfl⟩, ⟨rfl, ?_⟩⟩
  · rw [h.rest_eq, List.append_assoc]
  · rw [h.position_eq, Position.after_append]

theorem Takes.uncons {c d : Cursor} {first : Char} {more : List Char}
    (h : c.Takes (first :: more) d) : ∃ here, c.Takes [first] here ∧ here.Takes more d := by
  have happend : c.Takes ([first] ++ more) d := h
  exact happend.split

theorem takes_pastRun (p : Char → Bool) (c : Cursor) : c.Takes (c.run p) (c.pastRun p) :=
  ⟨(List.takeWhile_append_dropWhile).symm, rfl⟩

theorem maximalRun_run (p : Char → Bool) (c : Cursor) :
    MaximalRun p (c.run p) (c.pastRun p).rest :=
  maximalRun_takeWhile p c.rest

theorem Takes.run_eq {c d : Cursor} {used : List Char} {p : Char → Bool}
    (h : c.Takes used d) (hrun : MaximalRun p used d.rest) : c.run p = used := by
  unfold run
  rw [h.rest_eq, hrun.takeWhile_eq]

theorem Takes.pastRun_eq {c d : Cursor} {used : List Char} {p : Char → Bool}
    (h : c.Takes used d) (hrun : MaximalRun p used d.rest) : c.pastRun p = d := by
  have hpast := takes_pastRun p c
  rw [h.run_eq hrun] at hpast
  exact hpast.unique h

theorem pastRun_pastRun (p : Char → Bool) (c : Cursor) :
    (c.pastRun p).pastRun p = c.pastRun p := by
  have hends := (c.maximalRun_run p).ends
  exact (takes_nil _).pastRun_eq ⟨by simp, hends⟩

/-- White space is skipped if something else follows. -/
theorem Takes.pastBlank_eq {c d : Cursor} {gap : List Char} (h : c.Takes gap d)
    (hgap : Blank gap) (hd : ∀ first ∈ d.rest.head?, Text.isBlank first = false) :
    c.pastRun Text.isBlank = d :=
  h.pastRun_eq ⟨hgap, hd⟩

theorem takes_cons (place : Position) (first : Char) (rest : List Char) :
    Takes ⟨place, first :: rest⟩ [first] (past 1 ⟨place, first :: rest⟩) :=
  ⟨rfl, rfl⟩

/-- One character taken is what `past 1` skips. -/
theorem Takes.past_one_eq {c d : Cursor} {first : Char} (h : c.Takes [first] d) :
    c.past 1 = d := by
  obtain ⟨place, rest⟩ := c
  have hrest : rest = first :: d.rest := h.rest_eq
  subst hrest
  exact (takes_cons place first d.rest).unique h

theorem Takes.peek_eq {c d : Cursor} {first : Char} {more : List Char}
    (h : c.Takes (first :: more) d) : c.peek = some first := by
  unfold peek
  rw [h.rest_eq]
  rfl

theorem Takes.isAt_eq {c d : Cursor} {first : Char} {more : List Char} (p : Char → Bool)
    (h : c.Takes (first :: more) d) : c.isAt p = p first := by
  unfold isAt
  rw [h.rest_eq]
  rfl

theorem Takes.isAt_of_all {c d : Cursor} {used : List Char} {p : Char → Bool}
    (h : c.Takes used d) (hne : used ≠ []) (hall : ∀ x ∈ used, p x = true) :
    c.isAt p = true := by
  cases used with
  | nil => exact absurd rfl hne
  | cons first more =>
      rw [h.isAt_eq]
      exact hall first List.mem_cons_self

/-- What comes next shows where white space ends. -/
theorem Takes.pastBlank_of_next {c d e : Cursor} {gap more : List Char} {first : Char}
    (h : c.Takes gap d) (hgap : Blank gap) (hnext : d.Takes (first :: more) e)
    (hfirst : Text.isBlank first = false) : c.pastRun Text.isBlank = d := by
  apply h.pastBlank_eq hgap
  intro x hx
  rw [hnext.rest_eq] at hx
  cases hx
  exact hfirst

end Hypermedia.Cursor
