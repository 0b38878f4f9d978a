import Mathlib.Control.Monad.Basic
import Hypermedia.Proofs.Position.Offset
import Hypermedia.Proofs.Reader.SideBySide
import Hypermedia.Proofs.Trigger.Recognition

/-!
Triggers joined by a comma. Read as one text, they give the clauses of the first
and then what the second gives, because no clause sees anything behind its
comma or before the one in front of it. Only an error can tell the joined text
from its parts, and it does so by its place alone.
-/

namespace Hypermedia

open Reader Trigger

namespace TwoRuns

variable {runs : TwoRuns} {c d : Cursor}

theorem alike_selector : runs.Alike Selector.reader Selector.reader := by
  apply alike_get_bind
  intro c d h
  apply alike_get_bind
  intro here here' hhere
  rw [hhere.isAt_eq (stops_of_comma (by decide))]
  apply alike_ite
  · apply alike_bind alike_token
    intro text
    exact alike_ite (alike_throw ⟨rfl, h.places⟩) (alike_pure _)
  · apply alike_bind alike_bareToken
    intro word
    cases Scope.ofKeyword? word with
    | some named => exact alike_pure _
    | none =>
        cases Relation.ofKeyword? word with
        | none => exact alike_ite (alike_throw ⟨rfl, h.places⟩) (alike_pure _)
        | some how =>
            apply alike_bind alike_blank
            intro _
            apply alike_get_bind
            intro behind behind' hbehind
            apply alike_bind alike_token
            intro text
            exact alike_ite (alike_throw ⟨rfl, hbehind.places⟩) (alike_pure _)

theorem alike_queueMode : runs.Alike queueMode queueMode := by
  apply alike_get_bind
  intro c d h
  apply alike_bind alike_bareToken
  intro word
  cases QueueMode.ofKeyword? word with
  | some mode => exact alike_pure mode
  | none => exact alike_throw ⟨rfl, h.places⟩

theorem alike_valueReader {start start' : Position} (h : runs.Places start start')
    (key : String) :
    runs.Alike (Modifier.valueReader start key) (Modifier.valueReader start' key) := by
  unfold Modifier.valueReader
  cases Pace.ofKeyword? key with
  | some kind => exact alike_bind (alike_duration _) fun time => alike_pure _
  | none =>
      cases Role.ofKeyword? key with
      | some role => exact alike_bind alike_selector fun selector => alike_pure _
      | none =>
          apply alike_ite
          · exact alike_bind alike_queueMode fun mode => alike_pure _
          · exact alike_throw ⟨rfl, h⟩

theorem alike_namedReader : runs.Alike Modifier.namedReader Modifier.namedReader := by
  apply alike_get_bind
  intro c d h
  apply alike_get_bind
  intro here here' hhere
  rw [hhere.isAt_eq (stops_of_comma (by decide))]
  apply alike_ite
  · apply alike_bind alike_name
    intro key
    apply alike_bind (alike_literal? (by decide))
    intro found
    apply alike_ite (alike_valueReader h.places key)
    cases Flag.ofKeyword? key with
    | some word => exact alike_pure _
    | none => exact alike_throw ⟨rfl, h.places⟩
  · exact alike_bind alike_bareToken fun word => alike_throw ⟨rfl, h.places⟩

theorem alike_filterReader : runs.Alike Modifier.filterReader Modifier.filterReader :=
  alike_bind alike_bracketed fun _ => alike_pure _

/-- Where the text ends, the tail brings a comma, and a clause ends at either. -/
theorem alike_next? : runs.Alike Modifier.next? Modifier.next? := by
  apply alike_bind alike_blank
  intro _
  apply alike_get_bind
  intro c d h
  cases hrest : c.rest with
  | nil =>
      have hpeek : c.peek = none := by simp [Cursor.peek, hrest]
      have hpeek' : d.peek = runs.tail.head? := by simp [Cursor.peek, h.rest_eq, hrest]
      rw [hpeek, hpeek']
      cases htail : runs.tail.head? with
      | none => exact alike_pure none
      | some first =>
          have hcomma : first = ',' := runs.ends first htail
          dsimp only
          rw [if_pos hcomma]
          exact alike_pure none
  | cons first more =>
      have hpeek : c.peek = some first := by simp [Cursor.peek, hrest]
      have hpeek' : d.peek = some first := by simp [Cursor.peek, h.rest_eq, hrest]
      rw [hpeek, hpeek']
      apply alike_ite (alike_pure none)
      apply alike_ite
      · exact alike_bind alike_filterReader fun modifier => alike_pure _
      · exact alike_bind alike_namedReader fun modifier => alike_pure _

theorem alike_interval (event : String) :
    runs.Alike (intervalReader event) (intervalReader event) := by
  apply alike_ite
  · apply alike_bind alike_blank
    intro _
    apply alike_get_bind
    intro c d h
    rw [h.isAt_eq (stops_of_comma (by decide))]
    apply alike_ite
    · exact alike_bind (alike_duration _) fun interval => alike_pure _
    · exact alike_pure []
  · exact alike_pure []

/-- By induction on the text that the first run has left. -/
theorem alike_readAll : runs.Alike Modifier.readAll Modifier.readAll := by
  intro c d h
  induction hlength : c.rest.length using Nat.strongRecOn generalizing c d with
  | ind length ih =>
      rw [readAll_run c, readAll_run d]
      apply (alike_next? c d h).bind
      intro found behind behind' hnext hbehind
      cases found with
      | none => exact .ok hbehind
      | some modifier =>
          have hshorter := Modifier.length_lt_of_next? hnext
          rw [hlength] at hshorter
          apply (ih _ hshorter behind behind' hbehind rfl).bind
          intro others stop stop' _ hstop
          exact .ok hstop

theorem alike_clause : runs.Alike Clause.reader Clause.reader := by
  apply alike_bind alike_blank
  intro _
  apply alike_get_bind
  intro c d h
  rw [h.isAt_eq (stops_of_comma (by decide))]
  apply alike_ite
  · apply alike_bind alike_name
    intro event
    apply alike_bind (alike_interval event)
    intro interval
    exact alike_bind alike_readAll fun others => alike_pure _
  · exact alike_missing h _

/-- What the second run reads in the tail, behind the comma at its start. -/
def following (runs : TwoRuns) : Reading Clause :=
  match runs.tail with
  | [] => .done
  | first :: more => clauses ⟨runs.start'.after (runs.text ++ [first]), more⟩

/-- Two readings that agree in front of the tail. -/
inductive Readings (runs : TwoRuns) : Reading Clause → Reading Clause → Prop
  | done : Readings runs .done runs.following
  | failed {e f : ParseError} (faults : runs.Faults e f) :
      Readings runs (.failed e) (.failed f)
  | cut {e : ParseError} {second : Reading Clause} (cut : runs.Cut e) :
      Readings runs (.failed e) second
  | cons (clause : Clause) {first second : Reading Clause} (rest : Readings runs first second) :
      Readings runs (first.cons clause) (second.cons clause)

/-- Behind the last clause of the text the second run goes on in the tail. -/
theorem clauses_of_last {clause : Clause} {behind : Cursor} (h : runs.Cursors c behind)
    (hend : c.rest = []) (hclause : Clause.reader d = .ok clause behind) :
    clauses d = runs.following.cons clause := by
  obtain ⟨used, htext, -, hplace⟩ := h.passed
  have hrest := h.rest_eq
  rw [hend, List.append_nil] at htext
  rw [hend, List.nil_append] at hrest
  unfold following
  rcases clauses_of_ok hclause with ⟨hnone, hrun⟩ | ⟨more, hmore, hrun⟩
  · rw [← hrest, hnone]
    exact hrun
  · have hpast : behind.past 1 = ⟨runs.start'.after (runs.text ++ [',']), more⟩ := by
      unfold Cursor.past
      rw [hmore, hplace, Position.after_append, htext]
      rfl
    rw [← hrest, hmore, hrun, hpast]

/-- The second run follows the course of the first, up to the end of the text or
to a clause that is cut off there. -/
theorem readings_of_course {reading : Reading Clause} (hcourse : Course c reading)
    (h : runs.Cursors c d) : runs.Readings reading (clauses d) := by
  induction hcourse generalizing d with
  | failed fault =>
      have hclause := alike_clause _ d h
      generalize hsecond : Clause.reader d = second at hclause
      rw [fault] at hclause
      cases hclause with
      | cut hcut => exact .cut hcut
      | fault hfaults =>
          rw [clauses_of_error hsecond]
          exact .failed hfaults
  | last read ends =>
      have hclause := alike_clause _ d h
      generalize hsecond : Clause.reader d = second at hclause
      rw [read] at hclause
      cases hclause with
      | ok hbehind =>
          rw [clauses_of_last hbehind ends hsecond]
          exact .cons _ .done
  | more read comma others ih =>
      have hclause := alike_clause _ d h
      generalize hsecond : Clause.reader d = second at hclause
      rw [read] at hclause
      cases hclause with
      | ok hbehind =>
          obtain ⟨next', htakes, hnext⟩ := hbehind.takes comma
          rw [clauses_of_comma hsecond htakes]
          exact .cons _ (ih hnext)

theorem readings_clauses (h : runs.Cursors c d) : runs.Readings (clauses c) (clauses d) :=
  readings_of_course (course_of_clauses c) h

theorem Readings.toExcept_of_ok {first second : Reading Clause} {found : List Clause}
    (h : runs.Readings first second) (hfound : first.toExcept = .ok found) :
    second.toExcept = runs.following.toExcept.map (found ++ ·) := by
  induction h generalizing found with
  | done =>
      cases hfound
      cases runs.following.toExcept <;> rfl
  | failed hfaults => cases hfound
  | cut hcut => cases hfound
  | cons clause hrest ih =>
      obtain ⟨others, rfl, hothers⟩ := Reading.toExcept_cons_eq_ok_iff.mp hfound
      rw [Reading.toExcept_cons, ih hothers]
      cases runs.following.toExcept <;> rfl

theorem Readings.toExcept_of_error {first second : Reading Clause} {e : ParseError}
    (h : runs.Readings first second) (herror : first.toExcept = .error e) :
    runs.Cut e ∨ ∃ f, runs.Faults e f ∧ second.toExcept = .error f := by
  induction h with
  | done => cases herror
  | @failed e f hfaults =>
      cases herror
      exact .inr ⟨f, hfaults, rfl⟩
  | cut hcut =>
      cases herror
      exact .inl hcut
  | @cons clause first second hrest ih =>
      rw [Reading.toExcept_cons] at herror
      cases hfirst : first.toExcept with
      | ok parts =>
          rw [hfirst] at herror
          cases herror
      | error f =>
          rw [hfirst] at herror
          cases herror
          rcases ih hfirst with hcut | ⟨f, hfaults, hsecond⟩
          · exact .inl hcut
          · refine .inr ⟨f, hfaults, ?_⟩
            rw [Reading.toExcept_cons, hsecond]
            rfl

/-- The text before a comma, alone and in the joined text. -/
def beforeComma (a b : String) : TwoRuns :=
  ⟨a.toList, ',' :: b.toList, .start, .start, Grammar.clauseEnd_comma _⟩

/-- The text behind a comma, alone and in the joined text. -/
def behindComma (a b : String) : TwoRuns :=
  ⟨b.toList, [], .start, Position.start.after (a.toList ++ [',']), Grammar.clauseEnd_nil⟩

theorem readings_beforeComma (a b : String) :
    (beforeComma a b).Readings (read a) (read (a ++ "," ++ b)) := by
  apply readings_clauses
  refine ⟨?_, [], rfl, rfl, rfl⟩
  simp [Cursor.start, beforeComma]

theorem readings_behindComma (a b : String) :
    (behindComma a b).Readings (read b) (beforeComma a b).following := by
  apply readings_clauses
  refine ⟨?_, [], rfl, rfl, rfl⟩
  simp [Cursor.start, behindComma]

/-- A place behind a comma is counted from the comma on, in bytes. -/
theorem Places.eq_ofOffset {a b : String} {place place' : Position}
    (h : (behindComma a b).Places place place') :
    place' = Position.ofOffset (a ++ "," ++ b) (a.utf8ByteSize + 1 + place.offset) := by
  obtain ⟨used, rest, htext, rfl, rfl⟩ := h
  have hjoined : (a ++ "," ++ b).toList = (a.toList ++ [','] ++ used) ++ rest := by
    have hb : b.toList = used ++ rest := htext
    simp [hb]
  have hoffset : a.utf8ByteSize + 1 + (Position.start.after used).offset =
      (Position.start.after (a.toList ++ [','] ++ used)).offset := by
    have hcomma : (String.ofList [',']).utf8ByteSize = 1 := by decide
    rw [Position.offset_after, Position.offset_after, String.ofList_append, String.ofList_append,
      String.utf8ByteSize_append, String.utf8ByteSize_append, String.ofList_toList, hcomma]
    omega
  have hplace := Position.ofOffset_after hjoined
  rw [← hoffset, Position.after_append] at hplace
  exact hplace.symm

end TwoRuns

namespace Trigger

open TwoRuns

theorem parse_comma_of_ok {a : String} {found : List Clause} (h : parse a = .ok found)
    (b : String) :
    parse (a ++ "," ++ b) = (beforeComma a b).following.toExcept.map (found ++ ·) :=
  (readings_beforeComma a b).toExcept_of_ok h

theorem following_of_ok {b : String} {found : List Clause} (h : parse b = .ok found)
    (a : String) : (beforeComma a b).following.toExcept = .ok found := by
  have hfollowing := (readings_behindComma a b).toExcept_of_ok h
  rw [hfollowing]
  have hdone : (behindComma a b).following.toExcept = .ok [] := rfl
  rw [hdone]
  exact congrArg Except.ok (List.append_nil found)

theorem following_of_error {b : String} {e : ParseError} (h : parse b = .error e) (a : String) :
    (beforeComma a b).following.toExcept =
      .error { e with
        position := Position.ofOffset (a ++ "," ++ b)
          (a.utf8ByteSize + 1 + e.position.offset) } := by
  rcases (readings_behindComma a b).toExcept_of_error h with ⟨htail, -⟩ | ⟨f, hfaults, hf⟩
  · exact absurd rfl htail
  · obtain ⟨place, cause⟩ := f
    have hcause : cause = e.cause := hfaults.cause_eq
    have hplace := hfaults.places.eq_ofOffset
    dsimp only at hplace
    rw [hf, hcause, hplace]

theorem parse_comma_of_error {a : String} {e : ParseError} (h : parse a = .error e)
    (hcause : ∀ expected, e.cause ≠ .unexpectedEnd expected) (b : String) :
    parse (a ++ "," ++ b) = .error e := by
  rcases (readings_beforeComma a b).toExcept_of_error h with ⟨-, hcut⟩ | ⟨f, hfaults, hf⟩
  · obtain ⟨expected, hexpected⟩ := hcut
    exact absurd hexpected (hcause expected)
  · obtain ⟨used, rest, htext, hplace, hplace'⟩ := hfaults.places
    have hsame : f = e := by
      obtain ⟨place, cause⟩ := e
      obtain ⟨place', cause'⟩ := f
      have hcauses : cause' = cause := hfaults.cause_eq
      have hplaces : place' = place := hplace'.trans hplace.symm
      rw [hcauses, hplaces]
    rw [← hsame]
    exact hf

/-- A text made of two with a comma between them: the clauses of both, or the
first fault there is. A fault in the second part moves with its text. A fault in
the first part stays as it is, unless it is that the text ends too early. -/
theorem parse_comma (a b : String) :
    (∀ found others, parse a = .ok found → parse b = .ok others →
      parse (a ++ "," ++ b) = .ok (found ++ others)) ∧
    (∀ found e, parse a = .ok found → parse b = .error e →
      parse (a ++ "," ++ b) = .error { e with
        position := Position.ofOffset (a ++ "," ++ b)
          (a.utf8ByteSize + 1 + e.position.offset) }) ∧
    (∀ e, parse a = .error e → (∀ expected, e.cause ≠ .unexpectedEnd expected) →
      parse (a ++ "," ++ b) = .error e) := by
  refine ⟨?_, ?_, ?_⟩
  · intro found others ha hb
    rw [parse_comma_of_ok ha b, following_of_ok hb a]
    rfl
  · intro found e ha hb
    rw [parse_comma_of_ok ha b, following_of_error hb a]
    rfl
  · intro e ha hcause
    exact parse_comma_of_error ha hcause b

/-- A fault behind a line feed, a comma and a character of two bytes. -/
theorem parse_comma_moves_fault :
    parse ("click" ++ "," ++ "every 2s") =
        .ok [⟨"click", []⟩, ⟨"every", [.every ⟨2000, by decide⟩]⟩] ∧
      parse ("click\n" ++ "," ++ "é bad") =
        .error ⟨⟨10, 2, 4⟩, .invalidModifier "bad"⟩ ∧
      parse ("click bad" ++ "," ++ "é") =
        .error ⟨⟨6, 1, 7⟩, .invalidModifier "bad"⟩ := by
  have hclick : parse "click" = .ok [⟨"click", []⟩] := by decide +kernel
  have hevery : parse "every 2s" = .ok [⟨"every", [.every ⟨2000, by decide⟩]⟩] := by
    decide +kernel
  have hline : parse "click\n" = .ok [⟨"click", []⟩] := by decide +kernel
  have hwide : parse "é bad" = .error ⟨⟨3, 1, 3⟩, .invalidModifier "bad"⟩ := by
    decide +kernel
  have hbad : parse "click bad" = .error ⟨⟨6, 1, 7⟩, .invalidModifier "bad"⟩ := by
    decide +kernel
  have hplace : Position.ofOffset ("click\n" ++ "," ++ "é bad")
      ("click\n".utf8ByteSize + 1 + 3) = ⟨10, 2, 4⟩ := by
    decide +kernel
  refine ⟨(parse_comma _ _).1 _ _ hclick hevery, ?_, ?_⟩
  · rw [(parse_comma _ _).2.1 _ _ hline hwide, hplace]
  · exact (parse_comma _ _).2.2 _ hbad (by nofun)

end Trigger

end Hypermedia
