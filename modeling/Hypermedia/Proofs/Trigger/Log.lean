import Mathlib.Control.Monad.Basic
import Hypermedia.Proofs.Trigger.Composition

/-!
What reading a trigger reports: one record for each clause, as soon as it is
complete. So the records of a text that cannot be read are the records of the
clauses in front of the fault, and these make up a text of their own. It ends
at a comma, but which comma that is depends on the clauses: there are commas in
quotes and brackets too.
-/

namespace Hypermedia

open Grammar Reader Trigger

namespace TwoRuns

variable {runs : TwoRuns} {first second : Reading Clause}

/-- Behind a text that is read in full, the second run goes on with what the
tail gives. -/
theorem Readings.parts_of_ok {found : List Clause} (h : runs.Readings first second)
    (hfound : first.toExcept = .ok found) : second.parts = found ++ runs.following.parts := by
  induction h generalizing found with
  | done =>
      cases hfound
      rfl
  | failed hfaults => cases hfound
  | cut hcut => cases hfound
  | cons clause hrest ih =>
      obtain ⟨others, rfl, hothers⟩ := Reading.toExcept_cons_eq_ok_iff.mp hfound
      exact congrArg (clause :: ·) (ih hothers)

/-- Without a tail the two runs complete the same clauses, whatever their places
are. -/
theorem Readings.parts_eq (h : runs.Readings first second) (htail : runs.tail = []) :
    second.parts = first.parts := by
  induction h with
  | done =>
      unfold following
      rw [htail]
  | failed hfaults => rfl
  | cut hcut => exact absurd htail hcut.1
  | cons clause hrest ih => exact congrArg (clause :: ·) ih

end TwoRuns

namespace Trigger

open TwoRuns

/-- The report on a clause. -/
def Clause.record (clause : Clause) : Log.Record :=
  { level := .trace
    message := "parsed trigger clause"
    fields := [("event", clause.event), ("modifiers", toString clause.modifiers.length)] }

theorem log_eq (text : String) : log text = (read text).parts.map Clause.record :=
  rfl

theorem log_of_ok {text : String} {found : List Clause} (h : parse text = .ok found) :
    log text = found.map Clause.record := by
  rw [log_eq, Reading.parts_of_toExcept h]

/-- The clauses that are completed behind a comma are those of the text behind
it, if the text before it can be read. -/
theorem parts_comma_of_ok {a : String} {found : List Clause} (h : parse a = .ok found)
    (b : String) : (read (a ++ "," ++ b)).parts = found ++ (read b).parts := by
  rw [(readings_beforeComma a b).parts_of_ok h, (readings_behindComma a b).parts_eq rfl]

/-- The clauses in front of a fault end at a comma, and up to there they are the
clauses of the text. By induction on the course of the reading. -/
theorem Course.completed {c : Cursor} {reading : Reading Clause} {e : ParseError}
    (h : Course c reading) (herror : reading.toExcept = .error e) :
    reading.parts = [] ∨
      ∃ used next, c.Takes (used ++ [',']) next ∧ TriggerText reading.parts used := by
  induction h with
  | failed fault => exact .inl rfl
  | last read ends => cases herror
  | @more c d next clause reading read comma others ih =>
      obtain ⟨used, htakes, htext, -⟩ := clause_sound read
      rw [comma.rest_eq] at htext
      right
      rcases ih (Reading.toExcept_cons_eq_error_iff.mp herror) with
        hnone | ⟨more, behind, hmore, htrigger⟩
      · have hlast := htext.startsLike (startsLike_nil _) (clauseEnd_comma _)
        refine ⟨used, next, htakes.trans comma, ?_⟩
        unfold Reading.cons
        rw [hnone]
        exact .one hlast
      · have hlike : StartsLike (',' :: more) (',' :: next.rest) := startsLike_cons _ _ _
        have hfirst := htext.startsLike hlike (clauseEnd_comma _)
        have hall := (htakes.trans comma).trans hmore
        refine ⟨used ++ ',' :: more, behind, ?_, .more hfirst htrigger⟩
        simpa using hall

/-- Either no clause is completed in front of a fault, or the text splits at a
comma, with all the completed clauses in front of it and the fault behind. -/
theorem split_of_error {text : String} {e : ParseError} (h : parse text = .error e) :
    (read text).parts = [] ∨
      ∃ a b, text = a ++ "," ++ b ∧ parse a = .ok (read text).parts ∧ (read b).parts = [] := by
  rcases (course_of_clauses (.start text)).completed h with hnone | ⟨used, next, htakes, htrigger⟩
  · exact .inl hnone
  · right
    have htext : text = String.ofList used ++ "," ++ String.ofList next.rest := by
      rw [Position.eq_append_of_toList htakes.rest_eq, String.ofList_append]
    have hparse : parse (String.ofList used) = .ok (read text).parts :=
      clauses_complete (c := .start (String.ofList used)) String.toList_ofList htrigger
    refine ⟨_, _, htext, hparse, ?_⟩
    have hparts := parts_comma_of_ok hparse (String.ofList next.rest)
    rw [← htext] at hparts
    exact List.self_eq_append_right.mp hparts

/-- A text that is read in full is reported clause by clause. If there is a
fault, then either nothing is reported, or the text splits at a comma into one
that is read in full, with all that is reported, and one that reports nothing
and has the fault, counted from the comma. -/
theorem log_follows_clauses (text : String) :
    (∀ found, parse text = .ok found → log text = found.map Clause.record) ∧
    ∀ e, parse text = .error e →
      log text = [] ∨
        ∃ a b found f, text = a ++ "," ++ b ∧ parse a = .ok found ∧ log text = log a ∧
          parse b = .error f ∧ log b = [] ∧
          e = { f with
            position := Position.ofOffset text (a.utf8ByteSize + 1 + f.position.offset) } := by
  refine ⟨fun found h => log_of_ok h, fun e h => ?_⟩
  rcases split_of_error h with hnone | ⟨a, b, rfl, ha, hb⟩
  · left
    rw [log_eq, hnone]
    rfl
  · right
    have hjoined := parse_comma_of_ok ha b
    rw [h] at hjoined
    cases hparse : parse b with
    | ok others =>
        rw [following_of_ok hparse a] at hjoined
        cases hjoined
    | error f =>
        rw [following_of_error hparse a] at hjoined
        cases hjoined
        refine ⟨a, b, _, f, rfl, ha, (log_of_ok ha).symm, hparse, ?_, rfl⟩
        rw [log_eq, hb]
        rfl

/-- Commas in quotes and in a filter, a clause on a second line, and an interval
that is refused. -/
theorem log_follows_clauses_behind_commas :
    log "click from:'a,b'[x,y],\né once" =
        [⟨.trace, "parsed trigger clause", [("event", "click"), ("modifiers", "2")]⟩,
          ⟨.trace, "parsed trigger clause", [("event", "é"), ("modifiers", "1")]⟩] ∧
      parse "click from:'a,b'[x,y],\né once, every 5x" =
        .error ⟨⟨39, 2, 16⟩, .unexpectedChar "unit (ms, s)" 'x'⟩ ∧
      ∃ a b found f, "click from:'a,b'[x,y],\né once, every 5x" = a ++ "," ++ b ∧
        parse a = .ok found ∧ log "click from:'a,b'[x,y],\né once, every 5x" = log a ∧
        parse b = .error f ∧ log b = [] ∧
        (⟨⟨39, 2, 16⟩, .unexpectedChar "unit (ms, s)" 'x'⟩ : ParseError) = { f with
          position := Position.ofOffset "click from:'a,b'[x,y],\né once, every 5x"
            (a.utf8ByteSize + 1 + f.position.offset) } := by
  have hread : parse "click from:'a,b'[x,y],\né once" =
      .ok [⟨"click", [.element .source (.css "a,b"), .filter "x,y"]⟩, ⟨"é", [.flag .once]⟩] := by
    decide +kernel
  have hfault : parse "click from:'a,b'[x,y],\né once, every 5x" =
      .error ⟨⟨39, 2, 16⟩, .unexpectedChar "unit (ms, s)" 'x'⟩ := by
    decide +kernel
  have hsome : log "click from:'a,b'[x,y],\né once, every 5x" ≠ [] := by
    decide +kernel
  refine ⟨(log_follows_clauses _).1 _ hread, hfault, ?_⟩
  exact ((log_follows_clauses _).2 _ hfault).resolve_left hsome

end Trigger

end Hypermedia
