import Mathlib.Control.Monad.Basic
import Hypermedia.Proofs.Position.Offset
import Hypermedia.Proofs.Swap.Fault
import Hypermedia.Proofs.Sync
import Hypermedia.Proofs.Trigger.Fault

/-!
What the place of an error is good for. A tool that shows an error needs its
offset to be one of the text and its line and column to agree with that offset,
and a reader of the message expects to find there what it talks about. An
editor that keeps all in front of the place keeps a text that can be finished.

Both hold for all three languages, since an error of any of them reports a
fault of its grammar at the place of that fault.
-/

namespace Hypermedia

open Grammar

namespace ParseError

/-- What an error owes to its text. Its place is a cut between two characters
and is counted as it would be from the start, and what the cause says can be
seen around the cut. -/
structure PointsInto (e : ParseError) (text : String) : Prop where
  within : e.position.offset ≤ text.utf8ByteSize
  counted : e.position = Position.ofOffset text e.position.offset
  evidence : ∃ before behind : String, text = before ++ behind ∧
    before.utf8ByteSize = e.position.offset ∧
    Evidence before.toList behind.toList e.cause

/-- The text in front of the place of an error is the beginning of some text
that is accepted. -/
def EndsViablePrefix (e : ParseError) (text : String) (accepts : String → Prop) : Prop :=
  ∃ before behind tail : String, text = before ++ behind ∧
    before.utf8ByteSize = e.position.offset ∧ accepts (before ++ tail)

end ParseError

namespace Cursor

variable {text : String} {e : ParseError}
  {F : ParseError.Cause → List Char → List Char → Prop}

/-- A fault of a whole text cuts it in two where the error is reported. -/
theorem Faults.cut (h : Faults F (.start text) e) :
    ∃ before behind : String, text = before ++ behind ∧
      before.utf8ByteSize = e.position.offset ∧
      e.position = Position.ofOffset text e.position.offset ∧
      F e.cause before.toList behind.toList := by
  obtain ⟨used, here, htakes, hplace, hfault⟩ := h
  have hsplit : text.toList = used ++ here.rest := htakes.rest_eq
  have hposition : e.position = Position.start.after used := hplace.trans htakes.position_eq
  refine ⟨String.ofList used, String.ofList here.rest, ?_, ?_, ?_, ?_⟩
  · exact Position.eq_append_of_toList hsplit
  · rw [hposition, Position.offset_start_after]
  · rw [hposition]
    exact (Position.ofOffset_after hsplit).symm
  · rw [String.toList_ofList, String.toList_ofList]
    exact hfault

theorem Faults.pointsInto (h : Faults F (.start text) e)
    (hevidence : ∀ {used behind}, F e.cause used behind → Evidence used behind e.cause) :
    e.PointsInto text := by
  obtain ⟨before, behind, hsplit, hsize, hcounted, hfault⟩ := h.cut
  refine ⟨?_, hcounted, before, behind, hsplit, hsize, hevidence hfault⟩
  rw [← hsize, hsplit, String.utf8ByteSize_append]
  exact Nat.le_add_right _ _

/-- A text is finished by characters that its grammar puts behind the cut. -/
theorem Faults.endsViablePrefix (h : Faults F (.start text) e) {accepts : String → Prop}
    (hcompletes : ∀ {used behind}, F e.cause used behind →
      ∃ tail, ∀ other : String, other.toList = used ++ tail → accepts other) :
    e.EndsViablePrefix text accepts := by
  obtain ⟨before, behind, hsplit, hsize, -, hfault⟩ := h.cut
  obtain ⟨tail, haccepts⟩ := hcompletes hfault
  refine ⟨before, behind, String.ofList tail, hsplit, hsize, haccepts _ ?_⟩
  rw [String.toList_append, String.toList_ofList]

end Cursor

/-- Whichever language a text is read in, an error points at what it is
about. -/
theorem pointsInto_of_parse_error (text : String) (defaults : Swap.Defaults) (e : ParseError)
    (h : Trigger.parse text = .error e ∨ Swap.parse defaults text = .error e ∨
      Sync.parse text = .error e) : e.PointsInto text := by
  rcases h with htrigger | hswap | hsync
  · exact (Trigger.parse_error_triggerFault htrigger).pointsInto TriggerFault.evidence
  · exact (Swap.parse_error_itemsFault hswap).pointsInto ItemsFault.evidence
  · exact (Sync.parse_error_syncFault hsync).pointsInto SyncFault.evidence

/-- A relation without its token on a second line, a switch behind a character
of two bytes, and a strategy with something behind it. -/
theorem pointsInto_behind_wide_characters :
    (⟨⟨20, 2, 17⟩, .invalidSelector "closest"⟩ : ParseError).PointsInto
        "é,\nx from:closest  , once" ∧
      (⟨⟨15, 1, 15⟩, .invalidValue "transition" "on"⟩ : ParseError).PointsInto
        "é! transition:on" ∧
      (⟨⟨6, 2, 1⟩, .unexpectedChar "end of input" ','⟩ : ParseError).PointsInto
        "queue\n, drop" := by
  refine ⟨pointsInto_of_parse_error _ .documented _ (.inl ?_),
    pointsInto_of_parse_error _ .documented _ (.inr (.inl ?_)),
    pointsInto_of_parse_error _ .documented _ (.inr (.inr ?_))⟩
  · decide +kernel
  · decide +kernel
  · decide +kernel

/-- The text in front of an error is never the problem: with another text
behind it, it would have been read. -/
theorem endsViablePrefix_of_parse_error (text : String) (defaults : Swap.Defaults)
    (e : ParseError) :
    (Trigger.parse text = .error e →
      e.EndsViablePrefix text fun other => ∃ found, Trigger.parse other = .ok found) ∧
    (Swap.parse defaults text = .error e →
      e.EndsViablePrefix text fun other => ∃ options, Swap.parse defaults other = .ok options) ∧
    (Sync.parse text = .error e →
      e.EndsViablePrefix text fun other => ∃ sync, Sync.parse other = .ok sync) := by
  refine ⟨fun h => ?_, fun h => ?_, fun h => ?_⟩
  · apply (Trigger.parse_error_triggerFault h).endsViablePrefix
    intro used behind hfault
    obtain ⟨tail, clauses, hclauses⟩ := hfault.completes
    refine ⟨tail, fun other hother => ⟨clauses, ?_⟩⟩
    rw [← hother] at hclauses
    exact Trigger.clauses_complete (c := .start other) rfl hclauses
  · apply (Swap.parse_error_itemsFault h).endsViablePrefix
    intro used behind hfault
    obtain ⟨-, tail, items, hitems⟩ := hfault.completes
    refine ⟨tail, fun other hother => ?_⟩
    rw [← hother] at hitems
    exact ⟨_, Swap.parse_eq_ok_iff_itemsText.mpr ⟨items, hitems, rfl⟩⟩
  · apply (Sync.parse_error_syncFault h).endsViablePrefix
    intro used behind hfault
    obtain ⟨tail, sync, hsync⟩ := hfault.completes
    refine ⟨tail, fun other hother => ⟨sync, ?_⟩⟩
    rw [← hother] at hsync
    exact Sync.parse_eq_ok_iff_syncText.mpr hsync

/-- A filter that is not closed, a number without a unit that is known, and a
mode in which nothing waits. -/
theorem endsViablePrefix_inside_values :
    (⟨⟨15, 2, 3⟩, .unexpectedEnd "']'"⟩ : ParseError).EndsViablePrefix "click, é[a,\nb,"
        (fun other => ∃ found, Trigger.parse other = .ok found) ∧
      (⟨⟨11, 1, 12⟩, .unexpectedChar "unit (ms, s)" 'm'⟩ : ParseError).EndsViablePrefix
        "none swap:5min" (fun other => ∃ options, Swap.parse .documented other = .ok options) ∧
      (⟨⟨6, 1, 7⟩, .invalidModifier "drop"⟩ : ParseError).EndsViablePrefix "queue:drop"
        (fun other => ∃ sync, Sync.parse other = .ok sync) := by
  refine ⟨(endsViablePrefix_of_parse_error _ .documented _).1 ?_,
    (endsViablePrefix_of_parse_error _ .documented _).2.1 ?_,
    (endsViablePrefix_of_parse_error _ .documented _).2.2 ?_⟩
  · decide +kernel
  · decide +kernel
  · decide +kernel

end Hypermedia
