import Hypermedia.ParseError

/-!
How far a text that is a sequence of parts could be read. The parts before a
fault are kept: they are what has been reported by the time of the fault.
-/

namespace Hypermedia

/-- The parts read in full, and the fault that ended the reading, if any. -/
structure Reading (α : Type) where
  parts : List α
  failure : Option ParseError

namespace Reading

variable {α : Type}

/-- A reading that ends here without a fault. -/
def done : Reading α := ⟨[], none⟩

/-- A reading that ends here with a fault. -/
def failed (e : ParseError) : Reading α := ⟨[], some e⟩

/-- The same reading with one more part in front. -/
def cons (part : α) (reading : Reading α) : Reading α :=
  { reading with parts := part :: reading.parts }

/-- All parts, if the text was read to its end, and the fault otherwise. -/
def toExcept (reading : Reading α) : Except ParseError (List α) :=
  match reading.failure with
  | none => .ok reading.parts
  | some e => .error e

theorem parts_of_toExcept {reading : Reading α} {found : List α}
    (h : reading.toExcept = .ok found) : reading.parts = found := by
  obtain ⟨parts, failure⟩ := reading
  cases failure <;> cases h
  rfl

theorem toExcept_cons (part : α) (reading : Reading α) :
    (reading.cons part).toExcept = reading.toExcept.map (part :: ·) := by
  obtain ⟨parts, failure⟩ := reading
  cases failure <;> rfl

theorem toExcept_cons_eq_ok_iff {part : α} {reading : Reading α} {found : List α} :
    (reading.cons part).toExcept = .ok found ↔
      ∃ others, found = part :: others ∧ reading.toExcept = .ok others := by
  rw [toExcept_cons]
  cases reading.toExcept with
  | ok parts =>
      constructor
      · intro h
        cases h
        exact ⟨parts, rfl, rfl⟩
      · rintro ⟨others, rfl, h⟩
        cases h
        rfl
  | error e =>
      constructor
      · intro h
        cases h
      · rintro ⟨others, rfl, h⟩
        cases h

/-- The parts in front of a fault do not change it. -/
theorem toExcept_cons_eq_error_iff {part : α} {reading : Reading α} {e : ParseError} :
    (reading.cons part).toExcept = .error e ↔ reading.toExcept = .error e := by
  rw [toExcept_cons]
  cases reading.toExcept with
  | ok parts => exact ⟨nofun, nofun⟩
  | error f => exact Iff.rfl

end Reading

end Hypermedia
