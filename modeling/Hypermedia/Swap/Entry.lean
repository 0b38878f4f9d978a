import Hypermedia.Log
import Hypermedia.Reader.Forward
import Hypermedia.Reading
import Hypermedia.Swap

/-!
The entries of a swap text, one after another. A reader of swaps is lenient: it
passes over what it does not know and reports it, and only a known setting with
a value that it does not take is a fault. What an entry is depends on the text
alone, never on the values that a swap starts from.
-/

namespace Hypermedia.Swap

open Reader

/-- What is passed over. -/
inductive Ignored where
  /-- Text that does not start like a name. -/
  | token (text : String)
  /-- A word that is not a strategy, or that stands too late to be one. -/
  | word (text : String)
  /-- A setting that is not known. -/
  | setting (key : String) (value : String)
deriving DecidableEq, Repr

/-- What an entry says. -/
inductive Item where
  | strategy (strategy : Strategy)
  | setting (setting : Setting)
  | ignored (what : Ignored)
deriving DecidableEq, Repr

/-- An item, the place where it starts, and the text that it takes up. -/
structure Entry where
  start : Position
  text : String
  item : Item
deriving DecidableEq, Repr

/-- The value of a switch. -/
def switchValue (switch : Switch) : Reader Bool := do
  let start := (← get).position
  let word ← bareToken
  if word = "true" then pure true
  else if word = "false" then pure false
  else throw ⟨start, .invalidValue switch.keyword word⟩

/-- The value of an unknown setting. A quote that is never closed is no fault
here: everything from the quote on is the value. -/
def unknownValue : Reader String := fun c =>
  match token c with
  | .ok value d => .ok value d
  | .error _ d => .ok (String.ofList c.rest) d

/-- The item with this key and a colon behind it, which have been read. -/
def Item.valueReader (key : String) : Reader Item :=
  match Timing.ofKeyword? key with
  | some timing => do
      let time ← duration Duration.attributeUnits
      pure (.setting (.delay timing time))
  | none =>
      match Movement.ofKeyword? key with
      | some movement => do
          let place ← token
          pure (.setting (.move movement place))
      | none =>
          match Switch.ofKeyword? key with
          | some switch => do
              let isOn ← switchValue switch
              pure (.setting (.turn switch isOn))
          | none => do
              let value ← unknownValue
              pure (.ignored (.setting key value))

/-- The item that starts with a name. Only the first item of a text can name a
strategy, and what touches the name is then an item of its own. -/
def Item.namedReader (isFirst : Bool) : Reader Item := do
  let key ← name
  if ← literal? ":" then Item.valueReader key
  else
    match if isFirst then Strategy.ofKeyword? key else none with
    | some named => pure (.strategy named)
    | none =>
        let tail ← bareToken
        pure (.ignored (.word (key ++ tail)))

/-- The item that starts with anything else. A comma ends it and is passed over
with it. -/
def Item.tokenReader : Reader Item := do
  let text ← bareToken
  let _ ← literal? ","
  pure (.ignored (.token text))

/-- The item that starts here, at a character that is not white space. -/
def Item.reader (isFirst : Bool) : Reader Item := do
  if (← get).isAt isNameChar then Item.namedReader isFirst else Item.tokenReader

theorem forward_switchValue (switch : Switch) : Forward (switchValue switch) := by
  refine forward_bind forward_get fun _ => forward_bind forward_bareToken fun _ => ?_
  split
  · exact forward_pure _
  · split
    · exact forward_pure _
    · exact forward_throw _

theorem forward_unknownValue : Forward unknownValue := by
  intro c
  have h := forward_token c
  unfold unknownValue
  cases hc : token c with
  | ok value d =>
      rw [hc] at h
      exact h
  | error e d =>
      rw [hc] at h
      exact h

theorem Item.forward_valueReader (key : String) : Forward (Item.valueReader key) := by
  unfold Item.valueReader
  split
  · exact forward_bind (forward_duration _) fun _ => forward_pure _
  · split
    · exact forward_bind forward_token fun _ => forward_pure _
    · split
      · exact forward_bind (forward_switchValue _) fun _ => forward_pure _
      · exact forward_bind forward_unknownValue fun _ => forward_pure _

/-- An item that starts with a name uses up that name. -/
theorem Item.consuming_namedReader (isFirst : Bool) :
    Consuming (Item.namedReader isFirst) := by
  refine consuming_bind consuming_name fun _ => ?_
  refine forward_bind (forward_literal? _) fun _ => ?_
  split
  · exact Item.forward_valueReader _
  · split
    · exact forward_pure _
    · exact forward_bind forward_bareToken fun _ => forward_pure _

/-- An item that starts with something else uses up the run of bare characters
there, or, where that run is empty, the comma that ended it. -/
theorem Item.length_lt_of_tokenReader {c d : Cursor} {item : Item}
    (hblank : c.isAt Text.isBlank = false) (hend : c.atEnd = false)
    (h : Item.tokenReader c = .ok item d) : d.rest.length < c.rest.length := by
  obtain ⟨place, rest⟩ := c
  cases rest with
  | nil => simp [Cursor.atEnd] at hend
  | cons x xs =>
      unfold Item.tokenReader bareToken at h
      rw [run_bind, bind_run, literal?_run] at h
      by_cases hx : isBareChar x = true
      · have hrun : (Cursor.pastRun isBareChar ⟨place, x :: xs⟩).rest.length
            < (x :: xs).length := by
          have := (List.dropWhile_sublist isBareChar (l := xs)).length_le
          simp only [Cursor.pastRun, List.dropWhile_cons, hx, if_true, List.length_cons]
          omega
        have hafter : d.rest.length
            ≤ (Cursor.pastRun isBareChar ⟨place, x :: xs⟩).rest.length := by
          split at h
          · rename_i heq
            split at heq
            · cases heq
              cases h
              exact (Cursor.reaches_past _ _).length_le
            · cases heq
              cases h
              exact Nat.le_refl _
          · rename_i heq
            split at heq <;> cases heq
        exact Nat.lt_of_le_of_lt hafter hrun
      · have hcomma : x = ',' := by
          simp only [Cursor.isAt, List.head?_cons, Option.any_some] at hblank
          simpa [isBareChar, hblank] using hx
        subst hcomma
        have hstay : Cursor.pastRun isBareChar ⟨place, ',' :: xs⟩ = ⟨place, ',' :: xs⟩ := by
          have hbare : isBareChar ',' = false := by decide
          simp [Cursor.pastRun, Cursor.run, hbare, Position.after]
        rw [hstay] at h
        have hpre : Cursor.startsWith "," ⟨place, ',' :: xs⟩ = true := by
          simp [Cursor.startsWith]
        rw [if_pos hpre] at h
        cases h
        simp [Cursor.past]

/-- Every item uses up some text. -/
theorem Item.length_lt_of_reader {c d : Cursor} {isFirst : Bool} {item : Item}
    (hblank : c.isAt Text.isBlank = false) (hend : c.atEnd = false)
    (h : Item.reader isFirst c = .ok item d) : d.rest.length < c.rest.length := by
  unfold Item.reader at h
  rw [get_bind] at h
  split at h
  · exact Item.consuming_namedReader isFirst c item d h
  · exact Item.length_lt_of_tokenReader hblank hend h

/-- Behind white space there is none. -/
theorem isAt_pastRun_isBlank (c : Cursor) :
    (c.pastRun Text.isBlank).isAt Text.isBlank = false := by
  have h := List.head?_dropWhile_not Text.isBlank c.rest
  cases hrest : c.rest.dropWhile Text.isBlank with
  | nil => simp [Cursor.isAt, Cursor.pastRun, hrest]
  | cons x xs =>
      rw [hrest] at h
      simpa [Cursor.isAt, Cursor.pastRun, hrest] using h

/-- The entries from here to the end. -/
def entries (isFirst : Bool) (c : Cursor) : Reading Entry :=
  let here := c.pastRun Text.isBlank
  if _hend : here.atEnd then .done
  else
    match _h : Item.reader isFirst here with
    | .error e _ => .failed e
    | .ok item next =>
        let used := here.rest.take (here.rest.length - next.rest.length)
        .cons ⟨here.position, String.ofList used, item⟩ (entries false next)
termination_by c.rest.length
decreasing_by
  have hitem : next.rest.length < here.rest.length :=
    Item.length_lt_of_reader (isAt_pastRun_isBlank c) (by simpa using _hend) _h
  have hblank : here.rest.length ≤ c.rest.length :=
    (c.reaches_pastRun Text.isBlank).length_le
  omega

end Hypermedia.Swap
