import Hypermedia.Log
import Hypermedia.Reader.Forward
import Hypermedia.Reading
import Hypermedia.Trigger

/-!
Reading triggers. Clauses are separated by commas. Inside a clause white space
separates what would otherwise run together, and nothing more: a filter may
touch the name before it. Every modifier uses up some text, and so does every
clause, which is why both loops end.
-/

namespace Hypermedia.Trigger

open Reader

/-- A selector: one of the named elements, a relation with the token behind
it, or selector text. A token in quotes is always selector text. -/
def Selector.reader : Reader Selector := do
  let start := (← get).position
  if (← get).isAt isQuote then
    let text ← token
    if text.isEmpty then throw ⟨start, .invalidSelector ""⟩
    else pure (.css text)
  else
    let word ← bareToken
    match Scope.ofKeyword? word with
    | some named => pure (.scope named)
    | none =>
        match Relation.ofKeyword? word with
        | some how =>
            blank
            let behindBlank := (← get).position
            let text ← token
            if text.isEmpty then throw ⟨behindBlank, .invalidSelector word⟩
            else pure (.relative how text)
        | none =>
            if word.isEmpty then throw ⟨start, .invalidSelector ""⟩
            else pure (.css word)

/-- The mode behind `queue:`. -/
def queueMode : Reader QueueMode := do
  let start := (← get).position
  let word ← bareToken
  match QueueMode.ofKeyword? word with
  | some mode => pure mode
  | none => throw ⟨start, .invalidModifier word⟩

/-- The modifier with this name and a colon behind it, which have been read. -/
def Modifier.valueReader (start : Position) (name : String) : Reader Modifier :=
  match Pace.ofKeyword? name with
  | some kind => do
      let time ← duration Duration.attributeUnits
      pure (.pace kind time)
  | none =>
      match Role.ofKeyword? name with
      | some role => do
          let selector ← Selector.reader
          pure (.element role selector)
      | none =>
          if name = "queue" then do
            let mode ← queueMode
            pure (.queue mode)
          else throw ⟨start, .invalidModifier name⟩

/-- A modifier that starts with a name. -/
def Modifier.namedReader : Reader Modifier := do
  let start := (← get).position
  if (← get).isAt isNameChar then
    let name ← Reader.name
    if ← literal? ":" then Modifier.valueReader start name
    else
      match Flag.ofKeyword? name with
      | some word => pure (.flag word)
      | none => throw ⟨start, .invalidModifier name⟩
  else
    let word ← bareToken
    throw ⟨start, .invalidModifier word⟩

/-- A condition in brackets. -/
def Modifier.filterReader : Reader Modifier := do
  let condition ← bracketed
  pure (.filter condition)

/-- The next modifier of a clause, or nothing where the clause ends. -/
def Modifier.next? : Reader (Option Modifier) := do
  blank
  match (← get).peek with
  | none => pure none
  | some c =>
      if c = ',' then pure none
      else if c = '[' then do
        let modifier ← Modifier.filterReader
        pure (some modifier)
      else do
        let modifier ← Modifier.namedReader
        pure (some modifier)

/-- The event `every` polls if a digit follows. Otherwise it is an event like
any other. -/
def intervalReader (event : String) : Reader (List Modifier) := do
  if event = "every" then
    blank
    if (← get).isAt Char.isDigit then
      let interval ← duration Duration.attributeUnits
      pure [.every interval]
    else pure []
  else pure []

theorem Selector.forward_reader : Forward Selector.reader := by
  refine forward_bind forward_get fun _ => forward_bind forward_get fun _ => ?_
  split
  · refine forward_bind forward_token fun _ => ?_
    split
    · exact forward_throw _
    · exact forward_pure _
  · refine forward_bind forward_bareToken fun _ => ?_
    split
    · exact forward_pure _
    · split
      · refine forward_bind forward_blank fun _ => ?_
        refine forward_bind forward_get fun _ => ?_
        refine forward_bind forward_token fun _ => ?_
        split
        · exact forward_throw _
        · exact forward_pure _
      · split
        · exact forward_throw _
        · exact forward_pure _

theorem forward_queueMode : Forward queueMode := by
  refine forward_bind forward_get fun _ => forward_bind forward_bareToken fun _ => ?_
  split
  · exact forward_pure _
  · exact forward_throw _

theorem Modifier.forward_valueReader (start : Position) (name : String) :
    Forward (Modifier.valueReader start name) := by
  unfold Modifier.valueReader
  split
  · exact forward_bind (forward_duration _) fun _ => forward_pure _
  · split
    · exact forward_bind Selector.forward_reader fun _ => forward_pure _
    · split
      · exact forward_bind forward_queueMode fun _ => forward_pure _
      · exact forward_throw _

theorem Modifier.forward_namedReader : Forward Modifier.namedReader := by
  refine forward_bind forward_get fun _ => forward_bind forward_get fun _ => ?_
  split
  · refine forward_bind forward_name fun _ => ?_
    refine forward_bind (forward_literal? _) fun _ => ?_
    split
    · exact Modifier.forward_valueReader _ _
    · split
      · exact forward_pure _
      · exact forward_throw _
  · exact forward_bind forward_bareToken fun _ => forward_throw _

/-- A modifier that starts with a name uses up that name. -/
theorem Modifier.consuming_namedReader : Consuming Modifier.namedReader := by
  refine consuming_bind_of_next forward_get fun _ => ?_
  refine consuming_bind_of_next forward_get fun _ => ?_
  split
  · refine consuming_bind consuming_name fun _ => ?_
    refine forward_bind (forward_literal? _) fun _ => ?_
    split
    · exact Modifier.forward_valueReader _ _
    · split
      · exact forward_pure _
      · exact forward_throw _
  · exact consuming_bind_of_next forward_bareToken fun _ => consuming_throw _

theorem forward_intervalReader (event : String) : Forward (intervalReader event) := by
  unfold intervalReader
  split
  · refine forward_bind forward_blank fun _ => forward_bind forward_get fun _ => ?_
    split
    · exact forward_bind (forward_duration _) fun _ => forward_pure _
    · exact forward_pure _
  · exact forward_pure _

theorem Modifier.forward_filterReader : Forward Modifier.filterReader :=
  forward_bind forward_bracketed fun _ => forward_pure _

theorem Modifier.consuming_filterReader : Consuming Modifier.filterReader :=
  consuming_bind consuming_bracketed fun _ => forward_pure _

/-- A modifier that has been read has used up some text. -/
theorem Modifier.length_lt_of_next? {c d : Cursor} {modifier : Modifier}
    (h : Modifier.next? c = .ok (some modifier) d) : d.rest.length < c.rest.length := by
  have some_consumes : ∀ r : Reader Modifier, Consuming r → ∀ e : Cursor,
      (do let m ← r; pure (some m) : Reader (Option Modifier)) e = .ok (some modifier) d →
      d.rest.length < e.rest.length := fun r hr e he =>
    consuming_bind hr (fun _ => forward_pure _) e _ d he
  have hblank := (c.reaches_pastRun Text.isBlank).length_le
  unfold Modifier.next? at h
  rw [blank_bind, get_bind] at h
  cases hpeek : (c.pastRun Text.isBlank).peek with
  | none =>
      rw [hpeek] at h
      cases h
  | some first =>
      rw [hpeek] at h
      dsimp only at h
      split at h
      · cases h
      · split at h
        · exact Nat.lt_of_lt_of_le (some_consumes _ consuming_filterReader _ h) hblank
        · exact Nat.lt_of_lt_of_le (some_consumes _ consuming_namedReader _ h) hblank

/-- The modifiers up to the end of a clause. -/
def Modifier.readAll (c : Cursor) : EStateM.Result ParseError Cursor (List Modifier) :=
  match _h : Modifier.next? c with
  | .error e d => .error e d
  | .ok none d => .ok [] d
  | .ok (some modifier) d =>
      match Modifier.readAll d with
      | .error e f => .error e f
      | .ok others f => .ok (modifier :: others) f
termination_by c.rest.length
decreasing_by exact Modifier.length_lt_of_next? ‹_›

/-- A clause: an event, its interval if it polls, and its modifiers. -/
def Clause.reader : Reader Clause := do
  blank
  let here ← get
  if here.isAt isNameChar then
    let event ← Reader.name
    let interval ← intervalReader event
    let others ← Modifier.readAll
    pure ⟨event, interval ++ others⟩
  else throw (here.missing "event name")

theorem Modifier.forward_next? : Forward Modifier.next? := by
  refine forward_bind forward_blank fun _ => forward_bind forward_get fun _ => ?_
  split
  · exact forward_pure _
  · split
    · exact forward_pure _
    · split
      · exact forward_bind Modifier.forward_filterReader fun _ => forward_pure _
      · exact forward_bind Modifier.forward_namedReader fun _ => forward_pure _

theorem Modifier.forward_readAll : Forward Modifier.readAll := by
  intro c
  have hfirst := Modifier.forward_next? c
  fun_induction Modifier.readAll c with
  | case1 c e d h =>
      rw [h] at hfirst
      exact hfirst
  | case2 c d h =>
      rw [h] at hfirst
      exact hfirst
  | case3 c modifier d h e f hrest ih =>
      rw [h] at hfirst
      have := ih (Modifier.forward_next? d)
      rw [hrest] at this
      exact hfirst.trans this
  | case4 c modifier d h others f hrest ih =>
      rw [h] at hfirst
      have := ih (Modifier.forward_next? d)
      rw [hrest] at this
      exact hfirst.trans this

/-- A clause uses up the name of its event. -/
theorem Clause.consuming_reader : Consuming Clause.reader := by
  refine consuming_bind_of_next forward_blank fun _ => ?_
  refine consuming_bind_of_next forward_get fun _ => ?_
  split
  · refine consuming_bind consuming_name fun _ => ?_
    refine forward_bind (forward_intervalReader _) fun _ => ?_
    exact forward_bind Modifier.forward_readAll fun _ => forward_pure _
  · exact consuming_throw _

/-- The clauses from here to the end. A comma promises a further clause, so a
comma at the end is a fault of that clause. -/
def clauses (c : Cursor) : Reading Clause :=
  match _h : Clause.reader c with
  | .error e _ => .failed e
  | .ok clause d =>
      let here := d.pastRun Text.isBlank
      if here.atEnd then .cons clause .done
      else
        match _hcomma : literal "," here with
        | .error e _ => .cons clause (.failed e)
        | .ok () next => .cons clause (clauses next)
termination_by c.rest.length
decreasing_by
  have hclause := Clause.consuming_reader _ _ _ ‹Clause.reader c = _›
  have hblank : here.rest.length ≤ d.rest.length :=
    (d.reaches_pastRun Text.isBlank).length_le
  have hnext := (forward_literal ",").length_le _hcomma
  omega

/-- How far a text can be read as a trigger. -/
def read (text : String) : Reading Clause :=
  clauses (.start text)

/-- The clauses of a trigger, or its first fault. -/
def parse (text : String) : Except ParseError (List Clause) :=
  (read text).toExcept

/-- What reading a trigger reports: each clause, as soon as it is complete. -/
def log (text : String) : List Log.Record :=
  (read text).parts.map fun clause =>
    { level := .trace
      message := "parsed trigger clause"
      fields := [("event", clause.event), ("modifiers", toString clause.modifiers.length)] }

end Hypermedia.Trigger
