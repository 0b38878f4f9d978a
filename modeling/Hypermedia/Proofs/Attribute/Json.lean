import Hypermedia.Attribute.Printing
import Hypermedia.Proofs.Json
import Hypermedia.Proofs.Reader.Duration

/-!
The JSON form of values. A value that is one of several alternatives is a bare
word or an object with one field, and it can be read back from that: no tag
stands for two alternatives. A record shows all its fields. So different values
have different forms, also across the kinds of attributes.
-/

namespace Hypermedia

/-- What can be read back is known from its form. -/
theorem eq_of_readBack {α β : Type} {form : α → β} {read? : β → Option α}
    (hread : ∀ a, read? (form a) = some a) {a b : α} (h : form a = form b) : a = b :=
  Option.some.inj (by rw [← hread a, h, hread b])

theorem Position.json_injective {p q : Position} (h : p.json = q.json) : p = q := by
  obtain ⟨offset, line, column⟩ := p
  obtain ⟨offset', line', column'⟩ := q
  simpa [json] using h

namespace Duration

/-- The duration that has this form. -/
def ofJson? : Json → Option Duration
  | .number millis => ofMillis? millis
  | _ => none

theorem ofJson?_json (time : Duration) : ofJson? time.json = some time :=
  ofMillis?_millis time

end Duration

namespace QueueMode

/-- The mode that has this form. -/
def ofJson? : Json → Option QueueMode
  | .text word => values.find? fun mode => mode.tag == word
  | _ => none

theorem ofJson?_json (mode : QueueMode) : ofJson? mode.json = some mode := by
  cases mode <;> rfl

end QueueMode

namespace Trigger

/-- The selector that has this form. -/
def Selector.ofJson? : Json → Option Selector
  | .text word => (Scope.values.find? fun named => named.tag == word).map .scope
  | .object [(tag, .text text)] =>
      if tag = "Css" then some (.css text)
      else
        (Relation.values.find? fun how => how.tag == tag).map fun how => .relative how text
  | _ => none

theorem Selector.ofJson?_json (selector : Selector) : ofJson? selector.json = some selector := by
  cases selector with
  | scope named => cases named <;> rfl
  | relative how text => cases how <;> rfl
  | css text => rfl

/-- The modifier with this tag and content. Most tags are of one modifier, and
the others of a pace or a role. -/
def Modifier.ofTagged? (tag : String) (content : Json) : Option Modifier :=
  match tag with
  | "Filter" =>
      match content with
      | .text condition => some (.filter condition)
      | _ => none
  | "Queue" => (QueueMode.ofJson? content).map .queue
  | "Every" => (Duration.ofJson? content).map .every
  | _ =>
      match Pace.values.find? fun kind => kind.tag == tag with
      | some kind => (Duration.ofJson? content).map (.pace kind)
      | none =>
          (Role.values.find? fun role => role.tag == tag).bind fun role =>
            (Selector.ofJson? content).map (.element role)

/-- The modifier that has this form. -/
def Modifier.ofJson? : Json → Option Modifier
  | .text word => (Flag.values.find? fun flag => flag.tag == word).map .flag
  | .object [(tag, content)] => ofTagged? tag content
  | _ => none

theorem Modifier.ofJson?_json (modifier : Modifier) : ofJson? modifier.json = some modifier := by
  cases modifier with
  | flag word => cases word <;> rfl
  | pace kind time =>
      cases kind <;> exact congrArg (Option.map _) (Duration.ofJson?_json time)
  | element role selector =>
      cases role <;> exact congrArg (Option.map _) (Selector.ofJson?_json selector)
  | filter condition => rfl
  | queue mode => exact congrArg (Option.map _) (QueueMode.ofJson?_json mode)
  | every interval => exact congrArg (Option.map _) (Duration.ofJson?_json interval)

theorem Clause.json_injective {clause other : Clause} (h : clause.json = other.json) :
    clause = other := by
  obtain ⟨event, modifiers⟩ := clause
  obtain ⟨event', modifiers'⟩ := other
  simp only [json, Json.object.injEq, List.cons.injEq, Prod.mk.injEq, Json.text.injEq,
    Json.array.injEq, true_and, and_true] at h
  obtain ⟨rfl, hmodifiers⟩ := h
  rw [List.map_inj_right fun _ _ => eq_of_readBack Modifier.ofJson?_json] at hmodifiers
  rw [hmodifiers]

end Trigger

theorem Swap.Options.json_injective {options other : Options} (h : options.json = other.json) :
    options = other := by
  cases options
  cases other
  simp only [json, Json.object.injEq, List.cons.injEq, Prod.mk.injEq, Json.text.injEq,
    Json.boolean.injEq, true_and, and_true] at h
  obtain ⟨hstrategy, hswap, hsettle, rfl, rfl, rfl, rfl, rfl⟩ := h
  obtain rfl := eq_of_readBack Strategy.ofTag?_tag hstrategy
  obtain rfl := eq_of_readBack Duration.ofJson?_json hswap
  obtain rfl := eq_of_readBack Duration.ofJson?_json hsettle
  rfl

/-- The sync that has this form. -/
def Sync.ofJson? : Json → Option Sync
  | .text word => [("Drop", drop), ("Replace", replace), ("Abort", abort)].lookup word
  | .object [("Queue", content)] => (QueueMode.ofJson? content).map .queue
  | _ => none

theorem Sync.ofJson?_json (sync : Sync) : ofJson? sync.json = some sync := by
  cases sync with
  | queue mode => exact congrArg (Option.map _) (QueueMode.ofJson?_json mode)
  | _ => rfl

namespace Attribute.Value

/-- A sync can be read back, and nothing can be read as a sync from the form of
another value. -/
theorem eq_sync_of_json {value : Value} {strategy : Sync} (h : value.json = strategy.json) :
    value = .sync strategy := by
  have hread := Sync.ofJson?_json strategy
  rw [← h] at hread
  cases value with
  | trigger clauses => cases hread
  | swap options => cases hread
  | sync other => rw [eq_of_readBack Sync.ofJson?_json h]

theorem json_injective {value other : Value} (h : value.json = other.json) : value = other := by
  cases other with
  | trigger others =>
      cases value with
      | trigger clauses =>
          have hclauses := Json.array.inj h
          rw [List.map_inj_right fun _ _ => Trigger.Clause.json_injective] at hclauses
          rw [hclauses]
      | swap options => cases h
      | sync strategy => exact (eq_sync_of_json h.symm).symm
  | swap others =>
      cases value with
      | trigger clauses => cases h
      | swap options => rw [Swap.Options.json_injective h]
      | sync strategy => exact (eq_sync_of_json h.symm).symm
  | sync strategy => exact eq_sync_of_json h

theorem kindJson_injective {value other : Value} (h : value.kindJson = other.kindJson) :
    value = other := by
  simp only [kindJson, Json.object.injEq, List.cons.injEq, Prod.mk.injEq, true_and, and_true] at h
  exact json_injective h.2

/-- The text of a value tells which value it is. -/
theorem printed_json_inj {value other : Value} :
    value.printed .json = other.printed .json ↔ value = other := by
  constructor
  · intro h
    exact json_injective (Json.pretty_injective ((String.append_left_inj _).mp h))
  · rintro rfl
    rfl

end Attribute.Value

end Hypermedia
