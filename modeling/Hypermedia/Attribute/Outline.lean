import Hypermedia.Attribute
import Hypermedia.Outline

/-!
Attributes and parse errors as outlines. Times are numbers of milliseconds.
-/

namespace Hypermedia

def Position.outline (p : Position) : Outline :=
  .record "Position" [("offset", .number p.offset), ("line", .number p.line),
    ("column", .number p.column)]

def Duration.outline (time : Duration) : Outline :=
  .number time.millis

def QueueMode.outline (mode : QueueMode) : Outline :=
  .word mode.tag

def Trigger.Selector.outline : Trigger.Selector → Outline
  | .scope named => .word named.tag
  | .relative how text => .holder how.tag (.quoted text)
  | .css text => .holder "Css" (.quoted text)

def Trigger.Modifier.outline : Trigger.Modifier → Outline
  | .flag word => .word word.tag
  | .pace kind time => .holder kind.tag time.outline
  | .element role selector => .holder role.tag selector.outline
  | .filter condition => .holder "Filter" (.quoted condition)
  | .queue mode => .holder "Queue" mode.outline
  | .every interval => .holder "Every" interval.outline

def Trigger.Clause.outline (clause : Trigger.Clause) : Outline :=
  .record "TriggerDef" [("event_name", .quoted clause.event),
    ("modifiers", .list (clause.modifiers.map Trigger.Modifier.outline))]

def Swap.Options.outline (options : Swap.Options) : Outline :=
  .record "SwapOptions" [("strategy", .word options.strategy.tag),
    ("swap_delay", options.swapDelay.outline),
    ("settle_delay", options.settleDelay.outline),
    ("scroll", .quoted options.scroll), ("show", .quoted options.reveal),
    ("focus_scroll", .truth options.focusScroll),
    ("transition", .truth options.transition),
    ("ignore_title", .truth options.ignoreTitle)]

def Sync.outline : Sync → Outline
  | .drop => .word "Drop"
  | .replace => .word "Replace"
  | .abort => .word "Abort"
  | .queue mode => .holder "Queue" mode.outline

namespace Attribute.Value

/-- The value alone. -/
def outline : Value → Outline
  | .trigger clauses => .list (clauses.map Trigger.Clause.outline)
  | .swap options => options.outline
  | .sync strategy => strategy.outline

/-- The value together with its kind. -/
def kindOutline : Value → Outline
  | .trigger clauses => .holder "Trigger" (outline (.trigger clauses))
  | .swap options => .holder "Swap" options.outline
  | .sync strategy => .holder "Sync" strategy.outline

end Attribute.Value

def ParseError.outline (e : ParseError) : Outline :=
  match e.cause with
  | .unexpectedChar expected found =>
      .record "UnexpectedChar" [("pos", e.position.outline), ("expected", .quoted expected),
        ("found", .character found)]
  | .unexpectedEnd expected =>
      .record "UnexpectedEnd" [("pos", e.position.outline), ("expected", .quoted expected)]
  | .invalidNumber value =>
      .record "InvalidNumber" [("pos", e.position.outline), ("value", .quoted value)]
  | .invalidModifier name =>
      .record "InvalidModifier" [("pos", e.position.outline), ("name", .quoted name)]
  | .invalidSelector value =>
      .record "InvalidSelector" [("pos", e.position.outline), ("value", .quoted value)]
  | .invalidValue key value =>
      .record "InvalidValue" [("pos", e.position.outline), ("key", .quoted key),
        ("value", .quoted value)]

end Hypermedia
