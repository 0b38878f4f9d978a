import Hypermedia.Attribute
import Hypermedia.Json

/-!
Attributes as JSON. Times are numbers of milliseconds.
-/

namespace Hypermedia

def Position.json (p : Position) : Json :=
  .object [("offset", .number p.offset), ("line", .number p.line),
    ("column", .number p.column)]

def Duration.json (time : Duration) : Json :=
  .number time.millis

def QueueMode.json (mode : QueueMode) : Json :=
  .text mode.tag

def Trigger.Selector.json : Trigger.Selector → Json
  | .scope named => .text named.tag
  | .relative how text => .tagged how.tag (.text text)
  | .css text => .tagged "Css" (.text text)

def Trigger.Modifier.json : Trigger.Modifier → Json
  | .flag word => .text word.tag
  | .pace kind time => .tagged kind.tag time.json
  | .element role selector => .tagged role.tag selector.json
  | .filter condition => .tagged "Filter" (.text condition)
  | .queue mode => .tagged "Queue" mode.json
  | .every interval => .tagged "Every" interval.json

def Trigger.Clause.json (clause : Trigger.Clause) : Json :=
  .object [("event_name", .text clause.event),
    ("modifiers", .array (clause.modifiers.map Trigger.Modifier.json))]

def Swap.Options.json (options : Swap.Options) : Json :=
  .object [("strategy", .text options.strategy.tag),
    ("swap_delay", options.swapDelay.json), ("settle_delay", options.settleDelay.json),
    ("scroll", .text options.scroll), ("show", .text options.reveal),
    ("focus_scroll", .boolean options.focusScroll),
    ("transition", .boolean options.transition),
    ("ignore_title", .boolean options.ignoreTitle)]

def Sync.json : Sync → Json
  | .drop => .text "Drop"
  | .replace => .text "Replace"
  | .abort => .text "Abort"
  | .queue mode => .tagged "Queue" mode.json

namespace Attribute.Value

/-- The kind of attribute that has this value. -/
def kind : Value → Kind
  | .trigger _ => .trigger
  | .swap _ => .swap
  | .sync _ => .sync

/-- The value alone. -/
def json : Value → Json
  | .trigger clauses => .array (clauses.map Trigger.Clause.json)
  | .swap options => options.json
  | .sync strategy => strategy.json

/-- The value together with its kind. -/
def kindJson (value : Value) : Json :=
  .object [("kind", .text value.kind.keyword), ("ast", value.json)]

end Attribute.Value

end Hypermedia
