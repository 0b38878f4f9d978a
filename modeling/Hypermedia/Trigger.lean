import Hypermedia.Duration
import Hypermedia.QueueMode
import Hypermedia.Token

/-!
Triggers: which events make an element send its request, and how. A trigger is
a list of clauses, and a clause is the name of an event with modifiers. The
written form of a trigger is canonical: it can be read back, except for the few
values that have no text at all.
-/

namespace Hypermedia.Trigger

/-- The elements that have a name of their own. -/
inductive Scope where
  | itself
  | body
  | window
  | document
deriving DecidableEq, Repr

def Scope.values : List Scope := [.itself, .body, .window, .document]

def Scope.keyword : Scope → String
  | .itself => "this"
  | .body => "body"
  | .window => "window"
  | .document => "document"

/-- The name in structured output. -/
def Scope.tag : Scope → String
  | .itself => "This"
  | .body => "Body"
  | .window => "Window"
  | .document => "Document"

def Scope.ofKeyword? (word : String) : Option Scope :=
  Scope.values.find? fun scope => scope.keyword == word

theorem Scope.ofKeyword?_keyword (scope : Scope) :
    Scope.ofKeyword? scope.keyword = some scope := by
  cases scope <;> decide

/-- Where to look for an element, seen from the element with the trigger. -/
inductive Relation where
  | closest
  | find
  | next
  | previous
deriving DecidableEq, Repr

def Relation.values : List Relation := [.closest, .find, .next, .previous]

def Relation.keyword : Relation → String
  | .closest => "closest"
  | .find => "find"
  | .next => "next"
  | .previous => "previous"

/-- The name in structured output. -/
def Relation.tag : Relation → String
  | .closest => "Closest"
  | .find => "Find"
  | .next => "Next"
  | .previous => "Previous"

def Relation.ofKeyword? (word : String) : Option Relation :=
  Relation.values.find? fun relation => relation.keyword == word

theorem Relation.ofKeyword?_keyword (relation : Relation) :
    Relation.ofKeyword? relation.keyword = some relation := by
  cases relation <;> decide

/-- A reference to elements. -/
inductive Selector where
  | scope (scope : Scope)
  /-- The element in this relation that matches the selector text. -/
  | relative (relation : Relation) (text : String)
  /-- Any other selector text, taken as it is. -/
  | css (text : String)
deriving DecidableEq, Repr

/-- The words that a selector text must not be mistaken for. -/
def Selector.reserved : List String :=
  Scope.values.map Scope.keyword ++ Relation.values.map Relation.keyword

def Selector.written : Selector → String
  | .scope named => named.keyword
  | .relative how text => how.keyword ++ " " ++ Token.written [] text
  | .css text => Token.written reserved text

/-- Modifiers that are a single word. -/
inductive Flag where
  | once
  | changed
  | consume
  | prevent
deriving DecidableEq, Repr

def Flag.values : List Flag := [.once, .changed, .consume, .prevent]

def Flag.keyword : Flag → String
  | .once => "once"
  | .changed => "changed"
  | .consume => "consume"
  | .prevent => "prevent"

/-- The name in structured output. -/
def Flag.tag : Flag → String
  | .once => "Once"
  | .changed => "Changed"
  | .consume => "Consume"
  | .prevent => "Prevent"

def Flag.ofKeyword? (word : String) : Option Flag :=
  Flag.values.find? fun flag => flag.keyword == word

theorem Flag.ofKeyword?_keyword (flag : Flag) :
    Flag.ofKeyword? flag.keyword = some flag := by
  cases flag <;> decide

/-- Modifiers that hold requests back for a time. -/
inductive Pace where
  | delay
  | throttle
  | debounce
deriving DecidableEq, Repr

def Pace.values : List Pace := [.delay, .throttle, .debounce]

def Pace.keyword : Pace → String
  | .delay => "delay"
  | .throttle => "throttle"
  | .debounce => "debounce"

/-- The name in structured output. -/
def Pace.tag : Pace → String
  | .delay => "Delay"
  | .throttle => "Throttle"
  | .debounce => "Debounce"

def Pace.ofKeyword? (word : String) : Option Pace :=
  Pace.values.find? fun pace => pace.keyword == word

theorem Pace.ofKeyword?_keyword (pace : Pace) :
    Pace.ofKeyword? pace.keyword = some pace := by
  cases pace <;> decide

/-- The parts in an event that an element can play. -/
inductive Role where
  /-- The element on which the event is listened for. -/
  | source
  /-- The element that the event has to happen to. -/
  | target
deriving DecidableEq, Repr

def Role.values : List Role := [.source, .target]

def Role.keyword : Role → String
  | .source => "from"
  | .target => "target"

/-- The name in structured output. -/
def Role.tag : Role → String
  | .source => "From"
  | .target => "Target"

def Role.ofKeyword? (word : String) : Option Role :=
  Role.values.find? fun role => role.keyword == word

theorem Role.ofKeyword?_keyword (role : Role) :
    Role.ofKeyword? role.keyword = some role := by
  cases role <;> decide

/-- A qualifier of a clause. -/
inductive Modifier where
  | flag (flag : Flag)
  | pace (pace : Pace) (time : Duration)
  | element (role : Role) (selector : Selector)
  /-- A condition, without the brackets around it. -/
  | filter (condition : String)
  | queue (mode : QueueMode)
  /-- The interval of a clause that polls. -/
  | every (interval : Duration)
deriving DecidableEq, Repr

/-- An interval is written alone, since it stands right behind its event. -/
def Modifier.written : Modifier → String
  | .flag word => word.keyword
  | .pace kind time => kind.keyword ++ ":" ++ time.written
  | .element role selector => role.keyword ++ ":" ++ selector.written
  | .filter condition => "[" ++ condition ++ "]"
  | .queue mode => "queue:" ++ mode.keyword
  | .every interval => interval.written

/-- An event with its modifiers, in the order of the text and with repeats. -/
structure Clause where
  event : String
  modifiers : List Modifier
deriving DecidableEq, Repr

namespace Clause

def written (clause : Clause) : String :=
  " ".intercalate (clause.event :: clause.modifiers.map Modifier.written)

/-- What the last modifier of some kind says: a later one overrides. -/
def last? {α : Type} (clause : Clause) (select : Modifier → Option α) : Option α :=
  clause.modifiers.reverse.findSome? select

def pace? (clause : Clause) (pace : Pace) : Option Duration :=
  clause.last? fun
    | .pace other time => if other = pace then some time else none
    | _ => none

def element? (clause : Clause) (role : Role) : Option Selector :=
  clause.last? fun
    | .element other selector => if other = role then some selector else none
    | _ => none

def filter? (clause : Clause) : Option String :=
  clause.last? fun
    | .filter condition => some condition
    | _ => none

def queue? (clause : Clause) : Option QueueMode :=
  clause.last? fun
    | .queue mode => some mode
    | _ => none

def interval? (clause : Clause) : Option Duration :=
  clause.last? fun
    | .every interval => some interval
    | _ => none

def has (clause : Clause) (flag : Flag) : Bool :=
  clause.modifiers.contains (.flag flag)

end Clause

/-- A whole trigger in one line. -/
def written (clauses : List Clause) : String :=
  ", ".intercalate (clauses.map Clause.written)

end Hypermedia.Trigger
