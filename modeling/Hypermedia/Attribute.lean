import Hypermedia.Swap.Reading
import Hypermedia.Sync
import Hypermedia.Trigger.Reading

/-!
Attributes of any kind: a name selects the language that the value is read in.
-/

namespace Hypermedia.Attribute

/-- The languages of attributes. -/
inductive Kind where
  | trigger
  | swap
  | sync
deriving DecidableEq, Repr

def Kind.values : List Kind := [.trigger, .swap, .sync]

def Kind.keyword : Kind → String
  | .trigger => "trigger"
  | .swap => "swap"
  | .sync => "sync"

/-- The names of the attributes of a kind: the plain one, and the one for
documents that allow only their own names and those with data in front. -/
def Kind.names (kind : Kind) : List String :=
  ["hx-" ++ kind.keyword, "data-hx-" ++ kind.keyword]

/-- The kind of the attribute with this name. -/
def Kind.ofName? (name : String) : Option Kind :=
  Kind.values.find? fun kind => kind.names.contains name

/-- No two kinds share a name. -/
theorem Kind.ofName?_of_mem_names {kind : Kind} {name : String} (h : name ∈ kind.names) :
    Kind.ofName? name = some kind := by
  rcases List.mem_cons.mp h with rfl | h
  · cases kind <;> decide
  · rw [List.mem_singleton.mp h]
    cases kind <;> decide

/-- The value of an attribute that could be read. -/
inductive Value where
  | trigger (clauses : List Trigger.Clause)
  | swap (options : Swap.Options)
  | sync (sync : Sync)
deriving DecidableEq, Repr

/-- Reads an attribute of some kind. Swaps start from `defaults`. -/
def parse (kind : Kind) (defaults : Swap.Defaults) (text : String) :
    Except ParseError Value :=
  match kind with
  | .trigger => (Trigger.parse text).map .trigger
  | .swap => (Swap.parse defaults text).map .swap
  | .sync => (Sync.parse text).map .sync

/-- What reading an attribute of some kind reports. -/
def log (kind : Kind) (text : String) : List Log.Record :=
  match kind with
  | .trigger => Trigger.log text
  | .swap => Swap.log text
  | .sync => []

end Hypermedia.Attribute
