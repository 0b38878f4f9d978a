/-!
Lengths of time. They are whole milliseconds that fit in 64 bits, and they are
written with their unit.
-/

namespace Hypermedia

/-- A length of time in milliseconds, below 2^64. -/
structure Duration where
  millis : Nat
  bounded : millis < 0x10000000000000000
deriving DecidableEq, Repr

namespace Duration

/-- No time at all. -/
def zero : Duration := ⟨0, by decide⟩

/-- A number of milliseconds as a duration, if it is small enough. -/
def ofMillis? (millis : Nat) : Option Duration :=
  if bounded : millis < 0x10000000000000000 then some ⟨millis, bounded⟩ else none

theorem ofMillis?_millis (d : Duration) : ofMillis? d.millis = some d :=
  dif_pos d.bounded

/-- The milliseconds in one of a unit, for the units that there are. -/
def unitMillis? (unit : String) : Option Nat :=
  match unit with
  | "ms" => some 1
  | "s" => some 1000
  | "m" => some 60000
  | _ => none

/-- The units that attributes accept. Minutes are understood, but no attribute
takes them. -/
def attributeUnits : List String := ["ms", "s"]

/-- A duration as attributes give it. -/
def written (d : Duration) : String :=
  toString d.millis ++ "ms"

end Duration

end Hypermedia
