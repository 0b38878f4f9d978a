/-!
The values of a TOML document. Integers are kept as numbers. Other numbers and
dates are kept as they are written, since nothing here computes with them.
-/

namespace Hypermedia.Toml

/-- A TOML value. -/
inductive Value where
  | string (text : String)
  | integer (value : Int)
  /-- A number with a fraction or an exponent, or one that is not finite. -/
  | float (text : String)
  | boolean (value : Bool)
  /-- A date, a time of day, or both. -/
  | dateTime (text : String)
  | array (items : List Value)
  | table (entries : List (String × Value))
deriving Repr

namespace Value

/-- A number that counts something. -/
def natural? : Value → Option Nat
  | .integer value => if 0 ≤ value then some value.toNat else none
  | _ => none

/-- A text. -/
def string? : Value → Option String
  | .string text => some text
  | _ => none

/-- A list of values. -/
def array? : Value → Option (List Value)
  | .array items => some items
  | _ => none

/-- A value that names one of several alternatives: a text, or a table whose
only key is the name and holds nothing. -/
def alternative? : Value → Option String
  | .string text => some text
  | .table [(name, .table [])] => some name
  | .table [(name, .array [])] => some name
  | _ => none

/-- The fields of a record with these names, in their order. A record is a
table, in which other keys are passed over, or an array that lists the fields
from the first one on. A date has none of the fields. -/
def fields? (names : List String) : Value → Option (List (Option Value))
  | .table entries => some (names.map fun name => entries.lookup name)
  | .array items => some ((List.range names.length).map fun i => items[i]?)
  | .dateTime _ => some (names.map fun _ => none)
  | _ => none

end Value

end Hypermedia.Toml
