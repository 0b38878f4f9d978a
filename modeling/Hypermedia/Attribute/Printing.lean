import Hypermedia.Attribute.Json
import Hypermedia.Attribute.Outline
import Hypermedia.Format

/-!
Printing the value of an attribute. In the plain format it is printed the way
it is written in attributes, with each clause of a trigger on a line of its
own.
-/

namespace Hypermedia.Attribute.Value

/-- The value as plain text. -/
def written : Value → String
  | .trigger clauses => "\n".intercalate (clauses.map Trigger.Clause.written)
  | .swap options => options.written
  | .sync strategy => strategy.written

/-- The value in some format. -/
def printed (format : Format) (value : Value) : String :=
  match format with
  | .json => value.json.pretty ++ "\n"
  | .outline => value.outline.pretty ++ "\n"
  | .pretty => value.written ++ "\n"

end Hypermedia.Attribute.Value
