/-!
Log records. Readers of attributes do not write them anywhere: what a reading
reports is a list of records, as much a result of the text as its value is.
-/

namespace Hypermedia.Log

/-- How much detail a record is about. -/
inductive Level where
  | trace
  | debug
deriving DecidableEq, Repr

/-- One report: a fixed message and the named values that it is about. -/
structure Record where
  level : Level
  message : String
  fields : List (String × String)
deriving DecidableEq, Repr

end Hypermedia.Log
