import Hypermedia.Failure

/-!
The forms in which values are printed.
-/

namespace Hypermedia

/-- A form of output. -/
inductive Format where
  | json
  /-- The text that would be written in an attribute. -/
  | pretty
  /-- The structure of the value, with its names. -/
  | outline
deriving DecidableEq, Repr

namespace Format

def values : List Format := [json, pretty, outline]

/-- The word that stands for the format. -/
def keyword : Format → String
  | json => "json"
  | pretty => "pretty"
  | outline => "debug"

/-- The format that a word stands for. -/
def ofKeyword? (word : String) : Option Format :=
  values.find? fun format => format.keyword == word

theorem ofKeyword?_keyword (format : Format) :
    ofKeyword? format.keyword = some format := by
  cases format <;> decide

/-- The format that a user asks for by a word. -/
def parse (word : String) : Except Failure Format :=
  match ofKeyword? word with
  | some format => .ok format
  | none => .error (.unknownFormat word)

end Format

end Hypermedia
