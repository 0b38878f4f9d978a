import Hypermedia.Position
import Hypermedia.Text.Basic

/-!
What can be wrong with an attribute. Reading stops at the first fault, so an
error is one place and one cause. The wording of every message is here, and so
is the picture that shows the place in its line.
-/

namespace Hypermedia

/-- Why a text could not be read. -/
inductive ParseError.Cause where
  /-- Something else was due than the character that stands there. -/
  | unexpectedChar (expected : String) (found : Char)
  /-- The text ends where something was due. -/
  | unexpectedEnd (expected : String)
  /-- A duration without digits, or one that is too large. -/
  | invalidNumber (value : String)
  | invalidModifier (name : String)
  /-- A selector without text. After a relation, `value` is its keyword. -/
  | invalidSelector (value : String)
  /-- A known setting with a value that it does not take. -/
  | invalidValue (key : String) (value : String)
deriving DecidableEq, Repr

/-- A fault and the place where it was found. -/
structure ParseError where
  position : Position
  cause : ParseError.Cause
deriving DecidableEq, Repr

namespace ParseError

/-- The cause in words. -/
def Cause.message : Cause → String
  | .unexpectedChar expected found =>
      "expected " ++ expected ++ ", found '" ++ String.singleton found ++ "'"
  | .unexpectedEnd expected => "unexpected end of input, expected " ++ expected
  | .invalidNumber value => "invalid number '" ++ value ++ "'"
  | .invalidModifier name => "invalid modifier '" ++ name ++ "'"
  | .invalidSelector value => "invalid selector '" ++ value ++ "'"
  | .invalidValue key value => "invalid value '" ++ value ++ "' for '" ++ key ++ "'"

/-- The error in one line: the place, then the cause. -/
def message (e : ParseError) : String :=
  e.position.written ++ ": " ++ e.cause.message

/-- The line of `text` that the error points into, empty if there is none. -/
def sourceLine (e : ParseError) (text : String) : String :=
  ((Text.lines text)[e.position.line - 1]?).getD ""

/-- What stands left of the caret. A tab is kept, so that the caret comes to
stand under its character however wide tabs are drawn. -/
def indent (e : ParseError) (text : String) : String :=
  String.ofList (((e.sourceLine text).toList.take (e.position.column - 1)).map
    fun c => if c = '\t' then '\t' else ' ')

/-- The message, the line it is about, and a caret under the place. -/
def render (e : ParseError) (text : String) : String :=
  e.message ++ "\n  " ++ e.sourceLine text ++ "\n  " ++ e.indent text ++ "^"

end ParseError

end Hypermedia
