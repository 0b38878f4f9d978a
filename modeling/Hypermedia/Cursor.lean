import Hypermedia.ParseError
import Hypermedia.Text.Alphabetic
import Hypermedia.Text.Numeric

/-!
A cursor is a place in a text together with what is left of it, so it can never
point inside a character or past the end. The character classes that decide
where the parts of an attribute end are here as well.

A cursor only moves forward. `Reaches` says what that means: the text that has
been used up and the text that is left make up the text there was, and the
place has moved over exactly the used text.
-/

namespace Hypermedia

/-- A character of names and keywords. -/
def isNameChar (c : Char) : Bool :=
  Text.isAlphabetic c || Text.isNumeric c || c == '-' || c == '_'

/-- A character of a token that is not quoted. -/
def isBareChar (c : Char) : Bool :=
  !Text.isBlank c && c != ','

/-- One of the two characters that can enclose a token. -/
def isQuote (c : Char) : Bool :=
  c == '"' || c == '\''

/-- A place in a text and the characters from there on. -/
structure Cursor where
  position : Position
  rest : List Char
deriving DecidableEq, Repr

namespace Cursor

/-- The cursor before the first character of a text. -/
def start (text : String) : Cursor := ⟨.start, text.toList⟩

/-- The next character, if any is left. -/
def peek (c : Cursor) : Option Char := c.rest.head?

def atEnd (c : Cursor) : Bool := c.rest.isEmpty

/-- Whether a character comes next for which `p` holds. -/
def isAt (p : Char → Bool) (c : Cursor) : Bool := c.rest.head?.any p

/-- Whether the text left starts like this. -/
def startsWith (text : String) (c : Cursor) : Bool := text.toList.isPrefixOf c.rest

/-- The cursor behind the next `count` characters. -/
def past (count : Nat) (c : Cursor) : Cursor :=
  ⟨c.position.after (c.rest.take count), c.rest.drop count⟩

/-- The longest run of characters from here on for which `p` holds. -/
def run (p : Char → Bool) (c : Cursor) : List Char := c.rest.takeWhile p

/-- The cursor behind that run. -/
def pastRun (p : Char → Bool) (c : Cursor) : Cursor :=
  ⟨c.position.after (c.run p), c.rest.dropWhile p⟩

/-- The error of something that is missing here: it names the character that
stands in its place, or the end of the text. -/
def missing (c : Cursor) (expected : String) : ParseError :=
  match c.rest with
  | [] => ⟨c.position, .unexpectedEnd expected⟩
  | found :: _ => ⟨c.position, .unexpectedChar expected found⟩

/-- The second cursor is the first one moved over some of the text left. -/
def Reaches (c d : Cursor) : Prop :=
  ∃ used, c.rest = used ++ d.rest ∧ d.position = c.position.after used

theorem Reaches.refl (c : Cursor) : c.Reaches c :=
  ⟨[], rfl, rfl⟩

theorem Reaches.trans {c d e : Cursor} (h : c.Reaches d) (h' : d.Reaches e) :
    c.Reaches e := by
  obtain ⟨first, hrest, hplace⟩ := h
  obtain ⟨second, hrest', hplace'⟩ := h'
  refine ⟨first ++ second, by simp [hrest, hrest'], ?_⟩
  simp [hplace', hplace, Position.after]

theorem reaches_past (count : Nat) (c : Cursor) : c.Reaches (c.past count) :=
  ⟨c.rest.take count, by simp [past], rfl⟩

theorem reaches_pastRun (p : Char → Bool) (c : Cursor) : c.Reaches (c.pastRun p) :=
  ⟨c.run p, by simp [pastRun, run], rfl⟩

theorem Reaches.length_le {c d : Cursor} (h : c.Reaches d) :
    d.rest.length ≤ c.rest.length := by
  obtain ⟨used, hrest, _⟩ := h
  simp [hrest]

end Cursor

end Hypermedia
