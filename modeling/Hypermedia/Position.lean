/-!
Places in a text. A place is kept three ways at once: as an offset in UTF-8
bytes, which tools use, and as a line and a column in characters, which people
use. Only a line feed starts a new line.
-/

namespace Hypermedia

/-- A place in a text: its byte offset, and its line and column counted from
one. -/
structure Position where
  offset : Nat
  line : Nat
  column : Nat
deriving DecidableEq, Repr

namespace Position

/-- The place before the first character. -/
def start : Position := ⟨0, 1, 1⟩

/-- The place right after a character that stands here. -/
def advance (p : Position) (c : Char) : Position :=
  if c = '\n' then ⟨p.offset + c.utf8Size, p.line + 1, 1⟩
  else ⟨p.offset + c.utf8Size, p.line, p.column + 1⟩

/-- The place right after a run of characters that starts here. -/
def after (p : Position) (run : List Char) : Position :=
  run.foldl advance p

theorem after_append (p : Position) (first second : List Char) :
    p.after (first ++ second) = (p.after first).after second := by
  simp [after]

/-- Steps over whole characters as long as the offset is below `stop`. A stop
inside a character is therefore passed, up to the end of that character. -/
def scan (stop : Nat) : Position → List Char → Position
  | p, [] => p
  | p, c :: rest => if stop ≤ p.offset then p else scan stop (p.advance c) rest

/-- The place of a byte offset in a text. An offset inside a character means
the end of that character, and one past the end means the end of the text. -/
def ofOffset (text : String) (offset : Nat) : Position :=
  start.scan (min offset text.utf8ByteSize) text.toList

/-- What follows the first `count` bytes, if they make up whole characters. -/
def charsFrom? : Nat → List Char → Option (List Char)
  | 0, chars => some chars
  | _ + 1, [] => none
  | count + 1, c :: rest =>
      if c.utf8Size ≤ count + 1 then charsFrom? (count + 1 - c.utf8Size) rest else none

/-- Goes on from this place, a checkpoint in `text`, to a later byte offset.
Nothing moves if the offset is not ahead. There is no answer if the text has to
be read from a checkpoint that lies inside a character. -/
def advanceTo? (p : Position) (text : String) (offset : Nat) : Option Position :=
  let stop := min offset text.utf8ByteSize
  if stop ≤ p.offset then some p
  else (charsFrom? p.offset text.toList).map (p.scan stop)

/-- The place as messages give it: line and column. -/
def written (p : Position) : String :=
  toString p.line ++ ":" ++ toString p.column

end Position

end Hypermedia
