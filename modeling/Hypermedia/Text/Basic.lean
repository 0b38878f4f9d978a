/-!
Characters and lines, as far as all texts need them: sets of characters, white
space, words that differ in case, and the lines of a text.
-/

namespace Hypermedia.Text

/-- Closed ranges of code points, ascending and apart from each other: the form
in which the Unicode standard publishes its properties. -/
abbrev CodeRanges := List (Nat × Nat)

/-- Whether some range holds the character's code point. -/
def CodeRanges.has (ranges : CodeRanges) (c : Char) : Bool :=
  ranges.any fun range => range.1 ≤ c.toNat && c.toNat ≤ range.2

/-- The characters with the Unicode property White_Space. -/
def blankRanges : CodeRanges :=
  [(0x0009, 0x000D), (0x0020, 0x0020), (0x0085, 0x0085), (0x00A0, 0x00A0), (0x1680, 0x1680),
   (0x2000, 0x200A), (0x2028, 0x2029), (0x202F, 0x202F), (0x205F, 0x205F), (0x3000, 0x3000)]

/-- Whether the character is white space. It decides where a bare token ends and
what may stand between the parts of an attribute. -/
def isBlank (c : Char) : Bool :=
  blankRanges.has c

/-- The word with the letters A to Z made small. Other letters stay as they
are. -/
def folded (word : String) : List Char :=
  word.toList.map Char.toLower

/-- Whether two words differ at most in the case of the letters A to Z. -/
def sameLetters (first second : String) : Bool :=
  folded first == folded second

/-- The lines of a list of characters, without their endings. A line ends at a
line feed, and a carriage return right before that feed belongs to the ending. A
carriage return anywhere else is an ordinary character, and a feed at the very
end opens no further line. -/
def lineChars : List Char → List (List Char)
  | [] => []
  | '\n' :: rest => [] :: lineChars rest
  | '\r' :: '\n' :: rest => [] :: lineChars rest
  | c :: rest =>
      match lineChars rest with
      | [] => [[c]]
      | line :: lines => (c :: line) :: lines

/-- The lines of a text, without their endings. -/
def lines (text : String) : List String :=
  (lineChars text.toList).map String.ofList

end Hypermedia.Text
