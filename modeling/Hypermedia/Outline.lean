import Hypermedia.Text.Printable

/-!
Outlines: a notation that shows the structure of a value with its type names,
one part to a line. Every part is followed by a comma.
-/

namespace Hypermedia

/-- A value as an outline. -/
inductive Outline where
  /-- A number, a truth value, or a name without contents. -/
  | word (text : String)
  | quoted (text : String)
  | character (c : Char)
  | list (items : List Outline)
  /-- A name with one value in it. -/
  | holder (name : String) (content : Outline)
  | record (name : String) (fields : List (String × Outline))
deriving Repr

namespace Outline

/-- A character inside the quotes `quote`. What cannot be seen on its own is
written as its number. -/
def escaped (quote : Char) (c : Char) : String :=
  match c with
  | '\x00' => "\\0"
  | '\t' => "\\t"
  | '\n' => "\\n"
  | '\r' => "\\r"
  | '\\' => "\\\\"
  | _ =>
      if c = quote then "\\" ++ String.singleton c
      else if Text.isPrintable c then String.singleton c
      else "\\u\x7b" ++ String.ofList (Nat.toDigits 16 c.toNat) ++ "\x7d"

/-- A line break, and the indentation of the next line. -/
def lineBreak (depth : Nat) : String :=
  "\n" ++ String.ofList (List.replicate (4 * depth) ' ')

mutual

/-- The text of an outline whose lines are indented by `depth` steps. -/
def written (depth : Nat) : Outline → String
  | .word text => text
  | .quoted text => "\"" ++ String.join (text.toList.map (escaped '"')) ++ "\""
  | .character c => "'" ++ escaped '\'' c ++ "'"
  | .list items =>
      match items with
      | [] => "[]"
      | first :: others =>
          "[" ++ lineBreak (depth + 1) ++ first.written (depth + 1) ++ ","
            ++ writtenItems (depth + 1) others ++ lineBreak depth ++ "]"
  | .holder name content =>
      name ++ "(" ++ lineBreak (depth + 1) ++ content.written (depth + 1) ++ ","
        ++ lineBreak depth ++ ")"
  | .record name fields =>
      match fields with
      | [] => name
      | (field, first) :: others =>
          name ++ " \x7b" ++ lineBreak (depth + 1) ++ field ++ ": "
            ++ first.written (depth + 1) ++ "," ++ writtenFields (depth + 1) others
            ++ lineBreak depth ++ "\x7d"

/-- The items of a list behind the first one. -/
def writtenItems (depth : Nat) : List Outline → String
  | [] => ""
  | item :: others =>
      lineBreak depth ++ item.written depth ++ "," ++ writtenItems depth others

/-- The fields of a record behind the first one. -/
def writtenFields (depth : Nat) : List (String × Outline) → String
  | [] => ""
  | (field, value) :: others =>
      lineBreak depth ++ field ++ ": " ++ value.written depth ++ ","
        ++ writtenFields depth others

end

/-- The text of an outline on its own. -/
def pretty (outline : Outline) : String :=
  outline.written 0

/-- A truth value. -/
def truth (value : Bool) : Outline :=
  .word (if value then "true" else "false")

/-- A number. -/
def number (value : Nat) : Outline :=
  .word (toString value)

end Outline

end Hypermedia
