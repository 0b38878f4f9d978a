/-!
JSON values and their text over several lines. The fields of an object keep the
order in which they are given, and numbers are the natural numbers: nothing
that is written here needs others.
-/

namespace Hypermedia

/-- A JSON value. -/
inductive Json where
  | boolean (value : Bool)
  | number (value : Nat)
  | text (value : String)
  | array (items : List Json)
  | object (fields : List (String × Json))
deriving Repr

namespace Json

/-- A character inside quotes. Only the quote, the backslash and the control
characters below the space have to be escaped. -/
def escaped (c : Char) : String :=
  match c with
  | '"' => "\\\""
  | '\\' => "\\\\"
  | '\x08' => "\\b"
  | '\t' => "\\t"
  | '\n' => "\\n"
  | '\x0c' => "\\f"
  | '\r' => "\\r"
  | _ =>
      if c.toNat < 0x20 then
        "\\u00" ++ String.ofList [Nat.digitChar (c.toNat / 16), Nat.digitChar (c.toNat % 16)]
      else String.singleton c

/-- A text in quotes. -/
def quoted (text : String) : String :=
  "\"" ++ String.join (text.toList.map escaped) ++ "\""

/-- A line break, and the indentation of the next line. -/
def lineBreak (depth : Nat) : String :=
  "\n" ++ String.ofList (List.replicate (2 * depth) ' ')

mutual

/-- The text of a value whose lines are indented by `depth` steps. What is
empty stays on one line. -/
def written (depth : Nat) : Json → String
  | .boolean true => "true"
  | .boolean false => "false"
  | .number value => toString value
  | .text value => quoted value
  | .array items =>
      match items with
      | [] => "[]"
      | first :: others =>
          "[" ++ lineBreak (depth + 1) ++ first.written (depth + 1)
            ++ writtenItems (depth + 1) others ++ lineBreak depth ++ "]"
  | .object fields =>
      match fields with
      | [] => "\x7b\x7d"
      | (name, first) :: others =>
          "\x7b" ++ lineBreak (depth + 1) ++ quoted name ++ ": " ++ first.written (depth + 1)
            ++ writtenFields (depth + 1) others ++ lineBreak depth ++ "\x7d"

/-- The items of an array behind the first one. -/
def writtenItems (depth : Nat) : List Json → String
  | [] => ""
  | item :: others =>
      "," ++ lineBreak depth ++ item.written depth ++ writtenItems depth others

/-- The fields of an object behind the first one. -/
def writtenFields (depth : Nat) : List (String × Json) → String
  | [] => ""
  | (name, value) :: others =>
      "," ++ lineBreak depth ++ quoted name ++ ": " ++ value.written depth
        ++ writtenFields depth others

end

/-- The text of a value on its own. -/
def pretty (json : Json) : String :=
  json.written 0

/-- An object that gives its only field as the kind of the value in it. -/
def tagged (tag : String) (content : Json) : Json :=
  .object [(tag, content)]

end Json

end Hypermedia
