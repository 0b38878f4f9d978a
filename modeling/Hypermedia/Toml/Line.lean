import Hypermedia.Toml.DateTime
import Hypermedia.Toml.Quoted
import Hypermedia.Toml.Table

/-!
The lines of a TOML document: headers, which open tables, and pairs of a key
and a value. A value can go on over several lines. Arrays and tables inside of
values nest only to a certain depth, and keys have only so many parts.
-/

namespace Hypermedia.Toml

open Scan

/-- The number of parts that a key has to stay below, and the number of values
that are nested in each other. -/
def nestingLimit : Nat := 80

/-- A character of a key without quotes. -/
def isKeyChar (c : Char) : Bool := c.isAlphanum || c == '-' || c == '_'

/-- One part of a key, with white space around it. -/
def keyPart : Scan String := do
  spaces
  let part ←
    match ← peek with
    | some '"' => Quoted.line '"'
    | some '\'' => Quoted.line '\''
    | _ => do
        let first ← next isKeyChar
        let others ← run isKeyChar
        pure (String.ofList (first :: others))
  spaces
  pure part

/-- The part of a key behind a dot, if there is a dot. -/
def dottedPart? : Scan (Option String) := do
  if ← accept "." then some <$> keyPart else pure none

/-- A key, whose parts are separated by dots. -/
def key : Scan Key := do
  let first ← keyPart
  let others ← repeated dottedPart?
  if others.length + 1 < nestingLimit then pure (Key.ofParts first others) else failure

/-- A character of a number, a date or a truth value. -/
def isScalarChar (c : Char) : Bool :=
  c.isAlphanum || c == '+' || c == '-' || c == '.' || c == '_' || c == ':'

/-- A number, a date or a truth value. -/
def Value.ofScalar? (text : List Char) : Option Value :=
  if text = "true".toList then some (.boolean true)
  else if text = "false".toList then some (.boolean false)
  else
    match Number.integer? text with
    | some value => some (.integer value)
    | none =>
        if Number.isFloat text then some (.float (String.ofList text))
        else if DateTime.isDateTime text then some (.dateTime (String.ofList text))
        else none

/-- The time that is separated from a date by a space, with that space. Behind
a date a space and a digit can be nothing else. -/
def spacedTime (text : List Char) : Scan (List Char) := do
  match ← get with
  | ' ' :: c :: _ =>
      if c.isDigit ∧ DateTime.isDate text then
        expect ' '
        let more ← run isScalarChar
        pure (' ' :: more)
      else pure []
  | _ => pure []

/-- A value that holds no other values. -/
def scalar : Scan Value := do
  match ← peek with
  | some '"' => .string <$> Quoted.string '"'
  | some '\'' => .string <$> Quoted.string '\''
  | _ =>
      let text ← run isScalarChar
      let more ← spacedTime text
      match Value.ofScalar? (text ++ more) with
      | some value => pure value
      | none => failure

/-- The next item of an array, or nothing in front of its end. The last item
may be followed by a comma. -/
def item? (value : Scan Value) : Scan (Option Value) := do
  gap
  if ← isAt ']' then pure none
  else
    let item ← value
    gap
    if ← accept "," then pure (some item)
    else if ← isAt ']' then pure (some item)
    else failure

/-- An array, whose opening bracket has been used up. -/
def array (value : Scan Value) : Scan Value := do
  let items ← repeated (item? value)
  expect ']'
  pure (.array items)

/-- A key, an equals sign and a value. -/
def pair (value : Scan Value) : Scan (Key × Value) := do
  let key ← key
  expect '='
  spaces
  let value ← value
  pure (key, value)

/-- The pair behind a comma, if there is a comma. -/
def nextPair? (value : Scan Value) : Scan (Option (Key × Value)) := do
  spaces
  if ← accept "," then some <$> pair value else pure none

/-- A table on one line, whose opening brace has been used up. -/
def inlineTable (value : Scan Value) : Scan Value := do
  spaces
  if ← accept "\x7d" then pure (.table [])
  else
    let first ← pair value
    let others ← repeated (nextPair? value)
    expect '\x7d'
    match Entries.ofPairs? (first :: others) with
    | some entries => pure (.table (Entries.toValues entries))
    | none => failure

/-- A value in which others are nested at most `depth` deep. -/
def value : (depth : Nat) → Scan Value
  | 0 => scalar
  | depth + 1 => do
      if ← accept "[" then array (value depth)
      else if ← accept "\x7b" then inlineTable (value depth)
      else scalar

/-- What a line says. -/
inductive Line where
  | blank
  /-- Opens a table. -/
  | header (key : Key)
  /-- Opens one more table of an array of tables. -/
  | element (key : Key)
  | pair (key : Key) (value : Value)
deriving Repr

/-- A header, with its brackets. -/
def header : Scan Line := do
  if ← accept "[[" then
    let key ← key
    expect ']'
    expect ']'
    pure (.element key)
  else
    expect '['
    let key ← key
    expect ']'
    pure (.header key)

/-- What the next line says, or nothing at the end of the document. -/
def line? : Scan (Option Line) := do
  spaces
  match ← peek with
  | none => pure none
  | some '#' | some '\n' | some '\r' =>
      trailing
      pure (some .blank)
  | some '[' =>
      let line ← header
      trailing
      pure (some line)
  | some _ =>
      let (key, value) ← pair (value (nestingLimit - 1))
      trailing
      pure (some (.pair key value))

/-- The lines of a document. A byte order mark in front of them says nothing. -/
def lines? (text : String) : Option (List Line) :=
  whole? (do
    let _ ← accept "\ufeff"
    repeated line?) text.toList

end Hypermedia.Toml
