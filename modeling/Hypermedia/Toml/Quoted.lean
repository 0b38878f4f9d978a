import Hypermedia.Toml.Number
import Hypermedia.Toml.Scan

/-!
Strings of TOML. Between double quotes a backslash starts an escape, between
single quotes it is an ordinary character. Three quotes enclose a string of
several lines, which can hold one or two quotes in a row, also at its end.
-/

namespace Hypermedia.Toml.Quoted

open Scan

/-- The character with the number that is given by some hexadecimal digits. -/
def codePoint (size : Nat) : Scan Char := fun cs =>
  let digits := cs.take size
  let code := digits.foldl (fun value c => value * 16 + Number.digitValue c) 0
  if digits.length = size ∧ digits.all (Number.isDigitOf 16) ∧ code.isValidChar then
    some (Char.ofNat code, cs.drop size)
  else none

/-- What stands for a character behind a backslash. -/
def escape : Scan Char := do
  match ← next fun _ => true with
  | 'b' => pure '\x08'
  | 't' => pure '\t'
  | 'n' => pure '\n'
  | 'f' => pure '\x0c'
  | 'r' => pure '\r'
  | '"' => pure '"'
  | '\\' => pure '\\'
  | 'u' => codePoint 4
  | 'U' => codePoint 8
  | _ => failure

/-- The next character of a string on one line, or nothing at its end. -/
def lineChar? (quote : Char) : Scan (Option Char) := do
  let c ← next isPlain
  if c = quote then pure none
  else if c = '\\' ∧ quote = '"' then
    let escaped ← escape
    pure (some escaped)
  else pure (some c)

/-- A string on one line. -/
def line (quote : Char) : Scan String := do
  expect quote
  let chars ← repeated (lineChar? quote)
  pure (String.ofList chars)

/-- Whether a backslash that is followed by this text ends its line, with
nothing but white space behind it. -/
def endsLine (cs : List Char) : Bool :=
  match cs.dropWhile isSpace with
  | '\n' :: _ => true
  | '\r' :: '\n' :: _ => true
  | _ => false

/-- A stretch of white space or a line break, if one comes next. -/
def blankPart : Scan (Option Unit) := do
  match ← peek with
  | some '\n' | some '\r' =>
      newline
      pure (some ())
  | some c =>
      if isSpace c then
        spaces
        pure (some ())
      else pure none
  | none => pure none

/-- The next part of a string of several lines, or nothing at its end. The end
are three quotes in a row. A line break is always a line feed, and a backslash
at the end of a line joins what is behind all following white space. -/
def part? (quote : Char) : Scan (Option (List Char)) := do
  match ← peek with
  | none => failure
  | some c =>
      if c = quote then
        let quotes := (← get).takeWhile (· == quote)
        if quotes.length < 3 then
          let _ ← run (· == quote)
          pure (some quotes)
        else pure none
      else if c = '\n' ∨ c = '\r' then
        newline
        pure (some ['\n'])
      else if c = '\\' ∧ quote = '"' then
        expect '\\'
        if endsLine (← get) then
          let _ ← repeated blankPart
          pure (some [])
        else
          let escaped ← escape
          pure (some [escaped])
      else
        let _ ← next isPlain
        pure (some [c])

/-- The quotes at the end of a string of several lines. Up to two quotes in
front of the last three belong to the string. -/
def closing (quote : Char) : Scan (List Char) := fun cs =>
  let count := min 5 (cs.takeWhile (· == quote)).length
  if 3 ≤ count then some (List.replicate (count - 3) quote, cs.drop count) else none

/-- A string of several lines, whose three opening quotes have been used up. A
line break right behind them is not part of it. -/
def lines (quote : Char) : Scan String := do
  match ← peek with
  | some '\n' | some '\r' => newline
  | _ => pure ()
  let parts ← repeated (part? quote)
  let last ← closing quote
  pure (String.ofList (parts.flatten ++ last))

/-- A string that starts with this quote. -/
def string (quote : Char) : Scan String := do
  if ← accept (String.ofList [quote, quote, quote]) then lines quote else line quote

end Hypermedia.Toml.Quoted
