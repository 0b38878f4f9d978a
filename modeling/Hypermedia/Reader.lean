import Hypermedia.Cursor
import Hypermedia.Duration

/-!
Readers of the parts that the attribute languages share. A reader moves a
cursor forward and gives a value or an error. After an error the cursor stays
where the fault was found: nothing is put back.
-/

namespace Hypermedia

/-- A step that moves a cursor and gives a value or an error. -/
abbrev Reader := EStateM ParseError Cursor

namespace Reader

/-- Passes over the next `count` characters. -/
def skip (count : Nat) : Reader Unit := fun c => .ok () (c.past count)

/-- Uses up the longest run of characters for which `p` holds. -/
def run (p : Char → Bool) : Reader String := fun c =>
  .ok (String.ofList (c.run p)) (c.pastRun p)

/-- Passes over white space. -/
def blank : Reader Unit := fun c => .ok () (c.pastRun Text.isBlank)

/-- Uses up the literal if it comes next, and tells whether it did. -/
def literal? (text : String) : Reader Bool := do
  if (← get).startsWith text then
    skip text.toList.length
    pure true
  else pure false

/-- Uses up the literal, which has to come next. -/
def literal (text : String) : Reader Unit := do
  if ← literal? text then pure ()
  else throw ((← get).missing ("'" ++ text ++ "'"))

/-- A name: a run of name characters that is not empty. -/
def name : Reader String := do
  let here ← get
  if here.isAt isNameChar then run isNameChar else throw (here.missing "identifier")

/-- A token without quotes: everything up to white space, a comma or the end.
It may be empty. -/
def bareToken : Reader String := run isBareChar

/-- The rest of a span whose opening character has been used up: everything up
to the closing character, which is used up as well but not part of the value.
There is no way to write the closing character inside. -/
def closedBy (closing : Char) (expected : String) : Reader String := do
  let inner ← run (· != closing)
  let here ← get
  if here.atEnd then throw (here.missing expected)
  else
    skip 1
    pure inner

/-- A span in square brackets, without them. The first closing bracket ends
it: brackets do not nest. -/
def bracketed : Reader String := do
  literal "["
  closedBy ']' "']'"

/-- A token: enclosed in a pair of either quote, or else bare. -/
def token : Reader String := do
  match (← get).peek with
  | none => bareToken
  | some c =>
      if isQuote c then
        skip 1
        closedBy c ("closing " ++ String.singleton c)
      else bareToken

/-- A duration: decimal digits and one of the accepted units, or no unit for
milliseconds. The size of the number is checked first, then the unit, and the
size of the product last. -/
def duration (units : List String) : Reader Duration := do
  let start := (← get).position
  let digits ← run Char.isDigit
  if digits.isEmpty then
    let value ← bareToken
    throw ⟨start, .invalidNumber value⟩
  else
    match Duration.ofMillis? (Nat.ofDigitChars 10 digits.toList 0) with
    | none => throw ⟨start, .invalidNumber digits⟩
    | some count =>
        let behindDigits := (← get).position
        let unit ← run Char.isAlpha
        match unit.toList with
        | [] => pure count
        | first :: _ =>
            match if unit ∈ units then Duration.unitMillis? unit else none with
            | none =>
                throw ⟨behindDigits,
                  .unexpectedChar ("unit (" ++ ", ".intercalate units ++ ")") first⟩
            | some factor =>
                match Duration.ofMillis? (count.millis * factor) with
                | none => throw ⟨start, .invalidNumber (digits ++ unit)⟩
                | some product => pure product

end Reader

end Hypermedia
