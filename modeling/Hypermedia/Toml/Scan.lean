/-!
Scans of the parts of a TOML document. A scan takes characters from the
front of a list and gives a value, or it refuses the document: one refused part
makes the whole document malformed, so there is nothing to go back to.
-/

namespace Hypermedia.Toml

/-- A step that uses up characters and gives a value, or refuses. -/
abbrev Scan := StateT (List Char) Option

namespace Scan

variable {α β : Type}

theorem bind_run (r : Scan α) (next : α → Scan β) (cs : List Char) :
    (r >>= next) cs =
      match r cs with
      | none => none
      | some (a, rest) => next a rest := by
  simp only [bind, StateT.bind]
  cases r cs <;> rfl

theorem pure_run (a : α) (cs : List Char) : (pure a : Scan α) cs = some (a, cs) :=
  rfl

/-- The next character, which stays where it is. -/
def peek : Scan (Option Char) := fun cs => some (cs.head?, cs)

/-- Whether the next character is this one. -/
def isAt (c : Char) : Scan Bool := fun cs => some (cs.head? == some c, cs)

/-- The next character, which has to be one for which `p` holds. -/
def next (p : Char → Bool) : Scan Char
  | c :: rest => if p c then some (c, rest) else none
  | [] => none

/-- This very character. -/
def expect (c : Char) : Scan Unit
  | x :: rest => if x = c then some ((), rest) else none
  | [] => none

/-- Uses up the text if it comes next, and tells whether it did. -/
def accept (text : String) : Scan Bool := fun cs =>
  if text.toList.isPrefixOf cs then some (true, cs.drop text.toList.length)
  else some (false, cs)

/-- The longest run of characters for which `p` holds. -/
def run (p : Char → Bool) : Scan (List Char) := fun cs =>
  some (cs.takeWhile p, cs.dropWhile p)

/-- Takes a step again and again until it gives nothing. A step that gives
something has to use up characters. -/
def repeated (step : Scan (Option α)) (cs : List Char) : Option (List α × List Char) :=
  match step cs with
  | none => none
  | some (none, rest) => some ([], rest)
  | some (some a, rest) =>
      if rest.length < cs.length then
        match repeated step rest with
        | none => none
        | some (others, last) => some (a :: others, last)
      else none
termination_by cs.length

theorem repeated_of_none {step : Scan (Option α)} {cs rest : List Char}
    (h : step cs = some (none, rest)) : repeated step cs = some ([], rest) := by
  rw [repeated, h]

theorem repeated_of_some {step : Scan (Option α)} {cs rest last : List Char} {a : α}
    {others : List α} (h : step cs = some (some a, rest)) (hlt : rest.length < cs.length)
    (hrest : repeated step rest = some (others, last)) :
    repeated step cs = some (a :: others, last) := by
  rw [repeated, h]
  simp [hlt, hrest]

/-- What a scan makes of a text, all of which it has to use up. -/
def whole? (r : Scan α) (cs : List Char) : Option α :=
  match r cs with
  | some (a, []) => some a
  | _ => none

/-- White space inside a line. -/
def isSpace (c : Char) : Bool := c == ' ' || c == '\t'

/-- A character that can stand in comments and, where it is not special there,
in strings: the tab, and whatever is not a control character of ASCII. -/
def isPlain (c : Char) : Bool := c == '\t' || (0x20 ≤ c.toNat && c.toNat != 0x7f)

/-- White space inside a line, which may be missing. -/
def spaces : Scan Unit := fun cs => some ((), cs.dropWhile isSpace)

/-- The end of a line that is not the last one. -/
def newline : Scan Unit := do
  let _ ← accept "\r"
  expect '\n'

/-- A comment, up to the end of its line. -/
def comment : Scan Unit := do
  expect '#'
  let _ ← run isPlain

/-- The end of a line or of the document. -/
def lineEnd : Scan Unit := do
  match ← peek with
  | none => pure ()
  | some _ => newline

/-- What may follow the contents of a line, and its end. -/
def trailing : Scan Unit := do
  spaces
  if ← isAt '#' then comment
  lineEnd

/-- A stretch of white space, a line break, or a comment with its line break,
if one comes next. -/
def gapPart : Scan (Option Unit) := do
  match ← peek with
  | some '#' =>
      comment
      newline
      pure (some ())
  | some '\n' | some '\r' =>
      newline
      pure (some ())
  | some c =>
      if isSpace c then
        spaces
        pure (some ())
      else pure none
  | none => pure none

/-- What may stand between the items of an array: anything that says nothing,
over as many lines as it takes. -/
def gap : Scan Unit := do
  let _ ← repeated gapPart

end Scan

end Hypermedia.Toml
