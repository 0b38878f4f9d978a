import Hypermedia.Toml.Scan

/-!
Dates and times of TOML. A date has to be in the calendar, and a minute may
have a sixty-first second.
-/

namespace Hypermedia.Toml.DateTime

open Scan

/-- Two digits, which are below `bound` as a number. -/
def twoDigits (bound : Nat) : Scan Nat := do
  let tens ← next Char.isDigit
  let ones ← next Char.isDigit
  let value := Nat.ofDigitChars 10 [tens, ones] 0
  if value < bound then pure value else failure

def isLeapYear (year : Nat) : Bool :=
  year % 4 == 0 && (year % 100 != 0 || year % 400 == 0)

/-- The number of days in a month, of which the first is 1. -/
def daysIn (year month : Nat) : Nat :=
  if month = 2 then if isLeapYear year then 29 else 28
  else if month ∈ [4, 6, 9, 11] then 30
  else 31

/-- A year, a month and a day. -/
def date : Scan Unit := do
  let century ← twoDigits 100
  let year ← twoDigits 100
  expect '-'
  let month ← twoDigits 13
  expect '-'
  let day ← twoDigits 32
  if month ≠ 0 ∧ day ≠ 0 ∧ day ≤ daysIn (100 * century + year) month then pure ()
  else failure

/-- An hour, a minute and a second, which may have a fraction. -/
def time : Scan Unit := do
  let _ ← twoDigits 24
  expect ':'
  let _ ← twoDigits 60
  expect ':'
  let _ ← twoDigits 61
  if ← accept "." then
    let _ ← next Char.isDigit
    let _ ← run Char.isDigit

/-- The distance from universal time, which may be missing. -/
def offset : Scan Unit := do
  match ← peek with
  | none => pure ()
  | some _ =>
      let mark ← next fun c => ['Z', 'z', '+', '-'].contains c
      if mark = '+' ∨ mark = '-' then
        let _ ← twoDigits 24
        expect ':'
        let _ ← twoDigits 60

/-- A date, and a time if more follows. -/
def dateAndTime : Scan Unit := do
  date
  match ← peek with
  | none => pure ()
  | some _ =>
      let _ ← next fun c => ['T', 't', ' '].contains c
      time
      offset

def isDate (run : List Char) : Bool := (whole? date run).isSome

/-- Whether a run is a date, a time of day, or both. -/
def isDateTime (run : List Char) : Bool :=
  (whole? dateAndTime run).isSome || (whole? time run).isSome

end Hypermedia.Toml.DateTime
