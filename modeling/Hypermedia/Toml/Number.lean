/-!
Numbers of TOML. Digits can be grouped by underscores, each of which has to
stand between two digits. Integers are those of 64 bits, and a number with a
fraction or an exponent may not be too large for a double.
-/

namespace Hypermedia.Toml.Number

/-- The digits of a run in which single underscores may stand between them. -/
def grouped? (isDigit : Char → Bool) : List Char → Option (List Char)
  | [] => none
  | [c] => if isDigit c then some [c] else none
  | c :: '_' :: rest => if isDigit c then (grouped? isDigit rest).map (c :: ·) else none
  | c :: rest => if isDigit c then (grouped? isDigit rest).map (c :: ·) else none

/-- A run of digits without needless zeros in front. -/
def decimal? (run : List Char) : Option (List Char) :=
  match grouped? Char.isDigit run with
  | some ('0' :: _ :: _) => none
  | digits? => digits?

/-- The value of a digit, up to sixteen. -/
def digitValue (c : Char) : Nat :=
  if c.isDigit then c.toNat - '0'.toNat
  else if c.isLower then c.toNat - 'a'.toNat + 10
  else c.toNat - 'A'.toNat + 10

/-- Whether a character is a digit in this base. -/
def isDigitOf (base : Nat) (c : Char) : Bool :=
  c.isAlphanum && digitValue c < base

/-- A number in the given base, without a sign. -/
def inBase? (base : Nat) (run : List Char) : Option Int :=
  (grouped? (isDigitOf base) run).map fun digits =>
    Int.ofNat (digits.foldl (fun value c => value * base + digitValue c) 0)

/-- A decimal number without a sign. -/
def inDecimal? (run : List Char) : Option Int :=
  (decimal? run).map fun digits => Int.ofNat (Nat.ofDigitChars 10 digits 0)

/-- An integer of any size. -/
def unbounded? : List Char → Option Int
  | '0' :: 'x' :: run => inBase? 16 run
  | '0' :: 'o' :: run => inBase? 8 run
  | '0' :: 'b' :: run => inBase? 2 run
  | '+' :: run => inDecimal? run
  | '-' :: run => (inDecimal? run).map (- ·)
  | run => inDecimal? run

/-- An integer of 64 bits. -/
def integer? (run : List Char) : Option Int :=
  match unbounded? run with
  | some value =>
      if -0x8000000000000000 ≤ value ∧ value < 0x8000000000000000 then some value else none
  | none => none

/-- Splits off a sign. The first part tells whether it was a minus. -/
def splitSign : List Char → Bool × List Char
  | '+' :: run => (false, run)
  | '-' :: run => (true, run)
  | run => (false, run)

/-- The parts of a decimal number, whose value is `digits * 10 ^ exponent`. -/
structure Scientific where
  digits : Nat
  exponent : Int
deriving DecidableEq, Repr

/-- Whether a character can stand in a run of grouped digits. -/
def isGrouped (c : Char) : Bool := c.isDigit || c == '_'

/-- The exponent of a number, with the letter in front, or nothing at all. -/
def exponent? : List Char → Option Int
  | [] => some 0
  | mark :: run =>
      if mark = 'e' ∨ mark = 'E' then
        let (isNegative, digits) := splitSign run
        (grouped? Char.isDigit digits).map fun digits =>
          let size := Int.ofNat (Nat.ofDigitChars 10 digits 0)
          if isNegative then -size else size
      else none

/-- A number without a sign that has a fraction, an exponent or both. -/
def scientific? (run : List Char) : Option Scientific :=
  let left := run.takeWhile isGrouped
  match decimal? left, run.dropWhile isGrouped with
  | some left, '.' :: rest =>
      let right := rest.takeWhile isGrouped
      match grouped? Char.isDigit right, exponent? (rest.dropWhile isGrouped) with
      | some right, some exponent =>
          some ⟨Nat.ofDigitChars 10 (left ++ right) 0, exponent - right.length⟩
      | _, _ => none
  | some left, rest@(_ :: _) =>
      (exponent? rest).map fun exponent => ⟨Nat.ofDigitChars 10 left 0, exponent⟩
  | _, _ => none

/-- Whether a number is so large that the nearest double is infinite: it is at
least half a step above the largest double. The number of its digits decides
unless it is near that border. -/
def Scientific.isHuge (number : Scientific) : Bool :=
  if number.digits = 0 then false
  else
    let places := Int.ofNat (Nat.toDigits 10 number.digits).length + number.exponent
    if 310 < places then true
    else if places < 300 then false
    else
      number.digits * Nat.pow 10 number.exponent.toNat ≥
        (Nat.pow 2 1024 - Nat.pow 2 970) * Nat.pow 10 (-number.exponent).toNat

/-- Whether a run is a number that is not an integer. A number with a minus may
be as small as one likes. -/
def isFloat (run : List Char) : Bool :=
  let (isNegative, size) := splitSign run
  size == "inf".toList || size == "nan".toList ||
    (scientific? size).any fun number => isNegative || !number.isHuge

end Hypermedia.Toml.Number
