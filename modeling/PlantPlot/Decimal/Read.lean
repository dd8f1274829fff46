import PlantPlot.Binary32.Basic

/-!
# Reading decimal numbers

A decimal number is written with an optional sign, digits with an optional decimal point (at
least one digit on either side of it), and an optional exponent: `e` or `E`, an optional sign and
at least one digit. So `.5`, `5.`, `+7.25`, `1E-2` and `-0` are numbers, while `.`, `1e` and
`1_000` are not. The digits of an exponent stop counting once the exponent has reached 65536,
far beyond any exponent that leaves a finite nonzero binary32 number.

`Decimal.toBinary32` rounds the number to the nearest binary32 number in one step.
-/

namespace PlantPlot

/-- The number `± digits * 10 ^ exponent`. -/
structure Decimal where
  /-- Whether a minus sign was written; it is kept also for zero. -/
  negative : Bool
  /-- The digits, read as one natural number. -/
  digits : Nat
  /-- The power of ten that the digits are scaled by. -/
  exponent : Int
  deriving DecidableEq, Repr

namespace Decimal

/-- Reads leading decimal digits onto `value`: gives the value, how many digits were read, and
the rest of the text. -/
def takeDigits (value count : Nat) : List Char → Nat × Nat × List Char
  | [] => (value, count, [])
  | c :: rest =>
    if c.isDigit then takeDigits (10 * value + (c.toNat - '0'.toNat)) (count + 1) rest
    else (value, count, c :: rest)

/-- Reads the digits of an exponent, which stop counting once the exponent reaches 65536. -/
def exponentValue (digits : List Char) : Nat :=
  digits.foldl (fun value c => if value < 65536 then 10 * value + (c.toNat - '0'.toNat) else value) 0

/-- Splits off a leading sign: whether it is a minus, and the rest. -/
def takeSign : List Char → Bool × List Char
  | '-' :: rest => (true, rest)
  | '+' :: rest => (false, rest)
  | rest => (false, rest)

/-- Reads an exponent part, `e` or `E`, an optional sign and at least one digit, which must end
the text. -/
def readExponent : List Char → Option Int
  | [] => some 0
  | marker :: rest =>
    if marker = 'e' || marker = 'E' then
      let (negative, digits) := takeSign rest
      if digits.isEmpty || !digits.all Char.isDigit then none
      else
        let value : Int := exponentValue digits
        some (if negative then -value else value)
    else none

/-- Reads a decimal number that makes up the whole text. -/
def parse? (text : String) : Option Decimal :=
  let (negative, body) := takeSign text.toList
  let (whole, wholeCount, afterWhole) := takeDigits 0 0 body
  let (digits, fractionCount, afterFraction) :=
    match afterWhole with
    | '.' :: rest => takeDigits whole 0 rest
    | rest => (whole, 0, rest)
  if wholeCount + fractionCount = 0 then none
  else (readExponent afterFraction).map fun exponent =>
    ⟨negative, digits, exponent - fractionCount⟩

/-- The number of decimal digits of a positive natural number. -/
def digitCount (n : Nat) : Nat :=
  (Nat.toDigits 10 n).length

/-- The binary32 number nearest to the decimal number. Numbers of 10 ^ 40 or more are infinite
and numbers below 10 ^ -46 are zero, so no large power of ten is ever computed for them. -/
def toBinary32 (number : Decimal) : Float32 :=
  if number.digits = 0 then Binary32.round number.negative 0 1
  else
    let magnitude : Int := number.exponent + digitCount number.digits
    if 40 < magnitude then Binary32.encode number.negative 0 105
    else if magnitude < -46 then Binary32.round number.negative 0 1
    else if 0 ≤ number.exponent then
      Binary32.round number.negative (number.digits * Nat.pow 10 number.exponent.toNat) 1
    else
      Binary32.round number.negative number.digits (Nat.pow 10 (-number.exponent).toNat)

end Decimal

end PlantPlot
