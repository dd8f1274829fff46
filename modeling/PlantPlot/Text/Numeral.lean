/-!
# Counts written in decimal

A count is written as decimal digits, optionally after one plus sign, and must fit in 32 bits.
Minus signs, blanks, separators and an empty text are refused.
-/

namespace PlantPlot.Text

/-- The value of a text of decimal digits, if it has at least one digit and no other character. -/
def digitsValue? (digits : List Char) : Option Nat :=
  if digits.isEmpty || !digits.all Char.isDigit then none
  else some (digits.foldl (fun value c => 10 * value + (c.toNat - '0'.toNat)) 0)

/-- Reads a 32-bit count. -/
def parseCount? (text : String) : Option Nat :=
  let digits := match text.toList with
    | '+' :: rest => rest
    | all => all
  match digitsValue? digits with
  | some value => if value < Nat.pow 2 32 then some value else none
  | none => none

end PlantPlot.Text
