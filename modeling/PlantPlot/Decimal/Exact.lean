import PlantPlot.Binary32.Basic

/-!
# Exact decimal text of binary32 numbers

Every finite binary32 number is a fraction with a power of two below it, so it has a finite
decimal expansion; `exactText` writes all of it. The text has an integer part, a point and at
least one fraction digit (`750.0`, `25.700000762939453125`, `-0.0`), so it reads back as this
very number in any reader that rounds correctly, binary64 readers included, since every binary32
number is a binary64 number.
-/

namespace PlantPlot.Decimal

/-- The fraction digits of `numerator / 10 ^ places`, for a numerator below `10 ^ places`, with
trailing zeros dropped but at least one digit kept. -/
def fractionDigits (numerator places : Nat) : String :=
  let digits := Nat.toDigits 10 numerator
  let padded := List.replicate (places - digits.length) '0' ++ digits
  let trimmed := (padded.reverse.dropWhile (· = '0')).reverse
  if trimmed.isEmpty then "0" else String.ofList trimmed

/-- The exact decimal text of `± mantissa * 2 ^ exponent`. -/
def exactText (negative : Bool) (mantissa : Nat) (exponent : Int) : String :=
  let sign := if negative then "-" else ""
  if 0 ≤ exponent then
    sign ++ toString (mantissa * Nat.pow 2 exponent.toNat) ++ ".0"
  else
    let places := (-exponent).toNat
    let scaled := mantissa * Nat.pow 5 places
    sign ++ toString (scaled / Nat.pow 10 places) ++ "." ++
      fractionDigits (scaled % Nat.pow 10 places) places

/-- The exact decimal text of a finite binary32 number; none for an infinity or not-a-number. -/
def binary32Text? (x : Float32) : Option String :=
  match Binary32.decode x with
  | .finite negative mantissa exponent => some (exactText negative mantissa exponent)
  | _ => none

end PlantPlot.Decimal
