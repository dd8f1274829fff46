import PlantPlot.Binary32.Basic

/-!
# Binary32 remainders and integer parts

Operations on binary32 numbers that have exact results, computed on decoded values:

* `truncatedRemainder x y` is `x - n * y` for the integer `n` that truncates `x / y`; it is
  always a binary32 number and carries the sign of `x`.
* `euclideanRemainder x y` moves a negative truncated remainder up by `|y|`, with one binary32
  addition, so that for a tiny negative `x` it can round up to `|y|` itself.
* `roundToInt32` rounds to the nearest integer, a half away from zero, and clamps to the 32-bit
  signed range; not-a-number gives zero.
* `truncateToNat` drops the fraction of a number and gives zero for negatives and not-a-number.
-/

namespace PlantPlot.Binary32

/-- The quiet not-a-number. -/
def nan : Float32 := Float32.ofBits 0x7FC00000

/-- The remainder of `x` by `y` after a quotient truncated toward zero, with the sign of `x`. It
is not a number when `x` is infinite or `y` is zero, and `x` itself when `y` is infinite. -/
def truncatedRemainder (x y : Float32) : Float32 :=
  match decode x, decode y with
  | .finite negative xMantissa xExponent, .finite _ yMantissa yExponent =>
    if yMantissa = 0 then nan
    else
      let exponent := min xExponent yExponent
      let dividend := xMantissa * Nat.pow 2 (xExponent - exponent).toNat
      let divisor := yMantissa * Nat.pow 2 (yExponent - exponent).toNat
      ofDyadic negative (dividend % divisor) exponent
  | .finite _ _ _, .infinite _ => x
  | _, _ => nan

/-- The remainder of `x` by `y` moved into `[0, |y|]`: a negative truncated remainder gets `|y|`
added, rounded as binary32 addition rounds. -/
def euclideanRemainder (x y : Float32) : Float32 :=
  let remainder := truncatedRemainder x y
  if remainder < 0 then remainder + y.abs else remainder

/-- The natural number nearest to `mantissa * 2 ^ exponent`, a half going up. -/
def roundHalfUp (mantissa : Nat) (exponent : Int) : Nat :=
  if 0 ≤ exponent then mantissa * Nat.pow 2 exponent.toNat
  else
    let divisor := Nat.pow 2 (-exponent).toNat
    if divisor ≤ 2 * (mantissa % divisor) then mantissa / divisor + 1 else mantissa / divisor

/-- The least 32-bit signed integer, `-2 ^ 31`. -/
def int32Min : Int := -2147483648

/-- The greatest 32-bit signed integer, `2 ^ 31 - 1`. -/
def int32Max : Int := 2147483647

/-- Clamps an integer into the 32-bit signed range. -/
def clampInt32 (n : Int) : Int :=
  max int32Min (min n int32Max)

/-- The integer nearest to `x`, a half going away from zero, clamped into the 32-bit signed
range; infinities clamp and not-a-number gives zero. -/
def roundToInt32 (x : Float32) : Int :=
  match decode x with
  | .finite negative mantissa exponent =>
    let magnitude : Int := roundHalfUp mantissa exponent
    clampInt32 (if negative then -magnitude else magnitude)
  | .infinite negative => if negative then int32Min else int32Max
  | .nan => 0

/-- The whole part of a number that is not negative, or `none` for an infinity; negative numbers
and not-a-number give zero. -/
def truncateToNat? (x : Float32) : Option Nat :=
  match decode x with
  | .finite false mantissa exponent =>
    some (if 0 ≤ exponent then mantissa * Nat.pow 2 exponent.toNat
      else mantissa / Nat.pow 2 (-exponent).toNat)
  | .infinite false => none
  | _ => some 0

end PlantPlot.Binary32
