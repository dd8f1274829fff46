/-!
# Binary32 numbers as exact values

A binary32 number is a sign, an 8-bit biased exponent and a 23-bit fraction. `decode` reads the
bits into an exact value: not a number, an infinity, or `± mantissa * 2 ^ exponent` with
naturals and an integer, so that the operations of this library that need exact arithmetic
(remainders, rounding to integers, decimal text) are computed in `Nat` and `Int`.

`round` goes the other way: the binary32 number nearest to a ratio of naturals, a tie going to
the even mantissa, and a value beyond the largest finite number going to infinity, as IEEE 754
rounds to nearest.
-/

namespace PlantPlot.Binary32

/-- What the bits of a binary32 number stand for. -/
inductive Value where
  /-- Not a number. -/
  | nan
  /-- An infinity of the given sign. -/
  | infinite (negative : Bool)
  /-- The number `± mantissa * 2 ^ exponent`; zero has mantissa zero and keeps its sign. -/
  | finite (negative : Bool) (mantissa : Nat) (exponent : Int)
  deriving DecidableEq, Repr

/-- The number of fraction bits. -/
def fractionBits : Nat := 23

/-- The exponent of the least significant bit of the smallest numbers (the subnormals). -/
def leastExponent : Int := -149

/-- The exact value of a binary32 number. -/
def decode (x : Float32) : Value :=
  let bits := x.toBits.toNat
  let negative := decide (Nat.pow 2 31 ≤ bits)
  let biased := bits / Nat.pow 2 fractionBits % 256
  let fraction := bits % Nat.pow 2 fractionBits
  if biased = 255 then
    if fraction = 0 then .infinite negative else .nan
  else if biased = 0 then
    .finite negative fraction leastExponent
  else
    .finite negative (fraction + Nat.pow 2 fractionBits) (biased + leastExponent - 1)

/-- The binary32 number with the given sign, mantissa and exponent, where the mantissa is below
`2 ^ 24` and the exponent at least `leastExponent`; a mantissa below `2 ^ 23` is subnormal and then
has the least exponent. Exponents above 104 give infinity. -/
def encode (negative : Bool) (mantissa : Nat) (exponent : Int) : Float32 :=
  let sign := if negative then Nat.pow 2 31 else 0
  let magnitude :=
    if 104 < exponent then 255 * Nat.pow 2 fractionBits
    else if mantissa < Nat.pow 2 fractionBits then mantissa
    else (exponent - leastExponent + 1).toNat * Nat.pow 2 fractionBits +
      (mantissa - Nat.pow 2 fractionBits)
  Float32.ofBits (UInt32.ofNat (sign + magnitude))

/-- Splits `num / (den * 2 ^ exponent)` into its whole part and remainder, with the divisor. -/
def divideScaled (num den : Nat) (exponent : Int) : Nat × Nat × Nat :=
  if 0 ≤ exponent then
    let divisor := den * Nat.pow 2 exponent.toNat
    (num / divisor, num % divisor, divisor)
  else
    let scaled := num * Nat.pow 2 (-exponent).toNat
    (scaled / den, scaled % den, den)

/-- The whole part of a quotient, rounded to nearest with a tie going to the even neighbour,
given the whole part, the remainder and the divisor. -/
def roundHalfEven (whole remainder divisor : Nat) : Nat :=
  if divisor < 2 * remainder || (2 * remainder == divisor && whole % 2 == 1) then whole + 1
  else whole

/-- The binary32 number nearest to `± num / den`, for a positive `den`: ties go to the even
mantissa, and values beyond the finite range to infinity. -/
def round (negative : Bool) (num den : Nat) : Float32 :=
  if num = 0 then encode negative 0 leastExponent
  else
    -- the quotient scaled by 2 ^ -guess lies in [2 ^ 23, 2 ^ 25)
    let guess : Int := (num.log2 : Int) - den.log2 - 24
    let exponent₀ := if Nat.pow 2 24 ≤ (divideScaled num den guess).1 then guess + 1 else guess
    let exponent := max exponent₀ leastExponent
    let (whole, remainder, divisor) := divideScaled num den exponent
    let mantissa := roundHalfEven whole remainder divisor
    if mantissa = Nat.pow 2 24 then encode negative (Nat.pow 2 23) (exponent + 1)
    else encode negative mantissa exponent

/-- The binary32 number nearest to `± mantissa * 2 ^ exponent`. -/
def ofDyadic (negative : Bool) (mantissa : Nat) (exponent : Int) : Float32 :=
  if 0 ≤ exponent then round negative (mantissa * Nat.pow 2 exponent.toNat) 1
  else round negative mantissa (Nat.pow 2 (-exponent).toNat)

/-- The binary32 number nearest to a natural number. -/
def ofNat (n : Nat) : Float32 :=
  round false n 1

end PlantPlot.Binary32
