/-!
# Rounding — exact ratios to binary interchange formats

A finite number of a binary format is `m · 2^q` with `m` below a power of two and `q` bounded from
below. `roundRatio` takes an exact ratio of natural numbers to the nearest such number, a tie going
to the even significand, and returns the format's bits without the sign.
-/

namespace TableCompiler.Number

/-- The quotient rounded to the nearest natural number, a half going to the even neighbour. -/
def divHalfEven (num den : Nat) : Nat :=
  let q := num / den
  let r := num % den
  if 2 * r < den then q
  else if den < 2 * r then q + 1
  else q + q % 2

/-- A binary interchange format: how many bits store the fraction and the exponent. -/
structure BinaryFormat where
  fractionBits : Nat
  exponentBits : Nat
  deriving DecidableEq, Repr

namespace BinaryFormat

/-- Double precision. -/
def double : BinaryFormat := ⟨52, 11⟩

/-- Single precision. -/
def single : BinaryFormat := ⟨23, 8⟩

/-- The exponent of the last place of the smallest numbers. -/
def leastExponent (f : BinaryFormat) : Int :=
  2 - Nat.pow 2 (f.exponentBits - 1) - f.fractionBits

/-- The bits of positive infinity. -/
def infinity (f : BinaryFormat) : Nat :=
  (Nat.pow 2 f.exponentBits - 1) * Nat.pow 2 f.fractionBits

/-- Significand and exponent of the finite number with these bits. -/
def unpack (f : BinaryFormat) (bits : Nat) : Nat × Int :=
  let fraction := bits % Nat.pow 2 f.fractionBits
  let biased := bits / Nat.pow 2 f.fractionBits
  if biased = 0 then (fraction, f.leastExponent)
  else (fraction + Nat.pow 2 f.fractionBits, f.leastExponent + (biased - 1 : Nat))

/-- The bits of `m · 2^q` for a significand that is normal unless `q` is the least exponent; a
significand one past the largest carries into the exponent. -/
def pack (f : BinaryFormat) (m : Nat) (q : Int) : Nat :=
  if m < Nat.pow 2 f.fractionBits then m
  else min f.infinity
    ((q - f.leastExponent).toNat * Nat.pow 2 f.fractionBits + m)

end BinaryFormat

/-- A power of two on either side of a ratio: `num / den · 2^e`. -/
def scaleTwo (num den : Nat) (e : Int) : Nat × Nat :=
  if 0 ≤ e then (num * Nat.pow 2 e.toNat, den) else (num, den * Nat.pow 2 (-e).toNat)

/-- A power of ten on either side of a ratio: `num / den · 10^e`. -/
def scaleTen (num den : Nat) (e : Int) : Nat × Nat :=
  if 0 ≤ e then (num * Nat.pow 10 e.toNat, den) else (num, den * Nat.pow 10 (-e).toNat)

/-- The exponent of the largest power of two that is not above a positive ratio. -/
def floorLogTwo (num den : Nat) : Int :=
  let e : Int := Nat.log2 num - Nat.log2 den
  let scaled := scaleTwo 1 1 e
  if scaled.1 * den ≤ num * scaled.2 then e else e - 1

/-- The bits of the format's number nearest to a ratio, or of infinity past the largest one. -/
def roundRatio (f : BinaryFormat) (num den : Nat) : Nat :=
  if num = 0 then 0
  else
    let q := max f.leastExponent (floorLogTwo num den - f.fractionBits)
    let scaled := scaleTwo num den (-q)
    f.pack (divHalfEven scaled.1 scaled.2) q

/-- The bits of the number nearest to `coefficient · 10^exponent`. Exponents so large or small that
every format has its answer already are not multiplied out. -/
def roundDecimal (f : BinaryFormat) (coefficient : Nat) (exponent : Int)
    (digits : Nat) : Nat :=
  if coefficient = 0 then 0
  else if 400 < exponent + digits then f.infinity
  else if exponent + digits < -400 then 0
  else
    let scaled := scaleTen coefficient 1 exponent
    roundRatio f scaled.1 scaled.2

end TableCompiler.Number
