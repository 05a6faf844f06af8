import TableCompiler.Number.Digits
import TableCompiler.Number.Rounding

/-!
# Doubles — real numbers by their bits

A real value is held as its 64 bits, so that equality, negative zero and the storage form are
plain, and every operation is exact integer arithmetic followed by one rounding.
-/

namespace TableCompiler.Number

/-- A double-precision number: one sign bit, eleven exponent bits, fifty-two fraction bits. -/
structure Double where
  bits : UInt64
  deriving DecidableEq, Repr

namespace Double

/-- Whether the sign bit is set. -/
def isNegative (x : Double) : Bool :=
  Nat.pow 2 63 ≤ x.bits.toNat

/-- The bits without the sign. -/
def magnitude (x : Double) : Nat :=
  x.bits.toNat % Nat.pow 2 63

/-- Neither infinite nor a NaN. -/
def isFinite (x : Double) : Bool :=
  x.magnitude < BinaryFormat.double.infinity

/-- Not a number. -/
def isNaN (x : Double) : Bool :=
  BinaryFormat.double.infinity < x.magnitude

/-- Positive or negative zero. -/
def isZero (x : Double) : Bool :=
  x.magnitude = 0

/-- Finite, not zero, and below the smallest normal number. -/
def isSubnormal (x : Double) : Bool :=
  x.magnitude ≠ 0 && x.magnitude < Nat.pow 2 52

/-- A number from its sign and its magnitude bits. -/
def ofMagnitude (negative : Bool) (magnitude : Nat) : Double :=
  ⟨UInt64.ofNat (magnitude + if negative then Nat.pow 2 63 else 0)⟩

/-- Infinity of either sign. -/
def infinity (negative : Bool) : Double :=
  ofMagnitude negative BinaryFormat.double.infinity

/-- The quiet NaN of either sign. -/
def nan (negative : Bool) : Double :=
  ofMagnitude negative (BinaryFormat.double.infinity + Nat.pow 2 51)

/-- Zero of either sign. -/
def zero (negative : Bool) : Double :=
  ofMagnitude negative 0

/-- The number nearest to a ratio. -/
def ofRatio (negative : Bool) (num den : Nat) : Double :=
  ofMagnitude negative (roundRatio .double num den)

/-- The number nearest to a natural number. -/
def ofNat (negative : Bool) (n : Nat) : Double :=
  ofRatio negative n 1

/-- The number nearest to `coefficient · 10^exponent`. -/
def ofDecimal (negative : Bool) (coefficient : Nat) (exponent : Int) : Double :=
  ofMagnitude negative (roundDecimal .double coefficient exponent (decimalLength coefficient))

/-- Significand and exponent of a finite number without its sign. -/
def unpack (x : Double) : Nat × Int :=
  BinaryFormat.double.unpack x.magnitude

/-- The magnitude of a finite number as a ratio. -/
def ratio (x : Double) : Nat × Nat :=
  scaleTwo x.unpack.1 1 x.unpack.2

/-- The product of two finite numbers. -/
def mul (x y : Double) : Double :=
  ofRatio (x.isNegative != y.isNegative) (x.ratio.1 * y.ratio.1) (x.ratio.2 * y.ratio.2)

/-- The quotient of two finite numbers, the divisor not zero. -/
def div (x y : Double) : Double :=
  ofRatio (x.isNegative != y.isNegative) (x.ratio.1 * y.ratio.2) (x.ratio.2 * y.ratio.1)

/-- The bits of the nearest single-precision number without the sign. -/
def singleMagnitude (x : Double) : Nat :=
  if x.isNaN then
    BinaryFormat.single.infinity + Nat.pow 2 22 + x.magnitude % Nat.pow 2 51 / Nat.pow 2 29
  else if x.isFinite then roundRatio .single x.ratio.1 x.ratio.2
  else BinaryFormat.single.infinity

/-- The bits of the nearest single-precision number. -/
def toSingle (x : Double) : UInt32 :=
  UInt32.ofNat (x.singleMagnitude + if x.isNegative then Nat.pow 2 31 else 0)

/-- The double with the value of single-precision bits. -/
def ofSingle (single : UInt32) : Double :=
  let magnitude := single.toNat % Nat.pow 2 31
  let negative := decide (Nat.pow 2 31 ≤ single.toNat)
  if magnitude < BinaryFormat.single.infinity then
    let m := BinaryFormat.single.unpack magnitude
    let r := scaleTwo m.1 1 m.2
    ofRatio negative r.1 r.2
  else if magnitude = BinaryFormat.single.infinity then infinity negative
  else ofMagnitude negative
    (BinaryFormat.double.infinity + Nat.pow 2 51 + magnitude % Nat.pow 2 22 * Nat.pow 2 29)

/-- The value after a pass through single precision. -/
def throughSingle (x : Double) : Double :=
  ofSingle x.toSingle

/-- The largest finite single-precision number. -/
def largestSingle : Double :=
  ofSingle 0x7F7FFFFF

/-- Eight bytes, least significant first. -/
def toBytes (x : Double) : List UInt8 :=
  (List.range 8).map fun i => UInt8.ofNat (x.bits.toNat / Nat.pow 256 i % 256)

/-- Four bytes of the single-precision number, least significant first. -/
def toSingleBytes (x : Double) : List UInt8 :=
  (List.range 4).map fun i => UInt8.ofNat (x.toSingle.toNat / Nat.pow 256 i % 256)

end Double

end TableCompiler.Number
