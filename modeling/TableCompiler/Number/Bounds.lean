/-!
# Bounds — the integers that 64 bits hold
-/

namespace TableCompiler.Number

/-- The least signed integer of 64 bits. -/
def leastSigned : Int := -9223372036854775808

/-- The largest signed integer of 64 bits. -/
def largestSigned : Int := 9223372036854775807

/-- The largest unsigned integer of 64 bits. -/
def largestUnsigned : Nat := 18446744073709551615

end TableCompiler.Number
