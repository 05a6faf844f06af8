/-!
# Checksums — Adler-32 and CRC-32
-/

namespace TableCompiler.Hash

/-- The largest prime below `2^16`. -/
def adlerModulus : Nat := 65521

/-- Adds one byte to the sum of the bytes and to the sum of those sums. -/
def adlerStep (s : Nat × Nat) (b : UInt8) : Nat × Nat :=
  let low := (s.1 + b.toNat) % adlerModulus
  (low, (s.2 + low) % adlerModulus)

/-- The two sums of Adler-32 in one word, the sum of sums in the upper half. -/
def adler32 (bytes : List UInt8) : UInt32 :=
  let s := bytes.foldl adlerStep (1, 0)
  UInt32.ofNat (s.2 * 65536 + s.1)

/-- One bit of the division by the reflected polynomial. -/
def crcShift (r : UInt32) : UInt32 :=
  if r &&& 1 = 1 then (r >>> 1) ^^^ 0xEDB88320 else r >>> 1

/-- `n` bits of the division. -/
def crcShifts : Nat → UInt32 → UInt32
  | 0, r => r
  | n + 1, r => crcShifts n (crcShift r)

/-- Brings in one byte. -/
def crcStep (r : UInt32) (b : UInt8) : UInt32 :=
  crcShifts 8 (r ^^^ b.toUInt32)

/-- The cyclic redundancy check of IEEE 802.3. -/
def crc32 (bytes : List UInt8) : UInt32 :=
  bytes.foldl crcStep 0xFFFFFFFF ^^^ 0xFFFFFFFF

end TableCompiler.Hash
