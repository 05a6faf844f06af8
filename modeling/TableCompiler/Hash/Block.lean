/-!
# Blocks — the padding that the digests share

A message is followed by a one bit, by zeros up to eight bytes short of a whole number of 64-byte
blocks, and by its length in bits. Words of 32 bits are read from a block in either byte order.
-/

namespace TableCompiler.Hash

/-- The number of bytes in a block. -/
def blockSize : Nat := 64

/-- How many zero bytes follow the one bit. -/
def paddingZeros (size : Nat) : Nat :=
  (119 - size % blockSize) % blockSize

/-- Bytes of a number, least significant first. -/
def littleBytes (count n : Nat) : List UInt8 :=
  (List.range count).map fun i => UInt8.ofNat (n / Nat.pow 256 i % 256)

/-- Bytes of a number, most significant first. -/
def bigBytes (count n : Nat) : List UInt8 :=
  (littleBytes count n).reverse

/-- The message with its padding; `length` writes the number of bits in eight bytes. -/
def padMessage (length : Nat → List UInt8) (bytes : List UInt8) : List UInt8 :=
  bytes ++ [0x80] ++ List.replicate (paddingZeros bytes.length) 0 ++ length (bytes.length * 8)

/-- The first `count` blocks. -/
def blocks : (count : Nat) → List UInt8 → List (List UInt8)
  | 0, _ => []
  | count + 1, bytes => bytes.take blockSize :: blocks count (bytes.drop blockSize)

/-- The blocks of a padded message. -/
def blocksOf (bytes : List UInt8) : List (List UInt8) :=
  blocks (bytes.length / blockSize) bytes

/-- Words of four bytes each, least significant byte first. -/
def littleWords : List UInt8 → List UInt32
  | a :: b :: c :: d :: rest =>
    (a.toUInt32 ||| b.toUInt32 <<< 8 ||| c.toUInt32 <<< 16 ||| d.toUInt32 <<< 24)
      :: littleWords rest
  | _ => []

/-- Words of four bytes each, most significant byte first. -/
def bigWords : List UInt8 → List UInt32
  | a :: b :: c :: d :: rest =>
    (a.toUInt32 <<< 24 ||| b.toUInt32 <<< 16 ||| c.toUInt32 <<< 8 ||| d.toUInt32)
      :: bigWords rest
  | _ => []

/-- Turns a word to the left by `n` bits, `0 < n < 32`. -/
def rotateLeft (x : UInt32) (n : UInt32) : UInt32 :=
  (x <<< n) ||| (x >>> (32 - n))

/-- Turns a word to the right by `n` bits, `0 < n < 32`. -/
def rotateRight (x : UInt32) (n : UInt32) : UInt32 :=
  (x >>> n) ||| (x <<< (32 - n))

/-- The four bytes of a word, least significant first. -/
def wordLittle (w : UInt32) : List UInt8 :=
  [w.toUInt8, (w >>> 8).toUInt8, (w >>> 16).toUInt8, (w >>> 24).toUInt8]

/-- The four bytes of a word, most significant first. -/
def wordBig (w : UInt32) : List UInt8 :=
  [(w >>> 24).toUInt8, (w >>> 16).toUInt8, (w >>> 8).toUInt8, w.toUInt8]

end TableCompiler.Hash
