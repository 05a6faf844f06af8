/-!
# UTF-16 — little-endian code units without a byte-order mark

A character above U+FFFF is written as a surrogate pair, every other one as one unit.
-/

namespace TableCompiler.Text.Utf16

/-- The code units of one character. -/
def encodeChar (c : Char) : List UInt16 :=
  if c.toNat < 0x10000 then [UInt16.ofNat c.toNat]
  else [UInt16.ofNat (0xD800 + (c.toNat - 0x10000) / 0x400),
        UInt16.ofNat (0xDC00 + (c.toNat - 0x10000) % 0x400)]

/-- The code units of a text. -/
def units (s : String) : List UInt16 :=
  s.toList.flatMap encodeChar

/-- A code unit with its low byte first. -/
def littleEndian (u : UInt16) : List UInt8 :=
  [UInt8.ofNat (u.toNat % 256), UInt8.ofNat (u.toNat / 256)]

/-- The bytes of a text. -/
def encode (s : String) : List UInt8 :=
  (units s).flatMap littleEndian

end TableCompiler.Text.Utf16
