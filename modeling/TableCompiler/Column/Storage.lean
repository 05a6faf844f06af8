/-!
# Semantic types and storage widths — what a column means and how it is stored
-/

namespace TableCompiler

/-- What the values of a column mean, whatever their storage. -/
inductive SemanticType where
  | json
  | string
  | md5
  | sha1
  | sha256
  | int
  | uint
  | adler32
  | crc32
  | real
  | date
  | dateTime
  | timeSpan
  /-- Named integer constants of a registered namespace. -/
  | enum
  deriving DecidableEq, Repr

namespace SemanticType

/-- Every semantic type. -/
def all : List SemanticType :=
  [.json, .string, .md5, .sha1, .sha256, .int, .uint, .adler32, .crc32, .real, .date, .dateTime,
   .timeSpan, .enum]

/-- The name in messages. -/
def name : SemanticType → String
  | .json => "json"
  | .string => "string"
  | .md5 => "md5"
  | .sha1 => "sha1"
  | .sha256 => "sha256"
  | .int => "int"
  | .uint => "uint"
  | .adler32 => "adler32"
  | .crc32 => "crc32"
  | .real => "real"
  | .date => "date"
  | .dateTime => "datetime"
  | .timeSpan => "timespan"
  | .enum => "enum"

/-- The semantic type of that name. -/
def ofName? (s : String) : Option SemanticType :=
  all.find? fun t => t.name = s

end SemanticType

/-- How a value is laid out in bytes; numbers are little-endian. -/
inductive StorageWidth where
  | i8
  | i16
  | i32
  | i64
  | u8
  | u16
  | u32
  | u64
  | f32
  | f64
  /-- A fixed number of bytes. -/
  | fixed (size : Nat)
  /-- Any number of bytes. -/
  | unbounded
  deriving DecidableEq, Repr

namespace StorageWidth

/-- The number of bytes, if it is the same for all values. -/
def byteLen? : StorageWidth → Option Nat
  | .i8 | .u8 => some 1
  | .i16 | .u16 => some 2
  | .i32 | .u32 | .f32 => some 4
  | .i64 | .u64 | .f64 => some 8
  | .fixed n => some n
  | .unbounded => none

/-- The least and the greatest integer of the width, if it is one of the integer widths. -/
def intBounds? : StorageWidth → Option (Int × Int)
  | .i8 => some (-128, 127)
  | .i16 => some (-32768, 32767)
  | .i32 => some (-2147483648, 2147483647)
  | .i64 => some (-9223372036854775808, 9223372036854775807)
  | .u8 => some (0, 255)
  | .u16 => some (0, 65535)
  | .u32 => some (0, 4294967295)
  | .u64 => some (0, 18446744073709551615)
  | _ => none

/-- Whether it is a width of unsigned integers. -/
def isUnsigned : StorageWidth → Bool
  | .u8 | .u16 | .u32 | .u64 => true
  | _ => false

/-- The name in messages. -/
def name : StorageWidth → String
  | .i8 => "i8"
  | .i16 => "i16"
  | .i32 => "i32"
  | .i64 => "i64"
  | .u8 => "u8"
  | .u16 => "u16"
  | .u32 => "u32"
  | .u64 => "u64"
  | .f32 => "f32"
  | .f64 => "f64"
  | .fixed n => "[u8; " ++ toString n ++ "]"
  | .unbounded => "bytes"

/-- The widths that need no size. -/
def named : List StorageWidth :=
  [.i8, .i16, .i32, .i64, .u8, .u16, .u32, .u64, .f32, .f64, .unbounded]

/-- The width of that name, fixed sizes apart. -/
def ofName? (s : String) : Option StorageWidth :=
  named.find? fun w => w.name = s

end StorageWidth

end TableCompiler
