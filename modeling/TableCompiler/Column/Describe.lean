import TableCompiler.Column.Resolve
import TableCompiler.Text.Quoted

/-!
# Descriptions — strategies and data types as readable text

A description shows the constructor of a strategy and its fields, for logs and reports.
-/

namespace TableCompiler

open TableCompiler.Text

/-- A constructor with named fields. -/
def describeFields (name : String) (fields : List (String × String)) : String :=
  let shown := fields.map fun f => f.1 ++ ": " ++ f.2
  name ++ " \x7b " ++ ", ".intercalate shown ++ " \x7d"

/-- A constructor with one field. -/
def describeWrapped (name field : String) : String :=
  name ++ "(" ++ field ++ ")"

/-- The description of a width. -/
def StorageWidth.describe : StorageWidth → String
  | .i8 => "I8"
  | .i16 => "I16"
  | .i32 => "I32"
  | .i64 => "I64"
  | .u8 => "U8"
  | .u16 => "U16"
  | .u32 => "U32"
  | .u64 => "U64"
  | .f32 => "F32"
  | .f64 => "F64"
  | .fixed n => describeWrapped "Fixed" (toString n)
  | .unbounded => "Variable"

/-- The description of a semantic type. -/
def SemanticType.describe : SemanticType → String
  | .json => "Json"
  | .string => "String"
  | .md5 => "Md5"
  | .sha1 => "Sha1"
  | .sha256 => "Sha256"
  | .int => "Int"
  | .uint => "UInt"
  | .adler32 => "Adler32"
  | .crc32 => "Crc32"
  | .real => "Real"
  | .date => "Date"
  | .dateTime => "DateTime"
  | .timeSpan => "TimeSpan"
  | .enum => "Enum"

/-- The description of a hash. -/
def KeyHash.describe : KeyHash → String
  | .hash64 => "Hash64"
  | .hash32 => "Hash32"
  | .adler32 => "Adler32"
  | .crc32 => "Crc32"
  | .md5 => "Md5"
  | .sha1 => "Sha1"
  | .sha256 => "Sha256"

/-- The description of an encoding. -/
def TextEncoding.describe : TextEncoding → String
  | .utf8 => "Utf8"
  | .utf16 => "Utf16"
  | .ascii => "Ascii"

/-- The description of a policy. -/
def ErrorPolicy.describe : ErrorPolicy → String
  | .strict => "Strict"
  | .ignore => "Ignore"
  | .replace => "Replace"

/-- The description of a conversion. -/
def ConvertStrategy.describe : ConvertStrategy → String
  | .integer radix width =>
    describeFields "Integer" [("radix", toString radix), ("width", width.describe)]
  | .real width => describeFields "Real" [("width", width.describe)]
  | .text => "Text"
  | .encoded encoding policy =>
    describeFields "Encoded" [("encoding", encoding.describe), ("policy", policy.describe)]
  | .hash h => describeWrapped "Hash" h.describe
  | .date => "Date"
  | .dateTime => "DateTime"
  | .time => "Time"
  | .json => "Json"
  | .enum ns _ => describeFields "Enum" [("namespace", Quoted.quote ns)]
  | .custom _ => describeWrapped "Custom" ".."

/-- The description of a dump. -/
def DumpStrategy.describe : DumpStrategy → String
  | .int width => describeWrapped "Int" width.describe
  | .real width => describeWrapped "Real" width.describe
  | .text encoding policy =>
    describeFields "Text" [("encoding", encoding.describe), ("policy", policy.describe)]
  | .raw => "Raw"
  | .canonicalText => "CanonicalText"
  | .json => "Json"

/-- The description of a data type. -/
def BaseType.describe (b : BaseType) : String :=
  describeFields "BaseType"
    [("semantic_type", b.semantic.describe), ("storage_width", b.width.describe),
     ("custom", toString b.convert?.isSome)]

end TableCompiler
