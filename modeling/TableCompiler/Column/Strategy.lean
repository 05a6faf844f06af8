import TableCompiler.Column.Failure
import TableCompiler.Hash.KeyHash

/-!
# Strategies — how a column converts its cells and dumps its values

A resolved column carries one `ConvertStrategy` and one `DumpStrategy`, so that no cell needs the
type expression again.
-/

namespace TableCompiler

/-- The key role of a column. -/
inductive KeyRole where
  | none
  /-- A look-up key whose values stay texts. -/
  | lookup
  | primary
  /-- A foreign key and the column it points to, if it names one. -/
  | foreign (target? : Option String)
  deriving DecidableEq, Repr

/-- A text encoding. -/
inductive TextEncoding where
  | utf8
  /-- Little-endian code units without a byte-order mark. -/
  | utf16
  | ascii
  deriving DecidableEq, Repr

/-- The encoding of that name. -/
def TextEncoding.ofName? (s : String) : Option TextEncoding :=
  if s = "utf8" then some .utf8
  else if s = "utf16" then some .utf16
  else if s = "ascii" then some .ascii
  else none

/-- What happens to a character that the encoding lacks. -/
inductive ErrorPolicy where
  /-- It is an error. -/
  | strict
  /-- It is left out. -/
  | ignore
  /-- It becomes a question mark. -/
  | replace
  deriving DecidableEq, Repr

/-- The policy of that name. -/
def ErrorPolicy.ofName? (s : String) : Option ErrorPolicy :=
  if s = "strict" then some .strict
  else if s = "ignore" then some .ignore
  else if s = "replace" then some .replace
  else none

/-- A registered converter: the cell's text, then the main and the sub attribute. -/
abbrev Converter := String → Option String → Option String → Except ConversionFailure Value

/-- How a cell's text becomes a value. -/
inductive ConvertStrategy where
  | integer (radix : Nat) (width : StorageWidth)
  | real (width : StorageWidth)
  | text
  /-- A text that is checked against an encoding and stays a text. -/
  | encoded (encoding : TextEncoding) (policy : ErrorPolicy)
  | hash (hash : KeyHash)
  | date
  | dateTime
  | time
  | json
  | enum (ns : String) (members : List (String × Int64))
  | custom (convert : Converter)

/-- How a value becomes bytes. -/
inductive DumpStrategy where
  | int (width : StorageWidth)
  | real (width : StorageWidth)
  | text (encoding : TextEncoding) (policy : ErrorPolicy)
  /-- Bytes as they are. -/
  | raw
  /-- The value's text in UTF-8. -/
  | canonicalText
  | json
  deriving DecidableEq, Repr

/-- The dump of a semantic type when no attribute says otherwise. -/
def DumpStrategy.ofSemantic (semantic : SemanticType) (width : StorageWidth) : DumpStrategy :=
  match semantic with
  | .int | .uint | .enum => .int width
  | .adler32 | .crc32 => .int .u32
  | .real => .real width
  | .string => .text .utf8 .strict
  | .md5 | .sha1 | .sha256 => .raw
  | .date | .dateTime | .timeSpan => .canonicalText
  | .json => .json

/-- The conversion of a semantic type when no attribute says otherwise. -/
def ConvertStrategy.ofSemantic (semantic : SemanticType) (width : StorageWidth) :
    ConvertStrategy :=
  match semantic with
  | .json => .json
  | .string => .text
  | .md5 => .hash .md5
  | .sha1 => .hash .sha1
  | .sha256 => .hash .sha256
  | .adler32 => .hash .adler32
  | .crc32 => .hash .crc32
  | .int | .uint | .enum => .integer 10 width
  | .real => .real width
  | .date => .date
  | .dateTime => .dateTime
  | .timeSpan => .time

/-- Width and dump of the values that a hash produces. -/
def hashLayout (h : KeyHash) : StorageWidth × DumpStrategy :=
  match h with
  | .hash64 => (.u64, .int .u64)
  | .hash32 | .adler32 | .crc32 => (.u32, .int .u32)
  | .md5 | .sha1 | .sha256 => (.fixed h.width, .raw)

end TableCompiler
