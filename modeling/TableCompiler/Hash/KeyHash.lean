import TableCompiler.Hash.Fnv
import TableCompiler.Hash.Checksum
import TableCompiler.Hash.Md5
import TableCompiler.Hash.Sha1
import TableCompiler.Hash.Sha256
import TableCompiler.Text.Utf8
import TableCompiler.Value

/-!
# Key hashes — the hashes and digests a column can select
-/

namespace TableCompiler

open TableCompiler.Hash TableCompiler.Text

/-- A hash or digest that a type expression can name. -/
inductive KeyHash where
  | hash64
  | hash32
  | adler32
  | crc32
  | md5
  | sha1
  | sha256
  deriving DecidableEq, Repr

namespace KeyHash

/-- Every hash, the integer hashes first. -/
def all : List KeyHash := [.hash64, .hash32, .adler32, .crc32, .md5, .sha1, .sha256]

/-- The spelling in type expressions. -/
def name : KeyHash → String
  | .hash64 => "hash64"
  | .hash32 => "hash32"
  | .adler32 => "adler32"
  | .crc32 => "crc32"
  | .md5 => "md5"
  | .sha1 => "sha1"
  | .sha256 => "sha256"

/-- The hash of that spelling. -/
def ofName? (s : String) : Option KeyHash :=
  all.find? fun h => h.name = s

/-- The number of bytes a hash is stored in. -/
def width : KeyHash → Nat
  | .hash64 => 8
  | .hash32 => 4
  | .adler32 => 4
  | .crc32 => 4
  | .md5 => 16
  | .sha1 => 20
  | .sha256 => 32

/-- Whether the hash is a number and not a string of bytes. -/
def isInteger : KeyHash → Bool
  | .hash64 => true
  | .hash32 => true
  | .adler32 => true
  | .crc32 => true
  | .md5 => false
  | .sha1 => false
  | .sha256 => false

/-- The hash of a text in UTF-8. -/
def digest (h : KeyHash) (text : String) : Value :=
  let bytes := Utf8.encode text
  match h with
  | .hash64 => .uint (Fnv64.start.write bytes).state
  | .hash32 => .uint (Fnv32.start.write bytes).state.toUInt64
  | .adler32 => .uint (Hash.adler32 bytes).toUInt64
  | .crc32 => .uint (Hash.crc32 bytes).toUInt64
  | .md5 => .bytes (Md5.digest bytes)
  | .sha1 => .bytes (Sha1.digest bytes)
  | .sha256 => .bytes (Sha256.digest bytes)

/-- The Adler-32 checksum of a text in UTF-8. -/
def adler (text : String) : UInt32 :=
  Hash.adler32 (Utf8.encode text)

/-- The CRC-32 checksum of a text in UTF-8. -/
def crc (text : String) : UInt32 :=
  Hash.crc32 (Utf8.encode text)

theorem ofName?_name (h : KeyHash) : ofName? h.name = some h := by
  cases h <;> decide

end KeyHash

end TableCompiler
