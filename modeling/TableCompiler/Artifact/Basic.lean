import TableCompiler.Artifact.Container
import TableCompiler.Table.Binary

/-!
# Artifacts — compiled tables in a file

An artifact is a binary table with its name and a header. A file starts with a signature, and the
header is validated only after all of the file has been read: what is cut, extended or foreign is no
artifact at all.
-/

namespace TableCompiler

open TableCompiler.Text TableCompiler.Container

/-- The number that marks a compiled table. -/
def artifactMagic : UInt32 := 0x7AB10001

/-- The version of the format. -/
def formatVersion : UInt32 := 1

/-- The extension of artifact files. -/
def artifactExtension : String := "tbl"

/-- Why bytes are no artifact that can be used. -/
inductive ArtifactError where
  /-- The bytes are not the whole of one artifact. -/
  | decode
  | invalidMagic (found : UInt32)
  /-- The version is older than this one. -/
  | unsupportedVersion (found : UInt32)
  /-- The version is newer than this one. -/
  | futureVersion (found : UInt32)
  deriving DecidableEq, Repr

/-- A 32-bit word in capital hexadecimal digits with its mark. -/
def capitalWord (n : UInt32) : String :=
  "0x" ++ String.ofList ((Hex.padded 8 n.toNat).map Char.toUpper)

/-- The wording of an artifact error. -/
def ArtifactError.message : ArtifactError → String
  | .decode => "bitcode decoding failed: " ++ unexplained
  | .invalidMagic found =>
    "invalid magic number: expected " ++ capitalWord artifactMagic ++ ", got " ++ capitalWord found
  | .unsupportedVersion found =>
    "unsupported format version: expected " ++ toString formatVersion.toNat ++ ", got "
      ++ toString found.toNat
  | .futureVersion found =>
    "artifact from future version " ++ toString found.toNat ++ " (this build supports up to "
      ++ toString formatVersion.toNat ++ ")"

/-- What a file says about its table. -/
structure ArtifactHeader where
  magic : UInt32
  version : UInt32
  rowCount : UInt64
  columnCount : UInt32
  deriving DecidableEq, Repr

namespace ArtifactHeader

/-- The header of a table in the present version. -/
def ofTable (b : BinaryTable) : ArtifactHeader :=
  ⟨artifactMagic, formatVersion, UInt64.ofNat b.rowCount, UInt32.ofNat b.columnCount⟩

/-- Checks the magic number, then the version. -/
def validate (h : ArtifactHeader) : Except ArtifactError Unit :=
  if h.magic ≠ artifactMagic then .error (.invalidMagic h.magic)
  else if formatVersion < h.version then .error (.futureVersion h.version)
  else if h.version < formatVersion then .error (.unsupportedVersion h.version)
  else .ok ()

end ArtifactHeader

/-- A binary table with its name and header. -/
structure Artifact where
  header : ArtifactHeader
  name : String
  binary : BinaryTable
  deriving DecidableEq, Repr

namespace Artifact

/-- The artifact of a table. -/
def ofTable (name : String) (b : BinaryTable) : Artifact :=
  ⟨.ofTable b, name, b⟩

/-- The first bytes of every file. -/
def signature : List UInt8 := [0x89, 0x54, 0x42, 0x4C, 0x0D, 0x0A, 0x1A, 0x0A]

/-- Writes a header. -/
def writeHeader (h : ArtifactHeader) : List UInt8 :=
  writeWord h.magic ++ writeWord h.version ++ writeNat h.rowCount.toNat ++ writeWord h.columnCount

/-- Reads a header. -/
def readHeader : Reader ArtifactHeader := fun bytes => do
  let (magic, bytes) ← readWord bytes
  let (version, bytes) ← readWord bytes
  let (rowCount, bytes) ← readNat bytes
  let (columnCount, bytes) ← readWord bytes
  if rowCount < UInt64.size then
    some (⟨magic, version, UInt64.ofNat rowCount, columnCount⟩, bytes)
  else none

/-- Writes a table: names, types, records. -/
def writeTable (b : BinaryTable) : List UInt8 :=
  writeList writeBytes b.names ++ writeList writeBytes b.types
    ++ writeList (writeList writeBytes) b.records

/-- Reads a table. -/
def readTable : Reader BinaryTable := fun bytes => do
  let (names, bytes) ← readList readBytes bytes
  let (types, bytes) ← readList readBytes bytes
  let (records, bytes) ← readList (readList readBytes) bytes
  some (⟨names, types, records⟩, bytes)

/-- The bytes of an artifact. -/
def toBytes (a : Artifact) : List UInt8 :=
  signature ++ writeHeader a.header ++ writeText a.name ++ writeTable a.binary

/-- Reads an artifact off the front of the bytes. -/
def readArtifact : Reader Artifact := fun bytes => do
  let (header, bytes) ← readHeader bytes
  let (name, bytes) ← Container.readText bytes
  let (binary, bytes) ← readTable bytes
  some (⟨header, name, binary⟩, bytes)

/-- The artifact that the bytes are, whatever its header says. -/
def decode (bytes : List UInt8) : Option Artifact :=
  if bytes.take signature.length = signature then
    match readArtifact (bytes.drop signature.length) with
    | some (a, []) => some a
    | _ => none
  else none

/-- The artifact that the bytes are, with a header that this version can use. -/
def ofBytes (bytes : List UInt8) : Except ArtifactError Artifact :=
  match decode bytes with
  | none => .error .decode
  | some a =>
    match a.header.validate with
    | .error e => .error e
    | .ok () => .ok a

end Artifact

end TableCompiler
