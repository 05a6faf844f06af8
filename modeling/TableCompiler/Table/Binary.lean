import TableCompiler.Column.Dump
import TableCompiler.Table.Basic

/-!
# Binary tables — every cell as bytes

Names and type expressions are in UTF-8, cells as their column dumps them. How the cells are framed
in a file is for the container to say.
-/

namespace TableCompiler

open TableCompiler.Text

/-- A table of bytes. Its shape is not part of the type, since a container may hold any. -/
structure BinaryTable where
  names : List (List UInt8)
  types : List (List UInt8)
  records : List (List (List UInt8))
  deriving DecidableEq, Repr

/-- Dumps the values of a record from column `col` on. -/
def dumpCells (row : Nat) : (col : Nat) → List ColumnType → List Value →
    Except TableError (List (List UInt8))
  | col, t :: types, v :: values =>
    match t.dumpValue v with
    | .error source => .error (.dump row col source)
    | .ok bytes => (dumpCells row (col + 1) types values).map (bytes :: ·)
  | _, _, _ => .ok []

/-- Dumps the records from row `row` on. -/
def dumpRecords (types : List ColumnType) : (row : Nat) → List (List Value) →
    Except TableError (List (List (List UInt8)))
  | _, [] => .ok []
  | row, record :: rest =>
    match dumpCells row 0 types record with
    | .error e => .error e
    | .ok cells => (dumpRecords types (row + 1) rest).map (cells :: ·)

namespace BinaryTable

/-- Dumps every cell; the first value that cannot be dumped ends it. -/
def encode (t : TypedTable) : Except TableError BinaryTable :=
  match dumpRecords t.types 0 t.records with
  | .error e => .error e
  | .ok records => .ok ⟨t.names.map Utf8.encode, t.types.map fun c => Utf8.encode c.expr, records⟩

/-- The number of columns. -/
def columnCount (b : BinaryTable) : Nat :=
  b.names.length

/-- The number of records. -/
def rowCount (b : BinaryTable) : Nat :=
  b.records.length

/-- The number of bytes in the cells of a record. -/
def recordLength : List (List UInt8) → Nat
  | [] => 0
  | cell :: rest => cell.length + recordLength rest

/-- The number of bytes in the cells of records. -/
def recordsLength : List (List (List UInt8)) → Nat
  | [] => 0
  | record :: rest => recordLength record + recordsLength rest

/-- The number of bytes in all cells of all records. -/
def payloadLength (b : BinaryTable) : Nat :=
  recordsLength b.records

end BinaryTable

end TableCompiler
