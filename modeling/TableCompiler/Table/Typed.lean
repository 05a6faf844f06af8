import TableCompiler.Column.Convert
import TableCompiler.Table.Basic

/-!
# Converted tables — every cell read by its column

Cells are converted row by row and from left to right; the first cell that cannot be converted ends
the conversion, and its row and column are reported.
-/

namespace TableCompiler

/-- Converts the cells of a record from column `col` on. -/
def convertCells (row : Nat) : (col : Nat) → List ColumnType → List String →
    Except TableError (List Value)
  | col, t :: types, text :: cells =>
    match t.convertCell text with
    | .error failure => .error (.fieldConversion row col failure)
    | .ok v => (convertCells row (col + 1) types cells).map (v :: ·)
  | _, _, _ => .ok []

/-- Converts the records from row `row` on. -/
def convertRecords (types : List ColumnType) : (row : Nat) → List (List String) →
    Except TableError (List (List Value))
  | _, [] => .ok []
  | row, record :: rest =>
    match convertCells row 0 types record with
    | .error e => .error e
    | .ok values => (convertRecords types (row + 1) rest).map (values :: ·)

namespace TypedTable

/-- Converts a table with resolved column types. -/
def convertWith (raw : RawTable) (types : List ColumnType) : Except TableError TypedTable :=
  if types.length ≠ raw.columnCount then
    .error (.columnCountMismatch raw.columnCount types.length)
  else
    match convertRecords types 0 raw.records with
    | .error e => .error e
    | .ok records => Table.new raw.names types records

/-- Resolves the type row of a table and converts its cells. -/
def convert (raw : RawTable) (registry : Registry) : Except TableError TypedTable :=
  match registry.resolveAll raw.types with
  | .error e => .error (.type e)
  | .ok types => convertWith raw types

end TypedTable

end TableCompiler
