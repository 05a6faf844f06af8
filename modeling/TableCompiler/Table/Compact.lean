import TableCompiler.Table.Basic

/-!
# Compaction — the plain columns and the rows that count

Only columns whose name is an identifier are compiled. Rows are skipped whose cell in the first such
column is blank or starts with the comment mark. What is kept stays in order, and a `SourceMap` says
where it came from.
-/

namespace TableCompiler

open TableCompiler.Text

/-- Whether a column of that name is compiled. -/
def isPlainField (name : String) : Bool :=
  isIdentifier name.toList

/-- Whether a record is skipped: no cells, or a first cell that is blank or a comment. -/
def isCommentOrBlank : List String → Bool
  | [] => true
  | first :: _ => first.toList.all isBlank || first.toList.head? = some '#'

namespace RawTable

/-- The first plain column. -/
def firstPlain? (t : RawTable) : Option Nat :=
  t.names.findIdx? isPlainField

/-- Whether a record counts, judged by its cells from the first plain column on. -/
def isRetained (t : RawTable) (record : List String) : Bool :=
  match t.firstPlain? with
  | some i => !isCommentOrBlank (record.drop i)
  | none => false

/-- The records that count, each with its row. -/
def retainedRows (t : RawTable) : List (List String × Nat) :=
  t.records.zipIdx.filter fun r => t.isRetained r.1

/-- The records that count, with all their cells. -/
def retainedRecords (t : RawTable) : List (List String) :=
  t.records.filter t.isRetained

/-- The plain columns. -/
def plainColumns (t : RawTable) : List Nat :=
  (t.names.zipIdx.filter fun c => isPlainField c.1).map (·.2)

end RawTable

/-- Where the rows and columns of a compacted table stand in its source. -/
structure SourceMap where
  rows : List Nat
  cols : List Nat
  deriving DecidableEq, Repr

namespace SourceMap

/-- The source row of a row. -/
def rowOf (m : SourceMap) (row : Nat) : Nat :=
  m.rows.getD row row

/-- The source column of a column. -/
def colOf (m : SourceMap) (col : Nat) : Nat :=
  m.cols.getD col col

/-- Takes the place in an error back to the source; errors without a place stay as they are. -/
def locate (m : SourceMap) : TableError → TableError
  | .fieldConversion row col failure => .fieldConversion (m.rowOf row) (m.colOf col) failure
  | .dump row col source => .dump (m.rowOf row) (m.colOf col) source
  | .type (.column col source) => .type (.column (m.colOf col) source)
  | e => e

end SourceMap

/-- The cells at the given columns. -/
def pick (cols : List Nat) (cells : List String) : List String :=
  cols.map fun c => cells.getD c ""

@[simp] theorem length_pick (cols : List Nat) (cells : List String) :
    (pick cols cells).length = cols.length := by
  simp [pick]

namespace RawTable

/-- The plain columns of the records that count. -/
def compact (t : RawTable) : RawTable where
  names := pick t.plainColumns t.names
  types := pick t.plainColumns t.types
  records := t.retainedRows.map fun r => pick t.plainColumns r.1
  typed := by simp
  rectangular := by
    intro record h
    obtain ⟨r, _, rfl⟩ := List.mem_map.1 h
    simp

/-- Where the rows and columns of the compacted table come from. -/
def sourceMap (t : RawTable) : SourceMap :=
  ⟨t.retainedRows.map (·.2), t.plainColumns⟩

end RawTable

end TableCompiler
