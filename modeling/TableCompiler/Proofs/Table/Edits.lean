import TableCompiler.Proofs.Localization.Decoration
import TableCompiler.Proofs.Table.Insertion

/-!
# Edits — changes of a source that no compilation sees

A column that is neither plain nor decorated, a record that does not count and the type of a column that
is not plain are there for people alone.  `Edit` puts them in or changes them and says how rows and
columns move.  Whatever counts of the source stands in the edited one, moved (`Edit.standsIn`), and that
is all that a compilation reads.
-/

namespace TableCompiler

open TableCompiler.Localization

/-- Where the rows and the columns of a table have been moved. -/
structure Moves where
  row : Nat → Nat
  col : Nat → Nat

namespace Moves

/-- Nothing is moved. -/
def stay : Moves := ⟨id, id⟩

/-- One move after another. -/
def andThen (m n : Moves) : Moves :=
  ⟨fun row => n.row (m.row row), fun col => n.col (m.col col)⟩

/-- A decorated column that is moved. -/
def column (m : Moves) (c : DecoratedColumn) : DecoratedColumn :=
  ⟨m.col c.index, c.field, c.locale⟩

end Moves

/-- Takes the place in an error along; errors without a place stay as they are. -/
def TableError.moved (m : Moves) : TableError → TableError
  | .fieldConversion row col failure => .fieldConversion (m.row row) (m.col col) failure
  | .dump row col source => .dump (m.row row) (m.col col) source
  | .type (.column col source) => .type (.column (m.col col) source)
  | e => e

namespace RawTable

variable {raw raw' : RawTable} {m : Moves}

/-! ## The edits -/

/-- A table with one more column, whose cell in each row is given; behind the last column nothing is put
in. -/
def insertColumn (t : RawTable) (position : Nat) (name expr : String) (cell : Nat → String) :
    RawTable where
  names := t.names.insertIdx position name
  types := t.types.insertIdx position expr
  records := t.records.mapIdx fun row record => record.insertIdx position (cell row)
  typed := by rw [List.length_insertIdx, List.length_insertIdx, t.typed]
  rectangular := by
    intro record hrecord
    obtain ⟨row, hrow, rfl⟩ := List.mem_mapIdx.mp hrecord
    rw [List.length_insertIdx, List.length_insertIdx, t.rectangular _ (List.getElem_mem hrow)]

/-- A table with one more record; behind the last record nothing is put in. -/
def insertRecord (t : RawTable) (position : Nat) (record : List String)
    (sized : record.length = t.names.length) : RawTable where
  names := t.names
  types := t.types
  records := t.records.insertIdx position record
  typed := t.typed
  rectangular := by
    intro other hother
    rcases List.eq_or_mem_of_mem_insertIdx hother with rfl | hother
    · exact sized
    · exact t.rectangular other hother

/-- A table with another type for one column. -/
def retype (t : RawTable) (col : Nat) (expr : String) : RawTable where
  names := t.names
  types := t.types.set col expr
  records := t.records
  typed := by rw [List.length_set, t.typed]
  rectangular := t.rectangular

/-- Whether a record does not count: its cell in the first plain column is blank or a comment, or there
is no plain column. -/
def Skips (raw : RawTable) (record : List String) : Prop :=
  ∀ first, raw.firstPlain? = some first → ∃ cell, record[first]? = some cell ∧
    (cell.toList.all Text.isBlank = true ∨ cell.toList.head? = some '#')

/-- One edit of a source that no compilation sees, and how it moves rows and columns. -/
inductive Edit (raw : RawTable) : RawTable → Moves → Prop where
  /-- A column is put in whose name is neither plain nor decorated. -/
  | column (position : Nat) {name : String} (expr : String) (cell : Nat → String) :
      isPlainField name = false → parseDecorated name = none →
      Edit raw (raw.insertColumn position name expr cell) ⟨id, shiftFrom position⟩
  /-- A record is put in that does not count. -/
  | record (position : Nat) {record : List String} (sized : record.length = raw.names.length) :
      raw.Skips record → Edit raw (raw.insertRecord position record sized) ⟨shiftFrom position, id⟩
  /-- The type of a column is changed that is not plain. -/
  | type {col : Nat} (expr : String) : ¬raw.IsPlain col → Edit raw (raw.retype col expr) .stay

/-- Any number of such edits, one after the other. -/
inductive Edits (raw : RawTable) : RawTable → Moves → Prop where
  | none : Edits raw raw .stay
  | more {between raw' : RawTable} {m n : Moves} :
      Edits raw between m → Edit between raw' n → Edits raw raw' (m.andThen n)

/-! ## What a compilation reads -/

/-- What counts of a table stands in another one, moved. -/
structure StandsIn (raw raw' : RawTable) (m : Moves) : Prop where
  plain : raw'.plainColumns = raw.plainColumns.map m.col
  decorated : decoratedColumns raw'.names = (decoratedColumns raw.names).map m.column
  named : ∀ field, isPlainField field = true →
    raw'.columnIndex? field = (raw.columnIndex? field).map m.col
  names : ∀ col, raw'.names.getD (m.col col) "" = raw.names.getD col ""
  types : ∀ col ∈ raw.plainColumns, raw'.types.getD (m.col col) "" = raw.types.getD col ""
  retained : ∃ carry : List String × Nat → List String,
    raw'.retainedRows = raw.retainedRows.map (fun r => (carry r, m.row r.2)) ∧
      ∀ r col, (carry r).getD (m.col col) "" = r.1.getD col ""

/-- The records that count are those of the rows that do. -/
theorem retainedRecords_eq (t : RawTable) : t.retainedRecords = t.retainedRows.map Prod.fst := by
  have hrecords : t.retainedRecords = (t.records.zipIdx.map Prod.fst).filter t.isRetained := by
    rw [List.zipIdx_map_fst, retainedRecords]
  rw [hrecords, List.filter_map, retainedRows]
  rfl

theorem head?_isCommentOrBlank {cells cells' : List String} (h : cells.head? = cells'.head?) :
    isCommentOrBlank cells = isCommentOrBlank cells' := by
  cases cells with
  | nil =>
      cases cells' with
      | nil => rfl
      | cons c' rest' => cases h
  | cons c rest =>
      cases cells' with
      | nil => cases h
      | cons c' rest' =>
          obtain rfl := Option.some.inj h
          rfl

/-- A record that the compiler skips does not count. -/
theorem isRetained_of_skips {record : List String} (skips : raw.Skips record) :
    raw.isRetained record = false := by
  apply Bool.eq_false_iff.mpr
  intro retained
  obtain ⟨first, cell, hfirst, hcell, visible, unmarked⟩ := isRetained_iff.mp retained
  obtain ⟨cell', hcell', hskipped⟩ := skips first hfirst
  obtain rfl := Option.some.inj (hcell.symm.trans hcell')
  rcases hskipped with hblank | hmark
  · exact visible (List.all_eq_true.mp hblank)
  · exact unmarked hmark

/-! ## What each edit leaves -/

/-- The plain columns behind a marker column move one place, and the marker is none of them. -/
theorem plainColumns_insertColumn {position : Nat} {name expr : String} {cell : Nat → String}
    (marker : isPlainField name = false) :
    (raw.insertColumn position name expr cell).plainColumns
      = raw.plainColumns.map (shiftFrom position) := by
  simp only [plainColumns, insertColumn, filter_zipIdx_insertIdx _ _ marker, List.map_map]
  rfl

/-- The first plain column is the same one in its new place. -/
theorem firstPlain?_insertColumn {position : Nat} {name expr : String} {cell : Nat → String}
    (marker : isPlainField name = false) :
    (raw.insertColumn position name expr cell).firstPlain?
      = raw.firstPlain?.map (shiftFrom position) :=
  findIdx?_insertIdx raw.names position marker

/-- A record counts with one more cell as it did without it. -/
theorem isRetained_insertColumn {position : Nat} {name expr : String} {cell : Nat → String}
    (marker : isPlainField name = false) (record : List String) (text : String) :
    (raw.insertColumn position name expr cell).isRetained (record.insertIdx position text)
      = raw.isRetained record := by
  rw [isRetained, isRetained, firstPlain?_insertColumn marker]
  cases raw.firstPlain? with
  | none => rfl
  | some first =>
      have hhead : ((record.insertIdx position text).drop (shiftFrom position first)).head?
          = (record.drop first).head? := by
        rw [List.head?_drop, List.head?_drop, getElem?_insertIdx_shiftFrom]
      simp only [Option.map_some, head?_isCommentOrBlank hhead]

/-- The rows that count are the same ones, with a cell more. -/
theorem retainedRows_insertColumn {position : Nat} {name expr : String} {cell : Nat → String}
    (marker : isPlainField name = false) :
    (raw.insertColumn position name expr cell).retainedRows
      = raw.retainedRows.map fun r => (r.1.insertIdx position (cell r.2), r.2) := by
  have hrecords : (raw.insertColumn position name expr cell).records.zipIdx
      = raw.records.zipIdx.map fun r => (r.1.insertIdx position (cell r.2), r.2) := by
    refine List.ext_getElem? fun row => ?_
    rw [List.getElem?_zipIdx, insertColumn, List.getElem?_mapIdx, List.getElem?_map,
      List.getElem?_zipIdx, Option.map_map, Option.map_map]
    congr 1
    funext record
    simp only [Function.comp, Nat.zero_add]
  rw [retainedRows, hrecords, List.filter_map, retainedRows]
  congr 1
  exact List.filter_congr fun r _ => isRetained_insertColumn marker r.1 (cell r.2)

/-- **A MARKER COLUMN IS UNSEEN**, wherever it is put. -/
theorem standsIn_insertColumn {name : String} (position : Nat) (expr : String)
    (cell : Nat → String) (marker : isPlainField name = false)
    (undecorated : parseDecorated name = none) :
    StandsIn raw (raw.insertColumn position name expr cell) ⟨id, shiftFrom position⟩ where
  plain := plainColumns_insertColumn marker
  decorated := by
    have hpassed : decorationAt (name, position) = none := by rw [decorationAt, undecorated]; rfl
    rw [decoratedColumns_eq_filterMap, insertColumn, filterMap_zipIdx_insertIdx _ _ hpassed,
      decoratedColumns_eq_filterMap, List.map_filterMap]
    congr 1
    funext p
    rw [decorationAt, decorationAt, Option.map_map]
    rfl
  named := by
    intro field hfield
    refine findIdx?_insertIdx raw.names position (decide_eq_false ?_)
    rintro rfl
    exact Bool.false_ne_true (marker.symm.trans hfield)
  names := fun col => getD_insertIdx_shiftFrom raw.names position col name ""
  types := fun col _ => getD_insertIdx_shiftFrom raw.types position col expr ""
  retained := ⟨_, retainedRows_insertColumn marker, fun r col =>
    getD_insertIdx_shiftFrom r.1 position col (cell r.2) ""⟩

/-- **A SKIPPED RECORD IS UNSEEN**, wherever it is put. -/
theorem standsIn_insertRecord {record : List String} (position : Nat)
    (sized : record.length = raw.names.length) (skips : raw.Skips record) :
    StandsIn raw (raw.insertRecord position record sized) ⟨shiftFrom position, id⟩ where
  plain := (List.map_id _).symm
  decorated := (List.map_id _).symm
  named := fun _ _ => Option.map_id'.symm
  names := fun _ => rfl
  types := fun _ _ => rfl
  retained := ⟨Prod.fst, filter_zipIdx_insertIdx raw.records position (isRetained_of_skips skips),
    fun _ _ => rfl⟩

/-- **THE TYPE OF A COLUMN** that is not compiled is unseen. -/
theorem standsIn_retype {col : Nat} (expr : String) (other : ¬raw.IsPlain col) :
    StandsIn raw (raw.retype col expr) .stay where
  plain := (List.map_id _).symm
  decorated := (List.map_id _).symm
  named := fun _ _ => Option.map_id'.symm
  names := fun _ => rfl
  types := by
    intro col' hcol'
    have hne : col ≠ col' := by
      rintro rfl
      exact other (mem_plainColumns.mp hcol')
    show (raw.types.set col expr).getD col' "" = raw.types.getD col' ""
    rw [List.getD_eq_getElem?_getD, List.getD_eq_getElem?_getD, List.getElem?_set_ne hne]
  retained := ⟨Prod.fst, (List.map_id _).symm, fun _ _ => rfl⟩

/-- **AN EDIT LEAVES WHAT COUNTS**. -/
theorem Edit.standsIn (edit : Edit raw raw' m) : StandsIn raw raw' m := by
  cases edit with
  | column position expr cell marker undecorated =>
      exact standsIn_insertColumn position expr cell marker undecorated
  | record position sized skips => exact standsIn_insertRecord position sized skips
  | type expr other => exact standsIn_retype expr other

end RawTable

end TableCompiler
