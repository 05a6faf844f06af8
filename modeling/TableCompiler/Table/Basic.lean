import TableCompiler.Column.Resolve
import TableCompiler.Column.Failure

/-!
# Tables — named columns and records of one width

A table has as many types as names, and as many cells in every record; this is part of the type, so
no stage can lose or gain a cell unnoticed. A source grid becomes a table by padding short rows.
-/

namespace TableCompiler

/-- Why a grid is no table, or a table cannot be transformed. -/
inductive TableError where
  /-- The row of names or the row of types is missing. -/
  | missingHeader
  /-- There are not as many types as names. -/
  | columnCountMismatch (names types : Nat)
  /-- A record does not have a cell for each name. -/
  | raggedRecord (row expected found : Nat)
  /-- A type expression names no column type. -/
  | type (source : TypeError)
  /-- A cell cannot be converted. -/
  | fieldConversion (row col : Nat) (failure : ConversionFailure)
  /-- A value cannot be dumped. -/
  | dump (row col : Nat) (source : DumpError)
  deriving DecidableEq, Repr

/-- The place of a cell in messages. -/
def cellPlace (row col : Nat) : String :=
  "row " ++ toString row ++ ", column " ++ toString col ++ ": "

/-- The wording of a table error. -/
def TableError.message : TableError → String
  | .missingHeader => "table needs a header row and a type row"
  | .columnCountMismatch names types =>
    toString names ++ " field names but " ++ toString types ++ " field types"
  | .raggedRecord row expected found =>
    "row " ++ toString row ++ ": expected " ++ toString expected ++ " cells, found "
      ++ toString found
  | .type source => source.message
  | .fieldConversion row col failure =>
    cellPlace row col ++ failure.kind.code ++ " '" ++ failure.value ++ "' (" ++ failure.memo ++ ")"
  | .dump row col source => cellPlace row col ++ source.message

/-- A table: names, a type for each name, and records with a cell for each name. -/
structure Table (τ κ : Type) where
  names : List String
  types : List τ
  records : List (List κ)
  typed : types.length = names.length
  rectangular : ∀ record ∈ records, record.length = names.length

/-- A source table: type expressions and texts. -/
abbrev RawTable := Table String String

/-- A converted table: column types and values. -/
abbrev TypedTable := Table ColumnType Value

namespace Table

variable {τ κ : Type}

@[ext] theorem ext {s t : Table τ κ} (names : s.names = t.names) (types : s.types = t.types)
    (records : s.records = t.records) : s = t := by
  cases s; cases t; cases names; cases types; cases records; rfl

/-- The first record, from row `row` on, that is not `width` cells wide, and its number of cells. -/
def firstRagged? (width : Nat) : (row : Nat) → List (List κ) → Option (Nat × Nat)
  | _, [] => none
  | row, record :: rest =>
    if record.length = width then firstRagged? width (row + 1) rest
    else some (row, record.length)

theorem rectangular_of_firstRagged? {width : Nat} {records : List (List κ)} :
    ∀ {row : Nat}, firstRagged? width row records = none →
      ∀ record ∈ records, record.length = width := by
  induction records with
  | nil => intro _ _ record h; cases h
  | cons first rest ih =>
      intro row h
      simp only [firstRagged?] at h
      split at h
      case isTrue hw =>
        intro record hr
        cases hr with
        | head => exact hw
        | tail _ hr => exact ih h record hr
      case isFalse => cases h

theorem firstRagged?_of_rectangular {width : Nat} {records : List (List κ)} :
    ∀ {row : Nat}, (∀ record ∈ records, record.length = width) →
      firstRagged? width row records = none := by
  induction records with
  | nil => intros; rfl
  | cons first rest ih =>
      intro row h
      rw [firstRagged?, if_pos (h first (List.mem_cons_self ..))]
      exact ih fun record hr => h record (List.mem_cons_of_mem _ hr)

/-- Builds a table after checking its shape. -/
def new (names : List String) (types : List τ) (records : List (List κ)) :
    Except TableError (Table τ κ) :=
  if typed : types.length = names.length then
    match h : firstRagged? names.length 0 records with
    | some (row, found) => .error (.raggedRecord row names.length found)
    | none => .ok ⟨names, types, records, typed, rectangular_of_firstRagged? h⟩
  else .error (.columnCountMismatch names.length types.length)

/-- Parts of the right shape make the table of these parts. -/
theorem new_eq_ok {names : List String} {types : List τ} {records : List (List κ)}
    (typed : types.length = names.length)
    (rectangular : ∀ record ∈ records, record.length = names.length) :
    new names types records = .ok ⟨names, types, records, typed, rectangular⟩ := by
  have h := @firstRagged?_of_rectangular _ _ _ 0 rectangular
  simp only [new, typed, dite_true]
  split
  case h_1 hs => rw [h] at hs; cases hs
  case h_2 => rfl

/-- The number of columns. -/
def columnCount (t : Table τ κ) : Nat :=
  t.names.length

/-- The number of records. -/
def rowCount (t : Table τ κ) : Nat :=
  t.records.length

/-- The first column of that name. -/
def columnIndex? (t : Table τ κ) (name : String) : Option Nat :=
  t.names.findIdx? (· = name)

/-- Names, types and records on a line each, with commas between the entries. -/
def display (showType : τ → String) (showCell : κ → String) (t : Table τ κ) : String :=
  let line (entries : List String) : String := ", ".intercalate entries
  "\n".intercalate
    (line t.names :: line (t.types.map showType) :: t.records.map fun r => line (r.map showCell))

end Table

namespace RawTable

/-- Cells filled up with empty texts to a width. -/
def pad (width : Nat) (cells : List String) : List String :=
  cells ++ List.replicate (width - cells.length) ""

/-- The first row, from row `row` on, with more than `width` cells, and its number of cells. -/
def firstLonger? (width : Nat) : (row : Nat) → List (List String) → Option (Nat × Nat)
  | _, [] => none
  | row, cells :: rest =>
    if width < cells.length then some (row, cells.length) else firstLonger? width (row + 1) rest

/-- Builds a table from a grid: names, type expressions, then records. Short rows are padded, since
spreadsheets drop empty cells at the end of a row; longer rows than the names are refused. -/
def ofRows : List (List String) → Except TableError RawTable
  | names :: types :: rows =>
    if names.length < types.length then
      .error (.columnCountMismatch names.length types.length)
    else
      match firstLonger? names.length 0 rows with
      | some (row, found) => .error (.raggedRecord row names.length found)
      | none => Table.new names (pad names.length types) (rows.map (pad names.length))
  | _ => .error .missingHeader

/-- The grid of a table: names, type expressions, then records. -/
def toRows (t : RawTable) : List (List String) :=
  t.names :: t.types :: t.records

/-- The text of a source table. -/
def text (t : RawTable) : String :=
  t.display id id

end RawTable

/-- The text of a converted table. -/
def TypedTable.text (t : TypedTable) : String :=
  t.display ColumnType.expr Value.display

end TableCompiler
