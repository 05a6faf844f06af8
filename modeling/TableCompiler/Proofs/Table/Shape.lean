import TableCompiler.Proofs.Table.Conversion
import TableCompiler.Proofs.Table.Grid

/-!
# Shape — parts that fit together

A table is put together from names, types and records, with a check or without one; `MadeOf` says what
it is made of, and that these parts fit.  The check lets exactly such parts through (`new_eq_ok_iff`),
a grid is filled up to them (`ofRows_eq_ok_iff`), and conversion and dumping keep their shape, cell by
cell (`convertWith_eq_ok_iff`, `encode_eq_ok_iff_gridwise`).
-/

namespace TableCompiler

variable {τ κ : Type}

/-! ## Parts -/

namespace Table

variable {names : List String} {types : List τ} {records : List (List κ)} {t : Table τ κ} {col : Nat}

/-- A table is put together from these parts, and they fit. -/
structure MadeOf (t : Table τ κ) (names : List String) (types : List τ)
    (records : List (List κ)) : Prop where
  names_eq : t.names = names
  types_eq : t.types = types
  records_eq : t.records = records
  fits : Rectangular names types records

/-- A column is there: it has a name, a type and a cell in every record. -/
structure Spans (t : Table τ κ) (col : Nat) : Prop where
  name : col < t.names.length
  type : col < t.types.length
  cell : ∀ record ∈ t.records, col < record.length

/-- A column that has a name is there. -/
theorem spans_of_lt (h : col < t.names.length) : t.Spans col where
  name := h
  type := t.typed.symm ▸ h
  cell := fun record hrecord => (t.rectangular record hrecord).symm ▸ h

/-- **THE CHECK OF THE PARTS** lets a table through exactly when they fit. -/
theorem new_eq_ok_iff : Table.new names types records = .ok t ↔ t.MadeOf names types records := by
  constructor
  · intro h
    rw [Table.new] at h
    split at h
    case isFalse => cases h
    case isTrue typed =>
      split at h
      case h_1 => cases h
      case h_2 hragged =>
        rw [← Except.ok.inj h]
        exact ⟨rfl, rfl, rfl, typed, rectangular_of_firstRagged? hragged⟩
  · rintro ⟨rfl, rfl, rfl, -⟩
    exact Table.new_eq_ok t.typed t.rectangular

end Table

namespace RawTable

variable {names typeRow : List String} {rows : List (List String)} {t : RawTable} {width : Nat}

theorem length_pad {cells : List String} (within : cells.length ≤ width) :
    (pad width cells).length = width := by
  rw [pad, List.length_append, List.length_replicate, Nat.add_sub_cancel' within]

/-- Rows that are not too long are filled up. -/
theorem rectangular_pad (typed : typeRow.length ≤ names.length)
    (within : ∀ row ∈ rows, row.length ≤ names.length) :
    Rectangular names (pad names.length typeRow) (rows.map (pad names.length)) := by
  refine ⟨length_pad typed, fun record hrecord => ?_⟩
  obtain ⟨row, hrow, rfl⟩ := List.mem_map.mp hrecord
  exact length_pad (within row hrow)

/-- **A GRID BECOMES A TABLE** exactly when no row is longer than the first, and then its rows are
filled up at their ends. -/
theorem ofRows_eq_ok_iff :
    ofRows (names :: typeRow :: rows) = .ok t ↔
      (typeRow.length ≤ names.length ∧ ∀ row ∈ rows, row.length ≤ names.length) ∧
        t.MadeOf names (pad names.length typeRow) (rows.map (pad names.length)) := by
  rw [ofRows, ← Table.new_eq_ok_iff, ← firstLonger?_eq_none_iff 0, ← Nat.not_lt]
  split
  case isTrue hlonger =>
    constructor
    · intro h
      cases h
    · exact fun h => absurd hlonger h.1.1
  case isFalse hwithin =>
    cases firstLonger? names.length 0 rows with
    | none => exact (and_iff_right ⟨hwithin, rfl⟩).symm
    | some longer =>
        constructor
        · intro h
          cases h
        · rintro ⟨⟨-, hnone⟩, -⟩
          cases hnone

/-- The check behind the padding finds nothing. -/
theorem exists_ofRows (typed : typeRow.length ≤ names.length)
    (within : ∀ row ∈ rows, row.length ≤ names.length) :
    ∃ t, ofRows (names :: typeRow :: rows) = .ok t := by
  have fits := rectangular_pad typed within
  exact ⟨⟨names, _, _, fits.typed, fits.filled⟩,
    ofRows_eq_ok_iff.mpr ⟨⟨typed, within⟩, rfl, rfl, rfl, fits⟩⟩

end RawTable

/-! ## Conversion and dumping -/

variable {raw : RawTable} {types : List ColumnType} {t : TypedTable} {b : BinaryTable}
variable {e : TableError}

/-- **CONVERSION LOSES NO CELL**: with a type for each column, what comes out has a value for every
cell. -/
theorem convertWith_eq_ok_iff :
    TypedTable.convertWith raw types = .ok t ↔
      ∃ records, Gridwise ColumnType.convertCell types raw.records records ∧
        t.MadeOf raw.names types records := by
  by_cases typed : types.length = raw.names.length
  · have sized : ∀ record ∈ raw.records, record.length = types.length :=
      fun record hrecord => (raw.rectangular record hrecord).trans typed.symm
    rw [(convertWith_eq typed).2 t, convertRecords_eq_ok_iff sized]
    constructor
    · rintro ⟨hgrid, htypes, hnames⟩
      exact ⟨t.records, hgrid, hnames, htypes, rfl, hgrid.rectangular typed⟩
    · rintro ⟨records, hgrid, made⟩
      exact ⟨made.records_eq ▸ hgrid, made.types_eq, made.names_eq⟩
  · have hcount : types.length ≠ raw.columnCount := typed
    rw [TypedTable.convertWith, if_pos hcount]
    constructor
    · intro h
      cases h
    · rintro ⟨records, -, made⟩
      exact absurd made.fits.typed typed

/-- **DUMPING LOSES NO VALUE**: what comes out has bytes for every one. -/
theorem encode_eq_ok_iff_gridwise :
    BinaryTable.encode t = .ok b ↔
      b.names = t.names.map Text.Utf8.encode ∧
        (b.types = t.types.map fun c => Text.Utf8.encode c.expr) ∧
        Gridwise ColumnType.dumpValue t.types t.records b.records := by
  have sized : ∀ record ∈ t.records, record.length = t.types.length :=
    fun record hrecord => (t.rectangular record hrecord).trans t.typed.symm
  rw [encode_eq_ok_iff, dumpRecords_eq_ok_iff sized]
  exact and_rotate

/-- The bytes of a table have the shape of the table. -/
theorem rectangular_of_encode (encoded : BinaryTable.encode t = .ok b) :
    Rectangular b.names b.types b.records := by
  obtain ⟨hnames, htypes, hgrid⟩ := encode_eq_ok_iff_gridwise.mp encoded
  have typed : t.types.length = b.names.length := by rw [hnames, List.length_map, t.typed]
  refine ⟨?_, (hgrid.rectangular typed).filled⟩
  rw [htypes, List.length_map, typed]

/-- With a type for each column, an error of conversion is that of a cell. -/
theorem fieldConversion_of_convertRecords {cells : List (List String)}
    (h : convertRecords types 0 cells = .error e) :
    ∃ row col failure, e = .fieldConversion row col failure := by
  rw [convertRecords_eq_tryAll] at h
  obtain ⟨record, row, -, hrecord⟩ := exists_position_of_tryAll h
  rw [convertCells_eq_tryAll] at hrecord
  obtain ⟨col, failure, -, rfl⟩ := exists_cell_of_tryAll hrecord
  exact ⟨row, col, failure, rfl⟩

/-- **THE SHAPE ERRORS OF CONVERSION**: a wrong number of types is told, and values never come out
ragged. -/
theorem convertWith_shape_error (raw : RawTable) (types : List ColumnType) :
    (∀ n m, TypedTable.convertWith raw types = .error (.columnCountMismatch n m) ↔
        types.length ≠ raw.names.length ∧ n = raw.names.length ∧ m = types.length) ∧
      ∀ row expected found,
        TypedTable.convertWith raw types ≠ .error (.raggedRecord row expected found) := by
  -- with as many types as columns only cells can fail, and else no cell is looked at
  by_cases typed : types.length = raw.names.length
  · have hcell := fun e h => fieldConversion_of_convertRecords (((convertWith_eq typed).1 e).mp h)
    constructor
    · intro n m
      refine ⟨fun h => ?_, fun h => absurd typed h.1⟩
      obtain ⟨row, col, failure, hother⟩ := hcell _ h
      cases hother
    · intro row expected found h
      obtain ⟨row, col, failure, hother⟩ := hcell _ h
      cases hother
  · have hcount : types.length ≠ raw.columnCount := typed
    rw [TypedTable.convertWith, if_pos hcount]
    constructor
    · intro n m
      constructor
      · intro h
        cases h
        exact ⟨typed, rfl, rfl⟩
      · rintro ⟨-, rfl, rfl⟩
        rfl
    · intro row expected found h
      cases h

end TableCompiler
