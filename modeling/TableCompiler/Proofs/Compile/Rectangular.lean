import TableCompiler.Proofs.Compile.ReviewGrid
import TableCompiler.Proofs.Table.Shape

/-!
# Rectangular tables — every stage puts parts together that fit

The stages make their tables of parts that come from different places: a choice of columns, values in the
place of cells, the texts of grouped heads.  The parts fit at each of them, so a check would find
nothing, and every look-up by position finds what stands there.  `StageShapes` lists the stages;
`tables_rectangular` goes through the list.
-/

namespace TableCompiler

open TableCompiler.Localization

variable {raw : RawTable} {registry : Registry} {types : List ColumnType} {typed : TypedTable}
variable {binary : BinaryTable} {h : HashTable} {t : TextTable} {col : Nat}

/-! ## Look-ups -/

/-- Compaction and extraction only look at columns that are there. -/
structure RawTable.LooksInside (raw : RawTable) : Prop where
  judged : ∀ col, raw.firstPlain? = some col → raw.Spans col
  picked : ∀ col ∈ raw.plainColumns, raw.Spans col
  decorated : ∀ column ∈ decoratedColumns raw.names, raw.Spans column.index
  keyed : ∀ column ∈ decoratedColumns raw.names,
    ∀ key, keyColumn? raw column = some key → raw.Spans key

theorem RawTable.IsPlain.spans (plain : raw.IsPlain col) : raw.Spans col := by
  obtain ⟨name, hname, -⟩ := plain
  exact Table.spans_of_lt (List.getElem?_eq_some_iff.mp hname).1

/-- The cells that a raw table is judged by stand in it. -/
theorem RawTable.looksInside (raw : RawTable) : raw.LooksInside where
  judged := fun col hfirst => (isPlain_of_findIdx? (fun _ hname => hname) hfirst).spans
  picked := fun col hcol => (RawTable.mem_plainColumns.mp hcol).spans
  decorated := by
    intro column hcolumn
    obtain ⟨name, hname, -⟩ := mem_decoratedColumns.mp hcolumn
    exact Table.spans_of_lt (List.getElem?_eq_some_iff.mp hname).1
  keyed := fun column hcolumn key hkey => (isPlain_of_keyColumn? hcolumn hkey).spans

/-! ## Parts -/

/-- A choice of columns is as wide in the names as in the types and the records. -/
theorem compact_madeOf (raw : RawTable) :
    raw.compact.MadeOf (pick raw.plainColumns raw.names) (pick raw.plainColumns raw.types)
      (raw.retainedRows.map fun r => pick raw.plainColumns r.1) := by
  refine ⟨rfl, rfl, rfl, ?_, fun record hrecord => ?_⟩
  · rw [length_pick, length_pick]
  · obtain ⟨r, -, rfl⟩ := List.mem_map.mp hrecord
    rw [length_pick, length_pick]

/-- A hash table is as wide as its rows are, whatever its types resolve to. -/
theorem toTyped_madeOf (made : h.toTyped registry = .ok typed) :
    ∃ types, registry.resolveAll HashTable.typeExprs = .ok types ∧
      typed.MadeOf HashTable.fieldNames types (h.rows.map HashTable.rowValues) := by
  rw [HashTable.toTyped] at made
  split at made
  case h_1 => cases made
  case h_2 types htypes =>
    rw [← Except.ok.inj made]
    exact ⟨types, htypes, rfl, rfl, rfl, (Registry.length_of_resolveAll htypes).trans rfl,
      length_of_mem_values h⟩

/-- What a pivot takes its texts from, and what it makes of them. -/
structure Pivots (h : HashTable) (t : TextTable) : Prop where
  /-- Every declared column has an entry for each row. -/
  listed : ∀ c ∈ declaredColumns h.rows, c.2.length = t.rows.length
  /-- Every row has a text of each declared column. -/
  filled : ∀ row ∈ t.rows, row.texts.length = (declaredColumns h.rows).length
  /-- The header is wider by the column of the hashes. -/
  headed : ∀ row ∈ t.rows, t.header.length = row.texts.length + 1

/-- A pivot has a text for each declared head in each of its rows. -/
theorem pivots_of_pivot (pivoted : TextTable.pivot h = .ok t) : Pivots h t := by
  have hfrom := pivotedFrom_of_pivot pivoted
  have hfilled : ∀ row ∈ t.rows, row.texts.length = (declaredColumns h.rows).length := by
    intro row hrow
    obtain ⟨position, hposition⟩ := List.mem_iff_getElem?.mp hrow
    obtain ⟨textOf, htexts, -⟩ := hfrom.placed position row hposition
    rw [htexts, declaredColumns_eq, List.length_map, List.length_map]
  refine ⟨?_, hfilled, fun row hrow => ?_⟩
  · intro c hc
    obtain ⟨e, he, rfl⟩ := List.mem_map.mp (declaredColumns_eq ▸ hc)
    exact hfrom.sized e he
  · -- a table with a row has a declared column, so head zero is not empty
    have hpos : 0 < (headEntries h.rows 0).length := by
      obtain ⟨-, -, halign⟩ := pivot_stages pivoted
      refine List.length_pos_iff.mpr fun hnone => ?_
      have hcolumns : declaredColumns h.rows = [] := by rw [declaredColumns, hnone]; rfl
      rw [hcolumns] at halign
      cases (alignRows_nil halign rfl) ▸ hrow
    rw [hfilled row hrow, hfrom.header, List.length_map, declaredColumns_eq, List.length_map,
      declaredHeads, List.length_drop, Nat.sub_add_cancel hpos]

theorem length_typeExprs (t : TextTable) : t.typeExprs.length = t.header.length := by
  rw [TextTable.typeExprs, List.length_map, List.length_zipIdx]

/-- The rows of a pivoted table are as wide as its header, as texts and as values. -/
theorem Pivots.rectangular (pivots : Pivots h t) {κ : Type} {line : TextRow → List κ}
    (wide : ∀ row, (line row).length = row.texts.length + 1) {τ : Type} {types : List τ}
    (typed : types.length = t.header.length) :
    Rectangular t.header types (t.rows.map line) := by
  refine ⟨typed, fun record hrecord => ?_⟩
  obtain ⟨row, hrow, rfl⟩ := List.mem_map.mp hrecord
  rw [wide, pivots.headed row hrow]

/-- The raw table of a pivot is made of its header, its types and its rows. -/
theorem Pivots.toRaw_madeOf (pivots : Pivots h t) :
    t.toRaw.MadeOf t.header t.typeExprs (t.rows.map gridTexts) :=
  ⟨rfl, rfl, rfl, pivots.rectangular (fun _ => rfl) (length_typeExprs t)⟩

/-- The typed table of a pivot is made of its header, the resolved types and the values of its rows. -/
theorem Pivots.toTyped_madeOf (pivots : Pivots h t) (made : t.toTyped registry = .ok typed) :
    ∃ types, registry.resolveAll t.typeExprs = .ok types ∧
      typed.MadeOf t.header types (t.rows.map gridValues) := by
  rw [TextTable.toTyped] at made
  split at made
  case h_1 => cases made
  case h_2 types htypes =>
    rw [← Except.ok.inj made]
    refine ⟨types, htypes, rfl, rfl, rfl, pivots.rectangular (fun row => ?_) ?_⟩
    · rw [gridValues, List.length_cons, List.length_map]
    · rw [Registry.length_of_resolveAll htypes, length_typeExprs]

/-! ## All stages -/

/-- The shape of every table that the compiler makes, stage by stage. -/
structure StageShapes (registry : Registry) : Prop where
  /-- The check of a table lets exactly the parts that fit through. -/
  checked : ∀ {τ κ : Type} (names : List String) (types : List τ) (records : List (List κ))
    (made : Table τ κ), Table.new names types records = .ok made ↔ made.MadeOf names types records
  /-- Rows of a grid are filled up, and none is cut. -/
  filled : ∀ names typeRow rows raw, RawTable.ofRows (names :: typeRow :: rows) = .ok raw ↔
    (typeRow.length ≤ names.length ∧ ∀ row ∈ rows, row.length ≤ names.length) ∧
      raw.MadeOf names (RawTable.pad names.length typeRow)
        (rows.map (RawTable.pad names.length))
  /-- Once they are filled up, they have the shape of a table. -/
  padded : ∀ names typeRow (rows : List (List String)), typeRow.length ≤ names.length →
    (∀ row ∈ rows, row.length ≤ names.length) →
      ∃ raw, RawTable.ofRows (names :: typeRow :: rows) = .ok raw
  /-- Nothing is looked up where nothing stands. -/
  inside : ∀ raw : RawTable, raw.LooksInside
  /-- Compaction makes a table of the columns that it picks. -/
  compacted : ∀ raw : RawTable,
    raw.compact.MadeOf (pick raw.plainColumns raw.names) (pick raw.plainColumns raw.types)
      (raw.retainedRows.map fun r => pick raw.plainColumns r.1)
  /-- Conversion makes a value of every cell. -/
  converted : ∀ raw types typed, TypedTable.convertWith raw types = .ok typed ↔
    ∃ records, Gridwise ColumnType.convertCell types raw.records records ∧
      typed.MadeOf raw.names types records
  /-- Types that are too few or too many are told, and values never come out ragged. -/
  refused : ∀ raw types,
    (∀ n m, TypedTable.convertWith raw types = .error (.columnCountMismatch n m) ↔
        types.length ≠ raw.names.length ∧ n = raw.names.length ∧ m = types.length) ∧
      ∀ row expected found,
        TypedTable.convertWith raw types ≠ .error (.raggedRecord row expected found)
  /-- The type row of a table gives a type for each column. -/
  resolved : ∀ raw typed, TypedTable.convert raw registry = .ok typed ↔
    ∃ types records, registry.resolveAll raw.types = .ok types ∧
      Gridwise ColumnType.convertCell types raw.records records ∧
      typed.MadeOf raw.names types records
  /-- Values stand in as many rows and columns as the cells. -/
  counted : ∀ raw types typed, TypedTable.convertWith raw types = .ok typed →
    typed.rowCount = raw.rowCount ∧ typed.columnCount = raw.columnCount
  /-- Dumping makes bytes of every value, in as many rows and columns. -/
  dumped : ∀ typed binary, BinaryTable.encode typed = .ok binary →
    Gridwise ColumnType.dumpValue typed.types typed.records binary.records ∧
      Rectangular binary.names binary.types binary.records ∧
      binary.rowCount = typed.rowCount ∧ binary.columnCount = typed.columnCount
  /-- A hash table is made of its rows. -/
  hashes : ∀ (h : HashTable) typed, h.toTyped registry = .ok typed →
    ∃ types, registry.resolveAll HashTable.typeExprs = .ok types ∧
      typed.MadeOf HashTable.fieldNames types (h.rows.map HashTable.rowValues)
  /-- A pivoted table is made of its rows, as texts and as values. -/
  pivoted : ∀ h t, TextTable.pivot h = .ok t → Pivots h t ∧
    t.toRaw.MadeOf t.header t.typeExprs (t.rows.map gridTexts) ∧
    ∀ typed, t.toTyped registry = .ok typed →
      ∃ types, registry.resolveAll t.typeExprs = .ok types ∧
        typed.MadeOf t.header types (t.rows.map gridValues)

theorem convert_eq_convertWith :
    TypedTable.convert raw registry = .ok typed ↔
      ∃ types, registry.resolveAll raw.types = .ok types ∧
        TypedTable.convertWith raw types = .ok typed := by
  rw [TypedTable.convert]
  cases registry.resolveAll raw.types with
  | error e =>
      constructor
      · intro h
        cases h
      · rintro ⟨types, htypes, -⟩
        cases htypes
  | ok types =>
      refine ⟨fun h => ⟨types, rfl, h⟩, ?_⟩
      rintro ⟨types', htypes, h⟩
      rwa [Except.ok.inj htypes]

/-- Conversion keeps the counts of rows and columns. -/
theorem counts_of_convertWith (converted : TypedTable.convertWith raw types = .ok typed) :
    typed.rowCount = raw.rowCount ∧ typed.columnCount = raw.columnCount := by
  obtain ⟨records, hgrid, made⟩ := convertWith_eq_ok_iff.mp converted
  constructor
  · rw [Table.rowCount, made.records_eq]
    exact hgrid.length_eq.symm
  · exact congrArg List.length made.names_eq

/-- Encoding keeps the counts of rows and columns. -/
theorem counts_of_encode (encoded : BinaryTable.encode typed = .ok binary) :
    binary.rowCount = typed.rowCount ∧ binary.columnCount = typed.columnCount := by
  obtain ⟨hnames, -, hgrid⟩ := encode_eq_ok_iff_gridwise.mp encoded
  refine ⟨hgrid.length_eq.symm, ?_⟩
  rw [BinaryTable.columnCount, hnames, List.length_map]
  rfl

/-- **EVERY TABLE IS RECTANGULAR**, and no cell is dropped on the way: at every stage the parts that are
put together fit, look-ups by position stay inside, and conversion and dumping go through all cells. -/
theorem tables_rectangular (registry : Registry) : StageShapes registry where
  -- one field for each constructor and stage, by the lemma of the stage
  checked := fun _ _ _ _ => Table.new_eq_ok_iff
  filled := fun _ _ _ _ => RawTable.ofRows_eq_ok_iff
  padded := fun _ _ _ => RawTable.exists_ofRows
  inside := RawTable.looksInside
  compacted := compact_madeOf
  converted := fun _ _ _ => convertWith_eq_ok_iff
  refused := convertWith_shape_error
  resolved := by
    intro raw typed
    simp only [convert_eq_convertWith, convertWith_eq_ok_iff, exists_and_left]
  counted := fun _ _ _ => counts_of_convertWith
  dumped := fun _ _ encoded =>
    ⟨(encode_eq_ok_iff_gridwise.mp encoded).2.2, rectangular_of_encode encoded,
      counts_of_encode encoded⟩
  hashes := fun _ _ => toTyped_madeOf
  pivoted := fun _ _ pivoted =>
    have pivots := pivots_of_pivot pivoted
    ⟨pivots, pivots.toRaw_madeOf, fun _ => pivots.toTyped_madeOf⟩

/-- A source with a short type row and a short record. -/
def shortRows : List (List String) :=
  [["id", "name", "$name[en]"], ["int", "str"], ["1", "Sword", "A sword"], ["2", "Shield"]]

/-- The table that it fills up to. -/
def filledRows : RawTable where
  names := ["id", "name", "$name[en]"]
  types := ["int", "str", ""]
  records := [["1", "Sword", "A sword"], ["2", "Shield", ""]]
  typed := rfl
  rectangular := by decide

/-- Short rows are filled up, and come through all stages with their counts. -/
theorem tables_rectangular_shortRows :
    RawTable.ofRows shortRows = .ok filledRows ∧
      filledRows.Spans 2 ∧
      ∃ types typed binary,
        Registry.builtin.resolveAll filledRows.compact.types = .ok types ∧
        TypedTable.convertWith filledRows.compact types = .ok typed ∧
        BinaryTable.encode typed = .ok binary ∧
        Gridwise ColumnType.dumpValue typed.types typed.records binary.records ∧
        Rectangular binary.names binary.types binary.records ∧
        binary.rowCount = 2 ∧ binary.columnCount = 2 ∧
        TypedTable.convertWith filledRows.compact [] = .error (.columnCountMismatch 2 0) := by
  have shapes := tables_rectangular Registry.builtin
  have filled : RawTable.ofRows shortRows = .ok filledRows :=
    (shapes.filled _ _ _ _).mpr ⟨by decide, rfl, rfl, rfl, rfl, by decide⟩
  have dumped : ∃ typed binary,
      TypedTable.convert filledRows.compact Registry.builtin = .ok typed ∧
        BinaryTable.encode typed = .ok binary := ⟨_, _, rfl, rfl⟩
  obtain ⟨typed, binary, hconvert, hencode⟩ := dumped
  obtain ⟨types, records, htypes, hgrid, made⟩ := (shapes.resolved _ _).mp hconvert
  have converted : TypedTable.convertWith filledRows.compact types = .ok typed :=
    (shapes.converted _ _ _).mpr ⟨records, hgrid, made⟩
  obtain ⟨hrows, hcolumns⟩ := shapes.counted _ _ _ converted
  obtain ⟨hcells, hshape, hbytes, hnames⟩ := shapes.dumped _ _ hencode
  exact ⟨filled, (shapes.inside filledRows).decorated ⟨2, "name", "en"⟩ (by decide), types, typed,
    binary, htypes, converted, hencode, hcells, hshape, hbytes.trans hrows, hnames.trans hcolumns,
    ((shapes.refused _ _).1 2 0).mpr ⟨by decide, rfl, rfl⟩⟩

end TableCompiler
