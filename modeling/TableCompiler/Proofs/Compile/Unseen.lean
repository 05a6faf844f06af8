import TableCompiler.Proofs.Compile.LocalizationStage
import TableCompiler.Proofs.Table.Edits

/-!
# Unseen edits — what is there for people alone does not change what is compiled

Compaction and localization read the source apart from each other, and each finds its own plain columns,
key columns and records that count.  Both read no more than what an edit leaves (`StandsIn`): compaction
gives the same table with another map back to the source (`compact_eq`, `locate_eq`), and extraction the
same rows (`extract_eq`).  So the outcome is the same, be it a compiled table or an error, and only the
place in an error moves along (`compile_of_edits`).
-/

namespace TableCompiler

open TableCompiler.Localization TableCompiler.RawTable

variable {raw raw' : RawTable} {m n : Moves} {registry : Registry} {e : TableError}

/-! ## Moved errors -/

/-- Takes the place in a compile error along; errors of the localization have none. -/
def CompileError.moved (m : Moves) : CompileError → CompileError
  | .table name e => .table name (e.moved m)
  | .localization name e => .localization name e

theorem TableError.moved_stay (e : TableError) : e.moved .stay = e := by
  cases e with
  | type source => cases source <;> rfl
  | _ => rfl

theorem TableError.moved_moved (e : TableError) : (e.moved m).moved n = e.moved (m.andThen n) := by
  cases e with
  | type source => cases source <;> rfl
  | _ => rfl

theorem CompileError.moved_stay (e : CompileError) : e.moved .stay = e := by
  cases e with
  | table name e => exact congrArg _ e.moved_stay
  | localization name e => rfl

theorem CompileError.moved_moved (e : CompileError) :
    (e.moved m).moved n = e.moved (m.andThen n) := by
  cases e with
  | table name e => exact congrArg _ e.moved_moved
  | localization name e => rfl

namespace RawTable.StandsIn

variable (stands : StandsIn raw raw' m)
include stands

/-! ## The table stage -/

/-- The plain cells of a record are the same ones in their new places. -/
theorem pick_eq {cells cells' : List String}
    (same : ∀ col ∈ raw.plainColumns, cells'.getD (m.col col) "" = cells.getD col "") :
    pick raw'.plainColumns cells' = pick raw.plainColumns cells := by
  rw [pick, pick, stands.plain, List.map_map]
  exact List.map_congr_left same

/-- **COMPACTION** gives the same table. -/
theorem compact_eq : raw'.compact = raw.compact := by
  obtain ⟨carry, hrows, hcarry⟩ := stands.retained
  refine Table.ext ?_ ?_ ?_
  · exact stands.pick_eq fun col _ => stands.names col
  · exact stands.pick_eq stands.types
  · show raw'.retainedRows.map (fun r => pick raw'.plainColumns r.1)
      = raw.retainedRows.map fun r => pick raw.plainColumns r.1
    rw [hrows, List.map_map]
    exact List.map_congr_left fun r _ => stands.pick_eq fun col _ => hcarry r col

/-- The source map tells the new places. -/
theorem sourceMap_eq :
    raw'.sourceMap = ⟨raw.sourceMap.rows.map m.row, raw.sourceMap.cols.map m.col⟩ := by
  obtain ⟨carry, hrows, -⟩ := stands.retained
  rw [sourceMap, sourceMap, hrows, stands.plain, List.map_map, List.map_map]
  rfl

/-- The place in an error of the compacted table is moved in the source. -/
theorem locate_eq (within : e.Within raw.compact.rowCount raw.compact.columnCount) :
    raw'.sourceMap.locate e = (raw.sourceMap.locate e).moved m := by
  have hrow : ∀ row < raw.compact.rowCount,
      raw'.sourceMap.rowOf row = m.row (raw.sourceMap.rowOf row) := by
    intro row hlt
    have hin : row < raw.sourceMap.rows.length := by
      rwa [sourceMap, List.length_map, ← List.length_map]
    simp [stands.sourceMap_eq, SourceMap.rowOf, hin]
  have hcol : ∀ col < raw.compact.columnCount,
      raw'.sourceMap.colOf col = m.col (raw.sourceMap.colOf col) := by
    intro col hlt
    have hin : col < raw.sourceMap.cols.length := by
      rwa [sourceMap, ← length_pick raw.plainColumns raw.names]
    simp [stands.sourceMap_eq, SourceMap.colOf, hin]
  -- places within the compact table are looked up in the map, others are told as they are
  cases e with
  | fieldConversion row col failure =>
      rw [SourceMap.locate, SourceMap.locate, hrow row within.1, hcol col within.2]
      rfl
  | dump row col source =>
      rw [SourceMap.locate, SourceMap.locate, hrow row within.1, hcol col within.2]
      rfl
  | type source =>
      cases source with
      | column col source =>
          rw [SourceMap.locate, SourceMap.locate, hcol col within]
          rfl
      | _ => rfl
  | _ => rfl

/-- The cells compile alike, up to the places in an error. -/
theorem compileCells_eq :
    compileCells raw' registry = (compileCells raw registry).mapError (TableError.moved m) := by
  rw [compileCells, compileCells, stands.compact_eq]
  cases hconvert : TypedTable.convert raw.compact registry with
  | error e => exact congrArg Except.error (stands.locate_eq (within_of_convert hconvert))
  | ok typed =>
      dsimp only
      cases hencode : BinaryTable.encode typed with
      | ok binary => rfl
      | error e =>
          -- the converted table has the rows and columns of the compacted one
          obtain ⟨-, hrecords, hnames⟩ := convert_eq_ok_iff.mp hconvert
          have hwithin := within_of_encode hencode
          rw [convertRecords_eq_tryAll] at hrecords
          rw [Table.rowCount, ← (tryAll_eq_ok_iff.mp hrecords).length_eq, List.length_zipIdx,
            Table.columnCount, hnames] at hwithin
          exact congrArg Except.error (stands.locate_eq hwithin)

/-! ## The localization stage -/

/-- The column of keys is the same one in its new place. -/
theorem keyColumn?_eq {column : DecoratedColumn} (word : isPlainField column.field = true) :
    keyColumn? raw' (m.column column) = (keyColumn? raw column).map m.col := by
  have hindex : raw'.columnIndex? (m.column column).field
      = (raw.columnIndex? column.field).map m.col := stands.named column.field word
  rw [keyColumn?, keyColumn?, hindex, firstPlain?_eq_head?, firstPlain?_eq_head?, stands.plain,
    List.head?_map]
  cases raw.columnIndex? column.field <;> rfl

/-- A column gives the same rows, wherever it and its key column stand. -/
theorem columnRows_eq (column : DecoratedColumn) (key : Nat) :
    columnRows raw' (m.column column) (m.col key) = columnRows raw column key := by
  obtain ⟨carry, hrows, hcarry⟩ := stands.retained
  rw [columnRows, columnRows, retainedRecords_eq, retainedRecords_eq, hrows, List.map_map,
    List.flatMap_map, List.flatMap_map]
  refine List.flatMap_congr fun r _ => ?_
  show recordRows (m.column column) (m.col key) (carry r) = recordRows column key r.1
  rw [recordRows, recordRows, hcarry, Moves.column, hcarry]

/-- The decorated columns give the same rows. -/
theorem pushColumns_eq {columns : List DecoratedColumn}
    (words : ∀ column ∈ columns, isPlainField column.field = true) (rows : List HashRow) :
    pushColumns raw' rows (columns.map m.column) = pushColumns raw rows columns := by
  induction columns generalizing rows with
  | nil => rfl
  | cons column rest ih =>
      have hrest := ih fun c hc => words c (List.mem_cons_of_mem column hc)
      have hlocale : localeRow (m.column column) = localeRow column := rfl
      have hname : raw'.names.getD (m.column column).index "" = raw.names.getD column.index "" :=
        stands.names column.index
      rw [List.map_cons, pushColumns, pushColumns, hlocale, hname,
        stands.keyColumn?_eq (words column List.mem_cons_self)]
      -- the row of the locale is the same, and so is the key column in its new place
      cases pushRow rows (localeRow column) with
      | error e => rfl
      | ok next =>
          cases keyColumn? raw column with
          | none => rfl
          | some key =>
              simp only [Option.map_some, stands.columnRows_eq, hrest]

/-- **EXTRACTION** gives the same rows, or the same error. -/
theorem extract_eq : HashTable.extract raw' = HashTable.extract raw := by
  have hlocales : distinctLocales (decoratedColumns raw'.names)
      = distinctLocales (decoratedColumns raw.names) := by
    rw [distinctLocales_eq, distinctLocales_eq, stands.decorated, List.map_map]
    rfl
  have hpush : ∀ rows, pushColumns raw' rows (decoratedColumns raw'.names)
      = pushColumns raw rows (decoratedColumns raw.names) := by
    intro rows
    rw [stands.decorated]
    exact stands.pushColumns_eq (fun column hc => isPlainField_field hc) rows
  simp only [HashTable.extract, hpush, hlocales]

/-- The localization is the same, errors and all. -/
theorem localize_eq (name : String) :
    localize name raw' registry = localize name raw registry := by
  rw [localize, localize, stands.extract_eq]

/-! ## Both stages -/

/-- One outcome is the other with its place moved.  What the localization stage reports has no place, as
the types of a hash table are in every registry. -/
theorem compile_eq (built : registry.Built) (name : String) :
    compile name raw' registry
      = (compile name raw registry).mapError (CompileError.moved m) := by
  rw [compile, compile, stands.compileCells_eq, stands.localize_eq]
  cases compileCells raw registry with
  | error e => rfl
  | ok cells =>
      cases hlocalize : localize name raw registry with
      | ok localization? => rfl
      | error e =>
          rcases (localize_eq_error_iff built).mp hlocalize with
            ⟨e', -, rfl⟩ | ⟨h, e', -, -, -, rfl⟩ <;> rfl

end RawTable.StandsIn

/-! ## Edits -/

/-- **UNSEEN EDITS**: after any number of edits that are there for people alone a source compiles to what
it compiled to before, or fails with the error that it failed with before, at the place to which the
edits have moved it. -/
theorem compile_of_edits (built : registry.Built) (edits : Edits raw raw' m) (name : String) :
    compile name raw' registry
      = (compile name raw registry).mapError (CompileError.moved m) := by
  induction edits with
  | none =>
      have hstay : (CompileError.moved .stay) = id := funext CompileError.moved_stay
      rw [hstay]
      cases compile name raw registry <;> rfl
  | more _ edit ih =>
      rw [edit.standsIn.compile_eq built, ih, mapError_mapError]
      congr 1
      funext e
      exact e.moved_moved

/-- The misgraded items with a remark column, one more comment and no type for the locale. -/
def annotatedItems : RawTable where
  names := ["#memo", "id", "$name[en]", "name", "grade"]
  types := ["remark", "int:pk", "", "str:key", "uint8"]
  records := [["for later", "# retired", "", "", ""], ["", "#1", "Old", "OLD", "900"],
    ["", "2", "Sword", "SWORD", "7"], ["", "3", "Shield", "SHIELD", "700"],
    ["", "four", "Bow", "BOW", "-1"]]
  typed := rfl
  rectangular := by decide

/-- A column and a record of notes are put in front. -/
theorem edits_annotatedItems :
    Edits misgradedItems annotatedItems ⟨shiftFrom 0, shiftFrom 0⟩ := by
  let remarked := misgradedItems.insertColumn 0 "#memo" "remark" fun _ => ""
  have comment : Skips remarked ["for later", "# retired", "", "", ""] := by
    intro first hfirst
    obtain rfl : 1 = first := Option.some.inj hfirst
    exact ⟨"# retired", rfl, .inr rfl⟩
  have sized : ["for later", "# retired", "", "", ""].length = remarked.names.length := rfl
  let commented := remarked.insertRecord 0 _ sized
  have decorated : ¬IsPlain commented 2 := by
    rintro ⟨name, hname, hplain⟩
    obtain rfl := Option.some.inj hname
    exact absurd hplain (by decide)
  have remark : Edit misgradedItems remarked ⟨id, shiftFrom 0⟩ := .column 0 "remark" _ rfl rfl
  have retire : Edit remarked commented ⟨shiftFrom 0, id⟩ := .record 0 sized comment
  have untype : Edit commented annotatedItems .stay := .type "" decorated
  exact .more (.more (.more .none remark) retire) untype

/-- The fault of the items is told one row and one column further on. -/
theorem compile_of_edits_annotatedItems :
    Registry.builtin.Built ∧
      Edits misgradedItems annotatedItems ⟨shiftFrom 0, shiftFrom 0⟩ ∧
      compile "items" annotatedItems Registry.builtin
        = .error (.table "items" (.fieldConversion 3 4 ⟨.overflow, "700", "> 255"⟩)) :=
  ⟨.builtin, edits_annotatedItems,
    (compile_of_edits .builtin edits_annotatedItems "items").trans rfl⟩

end TableCompiler
