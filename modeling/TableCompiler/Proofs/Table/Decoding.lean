import TableCompiler.Proofs.Column.Decoding
import TableCompiler.Proofs.Table.Shape

/-!
# Decoding tables — what a binary table was made of

Names and type expressions stand in a binary table as they are, and every cell of a column that holds
values can be read back.  A record is decoded cell by cell with the columns that it was dumped with
(`readCells?_of_cellwise`), and a table record by record.  So the columns and the bytes determine the
table, of any shape (`encoding_loses_nothing`).
-/

namespace TableCompiler

open TableCompiler.Text

variable {registry : Registry} {types : List ColumnType} {raw : RawTable} {t : TypedTable}
variable {b : BinaryTable} {values : List Value} {bytes : List (List UInt8)}

/-- The values that the bytes of a record hold, one for each column. -/
def readCells? : List ColumnType → List (List UInt8) → Option (List Value)
  | [], [] => some []
  | type :: types, cell :: cells =>
    match type.readBytes? cell with
    | none => none
    | some v => (readCells? types cells).map (v :: ·)
  | _, _ => none

/-- The table that a binary table was made of, for columns that hold values. -/
def BinaryTable.decode? (types : List ColumnType) (b : BinaryTable) : Option TypedTable :=
  match b.names.mapM Utf8.decode, b.records.mapM (readCells? types) with
  | some names, some records => (Table.new names types records).toOption
  | _, _ => none

/-- Columns that get every value back that they made and dumped. -/
def ReadBack (types : List ColumnType) : Prop :=
  ∀ type ∈ types, ∀ text v bytes, type.convertCell text = .ok v →
    type.dumpValue v = .ok bytes → type.readBytes? bytes = some v

/-- A record that was converted and dumped is read back. -/
theorem readCells?_of_cellwise {cells : List String} (back : ReadBack types)
    (converted : Cellwise ColumnType.convertCell types cells values)
    (dumped : Cellwise ColumnType.dumpValue types values bytes) :
    readCells? types bytes = some values := by
  induction converted generalizing bytes with
  | nil =>
      cases dumped
      rfl
  | cons hconvert _ ih =>
      cases dumped with
      | cons hdump hrest =>
          have hfirst := back _ List.mem_cons_self _ _ _ hconvert hdump
          have htail := ih (fun type htype => back type (List.mem_cons_of_mem _ htype)) hrest
          rw [readCells?, hfirst, htail]
          rfl

theorem mapM_of_forall₂ {α β : Type} {f : α → Option β} {xs : List α} {ys : List β}
    (h : List.Forall₂ (fun x y => f x = some y) xs ys) : xs.mapM f = some ys := by
  induction h with
  | nil => rfl
  | cons hfirst _ ih => rw [List.mapM_cons, hfirst, ih]; rfl

/-- Records that were dumped are read back, value by value. -/
theorem readRecords_of_gridwise {cells : List (List String)} {records : List (List Value)}
    {dumps : List (List (List UInt8))} (back : ReadBack types)
    (converted : Gridwise ColumnType.convertCell types cells records)
    (dumped : Gridwise ColumnType.dumpValue types records dumps) :
    dumps.mapM (readCells? types) = some records := by
  refine mapM_of_forall₂ ?_
  induction converted generalizing dumps with
  | nil =>
      cases dumped
      exact .nil
  | cons hconvert _ ih =>
      cases dumped with
      | cons hdump hrest => exact .cons (readCells?_of_cellwise back hconvert hdump) (ih hrest)

/-- **A TABLE IS DECODED** from its bytes, if its columns get their values back. -/
theorem decode?_of_encode (back : ReadBack types)
    (converted : TypedTable.convertWith raw types = .ok t)
    (encoded : BinaryTable.encode t = .ok b) : BinaryTable.decode? types b = some t := by
  obtain ⟨records, hcells, made⟩ := convertWith_eq_ok_iff.mp converted
  obtain ⟨hnames, -, hbytes⟩ := encode_eq_ok_iff_gridwise.mp encoded
  rw [made.types_eq, made.records_eq] at hbytes
  have names : b.names.mapM Utf8.decode = some raw.names := by
    rw [hnames, made.names_eq, Utf8.mapM_decode_encode]
  have cells := readRecords_of_gridwise back hcells hbytes
  have whole : Table.new raw.names types records = .ok t := Table.new_eq_ok_iff.mpr made
  rw [BinaryTable.decode?, names, cells]
  simp only [whole]
  rfl

/-- The types of a type row are resolved one by one. -/
theorem resolve_of_mem {exprs : List String} (resolved : registry.resolveAll exprs = .ok types) :
    ∀ type ∈ types, ∃ expr, registry.resolve expr = .ok type := by
  rw [Registry.resolveAll, resolveFrom_eq_tryAll] at resolved
  have hall := tryAll_eq_ok_iff.mp resolved
  intro type htype
  obtain ⟨position, hlt, rfl⟩ := List.getElem_of_mem htype
  exact ⟨_, mapError_eq_ok_iff.mp (hall.get (hall.length_eq.symm ▸ hlt) hlt)⟩

/-- Resolved columns that hold values get them back. -/
theorem readBack_of_resolve (built : registry.Built)
    (resolved : ∀ type ∈ types, ∃ expr, registry.resolve expr = .ok type)
    (hold : ∀ type ∈ types, type.holdsValues = true) : ReadBack types := by
  intro type htype text v bytes converted dumped
  obtain ⟨expr, hexpr⟩ := resolved type htype
  exact readBytes?_of_dump built hexpr (hold type htype) converted dumped

/-- **ENCODING LOSES NOTHING** of columns that hold values: their tables are decoded from the bytes, so
tables of one encoding are one table. -/
theorem encoding_loses_nothing (built : registry.Built)
    (resolved : ∀ type ∈ types, ∃ expr, registry.resolve expr = .ok type)
    (hold : ∀ type ∈ types, type.holdsValues = true) :
    (∀ raw t b, TypedTable.convertWith raw types = .ok t → BinaryTable.encode t = .ok b →
        BinaryTable.decode? types b = some t) ∧
      ∀ raw raw' t t' b, TypedTable.convertWith raw types = .ok t →
        TypedTable.convertWith raw' types = .ok t' → BinaryTable.encode t = .ok b →
        BinaryTable.encode t' = .ok b → t = t' := by
  have back := readBack_of_resolve built resolved hold
  refine ⟨fun raw t b => decode?_of_encode back, ?_⟩
  intro raw raw' t t' b converted converted' encoded encoded'
  have decoded := decode?_of_encode back converted encoded
  exact Option.some.inj (decoded.symm.trans (decode?_of_encode back converted' encoded'))

/-- Columns of each kind that holds values. -/
def ledgerColumns : List ColumnType :=
  [⟨"int16:pk", .int, .i16, some "pk", none, .primary, .integer 10 .i16, .int .i16⟩,
   ⟨"uint64:hex", .uint, .u64, some "hex", none, .none, .integer 16 .u64, .int .u64⟩,
   gradeColumn,
   ⟨"str:utf16", .string, .unbounded, some "utf16", none, .none, .encoded .utf16 .strict,
     .text .utf16 .strict⟩,
   ⟨"str:ascii", .string, .unbounded, some "ascii", none, .none, .encoded .ascii .strict,
     .text .ascii .strict⟩,
   ⟨"date", .date, .unbounded, none, none, .none, .date, .canonicalText⟩,
   ⟨"datetime", .dateTime, .unbounded, none, none, .none, .dateTime, .canonicalText⟩,
   ⟨"time", .timeSpan, .unbounded, none, none, .none, .time, .canonicalText⟩]

/-- A day before the first year, a leap second, an hour of one digit, a character of two units. -/
def ledger : RawTable where
  names := ["id", "mask", "grade", "title", "code", "day", "moment", "hour"]
  types := ledgerColumns.map (·.expr)
  records := [["-7", "0xFF", "low", "둘 😀", "A-1", "-44-3-15", "2016-12-31 23:59:60", "7:05:09"]]
  typed := rfl
  rectangular := by decide

/-- A ledger with a column of each kind that is read back. -/
theorem encoding_loses_nothing_ledger :
    grades.Built ∧ (∀ type ∈ ledgerColumns, ∃ expr, grades.resolve expr = .ok type) ∧
      (∀ type ∈ ledgerColumns, type.holdsValues = true) ∧
      ∃ t b, TypedTable.convertWith ledger ledgerColumns = .ok t ∧
        BinaryTable.encode t = .ok b ∧ BinaryTable.decode? ledgerColumns b = some t := by
  have resolved : grades.resolveAll (ledgerColumns.map (·.expr)) = .ok ledgerColumns := rfl
  have hold : ∀ type ∈ ledgerColumns, type.holdsValues = true := by decide
  have made : ∃ t b, TypedTable.convertWith ledger ledgerColumns = .ok t ∧
      BinaryTable.encode t = .ok b := ⟨_, _, rfl, rfl⟩
  obtain ⟨t, b, converted, encoded⟩ := made
  have lossless := encoding_loses_nothing grades_built (resolve_of_mem resolved) hold
  exact ⟨grades_built, resolve_of_mem resolved, hold, t, b, converted, encoded,
    lossless.1 _ _ _ converted encoded⟩

end TableCompiler
