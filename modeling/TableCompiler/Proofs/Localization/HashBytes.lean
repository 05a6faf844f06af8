import TableCompiler.Localization.TextTable
import TableCompiler.Proofs.Column.Word
import TableCompiler.Proofs.Table.Conversion

/-!
# Hash tables as values and as bytes

The columns of a hash table are of built-in types, which no registration changes, and its words fit
them.  So a hash table has the same values under every registry (`toTyped_eq_values`), and these are
always dumped, to its words and texts as they are (`encode_values`).
-/

namespace TableCompiler

open TableCompiler.Localization

variable {registry : Registry}

/-! ## Columns and rows -/

/-- The type of the heads and hashes of a hash table. -/
def hashColumn : ColumnType :=
  ⟨"uint32", .uint, .u32, none, none, .none, .integer 10 .u32, .int .u32⟩

/-- The type of the texts of a hash table. -/
def hashedTextColumn : ColumnType :=
  ⟨"str:utf8", .string, .unbounded, some "utf8", none, .none, .encoded .utf8 .strict,
    .text .utf8 .strict⟩

/-- The columns of a hash table. -/
def hashTableColumns : List ColumnType :=
  [hashColumn, hashColumn, hashedTextColumn]

/-- The types of a hash table are built in, so every registry resolves them to the same columns. -/
theorem resolveAll_hashTable (built : registry.Built) :
    registry.resolveAll HashTable.typeExprs = .ok hashTableColumns := by
  have hword : registry.resolve "uint32" = .ok hashColumn := resolve_of_builtin built rfl
  have htext : registry.resolve "str:utf8" = .ok hashedTextColumn := resolve_of_builtin built rfl
  rw [Registry.resolveAll, HashTable.typeExprs]
  simp only [Registry.resolveFrom, hword, htext]
  rfl

/-- A row of a hash table as bytes. -/
def hashRowBytes (h : HashRow) : List (List UInt8) :=
  [Hash.wordLittle h.head, Hash.wordLittle h.hash, Text.Utf8.encode h.text]

/-- A row is dumped as its two words and the bytes of its text. -/
theorem dumpCells_hashRow (row : Nat) (h : HashRow) :
    dumpCells row 0 hashTableColumns (HashTable.rowValues h) = .ok (hashRowBytes h) := by
  simp only [hashTableColumns, hashColumn, hashedTextColumn, HashTable.rowValues, dumpCells,
    ColumnType.dumpValue, dumpInteger_wordLittle]
  rfl

/-- The rows are dumped one by one, and none fails. -/
theorem dumpRecords_hashTable (rows : List HashRow) :
    dumpRecords hashTableColumns 0 (rows.map HashTable.rowValues) = .ok (rows.map hashRowBytes) :=
  dumpRecords_map (fun h _ row => dumpCells_hashRow row h) 0

/-! ## Tables -/

namespace Localization

theorem length_hashTableColumns : hashTableColumns.length = HashTable.fieldNames.length := rfl

/-- Each of its records has a value for each name. -/
theorem length_of_mem_values (h : HashTable) :
    ∀ record ∈ h.rows.map HashTable.rowValues, record.length = HashTable.fieldNames.length := by
  intro record hrecord
  obtain ⟨row, -, rfl⟩ := List.mem_map.mp hrecord
  rfl

/-- The values of a hash table, whatever is registered. -/
def HashTable.values (h : HashTable) : TypedTable where
  names := HashTable.fieldNames
  types := hashTableColumns
  records := h.rows.map HashTable.rowValues
  typed := length_hashTableColumns
  rectangular := length_of_mem_values h

/-- The bytes of a hash table, whatever is registered. -/
def HashTable.bytes (h : HashTable) : BinaryTable :=
  ⟨HashTable.fieldNames.map Text.Utf8.encode, hashTableColumns.map fun c => Text.Utf8.encode c.expr,
    h.rows.map hashRowBytes⟩

/-- **ONE TABLE UNDER EVERY REGISTRY**: the values of a hash table are those of its rows. -/
theorem toTyped_eq_values (built : registry.Built) (h : HashTable) :
    h.toTyped registry = .ok h.values := by
  rw [HashTable.toTyped]
  split
  case h_1 e htypes => cases htypes.symm.trans (resolveAll_hashTable built)
  case h_2 types htypes =>
    obtain rfl := Except.ok.inj (htypes.symm.trans (resolveAll_hashTable built))
    rfl

/-- **HASH TABLES ARE ALWAYS WRITTEN**, and their bytes are those of their rows. -/
theorem encode_values (h : HashTable) : BinaryTable.encode h.values = .ok h.bytes :=
  encode_eq_ok_iff.mpr ⟨dumpRecords_hashTable h.rows, rfl, rfl⟩

end Localization

end TableCompiler
