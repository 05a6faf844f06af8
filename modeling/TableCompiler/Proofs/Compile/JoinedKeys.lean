import TableCompiler.Proofs.Column.AdlerKeys
import TableCompiler.Proofs.Compile.LocalizationStage
import TableCompiler.Proofs.Localization.Decoration

/-!
# Joined keys — the cells by which a table and its localization are joined

A table and its localization are made of one source in two ways: the table is compacted, converted
and dumped, and the texts are filed under the hashes of their keys and dumped on their own.  Where a
key column is hashed with Adler-32, the bytes of its cell are those under which the texts of the same
record are filed (`key_cells_join`), so a program finds them by the bytes that it has.  Which columns
these are can be read off their type expressions (`joinsKeys_of_hashesAdler`).
-/

namespace TableCompiler

open TableCompiler.Localization TableCompiler.RawTable

variable {raw : RawTable} {registry : Registry} {name expr : String} {key : Nat} {t : ColumnType}
variable {typed : TypedTable} {binary : BinaryTable} {column : DecoratedColumn}

/-! ## The cells of a compiled table -/

/-- **COMPILED CELLS** are the cells of the source that count, each converted and dumped in its
place. -/
theorem dumpPlaces_of_compileCells (h : compileCells raw registry = .ok (typed, binary)) :
    dumpPlaces raw registry = .ok binary.records := by
  obtain ⟨hconvert, hencode⟩ := compileCells_eq_ok_iff.mp h
  obtain ⟨hresolve, hrecords, -⟩ := convert_eq_ok_iff.mp hconvert
  -- stage by stage, what is made of the compacted table is made of the cells in their places
  have hcolumns : resolveColumns raw registry = .ok typed.types := by
    rw [← located_resolveAll, hresolve]
    rfl
  have hplaces : convertPlaces raw registry = .ok typed.records := by
    rw [← located_convertRecords hcolumns, hrecords]
    rfl
  rw [← located_dumpRecords hcolumns hplaces, (encode_eq_ok_iff.mp hencode).1]
  rfl

/-- A column that hashes with Adler-32 dumps the checksum of its text. -/
theorem dumpPlace_adler (built : registry.Built)
    (resolved : registry.resolve (raw.types.getD key "") = .ok t)
    (hashes : t.convert = .hash .adler32) (r : List String × Nat) :
    dumpPlace raw registry r key = .ok (Hash.wordLittle (KeyHash.adler (r.1.getD key ""))) := by
  have htype := resolvePlace_eq_ok_iff.mpr resolved
  have hconvert : convertPlace raw registry r key
      = .ok (.uint (KeyHash.adler (r.1.getD key "")).toUInt64) := by
    rw [convertPlace_of_resolved htype, ColumnType.convertCell, hashes]
    rfl
  rw [dumpPlace_of_converted htype hconvert]
  simp only [ColumnType.dumpValue, dump_of_adler built resolved hashes, dumpInteger_wordLittle]
  rfl

/-! ## The rows of a compiled localization -/

/-- The localization is dumped row by row as its words and texts. -/
theorem LocalizedFrom.records_eq (built : registry.Built) {h : HashTable}
    {l : CompiledLocalization} (made : LocalizedFrom registry h l) :
    l.binary.records = h.rows.map hashRowBytes := by
  have hvalues := Except.ok.inj ((toTyped_eq_values built h).symm.trans made.typed)
  have hbytes := made.encoded
  rw [← hvalues, encode_values] at hbytes
  rw [← Except.ok.inj hbytes]
  rfl

/-- A record is filed under the hash of its key text, for the word for keys and for the locale. -/
theorem filed_of_localize {l : CompiledLocalization} {record : List String}
    (built : registry.Built) (localized : localize name raw registry = .ok (some l))
    (mem : column ∈ decoratedColumns raw.names) (found : keyColumn? raw column = some key)
    (retained : record ∈ raw.retainedRecords) :
    hashRowBytes ⟨KeyHash.adler keyWord, KeyHash.adler (record.getD key ""), record.getD key ""⟩
        ∈ l.binary.records ∧
      hashRowBytes ⟨KeyHash.adler column.locale, KeyHash.adler (record.getD key ""),
        record.getD column.index ""⟩ ∈ l.binary.records := by
  obtain ⟨hashed, hextract, h | ⟨-, l', hl', made⟩⟩ := localize_ok localized
  · exact nomatch h.2
  obtain rfl := Option.some.inj hl'
  obtain ⟨-, -, rfl⟩ := extract_eq_ok_iff.mp hextract
  have hkeyText : keyText raw column record = record.getD key "" := by rw [keyText, found]
  rw [made.records_eq built, ← hkeyText]
  exact ⟨List.mem_map_of_mem (keyRow_mem mem retained),
    List.mem_map_of_mem (textRow_mem mem retained)⟩

/-! ## The join -/

/-- A compiled table has a row for each record that counts, and in every row the cell of a key column
is four bytes, under which a compiled localization files the key text of that record and its text in a
decorated column. -/
def JoinsKeys (raw : RawTable) (column : DecoratedColumn) (key : Nat) (table texts : BinaryTable) :
    Prop :=
  ∃ position : Nat, raw.sourceMap.cols[position]? = some key ∧
    table.records.length = raw.sourceMap.rows.length ∧
    ∀ (i : Nat) (cells : List (List UInt8)), table.records[i]? = some cells →
      ∃ (row : Nat) (record : List String) (keyed text : String) (cell : List UInt8),
        raw.sourceMap.rows[i]? = some row ∧ raw.records[row]? = some record ∧
        record[key]? = some keyed ∧ record[column.index]? = some text ∧
        cells[position]? = some cell ∧ cell.length = 4 ∧
        [Hash.wordLittle (KeyHash.adler keyWord), cell, Text.Utf8.encode keyed] ∈ texts.records ∧
        [Hash.wordLittle (KeyHash.adler column.locale), cell, Text.Utf8.encode text]
          ∈ texts.records

/-- **KEYS JOIN** on every column whose type expression is one of those that hash with Adler-32. -/
theorem joinsKeys_of_hashesAdler {c : CompiledTable} {l : CompiledLocalization} {parts : TypeExpr}
    (built : registry.Built) (compiled : compile name raw registry = .ok c)
    (localized : c.localization? = some l) (mem : column ∈ decoratedColumns raw.names)
    (found : keyColumn? raw column = some key) (typed : raw.types[key]? = some expr)
    (parsed : TypeExpr.parse expr = .ok parts) (listed : parts.HashesAdler) :
    JoinsKeys raw column key c.binary l.binary := by
  obtain ⟨t, resolved, hashes⟩ := (resolves_to_adler_iff built parsed).mpr listed
  obtain ⟨-, hcells, hlocalize⟩ := compile_ok compiled
  rw [localized] at hlocalize
  have hplain := isPlain_of_keyColumn? mem found
  have hexpr : raw.types.getD key "" = expr := by
    rw [List.getD_eq_getElem?_getD, typed, Option.getD_some]
  obtain ⟨position, hposition⟩ := List.mem_iff_getElem?.mp (mem_plainColumns.mpr hplain)
  have hrecords := tryAll_eq_ok_iff.mp (dumpPlaces_of_compileCells hcells)
  have hlength : c.binary.records.length = raw.sourceMap.rows.length := by
    rw [← hrecords.length_eq, sourceMap, List.length_map]
  refine ⟨position, hposition, hlength, fun i cells hi => ?_⟩
  obtain ⟨r, hr, hrow⟩ := forall₂_getElem? hrecords hi
  -- the record behind this row is one that extraction goes through as well
  obtain ⟨hrecord, hretained⟩ := mem_retainedRows.mp (List.mem_of_getElem? hr)
  have hmem := List.mem_of_getElem? hrecord
  have sized := raw.rectangular r.1 hmem
  have hplace : raw.sourceMap.rows[i]? = some r.2 := by
    rw [sourceMap, List.getElem?_map, hr]
    rfl
  obtain ⟨cell, hcell, hdump⟩ := forall₂_getElem? (tryAll_eq_ok_iff.mp hrow).flip hposition
  have hadler := dumpPlace_adler built (hexpr.symm ▸ resolved) hashes r
  obtain rfl := Except.ok.inj (hadler.symm.trans hdump)
  obtain ⟨hkey, htext⟩ := filed_of_localize built hlocalize mem found
    (List.mem_filter.mpr ⟨hmem, hretained⟩)
  exact ⟨r.2, r.1, _, _, _, hplace, hrecord, hplain.getElem?_eq_getD sized,
    getElem?_index_eq_getD mem sized, hcell, length_wordLittle _, hkey, htext⟩

/-- **KEYS JOIN**: a table and its localization join on every key column that hashes with Adler-32. -/
theorem key_cells_join {c : CompiledTable} {l : CompiledLocalization} (built : registry.Built)
    (compiled : compile name raw registry = .ok c) (localized : c.localization? = some l)
    (mem : column ∈ decoratedColumns raw.names) (found : keyColumn? raw column = some key)
    (typed : raw.types[key]? = some expr) (resolved : registry.resolve expr = .ok t)
    (hashes : t.convert = .hash .adler32) : JoinsKeys raw column key c.binary l.binary := by
  obtain ⟨parts, _, _, parsed, -⟩ := resolve_eq_ok_iff.mp resolved
  have listed : parts.HashesAdler :=
    (resolves_to_adler_iff built parsed).mp ⟨t, resolved, hashes⟩
  exact joinsKeys_of_hashesAdler built compiled localized mem found typed parsed listed

/-- Notes in one locale, keyed by the item that they are on; one of them is a comment. -/
def itemNotes : RawTable where
  names := ["#memo", "item", "$item[en]"]
  types := ["", "str:fk:item", "str"]
  records := [["", " SWORD", "A blade."], ["", "# BOW", ""], ["new", "SHIELD", "# none"]]
  typed := rfl
  rectangular := by decide

/-- The type of a foreign key to items. -/
def itemColumn : ColumnType :=
  ⟨"str:fk:item", .string, .u32, some "fk", some "item", .foreign (some "item"), .hash .adler32,
    .int .u32⟩

/-- Notes that are keyed by a foreign key of items. -/
theorem key_cells_join_itemNotes :
    ∃ c l, Registry.builtin.Built ∧ compile "notes" itemNotes Registry.builtin = .ok c ∧
      c.localization? = some l ∧ ⟨2, "item", "en"⟩ ∈ decoratedColumns itemNotes.names ∧
      keyColumn? itemNotes ⟨2, "item", "en"⟩ = some 1 ∧
      itemNotes.types[1]? = some "str:fk:item" ∧
      Registry.builtin.resolve "str:fk:item" = .ok itemColumn ∧
      itemColumn.convert = .hash .adler32 ∧
      JoinsKeys itemNotes ⟨2, "item", "en"⟩ 1 c.binary l.binary := by
  obtain ⟨c, l, compiled, localized⟩ : ∃ c l,
      compile "notes" itemNotes Registry.builtin = .ok c ∧ c.localization? = some l :=
    ⟨_, _, rfl, rfl⟩
  have mem : ⟨2, "item", "en"⟩ ∈ decoratedColumns itemNotes.names := by decide
  have resolved : Registry.builtin.resolve "str:fk:item" = .ok itemColumn := rfl
  exact ⟨c, l, .builtin, compiled, localized, mem, rfl, rfl, resolved, rfl,
    key_cells_join .builtin compiled localized mem rfl rfl resolved rfl⟩

end TableCompiler
