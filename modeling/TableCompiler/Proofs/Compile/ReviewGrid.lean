import TableCompiler.Proofs.Compile.LocalizationStage
import TableCompiler.Proofs.Localization.Decoration
import TableCompiler.Proofs.Table.Compaction

/-!
# The review grid — a text table as a source

A text table can be kept as a source: its hashes in decimal, its texts as they are, and a type row.
All its names are words, so no column is left out and none is decorated, and every record starts with a
digit, so none is taken for a comment, whatever its texts look like (`whole_toRaw`).  Compiled again,
the source gives the values of the text table and nothing else (`compile_toRaw`).
-/

namespace TableCompiler

open TableCompiler.Localization

variable {raw : RawTable} {registry : Registry} {name : String} {t : TextTable}
variable {typed : TypedTable} {binary : BinaryTable}

/-! ## Sources with nothing to leave out -/

namespace RawTable.Whole

variable (whole : raw.Whole)
include whole

/-- A review grid decorates no column, so it has no localization of its own. -/
theorem localize_eq (name : String) (registry : Registry) :
    localize name raw registry = .ok none :=
  localize_of_undecorated (decoratedColumns_eq_nil whole.plain)

/-- What is converted and dumped as it stands compiles to that and has no localization. -/
theorem compile_eq (converted : TypedTable.convert raw registry = .ok typed)
    (dumped : BinaryTable.encode typed = .ok binary) :
    compile name raw registry = .ok ⟨name, typed, binary, none⟩ := by
  rw [compile, compileCells, whole.compact_eq.1, converted]
  simp only [dumped, whole.localize_eq]

end RawTable.Whole

/-! ## The columns of the grid -/

/-- The type of texts without attributes. -/
def textColumn : ColumnType :=
  ⟨"str", .string, .unbounded, none, none, .none, .text, .text .utf8 .strict⟩

/-- A column of hashes and columns of texts behind it. -/
def gridColumns (width : Nat) : List ColumnType :=
  hashColumn :: List.replicate width textColumn

/-- A review grid has a column of words and then columns of texts. -/
theorem typeExprs_eq {width : Nat} (sized : t.header.length = width + 1) :
    t.typeExprs = "uint32" :: List.replicate width "str" := by
  cases hheader : t.header with
  | nil =>
      rw [hheader] at sized
      cases sized
  | cons first rest =>
      rw [hheader, List.length_cons] at sized
      -- only the first column stands at position zero
      have hrest : (rest.zipIdx 1).map (fun c => if c.2 = 0 then "uint32" else "str")
          = List.replicate width "str" := by
        rw [← Nat.succ.inj sized, ← List.length_zipIdx (i := 1), List.map_eq_replicate_iff]
        intro c hc
        exact if_neg (Nat.ne_of_gt (List.le_snd_of_mem_zipIdx hc))
      rw [TextTable.typeExprs, hheader, List.zipIdx_cons, List.map_cons, hrest]
      rfl

theorem resolveFrom_str (built : registry.Built) (col width : Nat) :
    registry.resolveFrom col (List.replicate width "str")
      = .ok (List.replicate width textColumn) := by
  have htext : registry.resolve "str" = .ok textColumn := resolve_of_builtin built rfl
  induction width generalizing col with
  | zero => rfl
  | succ width ih =>
      rw [List.replicate_succ, Registry.resolveFrom, htext, List.replicate_succ]
      simp only [ih]
      rfl

/-- These columns resolve alike under every registry. -/
theorem resolveAll_typeExprs (built : registry.Built) {width : Nat}
    (sized : t.header.length = width + 1) :
    registry.resolveAll t.typeExprs = .ok (gridColumns width) := by
  have hword : registry.resolve "uint32" = .ok hashColumn := resolve_of_builtin built rfl
  rw [typeExprs_eq sized, Registry.resolveAll, Registry.resolveFrom, hword]
  simp only [resolveFrom_str built]
  rfl

/-! ## The cells of the grid -/

/-- A row of the grid as source texts, as values and as bytes. -/
def gridTexts (row : TextRow) : List String :=
  toString row.hash.toNat :: row.texts

def gridValues (row : TextRow) : List Value :=
  .uint row.hash.toUInt64 :: row.texts.map .text

def gridBytes (row : TextRow) : List (List UInt8) :=
  Hash.wordLittle row.hash :: row.texts.map Text.Utf8.encode

/-- A word that is shown in digits is read back. -/
theorem convertCell_hashColumn (x : UInt32) :
    hashColumn.convertCell (toString x.toNat) = .ok (.uint x.toUInt64) :=
  convertInteger_word x

theorem dumpValue_hashColumn (x : UInt32) :
    hashColumn.dumpValue (.uint x.toUInt64) = .ok (Hash.wordLittle x) :=
  dumpInteger_wordLittle x

theorem convertCells_texts (row col : Nat) (texts : List String) :
    convertCells row col (List.replicate texts.length textColumn) texts
      = .ok (texts.map .text) := by
  induction texts generalizing col with
  | nil => rfl
  | cons text rest ih =>
      rw [List.length_cons, List.replicate_succ, convertCells]
      exact congrArg (Except.map (Value.text text :: ·)) (ih (col + 1))

theorem dumpCells_texts (row col : Nat) (texts : List String) :
    dumpCells row col (List.replicate texts.length textColumn) (texts.map .text)
      = .ok (texts.map Text.Utf8.encode) := by
  induction texts generalizing col with
  | nil => rfl
  | cons text rest ih =>
      rw [List.length_cons, List.replicate_succ, List.map_cons, dumpCells]
      exact congrArg (Except.map (Text.Utf8.encode text :: ·)) (ih (col + 1))

/-- The cells of a row convert to its word and its texts. -/
theorem convertCells_grid (row : TextRow) (position : Nat) :
    convertCells position 0 (gridColumns row.texts.length) (gridTexts row)
      = .ok (gridValues row) := by
  rw [gridColumns, gridTexts, convertCells, convertCell_hashColumn]
  exact congrArg (Except.map (Value.uint row.hash.toUInt64 :: ·)) (convertCells_texts _ _ _)

/-- These values are dumped as the bytes of the row. -/
theorem dumpCells_grid (row : TextRow) (position : Nat) :
    dumpCells position 0 (gridColumns row.texts.length) (gridValues row)
      = .ok (gridBytes row) := by
  rw [gridColumns, gridValues, dumpCells, dumpValue_hashColumn]
  exact congrArg (Except.map (Hash.wordLittle row.hash :: ·)) (dumpCells_texts _ _ _)

/-! ## The grid as a source -/

/-- A number in front of a record is neither blank nor a comment. -/
theorem isCommentOrBlank_toString (n : Nat) (cells : List String) :
    isCommentOrBlank (toString n :: cells) = false := by
  cases hdigits : (toString n).toList with
  | nil =>
      rw [toList_toString] at hdigits
      exact absurd hdigits Nat.toDigits_ne_nil
  | cons c cs =>
      have hc : c.isDigit = true := isDigit_of_mem_toString (hdigits ▸ List.mem_cons_self)
      have hmark : ¬(c :: cs).head? = some '#' := by
        intro hhead
        rw [Option.some.inj hhead] at hc
        exact absurd hc (by decide)
      rw [isCommentOrBlank, hdigits, List.all_cons, Text.isBlank_of_isDigit hc, Bool.false_and,
        Bool.false_or]
      exact decide_eq_false hmark

section Pivoted

variable {h : HashTable}
variable (extracted : HashTable.extract raw = .ok h) (pivoted : TextTable.pivot h = .ok t)
include extracted pivoted

/-- The header of a text table is made of words: of that for the algorithm, of that for keys and of
the locales. -/
theorem isPlainField_of_mem_header : ∀ word ∈ t.header, isPlainField word = true := by
  obtain ⟨-, one, rfl⟩ := extract_eq_ok_iff.mp extracted
  intro word hword
  rw [(pivotedFrom_of_pivot pivoted).header] at hword
  obtain ⟨⟨hash, text⟩, hentry, rfl⟩ := List.mem_map.mp hword
  rcases (mem_headZero one).mp ((mem_headEntries one).mp hentry) with h | h | ⟨column, hc, h⟩
  · rw [h]
    decide
  · rw [h]
    decide
  · rw [h]
    exact isPlainField_locale hc

theorem header_cons : ∃ locales, t.header = algorithmName :: locales :=
  List.head?_eq_some_iff.mp (head_header_of_pivot extracted pivoted)

/-- **NOTHING IS LEFT OUT** of a text table that is read as a source. -/
theorem whole_toRaw : t.toRaw.Whole := by
  have hplain := isPlainField_of_mem_header extracted pivoted
  refine ⟨hplain, fun record hrecord => ?_⟩
  obtain ⟨row, -, rfl⟩ := List.mem_map.mp hrecord
  obtain ⟨locales, hheader⟩ := header_cons extracted pivoted
  have hfirst : t.toRaw.firstPlain? = some 0 := by
    show t.header.findIdx? isPlainField = some 0
    rw [hheader, List.findIdx?_cons, hplain algorithmName (hheader ▸ List.mem_cons_self), if_pos rfl]
  show RawTable.isRetained t.toRaw (gridTexts row) = true
  rw [RawTable.isRetained, hfirst]
  exact congrArg not (isCommentOrBlank_toString row.hash.toNat row.texts)

end Pivoted

/-- The values of a text table. -/
theorem toTyped_grid (built : registry.Built) {width : Nat}
    (sized : t.header.length = width + 1) :
    ∃ typed, t.toTyped registry = .ok typed ∧ typed.names = t.header ∧
      typed.types = gridColumns width ∧ typed.records = t.rows.map gridValues := by
  rw [TextTable.toTyped]
  split
  case h_1 e htypes => cases htypes.symm.trans (resolveAll_typeExprs built sized)
  case h_2 types htypes =>
    obtain rfl := Except.ok.inj (htypes.symm.trans (resolveAll_typeExprs built sized))
    exact ⟨_, rfl, rfl, rfl, rfl⟩

/-- **THE REVIEW GRID IS A SOURCE** of the same table: nothing of it is left out, it is converted to
the values of the text table, and it compiles to these values without a localization. -/
theorem compile_toRaw {h : HashTable} (built : registry.Built)
    (extracted : HashTable.extract raw = .ok h) (pivoted : TextTable.pivot h = .ok t)
    (name : String) :
    t.toRaw.compact = t.toRaw ∧
      t.toRaw.sourceMap = ⟨List.range t.rows.length, List.range t.header.length⟩ ∧
      ∃ typed binary, t.toTyped registry = .ok typed ∧
        TypedTable.convert t.toRaw registry = .ok typed ∧
        BinaryTable.encode typed = .ok binary ∧
        compile name t.toRaw registry = .ok ⟨name, typed, binary, none⟩ := by
  have whole := whole_toRaw extracted pivoted
  obtain ⟨hcompact, hmap⟩ := whole.compact_eq
  obtain ⟨locales, hheader⟩ := header_cons extracted pivoted
  have sized : t.header.length = locales.length + 1 := by rw [hheader, List.length_cons]
  have hwidth : ∀ row ∈ t.rows, row.texts.length = locales.length :=
    fun row hrow => Nat.succ.inj ((t.aligned row hrow).trans sized)
  obtain ⟨typed, htyped, hnames, htypes, hrecords⟩ := toTyped_grid built sized
  -- conversion and dump go row by row, and every row is as wide as the header
  have hconvert : TypedTable.convert t.toRaw registry = .ok typed := by
    refine convert_eq_ok_iff.mpr ⟨?_, ?_, hnames⟩
    · rw [htypes]
      exact resolveAll_typeExprs built sized
    · rw [htypes, hrecords]
      refine convertRecords_map (fun row hrow position => ?_) 0
      rw [← hwidth row hrow]
      exact convertCells_grid row position
  obtain ⟨binary, hencode⟩ : ∃ binary, BinaryTable.encode typed = .ok binary := by
    refine ⟨⟨_, _, t.rows.map gridBytes⟩, encode_eq_ok_iff.mpr ⟨?_, rfl, rfl⟩⟩
    rw [htypes, hrecords]
    refine dumpRecords_map (fun row hrow position => ?_) 0
    rw [← hwidth row hrow]
    exact dumpCells_grid row position
  refine ⟨hcompact, ?_, typed, binary, htyped, hconvert, hencode, whole.compile_eq hconvert hencode⟩
  rw [hmap, Table.rowCount, TextTable.toRaw, List.length_map]
  rfl

/-- Texts that look like comments or are blank. -/
def remarkedTexts : RawTable where
  names := ["id", "name", "$name[en]", "$name[ko]"]
  types := ["int", "str", "str", "str"]
  records := [["1", "# one", "#", ""], ["2", "", " ", "둘"]]
  typed := rfl
  rectangular := by decide

def remarkedGrid : TextTable where
  header := ["adler32", "key", "en", "ko"]
  rows := [⟨KeyHash.adler "# one", ["# one", "#", ""]⟩, ⟨KeyHash.adler "", ["", " ", "둘"]⟩]
  aligned := by decide

/-- The grid of a small table with comments compiles to its own typed table. -/
theorem compile_toRaw_remarkedGrid :
    Registry.builtin.Built ∧
      HashTable.extract remarkedTexts = .ok ⟨extractedRows remarkedTexts, 2⟩ ∧
      TextTable.pivot ⟨extractedRows remarkedTexts, 2⟩ = .ok remarkedGrid ∧
      remarkedGrid.toRaw.compact = remarkedGrid.toRaw ∧
      remarkedGrid.toRaw.sourceMap = ⟨[0, 1], [0, 1, 2, 3]⟩ ∧
      ∃ typed binary, remarkedGrid.toTyped Registry.builtin = .ok typed ∧
        TypedTable.convert remarkedGrid.toRaw Registry.builtin = .ok typed ∧
        BinaryTable.encode typed = .ok binary ∧
        compile "texts" remarkedGrid.toRaw Registry.builtin
          = .ok ⟨"texts", typed, binary, none⟩ :=
  have extracted : HashTable.extract remarkedTexts = .ok ⟨extractedRows remarkedTexts, 2⟩ := rfl
  have pivoted : TextTable.pivot ⟨extractedRows remarkedTexts, 2⟩ = .ok remarkedGrid := rfl
  ⟨.builtin, extracted, pivoted, compile_toRaw .builtin extracted pivoted "texts"⟩

end TableCompiler
