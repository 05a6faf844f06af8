import TableCompiler.Proofs.Table.Cellwise

/-!
# Conversion and dumping — what the two stages of a table give

A table is converted exactly if its type row resolves and its records convert, and dumped exactly if
its values are (`convert_eq_ok_iff`, `encode_eq_ok_iff`): nothing else can go wrong, since records that
are as wide as the table stay so.  An error names a place of the table that it is about
(`within_of_convert`, `within_of_encode`).
-/

namespace TableCompiler

variable {raw : RawTable} {registry : Registry} {types : List ColumnType} {t : TypedTable}
variable {e : TableError} {binary : BinaryTable} {records : List (List Value)}

/-! ## Success -/

/-- With a type for each column only a cell can keep a table from being converted. -/
theorem convertWith_eq (typed : types.length = raw.names.length) :
    (∀ e, TypedTable.convertWith raw types = .error e ↔
        convertRecords types 0 raw.records = .error e) ∧
      ∀ t, TypedTable.convertWith raw types = .ok t ↔
        convertRecords types 0 raw.records = .ok t.records ∧ t.types = types ∧
          t.names = raw.names := by
  have hcount : ¬types.length ≠ raw.columnCount := not_not_intro typed
  rw [TypedTable.convertWith, if_neg hcount]
  cases hrecords : convertRecords types 0 raw.records with
  | error e =>
      refine ⟨fun e' => Iff.rfl.trans ⟨fun h => ?_, fun h => ?_⟩, fun t => ⟨?_, ?_⟩⟩
      · exact congrArg _ (Except.error.inj h)
      · exact congrArg _ (Except.error.inj h)
      · exact fun h => nomatch h
      · exact fun h => nomatch h.1
  | ok records =>
      -- a grid of converted cells has the widths of its source, so the new table is well formed
      have sized : ∀ record ∈ raw.records, record.length = types.length :=
        fun record hrecord => (raw.rectangular record hrecord).trans typed.symm
      have hwide : ∀ record ∈ records, record.length = raw.names.length :=
        (((convertRecords_eq_ok_iff sized).mp hrecords).rectangular typed).filled
      dsimp only
      rw [Table.new_eq_ok typed hwide]
      refine ⟨fun e' => ⟨(fun h => nomatch h), fun h => nomatch h⟩, fun t => ⟨?_, ?_⟩⟩
      · intro h
        rw [← Except.ok.inj h]
        exact ⟨rfl, rfl, rfl⟩
      · rintro ⟨hvalues, htypes, hnames⟩
        exact congrArg _ (Table.ext hnames.symm htypes.symm (Except.ok.inj hvalues))

/-- **CONVERSION**: types and values are what the type row and the records give. -/
theorem convert_eq_ok_iff :
    TypedTable.convert raw registry = .ok t ↔
      registry.resolveAll raw.types = .ok t.types ∧
        convertRecords t.types 0 raw.records = .ok t.records ∧ t.names = raw.names := by
  rw [TypedTable.convert]
  cases htypes : registry.resolveAll raw.types with
  | error e => exact ⟨(fun h => nomatch h), fun h => nomatch h.1⟩
  | ok types =>
      have typed : types.length = raw.names.length :=
        (Registry.length_of_resolveAll htypes).trans raw.typed
      refine ((convertWith_eq typed).2 t).trans ⟨?_, ?_⟩
      · rintro ⟨hrecords, rfl, hnames⟩
        exact ⟨rfl, hrecords, hnames⟩
      · rintro ⟨hsame, hrecords, hnames⟩
        obtain rfl := Except.ok.inj hsame
        exact ⟨hrecords, rfl, hnames⟩

/-- A table fails to convert for a type that does not resolve, or else for a cell. -/
theorem convert_eq_error_iff :
    TypedTable.convert raw registry = .error e ↔
      (∃ source, registry.resolveAll raw.types = .error source ∧ e = .type source) ∨
        ∃ types, registry.resolveAll raw.types = .ok types ∧
          convertRecords types 0 raw.records = .error e := by
  rw [TypedTable.convert]
  cases htypes : registry.resolveAll raw.types with
  | error source =>
      constructor
      · intro h
        exact .inl ⟨source, rfl, (Except.error.inj h).symm⟩
      · rintro (⟨source', hsource, rfl⟩ | ⟨types, htypes', -⟩)
        · rw [Except.error.inj hsource]
        · cases htypes'
  | ok types =>
      have typed : types.length = raw.names.length :=
        (Registry.length_of_resolveAll htypes).trans raw.typed
      refine ((convertWith_eq typed).1 e).trans ⟨fun h => .inr ⟨types, rfl, h⟩, ?_⟩
      rintro (⟨source, hsource, -⟩ | ⟨types', htypes', h⟩)
      · cases hsource
      · rwa [Except.ok.inj htypes']

/-- Types that resolve and records that convert make a table. -/
theorem exists_convert (resolved : registry.resolveAll raw.types = .ok types)
    (converted : convertRecords types 0 raw.records = .ok records) :
    ∃ t, TypedTable.convert raw registry = .ok t ∧ t.types = types ∧ t.records = records := by
  cases h : TypedTable.convert raw registry with
  | error e =>
      rcases convert_eq_error_iff.mp h with ⟨source, hsource, -⟩ | ⟨types', htypes, hrecords⟩
      · cases resolved.symm.trans hsource
      · obtain rfl := Except.ok.inj (resolved.symm.trans htypes)
        cases converted.symm.trans hrecords
  | ok t =>
      obtain ⟨htypes, hrecords, -⟩ := convert_eq_ok_iff.mp h
      obtain rfl := Except.ok.inj (resolved.symm.trans htypes)
      exact ⟨t, rfl, rfl, Except.ok.inj (hrecords.symm.trans converted)⟩

/-- **DUMPING**: the bytes are what the values give. -/
theorem encode_eq_ok_iff :
    BinaryTable.encode t = .ok binary ↔
      dumpRecords t.types 0 t.records = .ok binary.records ∧
        binary.names = t.names.map Text.Utf8.encode ∧
        binary.types = t.types.map fun c => Text.Utf8.encode c.expr := by
  rw [BinaryTable.encode]
  cases dumpRecords t.types 0 t.records with
  | error e => exact ⟨(fun h => nomatch h), fun h => nomatch h.1⟩
  | ok records =>
      constructor
      · intro h
        rw [← Except.ok.inj h]
        exact ⟨rfl, rfl, rfl⟩
      · rintro ⟨hrecords, hnames, htypes⟩
        rw [← hnames, ← htypes, Except.ok.inj hrecords]

/-- A table fails to be encoded for a value alone. -/
theorem encode_eq_error_iff :
    BinaryTable.encode t = .error e ↔ dumpRecords t.types 0 t.records = .error e := by
  rw [BinaryTable.encode]
  cases dumpRecords t.types 0 t.records with
  | error e' =>
      exact ⟨fun h => congrArg _ (Except.error.inj h), fun h => congrArg _ (Except.error.inj h)⟩
  | ok records => exact ⟨(fun h => nomatch h), fun h => nomatch h⟩

/-! ## Records of one form -/

section Forms

variable {α β γ ε : Type} {xs : List α}

/-- A loop that makes of each image what belongs to it, wherever it stands, makes all of it. -/
theorem tryAll_map_zipIdx (F : γ → Nat → Except ε β) {image : α → γ} {value : α → β}
    (each : ∀ x ∈ xs, ∀ position, F (image x) position = .ok (value x)) (position : Nat) :
    tryAll (fun p => F p.1 p.2) ((xs.map image).zipIdx position) = .ok (xs.map value) := by
  induction xs generalizing position with
  | nil => rfl
  | cons x xs ih =>
      have hrest := ih (fun y hy => each y (List.mem_cons_of_mem x hy)) (position + 1)
      rw [List.map_cons, List.zipIdx_cons, tryAll]
      simp only [each x List.mem_cons_self position, hrest]
      rfl

theorem convertRecords_map {cells : α → List String} {values : α → List Value}
    (each : ∀ x ∈ xs, ∀ row, convertCells row 0 types (cells x) = .ok (values x)) (row : Nat) :
    convertRecords types row (xs.map cells) = .ok (xs.map values) := by
  rw [convertRecords_eq_tryAll]
  exact tryAll_map_zipIdx (fun record row => convertCells row 0 types record) each row

theorem dumpRecords_map {values : α → List Value} {bytes : α → List (List UInt8)}
    (each : ∀ x ∈ xs, ∀ row, dumpCells row 0 types (values x) = .ok (bytes x)) (row : Nat) :
    dumpRecords types row (xs.map values) = .ok (xs.map bytes) := by
  rw [dumpRecords_eq_tryAll]
  exact tryAll_map_zipIdx (fun record row => dumpCells row 0 types record) each row

end Forms

/-! ## The places in errors -/

/-- The place in an error lies in a table of that many rows and columns. -/
def TableError.Within (rows cols : Nat) : TableError → Prop
  | .fieldConversion row col _ => row < rows ∧ col < cols
  | .dump row col _ => row < rows ∧ col < cols
  | .type (.column col _) => col < cols
  | _ => True

/-- What ends a loop is the error of one of its elements, which has its own position. -/
theorem exists_position_of_tryAll {α β ε : Type} {f : α × Nat → Except ε β} {xs : List α} {d : ε}
    (h : tryAll f xs.zipIdx = .error d) :
    ∃ x position, position < xs.length ∧ f (x, position) = .error d := by
  obtain ⟨before, ⟨x, position⟩, after, hsplit, hx, -⟩ := tryAll_eq_error_iff.mp h
  have hmem : (x, position) ∈ xs.zipIdx := by
    rw [hsplit]
    exact List.mem_append_right _ List.mem_cons_self
  exact ⟨x, position, (List.getElem?_eq_some_iff.mp (List.mem_zipIdx_iff_getElem?.mp hmem)).1, hx⟩

/-- An error among the cells of a record names one of them. -/
theorem exists_cell_of_tryAll {κ δ β : Type} {F : ColumnType → κ → Except δ β}
    {tag : Nat → δ → TableError} {cells : List κ}
    (h : tryAll (fun p => (F p.1.1 p.1.2).mapError (tag p.2)) (types.zip cells).zipIdx = .error e) :
    ∃ col d, col < types.length ∧ e = tag col d := by
  obtain ⟨x, col, hcol, hx⟩ := exists_position_of_tryAll h
  obtain ⟨d, -, rfl⟩ := mapError_eq_error_iff.mp hx
  rw [List.length_zip] at hcol
  exact ⟨col, d, Nat.lt_of_lt_of_le hcol (Nat.min_le_left _ _), rfl⟩

/-- The place that a failed conversion tells lies in the table. -/
theorem within_of_convert (h : TypedTable.convert raw registry = .error e) :
    e.Within raw.rowCount raw.columnCount := by
  rcases convert_eq_error_iff.mp h with ⟨source, hsource, rfl⟩ | ⟨types, htypes, hrecords⟩
  · rw [Registry.resolveAll, resolveFrom_eq_tryAll] at hsource
    obtain ⟨expr, col, hcol, hexpr⟩ := exists_position_of_tryAll hsource
    obtain ⟨d, -, rfl⟩ := mapError_eq_error_iff.mp hexpr
    exact Nat.lt_of_lt_of_eq hcol raw.typed
  · have typed : types.length = raw.names.length :=
      (Registry.length_of_resolveAll htypes).trans raw.typed
    rw [convertRecords_eq_tryAll] at hrecords
    obtain ⟨record, row, hrow, hrecord⟩ := exists_position_of_tryAll hrecords
    rw [convertCells_eq_tryAll] at hrecord
    obtain ⟨col, failure, hcol, rfl⟩ := exists_cell_of_tryAll hrecord
    exact ⟨hrow, Nat.lt_of_lt_of_eq hcol typed⟩

/-- The place that a failed dump tells lies in the table. -/
theorem within_of_encode (h : BinaryTable.encode t = .error e) :
    e.Within t.rowCount t.columnCount := by
  have hrecords := encode_eq_error_iff.mp h
  rw [dumpRecords_eq_tryAll] at hrecords
  obtain ⟨record, row, hrow, hrecord⟩ := exists_position_of_tryAll hrecords
  rw [dumpCells_eq_tryAll] at hrecord
  obtain ⟨col, source, hcol, rfl⟩ := exists_cell_of_tryAll hrecord
  exact ⟨hrow, Nat.lt_of_lt_of_eq hcol t.typed⟩

end TableCompiler
