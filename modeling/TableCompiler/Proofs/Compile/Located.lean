import TableCompiler.Compile
import TableCompiler.Proofs.Table.Conversion
import TableCompiler.Proofs.Table.Places

/-!
# Located stages — the table stage without compaction

The compiler works on the compacted table and takes the places in its errors back to the source.  The
same three loops can go through the plain columns and the records that count where they stand
(`resolveColumns`, `convertPlaces`, `dumpPlaces`), and then no place has to be taken back.  Each place
stands for itself: its type is resolved, its text converted and its value dumped there, so that what
one stage gave need not be handed to the next.  The table stage is these loops one after the other
(`compileCells_of_resolved`).
-/

namespace TableCompiler

variable {raw : RawTable} {registry : Registry} {e : TableError} {types : List ColumnType}
variable {values : List (List Value)} {r : List String × Nat} {col : Nat} {t : ColumnType} {v : Value}

/-! ## The stages in terms of the source -/

/-- Resolves the type of a column. -/
def resolvePlace (raw : RawTable) (registry : Registry) (col : Nat) :
    Except TableError ColumnType :=
  (registry.resolve (raw.types.getD col "")).mapError fun source => .type (.column col source)

/-- Converts the cell of a column in a record. -/
def convertPlace (raw : RawTable) (registry : Registry) (r : List String × Nat) (col : Nat) :
    Except TableError Value :=
  stage id (resolvePlace raw registry col) fun t =>
    (t.convertCell (r.1.getD col "")).mapError (.fieldConversion r.2 col)

/-- Dumps the value of the cell of a column in a record. -/
def dumpPlace (raw : RawTable) (registry : Registry) (r : List String × Nat) (col : Nat) :
    Except TableError (List UInt8) :=
  stage id (resolvePlace raw registry col) fun t =>
    stage id (convertPlace raw registry r col) fun v =>
      (t.dumpValue v).mapError (.dump r.2 col)

/-- Resolves the plain columns of a source. -/
def resolveColumns (raw : RawTable) (registry : Registry) : Except TableError (List ColumnType) :=
  tryAll (resolvePlace raw registry) raw.plainColumns

/-- Goes through the cells of a source that are compiled, row by row. -/
def tryCells {β : Type} (raw : RawTable)
    (f : List String × Nat → Nat → Except TableError β) : Except TableError (List (List β)) :=
  tryAll (fun r => tryAll (f r) raw.plainColumns) raw.retainedRows

/-- Converts the cells of a source. -/
def convertPlaces (raw : RawTable) (registry : Registry) : Except TableError (List (List Value)) :=
  tryCells raw (convertPlace raw registry)

/-- Dumps the values of the cells of a source. -/
def dumpPlaces (raw : RawTable) (registry : Registry) :
    Except TableError (List (List (List UInt8))) :=
  tryCells raw (dumpPlace raw registry)

/-! ## Single places -/

/-- A place resolves to the column that its expression resolves to. -/
theorem resolvePlace_eq_ok_iff :
    resolvePlace raw registry col = .ok t ↔ registry.resolve (raw.types.getD col "") = .ok t :=
  mapError_eq_ok_iff

/-- A column that resolves converts its cells. -/
theorem convertPlace_of_resolved (h : resolvePlace raw registry col = .ok t) :
    convertPlace raw registry r col
      = (t.convertCell (r.1.getD col "")).mapError (.fieldConversion r.2 col) := by
  rw [convertPlace, h]
  rfl

/-- A column that resolves dumps the values of its cells. -/
theorem dumpPlace_of_converted (h : resolvePlace raw registry col = .ok t)
    (converted : convertPlace raw registry r col = .ok v) :
    dumpPlace raw registry r col = (t.dumpValue v).mapError (.dump r.2 col) := by
  rw [dumpPlace, h, converted]
  rfl

/-! ## The loops -/

/-- What is picked of a row, column by column. -/
theorem picked (cols : List Nat) (cells : List String) :
    List.Forall₂ (fun col text => cells.getD col "" = text) cols (pick cols cells) :=
  List.forall₂_map_right_iff.mpr (List.forall₂_same.mpr fun _ _ => rfl)

/-- Resolving the type row of the compacted table is resolving the plain columns of the source. -/
theorem located_resolveAll :
    (registry.resolveAll raw.compact.types).mapError (fun e => raw.sourceMap.locate (.type e))
      = resolveColumns raw registry := by
  rw [Registry.resolveAll, resolveFrom_eq_tryAll, mapError_tryAll]
  simp only [mapError_mapError]
  have made : List.Forall₂ (fun col expr => (registry.resolve expr).mapError
      (fun source => TableError.type (.column (id col) source)) = resolvePlace raw registry col)
      raw.plainColumns raw.compact.types :=
    (picked raw.plainColumns raw.types).imp fun col expr hexpr => hexpr ▸ rfl
  have hcols := tryAll_zipIdx_places id (fun expr col => (registry.resolve expr).mapError
    fun source => TableError.type (.column col source)) made
  rw [List.map_id] at hcols
  exact hcols

/-- Going through the records and cells of the compacted table, and taking the places in errors back
to the source, is going through the cells of the source. -/
theorem located_tryAll {κ δ β : Type} {F : ColumnType → κ → Except δ β}
    {tag : Nat → Nat → δ → TableError} {cells : List (List κ)}
    {place : List String × Nat → Nat → Except TableError β}
    (moves : ∀ row col d, raw.sourceMap.locate (tag row col d)
      = tag (raw.sourceMap.rowOf row) (raw.sourceMap.colOf col) d)
    (made : List.Forall₂ (fun r row => List.Forall₂ (fun col p =>
        (F p.1 p.2).mapError (tag r.2 col) = place r col) raw.plainColumns (types.zip row))
      raw.retainedRows cells) :
    (tryAll (fun p => tryAll (fun q => (F q.1.1 q.1.2).mapError (tag p.2 q.2))
        (types.zip p.1).zipIdx) cells.zipIdx).mapError raw.sourceMap.locate
      = tryCells raw place := by
  rw [mapError_tryAll]
  simp only [mapError_tryAll, mapError_mapError, moves]
  refine tryAll_zipIdx_places Prod.snd (fun row place => tryAll (fun q =>
    (F q.1.1 q.1.2).mapError (tag place (raw.sourceMap.colOf q.2))) (types.zip row).zipIdx) ?_
  -- the rows are in place; the same again for the columns of one row
  refine made.imp fun r row hrow => ?_
  have hcols := tryAll_zipIdx_places id
    (fun (pair : ColumnType × κ) col => (F pair.1 pair.2).mapError (tag r.2 col)) hrow
  rw [List.map_id] at hcols
  exact hcols

/-- Converting the compacted table is converting the cells of the source. -/
theorem located_convertRecords (resolved : resolveColumns raw registry = .ok types) :
    (convertRecords types 0 raw.compact.records).mapError raw.sourceMap.locate
      = convertPlaces raw registry := by
  rw [convertRecords_eq_tryAll]
  simp only [convertCells_eq_tryAll]
  refine located_tryAll (fun _ _ _ => rfl) ?_
  refine List.forall₂_map_right_iff.mpr (List.forall₂_same.mpr fun r _ => ?_)
  refine (forall₂_zip (tryAll_eq_ok_iff.mp resolved) (picked _ r.1)).imp ?_
  rintro col ⟨t, text⟩ ⟨htype, rfl⟩
  exact (convertPlace_of_resolved htype).symm

/-- Dumping the values of the compacted table is dumping those of the cells of the source. -/
theorem located_dumpRecords (resolved : resolveColumns raw registry = .ok types)
    (converted : convertPlaces raw registry = .ok values) :
    (dumpRecords types 0 values).mapError raw.sourceMap.locate = dumpPlaces raw registry := by
  rw [dumpRecords_eq_tryAll]
  simp only [dumpCells_eq_tryAll]
  refine located_tryAll (fun _ _ _ => rfl) ((tryAll_eq_ok_iff.mp converted).imp fun r row hrow => ?_)
  refine (forall₂_zip (tryAll_eq_ok_iff.mp resolved) (tryAll_eq_ok_iff.mp hrow)).imp ?_
  rintro col ⟨t, v⟩ ⟨htype, hvalue⟩
  exact (dumpPlace_of_converted htype hvalue).symm

/-- The first error among the cells of a source. -/
theorem tryCells_eq_error_iff {β : Type} {f : List String × Nat → Nat → Except TableError β} :
    tryCells raw f = .error e ↔
      ∃ r ∈ raw.retainedRows, ∃ col ∈ raw.plainColumns, f r col = .error e ∧
        ∀ r' ∈ raw.retainedRows, ∀ col' ∈ raw.plainColumns,
          Precedes r'.2 col' r.2 col → ∃ b, f r' col' = .ok b := by
  have hrows := tryAll_eq_error_iff_of_sorted (f := fun r => tryAll (f r) raw.plainColumns)
    (e := e) (fun r s => Nat.lt_asymm) raw.retainedRows_sorted
  have hcols : ∀ r, tryAll (f r) raw.plainColumns = .error e ↔ _ := fun r =>
    tryAll_eq_error_iff_of_sorted (fun c d => Nat.lt_asymm) raw.plainColumns_sorted
  rw [tryCells, hrows]
  constructor
  · rintro ⟨r, hr, hrow, hearlier⟩
    obtain ⟨col, hcol, herror, hleft⟩ := (hcols r).mp hrow
    refine ⟨r, hr, col, hcol, herror, ?_⟩
    -- an earlier row has come to its end; in the same row the cells to the left have
    rintro r' hr' col' hcol' (hlt | ⟨heq, hlt⟩)
    · obtain ⟨bs, hbs⟩ := hearlier r' hr' hlt
      exact exists_ok_of_tryAll hbs col' hcol'
    · rw [RawTable.eq_of_mem_retainedRows hr' hr heq]
      exact hleft col' hcol' hlt
  · rintro ⟨r, hr, col, hcol, herror, hbefore⟩
    refine ⟨r, hr, (hcols r).mpr ⟨col, hcol, herror, ?_⟩, ?_⟩
    · exact fun col' hcol' hlt => hbefore r hr col' hcol' (.inr ⟨rfl, hlt⟩)
    · intro r' hr' hlt
      exact tryAll_total fun col' hcol' => hbefore r' hr' col' hcol' (.inl hlt)

/-- Where all places are passed, each of them is. -/
theorem exists_ok_of_tryCells {β : Type} {f : List String × Nat → Nat → Except TableError β}
    {rows : List (List β)} (h : tryCells raw f = .ok rows) :
    ∀ r ∈ raw.retainedRows, ∀ col ∈ raw.plainColumns, ∃ b, f r col = .ok b := by
  intro r hr
  obtain ⟨bs, hbs⟩ := exists_ok_of_tryAll h r hr
  exact exists_ok_of_tryAll hbs

/-! ## The stages of the compiler -/

/-- **THE TABLE STAGE** converts the compacted table and dumps what it gets. -/
theorem compileCells_eq_ok_iff {typed : TypedTable} {binary : BinaryTable} :
    compileCells raw registry = .ok (typed, binary) ↔
      TypedTable.convert raw.compact registry = .ok typed ∧
        BinaryTable.encode typed = .ok binary := by
  rw [compileCells]
  cases TypedTable.convert raw.compact registry with
  | error e => exact ⟨(fun h => nomatch h), fun h => nomatch h.1⟩
  | ok typed' =>
      dsimp only
      cases hencode : BinaryTable.encode typed' with
      | error e =>
          refine ⟨(fun h => nomatch h), ?_⟩
          rintro ⟨hsame, h⟩
          rw [← Except.ok.inj hsame, hencode] at h
          cases h
      | ok binary' =>
          constructor
          · intro h
            obtain ⟨rfl, rfl⟩ := Prod.mk.inj (Except.ok.inj h)
            exact ⟨rfl, hencode⟩
          · rintro ⟨hsame, h⟩
            obtain rfl := Except.ok.inj hsame
            rw [Except.ok.inj (hencode.symm.trans h)]

/-- The plain columns resolve place by place as the compact table does. -/
theorem resolveAll_of_resolveColumns (h : resolveColumns raw registry = .ok types) :
    registry.resolveAll raw.compact.types = .ok types := by
  rw [← located_resolveAll] at h
  exact mapError_eq_ok_iff.mp h

/-- A type that does not resolve ends the compilation. -/
theorem compileCells_of_resolve_error (h : resolveColumns raw registry = .error e) :
    compileCells raw registry = .error e := by
  rw [← located_resolveAll] at h
  obtain ⟨source, hsource, rfl⟩ := mapError_eq_error_iff.mp h
  rw [compileCells, TypedTable.convert, hsource]

/-- What the stages behind the resolution do. -/
theorem compileCells_of_resolved (h : resolveColumns raw registry = .ok types) :
    (∀ e, convertPlaces raw registry = .error e → compileCells raw registry = .error e) ∧
      ∀ values, convertPlaces raw registry = .ok values →
        (∀ e, dumpPlaces raw registry = .error e → compileCells raw registry = .error e) ∧
          ∀ bytes, dumpPlaces raw registry = .ok bytes →
            ∃ cells, compileCells raw registry = .ok cells := by
  have htypes := resolveAll_of_resolveColumns h
  -- conversion goes over the whole table before anything is dumped
  constructor
  · intro e hconvert
    rw [← located_convertRecords h] at hconvert
    obtain ⟨source, hsource, rfl⟩ := mapError_eq_error_iff.mp hconvert
    rw [compileCells, convert_eq_error_iff.mpr (.inr ⟨types, htypes, hsource⟩)]
  · intro values hconvert
    have hrecords := hconvert
    rw [← located_convertRecords h, mapError_eq_ok_iff] at hrecords
    obtain ⟨typed, htyped, rfl, rfl⟩ := exists_convert htypes hrecords
    constructor
    · intro e hdump
      rw [← located_dumpRecords h hconvert] at hdump
      obtain ⟨source, hsource, rfl⟩ := mapError_eq_error_iff.mp hdump
      simp only [compileCells, htyped, encode_eq_error_iff.mpr hsource]
    · intro bytes hdump
      rw [← located_dumpRecords h hconvert, mapError_eq_ok_iff] at hdump
      simp only [compileCells, htyped, BinaryTable.encode, hdump]
      exact ⟨_, rfl⟩

end TableCompiler
