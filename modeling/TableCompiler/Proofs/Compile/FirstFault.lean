import TableCompiler.Proofs.Compile.Located
import TableCompiler.Proofs.Localization.HashBytes

/-!
# The first fault — what an error of a table says about its source

`FirstFault` says in terms of the source alone which error a table has: that of the first column whose
type does not resolve, or else of the first cell that does not convert, or else of the first value
that does not dump.  Compaction keeps the order of the source, so this is the error that the table
stage reports (`compileCells_eq_error_iff`), and no other stage reports an error of the table
(`compile_table_error_iff`).
-/

namespace TableCompiler

variable {raw : RawTable} {registry : Registry} {name : String} {e : TableError}

/-! ## Faults of the source -/

namespace RawTable

/-- Every plain column has a type. -/
def AllResolve (raw : RawTable) (registry : Registry) : Prop :=
  ∀ col expr, raw.HasColumn col expr → ∃ t, registry.resolve expr = .ok t

/-- A cell meets the type of its column. -/
def HasTypedCell (raw : RawTable) (registry : Registry) (row col : Nat) (t : ColumnType)
    (text : String) : Prop :=
  raw.HasCell row col text ∧ ∃ expr, raw.HasColumn col expr ∧ registry.resolve expr = .ok t

/-- The column of a cell rejects its text. -/
def Rejects (raw : RawTable) (registry : Registry) (row col : Nat)
    (failure : ConversionFailure) : Prop :=
  ∃ t text, raw.HasTypedCell registry row col t text ∧ t.convertCell text = .error failure

/-- The value that a cell converts to does not dump. -/
def DumpFails (raw : RawTable) (registry : Registry) (row col : Nat) (source : DumpError) :
    Prop :=
  ∃ t text v, raw.HasTypedCell registry row col t text ∧ t.convertCell text = .ok v ∧
    t.dumpValue v = .error source

end RawTable

/-- The error of a table, told from its source: types come before cells, all conversions before all
dumps, and among cells the first one counts. -/
inductive FirstFault (raw : RawTable) (registry : Registry) : TableError → Prop where
  | column {col : Nat} {expr : String} {source : TypeError} :
      raw.HasColumn col expr → registry.resolve expr = .error source →
      (∀ col' expr', raw.HasColumn col' expr' → col' < col →
        ∃ t, registry.resolve expr' = .ok t) →
      FirstFault raw registry (.type (.column col source))
  | conversion {row col : Nat} {failure : ConversionFailure} :
      raw.AllResolve registry → raw.Rejects registry row col failure →
      (∀ row' col' failure', raw.Rejects registry row' col' failure' →
        ¬Precedes row' col' row col) →
      FirstFault raw registry (.fieldConversion row col failure)
  | dump {row col : Nat} {source : DumpError} :
      raw.AllResolve registry →
      (∀ row' col' failure', ¬raw.Rejects registry row' col' failure') →
      raw.DumpFails registry row col source →
      (∀ row' col' source', raw.DumpFails registry row' col' source' →
        ¬Precedes row' col' row col) →
      FirstFault raw registry (.dump row col source)

/-! ## Stages and faults -/

/-- **THE FIRST COLUMN**: resolving the plain columns reports the first one that does not resolve. -/
theorem resolveColumns_eq_error_iff :
    resolveColumns raw registry = .error e ↔
      ∃ col expr source, e = .type (.column col source) ∧ raw.HasColumn col expr ∧
        registry.resolve expr = .error source ∧
        ∀ col' expr', raw.HasColumn col' expr' → col' < col →
          ∃ t, registry.resolve expr' = .ok t := by
  rw [resolveColumns, tryAll_eq_error_iff_of_sorted (fun c d => Nat.lt_asymm)
    raw.plainColumns_sorted]
  simp only [resolvePlace, mapError_eq_error_iff, mapError_eq_ok_iff, RawTable.hasColumn_iff]
  constructor
  · rintro ⟨col, hcol, ⟨source, hsource, rfl⟩, hleft⟩
    refine ⟨col, _, source, rfl, ⟨hcol, rfl⟩, hsource, ?_⟩
    rintro col' _ ⟨hcol', rfl⟩ hlt
    exact hleft col' hcol' hlt
  · rintro ⟨col, _, source, rfl, ⟨hcol, rfl⟩, hsource, hleft⟩
    exact ⟨col, hcol, ⟨source, hsource, rfl⟩, fun col' hcol' => hleft col' _ ⟨hcol', rfl⟩⟩

/-- Every plain column has a type if going through them comes to its end. -/
theorem allResolve_iff :
    raw.AllResolve registry ↔ ∃ types, resolveColumns raw registry = .ok types := by
  simp only [RawTable.AllResolve, RawTable.hasColumn_iff]
  constructor
  · intro h
    refine tryAll_total fun col hcol => ?_
    obtain ⟨t, ht⟩ := h col _ ⟨hcol, rfl⟩
    exact ⟨t, resolvePlace_eq_ok_iff.mpr ht⟩
  · rintro ⟨types, htypes⟩ col _ ⟨hcol, rfl⟩
    obtain ⟨t, ht⟩ := exists_ok_of_tryAll htypes col hcol
    exact ⟨t, resolvePlace_eq_ok_iff.mp ht⟩

/-- The cells with their types are the pairs of a record that counts and a plain column. -/
theorem hasTypedCell_iff {row col : Nat} {t : ColumnType} {text : String} :
    raw.HasTypedCell registry row col t text ↔
      ∃ r ∈ raw.retainedRows, r.2 = row ∧ col ∈ raw.plainColumns ∧
        resolvePlace raw registry col = .ok t ∧ r.1.getD col "" = text := by
  simp only [RawTable.HasTypedCell, RawTable.hasCell_iff, RawTable.hasColumn_iff,
    resolvePlace_eq_ok_iff]
  constructor
  · rintro ⟨⟨record, hrecord, hcol, htext⟩, _, ⟨-, rfl⟩, ht⟩
    exact ⟨(record, row), hrecord, rfl, hcol, ht, htext⟩
  · rintro ⟨⟨record, _⟩, hrecord, rfl, hcol, ht, htext⟩
    exact ⟨⟨record, hrecord, hcol, htext⟩, _, ⟨hcol, rfl⟩, ht⟩

/-- Where every column has a type, what keeps a place from converting is that its text is rejected. -/
theorem convertPlace_eq_error_iff (all : raw.AllResolve registry) {row col : Nat} :
    (∃ failure, e = .fieldConversion row col failure ∧ raw.Rejects registry row col failure) ↔
      ∃ r ∈ raw.retainedRows, r.2 = row ∧ col ∈ raw.plainColumns ∧
        convertPlace raw registry r col = .error e := by
  simp only [RawTable.Rejects, hasTypedCell_iff]
  constructor
  · rintro ⟨failure, rfl, t, _, ⟨r, hr, rfl, hcol, ht, rfl⟩, hfailure⟩
    refine ⟨r, hr, rfl, hcol, ?_⟩
    rw [convertPlace_of_resolved ht, hfailure]
    rfl
  · rintro ⟨r, hr, rfl, hcol, herror⟩
    obtain ⟨t, ht⟩ := all col _ (RawTable.hasColumn_iff.mpr ⟨hcol, rfl⟩)
    have htype := resolvePlace_eq_ok_iff.mpr ht
    rw [convertPlace_of_resolved htype] at herror
    obtain ⟨failure, hfailure, rfl⟩ := mapError_eq_error_iff.mp herror
    exact ⟨failure, rfl, t, _, ⟨r, hr, rfl, hcol, htype, rfl⟩, hfailure⟩

/-- Where every cell converts, what keeps a place from being dumped is that its value does not fit. -/
theorem dumpPlace_eq_error_iff
    (converted : ∀ r ∈ raw.retainedRows, ∀ col ∈ raw.plainColumns,
      ∃ v, convertPlace raw registry r col = .ok v) {row col : Nat} :
    (∃ source, e = .dump row col source ∧ raw.DumpFails registry row col source) ↔
      ∃ r ∈ raw.retainedRows, r.2 = row ∧ col ∈ raw.plainColumns ∧
        dumpPlace raw registry r col = .error e := by
  -- a value can be dumped only behind a conversion, and by assumption every place converts
  simp only [RawTable.DumpFails, hasTypedCell_iff]
  constructor
  · rintro ⟨source, rfl, t, _, v, ⟨r, hr, rfl, hcol, ht, rfl⟩, hconvert, hsource⟩
    have hvalue : convertPlace raw registry r col = .ok v := by
      rw [convertPlace_of_resolved ht, hconvert]
      rfl
    refine ⟨r, hr, rfl, hcol, ?_⟩
    rw [dumpPlace_of_converted ht hvalue, hsource]
    rfl
  · rintro ⟨r, hr, rfl, hcol, herror⟩
    obtain ⟨v, hvalue⟩ := converted r hr col hcol
    obtain ⟨t, htype, hconvert⟩ := stage_eq_ok_iff.mp hvalue
    rw [dumpPlace_of_converted htype hvalue] at herror
    obtain ⟨source, hsource, rfl⟩ := mapError_eq_error_iff.mp herror
    exact ⟨source, rfl, t, _, v, ⟨r, hr, rfl, hcol, htype, rfl⟩, mapError_eq_ok_iff.mp hconvert,
      hsource⟩

section Cells

variable {δ β : Type} {F : List String × Nat → Nat → Except TableError β}
variable {tag : Nat → Nat → δ → TableError} {Fault : Nat → Nat → δ → Prop}
variable (faults : ∀ row col e, (∃ d, e = tag row col d ∧ Fault row col d) ↔
  ∃ r ∈ raw.retainedRows, r.2 = row ∧ col ∈ raw.plainColumns ∧ F r col = .error e)
include faults

/-- **THE FIRST CELL**: going through the cells reports the fault that no other fault precedes. -/
theorem tryCells_eq_error_iff_fault :
    tryCells raw F = .error e ↔
      ∃ row col d, e = tag row col d ∧ Fault row col d ∧
        ∀ row' col' d', Fault row' col' d' → ¬Precedes row' col' row col := by
  -- faults and failing places are the same, so the first of the one is the first of the other
  rw [tryCells_eq_error_iff]
  constructor
  · rintro ⟨r, hr, col, hcol, herror, hbefore⟩
    obtain ⟨d, rfl, hfault⟩ := (faults _ _ _).mpr ⟨r, hr, rfl, hcol, herror⟩
    refine ⟨r.2, col, d, rfl, hfault, ?_⟩
    intro row' col' d' hfault' hprecedes
    obtain ⟨r', hr', rfl, hcol', herror'⟩ := (faults _ _ _).mp ⟨d', rfl, hfault'⟩
    obtain ⟨b, hb⟩ := hbefore r' hr' col' hcol' hprecedes
    cases herror'.symm.trans hb
  · rintro ⟨_, col, d, rfl, hfault, hfirst⟩
    obtain ⟨r, hr, rfl, hcol, herror⟩ := (faults _ _ _).mp ⟨d, rfl, hfault⟩
    refine ⟨r, hr, col, hcol, herror, ?_⟩
    intro r' hr' col' hcol' hprecedes
    cases hF : F r' col' with
    | ok b => exact ⟨b, rfl⟩
    | error e' =>
        obtain ⟨d', -, hfault'⟩ := (faults _ _ _).mpr ⟨r', hr', rfl, hcol', hF⟩
        exact absurd hprecedes (hfirst _ _ _ hfault')

/-- Going through the cells comes to its end if there is no fault. -/
theorem exists_tryCells_iff_no_fault :
    (∃ rows, tryCells raw F = .ok rows) ↔ ∀ row col d, ¬Fault row col d := by
  constructor
  · rintro ⟨rows, hrows⟩ row col d hfault
    obtain ⟨r, hr, rfl, hcol, herror⟩ := (faults _ _ _).mp ⟨d, rfl, hfault⟩
    obtain ⟨b, hb⟩ := exists_ok_of_tryCells hrows r hr col hcol
    cases herror.symm.trans hb
  · intro hnone
    cases htry : tryCells raw F with
    | ok rows => exact ⟨rows, rfl⟩
    | error e =>
        obtain ⟨row, col, d, -, hfault, -⟩ := (tryCells_eq_error_iff_fault faults).mp htry
        exact absurd hfault (hnone row col d)

end Cells

/-- The conversion of a source fails at the first text that its column rejects. -/
theorem convertPlaces_eq_error_iff (all : raw.AllResolve registry) :
    convertPlaces raw registry = .error e ↔
      ∃ row col failure, e = .fieldConversion row col failure ∧
        raw.Rejects registry row col failure ∧
        ∀ row' col' failure', raw.Rejects registry row' col' failure' →
          ¬Precedes row' col' row col :=
  tryCells_eq_error_iff_fault fun _ _ _ => convertPlace_eq_error_iff all

/-- The conversion of a source succeeds if no column rejects a text. -/
theorem exists_convertPlaces_iff (all : raw.AllResolve registry) :
    (∃ values, convertPlaces raw registry = .ok values) ↔
      ∀ row col failure, ¬raw.Rejects registry row col failure :=
  exists_tryCells_iff_no_fault fun _ _ _ => convertPlace_eq_error_iff all

/-- The dump of a source fails at the first value that does not dump. -/
theorem dumpPlaces_eq_error_iff {values : List (List Value)}
    (converted : convertPlaces raw registry = .ok values) :
    dumpPlaces raw registry = .error e ↔
      ∃ row col source, e = .dump row col source ∧ raw.DumpFails registry row col source ∧
        ∀ row' col' source', raw.DumpFails registry row' col' source' →
          ¬Precedes row' col' row col :=
  tryCells_eq_error_iff_fault fun _ _ _ => dumpPlace_eq_error_iff (exists_ok_of_tryCells converted)

/-- **THE FIRST FAULT**: the error of the table stage is the first fault of the source. -/
theorem compileCells_eq_error_iff :
    compileCells raw registry = .error e ↔ FirstFault raw registry e := by
  constructor
  -- one case for each stage that can end the compilation, and one for none
  · intro h
    cases htypes : resolveColumns raw registry with
    | error e₁ =>
        obtain rfl := Except.error.inj ((compileCells_of_resolve_error htypes).symm.trans h)
        obtain ⟨col, expr, source, rfl, hcol, hsource, hleft⟩ :=
          resolveColumns_eq_error_iff.mp htypes
        exact .column hcol hsource hleft
    | ok types =>
        have all := allResolve_iff.mpr ⟨types, htypes⟩
        obtain ⟨hconvertError, hconverted⟩ := compileCells_of_resolved htypes
        cases hvalues : convertPlaces raw registry with
        | error e₁ =>
            obtain rfl := Except.error.inj ((hconvertError _ hvalues).symm.trans h)
            obtain ⟨row, col, failure, rfl, hrejects, hfirst⟩ :=
              (convertPlaces_eq_error_iff all).mp hvalues
            exact .conversion all hrejects hfirst
        | ok values =>
            have hnone := (exists_convertPlaces_iff all).mp ⟨values, hvalues⟩
            obtain ⟨hdumpError, hdumped⟩ := hconverted values hvalues
            cases hbytes : dumpPlaces raw registry with
            | error e₁ =>
                obtain rfl := Except.error.inj ((hdumpError _ hbytes).symm.trans h)
                obtain ⟨row, col, source, rfl, hfails, hfirst⟩ :=
                  (dumpPlaces_eq_error_iff hvalues).mp hbytes
                exact .dump all hnone hfails hfirst
            | ok bytes =>
                obtain ⟨cells, hcells⟩ := hdumped bytes hbytes
                cases hcells.symm.trans h
  · intro h
    cases h with
    | column hcol hsource hleft =>
        exact compileCells_of_resolve_error
          (resolveColumns_eq_error_iff.mpr ⟨_, _, _, rfl, hcol, hsource, hleft⟩)
    | conversion all hrejects hfirst =>
        obtain ⟨types, htypes⟩ := allResolve_iff.mp all
        refine (compileCells_of_resolved htypes).1 _ ?_
        exact (convertPlaces_eq_error_iff all).mpr ⟨_, _, _, rfl, hrejects, hfirst⟩
    | dump all hnone hfails hfirst =>
        obtain ⟨types, htypes⟩ := allResolve_iff.mp all
        obtain ⟨values, hvalues⟩ := (exists_convertPlaces_iff all).mpr hnone
        refine ((compileCells_of_resolved htypes).2 values hvalues).1 _ ?_
        exact (dumpPlaces_eq_error_iff hvalues).mpr ⟨_, _, _, rfl, hfails, hfirst⟩

/-! ## The localization stage -/

open TableCompiler.Localization

/-- The localization stage has no error of a table. -/
theorem localize_ne_table (built : registry.Built) (n : String) :
    localize name raw registry ≠ .error (.table n e) := by
  intro h
  simp only [localize, toTyped_eq_values built, encode_values] at h
  split at h
  case h_1 => cases h
  case h_2 =>
    split at h
    case isTrue => cases h
    case isFalse => split at h <;> cases h

/-- **THE FIRST FAULT OF THE SOURCE** is what a failed compilation reports of a table; where there is
none, the table stage succeeds. -/
theorem compile_table_error_iff (built : registry.Built) :
    (∀ n e, compile name raw registry = .error (.table n e) ↔
        n = name ∧ FirstFault raw registry e) ∧
      ((∀ e, ¬FirstFault raw registry e) → ∃ cells, compileCells raw registry = .ok cells) := by
  constructor
  · intro n e
    rw [← compileCells_eq_error_iff, compile]
    cases hcells : compileCells raw registry with
    | error e₁ =>
        constructor
        · intro h
          cases h
          exact ⟨rfl, rfl⟩
        · rintro ⟨rfl, h⟩
          cases h
          rfl
    | ok cells =>
        refine ⟨fun h => ?_, fun h => by cases h.2⟩
        -- a localization fails too, but never with the error of a table
        cases hlocalize : localize name raw registry with
        | error e₁ =>
            simp only [hlocalize] at h
            obtain rfl := Except.error.inj h
            exact absurd hlocalize (localize_ne_table built n)
        | ok localization? =>
            simp only [hlocalize] at h
            cases h
  · intro hnone
    cases hcells : compileCells raw registry with
    | ok cells => exact ⟨cells, rfl⟩
    | error e => exact absurd (compileCells_eq_error_iff.mp hcells) (hnone e)

/-- Items with a locale, of which one is a comment, and two grades that do not fit. -/
def misgradedItems : RawTable where
  names := ["id", "$name[en]", "name", "grade"]
  types := ["int:pk", "str", "str:key", "uint8"]
  records := [["#1", "Old", "OLD", "900"], ["2", "Sword", "SWORD", "7"],
    ["3", "Shield", "SHIELD", "700"], ["four", "Bow", "BOW", "-1"]]
  typed := rfl
  rectangular := by decide

/-- A grade that does not fit, in the row and the column where it stands in the source. -/
theorem compile_table_error_misgraded :
    Registry.builtin.Built ∧
      compile "items" misgradedItems Registry.builtin
        = .error (.table "items" (.fieldConversion 2 3 ⟨.overflow, "700", "> 255"⟩)) ∧
      FirstFault misgradedItems Registry.builtin
        (.fieldConversion 2 3 ⟨.overflow, "700", "> 255"⟩) :=
  have failed : compile "items" misgradedItems Registry.builtin
      = .error (.table "items" (.fieldConversion 2 3 ⟨.overflow, "700", "> 255"⟩)) := rfl
  ⟨.builtin, failed, (((compile_table_error_iff .builtin).1 _ _).mp failed).2⟩

end TableCompiler
