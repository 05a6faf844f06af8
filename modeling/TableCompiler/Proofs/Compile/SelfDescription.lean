import TableCompiler.Proofs.Column.Grammar
import TableCompiler.Proofs.Compile.LocalizationStage
import TableCompiler.Proofs.Table.Decoding

/-!
# Self-description — the type row of a compiled table

A compiled table keeps the names and the type expressions of its columns beside its bytes.  What is kept
of an expression is its trimmed text, and an expression means what its trimmed text does
(`resolve_of_trimmed`): the parts are those of the trimmed text, and what the parts resolve to has to do
with the whole only where it is an error.  So the kept type row resolves again, to the columns that the
table was made with (`compiled_describes_itself`).
-/

namespace TableCompiler

open TableCompiler.Text

variable {r : Registry} {t : ColumnType} {types : List ColumnType} {expr expr' : String}

/-! ## Type expressions -/

/-- **BLANK SPACE AROUND** an expression does not change what it resolves to. -/
theorem resolve_of_trimmed (same : trimmed expr = trimmed expr') (h : r.resolve expr = .ok t) :
    r.resolve expr' = .ok t := by
  obtain ⟨parts, base, res, hparts, hbase, hres, rfl⟩ := resolve_eq_ok_iff.mp h
  have spells : TypeExpr.Spells parts (trim expr'.toList) := by
    rw [← String.ofList_inj.mp same]
    exact TypeExpr.parse_eq_ok_iff.mp hparts
  refine resolve_eq_ok_iff.mpr ⟨parts, base, res, TypeExpr.parse_eq_ok_iff.mpr spells, hbase,
    resolveParts_mono id hres, ?_⟩
  rw [same]

/-- What a column keeps of its expression resolves to the column. -/
theorem resolve_kept (h : r.resolve expr = .ok t) : r.resolve t.expr = .ok t := by
  have kept : t.expr = trimmed expr := by
    obtain ⟨_, _, _, -, -, -, rfl⟩ := resolve_eq_ok_iff.mp h
    rfl
  refine resolve_of_trimmed ?_ h
  rw [kept, trimmed_trimmed]

/-! ## Type rows -/

/-- **A TYPE ROW** is resolved again from what its columns keep. -/
theorem resolveAll_kept {exprs : List String} (resolved : r.resolveAll exprs = .ok types) :
    r.resolveAll (types.map (·.expr)) = .ok types := by
  have each : ∀ type ∈ types, ∀ col, (r.resolve type.expr).mapError (TypeError.column col)
      = .ok (id type) := by
    intro type htype col
    obtain ⟨expr, hexpr⟩ := resolve_of_mem resolved type htype
    exact mapError_eq_ok_iff.mpr (resolve_kept hexpr)
  have hrow := tryAll_map_zipIdx
    (fun expr col => (r.resolve expr).mapError (TypeError.column col)) each 0
  rw [Registry.resolveAll, resolveFrom_eq_tryAll, hrow, List.map_id]

/-! ## Compiled tables -/

/-- A binary table describes a typed table: names and type expressions are UTF-8, and the columns are
what a registry makes of the expressions, one for each name. -/
structure BinaryTable.Describes (registry : Registry) (b : BinaryTable) (t : TypedTable) : Prop where
  names : b.names.mapM Utf8.decode = some t.names
  exprs : b.types.mapM Utf8.decode = some (t.types.map (·.expr))
  resolved : registry.resolveAll (t.types.map (·.expr)) = .ok t.types
  counted : t.types.length = b.columnCount

/-- A table of columns that resolve is described by its bytes. -/
theorem describes_of_encode {registry : Registry} {b : BinaryTable} {t : TypedTable}
    {exprs : List String} (resolved : registry.resolveAll exprs = .ok t.types)
    (encoded : BinaryTable.encode t = .ok b) : b.Describes registry t := by
  obtain ⟨-, hnames, htypes⟩ := encode_eq_ok_iff.mp encoded
  refine ⟨?_, ?_, resolveAll_kept resolved, ?_⟩
  · rw [hnames, Utf8.mapM_decode_encode]
  · have hexprs : b.types = (t.types.map (·.expr)).map Utf8.encode := by
      rw [htypes, List.map_map]
      rfl
    rw [hexprs, Utf8.mapM_decode_encode]
  · rw [BinaryTable.columnCount, hnames, List.length_map]
    exact t.typed

/-- **A COMPILED TABLE DESCRIBES ITSELF**: its names and its type row are decoded from it, and the type
row resolves to the columns that it was compiled with, since every expression that resolves can be
replaced by what its column keeps of it. -/
theorem compiled_describes_itself (registry : Registry) :
    (∀ expr t, registry.resolve expr = .ok t → registry.resolve t.expr = .ok t) ∧
      ∀ name raw c, compile name raw registry = .ok c → c.binary.Describes registry c.typed := by
  refine ⟨fun expr t => resolve_kept, ?_⟩
  intro name raw c compiled
  obtain ⟨-, hcells, -⟩ := compile_ok compiled
  obtain ⟨hconvert, hencode⟩ := compileCells_eq_ok_iff.mp hcells
  exact describes_of_encode (convert_eq_ok_iff.mp hconvert).1 hencode

/-- Type expressions between blank characters of several kinds, with attributes that hold blank space
of their own. -/
def spacedTypes : RawTable where
  names := ["#seen", "id", "등급", "owner", "$owner[en]"]
  types := ["", "\u00a0int16:hex\u2003", "\u3000enum:grade\n", "\tstr:fk:a b : c \u0085", "str"]
  records := [["", "7f", "low", "김", "Kim"], ["later", "# 7g", "none", "", "#"]]
  typed := rfl
  rectangular := by decide

/-- An expression with blank space around it resolves to what its trimmed text resolves to. -/
theorem compiled_describes_itself_spaced :
    ∃ c, grades.resolve "\u3000enum:grade\n" = .ok gradeColumn ∧
      grades.resolve gradeColumn.expr = .ok gradeColumn ∧
      compile "spaced" spacedTypes grades = .ok c ∧ c.binary.Describes grades c.typed := by
  have resolved : grades.resolve "\u3000enum:grade\n" = .ok gradeColumn := rfl
  obtain ⟨c, compiled⟩ : ∃ c, compile "spaced" spacedTypes grades = .ok c := ⟨_, rfl⟩
  have describes := compiled_describes_itself grades
  exact ⟨c, resolved, describes.1 _ _ resolved, compiled, describes.2 _ _ _ compiled⟩

end TableCompiler
