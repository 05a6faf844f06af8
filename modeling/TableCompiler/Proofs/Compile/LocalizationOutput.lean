import TableCompiler.Proofs.Column.Registration
import TableCompiler.Proofs.Compile.ReviewGrid

/-!
# The localization of a table — a function of its source alone

The localization stage asks the registry for the types of a hash table, and registrations cannot change
these.  `localizationOf` is the stage with the answer put in: it takes no registry, and it is what every
built registry gives (`localize_eq`).  So the stage fails with the source and not with a registration
(`compile_eq_error_iff_fault`), and two registries can only differ over the table itself
(`localization_stands_alone`).
-/

namespace TableCompiler

open TableCompiler.Localization

variable {raw : RawTable} {registry registry' : Registry} {name : String}
variable {cells : TypedTable × BinaryTable}

/-! ## Derived tables -/

namespace Localization

/-- The values of a text table are the same under all registries. -/
theorem exists_toTyped (t : TextTable) :
    ∃ typed : TypedTable, ∀ registry : Registry, registry.Built → t.toTyped registry = .ok typed := by
  -- without a header there is nothing to resolve; else the columns are built in
  cases hheader : t.header with
  | nil =>
      have hexprs : t.typeExprs = [] := by rw [TextTable.typeExprs, hheader]; rfl
      have hrows : t.rows = [] := by
        refine List.eq_nil_iff_forall_not_mem.mpr fun row hrow => ?_
        have hwidth := t.aligned row hrow
        rw [hheader] at hwidth
        cases hwidth
      refine ⟨⟨[], [], [], rfl, fun _ h => nomatch h⟩, fun registry _ => ?_⟩
      have hnone : registry.resolveAll t.typeExprs = .ok [] := by rw [hexprs]; rfl
      rw [TextTable.toTyped]
      split
      case h_1 e htypes => cases htypes.symm.trans hnone
      case h_2 types htypes =>
        obtain rfl := Except.ok.inj (htypes.symm.trans hnone)
        exact congrArg Except.ok (Table.ext hheader rfl (List.map_eq_nil_iff.mpr hrows))
  | cons first rest =>
      have sized : t.header.length = rest.length + 1 := by rw [hheader, List.length_cons]
      obtain ⟨typed, -, hnames, htypes, hrecords⟩ := toTyped_grid .builtin sized
      refine ⟨typed, fun registry built => ?_⟩
      obtain ⟨typed', htyped', hnames', htypes', hrecords'⟩ := toTyped_grid built sized
      rw [htyped', Table.ext (hnames'.trans hnames.symm) (htypes'.trans htypes.symm)
        (hrecords'.trans hrecords.symm)]

end Localization

/-! ## The stage without a registry -/

/-- The localization of a source table as its texts alone determine it. -/
def localizationOf (name : String) (raw : RawTable) :
    Except CompileError (Option CompiledLocalization) :=
  stage (.localization name) (HashTable.extract raw) fun h =>
    if h.isEmpty then .ok none
    else stage (.localization name) (TextTable.pivot h) fun texts =>
      .ok (some ⟨h.values, h.bytes, texts⟩)

/-- **THE REGISTRY DOES NOT MATTER** to the localization stage. -/
theorem localize_eq (built : registry.Built) (name : String) (raw : RawTable) :
    localize name raw registry = localizationOf name raw := by
  rw [localize_eq_stages, localizationOf]
  simp only [toTyped_eq_values built, stage, encode_values]

/-- What a source table has itself to blame for. -/
inductive LocalizationFault (raw : RawTable) : LocalizationError → Prop where
  /-- Two texts have one hash, or a column has no key column. -/
  | extraction {e : LocalizationError} :
      HashTable.extract raw = .error e → LocalizationFault raw e
  /-- The decorated columns do not list the same keys. -/
  | pivot {h : HashTable} {e : LocalizationError} :
      decoratedColumns raw.names ≠ [] → HashTable.extract raw = .ok h →
        TextTable.pivot h = .error e → LocalizationFault raw e

/-- A localization fails just for a fault of the source table. -/
theorem localize_eq_error_iff_fault (built : registry.Built) {e : CompileError} :
    localize name raw registry = .error e ↔
      ∃ source, LocalizationFault raw source ∧ e = .localization name source := by
  rw [localize_eq_error_iff built]
  constructor
  · rintro (⟨source, hextract, rfl⟩ | ⟨h, source, hextract, hempty, hpivot, rfl⟩)
    · exact ⟨source, .extraction hextract, rfl⟩
    · refine ⟨source, .pivot (fun hnone => ?_) hextract hpivot, rfl⟩
      cases hempty.symm.trans ((isEmpty_iff_of_extract hextract).mpr hnone)
  · rintro ⟨source, fault, rfl⟩
    cases fault with
    | extraction hextract => exact .inl ⟨source, hextract, rfl⟩
    | pivot decorated hextract hpivot =>
        refine .inr ⟨_, source, hextract, Bool.eq_false_iff.mpr fun hempty => ?_, hpivot, rfl⟩
        exact decorated ((isEmpty_iff_of_extract hextract).mp hempty)

/-- **A COMPILATION PAST ITS TABLE** fails with the extraction or the pivot of the source only. -/
theorem compile_eq_error_iff_fault (built : registry.Built)
    (compiled : compileCells raw registry = .ok cells) {e : CompileError} :
    compile name raw registry = .error e ↔
      ∃ source, LocalizationFault raw source ∧ e = .localization name source := by
  rw [compile_eq_error_iff, ← localize_eq_error_iff_fault built]
  constructor
  · rintro (⟨source, hfailed, -⟩ | ⟨-, hlocalize⟩)
    · cases compiled.symm.trans hfailed
    · exact hlocalize
  · exact fun hlocalize => .inr ⟨⟨cells, compiled⟩, hlocalize⟩

/-- What a compilation past its table has of localization. -/
theorem map_compile_eq (built : registry.Built) (compiled : compileCells raw registry = .ok cells) :
    (compile name raw registry).map (·.localization?) = localizationOf name raw := by
  rw [compile_eq_stages, compiled, stage, localize_eq built]
  cases localizationOf name raw <;> rfl

/-- The localization of a table is absent when the table has no decorated column. -/
theorem localization?_eq_none_iff {table : CompiledTable}
    (compiled : compile name raw registry = .ok table) :
    table.localization? = none ↔ decoratedColumns raw.names = [] := by
  obtain ⟨h, hextract, hmade⟩ := localize_ok (compile_ok compiled).2.2
  rw [← isEmpty_iff_of_extract hextract]
  rcases hmade with ⟨hempty, hnone⟩ | ⟨hempty, l, hsome, -⟩
  · exact iff_of_true hnone hempty
  · rw [hsome, hempty]
    exact iff_of_false (fun h => nomatch h) (fun h => nomatch h)

/-- A table without decorated columns never fails over them, whatever the registry. -/
theorem compile_ne_localization (undecorated : decoratedColumns raw.names = [])
    (source : LocalizationError) (n : String) :
    compile name raw registry ≠ .error (.localization n source) := by
  intro failed
  rcases compile_eq_error_iff.mp failed with ⟨_, -, hother⟩ | ⟨-, hlocalize⟩
  · cases hother
  · rw [localize_of_undecorated undecorated] at hlocalize
    cases hlocalize

/-- **LOCALIZATION STANDS ALONE**: whatever is registered, the derived tables have types and bytes, so
past the table itself a compilation fails only with the extraction or the pivot of the source, and two
registries agree on all that is made or reported there.  Nothing is made, and nothing reported, exactly
when no column is decorated. -/
theorem localization_stands_alone (built : registry.Built) (built' : registry'.Built)
    (name : String) (raw : RawTable) :
    (∀ h : HashTable, registry.resolveAll HashTable.typeExprs = .ok hashTableColumns ∧
        h.toTyped registry = .ok h.values ∧ BinaryTable.encode h.values = .ok h.bytes) ∧
    (∀ t : TextTable, ∃ typed,
        t.toTyped registry = .ok typed ∧ t.toTyped registry' = .ok typed) ∧
    ((∃ cells, compileCells raw registry = .ok cells) →
      (∀ e, compile name raw registry = .error e ↔
        ∃ source, LocalizationFault raw source ∧ e = .localization name source) ∧
      ((∃ cells, compileCells raw registry' = .ok cells) →
        (compile name raw registry).map (·.localization?)
          = (compile name raw registry').map (·.localization?))) ∧
    (∀ table, compile name raw registry = .ok table →
      (table.localization? = none ↔ decoratedColumns raw.names = [])) ∧
    (decoratedColumns raw.names = [] →
      ∀ n source, compile name raw registry ≠ .error (.localization n source)) := by
  refine ⟨fun h => ⟨resolveAll_hashTable built, toTyped_eq_values built h, encode_values h⟩,
    fun t => ?_, ?_, fun table => localization?_eq_none_iff, ?_⟩
  · obtain ⟨typed, htyped⟩ := exists_toTyped t
    exact ⟨typed, htyped registry built, htyped registry' built'⟩
  · rintro ⟨cells, compiled⟩
    refine ⟨fun e => compile_eq_error_iff_fault built compiled, ?_⟩
    rintro ⟨cells', compiled'⟩
    rw [map_compile_eq built compiled, map_compile_eq built' compiled']
  · exact fun undecorated n source => compile_ne_localization undecorated source n

/-- Registrations behind which the texts of a table stay what they are. -/
def richerRegistry : Registry :=
  Registry.builtin.asked [moneyType, gradeEnum]

/-- The same localization with a registry of types that its table does not use. -/
theorem localization_stands_alone_remarked :
    Registry.builtin.Built ∧ richerRegistry.Built ∧
      (∃ cells, compileCells remarkedTexts Registry.builtin = .ok cells) ∧
      (∃ cells, compileCells remarkedTexts richerRegistry = .ok cells) ∧
      (compile "texts" remarkedTexts Registry.builtin).map (·.localization?)
        = (compile "texts" remarkedTexts richerRegistry).map (·.localization?) ∧
      (∃ table, compile "texts" remarkedTexts Registry.builtin = .ok table ∧
        table.localization? ≠ none) ∧
      decoratedColumns remarkedGrid.toRaw.names = [] ∧
      ∀ n source,
        compile "grid" remarkedGrid.toRaw Registry.builtin ≠ .error (.localization n source) := by
  have built := Registry.Built.builtin
  have richer : richerRegistry.Built := built.asked [moneyType, gradeEnum]
  have cells : ∃ cells, compileCells remarkedTexts Registry.builtin = .ok cells := ⟨_, rfl⟩
  have cells' : ∃ cells, compileCells remarkedTexts richerRegistry = .ok cells := ⟨_, rfl⟩
  have decorated : decoratedColumns remarkedTexts.names ≠ [] := by decide
  have undecorated : decoratedColumns remarkedGrid.toRaw.names = [] := rfl
  have texts := localization_stands_alone built richer "texts" remarkedTexts
  have grid := localization_stands_alone built richer "grid" remarkedGrid.toRaw
  have made : ∃ table, compile "texts" remarkedTexts Registry.builtin = .ok table := ⟨_, rfl⟩
  obtain ⟨table, compiled⟩ := made
  exact ⟨built, richer, cells, cells', (texts.2.2.1 cells).2 cells',
    ⟨table, compiled, fun hnone => decorated ((texts.2.2.2.1 table compiled).mp hnone)⟩,
    undecorated, grid.2.2.2.2 undecorated⟩

end TableCompiler
