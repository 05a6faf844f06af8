import TableCompiler.Proofs.Compile.FirstFault
import TableCompiler.Proofs.Localization.Collision

/-!
# The localization stage — which of its steps can end a compilation

A table is extracted, pivoted, converted and dumped, one after the other.  Whatever has been registered,
the types of a hash table are there and hold its words, so only the first two steps can fail
(`localize_eq_error_iff`).  A table without decorated columns passes with nothing made.
-/

namespace TableCompiler

open TableCompiler.Localization

variable {raw : RawTable} {registry : Registry} {name : String} {e : CompileError}
variable {localization? : Option CompiledLocalization} {table : CompiledTable}

/-! ## What is made of a hash table -/

/-- The localization of a table whose hash table is given: the hash table as values and as bytes, and
the pivoted texts. -/
structure LocalizedFrom (registry : Registry) (h : HashTable) (l : CompiledLocalization) : Prop where
  pivoted : TextTable.pivot h = .ok l.textTable
  typed : h.toTyped registry = .ok l.hashTable
  encoded : BinaryTable.encode l.hashTable = .ok l.binary

/-- A hash table is empty when its source has no decorated columns. -/
theorem isEmpty_iff_of_extract {h : HashTable} (extracted : HashTable.extract raw = .ok h) :
    h.isEmpty = true ↔ decoratedColumns raw.names = [] := by
  obtain ⟨-, -, rfl⟩ := extract_eq_ok_iff.mp extracted
  rw [HashTable.isEmpty, decide_eq_true_eq, distinctLocales_eq, List.length_eq_zero_iff]
  cases decoratedColumns raw.names with
  | nil => exact ⟨fun _ => rfl, fun _ => rfl⟩
  | cons column rest =>
      rw [List.map_cons, List.eraseDups_cons]
      exact ⟨(fun h => nomatch h), (fun h => nomatch h)⟩

/-- The first column of a text table is named after the algorithm. -/
theorem head_header_of_pivot {h : HashTable} {t : TextTable}
    (extracted : HashTable.extract raw = .ok h) (pivoted : TextTable.pivot h = .ok t) :
    t.header.head? = some algorithmName := by
  obtain ⟨-, one, rfl⟩ := extract_eq_ok_iff.mp extracted
  obtain ⟨locales, hzero⟩ := headEntries_zero one
  rw [(pivotedFrom_of_pivot pivoted).header, hzero]
  rfl

/-- The bytes of a hash table are in three columns. -/
theorem LocalizedFrom.columnCount {h : HashTable} {l : CompiledLocalization}
    (made : LocalizedFrom registry h l) : l.binary.columnCount = 3 := by
  have hnames : l.hashTable.names = HashTable.fieldNames := by
    have htyped := made.typed
    rw [HashTable.toTyped] at htyped
    split at htyped
    case h_1 => cases htyped
    case h_2 => rw [← Except.ok.inj htyped]
  have hencoded := made.encoded
  rw [BinaryTable.encode] at hencoded
  split at hencoded
  case h_1 => cases hencoded
  case h_2 =>
    rw [← Except.ok.inj hencoded, BinaryTable.columnCount, List.length_map, hnames]
    rfl

/-- A table is localized in four stages, each with its own error. -/
theorem localize_eq_stages (name : String) (raw : RawTable) (registry : Registry) :
    localize name raw registry
      = stage (.localization name) (HashTable.extract raw) fun h =>
          if h.isEmpty then .ok none
          else stage (.localization name) (TextTable.pivot h) fun texts =>
            stage (.localization name) (h.toTyped registry) fun typed =>
              stage (.table name) (BinaryTable.encode typed) fun binary =>
                .ok (some ⟨typed, binary, texts⟩) := by
  -- the stages are those of the definition; each error ends them in its own way
  rw [localize]
  cases HashTable.extract raw with
  | error e => rfl
  | ok h =>
      simp only [stage]
      split
      case isTrue => rfl
      case isFalse =>
        cases TextTable.pivot h with
        | error e => rfl
        | ok texts =>
            cases h.toTyped registry with
            | error e => rfl
            | ok typed =>
                dsimp only
                cases BinaryTable.encode typed <;> rfl

/-- **THE LOCALIZATION STAGE** fails with the extraction or the pivot, and in no other way. -/
theorem localize_eq_error_iff (built : registry.Built) :
    localize name raw registry = .error e ↔
      (∃ e', HashTable.extract raw = .error e' ∧ e = .localization name e') ∨
        ∃ h e', HashTable.extract raw = .ok h ∧ h.isEmpty = false ∧
          TextTable.pivot h = .error e' ∧ e = .localization name e' := by
  rw [localize_eq_stages, stage_eq_error_iff]
  refine or_congr Iff.rfl ⟨?_, ?_⟩
  · rintro ⟨h, hextract, hnext⟩
    split at hnext
    case isTrue => cases hnext
    case isFalse hempty =>
      rcases stage_eq_error_iff.mp hnext with ⟨e', hpivot, rfl⟩ | ⟨texts, -, hnext⟩
      · exact ⟨h, e', hextract, Bool.eq_false_iff.mpr hempty, hpivot, rfl⟩
      -- whatever is registered, a hash table has types and is dumped
      · rw [toTyped_eq_values built, stage, encode_values] at hnext
        cases hnext
  · rintro ⟨h, e', hextract, hempty, hpivot, rfl⟩
    refine ⟨h, hextract, ?_⟩
    rw [hempty, if_neg Bool.false_ne_true, hpivot, stage]

/-- A table without decorated columns passes, even through a registry that nobody built. -/
theorem localize_of_undecorated (undecorated : decoratedColumns raw.names = []) :
    localize name raw registry = .ok none := by
  have hrows : extractedRows raw = headRows := by
    rw [extractedRows, undecorated, List.flatMap_nil, List.append_nil]
  have hextract : HashTable.extract raw = .ok ⟨headRows, 0⟩ := by
    refine extract_eq_ok_iff.mpr ⟨?_, ?_, ?_⟩
    · rw [undecorated]
      intro column hcolumn
      cases hcolumn
    · rw [hrows]
      exact oneText_headRows
    · rw [hrows, undecorated]
      rfl
  rw [localize, hextract]
  rfl

/-- What the stage gives when it succeeds. -/
theorem localize_ok (h : localize name raw registry = .ok localization?) :
    ∃ hashed, HashTable.extract raw = .ok hashed ∧
      (hashed.isEmpty = true ∧ localization? = none ∨
        hashed.isEmpty = false ∧
          ∃ l, localization? = some l ∧ LocalizedFrom registry hashed l) := by
  rw [localize_eq_stages] at h
  obtain ⟨hashed, hextract, hnext⟩ := stage_eq_ok_iff.mp h
  refine ⟨hashed, hextract, ?_⟩
  split at hnext
  case isTrue hempty => exact .inl ⟨hempty, (Except.ok.inj hnext).symm⟩
  case isFalse hempty =>
    obtain ⟨texts, hpivot, hnext⟩ := stage_eq_ok_iff.mp hnext
    obtain ⟨typed, htyped, hnext⟩ := stage_eq_ok_iff.mp hnext
    obtain ⟨binary, hbinary, hnext⟩ := stage_eq_ok_iff.mp hnext
    exact .inr ⟨Bool.eq_false_iff.mpr hempty, ⟨typed, binary, texts⟩, (Except.ok.inj hnext).symm,
      hpivot, htyped, hbinary⟩

/-! ## Both stages -/

/-- A table is compiled in two stages: its cells, then its localization. -/
theorem compile_eq_stages (name : String) (raw : RawTable) (registry : Registry) :
    compile name raw registry
      = stage (.table name) (compileCells raw registry) fun cells =>
          stage id (localize name raw registry) fun localization? =>
            .ok ⟨name, cells.1, cells.2, localization?⟩ := by
  rw [compile]
  cases compileCells raw registry with
  | error e => rfl
  | ok cells => cases localize name raw registry <;> rfl

/-- A table fails for a cell, or else for its localization. -/
theorem compile_eq_error_iff :
    compile name raw registry = .error e ↔
      (∃ e', compileCells raw registry = .error e' ∧ e = .table name e') ∨
        (∃ cells, compileCells raw registry = .ok cells) ∧
          localize name raw registry = .error e := by
  rw [compile_eq_stages, stage_eq_error_iff]
  refine or_congr Iff.rfl ⟨?_, ?_⟩
  · rintro ⟨cells, hcells, hnext⟩
    rcases stage_eq_error_iff.mp hnext with ⟨e', hlocalize, rfl⟩ | ⟨localization?, -, hnext⟩
    · exact ⟨⟨cells, hcells⟩, hlocalize⟩
    · cases hnext
  · rintro ⟨⟨cells, hcells⟩, hlocalize⟩
    exact ⟨cells, hcells, stage_eq_error_iff.mpr (.inl ⟨e, hlocalize, rfl⟩)⟩

/-- What a compiled table is made of. -/
theorem compile_ok (h : compile name raw registry = .ok table) :
    table.name = name ∧ compileCells raw registry = .ok (table.typed, table.binary) ∧
      localize name raw registry = .ok table.localization? := by
  rw [compile_eq_stages] at h
  obtain ⟨cells, hcells, hnext⟩ := stage_eq_ok_iff.mp h
  obtain ⟨localization?, hlocalize, hnext⟩ := stage_eq_ok_iff.mp hnext
  obtain rfl := Except.ok.inj hnext
  exact ⟨rfl, hcells, hlocalize⟩

end TableCompiler
