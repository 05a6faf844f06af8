import TableCompiler.Proofs.Project.Preparation

/-!
# The first failure — what a build reports when it cannot write anything yet

A build registers, then loads and compiles source after source, and only then writes.  So whatever goes
wrong before the last source is compiled is reported, and leaves the files as they were.  `SourceFault`
tells the stages in which a source can fail, each with its error; `FirstFailure` picks the failure that
comes first, wherever it stands among the sources and whatever follows it (`build_of_failure`).
-/

namespace TableCompiler

open TableCompiler.Files TableCompiler.Source TableCompiler.Localization

variable {m : Manifest} {base file : String} {tree : FileTree} {registry : Registry}
variable {s : SourceEntry} {raw : RawTable} {table : CompiledTable} {e : BuildError}

/-! ## Loading -/

/-- Why a file gives no table, stage by stage. -/
inductive LoadFault (tree : FileTree) (file : String) : LoadError → Prop
  | format : Format.ofPath? file = none → LoadFault tree file (.unsupportedFormat file)
  | refused {format : Format} {reason : Refusal} :
      Format.ofPath? file = some format → tree.readText file = .error reason →
      LoadFault tree file (.refused file reason)
  | parse {format : Format} {text : String} :
      Format.ofPath? file = some format → tree.readText file = .ok text →
      parseGrid? format text = none → LoadFault tree file (.parse file)
  | shape {format : Format} {text : String} {rows : List (List String)} {source : TableError} :
      Format.ofPath? file = some format → tree.readText file = .ok text →
      parseGrid? format text = some rows → RawTable.ofRows rows = .error source →
      LoadFault tree file (.table file source)

/-- A table fails to load at the first stage that fails: its format, its file, its rows, its shape. -/
theorem loadTable_eq_error_iff {e : LoadError} :
    loadTable tree file = .error e ↔ LoadFault tree file e := by
  constructor
  · intro h
    -- the stages in their order, each with the ones before it passed
    cases hformat : Format.ofPath? file with
    | none =>
        simp only [loadTable, readRows, detectFormat, hformat] at h
        obtain rfl := Except.error.inj h
        exact .format hformat
    | some format =>
        cases htext : tree.readText file with
        | error reason =>
            simp only [loadTable, readRows, detectFormat, Source.readText, hformat, htext] at h
            obtain rfl := Except.error.inj h
            exact .refused hformat htext
        | ok text =>
            simp only [loadTable, readRows, detectFormat, Source.readText, hformat, htext] at h
            cases hgrid : parseGrid? format text with
            | none =>
                simp only [hgrid] at h
                obtain rfl := Except.error.inj h
                exact .parse hformat htext hgrid
            | some rows =>
                simp only [hgrid] at h
                cases htable : RawTable.ofRows rows with
                | ok table =>
                    simp only [htable] at h
                    cases h
                | error source =>
                    simp only [htable] at h
                    obtain rfl := Except.error.inj h
                    exact .shape hformat htext hgrid htable
  · intro h
    cases h with
    | format hformat => simp only [loadTable, readRows, detectFormat, hformat]
    | refused hformat htext =>
        simp only [loadTable, readRows, detectFormat, Source.readText, hformat, htext]
    | parse hformat htext hgrid =>
        simp only [loadTable, readRows, detectFormat, Source.readText, hformat, htext, hgrid]
    | shape hformat htext hgrid htable =>
        simp only [loadTable, readRows, detectFormat, Source.readText, hformat, htext, hgrid, htable]

/-! ## Compiling -/

/-- Why a source gives no compiled table, stage by stage. -/
inductive SourceFault (tree : FileTree) (base : String) (registry : Registry) (s : SourceEntry) :
    BuildError → Prop
  | load {source : LoadError} : LoadFault tree (join base s.path) source →
      SourceFault tree base registry s (.load source)
  | cells {raw : RawTable} {source : TableError} :
      loadTable tree (join base s.path) = .ok raw → FirstFault raw registry source →
      SourceFault tree base registry s (.compile (.table s.name source))
  | extraction {raw : RawTable} {source : LocalizationError} :
      loadTable tree (join base s.path) = .ok raw → (∀ fault, ¬FirstFault raw registry fault) →
      HashTable.extract raw = .error source →
      SourceFault tree base registry s (.compile (.localization s.name source))
  | pivoting {raw : RawTable} {h : HashTable} {source : LocalizationError} :
      loadTable tree (join base s.path) = .ok raw → (∀ fault, ¬FirstFault raw registry fault) →
      HashTable.extract raw = .ok h → h.isEmpty = false → TextTable.pivot h = .error source →
      SourceFault tree base registry s (.compile (.localization s.name source))

/-- The cells are compiled just if none of them has a fault. -/
theorem exists_compileCells_iff :
    (∃ cells, compileCells raw registry = .ok cells) ↔ ∀ fault, ¬FirstFault raw registry fault := by
  constructor
  · rintro ⟨cells, hcells⟩ fault hfault
    exact nomatch hcells.symm.trans (compileCells_eq_error_iff.mpr hfault)
  · intro hnone
    cases hcells : compileCells raw registry with
    | ok cells => exact ⟨cells, rfl⟩
    | error fault => exact absurd (compileCells_eq_error_iff.mp hcells) (hnone fault)

/-- A source fails when it is loaded, or else when it is compiled. -/
theorem compileSource_eq_error_iff :
    compileSource tree base registry s = .error e ↔
      (∃ source, loadTable tree (join base s.path) = .error source ∧ e = .load source) ∨
        ∃ raw source, loadTable tree (join base s.path) = .ok raw ∧
          compile s.name raw registry = .error source ∧ e = .compile source := by
  simp only [compileSource_eq_stages, stage_eq_error_iff, reduceCtorEq, and_false, exists_false,
    or_false, exists_and_left]

/-- **A SOURCE FAILS** at the first stage that it does not pass. -/
theorem compileSource_eq_error_iff_fault (built : registry.Built) :
    compileSource tree base registry s = .error e ↔ SourceFault tree base registry s e := by
  rw [compileSource_eq_error_iff]
  simp only [loadTable_eq_error_iff, compile_eq_error_iff, compileCells_eq_error_iff,
    exists_compileCells_iff, localize_eq_error_iff built]
  -- every stage has its own characterisation, so the cases only change their names
  constructor
  · rintro (⟨source, hsource, rfl⟩ | ⟨raw, _, hraw, ⟨source, hsource, rfl⟩ | ⟨hcells, hstage⟩, rfl⟩)
    · exact .load hsource
    · exact .cells hraw hsource
    · rcases hstage with ⟨source, hextract, rfl⟩ | ⟨h, source, hextract, hempty, hpivot, rfl⟩
      · exact .extraction hraw hcells hextract
      · exact .pivoting hraw hcells hextract hempty hpivot
  · intro hfault
    cases hfault with
    | load hsource => exact .inl ⟨_, hsource, rfl⟩
    | cells hraw hsource => exact .inr ⟨_, _, hraw, .inl ⟨_, hsource, rfl⟩, rfl⟩
    | extraction hraw hcells hextract =>
        exact .inr ⟨_, _, hraw, .inr ⟨hcells, .inl ⟨_, hextract, rfl⟩⟩, rfl⟩
    | pivoting hraw hcells hextract hempty hpivot =>
        exact .inr ⟨_, _, hraw, .inr ⟨hcells, .inr ⟨_, _, hextract, hempty, hpivot, rfl⟩⟩, rfl⟩

/-! ## Building -/

/-- What ends a build before it writes: the registration, or the first source in the order of the
manifest that fails. -/
inductive FirstFailure (m : Manifest) (base : String) (tree : FileTree) : BuildError → Prop
  | registry {source : RegistryError} :
      m.registry = .error source → FirstFailure m base tree (.registry source)
  | source {registry : Registry} {before after : List SourceEntry} {s : SourceEntry}
      {e : BuildError} :
      m.registry = .ok registry → m.sources = before ++ s :: after →
      (∀ earlier ∈ before, ∃ table, compileSource tree base registry earlier = .ok table) →
      SourceFault tree base registry s e → FirstFailure m base tree e

/-- Whether something goes wrong before a build writes: the registration fails, or some source is not
loaded or not compiled. -/
def Fails (m : Manifest) (base : String) (tree : FileTree) : Prop :=
  (∃ source, m.registry = .error source) ∨
    ∃ registry, m.registry = .ok registry ∧ ∃ s ∈ m.sources,
      (∃ source, loadTable tree (join base s.path) = .error source) ∨
        ∃ raw source, loadTable tree (join base s.path) = .ok raw ∧
          compile s.name raw registry = .error source

/-- **THE FIRST FAILURE DECIDES**: set-up comes first, then the sources in their order. -/
theorem prepare_eq_error_iff :
    prepare m base tree = .error e ↔ FirstFailure m base tree e := by
  rw [prepare_eq_stages, stage_eq_error_iff]
  simp only [tryAll_eq_error_iff]
  constructor
  · rintro (⟨source, hsource, rfl⟩ | ⟨registry, hregistry, before, s, after, hsplit, hfails, hbefore⟩)
    · exact .registry hsource
    · exact .source hregistry hsplit hbefore
        ((compileSource_eq_error_iff_fault (built_of_registry hregistry)).mp hfails)
  · intro h
    cases h with
    | registry hsource => exact .inl ⟨_, hsource, rfl⟩
    | source hregistry hsplit hbefore hfault =>
        exact .inr ⟨_, hregistry, _, _, _, hsplit,
          (compileSource_eq_error_iff_fault (built_of_registry hregistry)).mpr hfault, hbefore⟩

/-- Where something goes wrong, something goes wrong first. -/
theorem Fails.exists_first (fails : Fails m base tree) : ∃ e, FirstFailure m base tree e := by
  rcases fails with ⟨source, hsource⟩ | ⟨registry, hregistry, s, hs, hfails⟩
  · exact ⟨_, .registry hsource⟩
  · cases hprepare : prepare m base tree with
    | error e => exact ⟨e, prepare_eq_error_iff.mp hprepare⟩
    | ok tables =>
        -- all sources would have been compiled
        rw [prepare_eq_stages, hregistry] at hprepare
        obtain ⟨table, htable⟩ := exists_ok_of_tryAll hprepare s hs
        obtain ⟨raw, hraw, hcompile⟩ := compileSource_eq_ok_iff.mp htable
        rcases hfails with ⟨source, hsource⟩ | ⟨raw', source, hraw', hsource⟩
        · exact nomatch hsource.symm.trans hraw
        · obtain rfl := Except.ok.inj (hraw'.symm.trans hraw)
          exact nomatch hsource.symm.trans hcompile

/-- **A FAILED COMPILE LEAVES THE FILES**: if the registration fails or some source is not loaded or
not compiled, the build reports what failed first, and the tree is the one it began with. -/
theorem build_of_failure (fails : Fails m base tree) :
    (∃ e, FirstFailure m base tree e) ∧
      ∀ e, FirstFailure m base tree e → build m base tree = (tree, .error e) := by
  refine ⟨fails.exists_first, fun e hfirst => ?_⟩
  rw [build, prepare_eq_error_iff.mpr hfirst]

/-- A source that is compiled, a source with a number that is too large, and a source that is not
there. -/
def brokenProject : Manifest :=
  .ofSources [⟨"item", "item.csv"⟩, ⟨"price", "price.csv"⟩, ⟨"lost", "lost.csv"⟩]

def brokenFiles : FileTree :=
  ⟨[], [(["item.csv"], .file (Text.Utf8.encode "id\nint\n7\n")),
    (["price.csv"], .file (Text.Utf8.encode "gold\nuint8\n12\n300\n"))]⟩

def brokenError : BuildError :=
  .compile (.table "price" (.fieldConversion 1 0 ⟨.overflow, "300", "> 255"⟩))

/-- The error of a build that failed. -/
def failure? : Except BuildError BuildReport → Option BuildError
  | .error e => some e
  | .ok _ => none

/-- The number that is too large is reported, and not the source that is missing. -/
theorem build_of_failure_broken :
    Fails brokenProject "" brokenFiles ∧ FirstFailure brokenProject "" brokenFiles brokenError ∧
      build brokenProject "" brokenFiles = (brokenFiles, .error brokenError) := by
  have hlost : loadTable brokenFiles (join "" "lost.csv")
      = .error (.refused "lost.csv" .notFound) :=
    loadTable_eq_error_iff.mpr (@LoadFault.refused _ _ .csv _ (by decide +kernel) rfl)
  have fails : Fails brokenProject "" brokenFiles :=
    .inr ⟨.builtin, rfl, ⟨"lost", "lost.csv"⟩, by decide, .inl ⟨_, hlost⟩⟩
  obtain ⟨⟨e, hfirst⟩, hbuild⟩ := build_of_failure fails
  have hreported : failure? (build brokenProject "" brokenFiles).2 = some brokenError := by
    decide +kernel
  rw [hbuild e hfirst] at hreported
  obtain rfl : e = brokenError := Option.some.inj hreported
  exact ⟨fails, hfirst, hbuild _ hfirst⟩

end TableCompiler
