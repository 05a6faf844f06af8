import TableCompiler.Project.Build
import TableCompiler.Proofs.Compile.LocalizationStage

/-!
# Preparation — what a build does before it writes

A source is loaded, then compiled, and the sources are taken one after the other; only when the last
one is compiled does a build write.  So a build that writes has compiled every source from the files as
they were (`prepare_ok`), and its tables are named like the sources.
-/

namespace TableCompiler

open TableCompiler.Files TableCompiler.Source

variable {m : Manifest} {base : String} {tree : FileTree} {registry : Registry}
variable {s : SourceEntry} {table : CompiledTable} {tables : List CompiledTable}

/-! ## Registries of projects -/

/-- Extension types are registered, and so leave a built registry a built one. -/
theorem built_of_registerRemaining {r r' : Registry} {done types : List StructuredType}
    (built : r.Built) (h : r.registerRemaining done types = (r', .ok ())) : r'.Built := by
  induction types generalizing r done with
  | nil =>
      obtain ⟨rfl, -⟩ := Prod.mk.inj h
      exact built
  | cons t rest ih =>
      rw [Registry.registerRemaining] at h
      split at h
      case isTrue => exact ih built h
      case isFalse =>
        split at h
        case h_1 => cases (Prod.mk.inj h).2
        case h_2 next hnext => exact ih (.register built hnext) h

theorem built_of_registerEnums {r r' : Registry} {enums : List (String × List (String × Int64))}
    (built : r.Built) (h : Manifest.registerEnums r enums = .ok r') : r'.Built := by
  induction enums generalizing r with
  | nil =>
      obtain rfl := Except.ok.inj h
      exact built
  | cons ns rest ih =>
      rw [Manifest.registerEnums, List.foldlM_cons] at h
      cases hns : r.registerEnum ns.1 (Text.ordered ns.2) with
      | error e =>
          rw [hns] at h
          cases h
      | ok next =>
          rw [hns] at h
          exact ih (.registerEnum built hns) h

/-- The registry of a project is made by registrations. -/
theorem built_of_registry (h : m.registry = .ok registry) : registry.Built := by
  rw [Manifest.registry] at h
  split at h
  case h_1 => cases h
  case h_2 r hr => exact built_of_registerEnums (built_of_registerRemaining .builtin hr) h

/-! ## Sources -/

/-- A source is loaded, then compiled, and each stage tells its own error. -/
theorem compileSource_eq_stages (tree : FileTree) (base : String) (registry : Registry)
    (s : SourceEntry) :
    compileSource tree base registry s
      = stage .load (loadTable tree (join base s.path)) fun raw =>
          stage .compile (compile s.name raw registry) .ok := by
  unfold compileSource
  cases loadTable tree (join base s.path) with
  | error e => rfl
  | ok raw =>
      simp only [stage]
      cases compile s.name raw registry <;> rfl

theorem compileSource_eq_ok_iff :
    compileSource tree base registry s = .ok table ↔
      ∃ raw, loadTable tree (join base s.path) = .ok raw ∧
        compile s.name raw registry = .ok table := by
  simp only [compileSource_eq_stages, stage_eq_ok_iff, Except.ok.injEq, exists_eq_right]

/-- Sources are compiled one after the other, up to the first that fails. -/
theorem compileSources_eq_tryAll (tree : FileTree) (base : String) (registry : Registry)
    (sources : List SourceEntry) :
    compileSources tree base registry sources
      = tryAll (compileSource tree base registry) sources := by
  induction sources with
  | nil => rfl
  | cons s rest ih =>
      rw [compileSources, List.mapM_cons, tryAll, ← ih, compileSources]
      cases compileSource tree base registry s with
      | error e => rfl
      | ok table => cases rest.mapM (compileSource tree base registry) <;> rfl

/-- A build is prepared in two stages: the registry, and the sources with it. -/
theorem prepare_eq_stages (m : Manifest) (base : String) (tree : FileTree) :
    prepare m base tree
      = stage .registry m.registry fun registry =>
          tryAll (compileSource tree base registry) m.sources := by
  simp only [prepare, ← compileSources_eq_tryAll]
  cases m.registry <;> rfl

/-- The tables that sources are compiled to under one registry, each source by itself. -/
def CompiledTo (tree : FileTree) (base : String) (registry : Registry) (sources : List SourceEntry)
    (tables : List CompiledTable) : Prop :=
  List.Forall₂ (fun s table => compileSource tree base registry s = .ok table) sources tables

/-- **PREPARATION** compiles every source, in order, under one registry. -/
theorem prepare_eq_ok_iff :
    prepare m base tree = .ok tables ↔
      ∃ registry, m.registry = .ok registry ∧ CompiledTo tree base registry m.sources tables := by
  simp only [prepare_eq_stages, stage_eq_ok_iff, tryAll_eq_ok_iff, CompiledTo]

/-- A build that gets through its preparation has loaded and compiled every source. -/
theorem prepare_ok (h : prepare m base tree = .ok tables) :
    ∃ registry, m.registry = .ok registry ∧
      List.Forall₂ (fun s table => ∃ raw, loadTable tree (join base s.path) = .ok raw ∧
        compile s.name raw registry = .ok table) m.sources tables := by
  obtain ⟨registry, hregistry, each⟩ := prepare_eq_ok_iff.mp h
  exact ⟨registry, hregistry, each.imp fun s table => compileSource_eq_ok_iff.mp⟩

/-- The tables are named like their sources, in their order. -/
theorem names_of_prepare (h : prepare m base tree = .ok tables) :
    tables.map CompiledTable.name = m.sources.map SourceEntry.name := by
  obtain ⟨registry, -, htables⟩ := prepare_ok h
  rw [← List.forall₂_eq_eq_eq, List.forall₂_map_left_iff, List.forall₂_map_right_iff]
  refine List.Forall₂.flip (htables.imp ?_)
  rintro s table ⟨raw, -, hcompile⟩
  exact (compile_ok hcompile).1

end TableCompiler
