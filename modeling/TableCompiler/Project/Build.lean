import TableCompiler.Artifact.Basic
import TableCompiler.Compile
import TableCompiler.Csv.Writer
import TableCompiler.Project.Manifest

/-!
# Building — the sources of a project to files

Every source is loaded and compiled before anything is written. Then the outputs of each table are
written in the order of the manifest: the compiled table, and if it has decorated columns the compiled
localization table and a CSV of the texts for review. A write that is refused ends the build; what was
written before it stays.
-/

namespace TableCompiler

open TableCompiler.Files TableCompiler.Source

/-- Why a project cannot be built. -/
inductive BuildError where
  | load (source : LoadError)
  | registry (source : RegistryError)
  | compile (source : CompileError)
  | write (file : String) (reason : Refusal)
  | csv (file : String) (reason : Refusal)
  deriving DecidableEq, Repr

/-- The wording of a build error. -/
def BuildError.message : BuildError → String
  | .load source => source.message
  | .registry source => "registry setup failed: " ++ source.message
  | .compile source => source.message
  | .write file reason => "writing " ++ file ++ ": " ++ reason.message
  | .csv file reason => "writing csv " ++ file ++ ": " ++ reason.message

/-- What one source gave. -/
structure TableReport where
  name : String
  rows : Nat
  columns : Nat
  /-- The number of localized texts, if localization outputs were written. -/
  localized? : Option Nat
  outputs : List String
  deriving DecidableEq, Repr

/-- What a build gave, in the order of the manifest. -/
structure BuildReport where
  outputDir : String
  tables : List TableReport
  deriving DecidableEq, Repr

namespace BuildReport

/-- The report on the table of that name. -/
def table? (r : BuildReport) (name : String) : Option TableReport :=
  r.tables.find? fun t => t.name = name

/-- Every file that was written, in order. -/
def outputs (r : BuildReport) : List String :=
  r.tables.flatMap TableReport.outputs

end BuildReport

/-- Loads and compiles a source. -/
def compileSource (tree : FileTree) (base : String) (registry : Registry) (s : SourceEntry) :
    Except BuildError CompiledTable :=
  match loadTable tree (join base s.path) with
  | .error e => .error (.load e)
  | .ok raw =>
    match compile s.name raw registry with
    | .error e => .error (.compile e)
    | .ok table => .ok table

/-- Loads and compiles sources one after the other, in the order in which they are listed, so the first
failure counts. This is the build without the feature `parallel`, as it is by default. With it the
sources are compiled on several threads, and which of several failures is reported is not fixed. -/
def compileSources (tree : FileTree) (base : String) (registry : Registry)
    (sources : List SourceEntry) : Except BuildError (List CompiledTable) :=
  sources.mapM (compileSource tree base registry)

/-- What a table is written as. -/
inductive Content where
  | artifact (bytes : List UInt8)
  | csv (text : String)
  deriving DecidableEq, Repr

/-- A file to write. -/
structure Output where
  file : String
  content : Content
  deriving DecidableEq, Repr

/-- The artifact of a table. -/
def artifactOutput (dir name : String) (b : BinaryTable) : Output :=
  ⟨join dir (name ++ "." ++ artifactExtension), .artifact (Artifact.ofTable name b).toBytes⟩

/-- The name of the localization outputs of a table. -/
def localizationName (name : String) : String :=
  name ++ ".l10n"

/-- The localization outputs of a table. -/
def localizationOutputs (dir name : String) (l : CompiledLocalization) : List Output :=
  [artifactOutput dir (localizationName name) l.binary,
   ⟨join dir (localizationName name ++ ".csv"), .csv (Csv.write l.textTable.toRaw.toRows)⟩]

/-- What is written of a table's localization. -/
def writtenLocalization? (table : CompiledTable) (localization : Bool) :
    Option CompiledLocalization :=
  if localization then table.localization? else none

/-- The outputs of a table, in order. -/
def tableOutputs (dir : String) (localization : Bool) (table : CompiledTable) : List Output :=
  artifactOutput dir table.name table.binary ::
    ((writtenLocalization? table localization).map (localizationOutputs dir table.name)).getD []

/-- The report on a table. -/
def tableReport (dir : String) (localization : Bool) (table : CompiledTable) : TableReport where
  name := table.name
  rows := table.binary.rowCount
  columns := table.binary.columnCount
  localized? := (writtenLocalization? table localization).map fun l => l.textTable.rows.length
  outputs := (tableOutputs dir localization table).map Output.file

/-- Writes a file. -/
def writeOutput (tree : FileTree) (o : Output) : Except BuildError FileTree :=
  match o.content with
  | .artifact bytes =>
    match tree.write o.file bytes with
    | .ok tree => .ok tree
    | .error reason => .error (.write o.file reason)
  | .csv text =>
    match tree.write o.file (Text.Utf8.encode text) with
    | .ok tree => .ok tree
    | .error reason => .error (.csv o.file reason)

/-- Writes files in order up to the first refusal: the tree then, and the refusal. -/
def writeOutputs (tree : FileTree) : List Output → FileTree × Except BuildError Unit
  | [] => (tree, .ok ())
  | o :: rest =>
    match writeOutput tree o with
    | .error e => (tree, .error e)
    | .ok tree => writeOutputs tree rest

/-- Everything that must succeed before a build writes. -/
def prepare (m : Manifest) (base : String) (tree : FileTree) :
    Except BuildError (List CompiledTable) :=
  match m.registry with
  | .error e => .error (.registry e)
  | .ok registry => compileSources tree base registry m.sources

/-- Builds a project whose paths begin at `base`: the tree afterwards, and the report. -/
def build (m : Manifest) (base : String) (tree : FileTree) :
    FileTree × Except BuildError BuildReport :=
  match prepare m base tree with
  | .error e => (tree, .error e)
  | .ok tables =>
    let dir := join base m.outputDir
    match tree.createDirectories dir with
    | .error reason => (tree, .error (.load (.refused dir reason)))
    | .ok tree =>
      match writeOutputs tree (tables.flatMap (tableOutputs dir m.localization)) with
      | (tree, .error e) => (tree, .error e)
      | (tree, .ok ()) => (tree, .ok ⟨dir, tables.map (tableReport dir m.localization)⟩)

end TableCompiler
