import TableCompiler.Project.StructuredType
import TableCompiler.Source.Load
import TableCompiler.Text.Ordered

/-!
# Manifests — which sources a project has, and how it is built

A manifest is a RON, JSON or TOML file. Only its sources must be given. Two sources of one name would
overwrite each other's outputs, so names must differ.
-/

namespace TableCompiler

open TableCompiler.Files TableCompiler.Source TableCompiler.Text

/-- A source table: the name of what is made from it, and its file. -/
structure SourceEntry where
  name : String
  path : String
  deriving DecidableEq, Repr

/-- A project. Neither enum namespaces nor their members have an order that counts. -/
structure Manifest where
  sources : List SourceEntry
  outputDir : String
  enums : List (String × List (String × Int64))
  extensions : List StructuredType
  /-- Whether localization outputs are written. -/
  localization : Bool
  deriving DecidableEq

namespace Manifest

/-- Where outputs are written unless the manifest says so. -/
def defaultOutputDir : String := "out"

/-- A project with nothing but sources. -/
def ofSources (sources : List SourceEntry) : Manifest :=
  ⟨sources, defaultOutputDir, [], [], true⟩

/-- Checks that no two sources have one name. -/
def validate (m : Manifest) (file : String) : Except LoadError Unit :=
  match firstRepeated? (m.sources.map SourceEntry.name) with
  | some name => .error (.duplicateName file name)
  | none => .ok ()

/-! ## Reading -/

/-- A source in a structured text. -/
def readSource? {α : Type} (view : View α) (x : α) : Option SourceEntry := do
  let members ← view.fields? "SourceEntry" ["name", "path"] x
  let name ← required "name" view.text? members
  let path ← required "path" view.text? members
  return ⟨name, path⟩

/-- Enum namespaces in a structured text. The last of several that have one name counts, and so it is
with members. -/
def readEnums? {α : Type} (view : View α) (x : α) : Option (List (String × List (String × Int64))) :=
  (view.table? (fun y => (view.table? view.integer? y).map ordered) x).map ordered

/-- A structured type in a structured text. -/
def readExtension? {α : Type} (view : View α) (x : α) : Option StructuredType :=
  (view.choice? x).bind StructuredType.ofName?

/-- A manifest in a structured text. -/
def read? {α : Type} (view : View α) (x : α) : Option Manifest := do
  let members ← view.fields? "BuildManifest"
    ["sources", "output_dir", "enums", "extensions", "localization"] x
  let sources ← required "sources" (view.list? (readSource? view)) members
  let outputDir ← optional "output_dir" defaultOutputDir view.text? members
  let enums ← optional "enums" [] (readEnums? view) members
  let extensions ← optional "extensions" [] (view.list? (readExtension? view)) members
  let localization ← optional "localization" true view.truth? members
  return ⟨sources, outputDir, enums, extensions, localization⟩

/-- The manifest in a file. -/
def load (tree : FileTree) (file : String) : Except LoadError Manifest :=
  match loadStructured read? tree file with
  | .error e => .error e
  | .ok manifest =>
    match manifest.validate file with
    | .error e => .error e
    | .ok () => .ok manifest

/-! ## The registry of a project -/

/-- Adds enum namespaces one after another. -/
def registerEnums (r : Registry) (enums : List (String × List (String × Int64))) :
    Except RegistryError Registry :=
  enums.foldlM (fun r ns => r.registerEnum ns.1 (ordered ns.2)) r

/-- The built-in types with the structured types and enums of a project. Enums are added in ascending
order, so that it is always the same one that is refused. -/
def registry (m : Manifest) : Except RegistryError Registry :=
  match Registry.builtin.registerAllStructured m.extensions with
  | (_, .error e) => .error e
  | (r, .ok ()) => registerEnums r (ordered m.enums)

end Manifest

end TableCompiler
