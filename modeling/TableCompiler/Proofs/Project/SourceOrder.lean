import Mathlib.Data.List.Perm.Basic
import TableCompiler.Proofs.Project.Placing

/-!
# Source order — builds of one project with its sources in any order

A build reads all of its sources before it writes, so what a source is compiled to does not depend on
its place in the manifest (`prepare_of_perm`), not even where an output takes the place of another
source.  Different outputs can be put in any order.  So a project can be built with its sources in any
order, to the same files, and every source has the same report (`build_of_perm`).
-/

namespace TableCompiler

open TableCompiler.Files

variable {m : Manifest} {base dir : String} {tree after : FileTree} {report : BuildReport}
variable {registry : Registry} {tables : List CompiledTable} {sources : List SourceEntry}
variable {localization : Bool}

/-- **PREPARATION** compiles sources in another order to the same tables, in that order. -/
theorem prepare_of_perm (perm : sources.Perm m.sources) (prepared : prepare m base tree = .ok tables) :
    ∃ registry tables', prepare { m with sources := sources } base tree = .ok tables' ∧
      tables'.Perm tables ∧ CompiledTo tree base registry m.sources tables ∧
      CompiledTo tree base registry sources tables' := by
  obtain ⟨registry, hregistry, each⟩ := prepare_eq_ok_iff.mp prepared
  obtain ⟨tables', each', perm'⟩ := List.perm_comp_forall₂ perm each
  exact ⟨registry, tables', prepare_eq_ok_iff.mpr ⟨registry, hregistry, each'⟩, perm', each, each'⟩

/-- The report on a source, told from what it is compiled to; a source that fails has no outputs. -/
def sourceReport (dir : String) (localization : Bool) (s : SourceEntry) :
    Except BuildError CompiledTable → TableReport
  | .ok table => tableReport dir localization table
  | .error _ => ⟨s.name, 0, 0, none, []⟩

/-- The reports on tables are those on the sources that they are compiled from. -/
theorem reports_of_compiledTo (each : CompiledTo tree base registry sources tables) :
    tables.map (tableReport dir localization)
      = sources.map fun s => sourceReport dir localization s (compileSource tree base registry s) := by
  rw [← List.forall₂_eq_eq_eq, List.forall₂_map_left_iff, List.forall₂_map_right_iff]
  refine List.Forall₂.flip (each.imp fun s table compiled => ?_)
  show tableReport dir localization table
    = sourceReport dir localization s (compileSource tree base registry s)
  rw [compiled, sourceReport]

/-- **SOURCES IN ANOTHER ORDER**: if a build succeeds and its outputs are different files, then it
succeeds with its sources in any order, leaves the same files, and reports the same on each source. -/
theorem build_of_perm (perm : sources.Perm m.sources)
    (h : build m base tree = (after, .ok report))
    (differ : report.outputs.Pairwise fun file file' => ¬SameFile after file file') :
    ∃ after' reportOn, report.tables = m.sources.map reportOn ∧
      build { m with sources := sources } base tree
        = (after', .ok ⟨report.outputDir, sources.map reportOn⟩) ∧
      after.Alike after' := by
  have nodup := (apart_iff_nodup h).mp differ
  obtain ⟨tables, made, stages, rfl⟩ := build_eq_ok_iff.mp h
  obtain ⟨writable, rfl⟩ := writeOutputs_eq_ok_iff.mp stages.written
  obtain ⟨registry, tables', prepared, perm', each, each'⟩ := prepare_of_perm perm stages.prepared
  have outputs : (projectOutputs { m with sources := sources } base tables').Perm
      (projectOutputs m base tables) :=
    perm'.flatMap_right _
  have written := writeOutputs_eq_ok_iff.mpr
    ⟨fun o ho => writable o (outputs.mem_iff.mp ho), rfl⟩
  refine ⟨_, fun s => sourceReport (join base m.outputDir) m.localization s
      (compileSource tree base registry s), reports_of_compiledTo each,
    build_eq_ok_iff.mpr ⟨_, made, ⟨prepared, stages.opened, written⟩, ?_⟩, ?_⟩
  · exact congrArg (BuildReport.mk _) (reports_of_compiledTo each').symm
  -- the same files are put in another order, at places that differ
  · refine FileTree.alike_putAll_of_perm (outputs.map _) ?_ ?_
    · rwa [places_of_outputs stages.home, ← outputs_projectReport]
    · intro p hp
      obtain ⟨o, ho, rfl⟩ := List.mem_map.mp hp
      exact (writable o ho).apart

/-- A localized table, and a table whose source is where the texts of the other one are written. -/
def replacedSource : Manifest :=
  { Manifest.ofSources [⟨"item", "item.csv"⟩, ⟨"notes", "item.l10n.csv"⟩] with outputDir := "." }

def replacedFiles : FileTree :=
  ⟨[], [(["item.csv"], .file (Text.Utf8.encode "id,$id[en]\nstr,str\nA,Apple\n")),
    (["item.l10n.csv"], .file (Text.Utf8.encode "id\nint\n7\n"))]⟩

def replacedReport : BuildReport :=
  ⟨".", [⟨"item", 1, 1, some 1, ["./item.tbl", "./item.l10n.tbl", "./item.l10n.csv"]⟩,
    ⟨"notes", 1, 1, none, ["./notes.tbl"]⟩]⟩

theorem build_replaced :
    build replacedSource "" replacedFiles
      = ((build replacedSource "" replacedFiles).1, .ok replacedReport) := by
  have hreport : (build replacedSource "" replacedFiles).2 = .ok replacedReport :=
    eq_ok_of_toOption (by decide +kernel)
  rw [← hreport]

/-- Two sources in either order, where one of the outputs is there already. -/
theorem build_of_perm_replaced :
    replacedSource.sources.reverse.Perm replacedSource.sources ∧
      build replacedSource "" replacedFiles
        = ((build replacedSource "" replacedFiles).1, .ok replacedReport) ∧
      (replacedReport.outputs.Pairwise fun file file' =>
        ¬SameFile (build replacedSource "" replacedFiles).1 file file') ∧
      ∃ after', build { replacedSource with sources := replacedSource.sources.reverse } ""
          replacedFiles = (after', .ok ⟨".", replacedReport.tables.reverse⟩) ∧
        (build replacedSource "" replacedFiles).1.Alike after' := by
  have perm := List.reverse_perm replacedSource.sources
  have differ := (apart_iff_nodup build_replaced).mpr (by decide +kernel)
  obtain ⟨after', reportOn, reports, built, alike⟩ := build_of_perm perm build_replaced differ
  refine ⟨perm, build_replaced, differ, after', ?_, alike⟩
  rw [reports, ← List.map_reverse]
  exact built

end TableCompiler
