import TableCompiler.Proofs.Project.FirstFailure
import TableCompiler.Proofs.Project.Placing

/-!
# Rebuilding — a second build on what the first one left

A build that succeeds leaves a tree in which the output directory is there, every output can be written
again, and what is read at other places is what was read before.  So as long as it writes over none of
its own sources, the same build compiles the same tables once more and puts the same bytes at the same
places, which changes nothing (`rebuild_unchanged`).  That holds even where two outputs are one file:
the later one counts both times.
-/

namespace TableCompiler

open TableCompiler.Files TableCompiler.Source

variable {m : Manifest} {base file : String} {tree after : FileTree}
variable {tables : List CompiledTable} {report : BuildReport}

/-! ## Reading again -/

/-- What can be read is read again as long as the directories stay, and the file. -/
theorem read_again {bytes : List UInt8} (keeps : tree.KeepsDirectories after)
    (h : tree.read file = .ok bytes)
    (stays : after.entry? (tree.target file) = tree.entry? (tree.target file)) :
    after.read file = .ok bytes := by
  obtain ⟨place, hplace, hentry⟩ := FileTree.read_eq_ok_iff.mp h
  rw [← FileTree.locate_ok hplace, hentry] at stays
  exact FileTree.read_eq_ok_iff.mpr ⟨place, keeps.locate hplace, stays⟩

/-- A table is loaded from what is read. -/
theorem loadTable_congr (same : after.read file = tree.read file) :
    loadTable after file = loadTable tree file := by
  have htext : Source.readText after file = Source.readText tree file := by
    rw [Source.readText, Source.readText, FileTree.readText, FileTree.readText, same]
  rw [loadTable, loadTable, readRows, readRows, htext]

/-- What is loaded can be read. -/
theorem exists_read_of_loadTable {raw : RawTable} (h : loadTable tree file = .ok raw) :
    ∃ bytes, tree.read file = .ok bytes := by
  cases hread : tree.read file with
  | ok bytes => exact ⟨bytes, rfl⟩
  | error reason =>
      have htext : tree.readText file = .error reason := by
        rw [FileTree.readText, hread]
      cases hformat : Format.ofPath? file with
      | none => exact nomatch (loadTable_eq_error_iff.mpr (.format hformat)).symm.trans h
      | some format =>
          exact nomatch (loadTable_eq_error_iff.mpr (.refused hformat htext)).symm.trans h

/-- **PREPARATION AGAIN** gives the same tables, if the sources are read as before. -/
theorem prepare_again (prepared : prepare m base tree = .ok tables)
    (again : ∀ s ∈ m.sources, ∀ bytes, tree.read (join base s.path) = .ok bytes →
      after.read (join base s.path) = .ok bytes) :
    prepare m base after = .ok tables := by
  rw [prepare_eq_stages] at prepared ⊢
  obtain ⟨registry, hregistry, hsources⟩ := stage_eq_ok_iff.mp prepared
  refine stage_eq_ok_iff.mpr ⟨registry, hregistry, ?_⟩
  rw [← hsources]
  refine tryAll_congr fun s hs => ?_
  obtain ⟨table, htable⟩ := exists_ok_of_tryAll hsources s hs
  obtain ⟨raw, hraw, -⟩ := compileSource_eq_ok_iff.mp htable
  obtain ⟨bytes, hbytes⟩ := exists_read_of_loadTable hraw
  have same := (again s hs bytes hbytes).trans hbytes.symm
  rw [compileSource_eq_stages, compileSource_eq_stages, loadTable_congr same]

/-! ## Building again -/

/-- A file that was read before a build and is none of its outputs is read after it as it was. -/
theorem read_of_build {bytes : List UInt8} (h : build m base tree = (after, .ok report))
    (hread : tree.read file = .ok bytes)
    (apart : ∀ output ∈ report.outputs, ¬SameFile after output file) :
    after.read file = .ok bytes := by
  obtain ⟨tables, made, stages, rfl⟩ := build_eq_ok_iff.mp h
  have grows := FileTree.grows_createDirectories stages.opened
  have keeps : tree.KeepsDirectories after := grows.keepsDirectories.trans stages.keeps
  obtain ⟨place, hplace, hentry⟩ := FileTree.read_eq_ok_iff.mp hread
  refine read_again keeps hread ?_
  rw [← FileTree.locate_ok hplace]
  have elsewhere : ∀ o ∈ projectOutputs m base tables, place ≠ made.target o.file := by
    rintro o ho rfl
    have houtput : o.file ∈ (projectReport m base tables).outputs := by
      rw [outputs_projectReport]
      exact List.mem_map_of_mem ho
    have hlocate := locate_output h houtput
    rw [← FileTree.target_congr stages.home] at hlocate
    exact apart o.file houtput ⟨_, hlocate, keeps.locate hplace⟩
  -- the folder adds directories only, and the outputs are written elsewhere
  calc after.entry? place
      = made.entry? place := (writeOutputs_frame stages.written).2 place elsewhere
    _ = some (.file bytes) := grows.file_iff.mpr hentry
    _ = tree.entry? place := hentry.symm

/-- **REBUILDING CHANGES NOTHING**: if a build succeeds and none of its outputs is the file of a source,
then on the tree that it leaves the same build succeeds with the same report, and leaves that tree. -/
theorem rebuild_unchanged (h : build m base tree = (after, .ok report))
    (apart : ∀ file ∈ report.outputs, ∀ s ∈ m.sources, ¬SameFile after file (join base s.path)) :
    build m base after = (after, .ok report) := by
  obtain ⟨tables, made, stages, hreport⟩ := build_eq_ok_iff.mp h
  obtain ⟨writable, hafter⟩ := writeOutputs_eq_ok_iff.mp stages.written
  have prepared : prepare m base after = .ok tables :=
    prepare_again stages.prepared fun s hs bytes hbytes =>
      read_of_build h hbytes fun file hfile => apart file hfile s hs
  have opened := FileTree.createDirectories_again stages.opened stages.keeps
  have hhome : after.home = made.home := (writeOutputs_frame stages.written).1
  have written : writeOutputs after (projectOutputs m base tables) = (after, .ok ()) := by
    refine writeOutputs_eq_ok_iff.mpr ⟨fun o ho => ?_, ?_⟩
    · exact (writable_of_writeOutputs stages.written).mpr (writable o ho)
    · rw [placed_congr hhome, hafter, FileTree.putAll_putAll]
  exact build_eq_ok_iff.mpr ⟨tables, after, ⟨prepared, opened, written⟩, hreport⟩

/-- Two outputs of this project are one file. -/
theorem rebuild_unchanged_clashing :
    build clashingNames "" clashingFiles
        = ((build clashingNames "" clashingFiles).1, .ok clashingReport) ∧
      (∀ file ∈ clashingReport.outputs, ∀ s ∈ clashingNames.sources,
        ¬SameFile (build clashingNames "" clashingFiles).1 file (join "" s.path)) ∧
      build clashingNames "" (build clashingNames "" clashingFiles).1
        = ((build clashingNames "" clashingFiles).1, .ok clashingReport) := by
  have elsewhere : ∀ file ∈ clashingReport.outputs, ∀ s ∈ clashingNames.sources,
      clashingFiles.target file ≠ clashingFiles.target (join "" s.path) := by decide +kernel
  have home := (changed_by_build build_clashing).1
  have apart : ∀ file ∈ clashingReport.outputs, ∀ s ∈ clashingNames.sources,
      ¬SameFile (build clashingNames "" clashingFiles).1 file (join "" s.path) := by
    intro file hfile s hs same
    refine elsewhere file hfile s hs ?_
    rw [← FileTree.target_congr home, ← FileTree.target_congr home]
    exact same.target
  exact ⟨build_clashing, apart, rebuild_unchanged build_clashing apart⟩

end TableCompiler
