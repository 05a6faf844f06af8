import TableCompiler.Proofs.Files.Overwriting
import TableCompiler.Proofs.Project.Confinement

/-!
# Placing outputs — what builds that succeed have in common

Whether a file can be written depends on the directories alone, and outputs are files.  So a list of
outputs is written exactly if each of them could be written before the first one is, and then the tree
has their bytes put at their places one after the other (`writeOutputs_eq_ok_iff`).  A build
succeeds exactly if its three stages do (`build_eq_ok_iff`), and its outputs are different files just if
their paths lead to different places (`apart_iff_nodup`).
-/

namespace TableCompiler

open TableCompiler.Files

variable {m : Manifest} {base file file' : String} {tree made next after : FileTree}
variable {tables : List CompiledTable} {report : BuildReport} {outputs : List Output} {o : Output}

/-! ## Lists of outputs -/

/-- The place of an output, and what it puts there. -/
def Output.placed (tree : FileTree) (o : Output) : Location × Entry :=
  (tree.target o.file, .file o.content.bytes)

/-- Where an output is placed depends on the working directory alone. -/
theorem placed_congr (home : next.home = tree.home) : Output.placed next = Output.placed tree := by
  funext o
  rw [Output.placed, Output.placed, FileTree.target_congr home]

/-- The places of outputs are those of their files. -/
theorem places_of_outputs (home : next.home = tree.home) (outputs : List Output) :
    (outputs.map (Output.placed next)).map Prod.fst
      = (outputs.map Output.file).map tree.target := by
  rw [placed_congr home, List.map_map, List.map_map]
  rfl

theorem writeOutput_eq_ok_iff_placed :
    writeOutput tree o = .ok next ↔
      tree.Writable o.file ∧ next = tree.put (o.placed tree).1 (o.placed tree).2 :=
  writeOutput_eq_ok_iff.trans FileTree.write_eq_ok_iff

/-- **OUTPUTS ARE WRITTEN** if each of them can be written before the first one is. -/
theorem writeOutputs_eq_ok_iff :
    writeOutputs tree outputs = (after, .ok ()) ↔
      (∀ o ∈ outputs, tree.Writable o.file) ∧
        after = tree.putAll (outputs.map (Output.placed tree)) := by
  induction outputs generalizing tree with
  | nil =>
      constructor
      · intro h
        exact ⟨fun o ho => absurd ho List.not_mem_nil, (Prod.mk.inj h).1.symm⟩
      · rintro ⟨-, rfl⟩
        rfl
  | cons o rest ih =>
      rw [writeOutputs, List.forall_mem_cons, List.map_cons, FileTree.putAll_cons]
      cases hwrite : writeOutput tree o with
      | error e =>
          constructor
          · intro h
            cases (Prod.mk.inj h).2
          · rintro ⟨⟨hfirst, -⟩, -⟩
            cases hwrite.symm.trans (writeOutput_eq_ok_iff_placed.mpr ⟨hfirst, rfl⟩)
      | ok next =>
          obtain ⟨hfirst, hnext⟩ := writeOutput_eq_ok_iff_placed.mp hwrite
          have hhome : next.home = tree.home := hnext ▸ FileTree.home_put tree _ _
          -- the first file is none of the directories, so it is in nobody's way
          have hsame : ∀ o' : Output, next.Writable o'.file ↔ tree.Writable o'.file := fun o' =>
            hnext ▸ FileTree.writable_put_iff hfirst.apart
          simp only [ih, placed_congr hhome, hsame, and_iff_right hfirst, ← hnext]

/-- Files that are written leave every file as writable as it was. -/
theorem writable_of_writeOutputs (h : writeOutputs tree outputs = (after, .ok ())) :
    after.Writable file ↔ tree.Writable file := by
  induction outputs generalizing tree with
  | nil =>
      obtain ⟨rfl, -⟩ := Prod.mk.inj h
      exact Iff.rfl
  | cons o rest ih =>
      obtain ⟨next, hwrite, hrest⟩ := writeOutputs_cons h
      obtain ⟨writable, rfl⟩ := FileTree.write_eq_ok_iff.mp hwrite
      exact (ih hrest).trans (FileTree.writable_put_iff writable.apart)

/-! ## Builds -/

/-- The outputs of a project. -/
def projectOutputs (m : Manifest) (base : String) (tables : List CompiledTable) : List Output :=
  tables.flatMap (tableOutputs (join base m.outputDir) m.localization)

/-- The report on a project. -/
def projectReport (m : Manifest) (base : String) (tables : List CompiledTable) : BuildReport :=
  ⟨join base m.outputDir, tables.map (tableReport (join base m.outputDir) m.localization)⟩

/-- What a build that succeeds goes through: the sources are compiled, the output directory is made,
and the outputs are written. -/
structure Stages (m : Manifest) (base : String) (tree : FileTree) (tables : List CompiledTable)
    (made after : FileTree) : Prop where
  prepared : prepare m base tree = .ok tables
  opened : tree.createDirectories (join base m.outputDir) = .ok made
  written : writeOutputs made (projectOutputs m base tables) = (after, .ok ())

/-- **A BUILD SUCCEEDS** if its stages do. -/
theorem build_eq_ok_iff :
    build m base tree = (after, .ok report) ↔
      ∃ tables made, Stages m base tree tables made after ∧ report = projectReport m base tables := by
  constructor
  · intro h
    rcases build_cases h with ⟨-, e, hfail⟩ | ⟨tables, made, written, prepared, opened, hwrite, hresult⟩
    · cases hfail
    · cases written with
      | error e => cases hresult
      | ok done => exact ⟨tables, made, ⟨prepared, opened, hwrite⟩, Except.ok.inj hresult⟩
  · rintro ⟨tables, made, stages, rfl⟩
    have hwrite := stages.written
    rw [projectOutputs] at hwrite
    rw [build, stages.prepared]
    simp only [stages.opened, hwrite]
    rfl

/-- The directories that a build makes are there when it has written. -/
theorem Stages.keeps (stages : Stages m base tree tables made after) :
    made.KeepsDirectories after :=
  (writeOutputs_ok stages.written).1

theorem Stages.home (stages : Stages m base tree tables made after) : made.home = tree.home :=
  (FileTree.grows_createDirectories stages.opened).home

/-- The outputs in the report of a project are those of its tables. -/
theorem outputs_projectReport (m : Manifest) (base : String) (tables : List CompiledTable) :
    (projectReport m base tables).outputs = (projectOutputs m base tables).map Output.file :=
  outputs_report _ _ tables

/-! ## Different files -/

/-- Two outputs are one file if their paths lead to one place. -/
theorem sameFile_output_iff (h : build m base tree = (after, .ok report))
    (hfile : file ∈ report.outputs) (hfile' : file' ∈ report.outputs) :
    SameFile after file file' ↔ tree.target file = tree.target file' := by
  constructor
  · intro same
    have home := (changed_by_build h).1
    rw [← FileTree.target_congr home, ← FileTree.target_congr home]
    exact same.target
  · intro same
    exact ⟨tree.target file, locate_output h hfile, same ▸ locate_output h hfile'⟩

/-- **OUTPUTS ARE DIFFERENT FILES** if no place comes twice among theirs. -/
theorem apart_iff_nodup (h : build m base tree = (after, .ok report)) :
    (report.outputs.Pairwise fun file file' => ¬SameFile after file file') ↔
      (report.outputs.map tree.target).Nodup := by
  rw [List.Nodup, List.pairwise_map]
  constructor
  · intro hpairs
    exact hpairs.imp_of_mem fun hfile hfile' hne => mt (sameFile_output_iff h hfile hfile').mpr hne
  · intro hpairs
    exact hpairs.imp_of_mem fun hfile hfile' hne => mt (sameFile_output_iff h hfile hfile').mp hne

/-- Different outputs are read back as they were written. -/
theorem Stages.read_output (stages : Stages m base tree tables made after)
    (differ : (projectReport m base tables).outputs.Pairwise fun file file' =>
      ¬SameFile after file file') :
    ∀ o ∈ projectOutputs m base tables, after.read o.file = .ok o.content.bytes := by
  rw [outputs_projectReport, List.pairwise_map] at differ
  exact read_of_writeOutputs stages.written differ

end TableCompiler
