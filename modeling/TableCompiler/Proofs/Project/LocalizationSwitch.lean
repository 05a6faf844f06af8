import TableCompiler.Proofs.Project.EndToEnd
import TableCompiler.Proofs.Project.Placing

/-!
# The localization switch — a project built with and without its localization

The switch of the manifest is read when outputs are listed, and nowhere before: sources are localized
whether or not their localization is written.  So a build goes equally far towards its outputs
(`outset`), and fails with the same error if it fails on the way (`result_eq_error_iff`).  With the
switch off every table has the first of its outputs alone, with the same content
(`localization_switch`).
-/

namespace TableCompiler

open TableCompiler.Files

variable {m : Manifest} {base : String} {tree made after after' : FileTree} {e : BuildError}
variable {tables : List CompiledTable} {report : BuildReport} {outputs : List Output}

/-! ## Failing -/

/-- An error of loading, of the registry or of compiling, and none of writing. -/
def BuildError.BeforeWriting : BuildError → Prop
  | .load _ => True
  | .registry _ => True
  | .compile _ => True
  | .write _ _ => False
  | .csv _ _ => False

/-- What a build does before it writes: it compiles the sources and makes the output directory. -/
def outset (m : Manifest) (base : String) (tree : FileTree) :
    Except BuildError (List CompiledTable × FileTree) :=
  stage id (prepare m base tree) fun tables =>
    stage (fun reason => .load (.refused (join base m.outputDir) reason))
      (tree.createDirectories (join base m.outputDir)) fun made => .ok (tables, made)

/-- A failure to write is none that comes before. -/
theorem not_beforeWriting_of_writeOutputs (h : writeOutputs tree outputs = (after, .error e)) :
    ¬e.BeforeWriting := by
  induction outputs generalizing tree with
  | nil => cases (Prod.mk.inj h).2
  | cons o rest ih =>
      rw [writeOutputs] at h
      cases hwrite : writeOutput tree o with
      | ok next =>
          rw [hwrite] at h
          exact ih h
      | error e' =>
          rw [hwrite] at h
          obtain rfl := Except.error.inj (Prod.mk.inj h).2
          rw [writeOutput] at hwrite
          split at hwrite <;> split at hwrite <;> cases hwrite <;> exact id

/-- **BEFORE WRITING** a build fails where its outset does. -/
theorem result_eq_error_iff (early : e.BeforeWriting) :
    (build m base tree).2 = .error e ↔ outset m base tree = .error e := by
  simp only [build, outset]
  cases prepare m base tree with
  | error e' => simp [stage]
  | ok tables =>
      cases tree.createDirectories (join base m.outputDir) with
      | error reason => simp [stage]
      | ok made =>
          -- writing is the one stage that sees the switch, and its errors come late
          rcases hwrite : writeOutputs made (tables.flatMap
            (tableOutputs (join base m.outputDir) m.localization)) with ⟨after, e' | done⟩
          · have late := not_beforeWriting_of_writeOutputs hwrite
            constructor
            · intro h
              simp only [hwrite] at h
              rw [Except.error.inj h] at late
              exact absurd early late
            · intro h
              cases h
          · simp [stage, hwrite]

/-! ## Succeeding -/

/-- What is left of a report without its localization. -/
def TableReport.unlocalized (t : TableReport) : TableReport :=
  { t with localized? := none, outputs := t.outputs.take 1 }

theorem tableReport_unlocalized (dir : String) :
    tableReport dir false = TableReport.unlocalized ∘ tableReport dir true := rfl

/-- Without localization nothing is written that is not written with it, and in the same order. -/
theorem projectOutputs_sublist (m : Manifest) (base : String) (tables : List CompiledTable) :
    (projectOutputs { m with localization := false } base tables).Sublist
      (projectOutputs { m with localization := true } base tables) := by
  induction tables with
  | nil => exact .slnil
  | cons table tables ih =>
      rw [projectOutputs, projectOutputs, List.flatMap_cons, List.flatMap_cons]
      -- the artifact stands in front of the localization, or alone
      exact List.Sublist.append (.cons_cons _ (List.nil_sublist _)) ih

/-- What can be written with its localization can be written without. -/
theorem Stages.unlocalized (stages : Stages { m with localization := true } base tree tables made after) :
    ∃ after', Stages { m with localization := false } base tree tables made after' := by
  obtain ⟨writable, -⟩ := writeOutputs_eq_ok_iff.mp stages.written
  have fewer := (projectOutputs_sublist m base tables).subset
  exact ⟨_, stages.prepared, stages.opened,
    writeOutputs_eq_ok_iff.mpr ⟨fun o ho => writable o (fewer ho), rfl⟩⟩

/-- Outputs that are different files are so without the localization. -/
theorem differ_unlocalized
    (stages : Stages { m with localization := true } base tree tables made after)
    (stages' : Stages { m with localization := false } base tree tables made after')
    (differ : (projectReport { m with localization := true } base tables).outputs.Pairwise
      fun file file' => ¬SameFile after file file') :
    (projectReport { m with localization := false } base tables).outputs.Pairwise
      fun file file' => ¬SameFile after' file file' := by
  rw [apart_iff_nodup (build_eq_ok_iff.mpr ⟨_, _, stages, rfl⟩), outputs_projectReport] at differ
  rw [apart_iff_nodup (build_eq_ok_iff.mpr ⟨_, _, stages', rfl⟩), outputs_projectReport]
  exact differ.sublist (((projectOutputs_sublist m base tables).map _).map _)

/-- Where outputs are different files, the artifact of a table is read back from its file. -/
theorem Stages.read_artifact (stages : Stages m base tree tables made after)
    (differ : (projectReport m base tables).outputs.Pairwise fun file file' =>
      ¬SameFile after file file') {table : CompiledTable} (h : table ∈ tables) :
    after.read (join (join base m.outputDir) (table.name ++ ".tbl"))
      = .ok (Artifact.ofTable table.name table.binary).toBytes := by
  have first : artifactOutput (join base m.outputDir) table.name table.binary
      ∈ projectOutputs m base tables :=
    List.mem_flatMap.mpr ⟨table, h, List.mem_cons_self⟩
  rw [← artifactOutput_file]
  exact stages.read_output differ _ first

/-- **THE LOCALIZATION SWITCH** decides which files are written, and nothing else: with and without it
a build fails with the same errors before it writes; and if it succeeds with it, it does without, each
table has its first output alone, and if the outputs are different files, its artifact is the same. -/
theorem localization_switch (m : Manifest) (base : String) (tree : FileTree) :
    (∀ e : BuildError, e.BeforeWriting →
      ((build { m with localization := false } base tree).2 = .error e ↔
        (build { m with localization := true } base tree).2 = .error e)) ∧
    ∀ after report, build { m with localization := true } base tree = (after, .ok report) →
      ∃ after', build { m with localization := false } base tree
          = (after', .ok ⟨report.outputDir, report.tables.map TableReport.unlocalized⟩) ∧
        ((report.outputs.Pairwise fun file file' => ¬SameFile after file file') →
          ∀ t ∈ report.tables,
            t.outputs.head? = some (join report.outputDir (t.name ++ ".tbl")) ∧
            ∃ bytes, after.read (join report.outputDir (t.name ++ ".tbl")) = .ok bytes ∧
              after'.read (join report.outputDir (t.name ++ ".tbl")) = .ok bytes) := by
  constructor
  -- both sides are the outset of the build, which does not read the switch
  · intro e early
    rw [result_eq_error_iff early, result_eq_error_iff early]
    rfl
  · intro after report h
    obtain ⟨tables, made, stages, rfl⟩ := build_eq_ok_iff.mp h
    obtain ⟨after', stages'⟩ := stages.unlocalized
    refine ⟨after', build_eq_ok_iff.mpr ⟨tables, made, stages', ?_⟩, fun differ t ht => ?_⟩
    · rw [projectReport, projectReport, List.map_map, tableReport_unlocalized]
    · obtain ⟨table, htable, rfl⟩ := List.mem_map.mp ht
      refine ⟨?_, _, stages.read_artifact differ htable,
        stages'.read_artifact (differ_unlocalized stages stages' differ) htable⟩
      exact congrArg some (artifactOutput_file _ _ table.binary)

/-- A table whose second locale has other keys than the first one. -/
def unevenSource : Manifest :=
  .ofSources [⟨"item", "item.csv"⟩]

def unevenFiles : FileTree :=
  ⟨[], [(["item.csv"], .file (Text.Utf8.encode "a,b,$a[en],$b[de]\nstr,str,str,str\nx,p,X,P\n"))]⟩

/-- The texts of the second locale are not written, and yet have to line up. -/
theorem localization_switch_uneven :
    (BuildError.compile (.localization "item" (.unevenColumns 20578516 2 1))).BeforeWriting ∧
      (build { unevenSource with localization := false } "" unevenFiles).2
        = .error (.compile (.localization "item" (.unevenColumns 20578516 2 1))) ∧
      build { twoSources with localization := true } "" clashingFiles
        = ((build twoSources "" clashingFiles).1, .ok twoReports) ∧
      (twoReports.outputs.Pairwise fun file file' =>
        ¬SameFile (build twoSources "" clashingFiles).1 file file') ∧
      ∃ after', build { twoSources with localization := false } "" clashingFiles
          = (after', .ok ⟨"out", [⟨"item", 1, 1, none, ["out/item.tbl"]⟩,
              ⟨"notes", 1, 1, none, ["out/notes.tbl"]⟩]⟩) ∧
        ∃ bytes, (build twoSources "" clashingFiles).1.read "out/item.tbl" = .ok bytes ∧
          after'.read "out/item.tbl" = .ok bytes := by
  have early : (BuildError.compile (.localization "item" (.unevenColumns 20578516 2 1))).BeforeWriting :=
    trivial
  have fails : (build { unevenSource with localization := true } "" unevenFiles).2
      = .error (.compile (.localization "item" (.unevenColumns 20578516 2 1))) := by
    decide +kernel
  have differ := (apart_iff_nodup build_twoSources).mpr (by decide +kernel)
  obtain ⟨after', built, artifacts⟩ :=
    (localization_switch twoSources "" clashingFiles).2 _ _ build_twoSources
  obtain ⟨-, bytes, written, written'⟩ := artifacts differ _ List.mem_cons_self
  refine ⟨early, ?_, build_twoSources, differ, after', built, bytes, written, written'⟩
  exact ((localization_switch unevenSource "" unevenFiles).1 _ early).mpr fails

end TableCompiler
