import TableCompiler.Proofs.Project.Written

/-!
# Confinement — which directories a build writes to

A build makes the output directory and writes three kinds of files, each named like a source with an
ending.  The names of sources are free text and their parts are followed like those of any path: a
slash opens a directory, two dots lead back, and an absolute name starts over at the root.  So every
file that a build changes lies where the name of its source leads (`changed_by_build`), and all of them
lie in the output directory exactly when no name leads out of it (`build_confined_iff`).
-/

namespace TableCompiler

open TableCompiler.Files

variable {m : Manifest} {base name : String} {tree after : FileTree} {place root : Location}
variable {result : Except BuildError BuildReport} {report : BuildReport}

/-! ## Places -/

/-- A place in a directory, or in one below it. -/
def Inside (root place : Location) : Prop :=
  root <+: place ∧ place ≠ root

/-- The directory that the outputs of a project are meant for. -/
def outputFolder (m : Manifest) (base : String) (tree : FileTree) : Location :=
  tree.target (join base m.outputDir)

/-- The directory that the files of a source go to: its name goes on from the output directory. -/
def sourceFolder (m : Manifest) (base : String) (tree : FileTree) (name : String) : Location :=
  (segments name).dropLast.foldl follow
    (if isAbsolute name then [] else outputFolder m base tree)

/-- A file that one tree holds and the other does not, or not with these bytes. -/
def FileChanged (before after : FileTree) (place : Location) : Prop :=
  ∃ bytes, after.entry? place = some (.file bytes) ∧ before.entry? place ≠ some (.file bytes)

/-- A file lies in a directory or below it just if its folder does, or is that directory. -/
theorem inside_concat_iff {file : String} : Inside root (place ++ [file]) ↔ root <+: place := by
  constructor
  · rintro ⟨within, apart⟩
    rcases List.prefix_concat_iff.mp within with same | inside
    · exact absurd same.symm apart
    · exact inside
  · intro inside
    refine ⟨inside.trans (List.prefix_append place [file]), ?_⟩
    rintro rfl
    have := inside.length_le
    rw [List.length_append, List.length_singleton] at this
    omega

/-- Names lead out of a directory by starting over or by leading back, and in no other way. -/
theorem prefix_sourceFolder (relative : isAbsolute name = false)
    (forward : ".." ∉ (segments name).dropLast) :
    outputFolder m base tree <+: sourceFolder m base tree name := by
  rw [sourceFolder, relative]
  exact prefix_foldl_follow forward _

/-! ## What a build changes -/

/-- The endings of a localized table are those of any table. -/
theorem mem_endings_true {localized : Bool} {p : String × String} (h : p ∈ endings localized) :
    p ∈ endings true := by
  rcases mem_endings.mp h with plain | ⟨-, marked⟩
  · exact mem_endings.mpr (.inl plain)
  · exact mem_endings.mpr (.inr ⟨rfl, marked⟩)

/-- A file of a source leads to the folder of the source. -/
theorem target_source (m : Manifest) (base : String) (tree : FileTree) (name : String)
    {localized : Bool} {p : String × String} (hp : p ∈ endings localized) :
    tree.target (join (join base m.outputDir) (name ++ (p.1 ++ p.2)))
      = sourceFolder m base tree name ++ [leaf name ++ (p.1 ++ p.2)] := by
  rw [target_tableFile tree _ name hp, FileTree.folder_join_eq, leaf_join_eq]
  rfl

/-- The outputs of a project are files of its sources. -/
theorem file_of_output {tables : List CompiledTable} {o : Output}
    (prepared : prepare m base tree = .ok tables)
    (h : o ∈ tables.flatMap (tableOutputs (join base m.outputDir) m.localization)) :
    ∃ s ∈ m.sources, ∃ p ∈ endings true,
      o.file = join (join base m.outputDir) (s.name ++ (p.1 ++ p.2)) := by
  obtain ⟨table, htable, ho⟩ := List.mem_flatMap.mp h
  have hname : table.name ∈ m.sources.map SourceEntry.name :=
    names_of_prepare prepared ▸ List.mem_map_of_mem htable
  obtain ⟨s, hs, hsame⟩ := List.mem_map.mp hname
  have hfile : o.file ∈ (tableReport (join base m.outputDir) m.localization table).outputs :=
    List.mem_map_of_mem ho
  rw [outputs_tableReport] at hfile
  obtain ⟨p, hp, hfile⟩ := mem_tableFiles.mp hfile
  refine ⟨s, hs, p, mem_endings_true hp, ?_⟩
  rw [← hfile, hsame]
  rfl

/-- **WHAT A BUILD CHANGES** are files of its sources, whether it succeeds or not. -/
theorem changed_by_build (h : build m base tree = (after, result)) :
    after.home = tree.home ∧
      ∀ place, FileChanged tree after place →
        ∃ s ∈ m.sources, ∃ p ∈ endings true,
          place = sourceFolder m base tree s.name ++ [leaf s.name ++ (p.1 ++ p.2)] := by
  rcases build_cases h with ⟨rfl, -⟩ | ⟨tables, made, written, prepared, hmade, hwrite, -⟩
  · refine ⟨rfl, ?_⟩
    rintro place ⟨bytes, now, before⟩
    exact absurd now before
  · have grows := FileTree.grows_createDirectories hmade
    obtain ⟨hhome, hframe⟩ := writeOutputs_frame hwrite
    refine ⟨hhome.trans grows.home, ?_⟩
    rintro place ⟨bytes, now, before⟩
    -- what is no output is as it was once the directory had been made, and that made no file
    by_cases output : ∃ o ∈ tables.flatMap (tableOutputs (join base m.outputDir) m.localization),
        place = made.target o.file
    · obtain ⟨o, ho, rfl⟩ := output
      obtain ⟨s, hs, p, hp, hfile⟩ := file_of_output prepared ho
      refine ⟨s, hs, p, hp, ?_⟩
      rw [FileTree.target_congr grows.home, hfile]
      exact target_source m base tree s.name hp
    · have same : after.entry? place = made.entry? place :=
        hframe place fun o ho here => output ⟨o, ho, here⟩
      exact absurd (grows.file_iff.mp (same ▸ now)) before

/-- Every file of a report is located where its path leads, in the tree before as in the one after. -/
theorem locate_output (h : build m base tree = (after, .ok report)) {file : String}
    (hfile : file ∈ report.outputs) : after.locate file = .ok (tree.target file) := by
  obtain ⟨place, hplace⟩ := (report_of_build h).2 file hfile
  rw [hplace, FileTree.locate_ok hplace, FileTree.target_congr (changed_by_build h).1]

/-- The files of a report are files of the sources, and each source has one. -/
theorem outputs_of_build (h : build m base tree = (after, .ok report)) :
    (∀ file ∈ report.outputs, ∃ s ∈ m.sources, ∃ p ∈ endings true,
      file = join (join base m.outputDir) (s.name ++ (p.1 ++ p.2))) ∧
    ∀ s ∈ m.sources, join (join base m.outputDir) (s.name ++ ("" ++ ".tbl")) ∈ report.outputs := by
  obtain ⟨tables, made, prepared, -, rfl⟩ := build_ok h
  constructor
  · intro file hfile
    obtain ⟨t, ht, hfile⟩ := List.mem_flatMap.mp hfile
    obtain ⟨table, htable, rfl⟩ := List.mem_map.mp ht
    obtain ⟨o, ho, rfl⟩ := List.mem_map.mp hfile
    exact file_of_output prepared (List.mem_flatMap.mpr ⟨table, htable, ho⟩)
  · intro s hs
    have hname : s.name ∈ tables.map CompiledTable.name :=
      names_of_prepare prepared ▸ List.mem_map_of_mem hs
    obtain ⟨table, htable, hsame⟩ := List.mem_map.mp hname
    refine List.mem_flatMap.mpr ⟨_, List.mem_map_of_mem htable, ?_⟩
    rw [outputs_tableReport, ← hsame]
    exact mem_tableFiles.mpr ⟨("", ".tbl"), mem_endings.mpr (.inl rfl), rfl⟩

/-! ## Builds that stay inside -/

/-- **BUILDS STAY INSIDE** the output directory as far as the names of their sources do.  Whether a
build succeeds or not, it changes no files but those that the sources are named for; if no name leads
out of the output directory, they all lie in it, and every file of a report lies in it only if no name
leads out.  Names that are not absolute and do not lead back stay inside. -/
theorem build_confined_iff (h : build m base tree = (after, result)) :
    (∀ place, FileChanged tree after place →
      ∃ s ∈ m.sources, ∃ p ∈ endings true,
        place = sourceFolder m base tree s.name ++ [leaf s.name ++ (p.1 ++ p.2)]) ∧
    ((∀ s ∈ m.sources, outputFolder m base tree <+: sourceFolder m base tree s.name) →
      ∀ place, FileChanged tree after place → Inside (outputFolder m base tree) place) ∧
    (∀ report, result = .ok report →
      ((∀ file ∈ report.outputs, ∃ place,
          after.locate file = .ok place ∧ Inside (outputFolder m base tree) place) ↔
        ∀ s ∈ m.sources, outputFolder m base tree <+: sourceFolder m base tree s.name)) ∧
    ∀ name, isAbsolute name = false → ".." ∉ (segments name).dropLast →
      outputFolder m base tree <+: sourceFolder m base tree name := by
  have changed := (changed_by_build h).2
  refine ⟨changed, ?_, ?_, fun name => prefix_sourceFolder⟩
  · intro inside place hplace
    obtain ⟨s, hs, p, -, rfl⟩ := changed place hplace
    exact inside_concat_iff.mpr (inside s hs)
  · rintro report rfl
    obtain ⟨named, written⟩ := outputs_of_build h
    constructor
    · intro inside s hs
      have hending : ("", ".tbl") ∈ endings true := mem_endings.mpr (.inl rfl)
      -- the artifact alone tells the folder of its source
      obtain ⟨place, hplace, hinside⟩ := inside _ (written s hs)
      obtain rfl := Except.ok.inj ((locate_output h (written s hs)).symm.trans hplace)
      rw [target_source m base tree s.name hending] at hinside
      exact inside_concat_iff.mp hinside
    · intro inside file hfile
      obtain ⟨s, hs, p, hp, rfl⟩ := named file hfile
      refine ⟨_, locate_output h hfile, ?_⟩
      rw [target_source m base tree s.name hp]
      exact inside_concat_iff.mpr (inside s hs)

/-- A table with a name that leads back. -/
def straySource : Manifest :=
  .ofSources [⟨"../item", "item.csv"⟩]

/-- The manifest with that table as a file, and the table. -/
def strayFiles : FileTree :=
  ⟨[], [(["m.ron"], .file (Text.Utf8.encode "(sources: [(name: \"../item\", path: \"item.csv\")])")),
    (["item.csv"], .file (Text.Utf8.encode "id\nint\n7\n"))]⟩

def strayReport : BuildReport :=
  ⟨"out", [⟨"../item", 1, 1, none, ["out/../item.tbl"]⟩]⟩

/-- A name that leads out of the output folder is accepted when the manifest is loaded. -/
theorem load_stray : Manifest.load strayFiles "m.ron" = .ok straySource :=
  eq_ok_of_toOption (by decide +kernel)

theorem build_stray :
    build straySource "" strayFiles = ((build straySource "" strayFiles).1, .ok strayReport) := by
  have hreport : (build straySource "" strayFiles).2 = .ok strayReport :=
    eq_ok_of_toOption (by decide +kernel)
  rw [← hreport]

/-- The outputs of the stray source belong in `out`. -/
theorem outputFolder_stray : outputFolder straySource "" strayFiles = ["out"] := by decide +kernel

/-- A plain name would stay in the output directory; the name that leads back takes the artifact out of
it. -/
theorem build_confined_iff_stray :
    build straySource "" strayFiles
        = ((build straySource "" strayFiles).1, .ok strayReport) ∧
      (isAbsolute "item" = false ∧ ".." ∉ (segments "item").dropLast ∧
        outputFolder straySource "" strayFiles <+: sourceFolder straySource "" strayFiles "item") ∧
      ¬∀ file ∈ strayReport.outputs, ∃ place,
        (build straySource "" strayFiles).1.locate file = .ok place ∧
          Inside (outputFolder straySource "" strayFiles) place := by
  obtain ⟨-, -, reported, forward⟩ := build_confined_iff build_stray
  have plain : '/' ∉ "item".toList := by decide
  have relative := isAbsolute_of_plain plain
  have onward : ".." ∉ (segments "item").dropLast := by
    rw [segments_of_plain plain]
    simp
  refine ⟨build_stray, ⟨relative, onward, forward "item" relative onward⟩, fun inside => ?_⟩
  have hback := (reported strayReport rfl).mp inside ⟨"../item", "item.csv"⟩ List.mem_cons_self
  have hfolder : sourceFolder straySource "" strayFiles "../item" = [] := by decide +kernel
  rw [outputFolder_stray, hfolder] at hback
  exact absurd hback (by simp)

/-- Not every build stays inside: an accepted manifest can name a file in the directory around the
output directory. -/
theorem not_always_confined :
    ¬∀ (tree after : FileTree) (file base : String) (m : Manifest)
        (result : Except BuildError BuildReport),
      Manifest.load tree file = .ok m → build m base tree = (after, result) →
        ∀ place, FileChanged tree after place → Inside (outputFolder m base tree) place := by
  intro every
  have hread : ((build straySource "" strayFiles).1.read "item.tbl").toOption.isSome = true := by
    decide +kernel
  obtain ⟨bytes, hbytes⟩ := Option.isSome_iff_exists.mp hread
  obtain ⟨place, hplace, hnow⟩ := FileTree.read_eq_ok_iff.mp (eq_ok_of_toOption hbytes)
  have here : place = strayFiles.target "item.tbl" := by
    rw [FileTree.locate_ok hplace, FileTree.target_congr (changed_by_build build_stray).1]
  have htarget : strayFiles.target "item.tbl" = ["item.tbl"] := by decide +kernel
  rw [here, htarget] at hnow
  have hbefore : strayFiles.entry? ["item.tbl"] = none := by decide
  have changed : FileChanged strayFiles (build straySource "" strayFiles).1 ["item.tbl"] := by
    refine ⟨bytes, hnow, ?_⟩
    rw [hbefore]
    simp
  have inside := every _ _ _ _ _ _ load_stray build_stray _ changed
  rw [outputFolder_stray] at inside
  exact absurd inside.1 (by simp)

end TableCompiler
