import TableCompiler.Proofs.Files.Writing
import TableCompiler.Proofs.Project.Preparation
import TableCompiler.Proofs.Project.TableFiles
import TableCompiler.Proofs.Text.Repeated

/-!
# Outputs — when a build writes one file twice

A build writes every output of every table, one behind the other, and afterwards each of them can be
located.  They are different files exactly when no two tables share one (`outputs_differ_iff`).
Different source names do not suffice: a table named like the localization of another passes the check
of the manifest (`outputs_not_always_differ`).
-/

namespace TableCompiler

open TableCompiler.Files TableCompiler.Source

variable {m : Manifest} {base dir name : String} {tree after : FileTree} {report : BuildReport}
variable {t u : TableReport}

/-! ## What a build reports and writes -/

/-- **WHAT A BUILD DOES**: it fails before it writes and leaves the tree, or it makes the output directory
and writes the outputs, all of them if it succeeds. -/
theorem build_cases {result : Except BuildError BuildReport}
    (h : build m base tree = (after, result)) :
    (after = tree ∧ ∃ e, result = .error e) ∨
      ∃ tables made written, prepare m base tree = .ok tables ∧
        tree.createDirectories (join base m.outputDir) = .ok made ∧
        writeOutputs made (tables.flatMap (tableOutputs (join base m.outputDir) m.localization))
          = (after, written) ∧
        result = written.map fun _ =>
          ⟨join base m.outputDir, tables.map (tableReport (join base m.outputDir) m.localization)⟩ := by
  simp only [build] at h
  -- a build stops before its folder is made, or goes on to write, whatever comes of that
  split at h
  case h_1 e _ =>
    obtain ⟨rfl, rfl⟩ := Prod.mk.inj h
    exact .inl ⟨rfl, _, rfl⟩
  case h_2 tables hprepare =>
    split at h
    case h_1 =>
      obtain ⟨rfl, rfl⟩ := Prod.mk.inj h
      exact .inl ⟨rfl, _, rfl⟩
    case h_2 made hmade =>
      split at h
      case h_1 hwrite =>
        obtain ⟨rfl, rfl⟩ := Prod.mk.inj h
        exact .inr ⟨tables, made, _, hprepare, hmade, hwrite, rfl⟩
      case h_2 hwrite =>
        obtain ⟨rfl, rfl⟩ := Prod.mk.inj h
        exact .inr ⟨tables, made, _, hprepare, hmade, hwrite, rfl⟩

/-- What a build that succeeds went through. -/
theorem build_ok (h : build m base tree = (after, .ok report)) :
    ∃ tables made, prepare m base tree = .ok tables ∧
      writeOutputs made (tables.flatMap (tableOutputs (join base m.outputDir) m.localization))
        = (after, .ok ()) ∧
      report = ⟨join base m.outputDir,
        tables.map (tableReport (join base m.outputDir) m.localization)⟩ := by
  rcases build_cases h with ⟨-, e, hfail⟩ | ⟨tables, made, written, hprepare, -, hwrite, hresult⟩
  · cases hfail
  · cases written with
    | error e => cases hresult
    | ok done => exact ⟨tables, made, hprepare, hwrite, Except.ok.inj hresult⟩

/-- The bytes that a file is written with. -/
def Content.bytes : Content → List UInt8
  | .artifact bytes => bytes
  | .csv text => Text.Utf8.encode text

theorem writeOutput_eq_ok_iff {o : Output} :
    writeOutput tree o = .ok after ↔ tree.write o.file o.content.bytes = .ok after := by
  obtain ⟨file, content⟩ := o
  cases content with
  | artifact bytes =>
      simp only [writeOutput, Content.bytes]
      cases tree.write file bytes <;> simp
  | csv text =>
      simp only [writeOutput, Content.bytes]
      cases tree.write file (Text.Utf8.encode text) <;> simp

/-- What writing a list of outputs that succeeds begins with. -/
theorem writeOutputs_cons {o : Output} {outputs : List Output}
    (h : writeOutputs tree (o :: outputs) = (after, .ok ())) :
    ∃ next, tree.write o.file o.content.bytes = .ok next ∧
      writeOutputs next outputs = (after, .ok ()) := by
  rw [writeOutputs] at h
  split at h
  case h_1 => cases (Prod.mk.inj h).2
  case h_2 next hwrite => exact ⟨next, writeOutput_eq_ok_iff.mp hwrite, h⟩

/-- After all files are written each of them can be located: later writes leave the way to it. -/
theorem writeOutputs_ok {outputs : List Output}
    (h : writeOutputs tree outputs = (after, .ok ())) :
    tree.KeepsDirectories after ∧ ∀ o ∈ outputs, ∃ place, after.locate o.file = .ok place := by
  induction outputs generalizing tree with
  | nil =>
      obtain ⟨rfl, -⟩ := Prod.mk.inj h
      exact ⟨.refl tree, fun o ho => absurd ho List.not_mem_nil⟩
  | cons o rest ih =>
      obtain ⟨next, hwrite, hnext⟩ := writeOutputs_cons h
      obtain ⟨⟨place, hplace⟩, hkeeps⟩ := FileTree.write_ok hwrite
      obtain ⟨hrest, hlocated⟩ := ih hnext
      -- the way to the first file is located before its write, and no write behind it closes it
      have hall := hkeeps.trans hrest
      refine ⟨hall, fun o' ho' => ?_⟩
      rcases List.mem_cons.mp ho' with rfl | ho'
      · exact ⟨place, hall.locate hplace⟩
      · exact hlocated o' ho'

/-- The outputs in a report are the files of the table. -/
theorem outputs_tableReport (dir : String) (localization : Bool) (table : CompiledTable) :
    (tableReport dir localization table).outputs
      = tableFiles dir (tableReport dir localization table).name
          (tableReport dir localization table).localized?.isSome := by
  have hplain : artifactExtension = "tbl" := rfl
  have hdot : ∀ s : String, s ++ "." ++ "tbl" = s ++ ".tbl" := by
    intro s
    rw [String.append_assoc]
    rfl
  cases hwritten : writtenLocalization? table localization with
  | none =>
      simp only [tableReport, tableOutputs, tableFiles, endings, hwritten, artifactOutput, hplain,
        hdot, Option.map_none, Option.getD_none, Option.isSome_none, Bool.false_eq_true, if_false,
        List.map_cons, List.map_nil, String.empty_append]
  | some l =>
      simp only [tableReport, tableOutputs, tableFiles, endings, hwritten, localizationOutputs,
        localizationName, artifactOutput, hplain, hdot, Option.map_some, Option.getD_some,
        Option.isSome_some, if_true, List.map_cons, List.map_nil, String.empty_append,
        String.append_assoc]

/-- The artifact of a table is named like the table. -/
theorem artifactOutput_file (dir name : String) (b : BinaryTable) :
    (artifactOutput dir name b).file = join dir (name ++ ".tbl") := by
  show join dir (name ++ "." ++ "tbl") = _
  rw [String.append_assoc]
  rfl

/-- The report lists the files that are written, source by source. -/
theorem outputs_report (dir : String) (localization : Bool) (tables : List CompiledTable) :
    (BuildReport.mk dir (tables.map (tableReport dir localization))).outputs
      = (tables.flatMap (tableOutputs dir localization)).map Output.file := by
  rw [BuildReport.outputs, List.flatMap_map, List.map_flatMap]
  rfl

/-- A report lists the files of its tables, and each of them can be located. -/
theorem report_of_build (h : build m base tree = (after, .ok report)) :
    (∀ t ∈ report.tables, t.outputs
        = tableFiles report.outputDir t.name t.localized?.isSome) ∧
      ∀ file ∈ report.outputs, ∃ place, after.locate file = .ok place := by
  obtain ⟨tables, made, -, hwrite, rfl⟩ := build_ok h
  constructor
  · intro t ht
    obtain ⟨table, -, rfl⟩ := List.mem_map.mp ht
    exact outputs_tableReport _ _ table
  · intro file hfile
    obtain ⟨t, ht, hfile⟩ := List.mem_flatMap.mp hfile
    obtain ⟨table, htable, rfl⟩ := List.mem_map.mp ht
    obtain ⟨o, ho, rfl⟩ := List.mem_map.mp hfile
    exact (writeOutputs_ok hwrite).2 o (List.mem_flatMap.mpr ⟨table, htable, ho⟩)

/-- The outputs of a build are different files exactly when no two of its tables share one. -/
theorem outputs_apart_iff (h : build m base tree = (after, .ok report)) :
    (report.outputs.Pairwise fun file file' => ¬SameFile after file file') ↔
      report.tables.Pairwise fun t u => ¬SharesFile after report.outputDir t u := by
  obtain ⟨hfiles, hlocated⟩ := report_of_build h
  have hlocatedTable : ∀ t ∈ report.tables,
      ∀ file ∈ tableFiles report.outputDir t.name t.localized?.isSome,
        ∃ place, after.locate file = .ok place := by
    intro t ht file hfile
    rw [← hfiles t ht] at hfile
    exact hlocated file (List.mem_flatMap.mpr ⟨t, ht, hfile⟩)
  have hwithin : ∀ t ∈ report.tables,
      t.outputs.Pairwise fun file file' => ¬SameFile after file file' := by
    intro t ht
    rw [hfiles t ht]
    exact tableFiles_differ (hlocatedTable t ht)
  rw [BuildReport.outputs, List.pairwise_flatMap, and_iff_right hwithin]
  have hapart : ∀ t ∈ report.tables, ∀ u ∈ report.tables, _ := fun t ht u hu =>
    tableFiles_apart_iff (hlocatedTable t ht) (hlocatedTable u hu)
  -- within a table the files differ by their endings, so only pairs of tables are left
  constructor
  · intro hpairs
    refine hpairs.imp_of_mem fun ht hu hne => (hapart _ ht _ hu).mp ?_
    rwa [← hfiles _ ht, ← hfiles _ hu]
  · intro hpairs
    refine hpairs.imp_of_mem fun ht hu hne => ?_
    rw [hfiles _ ht, hfiles _ hu]
    exact (hapart _ ht _ hu).mpr hne

/-! ## Names that the manifest checks -/

/-- A manifest that passes its check names every source once. -/
theorem nodup_names_of_validate {file : String} (valid : m.validate file = .ok ()) :
    (m.sources.map SourceEntry.name).Nodup := by
  rw [Manifest.validate] at valid
  split at valid
  case h_1 => cases valid
  case h_2 hnone => exact Text.firstRepeated?_eq_none_iff.mp hnone

/-- The tables of a report have the names of the sources. -/
theorem names_of_build (h : build m base tree = (after, .ok report)) :
    report.tables.map TableReport.name = m.sources.map SourceEntry.name := by
  obtain ⟨tables, made, hprepare, -, rfl⟩ := build_ok h
  rw [← names_of_prepare hprepare, List.map_map]
  rfl

/-- Tables whose names hold no slash share a file when one is named like the other, or like its
localization. -/
theorem sharesFile_iff_of_plain (ht : '/' ∉ t.name.toList) (hu : '/' ∉ u.name.toList) :
    SharesFile tree dir t u ↔
      t.name = u.name ∨ (t.localized?.isSome = true ∧ u.name = t.name ++ ".l10n") ∨
        (u.localized?.isSome = true ∧ t.name = u.name ++ ".l10n") := by
  rw [SharesFile, leaf_join dir ht, leaf_join dir hu, FileTree.folder_join tree dir ht,
    FileTree.folder_join tree dir hu, and_iff_right rfl]

/-- Among checked names without slashes only those of localizations are left to clash. -/
theorem apart_iff_of_plain {file : String} (valid : m.validate file = .ok ())
    (plain : ∀ s ∈ m.sources, '/' ∉ s.name.toList)
    (h : build m base tree = (after, .ok report)) :
    (report.tables.Pairwise fun t u => ¬SharesFile after report.outputDir t u) ↔
      ∀ t ∈ report.tables, ∀ u ∈ report.tables, t.localized?.isSome = true →
        u.name ≠ t.name ++ ".l10n" := by
  have hnames := names_of_build h
  have hslash : ∀ t ∈ report.tables, '/' ∉ t.name.toList := by
    intro t ht
    have hmem : t.name ∈ m.sources.map SourceEntry.name :=
      hnames ▸ List.mem_map_of_mem ht
    obtain ⟨s, hs, heq⟩ := List.mem_map.mp hmem
    exact heq ▸ plain s hs
  have hdiffer : report.tables.Pairwise fun t u => t.name ≠ u.name := by
    refine List.pairwise_map.mp ?_
    rw [hnames]
    exact nodup_names_of_validate valid
  constructor
  · intro hpairs
    -- the relation between two tables is not symmetric, so both directions are asked of each pair
    have hself : ∀ s : String, s ≠ s ++ ".l10n" := by
      intro s hs
      have hmark : ".l10n".length = 5 := by decide
      have hlength := congrArg String.length hs
      rw [String.length_append] at hlength
      omega
    have hshares : ∀ t ∈ report.tables, ∀ u ∈ report.tables,
        ¬SharesFile after report.outputDir t u → _ := fun t ht u hu hno =>
      mt (sharesFile_iff_of_plain (hslash t ht) (hslash u hu)).mpr hno
    refine List.Pairwise.forall_of_forall_of_flip (fun t _ _ => hself t.name) ?_ ?_
    · exact hpairs.imp_of_mem fun ht hu hno hl heq => hshares _ ht _ hu hno (.inr (.inl ⟨hl, heq⟩))
    · exact hpairs.imp_of_mem fun ht hu hno hl heq => hshares _ ht _ hu hno (.inr (.inr ⟨hl, heq⟩))
  · intro hnone
    refine (hdiffer.imp_of_mem fun {t u} ht hu hne hshares => ?_)
    rcases (sharesFile_iff_of_plain (hslash t ht) (hslash u hu)).mp hshares with
      heq | ⟨hl, heq⟩ | ⟨hl, heq⟩
    · exact hne heq
    · exact hnone t ht u hu hl heq
    · exact hnone u hu t ht hl heq

/-! ## When outputs differ -/

/-- **WHEN OUTPUTS DIFFER**: the outputs of a build are different files exactly when no two tables
share one; if the manifest passed its check and its names hold no slash, exactly when no table is
named like the localization that another one writes. -/
theorem outputs_differ_iff (h : build m base tree = (after, .ok report)) :
    ((report.outputs.Pairwise fun file file' => ¬SameFile after file file') ↔
      report.tables.Pairwise fun t u => ¬SharesFile after report.outputDir t u) ∧
      ∀ file, m.validate file = .ok () → (∀ s ∈ m.sources, '/' ∉ s.name.toList) →
        ((report.outputs.Pairwise fun file file' => ¬SameFile after file file') ↔
          ∀ t ∈ report.tables, ∀ u ∈ report.tables, t.localized?.isSome = true →
            u.name ≠ t.name ++ ".l10n") := by
  have hapart := outputs_apart_iff h
  exact ⟨hapart, fun file valid plain => hapart.trans (apart_iff_of_plain valid plain h)⟩

/-- A localized table, and a table with the name of its localization. -/
def clashingNames : Manifest :=
  .ofSources [⟨"item", "item.csv"⟩, ⟨"item.l10n", "notes.csv"⟩]

def clashingFiles : FileTree :=
  ⟨[], [(["item.csv"], .file (Text.Utf8.encode "id,$id[en]\nstr,str\nA,Apple\n")),
    (["notes.csv"], .file (Text.Utf8.encode "id\nint\n7\n"))]⟩

def clashingReport : BuildReport :=
  ⟨"out", [⟨"item", 1, 1, some 1, ["out/item.tbl", "out/item.l10n.tbl", "out/item.l10n.csv"]⟩,
    ⟨"item.l10n", 1, 1, none, ["out/item.l10n.tbl"]⟩]⟩

theorem eq_ok_of_toOption {ε α : Type} {x : Except ε α} {a : α} (h : x.toOption = some a) :
    x = .ok a := by
  cases x with
  | ok b => exact congrArg Except.ok (Option.some.inj h)
  | error e => cases h

theorem build_clashing :
    build clashingNames "" clashingFiles
      = ((build clashingNames "" clashingFiles).1, .ok clashingReport) := by
  have hreport : (build clashingNames "" clashingFiles).2 = .ok clashingReport :=
    eq_ok_of_toOption (by decide +kernel)
  rw [← hreport]

/-- Two sources with different names, of which one is written where the localization of the other is.
-/
theorem outputs_differ_iff_clashing :
    build clashingNames "" clashingFiles
        = ((build clashingNames "" clashingFiles).1, .ok clashingReport) ∧
      ((clashingReport.outputs.Pairwise fun file file' =>
          ¬SameFile (build clashingNames "" clashingFiles).1 file file') ↔
        clashingReport.tables.Pairwise fun t u =>
          ¬SharesFile (build clashingNames "" clashingFiles).1 "out" t u) :=
  ⟨build_clashing, (outputs_differ_iff build_clashing).1⟩

/-- The check of the manifest does not suffice: the artifact of one table can be the localization of
another. -/
theorem outputs_not_always_differ :
    ¬ ∀ (m : Manifest) (file base : String) (tree after : FileTree) (report : BuildReport),
      m.validate file = .ok () → build m base tree = (after, .ok report) →
        report.outputs.Pairwise fun file file' => ¬SameFile after file file' := by
  intro every
  -- the build is evaluated once; both files are then located in the tree that it leaves
  have hpairs := every clashingNames "tables.ron" "" clashingFiles _ _ rfl build_clashing
  have hlocated : (build clashingNames "" clashingFiles).1.locate "out/item.l10n.tbl"
      = .ok ["out", "item.l10n.tbl"] := eq_ok_of_toOption (by decide +kernel)
  -- the second file of the first table and the first file of the second one
  have hsecond := (List.pairwise_cons.mp hpairs).2
  have hlast : "out/item.l10n.tbl" ∈ ["out/item.l10n.csv", "out/item.l10n.tbl"] := by decide
  exact (List.pairwise_cons.mp hsecond).1 _ hlast ⟨_, hlocated, hlocated⟩

end TableCompiler
