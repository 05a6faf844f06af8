import TableCompiler.Proofs.Artifact.RoundTrip
import TableCompiler.Proofs.Csv.RoundTrip
import TableCompiler.Proofs.Project.Written

/-!
# End to end — what the files of a project say after its build

A build loads and compiles its sources in the order of the manifest, writes what it compiled, and
reports what it wrote.  If no two outputs are one file, nothing is overwritten, and every file can be
read back: artifacts give the compiled tables and CSV files the texts for review (`build_end_to_end`).
-/

namespace TableCompiler

open TableCompiler.Files TableCompiler.Source TableCompiler.Localization

variable {m : Manifest} {base dir name : String} {tree after : FileTree} {report : BuildReport}
variable {registry : Registry} {raw : RawTable} {table : CompiledTable} {b : BinaryTable}
variable {localization : Bool}

/-! ## Single files -/

/-- The header of an artifact counts the rows and the columns of a table.  The number of rows is a
word of 64 bits, more than any machine holds. -/
structure CountsOf (h : ArtifactHeader) (b : BinaryTable) : Prop where
  rows : b.rowCount < UInt64.size → h.rowCount.toNat = b.rowCount
  columns : h.columnCount.toNat = b.columnCount

/-- A file reads back as the artifact of a table under a name. -/
def ReadsAsArtifact (tree : FileTree) (file name : String) (b : BinaryTable) : Prop :=
  ∃ bytes artifact, tree.read file = .ok bytes ∧ Artifact.ofBytes bytes = .ok artifact ∧
    artifact.name = name ∧ artifact.binary = b ∧ CountsOf artifact.header b

/-- The header of a table that is not too wide counts its rows and columns. -/
theorem countsOf_ofTable (narrow : b.columnCount < UInt32.size) :
    CountsOf (ArtifactHeader.ofTable b) b :=
  ⟨fun hrows => UInt64.toNat_ofNat_of_lt' hrows, UInt32.toNat_ofNat_of_lt' narrow⟩

/-- The output of an artifact is read back as the artifact. -/
theorem readsAsArtifact_of_read (narrow : b.columnCount < UInt32.size)
    (h : after.read (artifactOutput dir name b).file
      = .ok (artifactOutput dir name b).content.bytes) :
    ReadsAsArtifact after (join dir (name ++ ".tbl")) name b := by
  rw [artifactOutput_file] at h
  exact ⟨_, _, h, Artifact.ofBytes_ofTable name b, rfl, rfl, countsOf_ofTable narrow⟩

/-- The localization of a source stands beside its artifact, under the name with `.l10n` behind it. -/
theorem localizationFile (dir name : String) (ending : String) :
    join dir (localizationName name ++ ending) = join dir (name ++ (".l10n" ++ ending)) := by
  rw [localizationName, String.append_assoc]

/-- The table for review is read as CSV. -/
theorem format_reviewFile (dir name : String) :
    Format.ofPath? (join dir (name ++ ".l10n.csv")) = some .csv := by
  have hpath : join dir (name ++ ".l10n.csv") = join dir name ++ (".l10n" ++ ("." ++ "csv")) :=
    join_append dir name (by decide)
  rw [Format.ofPath?, hpath, extension_append (by decide) (by decide) (by decide) (by decide)]
  rfl

/-- The texts for review are read back as the rows of their table. -/
theorem readRows_of_read {h : HashTable} {texts : TextTable}
    (extracted : HashTable.extract raw = .ok h) (pivoted : TextTable.pivot h = .ok texts)
    (hread : after.read (join dir (name ++ ".l10n.csv"))
      = .ok (Text.Utf8.encode (Csv.write texts.toRaw.toRows))) :
    readRows after (join dir (name ++ ".l10n.csv")) = .ok texts.toRaw.toRows := by
  have htext : after.readText (join dir (name ++ ".l10n.csv"))
      = .ok (Csv.write texts.toRaw.toRows) := by
    rw [FileTree.readText, hread]
    simp only [Text.Utf8.decode_encode]
  have hrows : Csv.parse (Csv.write texts.toRaw.toRows) = texts.toRaw.toRows :=
    Csv.parse_write_toRows texts.toRaw (head_header_of_pivot extracted pivoted) (by decide)
  simp only [readRows, detectFormat, format_reviewFile, Source.readText, htext, parseGrid?, hrows]

/-! ## The files of a table -/

/-- The localization of a table is written: its hash table as an artifact, its texts for review, and
the report counts the texts and lists the files. -/
def LocalizationWritten (after : FileTree) (dir : String) (registry : Registry) (name : String)
    (raw : RawTable) (t : TableReport) : Prop :=
  ∃ h l, HashTable.extract raw = .ok h ∧ LocalizedFrom registry h l ∧
    t.localized? = some l.textTable.rows.length ∧
    t.outputs = [join dir (name ++ ".tbl"), join dir (name ++ ".l10n.tbl"),
      join dir (name ++ ".l10n.csv")] ∧
    ReadsAsArtifact after (join dir (name ++ ".l10n.tbl")) (name ++ ".l10n") l.binary ∧
    readRows after (join dir (name ++ ".l10n.csv")) = .ok l.textTable.toRaw.toRows

/-- A compiled table is written: its artifact, its localization exactly if that is wanted and the
source has decorated columns, and the report says so. -/
structure TableWritten (after : FileTree) (dir : String) (localization : Bool) (registry : Registry)
    (name : String) (raw : RawTable) (table : CompiledTable) (t : TableReport) : Prop where
  named : t.name = name
  rows : t.rows = table.binary.rowCount
  columns : t.columns = table.binary.columnCount
  artifact : ReadsAsArtifact after (join dir (name ++ ".tbl")) name table.binary
  localized : localization = true ∧ decoratedColumns raw.names ≠ [] →
    LocalizationWritten after dir registry name raw t
  plain : ¬(localization = true ∧ decoratedColumns raw.names ≠ []) →
    t.localized? = none ∧ t.outputs = [join dir (name ++ ".tbl")]

/-- What is written of a localization. -/
theorem writtenLocalization_of_compile (localization : Bool)
    (compiled : compile name raw registry = .ok table) :
    (localization = true ∧ decoratedColumns raw.names ≠ [] →
      ∃ h l, HashTable.extract raw = .ok h ∧ LocalizedFrom registry h l ∧
        writtenLocalization? table localization = some l) ∧
      (¬(localization = true ∧ decoratedColumns raw.names ≠ []) →
        writtenLocalization? table localization = none) := by
  obtain ⟨-, -, hlocalize⟩ := compile_ok compiled
  obtain ⟨h, hextract, hstage⟩ := localize_ok hlocalize
  have hempty := isEmpty_iff_of_extract hextract
  -- no localization is made just if no column is decorated
  rcases hstage with ⟨hnone, hl⟩ | ⟨hsome, l, hl, made⟩
  · constructor
    · rintro ⟨-, hdecorated⟩
      exact absurd (hempty.mp hnone) hdecorated
    · intro _
      rw [writtenLocalization?, hl, ite_self]
  · constructor
    · rintro ⟨rfl, -⟩
      exact ⟨h, l, hextract, made, hl⟩
    · intro hplain
      have hdecorated : decoratedColumns raw.names ≠ [] := by
        rw [Ne, ← hempty, hsome]
        exact Bool.false_ne_true
      rw [writtenLocalization?, if_neg fun hwanted => hplain ⟨hwanted, hdecorated⟩]

/-- **THE FILES OF A TABLE** say what was compiled, when all of them are read back. -/
theorem tableWritten_of_read (compiled : compile name raw registry = .ok table)
    (narrow : table.binary.columnCount < UInt32.size)
    (hread : ∀ o ∈ tableOutputs dir localization table,
      after.read o.file = .ok o.content.bytes) :
    TableWritten after dir localization registry name raw table
      (tableReport dir localization table) := by
  obtain ⟨hlocalized, hplain⟩ := writtenLocalization_of_compile localization compiled
  obtain rfl := (compile_ok compiled).1
  refine ⟨rfl, rfl, rfl, ?_, fun hwritten => ?_, fun hunwritten => ?_⟩
  · exact readsAsArtifact_of_read narrow (hread _ List.mem_cons_self)
  -- the two outputs of the localization stand behind the artifact
  · obtain ⟨h, l, hextract, made, hl⟩ := hlocalized hwritten
    have houtputs : tableOutputs dir localization table
        = artifactOutput dir table.name table.binary :: localizationOutputs dir table.name l := by
      rw [tableOutputs, hl, Option.map_some, Option.getD_some]
    rw [houtputs, localizationOutputs] at hread
    obtain ⟨-, hhashed, hreview, -⟩ :
        _ ∧ _ ∧ after.read (join dir (localizationName table.name ++ ".csv")) = _ ∧ _ := by
      simpa only [List.forall_mem_cons] using hread
    have hcount : l.binary.columnCount < UInt32.size := by
      rw [made.columnCount]
      decide
    refine ⟨h, l, hextract, made, ?_, ?_, ?_, ?_⟩
    · rw [tableReport, hl, Option.map_some]
    · rw [tableReport, houtputs, localizationOutputs]
      simp only [List.map_cons, List.map_nil, artifactOutput_file, localizationFile]
      rfl
    · have hartifact := readsAsArtifact_of_read hcount hhashed
      rwa [localizationFile] at hartifact
    · refine readRows_of_read hextract made.pivoted ?_
      rwa [localizationFile] at hreview
  · have hnone := hplain hunwritten
    have houtputs : tableOutputs dir localization table
        = [artifactOutput dir table.name table.binary] := by
      rw [tableOutputs, hnone, Option.map_none, Option.getD_none]
    constructor
    · rw [tableReport, hnone, Option.map_none]
    · rw [tableReport, houtputs, List.map_singleton, artifactOutput_file]

/-! ## All files of a project -/

/-- **END TO END**: if a build succeeds, no two of its outputs are one file and no table is too wide
for a header, then the report lists the sources in order, and the files of each source say what its
table, as it was before the build, is compiled to. -/
theorem build_end_to_end (h : build m base tree = (after, .ok report))
    (differ : report.outputs.Pairwise fun file file' => ¬SameFile after file file')
    (narrow : ∀ t ∈ report.tables, t.columns < UInt32.size) :
    ∃ registry, m.registry = .ok registry ∧ report.outputDir = join base m.outputDir ∧
      List.Forall₂ (fun s t => ∃ raw table, loadTable tree (join base s.path) = .ok raw ∧
          compile s.name raw registry = .ok table ∧
          TableWritten after report.outputDir m.localization registry s.name raw table t)
        m.sources report.tables := by
  obtain ⟨tables, made, hprepare, hwrite, rfl⟩ := build_ok h
  obtain ⟨registry, hregistry, hsources⟩ := prepare_ok hprepare
  refine ⟨registry, hregistry, rfl, ?_⟩
  rw [outputs_report, List.pairwise_map] at differ
  have hread := read_of_writeOutputs hwrite differ
  have hwritten : ∀ table ∈ tables, table.binary.columnCount < UInt32.size ∧
      ∀ o ∈ tableOutputs (join base m.outputDir) m.localization table,
        after.read o.file = .ok o.content.bytes := fun table htable =>
    ⟨narrow _ (List.mem_map_of_mem htable),
      fun o ho => hread o (List.mem_flatMap.mpr ⟨table, htable, ho⟩)⟩
  rw [List.forall₂_map_right_iff]
  -- sources and tables go together, and every table has been written and can be read
  refine (List.forall₂_and_left _ _ |>.mpr ⟨hwritten, hsources.flip⟩).flip.imp ?_
  rintro s table ⟨⟨hnarrow, htable⟩, raw, hraw, hcompile⟩
  exact ⟨raw, table, hraw, hcompile, tableWritten_of_read hcompile hnarrow htable⟩

/-- A localized table and one that is not. -/
def twoSources : Manifest :=
  .ofSources [⟨"item", "item.csv"⟩, ⟨"notes", "notes.csv"⟩]

def twoReports : BuildReport :=
  ⟨"out", [⟨"item", 1, 1, some 1, ["out/item.tbl", "out/item.l10n.tbl", "out/item.l10n.csv"]⟩,
    ⟨"notes", 1, 1, none, ["out/notes.tbl"]⟩]⟩

theorem build_twoSources :
    build twoSources "" clashingFiles
      = ((build twoSources "" clashingFiles).1, .ok twoReports) := by
  have hreport : (build twoSources "" clashingFiles).2 = .ok twoReports :=
    eq_ok_of_toOption (by decide +kernel)
  rw [← hreport]

/-- One source with localization and one without, built to three files. -/
theorem build_end_to_end_twoSources :
    build twoSources "" clashingFiles
        = ((build twoSources "" clashingFiles).1, .ok twoReports) ∧
      (twoReports.outputs.Pairwise fun file file' =>
        ¬SameFile (build twoSources "" clashingFiles).1 file file') ∧
      (∀ t ∈ twoReports.tables, t.columns < UInt32.size) ∧
      ∃ registry, twoSources.registry = .ok registry ∧
        List.Forall₂ (fun s t => ∃ raw table, loadTable clashingFiles (join "" s.path) = .ok raw ∧
            compile s.name raw registry = .ok table ∧
            TableWritten (build twoSources "" clashingFiles).1 "out" true registry s.name raw table t)
          twoSources.sources twoReports.tables := by
  have hvalid : twoSources.validate "tables.ron" = .ok () := rfl
  have hdiffer := (outputs_apart_iff build_twoSources).mpr
    ((apart_iff_of_plain hvalid (by decide) build_twoSources).mpr (by decide))
  have hnarrow : ∀ t ∈ twoReports.tables, t.columns < UInt32.size := by decide
  obtain ⟨registry, hregistry, -, htables⟩ := build_end_to_end build_twoSources hdiffer hnarrow
  exact ⟨build_twoSources, hdiffer, hnarrow, registry, hregistry, htables⟩

end TableCompiler
