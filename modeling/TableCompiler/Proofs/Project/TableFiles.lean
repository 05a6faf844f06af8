import TableCompiler.Project.Build
import TableCompiler.Proofs.Files.Location

/-!
# The files of a table — when two tables share one

A table is written as its artifact, and if it is localized as an artifact and a CSV of its
localization.  `SharesFile` says by name and folder when a file of one table is a file of another: the
two have one path, or one has the path of the other's localization (`tableFiles_apart_iff`).
-/

namespace TableCompiler

open TableCompiler.Files

variable {dir name : String} {tree : FileTree} {t u : TableReport} {localized : Bool}

/-! ## Files by their endings -/

/-- Two paths lead to one place. -/
def SameFile (tree : FileTree) (file file' : String) : Prop :=
  ∃ place, tree.locate file = .ok place ∧ tree.locate file' = .ok place

theorem SameFile.target {file file' : String} (same : SameFile tree file file') :
    tree.target file = tree.target file' := by
  obtain ⟨place, hplace, hplace'⟩ := same
  rw [← FileTree.locate_ok hplace, ← FileTree.locate_ok hplace']

/-- What stands behind the name of a table in the names of its files: the mark of the localization,
and the extension. -/
def endings (localized : Bool) : List (String × String) :=
  ("", ".tbl") :: if localized then [(".l10n", ".tbl"), (".l10n", ".csv")] else []

/-- The files of a table. -/
def tableFiles (dir name : String) (localized : Bool) : List String :=
  (endings localized).map fun p => join dir (name ++ (p.1 ++ p.2))

theorem mem_tableFiles {file : String} :
    file ∈ tableFiles dir name localized ↔
      ∃ p ∈ endings localized, join dir (name ++ (p.1 ++ p.2)) = file :=
  List.mem_map

theorem mem_endings {p : String × String} :
    p ∈ endings localized ↔
      p = ("", ".tbl") ∨ localized = true ∧ (p = (".l10n", ".tbl") ∨ p = (".l10n", ".csv")) := by
  cases localized <;> simp [endings]

/-- Endings hold no slash and are long enough to be no dots. -/
theorem ending_ok {p : String × String} (h : p ∈ endings localized) :
    '/' ∉ (p.1 ++ p.2).toList ∧ 2 < (p.1 ++ p.2).toList.length := by
  rcases mem_endings.mp h with rfl | ⟨-, rfl | rfl⟩ <;> decide

/-- No two files of a table have one ending. -/
theorem endings_differ (localized : Bool) :
    (endings localized).Pairwise fun p q => p.1 ++ p.2 ≠ q.1 ++ q.2 := by
  cases localized <;> decide

theorem append_eq_append_iff_of_length {a b x y : String} (h : x.length = y.length) :
    a ++ x = b ++ y ↔ a = b ∧ x = y := by
  constructor
  · intro heq
    have hlists : a.toList ++ x.toList = b.toList ++ y.toList := by
      rw [← String.toList_append, heq, String.toList_append]
    obtain ⟨hab, hxy⟩ := List.append_inj' hlists (by rwa [String.length_toList, String.length_toList])
    exact ⟨String.toList_inj.mp hab, String.toList_inj.mp hxy⟩
  · rintro ⟨rfl, rfl⟩
    rfl

/-- Two names meet under their endings when they are equal, or one is the other's localization. -/
theorem endings_meet_iff {a b : String} {localized' : Bool} :
    (∃ p ∈ endings localized, ∃ q ∈ endings localized', a ++ (p.1 ++ p.2) = b ++ (q.1 ++ q.2)) ↔
      a = b ∨ (localized = true ∧ b = a ++ ".l10n") ∨ (localized' = true ∧ a = b ++ ".l10n") := by
  constructor
  · rintro ⟨p, hp, q, hq, heq⟩
    -- every ending is a mark and an extension of four characters, so the marks can be compared
    -- alone
    have hlength : p.2.length = q.2.length := by
      rcases mem_endings.mp hp with rfl | ⟨-, rfl | rfl⟩ <;>
        rcases mem_endings.mp hq with rfl | ⟨-, rfl | rfl⟩ <;> decide
    rw [← String.append_assoc, ← String.append_assoc] at heq
    have hmarks := ((append_eq_append_iff_of_length hlength).mp heq).1
    have hmark : ∀ {l : Bool} {p : String × String}, p ∈ endings l →
        p.1 = "" ∨ l = true ∧ p.1 = ".l10n" := by
      intro l p hp
      rcases mem_endings.mp hp with rfl | ⟨hl, rfl | rfl⟩
      · exact .inl rfl
      · exact .inr ⟨hl, rfl⟩
      · exact .inr ⟨hl, rfl⟩
    rcases hmark hp with hp | ⟨hl, hp⟩ <;> rcases hmark hq with hq | ⟨hl', hq⟩
    · rw [hp, hq, String.append_empty, String.append_empty] at hmarks
      exact .inl hmarks
    · rw [hp, hq, String.append_empty] at hmarks
      exact .inr (.inr ⟨hl', hmarks⟩)
    · rw [hp, hq, String.append_empty] at hmarks
      exact .inr (.inl ⟨hl, hmarks.symm⟩)
    · rw [hp, hq] at hmarks
      exact .inl ((append_eq_append_iff_of_length rfl).mp hmarks).1
  · have hplain : ∀ l, ("", ".tbl") ∈ endings l := fun l => mem_endings.mpr (.inl rfl)
    have hmarked : (".l10n", ".tbl") ∈ endings true := mem_endings.mpr (.inr ⟨rfl, .inl rfl⟩)
    rintro (rfl | ⟨rfl, rfl⟩ | ⟨rfl, rfl⟩)
    · exact ⟨_, hplain _, _, hplain _, rfl⟩
    · exact ⟨_, hmarked, _, hplain _, by rw [String.append_assoc, String.empty_append]⟩
    · exact ⟨_, hplain _, _, hmarked, by rw [String.append_assoc, String.empty_append]⟩

/-- Where a file of a table leads. -/
theorem target_tableFile (tree : FileTree) (dir name : String) {p : String × String}
    (hp : p ∈ endings localized) :
    tree.target (join dir (name ++ (p.1 ++ p.2)))
      = tree.folder (join dir name) ++ [leaf (join dir name) ++ (p.1 ++ p.2)] := by
  obtain ⟨hslash, hlong⟩ := ending_ok hp
  rw [join_append dir name hslash]
  exact FileTree.target_append tree (join dir name) hslash hlong

/-- The place of a file of a table. -/
theorem locate_tableFile {p : String × String} {place : Location} (hp : p ∈ endings localized)
    (h : tree.locate (join dir (name ++ (p.1 ++ p.2))) = .ok place) :
    place = tree.folder (join dir name) ++ [leaf (join dir name) ++ (p.1 ++ p.2)] :=
  (FileTree.locate_ok h).trans (target_tableFile tree dir name hp)

/-! ## Different files -/

/-- Two tables write one file. -/
def SharesFile (tree : FileTree) (dir : String) (t u : TableReport) : Prop :=
  tree.folder (join dir t.name) = tree.folder (join dir u.name) ∧
    (leaf (join dir t.name) = leaf (join dir u.name) ∨
      (t.localized?.isSome = true ∧
        leaf (join dir u.name) = leaf (join dir t.name) ++ ".l10n") ∨
      (u.localized?.isSome = true ∧
        leaf (join dir t.name) = leaf (join dir u.name) ++ ".l10n"))

/-- Two files of tables are one when folder and name are one. -/
theorem sameFile_iff {name' : String} {localized' : Bool} {p q : String × String}
    (hp : p ∈ endings localized) (hq : q ∈ endings localized')
    (hfile : ∃ place, tree.locate (join dir (name ++ (p.1 ++ p.2))) = .ok place)
    (hfile' : ∃ place, tree.locate (join dir (name' ++ (q.1 ++ q.2))) = .ok place) :
    SameFile tree (join dir (name ++ (p.1 ++ p.2))) (join dir (name' ++ (q.1 ++ q.2))) ↔
      tree.folder (join dir name) = tree.folder (join dir name') ∧
        leaf (join dir name) ++ (p.1 ++ p.2) = leaf (join dir name') ++ (q.1 ++ q.2) := by
  obtain ⟨place, hplace⟩ := hfile
  obtain ⟨place', hplace'⟩ := hfile'
  have hfolder := locate_tableFile hp hplace
  have hfolder' := locate_tableFile hq hplace'
  constructor
  · rintro ⟨both, hboth, hboth'⟩
    obtain rfl := Except.ok.inj (hplace.symm.trans hboth)
    obtain rfl := Except.ok.inj (hplace'.symm.trans hboth')
    rw [hfolder] at hfolder'
    exact List.append_singleton_inj.mp hfolder'
  · rintro ⟨hfolders, hleaves⟩
    refine ⟨place, hplace, ?_⟩
    rw [hplace', hfolder', hfolder, hfolders, hleaves]

/-- The files of one table are different. -/
theorem tableFiles_differ (hlocated : ∀ file ∈ tableFiles dir name localized,
      ∃ place, tree.locate file = .ok place) :
    (tableFiles dir name localized).Pairwise fun file file' => ¬SameFile tree file file' := by
  have hending : ∀ p ∈ endings localized,
      ∃ place, tree.locate (join dir (name ++ (p.1 ++ p.2))) = .ok place :=
    fun p hp => hlocated _ (mem_tableFiles.mpr ⟨p, hp, rfl⟩)
  rw [tableFiles, List.pairwise_map]
  refine (endings_differ localized).imp_of_mem fun {p q} hp hq hne hsame => hne ?_
  have hleaves := ((sameFile_iff hp hq (hending p hp) (hending q hq)).mp hsame).2
  exact (String.append_right_inj _).mp hleaves

/-- No file of one table is a file of the other exactly when the tables share none. -/
theorem tableFiles_apart_iff
    (hlocated : ∀ file ∈ tableFiles dir t.name t.localized?.isSome,
      ∃ place, tree.locate file = .ok place)
    (hlocated' : ∀ file ∈ tableFiles dir u.name u.localized?.isSome,
      ∃ place, tree.locate file = .ok place) :
    (∀ file ∈ tableFiles dir t.name t.localized?.isSome,
      ∀ file' ∈ tableFiles dir u.name u.localized?.isSome, ¬SameFile tree file file') ↔
      ¬SharesFile tree dir t u := by
  have hending : ∀ p ∈ endings t.localized?.isSome,
      ∃ place, tree.locate (join dir (t.name ++ (p.1 ++ p.2))) = .ok place :=
    fun p hp => hlocated _ (mem_tableFiles.mpr ⟨p, hp, rfl⟩)
  have hending' : ∀ q ∈ endings u.localized?.isSome,
      ∃ place, tree.locate (join dir (u.name ++ (q.1 ++ q.2))) = .ok place :=
    fun q hq => hlocated' _ (mem_tableFiles.mpr ⟨q, hq, rfl⟩)
  rw [SharesFile, ← endings_meet_iff]
  constructor
  · rintro hapart ⟨hfolders, p, hp, q, hq, hleaves⟩
    exact hapart _ (mem_tableFiles.mpr ⟨p, hp, rfl⟩) _ (mem_tableFiles.mpr ⟨q, hq, rfl⟩)
      ((sameFile_iff hp hq (hending p hp) (hending' q hq)).mpr ⟨hfolders, hleaves⟩)
  · intro hshares file hfile file' hfile' hboth
    obtain ⟨p, hp, rfl⟩ := mem_tableFiles.mp hfile
    obtain ⟨q, hq, rfl⟩ := mem_tableFiles.mp hfile'
    obtain ⟨hfolders, hleaves⟩ :=
      (sameFile_iff hp hq (hending p hp) (hending' q hq)).mp hboth
    exact hshares ⟨hfolders, p, hp, q, hq, hleaves⟩

end TableCompiler
