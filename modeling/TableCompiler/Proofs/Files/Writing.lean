import TableCompiler.Proofs.Files.Location

/-!
# Writing — what a file holds after it is written

A write puts the bytes at the place that the path leads to, where no directory stands, and leaves what
stands at other places (`write_put`).  So every directory stays a directory, what could be located
still is, at the same place (`KeepsDirectories.locate`), and what is read from a path afterwards is
what was written there (`read_write`).  Making a directory, with those on the way to it, adds
directories where nothing stood and touches no file (`grows_createDirectories`).
-/

namespace TableCompiler.Files.FileTree

variable {t t' t'' : FileTree} {place place' : Location} {names : List String} {path : String}
variable {e : Entry} {bytes : List UInt8}

/-! ## Directories that stay -/

/-- What is a directory in one tree is one in the other. -/
structure KeepsDirectories (t t' : FileTree) : Prop where
  home : t'.home = t.home
  directories : ∀ place, t.entry? place = some .directory → t'.entry? place = some .directory

theorem KeepsDirectories.refl (t : FileTree) : t.KeepsDirectories t :=
  ⟨rfl, fun _ h => h⟩

theorem KeepsDirectories.trans (h₁ : t.KeepsDirectories t') (h₂ : t'.KeepsDirectories t'') :
    t.KeepsDirectories t'' :=
  ⟨h₂.home.trans h₁.home, fun place h => h₂.directories place (h₁.directories place h)⟩

/-- A walk through directories that are kept leads to the same place. -/
theorem KeepsDirectories.walk (keeps : t.KeepsDirectories t')
    (h : t.walk place names = .ok place') : t'.walk place names = .ok place' := by
  induction names generalizing place with
  | nil => exact h
  | cons name rest ih =>
      rw [FileTree.walk] at h ⊢
      split at h
      case h_1 => cases h
      case h_2 next hstep =>
        -- a step looks at the tree only to see that it starts in a directory
        have hdir := (step_ok hstep).1
        have hsame : t'.step place name = t.step place name := by
          rw [step, step, hdir, keeps.directories place hdir]
        rw [hsame, hstep]
        exact ih h

/-- What could be located still is, at the same place. -/
theorem KeepsDirectories.locate (keeps : t.KeepsDirectories t') (h : t.locate path = .ok place) :
    t'.locate path = .ok place := by
  rw [FileTree.locate] at h ⊢
  split at h
  case isTrue => cases h
  case isFalse hnull =>
    rw [if_neg hnull]
    split at h
    case isTrue => cases h
    case isFalse hempty =>
      rw [if_neg hempty, keeps.home]
      exact keeps.walk h

/-! ## Putting and writing -/

theorem home_put (t : FileTree) (place : Location) (e : Entry) : (t.put place e).home = t.home := by
  rw [put]
  split <;> rfl

/-- Putting an entry at a place leaves the entries of other places. -/
theorem lookup_put (h : place' ≠ place) :
    (t.put place e).entries.lookup place' = t.entries.lookup place' := by
  have hne : (place' == place) = false := beq_eq_false_iff_ne.mpr h
  rw [put]
  -- an entry is replaced where it stands, or comes behind all others
  split
  case isTrue =>
    show (t.entries.map fun old => if old.1 = place then (place, e) else old).lookup place' = _
    induction t.entries with
    | nil => rfl
    | cons old rest ih =>
        rw [List.map_cons]
        by_cases hold : old.1 = place
        · rw [if_pos hold, List.lookup_cons, hne, ih, List.lookup_cons, hold, hne]
        · rw [if_neg hold, List.lookup_cons, ih, List.lookup_cons]
  case isFalse =>
    show (t.entries ++ [(place, e)]).lookup place' = _
    rw [List.lookup_append, List.lookup_cons, hne, List.lookup_nil, Option.or_none]

/-- Replacing the entry of a place that has one. -/
theorem lookup_replace {entries : List (Location × Entry)}
    (h : (entries.lookup place).isSome = true) :
    (entries.map fun old => if old.1 = place then (place, e) else old).lookup place = some e := by
  induction entries with
  | nil => cases h
  | cons old rest ih =>
      rw [List.map_cons]
      by_cases hold : old.1 = place
      · rw [if_pos hold, List.lookup_cons_self]
      · have hne : (place == old.1) = false := beq_eq_false_iff_ne.mpr (Ne.symm hold)
        rw [List.lookup_cons, hne] at h
        rw [if_neg hold, List.lookup_cons, hne]
        exact ih h

/-- What is put at a place is found there. -/
theorem lookup_put_self (t : FileTree) (place : Location) (e : Entry) :
    (t.put place e).entries.lookup place = some e := by
  rw [put]
  split
  case isTrue hthere => exact lookup_replace hthere
  case isFalse hmissing =>
    show (t.entries ++ [(place, e)]).lookup place = _
    rw [List.lookup_append, Option.not_isSome_iff_eq_none.mp hmissing, Option.none_or,
      List.lookup_cons_self]

/-- What is put where no directory stands is there. -/
theorem entry_put_self (h : t.entry? place ≠ some .directory) (e : Entry) :
    FileTree.entry? (t.put place e) place = some e := by
  rw [ entry?] at h
  rw [ entry?, home_put]
  split
  case isTrue hprefix => exact absurd (if_pos hprefix) h
  case isFalse => exact lookup_put_self t place e

/-- Other places keep what they had. -/
theorem entry_put_of_ne (h : place' ≠ place) (e : Entry) :
    FileTree.entry? (t.put place e) place' = t.entry? place' := by
  rw [ entry?, entry?, home_put, lookup_put h]

/-- A file put where no directory is leaves all directories as they are. -/
theorem keepsDirectories_put (h : t.entry? place ≠ some .directory) :
    t.KeepsDirectories (t.put place e) := by
  refine ⟨home_put t place e, fun place' hdir => ?_⟩
  have hne : place' ≠ place := by
    rintro rfl
    exact h hdir
  rw [entry_put_of_ne hne, hdir]

/-- A write puts the bytes at the place of its path, where no directory stands. -/
theorem write_put (h : t.write path bytes = .ok t') :
    ∃ place, t.locate path = .ok place ∧ t.entry? place ≠ some .directory ∧
      t' = t.put place (.file bytes) := by
  rw [write] at h
  split at h
  case h_1 => cases h
  case h_2 place hplace =>
    refine ⟨place, hplace, ?_⟩
    split at h
    case h_1 => cases h
    case h_2 before hfile =>
      exact ⟨(fun hdir => nomatch hfile.symm.trans hdir), (Except.ok.inj h).symm⟩
    case h_3 hnone =>
      split at h
      case isTrue => cases h
      case isFalse => exact ⟨(fun hdir => nomatch hnone.symm.trans hdir), (Except.ok.inj h).symm⟩

/-- **A WRITE** needs a place for its path, and leaves every directory a directory. -/
theorem write_ok (h : t.write path bytes = .ok t') :
    (∃ place, t.locate path = .ok place) ∧ t.KeepsDirectories t' := by
  obtain ⟨place, hplace, hfree, rfl⟩ := write_put h
  exact ⟨⟨place, hplace⟩, keepsDirectories_put hfree⟩

/-! ## Making directories -/

/-- One tree is the other with some directories more, each where nothing stood. -/
structure Grows (t t' : FileTree) : Prop where
  home : t'.home = t.home
  entries : ∀ place, t'.entry? place = t.entry? place ∨
    t.entry? place = none ∧ t'.entry? place = some .directory

theorem Grows.refl (t : FileTree) : t.Grows t :=
  ⟨rfl, fun _ => .inl rfl⟩

theorem Grows.trans (h₁ : t.Grows t') (h₂ : t'.Grows t'') : t.Grows t'' := by
  refine ⟨h₂.home.trans h₁.home, fun place => ?_⟩
  rcases h₂.entries place with same | ⟨free, made⟩
  · rcases h₁.entries place with same' | ⟨free', made'⟩
    · exact .inl (same.trans same')
    · exact .inr ⟨free', same.trans made'⟩
  · rcases h₁.entries place with same' | ⟨-, made'⟩
    · exact .inr ⟨same'.symm.trans free, made⟩
    · exact nomatch made'.symm.trans free

/-- Files are the same in a tree that grew. -/
theorem Grows.file_iff (grows : t.Grows t') :
    t'.entry? place = some (.file bytes) ↔ t.entry? place = some (.file bytes) := by
  rcases grows.entries place with same | ⟨free, made⟩
  · rw [same]
  · rw [free, made]
    simp

/-- Creating a directory changes nothing that is there. -/
theorem grows_createDirectory (h : t.createDirectory path = .ok t') : t.Grows t' := by
  rw [createDirectory] at h
  split at h
  case h_1 => cases h
  case h_2 place _ =>
    split at h
    case h_1 => cases h
    case h_2 free =>
      obtain rfl := Except.ok.inj h
      refine ⟨home_put t place .directory, fun place' => ?_⟩
      by_cases here : place' = place
      · subst here
        have apart : t.entry? place' ≠ some .directory := by
          rw [free]
          simp
        exact .inr ⟨free, entry_put_self apart .directory⟩
      · exact .inl (entry_put_of_ne here .directory)

/-- Making a directory does nothing else, whether the one around it is there or made before. -/
theorem grows_ensureDirectory {parent : Except Refusal FileTree}
    (around : ∀ made, parent = .ok made → t.Grows made)
    (h : t.ensureDirectory path parent = .ok t') : t.Grows t' := by
  unfold ensureDirectory at h
  -- created at once, created in a parent that was created before, or there already
  split at h
  case h_1 made hmade =>
    obtain rfl := Except.ok.inj h
    exact grows_createDirectory hmade
  case h_2 =>
    split at h
    case h_1 => cases h
    case h_2 made =>
      have grows := around made rfl
      split at h
      case h_1 made' hmade' =>
        obtain rfl := Except.ok.inj h
        exact grows.trans (grows_createDirectory hmade')
      case h_2 =>
        split at h
        case isTrue =>
          obtain rfl := Except.ok.inj h
          exact grows
        case isFalse => cases h
  case h_3 =>
    split at h
    case isTrue =>
      obtain rfl := Except.ok.inj h
      exact .refl t
    case isFalse => cases h

/-- Creating one directory in another changes nothing that is there. -/
theorem grows_createNames {absolute : Bool} (h : t.createNames absolute names = .ok t') :
    t.Grows t' := by
  induction names generalizing t' with
  | nil =>
      obtain rfl := Except.ok.inj h
      exact .refl t
  | cons name before ih =>
      rw [createNames] at h
      exact grows_ensureDirectory (fun made hmade => ih hmade) h

/-- **DIRECTORIES ARE MADE** where nothing stands, and nothing else is. -/
theorem grows_createDirectories (h : t.createDirectories path = .ok t') : t.Grows t' := by
  rw [createDirectories] at h
  split at h
  case isTrue => cases h
  case isFalse =>
    split at h
    case h_1 =>
      obtain rfl := Except.ok.inj h
      exact .refl t
    case h_2 => exact grows_ensureDirectory (fun made hmade => grows_createNames hmade) h

/-! ## Reading -/

/-- A path is read if it leads to a file. -/
theorem read_eq_ok_iff :
    t.read path = .ok bytes ↔
      ∃ place, t.locate path = .ok place ∧ t.entry? place = some (.file bytes) := by
  rw [read]
  cases t.locate path with
  | error reason => simp
  | ok place =>
      simp only [Except.ok.injEq, exists_eq_left']
      cases t.entry? place with
      | none => simp
      | some e => cases e <;> simp

/-- **WHAT IS WRITTEN IS READ**. -/
theorem read_write (h : t.write path bytes = .ok t') : t'.read path = .ok bytes := by
  obtain ⟨place, hplace, hfree, rfl⟩ := write_put h
  exact read_eq_ok_iff.mpr
    ⟨place, (keepsDirectories_put hfree).locate hplace, entry_put_self hfree _⟩

/-- A write leaves what stands at another place. -/
theorem entry_write_of_ne (h : t.write path bytes = .ok t')
    (hne : t.locate path ≠ .ok place) : t'.entry? place = t.entry? place := by
  obtain ⟨place', hplace', -, rfl⟩ := write_put h
  refine entry_put_of_ne ?_ _
  rintro rfl
  exact hne hplace'

end TableCompiler.Files.FileTree
