import Mathlib.Data.List.Induction
import Mathlib.Data.List.TakeWhile
import TableCompiler.Proofs.Files.Writing

/-!
# Overwriting — files and directories that are there already

Whether a file can be written depends on the directories of the tree and on nothing else
(`write_eq_ok_iff`), and writing a file leaves the directories as they are (`writable_put_iff`).  Of two
entries put at one place the second one counts, and entries at two places can be put in either order
as soon as one of the places has an entry (`put_put_self`, `put_comm`).  So putting a list of entries
once more changes nothing, even if places come twice in it (`putAll_putAll`), and no more does making a
directory again (`createDirectories_again`).  A list in which no place comes twice can be put in any
order, if the order of the entries of a tree does not count (`alike_putAll_of_perm`).
-/

namespace TableCompiler.Files.FileTree

variable {t t' : FileTree} {place place' : Location} {path : String} {names before : List String}
variable {e e' : Entry} {bytes : List UInt8} {puts : List (Location × Entry)}

/-! ## Where a file can be written -/

/-- A path that leads to a place where no directory stands. -/
def Writable (t : FileTree) (path : String) : Prop :=
  ∃ place, t.locate path = .ok place ∧ t.entry? place ≠ some .directory

/-- A walk may be interrupted at any of its names. -/
theorem walk_append (t : FileTree) (place : Location) (before names : List String) :
    t.walk place (before ++ names)
      = match t.walk place before with
        | .error reason => .error reason
        | .ok next => t.walk next names := by
  induction before generalizing place with
  | nil => rfl
  | cons name before ih =>
      rw [List.cons_append, walk, walk]
      cases t.step place name with
      | error reason => rfl
      | ok next => exact ih next

/-- A walk ends with an idle name in a directory alone, and stays there. -/
theorem walk_idle (t : FileTree) (place : Location) :
    t.walk place [""] = .ok place' ↔ t.entry? place = some .directory ∧ place' = place := by
  have idle : isIdle "" = true := by decide
  rw [walk, step]
  cases t.entry? place with
  | none => simp
  | some e =>
      cases e with
      | file bytes => simp
      | directory =>
          simp only [idle, if_true, walk, true_and]
          exact ⟨fun h => (Except.ok.inj h).symm, fun h => congrArg Except.ok h.symm⟩

/-- A slash behind a path asks for a directory. -/
theorem locate_slash (given : path ≠ "") :
    t.locate (path ++ "/") = .ok place ↔
      t.locate path = .ok place ∧ t.entry? place = some .directory := by
  have hnull : hasNull (path ++ "/") = hasNull path := by
    rw [hasNull, hasNull, String.toList_append]
    simp
  have hgiven : path ++ "/" ≠ "" := fun h => given (String.append_eq_empty_iff.mp h).1
  have hstart := start_append t given "/"
  rw [start, start] at hstart
  have hsegments : segments (path ++ "/") = segments path ++ [""] := by
    have := segments_append_slash path ""
    rwa [String.append_empty] at this
  -- the slash adds one empty segment, which stays in place but asks for a directory
  rw [locate, locate, hnull, if_neg hgiven, if_neg given, hstart, hsegments, walk_append]
  split
  case isTrue => simp
  case isFalse =>
    cases t.walk (if isAbsolute path = true then [] else t.home) (segments path) with
    | error reason => simp
    | ok next =>
        simp only [walk_idle, Except.ok.injEq]
        constructor
        · rintro ⟨hdir, rfl⟩
          exact ⟨rfl, hdir⟩
        · rintro ⟨rfl, hdir⟩
          exact ⟨hdir, rfl⟩

/-- A path that leads to a place where no directory stands does not end with a slash. -/
theorem Writable.not_endsWithSlash (writable : t.Writable path) : endsWithSlash path = false := by
  apply Bool.eq_false_iff.mpr
  intro slash
  obtain ⟨place, hplace, apart⟩ := writable
  obtain ⟨cs, hcs⟩ := List.getLast?_eq_some_iff.mp (of_decide_eq_true slash)
  have hpath : path = String.ofList cs ++ "/" := by
    apply String.toList_inj.mp
    rw [hcs, String.toList_append, String.toList_ofList]
    rfl
  by_cases given : String.ofList cs = ""
  -- the root is a directory
  · rw [hpath, given] at hplace
    have root : place = [] := locate_ok hplace
    exact apart (by rw [root, entry?]; rfl)
  · rw [hpath] at hplace
    exact apart ((locate_slash given).mp hplace).2

/-- **WHAT CAN BE WRITTEN**: a write succeeds where no directory stands, and then puts the bytes
there. -/
theorem write_eq_ok_iff :
    t.write path bytes = .ok t' ↔
      t.Writable path ∧ t' = t.put (t.target path) (.file bytes) := by
  constructor
  · intro h
    obtain ⟨place, hplace, apart, rfl⟩ := write_put h
    rw [← locate_ok hplace]
    exact ⟨⟨place, hplace, apart⟩, rfl⟩
  -- a free place and a file may be written, a directory may not
  · rintro ⟨writable, rfl⟩
    have slash := writable.not_endsWithSlash
    obtain ⟨place, hplace, apart⟩ := writable
    rw [write, hplace, ← locate_ok hplace]
    cases hentry : t.entry? place with
    | none => simp only [hentry, slash, Bool.false_eq_true, if_false]
    | some e =>
        cases e with
        | directory => exact absurd hentry apart
        | file before => simp only [hentry]

/-- No directory stands where a file can be written. -/
theorem Writable.apart (writable : t.Writable path) :
    t.entry? (t.target path) ≠ some .directory := by
  obtain ⟨place, hplace, apart⟩ := writable
  rwa [← locate_ok hplace]

/-- Whether a file can be written depends on the directories alone. -/
theorem Writable.congr (keeps : t.KeepsDirectories t') (kept : t'.KeepsDirectories t)
    (writable : t.Writable path) : t'.Writable path := by
  obtain ⟨place, hplace, apart⟩ := writable
  exact ⟨place, keeps.locate hplace, fun hdir => apart (kept.directories place hdir)⟩

/-- A file that is put where no directory stands leaves the directories as they are. -/
theorem kept_put_file (apart : t.entry? place ≠ some .directory) :
    (t.put place (.file bytes)).KeepsDirectories t := by
  refine ⟨(home_put t place _).symm, fun place' hdir => ?_⟩
  by_cases here : place' = place
  · subst here
    rw [entry_put_self apart] at hdir
    cases hdir
  · rwa [entry_put_of_ne here] at hdir

/-- **WRITING A FILE** makes no other file more or less writable. -/
theorem writable_put_iff (apart : t.entry? place ≠ some .directory) :
    FileTree.Writable (t.put place (.file bytes)) path ↔ t.Writable path :=
  ⟨.congr (kept_put_file apart) (keepsDirectories_put apart),
    .congr (keepsDirectories_put apart) (kept_put_file apart)⟩

/-! ## Putting twice -/

/-- What is put at a place that is taken replaces what is there. -/
theorem put_of_present (present : (t.entries.lookup place).isSome = true) (e : Entry) :
    t.put place e
      = { t with entries := t.entries.map fun old => if old.1 = place then (place, e) else old } :=
  if_pos present

/-- What is put at a free place comes behind all other entries. -/
theorem put_of_absent (absent : t.entries.lookup place = none) (e : Entry) :
    t.put place e = { t with entries := t.entries ++ [(place, e)] } := by
  rw [put, absent]
  rfl

/-- What stands at other places is not replaced. -/
theorem replace_of_absent {entries : List (Location × Entry)}
    (absent : entries.lookup place = none) (e : Entry) :
    (entries.map fun old => if old.1 = place then (place, e) else old) = entries := by
  refine (List.map_congr_left fun old hold => ?_).trans (List.map_id entries)
  have apart := List.lookup_eq_none_iff.mp absent old hold
  rw [if_neg fun here => bne_iff_ne.mp apart here.symm, id]

/-- What is there after another place got an entry. -/
theorem present_put (present : (t.entries.lookup place').isSome = true) (place : Location)
    (e : Entry) : ((t.put place e).entries.lookup place').isSome = true := by
  by_cases here : place' = place
  · rw [here, lookup_put_self, Option.isSome_some]
  · rwa [lookup_put here]

/-- Replacing twice at one place, the second entry counts. -/
theorem replace_replace (entries : List (Location × Entry)) (place : Location) (e e' : Entry) :
    ((entries.map fun old => if old.1 = place then (place, e) else old).map
        fun old => if old.1 = place then (place, e') else old)
      = entries.map fun old => if old.1 = place then (place, e') else old := by
  rw [List.map_map]
  refine List.map_congr_left fun old _ => ?_
  by_cases here : old.1 = place <;> simp [here]

/-- Of two entries put at one place the second one counts. -/
theorem put_put_self (t : FileTree) (place : Location) (e e' : Entry) :
    (t.put place e).put place e' = t.put place e' := by
  have present : ((t.put place e).entries.lookup place).isSome = true := by
    rw [lookup_put_self, Option.isSome_some]
  rw [put_of_present present]
  cases hbefore : t.entries.lookup place with
  | some before =>
      have there : (t.entries.lookup place).isSome = true := by rw [hbefore, Option.isSome_some]
      rw [put_of_present there, put_of_present there]
      simp only [replace_replace]
  | none =>
      rw [put_of_absent hbefore, put_of_absent hbefore]
      simp only [List.map_append, replace_of_absent hbefore, List.map_cons, List.map_nil, if_true]

/-- Entries at different places can be put in either order, if one of the places has one. -/
theorem put_comm (apart : place ≠ place') (present : (t.entries.lookup place').isSome = true) :
    (t.put place e).put place' e' = (t.put place' e').put place e := by
  rw [put_of_present present, put_of_present (present_put present place e)]
  -- the second place is taken, so only the first put can add an entry behind the others
  cases hbefore : t.entries.lookup place with
  | some before =>
      have there : (t.entries.lookup place).isSome = true := by rw [hbefore, Option.isSome_some]
      have there' := present_put there place' e'
      rw [put_of_present present] at there'
      rw [put_of_present there, put_of_present there']
      simp only [List.map_map, FileTree.mk.injEq, true_and]
      refine List.map_congr_left fun old _ => ?_
      by_cases here : old.1 = place
      · simp [here, apart]
      · by_cases here' : old.1 = place' <;> simp [here, here', apart.symm]
  | none =>
      have free : (t.put place' e').entries.lookup place = none := by
        rw [lookup_put apart, hbefore]
      rw [put_of_present present] at free
      rw [put_of_absent hbefore, put_of_absent free]
      simp only [List.map_append, List.map_cons, List.map_nil, apart, if_false]

/-- Puts entries one after another. -/
def putAll (t : FileTree) (puts : List (Location × Entry)) : FileTree :=
  puts.foldl (fun t p => t.put p.1 p.2) t

theorem putAll_cons (t : FileTree) (p : Location × Entry) (puts : List (Location × Entry)) :
    t.putAll (p :: puts) = (t.put p.1 p.2).putAll puts := rfl

/-- The last entry is put last. -/
theorem putAll_concat (t : FileTree) (puts : List (Location × Entry)) (p : Location × Entry) :
    t.putAll (puts ++ [p]) = (t.putAll puts).put p.1 p.2 :=
  List.foldl_append

/-- Places stay taken. -/
theorem present_putAll (present : (t.entries.lookup place).isSome = true)
    (puts : List (Location × Entry)) : ((t.putAll puts).entries.lookup place).isSome = true := by
  induction puts generalizing t with
  | nil => exact present
  | cons p puts ih => exact ih (present_put present p.1 p.2)

/-- Every place where something is put is taken afterwards. -/
theorem present_of_mem_putAll {p : Location × Entry} (h : p ∈ puts) (t : FileTree) :
    ((t.putAll puts).entries.lookup p.1).isSome = true := by
  induction puts generalizing t with
  | nil => exact absurd h List.not_mem_nil
  | cons q puts ih =>
      rcases List.mem_cons.mp h with rfl | h
      · refine present_putAll ?_ puts
        rw [lookup_put_self, Option.isSome_some]
      · exact ih h _

/-- An entry that is put at its place again later need not be put there before. -/
theorem put_putAll_put (present : ∀ p ∈ puts, (t.entries.lookup p.1).isSome = true) :
    ((t.put place e).putAll puts).put place e = (t.putAll puts).put place e := by
  induction puts generalizing t with
  | nil => exact put_put_self t place e e
  | cons p puts ih =>
      obtain ⟨hfirst, hrest⟩ := List.forall_mem_cons.mp present
      rw [putAll_cons, putAll_cons]
      by_cases here : p.1 = place
      · rw [here, put_put_self]
      · rw [put_comm (Ne.symm here) hfirst]
        exact ih fun q hq => present_put (hrest q hq) p.1 p.2

/-- **PUTTING ALL AGAIN** changes nothing, even where places come twice. -/
theorem putAll_putAll (t : FileTree) (puts : List (Location × Entry)) :
    (t.putAll puts).putAll puts = t.putAll puts := by
  -- from the end of the list, where the entries stand that count
  induction puts using List.reverseRecOn with
  | nil => rfl
  | append_singleton puts p ih =>
      rw [putAll_concat, putAll_concat, put_putAll_put fun q hq => present_of_mem_putAll hq t, ih]

/-! ## Putting in another order -/

/-- Two trees with one home, in which the same stands at every place. -/
structure Alike (t t' : FileTree) : Prop where
  home : t'.home = t.home
  entries : ∀ place, t'.entry? place = t.entry? place

/-- Other places keep their entries. -/
theorem entry_putAll_of_not_mem (h : place ∉ puts.map Prod.fst) :
    FileTree.entry? (t.putAll puts) place = t.entry? place := by
  induction puts generalizing t with
  | nil => rfl
  | cons p puts ih =>
      obtain ⟨hne, hrest⟩ := not_or.mp (mt List.mem_cons.mpr h)
      rw [putAll_cons, ih hrest, entry_put_of_ne hne]

theorem home_putAll (t : FileTree) (puts : List (Location × Entry)) :
    (t.putAll puts).home = t.home := by
  induction puts generalizing t with
  | nil => rfl
  | cons p puts ih => rw [putAll_cons, ih, home_put]

/-- What is put at different places is there afterwards. -/
theorem entry_putAll_of_mem (nodup : (puts.map Prod.fst).Nodup)
    (apart : ∀ p ∈ puts, t.entry? p.1 ≠ some .directory) {p : Location × Entry} (h : p ∈ puts) :
    FileTree.entry? (t.putAll puts) p.1 = some p.2 := by
  induction puts generalizing t with
  | nil => exact absurd h List.not_mem_nil
  | cons q puts ih =>
      obtain ⟨hnew, hnodup⟩ := List.nodup_cons.mp nodup
      obtain ⟨hfirst, hrest⟩ := List.forall_mem_cons.mp apart
      rw [putAll_cons]
      rcases List.mem_cons.mp h with rfl | h
      · rw [entry_putAll_of_not_mem hnew, entry_put_self hfirst]
      · refine ih hnodup (fun r hr => ?_) h
        have hne : r.1 ≠ q.1 := fun same => hnew (same ▸ List.mem_map_of_mem hr)
        rw [entry_put_of_ne hne]
        exact hrest r hr

/-- **THE ORDER OF PUTTING** does not matter where the places differ. -/
theorem alike_putAll_of_perm {puts' : List (Location × Entry)} (perm : puts'.Perm puts)
    (nodup : (puts.map Prod.fst).Nodup) (apart : ∀ p ∈ puts, t.entry? p.1 ≠ some .directory) :
    (t.putAll puts).Alike (t.putAll puts') := by
  refine ⟨(home_putAll t puts').trans (home_putAll t puts).symm, fun place => ?_⟩
  by_cases h : place ∈ puts.map Prod.fst
  · obtain ⟨p, hp, rfl⟩ := List.mem_map.mp h
    have nodup' : (puts'.map Prod.fst).Nodup := (perm.map Prod.fst).nodup_iff.mpr nodup
    rw [entry_putAll_of_mem nodup apart hp,
      entry_putAll_of_mem nodup' (fun q hq => apart q (perm.mem_iff.mp hq)) (perm.mem_iff.mpr hp)]
  · rw [entry_putAll_of_not_mem h, entry_putAll_of_not_mem fun h' =>
      h ((perm.map Prod.fst).mem_iff.mp h')]

/-! ## Making directories again -/

/-- What is dropped from a path are slashes, and something is left. -/
theorem dropEndingSlashes_append (given : path ≠ "") :
    dropEndingSlashes path ≠ "" ∧
      ∃ k, path = dropEndingSlashes path ++ String.ofList (List.replicate k '/') := by
  obtain ⟨kept, k, hpath, hkept⟩ : ∃ kept k, path.toList = kept ++ List.replicate k '/' ∧
      (path.toList.reverse.dropWhile (· == '/')).reverse = kept := by
    refine ⟨_, (path.toList.reverse.takeWhile (· == '/')).length, ?_, rfl⟩
    have slashes : (path.toList.reverse.takeWhile (· == '/')).reverse
        = List.replicate (path.toList.reverse.takeWhile (· == '/')).length '/' := by
      refine List.eq_replicate_iff.mpr ⟨List.length_reverse, fun c hc => ?_⟩
      have slash := List.mem_takeWhile_imp (List.mem_reverse.mp hc)
      exact beq_iff_eq.mp slash
    rw [← slashes, ← List.reverse_append, List.takeWhile_append_dropWhile, List.reverse_reverse]
  have hchars : path = String.ofList kept ++ String.ofList (List.replicate k '/') := by
    rw [← String.ofList_append, ← hpath, String.ofList_toList]
  rw [dropEndingSlashes, hkept]
  -- a path of slashes alone keeps the first of them, for it is the root
  cases kept with
  | cons c cs =>
      refine ⟨fun h => ?_, k, hchars⟩
      exact List.cons_ne_nil c cs (String.ofList_eq_empty_iff.mp h)
  | nil =>
      cases k with
      | zero => exact absurd hchars given
      | succ k =>
          have absolute : isAbsolute path = true := by
            rw [isAbsolute, hpath]
            rfl
          rw [absolute]
          refine ⟨by decide, k, hchars.trans ?_⟩
          show String.ofList (List.replicate (k + 1) '/')
            = String.ofList ['/'] ++ String.ofList (List.replicate k '/')
          rw [← String.ofList_append]
          rfl

/-- Slashes at the end of a path change nothing where it leads to a directory. -/
theorem locate_slashes (given : path ≠ "") (k : Nat) :
    (t.locate (path ++ String.ofList (List.replicate k '/')) = .ok place ∧
        t.entry? place = some .directory) ↔
      t.locate path = .ok place ∧ t.entry? place = some .directory := by
  induction k with
  | zero =>
      show (t.locate (path ++ "") = _ ∧ _) ↔ _
      rw [String.append_empty]
  | succ k ih =>
      have hpath : path ++ String.ofList (List.replicate (k + 1) '/')
          = path ++ String.ofList (List.replicate k '/') ++ "/" := by
        rw [List.replicate_succ', String.ofList_append, ← String.append_assoc]
      have hgiven : path ++ String.ofList (List.replicate k '/') ≠ "" := fun h =>
        given (String.append_eq_empty_iff.mp h).1
      rw [hpath, locate_slash hgiven, and_assoc, and_self, ih]

/-- Slashes at the end of a path make no difference where it leads to a directory. -/
theorem locate_dropEndingSlashes :
    (t.locate (dropEndingSlashes path) = .ok place ∧ t.entry? place = some .directory) ↔
      t.locate path = .ok place ∧ t.entry? place = some .directory := by
  by_cases given : path = ""
  · subst given
    rfl
  · obtain ⟨hleft, k, hpath⟩ := dropEndingSlashes_append given
    generalize dropEndingSlashes path = left at hleft hpath ⊢
    rw [hpath]
    exact (locate_slashes hleft k).symm

/-- Directories are only added to a tree that grows. -/
theorem Grows.keepsDirectories (grows : t.Grows t') : t.KeepsDirectories t' := by
  refine ⟨grows.home, fun place hdir => ?_⟩
  rcases grows.entries place with same | ⟨-, made⟩
  · rw [same, hdir]
  · exact made

/-- A path is a directory if it leads to one. -/
theorem isDirectory_iff :
    t.isDirectory path = true ↔
      ∃ place, t.locate path = .ok place ∧ t.entry? place = some .directory := by
  rw [isDirectory]
  cases t.locate path with
  | error reason => simp
  | ok place => simp

/-- Paths of directories stay paths of directories. -/
theorem KeepsDirectories.isDirectory (keeps : t.KeepsDirectories t')
    (h : t.isDirectory path = true) : t'.isDirectory path = true := by
  obtain ⟨place, hplace, hdir⟩ := isDirectory_iff.mp h
  exact isDirectory_iff.mpr ⟨place, keeps.locate hplace, keeps.directories place hdir⟩

/-- A directory that has been created is there. -/
theorem isDirectory_createDirectory (h : t.createDirectory path = .ok t') :
    t'.isDirectory path = true := by
  rw [createDirectory] at h
  split at h
  case h_1 => cases h
  case h_2 place hplace =>
    split at h
    case h_1 => cases h
    case h_2 free =>
      obtain rfl := Except.ok.inj h
      have apart : t.entry? place ≠ some .directory := by
        rw [free]
        simp
      exact isDirectory_iff.mpr ⟨place, locate_dropEndingSlashes.mp
        ⟨(keepsDirectories_put apart).locate hplace, entry_put_self apart .directory⟩⟩

/-- A directory that is made is there, whether it was there before or not. -/
theorem isDirectory_ensureDirectory {parent : Except Refusal FileTree}
    (h : t.ensureDirectory path parent = .ok t') : t'.isDirectory path = true := by
  unfold ensureDirectory at h
  split at h
  case h_1 made hmade =>
    obtain rfl := Except.ok.inj h
    exact isDirectory_createDirectory hmade
  case h_2 =>
    split at h
    case h_1 => cases h
    case h_2 around =>
      split at h
      case h_1 made hmade =>
        obtain rfl := Except.ok.inj h
        exact isDirectory_createDirectory hmade
      case h_2 =>
        split at h
        case isTrue hdir =>
          obtain rfl := Except.ok.inj h
          exact hdir
        case isFalse => cases h
  case h_3 =>
    split at h
    case isTrue hdir =>
      obtain rfl := Except.ok.inj h
      exact hdir
    case isFalse => cases h

/-- A directory that is there is not made. -/
theorem ensureDirectory_of_isDirectory (h : t.isDirectory path = true)
    (parent : Except Refusal FileTree) : t.ensureDirectory path parent = .ok t := by
  obtain ⟨place, hplace, hdir⟩ := isDirectory_iff.mp h
  have there : t.createDirectory path = .error .exists := by
    rw [createDirectory, (locate_dropEndingSlashes.mpr ⟨hplace, hdir⟩).1]
    simp only [hdir]
  unfold ensureDirectory
  simp only [there, h, if_true]

/-- **MAKING A DIRECTORY AGAIN** changes nothing in a tree that kept the directories. -/
theorem createDirectories_again (h : t.createDirectories path = .ok t')
    {later : FileTree} (keeps : t'.KeepsDirectories later) :
    later.createDirectories path = .ok later := by
  rw [createDirectories] at h ⊢
  split at h
  case isTrue => cases h
  case isFalse hnull =>
    rw [if_neg hnull]
    cases hnames : (components path).reverse with
    | nil => rfl
    | cons name before =>
        rw [hnames] at h
        exact ensureDirectory_of_isDirectory
          (keeps.isDirectory (isDirectory_ensureDirectory h)) _

end TableCompiler.Files.FileTree
