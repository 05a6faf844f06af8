import TableCompiler.Files.Tree

/-!
# Locations — where a path leads, read off the path

A walk that succeeds goes where the names of its path say, whatever stands on the way (`walk_ok`).  So
a file is located by the directory of its path and its last name, and text behind the path only
lengthens that name (`target_append`).  A path that continues a directory goes on from there by its own
names, unless it is absolute (`folder_join_eq`).  What stands behind the last dot is the extension of
the file (`extension_append`).
-/

namespace TableCompiler.Files

variable {t : FileTree} {place place' : Location} {names : List String} {path : String}

/-! ## The names of a path -/

/-- Characters without a slash lengthen the last run of what stands before them. -/
theorem splitSlashes_append (cs : List Char) :
    ∃ runs last, splitSlashes cs = runs ++ [last] ∧
      ∀ ds, '/' ∉ ds → splitSlashes (cs ++ ds) = runs ++ [last ++ ds] := by
  induction cs with
  | nil =>
      refine ⟨[], [], rfl, fun ds hds => ?_⟩
      show splitSlashes ds = [ds]
      induction ds with
      | nil => rfl
      | cons d ds ih =>
          obtain ⟨hd, hrest⟩ := not_or.mp (mt List.mem_cons.mpr hds)
          rw [splitSlashes, if_neg (Ne.symm hd), ih hrest]
  | cons c cs ih =>
      obtain ⟨runs, last, hcs, happend⟩ := ih
      by_cases hc : c = '/'
      · refine ⟨[] :: runs, last, ?_, fun ds hds => ?_⟩
        · rw [splitSlashes, if_pos hc, hcs, List.cons_append]
        · rw [List.cons_append, splitSlashes, if_pos hc, happend ds hds, List.cons_append]
      -- a character other than a slash joins the first run, which may be the last one
      · cases runs with
        | nil =>
            refine ⟨[], c :: last, ?_, fun ds hds => ?_⟩
            · rw [splitSlashes, if_neg hc, hcs]
              rfl
            · rw [List.cons_append, splitSlashes, if_neg hc, happend ds hds]
              rfl
        | cons run runs =>
            refine ⟨(c :: run) :: runs, last, ?_, fun ds hds => ?_⟩
            · rw [splitSlashes, if_neg hc, hcs]
              rfl
            · rw [List.cons_append, splitSlashes, if_neg hc, happend ds hds]
              rfl

/-- The last name of a path; it is empty behind a slash. -/
def leaf (path : String) : String :=
  (segments path).getLast?.getD ""

/-- A text without a slash lengthens the last name of the path before it. -/
theorem segments_append (path : String) {suffix : String} (h : '/' ∉ suffix.toList) :
    segments (path ++ suffix) = (segments path).dropLast ++ [leaf path ++ suffix] := by
  obtain ⟨runs, last, hpath, happend⟩ := splitSlashes_append path.toList
  have hleaf : leaf path = String.ofList last := by
    rw [leaf, segments, hpath, List.map_append, List.map_singleton, List.getLast?_concat,
      Option.getD_some]
  rw [segments, segments, String.toList_append, happend _ h, hpath, List.map_append,
    List.map_append, List.map_singleton, List.map_singleton, List.dropLast_concat, hleaf,
    String.ofList_append, String.ofList_toList]

/-- A slash parts the names before it from those behind it. -/
theorem splitSlashes_append_slash (cs ds : List Char) :
    splitSlashes (cs ++ '/' :: ds) = splitSlashes cs ++ splitSlashes ds := by
  induction cs with
  | nil =>
      show splitSlashes ('/' :: ds) = [] :: splitSlashes ds
      rw [splitSlashes, if_pos rfl]
  | cons c cs ih =>
      obtain ⟨runs, last, hcs, -⟩ := splitSlashes_append cs
      by_cases hc : c = '/'
      · rw [List.cons_append, splitSlashes, splitSlashes, if_pos hc, if_pos hc, ih,
          List.cons_append]
      · rw [List.cons_append, splitSlashes, splitSlashes, if_neg hc, if_neg hc, ih, hcs]
        cases runs <;> rfl

/-- The names of a path before a slash and those of the path behind it. -/
theorem segments_append_slash (front name : String) :
    segments (front ++ ("/" ++ name)) = segments front ++ segments name := by
  have hchars : (front ++ ("/" ++ name)).toList = front.toList ++ '/' :: name.toList := by
    simp [String.toList_append]
  rw [segments, hchars, splitSlashes_append_slash, List.map_append]
  rfl

/-- Every path has a segment, the empty one at least. -/
theorem segments_ne_nil (path : String) : segments path ≠ [] := by
  obtain ⟨runs, last, hpath, -⟩ := splitSlashes_append path.toList
  intro hnil
  rw [segments, hpath, List.map_append] at hnil
  exact absurd (List.append_eq_nil_iff.mp hnil).2 (List.cons_ne_nil _ _)

/-- Behind a slash, and in the empty path, stands no name yet. -/
theorem leaf_eq_empty (h : path = "" ∨ endsWithSlash path = true) : leaf path = "" := by
  rcases h with rfl | h
  · rfl
  · obtain ⟨cs, hcs⟩ := List.getLast?_eq_some_iff.mp (of_decide_eq_true h)
    have hsplit : splitSlashes (cs ++ ['/']) = splitSlashes cs ++ [[]] :=
      splitSlashes_append_slash cs []
    rw [leaf, segments, hcs, hsplit, List.map_append, List.map_singleton, List.getLast?_concat,
      Option.getD_some]

/-- A text without a slash is one name, and no absolute path. -/
theorem segments_of_plain {name : String} (h : '/' ∉ name.toList) : segments name = [name] := by
  have := segments_append "" h
  rwa [String.empty_append] at this

/-- A name without slashes is relative. -/
theorem isAbsolute_of_plain {name : String} (h : '/' ∉ name.toList) : isAbsolute name = false := by
  rw [isAbsolute, decide_eq_false_iff_not]
  intro hhead
  exact h (List.mem_of_head? hhead)

/-- What is put behind a path does not make it absolute, or relative. -/
theorem isAbsolute_append (path : String) {suffix : String} (h : '/' ∉ suffix.toList) :
    isAbsolute (path ++ suffix) = isAbsolute path := by
  rw [isAbsolute, isAbsolute, String.toList_append]
  cases path.toList with
  | cons c cs => rfl
  | nil =>
      cases hs : suffix.toList with
      | nil => rfl
      | cons d ds =>
          rw [hs] at h
          have hd := Ne.symm (not_or.mp (mt List.mem_cons.mpr h)).1
          simp [hd]

/-- What continues a path also continues it when it is longer. -/
theorem join_append (dir name : String) {suffix : String} (h : '/' ∉ suffix.toList) :
    join dir (name ++ suffix) = join dir name ++ suffix := by
  rw [join, join, isAbsolute_append name h]
  split
  · rfl
  · split <;> simp only [String.append_assoc]

/-- A directory is continued behind a slash, or where nothing stands. -/
theorem leaf_join_empty (dir : String) : leaf (join dir "") = "" := by
  refine leaf_eq_empty ?_
  rw [join]
  split
  case isTrue => exact .inl rfl
  case isFalse =>
    split
    case isTrue hslash =>
      rw [String.append_empty]
      exact .inr hslash
    case isFalse =>
      refine .inr (decide_eq_true ?_)
      rw [String.append_empty, String.toList_append]
      exact List.getLast?_concat

/-- A name in a directory is the path of the directory with its slash, then the name. -/
theorem join_eq_append (dir : String) {name : String} (h : '/' ∉ name.toList) :
    join dir name = join dir "" ++ name := by
  rw [← join_append dir "" h, String.empty_append]

/-- A name without a slash is the last name of the path on which it continues a directory. -/
theorem leaf_join (dir : String) {name : String} (h : '/' ∉ name.toList) :
    leaf (join dir name) = name := by
  rw [join_eq_append dir h, leaf, segments_append _ h, List.getLast?_concat, Option.getD_some,
    leaf_join_empty, String.empty_append]

/-! ## Where names lead -/

/-- The place that a name leads to from a directory, by the name alone. -/
def follow (place : Location) (name : String) : Location :=
  if isIdle name then place
  else if name = ".." then place.dropLast
  else place ++ [name]

/-- Names of three characters or more are neither empty nor a dot. -/
theorem not_idle_of_long {name : String} (h : 2 < name.toList.length) : isIdle name = false := by
  rw [isIdle, Bool.or_eq_false_iff, decide_eq_false_iff_not, decide_eq_false_iff_not]
  constructor <;> rintro rfl <;> exact absurd h (by decide)

/-- A name with three characters or more leads to itself. -/
theorem follow_of_long {name : String} (h : 2 < name.toList.length) (place : Location) :
    follow place name = place ++ [name] := by
  have hback : name ≠ ".." := by
    rintro rfl
    exact absurd h (by decide)
  rw [follow, not_idle_of_long h, if_neg Bool.false_ne_true, if_neg hback]

/-- A name other than two dots leads no further back. -/
theorem prefix_follow {name : String} (h : name ≠ "..") (place : Location) :
    place <+: follow place name := by
  by_cases idle : isIdle name = true
  · have stays : follow place name = place := if_pos idle
    exact ⟨[], by rw [List.append_nil, stays]⟩
  · rw [follow, if_neg idle, if_neg h]
    exact List.prefix_append place [name]

/-- Without steps back a path stays below the place where it begins. -/
theorem prefix_foldl_follow (h : ".." ∉ names) (place : Location) :
    place <+: names.foldl follow place := by
  induction names generalizing place with
  | nil => exact List.prefix_rfl
  | cons name rest ih =>
      obtain ⟨hname, hrest⟩ := not_or.mp (mt List.mem_cons.mpr h)
      rw [List.foldl_cons]
      exact (prefix_follow (Ne.symm hname) place).trans (ih hrest _)

/-! ## Extensions -/

theorem length_pos_of_ne_empty {s : String} (h : s ≠ "") : 0 < s.toList.length :=
  List.length_pos_iff.mpr (mt String.toList_eq_nil_iff.mp h)

/-- What stands behind the last dot of a name, if something stands before it. -/
theorem extensionOfName_append {stem extension : String} (hstem : stem ≠ "")
    (hdot : '.' ∉ extension.toList) (hextension : extension ≠ "") :
    extensionOfName? (stem ++ ("." ++ extension)) = some extension := by
  have hchars : (stem ++ ("." ++ extension)).toList.reverse
      = extension.toList.reverse ++ '.' :: stem.toList.reverse := by
    simp [String.toList_append]
  -- the name is searched from its end, and the extension has no dot of its own
  have hbehind : ∀ c ∈ extension.toList.reverse, (c != '.') = true := by
    intro c hc
    exact bne_iff_ne.mpr fun heq => hdot (heq ▸ List.mem_reverse.mp hc)
  have hnonempty : stem.toList.reverse.isEmpty = false := by
    rw [List.isEmpty_reverse, List.isEmpty_eq_false_iff]
    exact mt String.toList_eq_nil_iff.mp hstem
  have hback : stem ++ ("." ++ extension) ≠ ".." := by
    intro heq
    have hlength := congrArg (fun s => s.toList.length) heq
    have hstemLength := length_pos_of_ne_empty hstem
    have hextensionLength := length_pos_of_ne_empty hextension
    simp only [String.toList_append, List.length_append] at hlength
    have hone : ".".toList.length = 1 := by decide
    have htwo : "..".toList.length = 2 := by decide
    omega
  rw [extensionOfName?, hchars, List.dropWhile_append_of_pos hbehind,
    List.takeWhile_append_of_pos hbehind]
  simp only [List.dropWhile_cons, bne_self_eq_false, Bool.false_eq_true, if_false,
    List.drop_succ_cons, List.drop_zero, hnonempty, hback, List.takeWhile_cons, List.append_nil,
    List.reverse_reverse, String.ofList_toList, decide_false, Bool.or_self]

/-- The extension of a path is that of its last name. -/
theorem extension_append {path suffix extension : String}
    (hslash : '/' ∉ (suffix ++ ("." ++ extension)).toList) (hsuffix : suffix ≠ "")
    (hdot : '.' ∉ extension.toList) (hextension : extension ≠ "") :
    extension? (path ++ (suffix ++ ("." ++ extension))) = some extension := by
  have hstem : leaf path ++ suffix ≠ "" := by
    intro heq
    exact hsuffix (String.append_eq_empty_iff.mp heq).2
  have hlong : 2 < (leaf path ++ (suffix ++ ("." ++ extension))).toList.length := by
    have hsuffixLength := length_pos_of_ne_empty hsuffix
    have hextensionLength := length_pos_of_ne_empty hextension
    have hone : ".".toList.length = 1 := by decide
    simp only [String.toList_append, List.length_append]
    omega
  rw [extension?, components, segments_append path hslash, List.filter_append, List.filter_cons,
    not_idle_of_long hlong]
  simp only [Bool.not_false, if_true, List.filter_nil, List.getLast?_concat, Option.bind_some]
  rw [← String.append_assoc, extensionOfName_append hstem hdot hextension]

namespace FileTree

/-- A step is taken from directories only. -/
theorem step_ok {name : String} (h : t.step place name = .ok place') :
    t.entry? place = some .directory ∧ place' = follow place name := by
  rw [step] at h
  split at h
  case h_1 => cases h
  case h_2 => cases h
  case h_3 hdir =>
    refine ⟨hdir, ?_⟩
    rw [follow]
    -- each kind of name goes where `follow` says, if it goes anywhere
    by_cases hidle : isIdle name = true
    · rw [if_pos hidle] at h ⊢
      exact (Except.ok.inj h).symm
    · rw [if_neg hidle] at h ⊢
      by_cases hback : name = ".."
      · rw [if_pos hback] at h ⊢
        exact (Except.ok.inj h).symm
      · rw [if_neg hback] at h ⊢
        split at h
        case isTrue => cases h
        case isFalse => exact (Except.ok.inj h).symm

/-- **A WALK GOES WHERE ITS NAMES SAY**. -/
theorem walk_ok (h : t.walk place names = .ok place') : place' = names.foldl follow place := by
  induction names generalizing place with
  | nil => exact (Except.ok.inj h).symm
  | cons name rest ih =>
      rw [walk] at h
      split at h
      case h_1 => cases h
      case h_2 next hstep =>
        rw [List.foldl_cons, ← (step_ok hstep).2]
        exact ih h

/-- Where the names of a path begin. -/
def start (t : FileTree) (path : String) : Location :=
  if isAbsolute path then [] else t.home

/-- The place that all names of a path lead to. -/
def target (t : FileTree) (path : String) : Location :=
  (segments path).foldl follow (t.start path)

/-- The directory that all names of a path but the last lead to. -/
def folder (t : FileTree) (path : String) : Location :=
  (segments path).dropLast.foldl follow (t.start path)

/-- Where a path leads depends on the home of the tree, and on nothing that stands in it. -/
theorem target_congr {t' : FileTree} (home : t'.home = t.home) (path : String) :
    t'.target path = t.target path := by
  rw [target, target, start, start, home]

/-- Names without a slash stand in one folder. -/
theorem folder_join (t : FileTree) (dir : String) {name : String} (h : '/' ∉ name.toList) :
    t.folder (join dir name) = t.folder (join dir "") := by
  rw [join_eq_append dir h, folder, folder, segments_append _ h, List.dropLast_concat, start, start,
    isAbsolute_append _ h]

/-- A path that can be followed leads to its target. -/
theorem locate_ok (h : t.locate path = .ok place) : place = t.target path := by
  rw [locate] at h
  split at h
  case isTrue => cases h
  case isFalse =>
    split at h
    case isTrue => cases h
    case isFalse => exact walk_ok h

/-- **A FILE STANDS IN ITS FOLDER**: a path with a long enough ending leads to the folder of the path
before the ending, and there to its last name with the ending. -/
theorem target_append (t : FileTree) (path : String) {suffix : String}
    (hslash : '/' ∉ suffix.toList) (hlong : 2 < suffix.toList.length) :
    t.target (path ++ suffix) = t.folder path ++ [leaf path ++ suffix] := by
  have hleaf : 2 < (leaf path ++ suffix).toList.length := by
    rw [String.toList_append, List.length_append]
    omega
  rw [target, segments_append path hslash, List.foldl_append, List.foldl_cons, List.foldl_nil,
    follow_of_long hleaf, folder, start, start, isAbsolute_append path hslash]

/-! ## Names that continue a directory -/

/-- A slash at the end of a path leads nowhere. -/
theorem foldl_append_slash (front : String) (place : Location) :
    (segments (front ++ "/")).foldl follow place = (segments front).foldl follow place := by
  have hsegments : segments (front ++ ("/" ++ "")) = segments front ++ [""] :=
    segments_append_slash front ""
  rw [String.append_empty] at hsegments
  rw [hsegments, List.foldl_append]
  rfl

/-- Whether a path is absolute shows in its first part, unless that is empty. -/
theorem start_append (t : FileTree) {front : String} (h : front ≠ "") (name : String) :
    t.start (front ++ name) = t.start front := by
  have hhead : (front ++ name).toList.head? = front.toList.head? := by
    obtain ⟨c, cs, hcs⟩ := List.exists_cons_of_ne_nil (mt String.toList_eq_nil_iff.mp h)
    rw [String.toList_append, hcs]
    rfl
  rw [start, start, isAbsolute, isAbsolute, hhead]

/-- A path that continues a directory has the names that it is made of, behind others that lead to the
directory, or to the root if it is absolute. -/
theorem segments_join (t : FileTree) (dir name : String) :
    ∃ before, segments (join dir name) = before ++ segments name ∧
      before.foldl follow (t.start (join dir name))
        = if isAbsolute name then [] else t.target dir := by
  by_cases absolute : isAbsolute name = true
  · have hjoin : join dir name = name := by simp [join, absolute]
    rw [hjoin, if_pos absolute]
    refine ⟨[], rfl, ?_⟩
    rw [List.foldl_nil, start, if_pos absolute]
  · rw [if_neg absolute]
    by_cases empty : dir = ""
    · have hjoin : join dir name = name := by simp [join, empty]
      rw [hjoin, empty]
      refine ⟨[], rfl, ?_⟩
      rw [List.foldl_nil, start, if_neg absolute]
      rfl
    · by_cases slash : endsWithSlash dir = true
      -- the slash at the end of the directory is the one in front of the name
      · have hjoin : join dir name = dir ++ name := by simp [join, absolute, empty, slash]
        obtain ⟨cs, hcs⟩ := List.getLast?_eq_some_iff.mp (of_decide_eq_true slash)
        have hdir : dir = String.ofList cs ++ "/" := by
          apply String.toList_inj.mp
          rw [hcs, String.toList_append, String.toList_ofList]
          rfl
        rw [hjoin]
        refine ⟨segments (String.ofList cs), ?_, ?_⟩
        · rw [hdir, String.append_assoc, segments_append_slash]
        · rw [start_append t empty, target, hdir, foldl_append_slash]
      · have hjoin : join dir name = dir ++ ("/" ++ name) := by
          simp [join, absolute, empty, slash, String.append_assoc]
        rw [hjoin]
        refine ⟨segments dir, segments_append_slash dir name, ?_⟩
        rw [start_append t empty, target]

/-- **A NAME GOES ON FROM ITS DIRECTORY**: the folder of a name is where its own names lead from the
directory that it continues, or from the root if it is absolute. -/
theorem folder_join_eq (t : FileTree) (dir name : String) :
    t.folder (join dir name)
      = (segments name).dropLast.foldl follow (if isAbsolute name then [] else t.target dir) := by
  obtain ⟨before, hsegments, hbefore⟩ := segments_join t dir name
  rw [folder, hsegments, List.dropLast_append_of_ne_nil (segments_ne_nil name), List.foldl_append,
    hbefore]

end FileTree

/-- The last name of a path is that of what continues it. -/
theorem leaf_join_eq (dir name : String) : leaf (join dir name) = leaf name := by
  obtain ⟨before, hsegments, -⟩ := FileTree.segments_join ⟨[], []⟩ dir name
  rw [leaf, leaf, hsegments, List.getLast?_append,
    List.getLast?_eq_some_getLast (segments_ne_nil name), Option.some_or]

end TableCompiler.Files
