import Mathlib.Data.List.Nodup
import TableCompiler.Project.Manifest
import TableCompiler.Proofs.Column.Members
import TableCompiler.Proofs.Text.Ordered

/-!
# Enum maps — namespaces and members that are listed in any order

A manifest has its enums as a map of maps, which has no order of its own.  A list of namespaces stands for
one when it repeats no name (`IsMap`), and two lists stand for the same one when they differ in the order
of the namespaces and of their members alone (`Reordered`).  Sorted by name, all listings of a map are one
list of namespaces, and it is the one that insertions make (`IsMap.mergeSort_orderedMembers`).  What is
loaded from a file is always a map, even if the file repeats names (`isMap_of_load`).
-/

namespace TableCompiler

open TableCompiler.Files TableCompiler.Source TableCompiler.Text

/-- Enum namespaces, each with its members, as they are listed. -/
abbrev Enums := List (String × List (String × Int64))

variable {ns : String} {members : List (String × Int64)} {enums enums' enums'' : Enums}

/-! ## Listings of a map -/

/-- No namespace is listed twice, and no member of one. -/
structure IsMap (enums : Enums) : Prop where
  names : (enums.map (·.1)).Nodup
  members : ∀ ns ∈ enums, (ns.2.map (·.1)).Nodup

/-- The namespaces in another order, and the members of each in another order. -/
structure Reordered (enums enums' : Enums) : Prop where
  names : (enums.map (·.1)).Perm (enums'.map (·.1))
  members : ∀ ns ∈ enums, ∀ ns' ∈ enums', ns.1 = ns'.1 → ns.2.Perm ns'.2

namespace Reordered

theorem symm (reordered : Reordered enums enums') : Reordered enums' enums where
  names := reordered.names.symm
  members := fun ns hns ns' hns' same =>
    (reordered.members ns' hns' ns hns same.symm).symm

/-- The namespace of that name in the other listing. -/
theorem exists_mem (reordered : Reordered enums enums') (mem : (ns, members) ∈ enums) :
    ∃ members', (ns, members') ∈ enums' ∧ members.Perm members' := by
  have name : ns ∈ enums'.map (·.1) := reordered.names.mem_iff.mp (List.mem_map_of_mem mem)
  obtain ⟨⟨_, members'⟩, mem', rfl⟩ := List.mem_map.mp name
  exact ⟨members', mem', reordered.members _ mem _ mem' rfl⟩

theorem trans (first : Reordered enums enums') (second : Reordered enums' enums'') :
    Reordered enums enums'' where
  names := first.names.trans second.names
  members := by
    rintro ⟨ns, members⟩ hns ⟨ns', members'⟩ hns' rfl
    obtain ⟨between, hbetween, perm⟩ := first.exists_mem hns
    exact perm.trans (second.members _ hbetween _ hns' rfl)

/-- A listing of a map is one in every order. -/
theorem isMap (reordered : Reordered enums enums') (map : IsMap enums) : IsMap enums' where
  names := reordered.names.nodup_iff.mp map.names
  members := by
    rintro ⟨ns, members⟩ hns
    obtain ⟨members', hmembers', perm⟩ := reordered.symm.exists_mem hns
    exact (perm.map (·.1)).nodup_iff.mpr (map.members _ hmembers')

end Reordered

/-- In a map the entries of one name are one entry. -/
theorem IsMap.eq_of_mem {members' : List (String × Int64)} (map : IsMap enums)
    (mem : (ns, members) ∈ enums) (mem' : (ns, members') ∈ enums) : members = members' := by
  have found := (lookup_eq_some_iff_mem map.names).mpr mem
  have found' := (lookup_eq_some_iff_mem map.names).mpr mem'
  exact Option.some.inj (found.symm.trans found')

/-- A map listed in another order is the same map. -/
theorem IsMap.reordered_of_perm (map : IsMap enums) (perm : enums.Perm enums') :
    Reordered enums enums' where
  names := perm.map (·.1)
  members := by
    rintro ⟨ns, members⟩ hns ⟨ns', members'⟩ hns' rfl
    rw [map.eq_of_mem hns (perm.mem_iff.mpr hns')]

/-- Every namespace with its members in ascending order. -/
def orderedMembers (enums : Enums) : Enums :=
  enums.map fun ns => (ns.1, ordered ns.2)

theorem names_orderedMembers (enums : Enums) :
    (orderedMembers enums).map (·.1) = enums.map (·.1) := by
  rw [orderedMembers, List.map_map]
  rfl

theorem IsMap.reordered_orderedMembers (map : IsMap enums) :
    Reordered enums (orderedMembers enums) where
  names := by rw [names_orderedMembers]
  members := by
    rintro ⟨ns, members⟩ hns ⟨ns', members'⟩ hns' rfl
    obtain ⟨⟨name, listed⟩, hlisted, hpair⟩ := List.mem_map.mp hns'
    obtain ⟨rfl, rfl⟩ := Prod.mk.inj hpair
    rw [map.eq_of_mem hns hlisted]
    exact (perm_ordered (map.members _ hlisted)).symm

/-! ## Sorting by name -/

/-- Whether a namespace can stand before another one in an order by name. -/
def byName (ns ns' : String × List (String × Int64)) : Bool :=
  ns.1 ≤ ns'.1

/-- Sorted by name, the namespaces of a map ascend. -/
theorem IsMap.ascending_mergeSort (map : IsMap enums) : Ascending (enums.mergeSort byName) := by
  have sorted : (enums.mergeSort byName).Pairwise fun ns ns' => byName ns ns' = true := by
    refine List.pairwise_mergeSort ?_ ?_ enums
    · intro ns ns' ns'' h h'
      exact decide_eq_true (String.le_trans (of_decide_eq_true h) (of_decide_eq_true h'))
    · intro ns ns'
      rw [Bool.or_eq_true]
      exact (String.le_total ns.1 ns'.1).imp (fun h => decide_eq_true h) fun h => decide_eq_true h
  have names := ((List.mergeSort_perm enums byName).map (·.1)).nodup_iff.mpr map.names
  refine (sorted.and (List.pairwise_map.mp names)).imp ?_
  rintro ns ns' ⟨h, other⟩
  apply Decidable.byContradiction
  intro notBefore
  exact other (String.le_antisymm (of_decide_eq_true h) (String.not_lt.mp notBefore))

/-- Sorted by name, a map comes out as it does from insertions one after another. -/
theorem IsMap.mergeSort_orderedMembers (map : IsMap enums) :
    (orderedMembers enums).mergeSort byName = orderedMembers (ordered enums) := by
  have map' : IsMap (orderedMembers enums) := map.reordered_orderedMembers.isMap map
  have ascending : Ascending (orderedMembers (ordered enums)) := by
    rw [Ascending, orderedMembers, List.pairwise_map]
    exact ascending_ordered enums
  refine map'.ascending_mergeSort.eq_of_perm ascending ?_
  have inOrder : (orderedMembers (ordered enums)).Perm (orderedMembers enums) :=
    (perm_ordered map.names).map _
  exact (List.mergeSort_perm (orderedMembers enums) byName).trans inOrder.symm

/-! ## Loaded manifests -/

theorem exists_of_mem_mapM {α β : Type} {f : α → Option β} {xs : List α} {ys : List β} {y : β}
    (read : xs.mapM f = some ys) (mem : y ∈ ys) : ∃ x ∈ xs, f x = some y := by
  induction xs generalizing ys with
  | nil =>
      cases read
      cases mem
  | cons x rest ih =>
      rw [List.mapM_cons] at read
      obtain ⟨first, hfirst, read⟩ := Option.bind_eq_some_iff.mp read
      obtain ⟨behind, hbehind, read⟩ := Option.bind_eq_some_iff.mp read
      cases read
      rcases List.mem_cons.mp mem with rfl | mem
      · exact ⟨x, List.mem_cons_self, hfirst⟩
      · obtain ⟨x', hx', hread⟩ := ih hbehind mem
        exact ⟨x', List.mem_cons_of_mem _ hx', hread⟩

/-- Enums that are read are a map, even if their text repeats names. -/
theorem isMap_of_readEnums? {α : Type} {view : View α} {x : α}
    (read : Manifest.readEnums? view x = some enums) : IsMap enums := by
  obtain ⟨listed, hlisted, rfl⟩ := Option.map_eq_some_iff.mp read
  refine ⟨(ascending_ordered listed).nodup, ?_⟩
  intro ns hns
  obtain ⟨entries, -, hentries⟩ := Option.bind_eq_some_iff.mp hlisted
  obtain ⟨entry, -, hentry⟩ := exists_of_mem_mapM hentries (mem_of_mem_ordered hns)
  obtain ⟨members, hmembers, rfl⟩ := Option.map_eq_some_iff.mp hentry
  obtain ⟨given, -, rfl⟩ := Option.map_eq_some_iff.mp hmembers
  exact (ascending_ordered given).nodup

/-- A manifest that is read has a map for its enums, whatever the format repeats. -/
theorem isMap_of_read? {α : Type} {view : View α} {x : α} {m : Manifest}
    (read : Manifest.read? view x = some m) : IsMap m.enums := by
  obtain ⟨members, -, read⟩ := Option.bind_eq_some_iff.mp read
  obtain ⟨sources, -, read⟩ := Option.bind_eq_some_iff.mp read
  obtain ⟨outputDir, -, read⟩ := Option.bind_eq_some_iff.mp read
  obtain ⟨enums, henums, read⟩ := Option.bind_eq_some_iff.mp read
  obtain ⟨extensions, -, read⟩ := Option.bind_eq_some_iff.mp read
  obtain ⟨localization, -, read⟩ := Option.bind_eq_some_iff.mp read
  cases read
  unfold Source.optional at henums
  split at henums
  · cases henums
    exact ⟨List.nodup_nil, fun ns hns => absurd hns List.not_mem_nil⟩
  · exact isMap_of_readEnums? henums

theorem isMap_of_readStructured? {format : Format} {text : String} {m : Manifest}
    (read : readStructured? Manifest.read? format text = some m) : IsMap m.enums := by
  cases format with
  | csv => cases read
  | ron | json | toml =>
      obtain ⟨x, -, read⟩ := Option.bind_eq_some_iff.mp read
      exact isMap_of_read? read

/-- What is loaded from a structured file is what the reader makes of its text. -/
theorem exists_of_loadStructured {β : Type} {read : {α : Type} → View α → α → Option β}
    {tree : FileTree} {file : String} {v : β} (loaded : loadStructured read tree file = .ok v) :
    ∃ format text, readStructured? read format text = some v := by
  unfold loadStructured at loaded
  -- format, text and emptiness are looked at before the reader is asked
  cases hformat : detectFormat file with
  | error e =>
      rw [hformat] at loaded
      cases loaded
  | ok format =>
      cases htext : readText tree file with
      | error e =>
          rw [hformat, htext] at loaded
          cases loaded
      | ok text =>
          refine ⟨format, text, ?_⟩
          rw [hformat, htext] at loaded
          dsimp only at loaded
          split at loaded
          case isTrue => cases loaded
          case isFalse =>
            cases hread : readStructured? read format text with
            | none =>
                rw [hread] at loaded
                cases loaded
            | some v' =>
                rw [hread] at loaded
                exact congrArg some (Except.ok.inj loaded)

/-- **A LOADED MANIFEST** has a map of enums. -/
theorem isMap_of_load {tree : FileTree} {file : String} {m : Manifest}
    (loaded : Manifest.load tree file = .ok m) : IsMap m.enums := by
  rw [Manifest.load] at loaded
  split at loaded
  case h_1 => cases loaded
  case h_2 manifest structured =>
    have same : manifest = m := by
      split at loaded <;> cases loaded
      rfl
    obtain ⟨format, text, read⟩ := exists_of_loadStructured structured
    rw [← same]
    exact isMap_of_readStructured? read

end TableCompiler
