import TableCompiler.Proofs.Project.EnumMap
import TableCompiler.Proofs.Text.ByteOrder

/-!
# Setting up a registry — from maps that are listed in any order

The source goes through a map of enums in whatever order it finds.  `setUp` does so step by step: the
namespaces sorted by name, the members of each as they are listed.  Sorting leaves one list of namespaces,
whatever the listing was, so the first that is refused is the least that is no word; and no name comes
twice, so nothing else is ever refused (`registerEach_eq`).  Hence all listings have one outcome, and it is
that of the registry of the manifest (`registry_of_any_listing`).
-/

namespace TableCompiler

open TableCompiler.Text

variable {r r' : Registry} {ns : String} {members : List (String × Int64)}
variable {enums enums' : Enums} {types types' done : List StructuredType}

/-! ## Structured types -/

namespace StructuredType

/-- What is registered for a structured type. -/
def entry (t : StructuredType) : String × BaseType :=
  (t.name, ⟨.json, .unbounded, some t.converter⟩)

theorem name_injective : Function.Injective name := by
  intro t t' same
  cases t <;> cases t' <;> first | rfl | exact absurd same (by decide)

/-- No structured type is named like a built-in one. -/
theorem name_not_builtin (t : StructuredType) : t.name ∉ Registry.builtin.types.map (·.1) := by
  cases t <;> decide

end StructuredType

namespace Registry

theorem registerStructured_of_free {t : StructuredType} (free : r.baseType? t.name = none) :
    r.registerStructured t = .ok { r with types := r.types ++ [t.entry] } := by
  have identifier : isIdentifier t.name.toList = true := by cases t <;> decide
  rw [registerStructured, register, identifier, free]
  rfl

/-- The listed types that are not done yet, each where it is listed first. -/
def fresh (done : List StructuredType) : List StructuredType → List StructuredType
  | [] => []
  | t :: rest => if t ∈ done then fresh done rest else t :: fresh (t :: done) rest

/-- What is fresh is asked for and not done. -/
theorem mem_fresh {t : StructuredType} : t ∈ fresh done types ↔ t ∈ types ∧ t ∉ done := by
  induction types generalizing done with
  | nil => simp [fresh]
  | cons first rest ih =>
      rw [fresh]
      by_cases hdone : first ∈ done
      · rw [if_pos hdone, ih, List.mem_cons]
        constructor
        · rintro ⟨hrest, hnew⟩
          exact ⟨.inr hrest, hnew⟩
        · rintro ⟨rfl | hrest, hnew⟩
          · exact absurd hdone hnew
          · exact ⟨hrest, hnew⟩
      · rw [if_neg hdone, List.mem_cons, ih, List.mem_cons, List.mem_cons, not_or]
        by_cases same : t = first
        · simp [same, hdone]
        · simp [same]

/-- No type is fresh twice. -/
theorem nodup_fresh (done types : List StructuredType) : (fresh done types).Nodup := by
  induction types generalizing done with
  | nil => exact List.nodup_nil
  | cons first rest ih =>
      rw [fresh]
      split
      case isTrue => exact ih done
      case isFalse =>
        refine List.nodup_cons.mpr ⟨?_, ih (first :: done)⟩
        intro again
        exact (mem_fresh.mp again).2 List.mem_cons_self

/-- **EACH LISTED TYPE ONCE**, however often it is listed. -/
theorem registerRemaining_of_free (free : ∀ t ∉ done, r.baseType? t.name = none) :
    r.registerRemaining done types
      = ({ r with types := r.types ++ (fresh done types).map StructuredType.entry }, .ok ()) := by
  induction types generalizing r done with
  | nil =>
      rw [registerRemaining, fresh, List.map_nil, List.append_nil]
  | cons t rest ih =>
      rw [registerRemaining, fresh]
      by_cases hdone : t ∈ done
      · rw [if_pos hdone, if_pos hdone]
        exact ih free
      · rw [if_neg hdone, if_neg hdone, registerStructured_of_free (free t hdone)]
        -- the type just registered takes its own name and no other
        have free' : ∀ t' ∉ t :: done,
            baseType? { r with types := r.types ++ [t.entry] } t'.name = none := by
          intro t' hnew
          rw [List.mem_cons, not_or] at hnew
          have other : t'.name ≠ t.name := fun same => hnew.1 (StructuredType.name_injective same)
          exact (lookup_concat_of_ne other).trans (free t' hnew.2)
        dsimp only
        rw [ih free', List.map_cons, List.append_assoc, List.singleton_append]

/-! ## Enum namespaces -/

/-- Registers namespaces one after another, up to the first that is refused. -/
def registerEach (r : Registry) (enums : Enums) : Except RegistryError Registry :=
  enums.foldlM (fun r ns => r.registerEnum ns.1 ns.2) r

theorem registerEnum_of_free (free : r.enumMembers? ns = none)
    (nodup : (members.map (·.1)).Nodup) :
    r.registerEnum ns members =
      if isIdentifier ns.toList then .ok { r with enums := r.enums ++ [(ns, members)] }
      else .error (.invalidName ns) := by
  rw [registerEnum, free, firstRepeated?_eq_none_iff.mpr nodup]
  cases isIdentifier ns.toList <;> rfl

/-- **NAMESPACES OF A MAP** are refused for their names alone. -/
theorem registerEach_eq (map : IsMap enums) (free : ∀ ns ∈ enums, r.enumMembers? ns.1 = none) :
    r.registerEach enums =
      match enums.find? fun ns => !isIdentifier ns.1.toList with
      | some ns => .error (.invalidName ns.1)
      | none => .ok { r with enums := r.enums ++ enums } := by
  induction enums generalizing r with
  | nil =>
      rw [registerEach, List.foldlM_nil, List.find?_nil, List.append_nil]
      rfl
  | cons first rest ih =>
      obtain ⟨ns, members⟩ := first
      obtain ⟨hnew, hnodup⟩ := List.nodup_cons.mp map.names
      have nodup := map.members _ List.mem_cons_self
      rw [registerEach, List.foldlM_cons, registerEnum_of_free (free _ List.mem_cons_self) nodup]
      -- the first namespace that is no word ends the loop; a word takes its own name and no other
      cases hname : isIdentifier ns.toList with
      | false =>
          rw [List.find?_cons_of_pos (by rw [hname]; rfl)]
          rfl
      | true =>
          rw [List.find?_cons_of_neg (by rw [hname]; exact Bool.false_ne_true)]
          have map' : IsMap rest :=
            ⟨hnodup, fun ns' hns' => map.members ns' (List.mem_cons_of_mem _ hns')⟩
          have free' : ∀ ns' ∈ rest,
              enumMembers? { r with enums := r.enums ++ [(ns, members)] } ns'.1 = none := by
            intro ns' hns'
            have mem : ns'.1 ∈ rest.map (·.1) := List.mem_map_of_mem hns'
            have other : ns'.1 ≠ ns := fun same => hnew (same ▸ mem)
            exact (lookup_concat_of_ne other).trans (free ns' (List.mem_cons_of_mem _ hns'))
          have behind := ih map' free'
          rw [List.append_assoc, List.singleton_append] at behind
          exact behind

end Registry

/-! ## A set-up, step by step -/

/-- Sets up a registry from a listing: first the structured types, then the namespaces sorted by name,
each with its members as they are listed. -/
def setUp (types : List StructuredType) (enums : Enums) : Except RegistryError Registry :=
  match Registry.builtin.registerAllStructured types with
  | (_, .error e) => .error e
  | (r, .ok ()) => r.registerEach (enums.mergeSort byName)

/-- The least of these names, byte by byte, that is no word. -/
structure FirstInvalid (names : List String) (name : String) : Prop where
  mem : name ∈ names
  not_word : ¬Word name
  least : ∀ other ∈ names, ¬Word other → ¬Utf8.encode other < Utf8.encode name

/-- A registry holds the built-in types, each listed structured type, and the namespaces with their
members, and holds everything once. -/
structure Registry.Holds (r : Registry) (types : List StructuredType) (enums : Enums) : Prop where
  types_once : (r.types.map (·.1)).Nodup
  types_iff : ∀ entry, entry ∈ r.types ↔
    entry ∈ builtin.types ∨ ∃ t ∈ types, entry = t.entry
  enums_once : IsMap r.enums
  enums_reordered : Reordered enums r.enums

/-- What comes of a set-up: the least name that is no word is refused, and if all are words there is a
registry that holds what was listed. -/
inductive SetUpTo (types : List StructuredType) (enums : Enums) :
    Except RegistryError Registry → Prop where
  | refused {ns : String} : FirstInvalid (enums.map (·.1)) ns →
      SetUpTo types enums (.error (.invalidName ns))
  | made {r : Registry} : (∀ ns ∈ enums.map (·.1), Word ns) → r.Holds types enums →
      SetUpTo types enums (.ok r)

/-- One name is the first invalid one, for names differ in their bytes. -/
theorem FirstInvalid.unique {names : List String} {name name' : String}
    (first : FirstInvalid names name) (first' : FirstInvalid names name') : name = name' := by
  have notBefore := first.least name' first'.mem first'.not_word
  have notBefore' := first'.least name first.mem first.not_word
  rw [Utf8.encode_lt_encode_iff, String.not_lt] at notBefore notBefore'
  exact String.le_antisymm notBefore notBefore'

/-- The structured types are set up whatever is listed. -/
theorem registerAllStructured_builtin (types : List StructuredType) :
    Registry.builtin.registerAllStructured types
      = (⟨Registry.builtin.types ++ (Registry.fresh [] types).map StructuredType.entry, []⟩,
        .ok ()) := by
  have free : ∀ t ∉ ([] : List StructuredType), Registry.builtin.baseType? t.name = none := by
    intro t _
    cases t <;> rfl
  exact Registry.registerRemaining_of_free free

/-- What is registered behind the built-in types is what was listed, each once. -/
theorem holds_of_fresh (map : IsMap enums') (reordered : Reordered enums enums') :
    Registry.Holds
      ⟨Registry.builtin.types ++ (Registry.fresh [] types).map StructuredType.entry, enums'⟩ types
      enums where
  types_once := by
    have builtin : (Registry.builtin.types.map (·.1)).Nodup := by decide
    have names : ((Registry.fresh [] types).map StructuredType.entry).map (·.1)
        = (Registry.fresh [] types).map StructuredType.name := List.map_map
    have once := List.Nodup.map StructuredType.name_injective (Registry.nodup_fresh [] types)
    rw [List.map_append, names]
    refine List.nodup_append.mpr ⟨builtin, once, ?_⟩
    rintro name hname _ hname' rfl
    obtain ⟨t, -, rfl⟩ := List.mem_map.mp hname'
    exact t.name_not_builtin hname
  types_iff := by
    have listed : ∀ t, t ∈ Registry.fresh [] types ↔ t ∈ types := by
      intro t
      rw [Registry.mem_fresh]
      exact and_iff_left List.not_mem_nil
    intro entry
    rw [List.mem_append, List.mem_map]
    refine or_congr_right (exists_congr fun t => ?_)
    rw [listed, eq_comm]
  enums_once := map
  enums_reordered := reordered

/-- In ascending order the first name that is no word is the least one. -/
theorem firstInvalid_of_find? {entry : String × List (String × Int64)}
    (ascending : Ascending enums)
    (found : enums.find? (fun ns => !isIdentifier ns.1.toList) = some entry) :
    FirstInvalid (enums.map (·.1)) entry.1 := by
  obtain ⟨invalid, before, after, rfl, valid⟩ := List.find?_eq_some_iff_append.mp found
  refine ⟨List.mem_map_of_mem (List.mem_append_right _ List.mem_cons_self), ?_, ?_⟩
  · intro word
    rw [isIdentifier_iff.mpr word] at invalid
    exact absurd invalid (by decide)
  · intro other hother notWord
    obtain ⟨ns, hns, rfl⟩ := List.mem_map.mp hother
    rw [Utf8.encode_lt_encode_iff]
    -- before the one that is found all are words, and behind it all are greater
    rcases List.mem_append.mp hns with hbefore | hbehind
    · have identifier : isIdentifier ns.1.toList = true := by simpa using valid ns hbefore
      exact absurd (isIdentifier_iff.mp identifier) notWord
    · rcases List.mem_cons.mp hbehind with rfl | hafter
      · exact String.lt_irrefl _
      · have tail := (List.pairwise_append.mp ascending).2.1
        have later : entry.1 < ns.1 := (List.pairwise_cons.mp tail).1 ns hafter
        exact fun sooner => String.lt_irrefl _ (String.lt_trans later sooner)

/-- The names decide, and not their order. -/
theorem FirstInvalid.congr {names names' : List String} {name : String} (perm : names.Perm names')
    (first : FirstInvalid names name) : FirstInvalid names' name where
  mem := perm.mem_iff.mp first.mem
  not_word := first.not_word
  least := fun other hother => first.least other (perm.mem_iff.mpr hother)

/-- **WHAT COMES OF A SET-UP** is decided by what is listed. -/
theorem setUpTo_setUp (types : List StructuredType) (map : IsMap enums) :
    SetUpTo types enums (setUp types enums) := by
  have reordered : Reordered enums (enums.mergeSort byName) :=
    map.reordered_of_perm (List.mergeSort_perm enums byName).symm
  have sortedMap : IsMap (enums.mergeSort byName) := reordered.isMap map
  rw [setUp, registerAllStructured_builtin types]
  dsimp only
  rw [Registry.registerEach_eq sortedMap fun ns _ => rfl]
  -- the loop goes through the namespaces in order of their bytes, so the first that fails is the
  -- least
  cases hfind : (enums.mergeSort byName).find? fun ns => !isIdentifier ns.1.toList with
  | some ns =>
      exact .refused ((firstInvalid_of_find? map.ascending_mergeSort hfind).congr
        reordered.names.symm)
  | none =>
      refine .made ?_ (holds_of_fresh sortedMap reordered)
      intro name hname
      obtain ⟨ns, hns, rfl⟩ := List.mem_map.mp (reordered.names.mem_iff.mp hname)
      have valid := List.find?_eq_none.mp hfind ns hns
      exact isIdentifier_iff.mp (by simpa using valid)

/-! ## One outcome -/

/-- Registries in which every name means the same. -/
structure Registry.SameAs (r r' : Registry) : Prop where
  baseType? : ∀ name, r.baseType? name = r'.baseType? name
  typeCount : r.typeCount = r'.typeCount
  enumMembers? : ∀ ns, (r.enumMembers? ns).map (fun members name => members.lookup name)
    = (r'.enumMembers? ns).map fun members name => members.lookup name

/-- The same error, or registries in which every name means the same. -/
def SameOutcome : Except RegistryError Registry → Except RegistryError Registry → Prop
  | .ok r, .ok r' => r.SameAs r'
  | .error e, .error e' => e = e'
  | _, _ => False

/-- Members in another order are the same for those who look them up. -/
theorem lookup_eq_of_perm {members' : List (String × Int64)} (nodup : (members.map (·.1)).Nodup)
    (perm : members.Perm members') :
    (fun name => members.lookup name) = fun name => members'.lookup name := by
  funext name
  apply Option.ext
  intro value
  rw [lookup_eq_some_iff_mem nodup, lookup_eq_some_iff_mem ((perm.map (·.1)).nodup_iff.mp nodup),
    perm.mem_iff]

theorem enumMembers?_of_mem (map : IsMap r.enums) (mem : (ns, members) ∈ r.enums) :
    r.enumMembers? ns = some members :=
  (lookup_eq_some_iff_mem map.names).mpr mem

/-- Registries that hold the same mean the same. -/
theorem Registry.Holds.sameAs (holds : r.Holds types enums) (holds' : r'.Holds types' enums')
    (listed : ∀ t, t ∈ types' ↔ t ∈ types) (reordered : Reordered enums enums') : r.SameAs r' where
  baseType? := by
    intro name
    apply Option.ext
    intro base
    rw [Registry.baseType?, Registry.baseType?, lookup_eq_some_iff_mem holds.types_once,
      lookup_eq_some_iff_mem holds'.types_once, holds.types_iff, holds'.types_iff]
    simp only [listed]
  typeCount := by
    have perm : r.types.Perm r'.types := by
      have once : r.types.Nodup := List.Nodup.of_map _ holds.types_once
      have once' : r'.types.Nodup := List.Nodup.of_map _ holds'.types_once
      refine (List.perm_ext_iff_of_nodup once once').mpr ?_
      intro entry
      rw [holds.types_iff, holds'.types_iff]
      simp only [listed]
    exact perm.length_eq
  enumMembers? := by
    intro ns
    have same : Reordered r.enums r'.enums :=
      (holds.enums_reordered.symm.trans reordered).trans holds'.enums_reordered
    cases hmembers : r.enumMembers? ns with
    | some members =>
        have mem := (lookup_eq_some_iff_mem holds.enums_once.names).mp hmembers
        obtain ⟨members', mem', perm⟩ := same.exists_mem mem
        rw [enumMembers?_of_mem holds'.enums_once mem', Option.map_some, Option.map_some,
          lookup_eq_of_perm (holds.enums_once.members _ mem) perm]
    | none =>
        cases hmembers' : r'.enumMembers? ns with
        | none => rfl
        | some members' =>
            have mem' := (lookup_eq_some_iff_mem holds'.enums_once.names).mp hmembers'
            obtain ⟨members, mem, -⟩ := same.symm.exists_mem mem'
            cases hmembers.symm.trans (enumMembers?_of_mem holds.enums_once mem)

/-- **ONE OUTCOME**, however the types are repeated and the map is listed. -/
theorem SetUpTo.sameOutcome {x x' : Except RegistryError Registry} (outcome : SetUpTo types enums x)
    (outcome' : SetUpTo types' enums' x') (listed : ∀ t, t ∈ types' ↔ t ∈ types)
    (reordered : Reordered enums enums') : SameOutcome x x' := by
  cases outcome with
  | refused first =>
      cases outcome' with
      | refused first' =>
          exact congrArg _ ((first.congr reordered.names).unique first')
      | made words _ =>
          have mem := reordered.names.mem_iff.mp first.mem
          exact absurd (words _ mem) first.not_word
  | made words holds =>
      cases outcome' with
      | refused first' =>
          have mem := reordered.names.mem_iff.mpr first'.mem
          exact absurd (words _ mem) first'.not_word
      | made _ holds' => exact holds.sameAs holds' listed reordered

/-! ## The registry of a manifest -/

theorem Manifest.registerEach_orderedMembers (r : Registry) (enums : Enums) :
    r.registerEach (orderedMembers enums) = registerEnums r enums := by
  rw [Registry.registerEach, registerEnums, orderedMembers, List.foldlM_map]

/-- A manifest is set up from the listing in which all members ascend. -/
theorem registry_eq_setUp {m : Manifest} (map : IsMap m.enums) :
    m.registry = setUp m.extensions (orderedMembers m.enums) := by
  rw [Manifest.registry, setUp, registerAllStructured_builtin m.extensions,
    map.mergeSort_orderedMembers]
  exact (Manifest.registerEach_orderedMembers _ _).symm

namespace SetUpTo

variable {x x' : Except RegistryError Registry} {e : RegistryError}

theorem congr (reordered : Reordered enums' enums) (outcome : SetUpTo types enums' x) :
    SetUpTo types enums x := by
  cases outcome with
  | refused first => exact .refused (first.congr reordered.names)
  | made words holds =>
      refine .made (fun ns hns => words ns (reordered.names.mem_iff.mpr hns)) ?_
      exact { holds with enums_reordered := reordered.symm.trans holds.enums_reordered }

/-- A set-up fails just for the first namespace that is no word. -/
theorem eq_error_iff (outcome : SetUpTo types enums x) :
    x = .error e ↔ ∃ ns, FirstInvalid (enums.map (·.1)) ns ∧ e = .invalidName ns := by
  cases outcome with
  | refused first =>
      constructor
      · rintro ⟨⟩
        exact ⟨_, first, rfl⟩
      · rintro ⟨ns, first', rfl⟩
        rw [first.unique first']
  | made words _ =>
      refine iff_of_false (fun h => by cases h) ?_
      rintro ⟨ns, first, -⟩
      exact first.not_word (words ns first.mem)

/-- A set-up fails just if a namespace is no word. -/
theorem exists_error_iff (outcome : SetUpTo types enums x) :
    (∃ e, x = .error e) ↔ ∃ ns ∈ enums.map (·.1), ¬Word ns := by
  cases outcome with
  | refused first => exact iff_of_true ⟨_, rfl⟩ ⟨_, first.mem, first.not_word⟩
  | made words _ =>
      refine iff_of_false ?_ ?_
      · rintro ⟨e, h⟩
        cases h
      · rintro ⟨ns, hns, notWord⟩
        exact notWord (words ns hns)

/-- A set-up that succeeds holds the types and the enums that were asked for. -/
theorem of_eq_ok (outcome : SetUpTo types enums x) (h : x = .ok r) :
    (∀ ns ∈ enums.map (·.1), Word ns) ∧ r.Holds types enums := by
  cases outcome with
  | refused => cases h
  | made words holds =>
      cases h
      exact ⟨words, holds⟩

end SetUpTo

/-- The registry of a manifest is set up from its types and its enums. -/
theorem setUpTo_registry {m : Manifest} (map : IsMap m.enums) :
    SetUpTo m.extensions m.enums m.registry := by
  have reordered : Reordered m.enums (orderedMembers m.enums) := map.reordered_orderedMembers
  rw [registry_eq_setUp map]
  exact (setUpTo_setUp m.extensions (reordered.isMap map)).congr reordered.symm

/-- **ANY LISTING OF A MAP** is set up to the same registry or fails with the same error: the least
namespace that is no word is refused, and if there is none, the registry holds the built-in types, each
listed structured type once, and every namespace with its members. -/
theorem registry_of_any_listing {m : Manifest} (map : IsMap m.enums) :
    ((∃ e, m.registry = .error e) ↔ ∃ ns ∈ m.enums.map (·.1), ¬Word ns) ∧
    (∀ e, m.registry = .error e ↔
      ∃ ns, FirstInvalid (m.enums.map (·.1)) ns ∧ e = .invalidName ns) ∧
    (∀ r, m.registry = .ok r →
      (∀ ns ∈ m.enums.map (·.1), Word ns) ∧ r.Holds m.extensions m.enums) ∧
    ∀ types enums, (∀ t, t ∈ types ↔ t ∈ m.extensions) → Reordered m.enums enums →
      SameOutcome m.registry (setUp types enums) := by
  have outcome : SetUpTo m.extensions m.enums m.registry := setUpTo_registry map
  refine ⟨outcome.exists_error_iff, fun e => outcome.eq_error_iff, fun r => outcome.of_eq_ok, ?_⟩
  intro types enums listed reordered
  have outcome' : SetUpTo types enums (setUp types enums) := setUpTo_setUp types (reordered.isMap map)
  exact outcome.sameOutcome outcome' listed reordered

/-- Two listings of one map are set up alike, and of two names that are no words the lesser is refused. -/
theorem registry_of_any_listing_twoListings :
    let listing : Enums := [("b", [("y", 2), ("x", 1)]), ("a", [])]
    let invalid : Enums := [("é!", []), ("ok", []), ("z-", [])]
    IsMap listing ∧ IsMap invalid ∧
    SameOutcome (Manifest.registry ⟨[], "out", listing, [.ron, .ron], true⟩)
      (setUp [.ron] [("a", []), ("b", [("x", 1), ("y", 2)])]) ∧
    Manifest.registry ⟨[], "out", invalid, [], true⟩ = .error (.invalidName "z-") := by
  intro listing invalid
  have map : IsMap listing := ⟨by decide, by decide⟩
  have map' : IsMap invalid := ⟨by decide, by decide⟩
  refine ⟨map, map', ?_, ?_⟩
  · obtain ⟨-, -, -, same⟩ :=
      registry_of_any_listing (m := ⟨[], "out", listing, [.ron, .ron], true⟩) map
    refine same [.ron] _ (fun t => ?_) ⟨by decide, by decide⟩
    show t ∈ [.ron] ↔ t ∈ [.ron, .ron]
    simp
  · obtain ⟨-, refused, -⟩ := registry_of_any_listing (m := ⟨[], "out", invalid, [], true⟩) map'
    refine (refused _).mpr ⟨"z-", ⟨by decide, ?_, ?_⟩, rfl⟩
    · intro word
      exact absurd (isIdentifier_iff.mpr word) (by decide)
    · have least : ∀ other ∈ ["é!", "ok", "z-"], isIdentifier other.toList = false →
          ¬Utf8.encode other < Utf8.encode "z-" := by decide
      intro other hother notWord
      exact least other hother (Bool.eq_false_iff.mpr fun h => notWord (isIdentifier_iff.mp h))

end TableCompiler
