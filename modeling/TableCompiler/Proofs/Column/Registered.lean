import TableCompiler.Column.Registry

/-!
# Registered types — what any sequence of registrations leaves

A registration adds one entry behind the others or is refused.  So the registries that can be built
are the ones reachable from the built-in types, and in each of them the built-in types stand in front
and everything behind them brings its own converter.
-/

namespace TableCompiler.Registry

variable {r : Registry} {name : String} {base : BaseType}

/-- The registries that registrations make of the built-in types.  A refused registration makes
none, and the one before it is used again. -/
inductive Built : Registry → Prop where
  | builtin : Built Registry.builtin
  | register {r r' : Registry} {name : String} {semantic : SemanticType} {width : StorageWidth}
      {convert : Converter} :
      Built r → r.register name semantic width convert = .ok r' → Built r'
  | registerEnum {r r' : Registry} {ns : String} {members : List (String × Int64)} :
      Built r → r.registerEnum ns members = .ok r' → Built r'

/-- What a registration of a type does when it is not refused. -/
theorem register_ok {r' : Registry} {semantic : SemanticType} {width : StorageWidth}
    {convert : Converter} (h : r.register name semantic width convert = .ok r') :
    r.baseType? name = none ∧
      r' = { r with types := r.types ++ [(name, ⟨semantic, width, some convert⟩)] } := by
  rw [Registry.register] at h
  split at h
  case isTrue => cases h
  case isFalse =>
    split at h
    case isTrue => cases h
    case isFalse hfree =>
      exact ⟨Option.not_isSome_iff_eq_none.mp hfree, (Except.ok.inj h).symm⟩

/-- What a registration of an enum does when it is not refused. -/
theorem registerEnum_ok {r' : Registry} {ns : String} {members : List (String × Int64)}
    (h : r.registerEnum ns members = .ok r') :
    r.enumMembers? ns = none ∧ r' = { r with enums := r.enums ++ [(ns, members)] } := by
  rw [Registry.registerEnum] at h
  split at h
  case isTrue => cases h
  case isFalse =>
    split at h
    case isTrue => cases h
    case isFalse hfree =>
      split at h
      case h_1 => cases h
      case h_2 =>
        exact ⟨Option.not_isSome_iff_eq_none.mp hfree, (Except.ok.inj h).symm⟩

/-- **THE BUILT-IN TYPES STAY IN FRONT**, and all that follows them are extensions. -/
theorem Built.types_eq (built : Built r) :
    ∃ extensions, r.types = Registry.builtin.types ++ extensions ∧
      ∀ e ∈ extensions, ∃ convert, e.2.convert? = some convert := by
  induction built with
  | builtin => exact ⟨[], (List.append_nil _).symm, fun e he => absurd he List.not_mem_nil⟩
  | @register r r' name semantic width convert _ h ih =>
      obtain ⟨extensions, htypes, hall⟩ := ih
      obtain ⟨-, rfl⟩ := register_ok h
      refine ⟨extensions ++ [(name, ⟨semantic, width, some convert⟩)], ?_, ?_⟩
      · rw [htypes, List.append_assoc]
      · intro e he
        rcases List.mem_append.mp he with he | he
        · exact hall e he
        · rw [List.mem_singleton.mp he]
          exact ⟨convert, rfl⟩
  | registerEnum _ h ih =>
      obtain ⟨-, rfl⟩ := registerEnum_ok h
      exact ih

/-- A data type without a converter of its own is one of the built-in types. -/
theorem Built.mem_builtinTypes (built : Built r) (h : r.baseType? name = some base)
    (plain : base.convert? = none) : (name, base.semantic, base.width) ∈ builtinTypes := by
  obtain ⟨extensions, htypes, hall⟩ := built.types_eq
  rw [Registry.baseType?, htypes] at h
  obtain ⟨before, after, hsplit, -⟩ := List.lookup_eq_some_iff.mp h
  have hmem : (name, base) ∈ Registry.builtin.types ++ extensions := by
    rw [hsplit]
    exact List.mem_append_right _ (List.mem_cons_self ..)
  rcases List.mem_append.mp hmem with hmem | hmem
  · obtain ⟨t, ht, heq⟩ := List.mem_map.mp hmem
    obtain ⟨rfl, rfl⟩ := Prod.mk.inj heq
    exact ht
  · obtain ⟨convert, hconvert⟩ := hall _ hmem
    cases plain.symm.trans hconvert

/-- A built-in type means what it meant before any registration. -/
theorem Built.baseType?_builtin (built : Built r)
    (h : Registry.builtin.baseType? name = some base) : r.baseType? name = some base := by
  obtain ⟨extensions, htypes, -⟩ := built.types_eq
  rw [Registry.baseType?] at h
  rw [Registry.baseType?, htypes, List.lookup_append, h, Option.some_or]

/-- Of the built-in types, one each is for texts, for Adler-32 checksums and for enums. -/
theorem name_iff_of_mem_builtinTypes :
    ∀ b ∈ builtinTypes, (b.2.1 = .string ↔ b.1 = "str") ∧ (b.2.1 = .adler32 ↔ b.1 = "adler32") ∧
      (b.2.1 = .enum ↔ b.1 = "enum") := by
  decide

end TableCompiler.Registry
