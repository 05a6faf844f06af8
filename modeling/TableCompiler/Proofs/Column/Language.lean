import TableCompiler.Proofs.Column.Attributes
import TableCompiler.Proofs.Column.Members

/-!
# The language of built-in types — which expressions resolve, and to what

An expression of a built-in type resolves just if its attributes mean something for the semantic type, to
the column that they decide, and otherwise fails for the one reason that they have
(`resolve_builtin_exact`).  Enums take their main attribute from the registry and look at no other:
behind a registered namespace any sub attribute is passed over, and nowhere else is one without a meaning
(`resolve_with_sub_iff`).
-/

namespace TableCompiler

open TableCompiler.Text

variable {r : Registry} {t : ColumnType} {e : TypeError} {expr name main sub : String}
variable {main? sub? : Option String} {semantic : SemanticType} {width : StorageWidth}
variable {base : BaseType} {parts : TypeExpr} {members : List (String × Int64)}

/-! ## Built-in names -/

/-- A built-in type is found under its name, whatever has been registered. -/
theorem Registry.Built.baseType?_of_mem (built : r.Built)
    (listed : (name, semantic, width) ∈ Registry.builtinTypes) :
    r.baseType? name = some ⟨semantic, width, none⟩ := by
  have names : (Registry.builtin.types.map (·.1)).Nodup := by decide
  have entry : (name, ⟨semantic, width, none⟩) ∈ Registry.builtin.types :=
    List.mem_map.mpr ⟨_, listed, rfl⟩
  exact built.baseType?_builtin ((lookup_eq_some_iff_mem names).mpr entry)

/-- Behind a known name an expression fails for its parts alone. -/
theorem resolve_eq_error_iff_of_parts (parsed : TypeExpr.parse expr = .ok parts)
    (named : r.baseType? parts.name = some base) :
    r.resolve expr = .error e ↔ resolveParts r expr base parts = .error e := by
  rw [Registry.resolve_of_parts parsed named]
  cases resolveParts r expr base parts with
  | ok res => exact iff_of_false (fun h => nomatch h) fun h => nomatch h
  | error e' =>
      constructor <;> intro h <;> rw [Except.error.inj h]

/-- Behind a known name an expression resolves to what its parts decide. -/
theorem resolve_eq_ok_iff_of_parts (parsed : TypeExpr.parse expr = .ok parts)
    (named : r.baseType? parts.name = some base) :
    r.resolve expr = .ok t ↔ ∃ res, resolveParts r expr base parts = .ok res ∧
      t = ⟨trimmed expr, base.semantic, res.width, parts.main?, parts.sub?, res.role, res.convert,
        res.dump⟩ := by
  rw [Registry.resolve_of_parts parsed named]
  cases resolveParts r expr base parts with
  | ok res =>
      constructor
      · intro h
        exact ⟨res, rfl, (Except.ok.inj h).symm⟩
      · rintro ⟨res', h, rfl⟩
        rw [Except.ok.inj h]
  | error e =>
      refine iff_of_false (fun h => nomatch h) ?_
      rintro ⟨res, h, -⟩
      cases h

/-! ## Built-in types -/

/-- An expression of a built-in type resolves to what its attributes decide. -/
theorem resolve_eq_ok_iff_means (built : r.Built)
    (listed : (name, semantic, width) ∈ Registry.builtinTypes) (plain : semantic ≠ .enum)
    (parsed : TypeExpr.parse expr = .ok ⟨name, main?, sub?⟩) :
    r.resolve expr = .ok t ↔ ∃ res, BuiltinMeans semantic width main? sub? res ∧
      t = ⟨trimmed expr, semantic, res.width, main?, sub?, res.role, res.convert, res.dump⟩ := by
  rw [resolve_eq_ok_iff_of_parts parsed (built.baseType?_of_mem listed)]
  exact exists_congr fun res => and_congr_left' (resolveParts_eq_ok_iff rfl plain)

/-- An expression of a built-in type fails for the reason that its attributes have. -/
theorem resolve_eq_error_iff_refused (built : r.Built)
    (listed : (name, semantic, width) ∈ Registry.builtinTypes) (plain : semantic ≠ .enum)
    (parsed : TypeExpr.parse expr = .ok ⟨name, main?, sub?⟩) :
    r.resolve expr = .error e ↔ BuiltinRefused semantic width main? sub? e := by
  rw [resolve_eq_error_iff_of_parts parsed (built.baseType?_of_mem listed)]
  exact resolveParts_eq_error_iff rfl plain

/-- **THE LANGUAGE OF BUILT-IN TYPES**, enums apart: an expression resolves just if its attributes mean
something for the semantic type, to the column that they decide, and fails otherwise.  A main attribute
that means nothing is named whatever stands behind it, and else the sub attribute is. -/
theorem resolve_builtin_exact (built : r.Built)
    (listed : (name, semantic, width) ∈ Registry.builtinTypes) (other : name ≠ "enum")
    (spells : TypeExpr.Spells ⟨name, main?, sub?⟩ (trim expr.toList)) :
    (∀ t, r.resolve expr = .ok t ↔ ∃ res, BuiltinMeans semantic width main? sub? res ∧
      t = ⟨trimmed expr, semantic, res.width, main?, sub?, res.role, res.convert, res.dump⟩) ∧
    ∀ e, r.resolve expr = .error e ↔ BuiltinRefused semantic width main? sub? e := by
  have parsed := TypeExpr.parse_eq_ok_iff.mpr spells
  have plain : semantic ≠ .enum := fun enum =>
    other ((Registry.name_iff_of_mem_builtinTypes _ listed).2.2.mp enum)
  exact ⟨fun t => resolve_eq_ok_iff_means built listed plain parsed,
    fun e => resolve_eq_error_iff_refused built listed plain parsed⟩

/-- A radix with a sign and a zero in front, and a primary key with a target, which it cannot have. -/
theorem resolve_builtin_exact_hexadecimal :
    ("uint16", .uint, .u16) ∈ Registry.builtinTypes ∧ "uint16" ≠ "enum" ∧
      TypeExpr.Spells ⟨"uint16", some "+016", none⟩ (trim " uint16:+016 ".toList) ∧
      grades.resolve " uint16:+016 " = .ok
        ⟨"uint16:+016", .uint, .u16, some "+016", none, .none, .integer 16 .u16, .int .u16⟩ ∧
      ("str", .string, .unbounded) ∈ Registry.builtinTypes ∧ "str" ≠ "enum" ∧
      TypeExpr.Spells ⟨"str", some "pk", some "item"⟩ (trim "str:pk:item".toList) ∧
      grades.resolve "str:pk:item" = .error (.unknownSubAttribute .string "pk" "item") := by
  have uint : ("uint16", .uint, .u16) ∈ Registry.builtinTypes := by decide
  have marked : TypeExpr.Spells ⟨"uint16", some "+016", none⟩ (trim " uint16:+016 ".toList) :=
    .main (by decide) ⟨by decide, by decide⟩
  have radix : RadixLiteral "+016" 16 :=
    ⟨['0', '1', '6'], .inr rfl, by decide, Number.amountTo_ten_iff.mpr ⟨rfl, rfl⟩, by decide,
      by decide⟩
  have resolved := ((resolve_builtin_exact grades_built uint (by decide) marked).1 _).mpr
    ⟨_, .uint (.alone (.literal radix)), rfl⟩
  have str : ("str", .string, .unbounded) ∈ Registry.builtinTypes := by decide
  have targeted : TypeExpr.Spells ⟨"str", some "pk", some "item"⟩ (trim "str:pk:item".toList) :=
    .sub (by decide) ⟨by decide, by decide⟩ (by decide)
  -- a primary key names no target
  have none : ∀ res, ¬BuiltinMeans .string .unbounded (some "pk") (some "item") res := by
    intro res means
    have meant : resolvePrimary (some "item") = .ok res := resolveAttributes_eq_ok_iff.mpr means
    cases meant
  have refused := ((resolve_builtin_exact grades_built str (by decide) targeted).2 _).mpr
    (.sub (.text .primary) none)
  exact ⟨uint, by decide, marked, resolved, str, by decide, targeted, refused⟩

/-! ## Sub attributes -/

/-- The places in which a sub attribute means something. -/
inductive SubMeans : String → String → String → Prop where
  /-- The target of a foreign key of integers. -/
  | target {name : String} {semantic : SemanticType} {width : StorageWidth} (sub : String) :
      (name, semantic, width) ∈ Registry.builtinTypes → semantic = .int ∨ semantic = .uint →
      SubMeans name "fk" sub
  /-- The hash of a primary key of texts. -/
  | hash (h : KeyHash) : SubMeans "str" "pk" h.name
  /-- The hash or the target of a foreign key of texts. -/
  | hashOrTarget (sub : String) : SubMeans "str" "fk" sub
  /-- The policy of an encoding. -/
  | policy (encoding : TextEncoding) (policy : ErrorPolicy) :
      SubMeans "str" encoding.name policy.name

/-- **A SUB ATTRIBUTE MEANS SOMETHING** in the listed places and in no other. -/
theorem subMeans_iff :
    SubMeans name main sub ↔ ∃ semantic width res, (name, semantic, width) ∈ Registry.builtinTypes ∧
      BuiltinMeans semantic width (some main) (some sub) res := by
  constructor
  · intro means
    have text : ("str", .string, .unbounded) ∈ Registry.builtinTypes := by decide
    cases means with
    | target sub listed integer =>
        rcases integer with rfl | rfl
        · exact ⟨_, _, _, listed, .int (.foreign (some sub))⟩
        · exact ⟨_, _, _, listed, .uint (.foreign (some sub))⟩
    | hash h => exact ⟨_, _, _, text, .text (.primaryNamed h)⟩
    | hashOrTarget sub => exact ⟨_, _, _, text, .text (means_resolveForeign .unbounded (some sub))⟩
    | policy encoding policy => exact ⟨_, _, _, text, .text (.encodedWith encoding policy)⟩
  -- the listing of attributes by cases: only these have a sub attribute
  · rintro ⟨semantic, width, res, listed, means⟩
    cases means with
    | int means =>
        cases means with
        | foreign _ => exact .target sub listed (.inl rfl)
    | uint means =>
        cases means with
        | foreign _ => exact .target sub listed (.inr rfl)
    | text means =>
        obtain rfl := (Registry.name_iff_of_mem_builtinTypes _ listed).1.mp rfl
        cases means with
        | primaryNamed h => exact .hash h
        | foreignNamed h => exact .hashOrTarget _
        | foreignTo _ => exact .hashOrTarget _
        | encodedWith encoding policy => exact .policy encoding policy

/-- **AN ENUM PASSES OVER** its sub attribute: whatever it is, the namespace alone decides. -/
theorem resolve_enum_iff (built : r.Built)
    (parsed : TypeExpr.parse expr = .ok ⟨"enum", some main, sub?⟩) :
    r.resolve expr = .ok t ↔ ∃ members, r.enumMembers? main = some members ∧
      t = ⟨trimmed expr, .enum, .i32, some main, sub?, .none, .enum main members, .int .i32⟩ := by
  have named : r.baseType? "enum" = some ⟨.enum, .i32, none⟩ :=
    built.baseType?_of_mem (by decide)
  rw [resolve_eq_ok_iff_of_parts parsed named]
  constructor
  · rintro ⟨res, resolved, rfl⟩
    obtain ⟨ns, members, hmain, hmembers, rfl⟩ := enum_of_resolveParts rfl rfl rfl resolved
    obtain rfl := Option.some.inj hmain
    exact ⟨members, hmembers, rfl⟩
  · rintro ⟨members, hmembers, rfl⟩
    refine ⟨⟨.i32, .none, .enum main members, .int .i32⟩, ?_, rfl⟩
    simp only [resolveParts, resolveEnum, hmembers, if_true]

/-- **A SUB ATTRIBUTE** without a meaning is refused, behind any main attribute of any built-in type but
one: the enum.  There it is passed over, and the column is that of the namespace alone. -/
theorem resolve_with_sub_iff (built : r.Built)
    (spells : TypeExpr.Spells ⟨name, some main, some sub⟩ (trim expr.toList))
    (unextended : ∀ base, r.baseType? name = some base → base.convert? = none) :
    ((∃ t, r.resolve expr = .ok t) ↔
      SubMeans name main sub ∨ name = "enum" ∧ ∃ members, r.enumMembers? main = some members) ∧
    (name = "enum" → ∀ t, r.resolve expr = .ok t ↔
      ∃ members, r.enumMembers? main = some members ∧
        t = ⟨trimmed expr, .enum, .i32, some main, some sub, .none, .enum main members,
          .int .i32⟩) := by
  have parsed := TypeExpr.parse_eq_ok_iff.mpr spells
  refine ⟨⟨?_, ?_⟩, ?_⟩
  · rintro ⟨t, resolved⟩
    -- the resolver of enums does not look at the sub attribute, so they stand apart
    by_cases enum : name = "enum"
    · subst enum
      obtain ⟨members, hmembers, -⟩ := (resolve_enum_iff built parsed).mp resolved
      exact .inr ⟨rfl, members, hmembers⟩
    · obtain ⟨_, base, _, hparts, named, -⟩ := resolve_eq_ok_iff.mp resolved
      obtain rfl := Except.ok.inj (parsed.symm.trans hparts)
      have listed := built.mem_builtinTypes named (unextended base named)
      have plain : base.semantic ≠ .enum := fun h =>
        enum ((Registry.name_iff_of_mem_builtinTypes _ listed).2.2.mp h)
      obtain ⟨res, means, -⟩ := (resolve_eq_ok_iff_means built listed plain parsed).mp resolved
      exact .inl (subMeans_iff.mpr ⟨_, _, res, listed, means⟩)
  · rintro (means | ⟨rfl, members, hmembers⟩)
    · obtain ⟨semantic, width, res, listed, means⟩ := subMeans_iff.mp means
      exact ⟨_, (resolve_eq_ok_iff_means built listed means.ne_enum parsed).mpr ⟨res, means, rfl⟩⟩
    · exact ⟨_, (resolve_enum_iff built parsed).mpr ⟨members, hmembers, rfl⟩⟩
  · rintro rfl t
    exact resolve_enum_iff built parsed

/-- Behind the namespace of an enum no sub attribute means anything. -/
theorem SubMeans.ne_enum (means : SubMeans name main sub) : name ≠ "enum" := by
  rintro rfl
  obtain ⟨semantic, width, res, listed, means⟩ := subMeans_iff.mp means
  exact means.ne_enum ((Registry.name_iff_of_mem_builtinTypes _ listed).2.2.mpr rfl)

/-- What the grades resolve to behind which a sub attribute stands. -/
def strayColumn : ColumnType :=
  ⟨"enum:grade:x", .enum, .i32, some "grade", some "x", .none, .enum "grade" gradeMembers,
    .int .i32⟩

theorem stray_spells :
    TypeExpr.Spells ⟨"enum", some "grade", some "x"⟩ (trim "enum:grade:x".toList) :=
  .sub (by decide) ⟨by decide, by decide⟩ (by decide)

theorem stray_unextended (base : BaseType) (named : grades.baseType? "enum" = some base) :
    base.convert? = none := by
  obtain rfl : ⟨.enum, .i32, none⟩ = base := Option.some.inj named
  rfl

/-- The grades resolve with a sub attribute that means nothing. -/
theorem resolve_with_sub_iff_grade :
    TypeExpr.Spells ⟨"enum", some "grade", some "x"⟩ (trim "enum:grade:x".toList) ∧
      (∀ base, grades.baseType? "enum" = some base → base.convert? = none) ∧
      grades.resolve "enum:grade:x" = .ok strayColumn ∧ ¬SubMeans "enum" "grade" "x" :=
  have decided := resolve_with_sub_iff grades_built stray_spells stray_unextended
  ⟨stray_spells, stray_unextended, (decided.2 rfl _).mpr ⟨gradeMembers, rfl, rfl⟩,
    fun means => means.ne_enum rfl⟩

/-- **NOT EVERY STRAY IS REFUSED**: an enum resolves with one. -/
theorem not_every_stray_refused :
    ¬∀ (r : Registry) (expr name main sub : String), r.Built →
      TypeExpr.Spells ⟨name, some main, some sub⟩ (trim expr.toList) →
      (∀ base, r.baseType? name = some base → base.convert? = none) →
      (∃ t, r.resolve expr = .ok t) → SubMeans name main sub := by
  intro refused
  have resolved : grades.resolve "enum:grade:x" = .ok strayColumn := rfl
  have means := refused _ _ _ _ _ grades_built stray_spells stray_unextended ⟨_, resolved⟩
  exact means.ne_enum rfl

end TableCompiler
