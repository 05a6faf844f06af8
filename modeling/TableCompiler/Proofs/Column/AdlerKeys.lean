import TableCompiler.Proofs.Column.Agreement

/-!
# Adler keys — the columns whose cells are hashed with Adler-32

Keys of texts are hashed with Adler-32 unless another hash is named, and a foreign key may name its
target in the place of the hash.  `HashesAdler` lists the type expressions of these columns, and
whatever has been registered no other type expression gives one (`resolves_to_adler_iff`).  All of them
store the hash in 32 bits (`dump_of_adler`).
-/

namespace TableCompiler

variable {r : Registry} {t : ColumnType} {expr main : String} {sub? : Option String}
variable {parts : TypeExpr} {width : StorageWidth} {semantic : SemanticType} {res : Resolution}

/-- The parts of the type expressions that hash with Adler-32. -/
inductive TypeExpr.HashesAdler : TypeExpr → Prop where
  | checksum {sub? : Option String} : HashesAdler ⟨"adler32", none, sub?⟩
  | text : HashesAdler ⟨"str", some "adler32", none⟩
  | primary : HashesAdler ⟨"str", some "pk", none⟩
  | primaryNamed : HashesAdler ⟨"str", some "pk", some "adler32"⟩
  | foreign : HashesAdler ⟨"str", some "fk", none⟩
  | foreignNamed : HashesAdler ⟨"str", some "fk", some "adler32"⟩
  /-- The target of a foreign key stands in the place of the hash. -/
  | foreignTo {target : String} :
      KeyHash.ofName? target = none → HashesAdler ⟨"str", some "fk", some target⟩

/-! ## The attributes -/

/-- The attributes of integers ask for no hash. -/
theorem IntegerMeans.ne_adler (means : IntegerMeans width main sub? res) :
    res.convert ≠ .hash .adler32 := by
  cases means with
  | alone _ => exact fun hashes => nomatch hashes
  | foreign _ => exact fun hashes => nomatch hashes

/-- The attributes of texts that ask for Adler-32 are the listed ones. -/
theorem TextMeans.adler (means : TextMeans width main sub? res)
    (hashes : res.convert = .hash .adler32) : TypeExpr.HashesAdler ⟨"str", some main, sub?⟩ := by
  have named : ∀ {h : KeyHash} {role}, (Resolution.hashed h role).convert = .hash .adler32 →
      h = .adler32 := fun hashes => ConvertStrategy.hash.inj hashes
  -- a hash that is named must be Adler-32; without a name, and beside a target, it is the default
  cases means with
  | lookup => cases hashes
  | primary => exact .primary
  | primaryNamed h =>
      obtain rfl := named hashes
      exact .primaryNamed
  | foreign => exact .foreign
  | foreignNamed h =>
      obtain rfl := named hashes
      exact .foreignNamed
  | foreignTo other => exact .foreignTo (KeyHash.ofName?_eq_none_iff.mpr other)
  | hashed h =>
      obtain rfl := named hashes
      exact .text
  | encoded _ => cases hashes
  | encodedWith _ _ => cases hashes

/-- Without attributes only checksum columns hash with Adler-32. -/
theorem semantic_of_plain (hashes : (Resolution.plain semantic width).convert = .hash .adler32) :
    semantic = .adler32 := by
  cases semantic with
  | adler32 => rfl
  | _ => cases hashes

/-! ## The expressions -/

/-- The built-in types that hash with Adler-32 are the type of that name and texts with a listed
attribute. -/
theorem BuiltinMeans.adler {name : String} {main? : Option String}
    (listed : (name, semantic, width) ∈ Registry.builtinTypes)
    (means : BuiltinMeans semantic width main? sub? res) (hashes : res.convert = .hash .adler32) :
    TypeExpr.HashesAdler ⟨name, main?, sub?⟩ := by
  obtain ⟨string, adler, -⟩ := Registry.name_iff_of_mem_builtinTypes _ listed
  cases means with
  | plain _ _ _ =>
      obtain rfl := adler.mp (semantic_of_plain hashes)
      exact .checksum
  | int means => exact absurd hashes means.ne_adler
  | uint means => exact absurd hashes means.ne_adler
  | text means =>
      obtain rfl := string.mp rfl
      exact means.adler hashes

/-- A column that hashes with Adler-32 has an expression that says so: neither enums nor extensions
hash. -/
theorem adler_of_resolveParts {base : BaseType} (built : r.Built)
    (named : r.baseType? parts.name = some base)
    (resolved : resolveParts r expr base parts = .ok res)
    (hashes : res.convert = .hash .adler32) : parts.HashesAdler := by
  cases hconvert : base.convert? with
  | some convert =>
      simp only [resolveParts, hconvert, Except.ok.injEq] at resolved
      rw [← resolved] at hashes
      cases hashes
  | none =>
      have listed := built.mem_builtinTypes named hconvert
      by_cases enum : base.semantic = .enum
      · obtain ⟨ns, members, -, -, rfl⟩ :=
          enum_of_resolveParts (storedIn_builtinTypes _ listed) hconvert enum resolved
        cases hashes
      · exact ((resolveParts_eq_ok_iff hconvert enum).mp resolved).adler listed hashes

/-- The listed expressions resolve to columns that hash with Adler-32. -/
theorem TypeExpr.HashesAdler.resolves (hashes : parts.HashesAdler) :
    ∃ base res, Registry.builtin.baseType? parts.name = some base ∧
      resolveParts r expr base parts = .ok res ∧ res.convert = .hash .adler32 := by
  cases hashes with
  | checksum => exact ⟨_, _, rfl, rfl, rfl⟩
  | text => exact ⟨_, _, rfl, rfl, rfl⟩
  | primary => exact ⟨_, _, rfl, rfl, rfl⟩
  | primaryNamed => exact ⟨_, _, rfl, rfl, rfl⟩
  | foreign => exact ⟨_, _, rfl, rfl, rfl⟩
  | foreignNamed => exact ⟨_, _, rfl, rfl, rfl⟩
  | foreignTo other =>
      have means := @TextMeans.foreignTo .unbounded _ (KeyHash.ofName?_eq_none_iff.mp other)
      exact ⟨_, _, rfl, means.resolves, rfl⟩

/-- **ADLER KEYS** are the columns of the listed type expressions. -/
theorem resolves_to_adler_iff (built : r.Built) (parsed : TypeExpr.parse expr = .ok parts) :
    (∃ t, r.resolve expr = .ok t ∧ t.convert = .hash .adler32) ↔ parts.HashesAdler := by
  constructor
  · rintro ⟨t, hresolve, hconvert⟩
    obtain ⟨parts', base, res, hparts, hbase, hres, rfl⟩ := resolve_eq_ok_iff.mp hresolve
    obtain rfl := Except.ok.inj (hparts.symm.trans parsed)
    exact adler_of_resolveParts built hbase hres hconvert
  · intro hashes
    obtain ⟨base, res, hbase, hres, hconvert⟩ := hashes.resolves
    exact ⟨_, resolve_eq_ok_iff.mpr
      ⟨parts, base, res, parsed, built.baseType?_builtin hbase, hres, rfl⟩, hconvert⟩

/-- **ADLER KEYS ARE WORDS**: they are dumped in 32 bits. -/
theorem dump_of_adler (built : r.Built) (resolved : r.resolve expr = .ok t)
    (hashes : t.convert = .hash .adler32) : t.dump = .int .u32 := by
  have plain : t.isExtension = false := by
    rw [ColumnType.isExtension, hashes]
  -- enums are resolved apart, and convert to their members
  have other : t.semantic ≠ .enum := by
    intro enum
    obtain ⟨ns, members, -, -, -, hconvert, -⟩ := enum_of_resolve built resolved plain enum
    cases hashes.symm.trans hconvert
  have agree := agree_of_resolve built resolved plain other
  rw [hashes] at agree
  generalize t.width = width, t.dump = dump at agree
  cases agree with
  | hash h => rfl

end TableCompiler
