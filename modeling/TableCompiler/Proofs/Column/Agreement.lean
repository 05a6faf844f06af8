import TableCompiler.Proofs.Column.Attributes
import TableCompiler.Proofs.Column.Registered

/-!
# Agreement — width, conversion and dump of a built-in type

Width, conversion and dump of a column are chosen in different places.  `Agree` lists the triples that
suit each other, and resolving a built-in type gives no other triple (`agree_of_resolve`).  Enum
columns stand apart (`enum_of_resolve`): their members are registered with 64 bits and stored with 32.
-/

namespace TableCompiler

open TableCompiler.Text

variable {r r' : Registry} {t : ColumnType} {width : StorageWidth}
variable {semantic : SemanticType} {res : Resolution} {main expr expr' : String}
variable {sub? : Option String}

/-! ## Triples that suit each other -/

/-- Widths, conversions and dumps that suit each other. -/
inductive Agree : StorageWidth → ConvertStrategy → DumpStrategy → Prop where
  | integer (radix : Nat) {width : StorageWidth} (bounded : width.intBounds?.isSome) :
      Agree width (.integer radix width) (.int width)
  | single : Agree .f32 (.real .f32) (.real .f32)
  | double : Agree .f64 (.real .f64) (.real .f64)
  | text : Agree .unbounded .text (.text .utf8 .strict)
  | encoded (encoding : TextEncoding) (policy : ErrorPolicy) :
      Agree .unbounded (.encoded encoding policy) (.text encoding policy)
  | hash (h : KeyHash) : Agree (hashLayout h).1 (.hash h) (hashLayout h).2
  | date : Agree .unbounded .date .canonicalText
  | dateTime : Agree .unbounded .dateTime .canonicalText
  | time : Agree .unbounded .time .canonicalText
  | json : Agree .unbounded .json .json

/-- What a resolution decides suits each other. -/
def Resolution.Agrees (res : Resolution) : Prop :=
  Agree res.width res.convert res.dump

/-- The widths in which a semantic type is stored when no attribute says otherwise. -/
def SemanticType.storedIn (semantic : SemanticType) (width : StorageWidth) : Bool :=
  match semantic with
  | .int | .uint => width.intBounds?.isSome
  | .enum => width = .i32
  | .real => width = .f32 || width = .f64
  | .md5 => width = .fixed 16
  | .sha1 => width = .fixed 20
  | .sha256 => width = .fixed 32
  | .adler32 | .crc32 => width = .u32
  | .json | .string | .date | .dateTime | .timeSpan => width = .unbounded

/-- Every built-in type has a width that its semantic type can be stored in. -/
theorem storedIn_builtinTypes :
    ∀ b ∈ Registry.builtinTypes, b.2.1.storedIn b.2.2 = true := by
  decide

/-- A type without attributes converts to what it dumps. -/
theorem agrees_plain (stored : semantic.storedIn width = true) (plain : semantic ≠ .enum) :
    (Resolution.plain semantic width).Agrees := by
  -- only numbers have a choice of widths; every other type has the one that is asked for
  cases semantic with
  | enum => exact absurd rfl plain
  | int => exact .integer 10 stored
  | uint => exact .integer 10 stored
  | real =>
      rcases Bool.or_eq_true_iff.mp stored with h | h <;> rw [of_decide_eq_true h]
      · exact .single
      · exact .double
  | md5 => rw [of_decide_eq_true stored]; exact .hash .md5
  | sha1 => rw [of_decide_eq_true stored]; exact .hash .sha1
  | sha256 => rw [of_decide_eq_true stored]; exact .hash .sha256
  | adler32 => rw [of_decide_eq_true stored]; exact .hash .adler32
  | crc32 => rw [of_decide_eq_true stored]; exact .hash .crc32
  | json => rw [of_decide_eq_true stored]; exact .json
  | string => rw [of_decide_eq_true stored]; exact .text
  | date => rw [of_decide_eq_true stored]; exact .date
  | dateTime => rw [of_decide_eq_true stored]; exact .dateTime
  | timeSpan => rw [of_decide_eq_true stored]; exact .time

theorem agrees_integer (radix : Nat) (role : KeyRole) (bounded : width.intBounds?.isSome) :
    (Resolution.integer radix width role).Agrees :=
  .integer radix bounded

theorem agrees_hashed (h : KeyHash) (role : KeyRole) : (Resolution.hashed h role).Agrees :=
  .hash h

/-- Whatever the attributes of an integer mean, conversion and dump agree. -/
theorem IntegerMeans.agrees (bounded : width.intBounds?.isSome)
    (means : IntegerMeans width main sub? res) : res.Agrees := by
  cases means with
  | alone _ => exact agrees_integer _ _ bounded
  | foreign _ => exact agrees_integer 10 _ bounded

/-- Whatever the attributes of a text mean, conversion and dump agree. -/
theorem TextMeans.agrees (means : TextMeans .unbounded main sub? res) : res.Agrees := by
  cases means with
  | lookup => exact .text
  | primary => exact agrees_hashed _ _
  | primaryNamed h => exact agrees_hashed h _
  | foreign => exact agrees_hashed _ _
  | foreignNamed h => exact agrees_hashed h _
  | foreignTo _ => exact agrees_hashed _ _
  | hashed h => exact agrees_hashed h _
  | encoded encoding => exact .encoded encoding .strict
  | encodedWith encoding policy => exact .encoded encoding policy

/-- Whatever the attributes of a built-in type mean, it is a triple that suits. -/
theorem BuiltinMeans.agrees {main? : Option String} (stored : semantic.storedIn width = true)
    (plain : semantic ≠ .enum) (means : BuiltinMeans semantic width main? sub? res) :
    res.Agrees := by
  cases means with
  | plain _ _ _ => exact agrees_plain stored plain
  | int means => exact means.agrees stored
  | uint means => exact means.agrees stored
  | text means =>
      rw [of_decide_eq_true stored] at means
      exact means.agrees

/-- The parts of an expression of the built-in enum type resolve to a registered namespace. -/
theorem enum_of_resolveParts {base : BaseType} {parts : TypeExpr}
    (stored : base.semantic.storedIn base.width = true) (builtin : base.convert? = none)
    (enum : base.semantic = .enum) (h : resolveParts r expr base parts = .ok res) :
    ∃ ns members, parts.main? = some ns ∧ r.enumMembers? ns = some members ∧
      res = ⟨.i32, .none, .enum ns members, .int .i32⟩ := by
  rw [enum] at stored
  simp only [resolveParts, builtin, enum, if_true, of_decide_eq_true stored] at h
  unfold resolveEnum at h
  split at h
  case h_1 => cases h
  case h_2 ns hmain =>
    split at h
    case h_1 => cases h
    case h_2 members hmembers =>
      exact ⟨ns, members, hmain, hmembers, (Except.ok.inj h).symm⟩

/-! ## Resolved columns -/

/-- Whether a column converts its cells with a registered converter. -/
def ColumnType.isExtension (t : ColumnType) : Bool :=
  match t.convert with
  | .custom _ => true
  | _ => false

/-- What a type expression resolves to, part by part. -/
theorem resolve_eq_ok_iff :
    r.resolve expr = .ok t ↔ ∃ parts base res, TypeExpr.parse expr = .ok parts ∧
      r.baseType? parts.name = some base ∧ resolveParts r expr base parts = .ok res ∧
      t = ⟨trimmed expr, base.semantic, res.width, parts.main?, parts.sub?, res.role,
        res.convert, res.dump⟩ := by
  unfold Registry.resolve
  -- the three steps in turn; one that fails leaves nothing to be found on the other side
  cases hparse : TypeExpr.parse expr with
  | error e =>
      simp only [bind, Except.bind]
      constructor
      · intro h
        cases h
      · rintro ⟨parts, base, res, hparts, -⟩
        cases hparts
  | ok parts =>
      simp only [bind, Except.bind]
      cases hbase : r.baseType? parts.name with
      | none =>
          constructor
          · intro h
            cases h
          · rintro ⟨_, base, _, hparts, hsome, -⟩
            obtain rfl := Except.ok.inj hparts
            cases hbase.symm.trans hsome
      | some base =>
          cases hres : resolveParts r expr base parts with
          | error e =>
              simp only [hres]
              constructor
              · intro h
                cases h
              · rintro ⟨_, _, res, hparts, hsome, hok, -⟩
                obtain rfl := Except.ok.inj hparts
                obtain rfl := Option.some.inj (hbase.symm.trans hsome)
                cases hres.symm.trans hok
          | ok res =>
              simp only [hres]
              constructor
              · intro h
                exact ⟨parts, base, res, rfl, hbase, hres, (Except.ok.inj h).symm⟩
              · rintro ⟨_, _, _, hparts, hsome, hok, rfl⟩
                obtain rfl := Except.ok.inj hparts
                obtain rfl := Option.some.inj (hbase.symm.trans hsome)
                obtain rfl := Except.ok.inj (hres.symm.trans hok)
                rfl

/-- What parts resolve to they resolve to with more enum namespaces, and in another expression: the
whole expression only stands in an error. -/
theorem resolveParts_mono {base : BaseType} {parts : TypeExpr}
    (enums : ∀ {ns members}, r.enumMembers? ns = some members → r'.enumMembers? ns = some members)
    (h : resolveParts r expr base parts = .ok res) : resolveParts r' expr' base parts = .ok res := by
  unfold resolveParts at h ⊢
  -- only the branch of the enums looks into the registry
  split at h
  case h_1 => exact h
  case h_2 =>
    split at h
    case isTrue enum =>
      rw [if_pos enum]
      unfold resolveEnum at h ⊢
      split at h
      case h_1 => cases h
      case h_2 ns _ =>
        split at h
        case h_1 => cases h
        case h_2 members hmembers =>
          rw [enums hmembers]
          exact h
    case isFalse plain =>
      rw [if_neg plain]
      exact h

/-- **BUILT-IN COLUMNS STAY**: what a type expression means to the built-in types it means ever
after. -/
theorem resolve_of_builtin (built : r.Built) (h : Registry.builtin.resolve expr = .ok t) :
    r.resolve expr = .ok t := by
  obtain ⟨parts, base, res, hparts, hbase, hres, ht⟩ := resolve_eq_ok_iff.mp h
  have enums : ∀ {ns members}, Registry.builtin.enumMembers? ns = some members →
      r.enumMembers? ns = some members := by
    intro ns members hmembers
    cases hmembers
  exact resolve_eq_ok_iff.mpr ⟨parts, base, res, hparts, built.baseType?_builtin hbase,
    resolveParts_mono enums hres, ht⟩

/-- A column without a registered converter is one of a built-in type. -/
theorem builtin_of_resolve (built : r.Built) (h : r.resolve expr = .ok t)
    (plain : t.isExtension = false) :
    ∃ parts base res, base.convert? = none ∧ base.semantic.storedIn base.width = true ∧
      resolveParts r expr base parts = .ok res ∧
      t = ⟨trimmed expr, base.semantic, res.width, parts.main?, parts.sub?, res.role,
        res.convert, res.dump⟩ := by
  obtain ⟨parts, base, res, -, hbase, hres, ht⟩ := resolve_eq_ok_iff.mp h
  have hnone : base.convert? = none := by
    cases hconvert : base.convert? with
    | none => rfl
    | some convert =>
        simp only [resolveParts, hconvert, Except.ok.injEq] at hres
        rw [ht, ← hres] at plain
        cases plain
  have hstored : base.semantic.storedIn base.width = true :=
    storedIn_builtinTypes _ (built.mem_builtinTypes hbase hnone)
  exact ⟨parts, base, res, hnone, hstored, hres, ht⟩

/-- **RESOLVED TRIPLES SUIT EACH OTHER**, enums apart. -/
theorem agree_of_resolve (built : r.Built) (h : r.resolve expr = .ok t)
    (plain : t.isExtension = false) (other : t.semantic ≠ .enum) :
    Agree t.width t.convert t.dump := by
  obtain ⟨parts, base, res, hnone, hstored, hres, rfl⟩ := builtin_of_resolve built h plain
  exact ((resolveParts_eq_ok_iff hnone other).mp hres).agrees hstored other

/-- An enum column names a registered namespace and is stored in 32 bits. -/
theorem enum_of_resolve (built : r.Built) (h : r.resolve expr = .ok t)
    (plain : t.isExtension = false) (enum : t.semantic = .enum) :
    ∃ ns members, t.main? = some ns ∧ r.enumMembers? ns = some members ∧
      t.width = .i32 ∧ t.convert = .enum ns members ∧ t.dump = .int .i32 := by
  obtain ⟨parts, base, res, hnone, hstored, hres, rfl⟩ := builtin_of_resolve built h plain
  obtain ⟨ns, members, hmain, hmembers, rfl⟩ := enum_of_resolveParts hstored hnone enum hres
  exact ⟨ns, members, hmain, hmembers, rfl, rfl, rfl⟩

end TableCompiler
