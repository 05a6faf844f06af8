import TableCompiler.Column.Convert
import TableCompiler.Proofs.Column.Agreement
import TableCompiler.Proofs.Column.Grammar
import TableCompiler.Proofs.Text.Repeated

/-!
# Registrations — a builder that is asked again and again

A builder is asked for one registration after another, and goes on when one is refused.  `Builder` is
that program: it looks first, collects the members of an enum, and writes last, so a refusal leaves the
registry as it was (`outcome_eq`).  A registration that is accepted adds one entry (`Adds`); hence
whatever was there means the same ever after (`Extends`), from one registration to any number of them
(`registrations_conserve`).
-/

namespace TableCompiler

open TableCompiler.Text

/-- A registration as it is asked for. -/
inductive Registration where
  /-- An extension type with its converter. -/
  | type (name : String) (semantic : SemanticType) (width : StorageWidth) (convert : Converter)
  /-- An enum namespace with its members. -/
  | enum (ns : String) (members : List (String × Int64))

/-! ## The builder -/

/-- What a builder does: it changes a registry, and when it fails on the way the registry stays as it
is then. -/
abbrev Builder := ExceptT RegistryError (StateM Registry)

namespace Builder

variable {α β : Type}

/-- What a builder answers, and the registry that it has then. -/
def run (b : Builder α) (r : Registry) : Except RegistryError α × Registry :=
  (ExceptT.run b).run r

/-- Collects the members of an enum one by one, up to a name that is there already. -/
def collect (ns : String) : (seen rest : List (String × Int64)) → Builder (List (String × Int64))
  | seen, [] => pure seen
  | seen, m :: rest =>
    if m.1 ∈ seen.map (·.1) then throw (.duplicateMember ns m.1)
    else collect ns (seen ++ [m]) rest

/-- Performs a registration step by step. -/
def perform : Registration → Builder Unit
  | .type name semantic width convert =>
    if !isIdentifier name.toList then throw (.invalidName name)
    else do
      if ((← get).baseType? name).isSome then throw (.duplicate name)
      else modify fun r => { r with types := r.types ++ [(name, ⟨semantic, width, some convert⟩)] }
  | .enum ns members =>
    if !isIdentifier ns.toList then throw (.invalidName ns)
    else do
      if ((← get).enumMembers? ns).isSome then throw (.duplicateNamespace ns)
      else do
        let collected ← collect ns [] members
        modify fun r => { r with enums := r.enums ++ [(ns, collected)] }

/-- What is refused first is the answer, with the registry as it is then; else the next step goes on
from there. -/
theorem run_bind (b : Builder α) (next : α → Builder β) (r : Registry) :
    (b >>= next).run r =
      match b.run r with
      | (.ok a, r') => (next a).run r'
      | (.error e, r') => (.error e, r') := by
  show (match b.run r with | (x, r') => ExceptT.bindCont next x r') = _
  rcases b.run r with ⟨a | e, r'⟩ <;> rfl

theorem run_get (r : Registry) : (get : Builder Registry).run r = (.ok r, r) := rfl

/-- Collecting changes no registry, and fails with the first repeated name. -/
theorem run_collect (ns : String) (seen rest : List (String × Int64)) (r : Registry) :
    (collect ns seen rest).run r =
      match firstRepeatedFrom (seen.map (·.1)).reverse (rest.map (·.1)) with
      | some member => (.error (.duplicateMember ns member), r)
      | none => (.ok (seen ++ rest), r) := by
  induction rest generalizing seen with
  | nil =>
      rw [List.append_nil]
      rfl
  | cons m rest ih =>
      rw [collect, List.map_cons, firstRepeatedFrom]
      -- the names seen so far are kept in reverse by the specification, so both memberships agree
      by_cases hseen : m.1 ∈ seen.map (·.1)
      · rw [if_pos hseen, if_pos (List.mem_reverse.mpr hseen)]
        rfl
      · rw [if_neg hseen, if_neg fun h => hseen (List.mem_reverse.mp h)]
        have := ih (seen ++ [m])
        rwa [List.map_append, List.reverse_append, List.append_assoc] at this

end Builder

namespace Registration

variable {c : Registration} {r r' : Registry} {e : RegistryError}

/-- What a builder answers to a registration, and the registry that it has then. -/
def outcome (c : Registration) (r : Registry) : Except RegistryError Unit × Registry :=
  (Builder.perform c).run r

/-- The registry that a registration makes of another, unless it is refused. -/
def result (c : Registration) (r : Registry) : Except RegistryError Registry :=
  match c with
  | .type name semantic width convert => r.register name semantic width convert
  | .enum ns members => r.registerEnum ns members

/-- **ALL OR NOTHING**: what is refused on the way leaves nothing behind. -/
theorem outcome_eq (c : Registration) (r : Registry) :
    c.outcome r =
      match c.result r with
      | .ok r' => (.ok (), r')
      | .error e => (.error e, r) := by
  cases c with
  | type name semantic width convert =>
      rw [outcome, Builder.perform, result, Registry.register]
      -- the builder writes in its last step, so a refusal at any earlier one returns what it got
      cases isIdentifier name.toList with
      | false => rfl
      | true =>
          simp only [Bool.not_true, Bool.false_eq_true, if_false, Builder.run_bind,
            Builder.run_get]
          cases (r.baseType? name).isSome <;> rfl
  | enum ns members =>
      rw [outcome, Builder.perform, result, Registry.registerEnum]
      cases isIdentifier ns.toList with
      | false => rfl
      | true =>
          simp only [Bool.not_true, Bool.false_eq_true, if_false, Builder.run_bind,
            Builder.run_get]
          cases (r.enumMembers? ns).isSome with
          | true => rfl
          | false =>
              have hcollect := Builder.run_collect ns [] members r
              rw [List.map_nil, List.reverse_nil] at hcollect
              simp only [Bool.false_eq_true, if_false, Builder.run_bind, firstRepeated?]
              rw [hcollect]
              cases firstRepeatedFrom [] (members.map (·.1)) <;> rfl

/-- What an accepted registration does: it adds its entry, whose name is new, behind the others. -/
inductive Adds : Registration → Registry → Registry → Prop where
  | type {r : Registry} {name : String} {semantic : SemanticType} {width : StorageWidth}
      {convert : Converter} :
      isIdentifier name.toList = true → r.baseType? name = none →
      Adds (.type name semantic width convert) r
        { r with types := r.types ++ [(name, ⟨semantic, width, some convert⟩)] }
  | enum {r : Registry} {ns : String} {members : List (String × Int64)} :
      isIdentifier ns.toList = true → r.enumMembers? ns = none →
      (members.map (·.1)).Nodup →
      Adds (.enum ns members) r { r with enums := r.enums ++ [(ns, members)] }

/-- A registration makes the registry with its entry, and no other. -/
theorem result_eq_ok_iff : c.result r = .ok r' ↔ c.Adds r r' := by
  constructor
  · intro h
    cases c with
    | type name semantic width convert =>
        have hname : isIdentifier name.toList = true := by
          rw [result, Registry.register] at h
          split at h
          case isTrue => cases h
          case isFalse hname => simpa using hname
        obtain ⟨hfree, rfl⟩ := Registry.register_ok h
        exact .type hname hfree
    | enum ns members =>
        obtain ⟨hfree, rfl⟩ := Registry.registerEnum_ok h
        rw [result, Registry.registerEnum] at h
        split at h
        case isTrue => cases h
        case isFalse hname =>
          split at h
          case isTrue => cases h
          case isFalse =>
            split at h
            case h_1 => cases h
            case h_2 hnone =>
              exact .enum (by simpa using hname) hfree (firstRepeated?_eq_none_iff.mp hnone)
  · rintro (⟨hname, hfree⟩ | ⟨hname, hfree, hnodup⟩)
    · simp only [result, Registry.register, hname, hfree]
      rfl
    · simp only [result, Registry.registerEnum, hname, hfree, firstRepeated?_eq_none_iff.mpr hnodup]
      rfl

/-- **ACCEPTED** are the registrations with a new word for a name and no repeated member. -/
theorem outcome_eq_ok_iff : c.outcome r = (.ok (), r') ↔ c.Adds r r' := by
  rw [outcome_eq, ← result_eq_ok_iff]
  cases c.result r with
  | ok r₁ =>
      constructor
      · intro h
        exact congrArg _ (Prod.mk.inj h).2
      · intro h
        rw [Except.ok.inj h]
  | error e => exact ⟨(fun h => nomatch (Prod.mk.inj h).1), fun h => nomatch h⟩

/-- **REFUSED** registrations leave the registry as it is. -/
theorem outcome_error (h : c.outcome r = (.error e, r')) : r' = r := by
  rw [outcome_eq] at h
  cases hresult : c.result r with
  | ok r₁ =>
      rw [hresult] at h
      cases (Prod.mk.inj h).1
  | error e₁ =>
      rw [hresult] at h
      exact (Prod.mk.inj h).2.symm

end Registration

/-! ## What stays -/

namespace Registry

variable {r r' r'' : Registry} {c : Registration} {expr name : String} {t : ColumnType}
variable {parts : TypeExpr} {base : BaseType} {calls more : List Registration}

/-- Whatever a registry names means the same in the other one. -/
structure Extends (r r' : Registry) : Prop where
  types : ∀ {name base}, r.baseType? name = some base → r'.baseType? name = some base
  enums : ∀ {ns members}, r.enumMembers? ns = some members → r'.enumMembers? ns = some members

theorem Extends.refl (r : Registry) : r.Extends r :=
  ⟨id, id⟩

theorem Extends.trans (first : r.Extends r') (second : r'.Extends r'') : r.Extends r'' :=
  ⟨fun h => second.types (first.types h), fun h => second.enums (first.enums h)⟩

/-- An entry behind the others hides none of them. -/
theorem extends_of_adds (adds : c.Adds r r') : r.Extends r' := by
  cases adds with
  | type _ _ =>
      refine ⟨fun h => ?_, id⟩
      rw [baseType?] at h
      rw [baseType?, List.lookup_append, h, Option.some_or]
  | enum _ _ _ =>
      refine ⟨id, fun h => ?_⟩
      rw [enumMembers?] at h
      rw [enumMembers?, List.lookup_append, h, Option.some_or]

/-- An entry behind the others is found if none of them has its name. -/
theorem lookup_concat_self {α β : Type} [DecidableEq α] {entries : List (α × β)} {a : α} {b : β}
    (free : entries.lookup a = none) : (entries ++ [(a, b)]).lookup a = some b := by
  rw [List.lookup_append, free, Option.none_or]
  exact List.lookup_cons_self

/-- An entry behind the others is not found under another name. -/
theorem lookup_concat_of_ne {α β : Type} [DecidableEq α] {entries : List (α × β)} {a a' : α} {b : β}
    (other : a ≠ a') : (entries ++ [(a', b)]).lookup a = entries.lookup a := by
  rw [List.lookup_append, List.lookup_cons, beq_false_of_ne other, List.lookup_nil, Option.or_none]

/-- The entry of an accepted extension is found under its name. -/
theorem baseType?_of_adds {semantic : SemanticType} {width : StorageWidth} {convert : Converter}
    (adds : (Registration.type name semantic width convert).Adds r r') :
    isIdentifier name.toList = true ∧
      r'.baseType? name = some ⟨semantic, width, some convert⟩ := by
  cases adds with
  | type identifier free => exact ⟨identifier, lookup_concat_self free⟩

/-- The members of an accepted enum are found under its namespace, each name once. -/
theorem enumMembers?_of_adds {ns : String} {members : List (String × Int64)}
    (adds : (Registration.enum ns members).Adds r r') :
    isIdentifier ns.toList = true ∧ (members.map (·.1)).Nodup ∧
      r'.enumMembers? ns = some members := by
  cases adds with
  | enum identifier free nodup => exact ⟨identifier, nodup, lookup_concat_self free⟩

/-- Accepted or refused, a registration takes nothing away. -/
theorem extends_outcome (c : Registration) (r : Registry) : r.Extends (c.outcome r).2 := by
  rcases h : c.outcome r with ⟨e | ⟨⟩, r'⟩
  · show r.Extends r'
    rw [Registration.outcome_error h]
    exact .refl r
  · exact extends_of_adds (Registration.outcome_eq_ok_iff.mp h)

/-- The registry of a builder that is asked for registrations one after the other. -/
def asked (r : Registry) : List Registration → Registry
  | [] => r
  | c :: calls => (c.outcome r).2.asked calls

/-- Registrations can be asked in two batches. -/
theorem asked_append (r : Registry) (calls more : List Registration) :
    r.asked (calls ++ more) = (r.asked calls).asked more := by
  induction calls generalizing r with
  | nil => rfl
  | cons c calls ih =>
      show ((c.outcome r).2).asked (calls ++ more) = ((c.outcome r).2.asked calls).asked more
      exact ih _

/-- **WHAT IS THERE STAYS**, however often the builder is asked. -/
theorem extends_asked (r : Registry) (calls : List Registration) : r.Extends (r.asked calls) := by
  induction calls generalizing r with
  | nil => exact .refl r
  | cons c calls ih => exact (extends_outcome c r).trans (ih _)

/-- A registration keeps a built registry a built one. -/
theorem Built.outcome (built : r.Built) (c : Registration) : (c.outcome r).2.Built := by
  rw [Registration.outcome_eq]
  cases hresult : c.result r with
  | error e => exact built
  | ok r' =>
      cases c with
      | type name semantic width convert => exact .register built hresult
      | enum ns members => exact .registerEnum built hresult

/-- Any number of registrations keeps a built registry a built one. -/
theorem Built.asked (built : r.Built) (calls : List Registration) : (r.asked calls).Built := by
  induction calls generalizing r with
  | nil => exact built
  | cons c calls ih => exact ih (built.outcome c)

/-! ## What an expression means -/

/-- What the parts of an expression decide about its column. -/
theorem resolve_of_parts (parsed : TypeExpr.parse expr = .ok parts)
    (named : r.baseType? parts.name = some base) :
    r.resolve expr =
      match resolveParts r expr base parts with
      | .ok res => .ok ⟨trimmed expr, base.semantic, res.width, parts.main?, parts.sub?, res.role,
          res.convert, res.dump⟩
      | .error e => .error e := by
  simp only [resolve, parsed, bind, Except.bind, named]
  cases resolveParts r expr base parts <;> rfl

/-- An expression without parts fails for the reason that it has none. -/
theorem resolve_of_malformed {e : TypeError} (malformed : TypeExpr.parse expr = .error e) :
    r.resolve expr = .error e := by
  rw [resolve, malformed]
  rfl

/-- Enum namespaces matter to enums alone. -/
theorem resolveParts_congr (other : base.semantic ≠ .enum) (expr : String) (parts : TypeExpr) :
    resolveParts r expr base parts = resolveParts r' expr base parts := by
  unfold resolveParts
  rw [if_neg other, if_neg other]

/-- **A RESOLVED EXPRESSION STAYS RESOLVED**, to the same column. -/
theorem resolve_of_extends (extends_ : r.Extends r') (resolved : r.resolve expr = .ok t) :
    r'.resolve expr = .ok t := by
  obtain ⟨parts, base, res, hparts, hbase, hres, ht⟩ := resolve_eq_ok_iff.mp resolved
  exact resolve_eq_ok_iff.mpr
    ⟨parts, base, res, hparts, extends_.types hbase, resolveParts_mono extends_.enums hres, ht⟩

/-- Whether an expression names a built-in type other than the enum. -/
def NamesBuiltin (expr : String) : Prop :=
  ∀ parts, TypeExpr.parse expr = .ok parts →
    parts.name ∈ builtinTypes.map (·.1) ∧ parts.name ≠ "enum"

/-- Of the built-in names only `enum` is the name of an enum. -/
theorem builtin_of_name :
    ∀ name ∈ builtinTypes.map (·.1), name ≠ "enum" →
      ((builtin.baseType? name).map (·.semantic)).any (· ≠ .enum) = true := by
  decide

/-- **BUILT-IN EXPRESSIONS** resolve, or fail to, as they do without any registration. -/
theorem resolve_eq_builtin (built : r.Built) (names : NamesBuiltin expr) :
    r.resolve expr = builtin.resolve expr := by
  cases hparse : TypeExpr.parse expr with
  | error e => rw [resolve_of_malformed hparse, resolve_of_malformed hparse]
  | ok parts =>
      obtain ⟨hmem, hne⟩ := names parts hparse
      have hany := builtin_of_name parts.name hmem hne
      -- the names of built-in types cannot be taken, so the registry finds the same base
      cases hbase : builtin.baseType? parts.name with
      | none =>
          rw [hbase] at hany
          cases hany
      | some base =>
          rw [hbase] at hany
          have other : base.semantic ≠ .enum := of_decide_eq_true hany
          rw [resolve_of_parts hparse hbase, resolve_of_parts hparse (built.baseType?_builtin hbase),
            resolveParts_congr other expr parts]

/-! ## Extensions -/

/-- The column of an extension: its converter gets the attributes as they are. -/
def extensionColumn (parts : TypeExpr) (semantic : SemanticType) (width : StorageWidth)
    (convert : Converter) : ColumnType :=
  ⟨parts.text, semantic, width, parts.main?, parts.sub?, .none, .custom convert,
    .ofSemantic semantic width⟩

/-- **EXTENSIONS ARE REACHED** under their name, whatever they mean. -/
theorem resolve_extension {semantic : SemanticType} {width : StorageWidth} {convert : Converter}
    {main? sub? : Option String} (identifier : isIdentifier name.toList = true)
    (registered : r.baseType? name = some ⟨semantic, width, some convert⟩)
    (attributes : TypeExpr.Attributes main? sub?) :
    r.resolve (TypeExpr.text ⟨name, main?, sub?⟩)
      = .ok (extensionColumn ⟨name, main?, sub?⟩ semantic width convert) := by
  obtain ⟨hparse, htrimmed⟩ := TypeExpr.parse_text identifier attributes
  rw [resolve_of_parts hparse registered, htrimmed]
  rfl

end Registry

/-! ## Any number of registrations -/

open Registry in
/-- **REGISTRATIONS CONSERVE**: whatever was asked before, a refused registration leaves all as it is
and an accepted one adds its entry and no other.  So built-in expressions mean what they mean without
any registration, resolved expressions stay what they are, and extensions are reached with their
attributes. -/
theorem registrations_conserve (calls more : List Registration) :
    (∀ c : Registration,
        (∀ e r', c.outcome (builtin.asked calls) = (.error e, r') → r' = builtin.asked calls) ∧
        (∀ r', c.outcome (builtin.asked calls) = (.ok (), r') ↔ c.Adds (builtin.asked calls) r') ∧
        (builtin.asked calls).Extends (c.outcome (builtin.asked calls)).2) ∧
    (∀ expr, NamesBuiltin expr → (builtin.asked calls).resolve expr = builtin.resolve expr) ∧
    (∀ expr t, (builtin.asked calls).resolve expr = .ok t →
        (builtin.asked (calls ++ more)).resolve expr = .ok t) ∧
    (∀ name semantic width convert,
        ((Registration.type name semantic width convert).outcome (builtin.asked calls)).1 = .ok () →
        ∀ main? sub?, TypeExpr.Attributes main? sub? →
          (builtin.asked (calls ++ .type name semantic width convert :: more)).resolve
              (TypeExpr.text ⟨name, main?, sub?⟩)
            = .ok (extensionColumn ⟨name, main?, sub?⟩ semantic width convert) ∧
          ∀ cell, (extensionColumn ⟨name, main?, sub?⟩ semantic width convert).convertCell cell
            = convert cell main? sub?) := by
  refine ⟨fun c => ⟨?_, ?_, extends_outcome c _⟩, ?_, ?_, ?_⟩
  · intro e r' h
    exact Registration.outcome_error h
  · intro r'
    exact Registration.outcome_eq_ok_iff
  · intro expr names
    exact resolve_eq_builtin (Built.builtin.asked calls) names
  · intro expr t resolved
    rw [asked_append]
    exact resolve_of_extends (extends_asked _ more) resolved
  · intro name semantic width convert accepted main? sub? attributes
    refine ⟨?_, fun cell => rfl⟩
    obtain ⟨identifier, found⟩ := baseType?_of_adds
      (Registration.outcome_eq_ok_iff.mp (Prod.ext accepted rfl))
    rw [asked_append]
    exact resolve_extension identifier ((extends_asked _ more).types found) attributes

/-- An extension that shows what it was given. -/
def moneyType : Registration :=
  .type "money" .enum .i64 fun cell main? sub? =>
    .ok (.text (main?.getD "-" ++ "|" ++ sub?.getD "-" ++ "|" ++ cell))

/-- An enum that names its second member like its first one. -/
def doubledEnum : Registration :=
  .enum "grade" [("low", 1), ("low", 2)]

/-- An enum of the name that was refused before. -/
def gradeEnum : Registration :=
  .enum "grade" [("low", 1), ("high", 2)]

open Registry in
/-- An extension with an enum refused behind it, one accepted after that, and a built-in expression
all mean what they should. -/
theorem registrations_conserve_money :
    doubledEnum.outcome (builtin.asked [moneyType])
        = (.error (.duplicateMember "grade" "low"), builtin.asked [moneyType]) ∧
      NamesBuiltin "int:fk:item.id" ∧
      (builtin.asked [moneyType]).resolve "int:fk:item.id" = builtin.resolve "int:fk:item.id" ∧
      (∃ t, (builtin.asked [moneyType]).resolve "money:EUR" = .ok t ∧
        (builtin.asked ([moneyType] ++ [doubledEnum, gradeEnum])).resolve "money:EUR" = .ok t) ∧
      (moneyType.outcome (builtin.asked [])).1 = .ok () ∧
      TypeExpr.Attributes (some "EUR") (some "a:b") ∧
      ∃ t, (builtin.asked [moneyType, doubledEnum, gradeEnum]).resolve "money:EUR:a:b" = .ok t ∧
        t.convertCell "7" = .ok (.text "EUR|a:b|7") := by
  have refused : doubledEnum.outcome (builtin.asked [moneyType])
      = (.error (.duplicateMember "grade" "low"), builtin.asked [moneyType]) := rfl
  have names : NamesBuiltin "int:fk:item.id" := by
    intro parts hparse
    have hparts : TypeExpr.parse "int:fk:item.id" = .ok ⟨"int", some "fk", some "item.id"⟩ := rfl
    obtain rfl := Except.ok.inj (hparts.symm.trans hparse)
    decide
  have accepted : (moneyType.outcome (builtin.asked [])).1 = .ok () := rfl
  have attributes : TypeExpr.Attributes (some "EUR") (some "a:b") := by
    refine .sub ⟨by decide, by decide⟩ (by decide) ?_
    rintro ⟨c, hlast, hblank⟩
    obtain rfl : 'b' = c := Option.some.inj hlast
    exact absurd hblank (by decide)
  have later := registrations_conserve [moneyType] [doubledEnum, gradeEnum]
  obtain ⟨reached, passed⟩ := (registrations_conserve [] [doubledEnum, gradeEnum]).2.2.2
    _ _ _ _ accepted _ _ attributes
  exact ⟨refused, names, later.2.1 _ names, ⟨_, rfl, later.2.2.1 _ _ rfl⟩, accepted, attributes,
    _, reached, passed "7"⟩

end TableCompiler
