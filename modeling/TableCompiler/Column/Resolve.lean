import TableCompiler.Column.Registry

/-!
# Column types — type expressions resolved against a registry

Resolving looks up the data type, then the main attribute for its semantic type, then the sub
attribute for the main one, and fixes width, key role, conversion and dump of the column. An
extension takes its attributes as they are; an attribute that means nothing is an error.
-/

namespace TableCompiler

open TableCompiler.Text TableCompiler.Number

/-- A resolved column type. -/
structure ColumnType where
  expr : String
  semantic : SemanticType
  width : StorageWidth
  main? : Option String
  sub? : Option String
  role : KeyRole
  convert : ConvertStrategy
  dump : DumpStrategy

/-- What the attributes of an expression decide. -/
structure Resolution where
  width : StorageWidth
  role : KeyRole
  convert : ConvertStrategy
  dump : DumpStrategy

namespace Resolution

/-- A column of integers in a radix. -/
def integer (radix : Nat) (width : StorageWidth) (role : KeyRole) : Resolution :=
  ⟨width, role, .integer radix width, .int width⟩

/-- A column of hashes. -/
def hashed (h : KeyHash) (role : KeyRole) : Resolution :=
  ⟨(hashLayout h).1, role, .hash h, (hashLayout h).2⟩

/-- A column of texts in an encoding. -/
def encoded (width : StorageWidth) (encoding : TextEncoding) (policy : ErrorPolicy) :
    Resolution :=
  ⟨width, .none, .encoded encoding policy, .text encoding policy⟩

/-- A column without attributes. -/
def plain (semantic : SemanticType) (width : StorageWidth) : Resolution :=
  ⟨width, .none, .ofSemantic semantic width, .ofSemantic semantic width⟩

end Resolution

/-- A radix from 2 to 36 in decimal digits, zeros and one plus in front allowed. -/
def radixOf? (s : String) : Option Nat :=
  let digits :=
    match s.toList with
    | '+' :: rest => rest
    | cs => cs
  if digits.isEmpty || !digits.all isDigit then none
  else
    let radix := ofDecimalDigits digits
    if 2 ≤ radix && radix ≤ 36 then some radix else none

/-- The radix and role of an integer attribute other than a foreign key. -/
def integerAttr? (main : String) : Option (Nat × KeyRole) :=
  if main = "bin" then some (2, .none)
  else if main = "oct" then some (8, .none)
  else if main = "hex" then some (16, .none)
  else if main = "pk" then some (10, .primary)
  else (radixOf? main).map (·, .none)

/-- Resolves the attributes of an integer column: only a foreign key has a sub attribute. -/
def resolveInteger (semantic : SemanticType) (width : StorageWidth) (main : String)
    (sub? : Option String) : Except TypeError Resolution :=
  if main = "fk" then .ok (.integer 10 width (.foreign sub?))
  else
    match integerAttr? main, sub? with
    | none, _ => .error (.unknownMainAttribute semantic main)
    | some _, some sub => .error (.unknownSubAttribute semantic main sub)
    | some (radix, role), none => .ok (.integer radix width role)

/-- Resolves a primary key of texts: the sub attribute can only name the hash. -/
def resolvePrimary (sub? : Option String) : Except TypeError Resolution :=
  match sub? with
  | none => .ok (.hashed .adler32 .primary)
  | some sub =>
    match KeyHash.ofName? sub with
    | some h => .ok (.hashed h .primary)
    | none => .error (.unknownSubAttribute .string "pk" sub)

/-- Resolves a foreign key of texts: the sub attribute names the hash, or else the target. -/
def resolveForeign (sub? : Option String) : Resolution :=
  match sub? with
  | none => .hashed .adler32 (.foreign none)
  | some sub =>
    match KeyHash.ofName? sub with
    | some h => .hashed h (.foreign none)
    | none => .hashed .adler32 (.foreign (some sub))

/-- Resolves an encoding: the sub attribute can only name the policy. -/
def resolveEncoding (width : StorageWidth) (main : String) (encoding : TextEncoding)
    (sub? : Option String) : Except TypeError Resolution :=
  match sub? with
  | none => .ok (.encoded width encoding .strict)
  | some sub =>
    match ErrorPolicy.ofName? sub with
    | some policy => .ok (.encoded width encoding policy)
    | none => .error (.unknownSubAttribute .string main sub)

/-- Resolves the attributes of a text column. -/
def resolveString (width : StorageWidth) (main : String) (sub? : Option String) :
    Except TypeError Resolution :=
  if main = "key" then
    match sub? with
    | some sub => .error (.unknownSubAttribute .string main sub)
    | none => .ok { Resolution.plain .string width with role := .lookup }
  else if main = "pk" then resolvePrimary sub?
  else if main = "fk" then .ok (resolveForeign sub?)
  else
    match KeyHash.ofName? main with
    | some h =>
      match sub? with
      | some sub => .error (.unknownSubAttribute .string main sub)
      | none => .ok (.hashed h .none)
    | none =>
      match TextEncoding.ofName? main with
      | some encoding => resolveEncoding width main encoding sub?
      | none => .error (.unknownMainAttribute .string main)

/-- Resolves the attributes of a built-in type other than an enum. -/
def resolveAttributes (semantic : SemanticType) (width : StorageWidth) (main : String)
    (sub? : Option String) : Except TypeError Resolution :=
  match semantic with
  | .int | .uint => resolveInteger semantic width main sub?
  | .string => resolveString width main sub?
  | _ => .error (.unknownMainAttribute semantic main)

/-- Resolves an enum column: the main attribute is the namespace. -/
def resolveEnum (r : Registry) (expr : String) (width : StorageWidth) (main? : Option String) :
    Except TypeError Resolution :=
  match main? with
  | none => .error (.missingMainAttribute expr)
  | some ns =>
    match r.enumMembers? ns with
    | none => .error (.unknownEnumNamespace ns)
    | some members => .ok ⟨width, .none, .enum ns members, .int width⟩

/-- Resolves the parts of an expression whose data type is known. -/
def resolveParts (r : Registry) (expr : String) (base : BaseType) (parts : TypeExpr) :
    Except TypeError Resolution :=
  match base.convert? with
  | some convert =>
    .ok { Resolution.plain base.semantic base.width with convert := .custom convert }
  | none =>
    if base.semantic = .enum then resolveEnum r expr base.width parts.main?
    else
      match parts.main? with
      | some main => resolveAttributes base.semantic base.width main parts.sub?
      | none => .ok (.plain base.semantic base.width)

namespace Registry

/-- Resolves a type expression. -/
def resolve (r : Registry) (expr : String) : Except TypeError ColumnType := do
  let parts ← TypeExpr.parse expr
  match r.baseType? parts.name with
  | none => .error (.unknownDataType expr)
  | some base =>
    let res ← resolveParts r expr base parts
    return ⟨trimmed expr, base.semantic, res.width, parts.main?, parts.sub?, res.role,
      res.convert, res.dump⟩

/-- Resolves the expressions of columns from `col` on. -/
def resolveFrom (r : Registry) : (col : Nat) → List String → Except TypeError (List ColumnType)
  | _, [] => .ok []
  | col, expr :: rest =>
    match r.resolve expr with
    | .error e => .error (.column col e)
    | .ok t => (r.resolveFrom (col + 1) rest).map (t :: ·)

theorem length_of_resolveFrom {r : Registry} {exprs : List String} :
    ∀ {col : Nat} {types : List ColumnType}, r.resolveFrom col exprs = .ok types →
      types.length = exprs.length := by
  induction exprs with
  | nil =>
      intro col types h
      cases h
      rfl
  | cons expr rest ih =>
      intro col types h
      simp only [resolveFrom] at h
      split at h
      case h_1 => cases h
      case h_2 =>
        cases hr : r.resolveFrom (col + 1) rest with
        | error e => simp [hr, Except.map] at h
        | ok ts =>
            simp only [hr, Except.map, Except.ok.injEq] at h
            subst h
            simp [ih hr]

/-- Resolves a type row; the first failure is reported with its column. -/
def resolveAll (r : Registry) (exprs : List String) : Except TypeError (List ColumnType) :=
  r.resolveFrom 0 exprs

/-- A type row resolves to one column type for each expression. -/
theorem length_of_resolveAll {r : Registry} {exprs : List String} {types : List ColumnType}
    (h : r.resolveAll exprs = .ok types) : types.length = exprs.length :=
  length_of_resolveFrom h

end Registry

namespace ColumnType

/-- Whether two columns are of one type. Conversions follow from the rest for a given registry. -/
def same (t u : ColumnType) : Bool :=
  t.expr = u.expr && t.semantic = u.semantic && t.width = u.width && t.role = u.role
    && t.dump = u.dump

end ColumnType

end TableCompiler
