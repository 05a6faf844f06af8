import TableCompiler.Text.Repeated
import TableCompiler.Column.Expr
import TableCompiler.Column.Strategy

/-!
# The registry — data types and enum namespaces by name

A registry starts with the built-in types. Registering adds one entry behind the others or fails and
adds nothing, so what a name meant before it means ever after.
-/

namespace TableCompiler

open TableCompiler.Text

/-- Why a registration is refused. -/
inductive RegistryError where
  /-- A data type of that name is there already. -/
  | duplicate (name : String)
  /-- The name is no identifier. -/
  | invalidName (name : String)
  /-- An enum namespace of that name is there already. -/
  | duplicateNamespace (ns : String)
  /-- An enum names a member twice. -/
  | duplicateMember (ns member : String)
  deriving DecidableEq, Repr

/-- The wording of a refused registration. -/
def RegistryError.message : RegistryError → String
  | .duplicate name => "data type '" ++ name ++ "' is already registered"
  | .invalidName name => "'" ++ name ++ "' is not a valid identifier"
  | .duplicateNamespace ns => "enum namespace '" ++ ns ++ "' is already registered"
  | .duplicateMember ns member => "enum '" ++ ns ++ "' lists '" ++ member ++ "' twice"

/-- A data type: what it means, how it is stored, and its converter if it is an extension. -/
structure BaseType where
  semantic : SemanticType
  width : StorageWidth
  convert? : Option Converter

/-- Data types and enum namespaces in order of registration. -/
structure Registry where
  types : List (String × BaseType)
  enums : List (String × List (String × Int64))

namespace Registry

/-- The names, meanings and widths of the built-in types. -/
def builtinTypes : List (String × SemanticType × StorageWidth) :=
  [("json", .json, .unbounded), ("str", .string, .unbounded), ("md5", .md5, .fixed 16),
   ("sha1", .sha1, .fixed 20), ("sha256", .sha256, .fixed 32), ("int", .int, .i32),
   ("int8", .int, .i8), ("int16", .int, .i16), ("int32", .int, .i32), ("int64", .int, .i64),
   ("uint", .uint, .u32), ("uint8", .uint, .u8), ("uint16", .uint, .u16),
   ("uint32", .uint, .u32), ("uint64", .uint, .u64), ("adler32", .adler32, .u32),
   ("crc32", .crc32, .u32), ("real", .real, .f32), ("real32", .real, .f32),
   ("real64", .real, .f64), ("date", .date, .unbounded), ("datetime", .dateTime, .unbounded),
   ("span", .timeSpan, .unbounded), ("time", .timeSpan, .unbounded), ("enum", .enum, .i32)]

/-- The registry of the built-in types. -/
def builtin : Registry :=
  ⟨builtinTypes.map fun t => (t.1, ⟨t.2.1, t.2.2, none⟩), []⟩

/-- The data type of that name. -/
def baseType? (r : Registry) (name : String) : Option BaseType :=
  r.types.lookup name

/-- The members of an enum namespace. -/
def enumMembers? (r : Registry) (ns : String) : Option (List (String × Int64)) :=
  r.enums.lookup ns

/-- How many data types there are. -/
def typeCount (r : Registry) : Nat :=
  r.types.length

/-- Adds an extension type. -/
def register (r : Registry) (name : String) (semantic : SemanticType) (width : StorageWidth)
    (convert : Converter) : Except RegistryError Registry :=
  if !isIdentifier name.toList then .error (.invalidName name)
  else if (r.baseType? name).isSome then .error (.duplicate name)
  else .ok { r with types := r.types ++ [(name, ⟨semantic, width, some convert⟩)] }

/-- Adds an enum namespace. -/
def registerEnum (r : Registry) (ns : String) (members : List (String × Int64)) :
    Except RegistryError Registry :=
  if !isIdentifier ns.toList then .error (.invalidName ns)
  else if (r.enumMembers? ns).isSome then .error (.duplicateNamespace ns)
  else
    match firstRepeated? (members.map (·.1)) with
    | some member => .error (.duplicateMember ns member)
    | none => .ok { r with enums := r.enums ++ [(ns, members)] }

end Registry

end TableCompiler
