import TableCompiler.Localization.TextTable
import TableCompiler.Table.Binary
import TableCompiler.Table.Typed

/-!
# Compiling — a source table to everything made from it

A table is compacted, converted and dumped; the decorated columns of the source give the localization
tables. Errors tell the place in the source, not in the compacted table.
-/

namespace TableCompiler

open TableCompiler.Localization

/-- Why a table cannot be compiled. -/
inductive CompileError where
  | table (name : String) (source : TableError)
  | localization (name : String) (source : LocalizationError)
  deriving DecidableEq, Repr

/-- The wording of a compile error. -/
def CompileError.message : CompileError → String
  | .table name source => "table '" ++ name ++ "': " ++ source.message
  | .localization name source => "table '" ++ name ++ "': " ++ source.message

/-- What the decorated columns of a table give. -/
structure CompiledLocalization where
  hashTable : TypedTable
  binary : BinaryTable
  textTable : TextTable

/-- What a table gives. -/
structure CompiledTable where
  name : String
  typed : TypedTable
  binary : BinaryTable
  localization? : Option CompiledLocalization

/-- The converted and the binary form of a source table. -/
def compileCells (raw : RawTable) (registry : Registry) :
    Except TableError (TypedTable × BinaryTable) :=
  match TypedTable.convert raw.compact registry with
  | .error e => .error (raw.sourceMap.locate e)
  | .ok typed =>
    match BinaryTable.encode typed with
    | .error e => .error (raw.sourceMap.locate e)
    | .ok binary => .ok (typed, binary)

/-- The localization tables of a source table, if it has decorated columns. -/
def localize (name : String) (raw : RawTable) (registry : Registry) :
    Except CompileError (Option CompiledLocalization) :=
  match HashTable.extract raw with
  | .error e => .error (.localization name e)
  | .ok hashed =>
    if hashed.isEmpty then .ok none
    else
      match TextTable.pivot hashed with
      | .error e => .error (.localization name e)
      | .ok textTable =>
        match hashed.toTyped registry with
        | .error e => .error (.localization name e)
        | .ok hashTable =>
          match BinaryTable.encode hashTable with
          | .error e => .error (.table name e)
          | .ok binary => .ok (some ⟨hashTable, binary, textTable⟩)

/-- Compiles a source table. -/
def compile (name : String) (raw : RawTable) (registry : Registry) :
    Except CompileError CompiledTable :=
  match compileCells raw registry with
  | .error e => .error (.table name e)
  | .ok (typed, binary) =>
    match localize name raw registry with
    | .error e => .error e
    | .ok localization? => .ok ⟨name, typed, binary, localization?⟩

end TableCompiler
