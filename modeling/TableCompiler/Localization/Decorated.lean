import TableCompiler.Table.Compact

/-!
# Decorated columns — a field in other locales

A column named `$field[locale]` holds what the cells of a plain column mean in a locale. Field and
locale are identifiers, so no name is both plain and decorated.
-/

namespace TableCompiler.Localization

open TableCompiler.Text

/-- A decorated column: where it stands, the field whose texts it gives, and the locale. -/
structure DecoratedColumn where
  index : Nat
  field : String
  locale : String
  deriving DecidableEq, Repr

/-- The field and the locale of a decorated name. -/
def parseDecoratedChars : List Char → Option (List Char × List Char)
  | '$' :: cs =>
    let field := cs.takeWhile (· ≠ '[')
    match cs.dropWhile (· ≠ '[') with
    | '[' :: rest =>
      let locale := rest.takeWhile (· ≠ ']')
      if rest.dropWhile (· ≠ ']') = [']'] && isIdentifier field && isIdentifier locale then
        some (field, locale)
      else none
    | _ => none
  | _ => none

/-- The field and the locale of a decorated name. -/
def parseDecorated (name : String) : Option (String × String) :=
  (parseDecoratedChars name.toList).map fun p => (String.ofList p.1, String.ofList p.2)

/-- The decorated columns among names that start at column `index`. -/
def decoratedFrom : (index : Nat) → List String → List DecoratedColumn
  | _, [] => []
  | index, name :: rest =>
    match parseDecorated name with
    | some (field, locale) => ⟨index, field, locale⟩ :: decoratedFrom (index + 1) rest
    | none => decoratedFrom (index + 1) rest

/-- The decorated columns in column order. -/
def decoratedColumns (names : List String) : List DecoratedColumn :=
  decoratedFrom 0 names

/-- The column with the key texts of a decorated column: the one named after the field, or else the
first plain one. -/
def keyColumn? (raw : RawTable) (column : DecoratedColumn) : Option Nat :=
  match raw.columnIndex? column.field with
  | some i => some i
  | none => raw.firstPlain?

end TableCompiler.Localization
