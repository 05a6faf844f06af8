import TableCompiler.Text.Class
import TableCompiler.Column.Storage

/-!
# Type expressions — `name`, `name:main` or `name:main:sub`

The name is an identifier. The main attribute is any text without a colon, the sub attribute any
text without a line feed, and neither is empty. Blank space around the whole is ignored.
-/

namespace TableCompiler

open TableCompiler.Text

/-- Why a type expression names no column type. -/
inductive TypeError where
  /-- The expression does not have the form of one. -/
  | malformedExpression (expr : String)
  /-- No data type of that name is registered. -/
  | unknownDataType (expr : String)
  /-- The main attribute means nothing for the semantic type. -/
  | unknownMainAttribute (semantic : SemanticType) (attr : String)
  /-- The sub attribute means nothing after the main attribute. -/
  | unknownSubAttribute (semantic : SemanticType) (main : String) (sub : String)
  /-- An enum column without its namespace. -/
  | missingMainAttribute (expr : String)
  /-- No enum namespace of that name is registered. -/
  | unknownEnumNamespace (ns : String)
  /-- The failure of one column of a type row. -/
  | column (col : Nat) (source : TypeError)
  deriving DecidableEq, Repr

/-- The wording of a type error. -/
def TypeError.message : TypeError → String
  | .malformedExpression expr => "malformed type expression '" ++ expr ++ "'"
  | .unknownDataType expr => "unknown data type in '" ++ expr ++ "'"
  | .unknownMainAttribute semantic attr =>
    "unknown main attribute '" ++ attr ++ "' for " ++ semantic.name
  | .unknownSubAttribute semantic main sub =>
    "unknown sub attribute '" ++ sub ++ "' for " ++ semantic.name ++ ":" ++ main
  | .missingMainAttribute expr => "type expression '" ++ expr ++ "' requires a main attribute"
  | .unknownEnumNamespace ns => "unknown enum namespace '" ++ ns ++ "'"
  | .column col source => "column " ++ toString col ++ ": " ++ source.message

/-- The parts of a type expression. -/
structure TypeExpr where
  name : String
  main? : Option String
  sub? : Option String
  deriving DecidableEq, Repr

namespace TypeExpr

/-- The text before the first colon and, if there is a colon, the text after it. -/
def splitColon : List Char → List Char × Option (List Char)
  | [] => ([], none)
  | c :: cs =>
    if c = ':' then ([], some cs)
    else
      let p := splitColon cs
      (c :: p.1, p.2)

/-- A sub attribute is not empty and stays on one line. -/
def isSub (cs : List Char) : Bool :=
  !cs.isEmpty && !cs.contains '\n'

/-- The parts of a trimmed expression. -/
def split? (cs : List Char) : Option TypeExpr :=
  let first := splitColon cs
  if !isIdentifier first.1 then none
  else
    match first.2 with
    | none => some ⟨String.ofList first.1, none, none⟩
    | some rest =>
      let second := splitColon rest
      if second.1.isEmpty then none
      else
        match second.2 with
        | none => some ⟨String.ofList first.1, some (String.ofList second.1), none⟩
        | some sub =>
          if isSub sub then
            some ⟨String.ofList first.1, some (String.ofList second.1), some (String.ofList sub)⟩
          else none

/-- Splits an expression into its parts. -/
def parse (expr : String) : Except TypeError TypeExpr :=
  match split? (trim expr.toList) with
  | some parts => .ok parts
  | none => .error (.malformedExpression expr)

end TypeExpr

end TableCompiler
