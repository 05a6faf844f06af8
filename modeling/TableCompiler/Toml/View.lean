import TableCompiler.Source.View
import TableCompiler.Toml.Tree

/-!
# Looking at TOML values

A record is a table with its fields, or a list of their values in order; of a list that is too long
the first items are taken. A choice is a text, or a table whose only value is an empty table or list.
-/

namespace TableCompiler.Toml

open TableCompiler.Source

namespace Node

/-- A text. -/
def asText? : Node → Option String
  | .text s => some s
  | _ => none

/-- An integer of 64 bits. -/
def asInteger? : Node → Option Int64
  | .integer n => some (Int64.ofInt n)
  | _ => none

/-- A truth value. -/
def asTruth? : Node → Option Bool
  | .bool b => some b
  | _ => none

/-- The items of a list, or the tables under a repeated header. -/
def asItems? : Node → Option (List Node)
  | .list items => some items
  | .tables elements => some (elements.map (.table .header))
  | _ => none

/-- The keys and values of a table. -/
def asEntries? : Node → Option (List (String × Node))
  | .table _ members => some members
  | _ => none

/-- The fields of a record. -/
def asRecord? (fields : List String) (v : Node) : Option (List (String × Node)) :=
  match v.asEntries? with
  | some members => some members
  | none => v.asItems?.map (nameItems fields)

/-- Whether a container has nothing in it. -/
def isEmpty : Node → Bool
  | .table _ members => members.isEmpty
  | .list items => items.isEmpty
  | .tables elements => elements.isEmpty
  | _ => false

/-- A bare choice. -/
def asChoice? : Node → Option String
  | .text s => some s
  | .table _ [(key, v)] => if v.isEmpty then some key else none
  | _ => none

end Node

/-- How TOML is looked at. -/
def view : View Node where
  text? := Node.asText?
  integer? := Node.asInteger?
  truth? := Node.asTruth?
  items? := Node.asItems?
  entries? := Node.asEntries?
  record? _ fields := Node.asRecord? fields
  choice? := Node.asChoice?

end TableCompiler.Toml
