import TableCompiler.Text.Repeated

/-!
# Views — structured values under the eyes of a reader who knows what to expect

JSON, RON and TOML write the same things differently, and take different forms for a record. A `View`
says what a value of one notation is if it is looked at as a text, a number or a record; what is read
from values is then said once for all notations.
-/

namespace TableCompiler.Source

open TableCompiler.Text

/-- What values of a notation can be taken for. -/
structure View (α : Type) where
  text? : α → Option String
  integer? : α → Option Int64
  truth? : α → Option Bool
  items? : α → Option (List α)
  /-- Keys and values of a table with any keys, in the order in which they stand. -/
  entries? : α → Option (List (String × α))
  /-- Names and values of a record of that name, which may have these fields. -/
  record? : (name : String) → (fields : List String) → α → Option (List (String × α))
  /-- A bare choice between names. -/
  choice? : α → Option String

namespace View

variable {α β : Type}

/-- A list, each item read alike. -/
def list? (v : View α) (read : α → Option β) (x : α) : Option (List β) :=
  (v.items? x).bind fun items => items.mapM read

/-- A list of lists of texts. -/
def grid? (v : View α) (x : α) : Option (List (List String)) :=
  v.list? (v.list? v.text?) x

/-- A table with any keys, each value read alike. -/
def table? (v : View α) (read : α → Option β) (x : α) : Option (List (String × β)) :=
  (v.entries? x).bind fun entries => entries.mapM fun e => (read e.2).map (e.1, ·)

/-- The fields of a record, none of which is given twice. What is not a field is left out. -/
def fields? (v : View α) (name : String) (fields : List String) (x : α) :
    Option (List (String × α)) :=
  match v.record? name fields x with
  | none => none
  | some members =>
    let known := members.filter fun m => m.1 ∈ fields
    if (firstRepeated? (known.map (·.1))).isSome then none else some known

end View

/-- Names for the items of a list, in order. -/
def nameItems {α : Type} (fields : List String) (items : List α) : List (String × α) :=
  fields.zip items

/-- A field that must be there. -/
def required {α β : Type} (name : String) (read : α → Option β) (members : List (String × α)) :
    Option β :=
  (members.lookup name).bind read

/-- A field that has a value of its own when it is not there. -/
def optional {α β : Type} (name : String) (otherwise : β) (read : α → Option β)
    (members : List (String × α)) : Option β :=
  match members.lookup name with
  | none => some otherwise
  | some x => read x

end TableCompiler.Source
