import TableCompiler.Json.Value
import TableCompiler.Ron.Form

/-!
# Reading RON — the JSON value of a form

Maps with text keys become objects, lists and tuples lists, an option its value or null. What has no
counterpart becomes null: units, bare names, infinities and NaN. Only the first label of a record can
be taken for the name of a member, so that a record of one field becomes an object, and one of several
has no JSON value.
-/

namespace TableCompiler.Ron

open TableCompiler.Number

/-- The JSON value of a number. -/
def Number.toJson : Number → Json
  | .integer n => .int n
  | .real x => if x.isFinite then .real x else .null

/-- The name that a map key gives to a member. -/
def Form.memberName? : Form → Option String
  | .text s => some s
  | _ => none

/-- The name that the label of a field gives to a member. -/
def Form.labelName? : Form → Option String
  | .label _ name => some name
  | _ => none

mutual

/-- The JSON value of a form; `none` if a map has a key that is no text, or a record several
fields. -/
def Form.toJson? : Form → Option Json
  | .unit => some .null
  | .bool b => some (.bool b)
  | .number n => some n.toJson
  | .text s => some (.text s)
  | .char c => some (.text (String.ofList [c]))
  | .absent => some .null
  | .present v => v.toJson?
  | .word _ => some .null
  | .label _ _ => none
  | .list items => (itemsToJson? items).map .list
  | .tuple items => (itemsToJson? items).map .list
  | .record _ [(label, f)] =>
    match label.labelName?, f.toJson? with
    | some name, some v => some (.object [(name, v)])
    | _, _ => none
  | .record _ _ => none
  | .map entries => (entriesToJson? entries).map Json.ofMembers

/-- The JSON values of items. -/
def itemsToJson? : List Form → Option (List Json)
  | [] => some []
  | f :: rest =>
    match f.toJson?, itemsToJson? rest with
    | some v, some vs => some (v :: vs)
    | _, _ => none

/-- The members that map entries give. -/
def entriesToJson? : List (Form × Form) → Option (List (String × Json))
  | [] => some []
  | (k, f) :: rest =>
    match k.memberName?, f.toJson?, entriesToJson? rest with
    | some name, some v, some ms => some ((name, v) :: ms)
    | _, _, _ => none

end

/-- The JSON value of a RON text. -/
def read (s : String) : Option Json :=
  (Form.parse s).bind Form.toJson?

end TableCompiler.Ron
