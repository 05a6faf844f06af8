import TableCompiler.Json.Reader
import TableCompiler.Source.View

/-!
# Looking at JSON forms

A record is an object with its fields, or a list of their values in order, from which fields at the
end may be missing. A choice is a text, or an object whose only member is null.
-/

namespace TableCompiler.Json

open TableCompiler.Number TableCompiler.Source

namespace Form

/-- A text. -/
def asText? : Form → Option String
  | .text units => textOf? units
  | _ => none

/-- An integer of 64 bits. -/
def asInteger? : Form → Option Int64
  | .number n =>
    match intOf? n with
    | some i => if leastSigned ≤ i && i ≤ largestSigned then some (Int64.ofInt i) else none
    | none => none
  | _ => none

/-- A truth value. -/
def asTruth? : Form → Option Bool
  | .bool b => some b
  | _ => none

/-- The items of a list. -/
def asItems? : Form → Option (List Form)
  | .list items => some items
  | _ => none

/-- The members of an object. -/
def asEntries? : Form → Option (List (String × Form))
  | .object members => members.mapM fun m => (textOf? m.1).map (·, m.2)
  | _ => none

/-- The fields of a record. -/
def asRecord? (fields : List String) : Form → Option (List (String × Form))
  | .list items => if items.length ≤ fields.length then some (nameItems fields items) else none
  | f => f.asEntries?

/-- A bare choice. -/
def asChoice? : Form → Option String
  | .text units => textOf? units
  | .object [(name, .null)] => textOf? name
  | _ => none

end Form

/-- How JSON is looked at. -/
def view : View Form where
  text? := Form.asText?
  integer? := Form.asInteger?
  truth? := Form.asTruth?
  items? := Form.asItems?
  entries? := Form.asEntries?
  record? _ fields := Form.asRecord? fields
  choice? := Form.asChoice?

end TableCompiler.Json
