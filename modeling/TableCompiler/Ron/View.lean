import TableCompiler.Ron.Reader
import TableCompiler.Source.View

/-!
# Looking at RON forms

A record stands in parentheses, with or without its own name in front; no other form is taken for one.
Its fields are labelled. What is under the label of no field is passed over, and read as any value for
that: there the unmarked word `Some` is an option, and cannot be a label.
A choice is a bare name.
-/

namespace TableCompiler.Ron

open TableCompiler.Number TableCompiler.Source

namespace Form

/-- A text; a character is none. -/
def asText? : Form → Option String
  | .text s => some s
  | _ => none

/-- An integer of 64 bits. -/
def asInteger? : Form → Option Int64
  | .number (.integer n) => if leastSigned ≤ n && n ≤ largestSigned then some (Int64.ofInt n) else none
  | _ => none

/-- A truth value. -/
def asTruth? : Form → Option Bool
  | .bool b => some b
  | _ => none

/-- The items of a list; a tuple is none. -/
def asItems? : Form → Option (List Form)
  | .list items => some items
  | _ => none

/-- The entries of a map with text keys. -/
def asEntries? : Form → Option (List (String × Form))
  | .map entries => entries.mapM fun e => e.1.asText?.map (·, e.2)
  | _ => none

mutual

/-- Whether a form can be passed over: no label of a record in it begins an option. -/
def isSkippable : Form → Bool
  | .present v => v.isSkippable
  | .label marked name => marked || name ≠ "Some"
  | .list items => areSkippable items
  | .tuple items => areSkippable items
  | .record _ fields => pairsAreSkippable fields
  | .map entries => pairsAreSkippable entries
  | _ => true

/-- Whether all forms can be passed over. -/
def areSkippable : List Form → Bool
  | [] => true
  | f :: rest => f.isSkippable && areSkippable rest

/-- Whether labels or keys and what they stand for can be passed over. -/
def pairsAreSkippable : List (Form × Form) → Bool
  | [] => true
  | (k, f) :: rest => k.isSkippable && f.isSkippable && pairsAreSkippable rest

end

/-- A labelled field, which must be one of these unless it can be passed over. -/
def asField? (fields : List String) (label value : Form) : Option (String × Form) :=
  match label.labelName? with
  | none => none
  | some name => if name ∈ fields || value.isSkippable then some (name, value) else none

/-- The fields of a record of that name, or without a name. -/
def asRecord? (name : String) (fields : List String) : Form → Option (List (String × Form))
  | .record name? members =>
    if name?.all (· = name) then members.mapM fun m => asField? fields m.1 m.2 else none
  | _ => none

/-- A bare choice. -/
def asChoice? : Form → Option String
  | .word name => some name
  | _ => none

end Form

/-- How RON is looked at. -/
def view : View Form where
  text? := Form.asText?
  integer? := Form.asInteger?
  truth? := Form.asTruth?
  items? := Form.asItems?
  entries? := Form.asEntries?
  record? := Form.asRecord?
  choice? := Form.asChoice?

end TableCompiler.Ron
