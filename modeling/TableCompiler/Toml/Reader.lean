import TableCompiler.Json.Value
import TableCompiler.Toml.Token
import TableCompiler.Toml.Tree

/-!
# Reading TOML — a document and its JSON value

A document is a list of statements, one to a line. Tables become objects, and a moment an object that
holds its text under a key of its own. Infinities and NaN become null.
-/

namespace TableCompiler.Toml

open TableCompiler.Number

/-- The value of a number. -/
def Number.toNode : Number → Node
  | .integer n => .integer n
  | .real x => .real x

/-- A value that is neither text nor container. -/
def readScalar? : List Char → Option (Node × List Char)
  | 't' :: 'r' :: 'u' :: 'e' :: cs => some (.bool true, cs)
  | 'f' :: 'a' :: 'l' :: 's' :: 'e' :: cs => some (.bool false, cs)
  | cs =>
    if startsMoment cs then (readMoment? cs).map fun p => (.moment p.1, p.2)
    else (readNumber? cs).map fun p => (p.1.toNode, p.2)

mutual

/-- A value; `room` counts the levels left, `fuel` bounds the values and parts read. -/
def readValue : (fuel room : Nat) → List Char → Option (Node × List Char)
  | 0, _, _ => none
  | fuel + 1, room, cs =>
    match cs with
    | '"' :: _ => (readText? cs).map fun p => (.text (String.ofList p.1), p.2)
    | '\'' :: _ => (readText? cs).map fun p => (.text (String.ofList p.1), p.2)
    | '[' :: cs =>
      match room with
      | 0 => none
      | room + 1 => (readItems fuel room cs).map fun p => (.list p.1, p.2)
    | '\x7b' :: cs =>
      match room with
      | 0 => none
      | room + 1 =>
        match skipBlank cs with
        | '\x7d' :: cs => some (.table .braces [], cs)
        | cs =>
          match readPairs fuel room cs with
          | none => none
          | some (pairs, cs) => (braces pairs).map (·, cs)
    | cs => readScalar? cs

/-- Items up to the closing bracket; a comma may follow the last. -/
def readItems : (fuel room : Nat) → List Char → Option (List Node × List Char)
  | 0, _, _ => none
  | fuel + 1, room, cs =>
    match skipGap false cs with
    | none => none
    | some (']' :: cs) => some ([], cs)
    | some cs =>
      match readValue fuel room cs with
      | none => none
      | some (v, cs) =>
        match skipGap false cs with
        | some (',' :: cs) => (readItems fuel room cs).map fun p => (v :: p.1, p.2)
        | some (']' :: cs) => some ([v], cs)
        | _ => none

/-- One or more keys and values up to the closing brace, on one line. -/
def readPairs : (fuel room : Nat) → List Char → Option (List (List String × Node) × List Char)
  | 0, _, _ => none
  | fuel + 1, room, cs =>
    match readPath? cs with
    | some (path, '=' :: cs) =>
      match readValue fuel room (skipBlank cs) with
      | none => none
      | some (v, cs) =>
        match skipBlank cs with
        | ',' :: cs => (readPairs fuel room cs).map fun p => ((path, v) :: p.1, p.2)
        | '\x7d' :: cs => some ([(path, v)], cs)
        | _ => none
    | _ => none

end

/-- A key and a value. -/
def readAssignment? (cs : List Char) : Option (Statement × List Char) :=
  match readPath? cs with
  | some (path, '=' :: cs) =>
    (readValue (4 * cs.length + 4) (nestingLimit - 1) (skipBlank cs)).map
      fun p => (.assign path p.1, p.2)
  | _ => none

/-- A header behind its brackets. -/
def readHeader? : List Char → Option (Statement × List Char)
  | '[' :: cs =>
    match readPath? cs with
    | some (path, ']' :: ']' :: cs) => some (.element path, cs)
    | _ => none
  | cs =>
    match readPath? cs with
    | some (path, ']' :: cs) => some (.header path, cs)
    | _ => none

/-- The statement that begins here, or none on a line without one. -/
def readStatement? : List Char → Option (Option Statement × List Char)
  | [] => some (none, [])
  | c :: cs =>
    if c = '#' || c = '\n' || c = '\r' then some (none, c :: cs)
    else if c = '[' then (readHeader? cs).map fun p => (some p.1, p.2)
    else (readAssignment? (c :: cs)).map fun p => (some p.1, p.2)

/-- The statements of a document; `fuel` bounds its lines. -/
def readStatements : (fuel : Nat) → List Char → Option (List Statement)
  | 0, _ => none
  | _ + 1, [] => some []
  | fuel + 1, cs =>
    match readStatement? (skipBlank cs) with
    | none => none
    | some (statement?, cs) =>
      match finishLine? cs with
      | none => none
      | some cs => (readStatements fuel cs).map (statement?.toList ++ ·)

/-- Drops a byte-order mark. -/
def dropMark : List Char → List Char
  | '\uFEFF' :: cs => cs
  | cs => cs

/-- The table that a document is. -/
def parse (s : String) : Option Node :=
  let cs := dropMark s.toList
  ((readStatements (cs.length + 1) cs).bind build).map (.table .header)

/-! ## JSON values -/

/-- The key under which an object holds the text of a moment. -/
def momentKey : String := "$__toml_private_datetime"

mutual

/-- The JSON value of a TOML value. -/
def Node.toJson : Node → Json
  | .text s => .text s
  | .integer n => .int n
  | .real x => if x.isFinite then .real x else .null
  | .bool b => .bool b
  | .moment m => .object [(momentKey, .text (String.ofList m.text))]
  | .list items => .list (itemsToJson items)
  | .table _ members => Json.ofMembers (membersToJson members)
  | .tables elements => .list (elementsToJson elements)

/-- The JSON values of items. -/
def itemsToJson : List Node → List Json
  | [] => []
  | v :: rest => v.toJson :: itemsToJson rest

/-- The members that keys and values give. -/
def membersToJson : Members → List (String × Json)
  | [] => []
  | (key, v) :: rest => (key, v.toJson) :: membersToJson rest

/-- The objects that tables give. -/
def elementsToJson : List Members → List Json
  | [] => []
  | members :: rest => Json.ofMembers (membersToJson members) :: elementsToJson rest

end

/-- The JSON value of a TOML document. -/
def read (s : String) : Option Json :=
  (parse s).map Node.toJson

end TableCompiler.Toml
