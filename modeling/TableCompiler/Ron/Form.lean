import TableCompiler.Ron.Token

/-!
# The form of a RON text — what is written, before it is given a value

A `Form` keeps apart what RON writes differently: lists and tuples, maps and records, texts and
characters. A reader who expects one of them does not take the other.

Attributes in front of a text enable extensions. One of them lets an option do without parentheses
around its value; a form does not show whether they were there.
-/

namespace TableCompiler.Ron

open TableCompiler.Number TableCompiler.Text

/-- A RON text as it is written. -/
inductive Form where
  /-- Empty parentheses. -/
  | unit
  | bool (b : Bool)
  | number (n : Number)
  | text (s : String)
  | char (c : Char)
  /-- The word `None`. -/
  | absent
  /-- A value behind the word `Some`. -/
  | present (value : Form)
  /-- A name that nothing follows. -/
  | word (name : String)
  /-- A name that a colon follows; only fields of records have one. -/
  | label (marked : Bool) (name : String)
  | list (items : List Form)
  | tuple (items : List Form)
  /-- A group whose first field has a label. Behind it other forms may stand in place of labels. -/
  | record (name? : Option String) (fields : List (Form × Form))
  | map (entries : List (Form × Form))

/-- Containers, options and their parts may be nested this deep. -/
def deepestNesting : Nat := 128

/-- A comma behind a part, if there is one, and the gaps around it. -/
def readComma? (cs : List Char) : Option (Bool × List Char) :=
  match skip cs with
  | some (',' :: cs) => (skip cs).map (true, ·)
  | some cs => some (false, cs)
  | none => none

/-- What stands after the closing mark, if it is next; otherwise a comma must have been read. -/
def atClose? (close : Char) (comma : Bool) : List Char → Option (Option (List Char))
  | [] => none
  | c :: cs => if c = close then some (some cs) else if comma then some none else none

/-- A label, if one stands here; its colon is left. -/
def labelAt? (cs : List Char) : Option (Form × List Char) :=
  match readName? cs with
  | none => none
  | some (marked, name, cs) =>
    match skip cs with
    | some (':' :: cs) => some (.label marked name, ':' :: cs)
    | _ => none

section

-- whether options do without parentheses
variable (bareOptions : Bool)

mutual

/-- A value; `room` counts the levels left, `fuel` bounds the values and parts read. -/
def readForm : (fuel room : Nat) → List Char → Option (Form × List Char)
  | 0, _, _ => none
  | fuel + 1, room, cs =>
    match readKeyword? cs, readName? cs with
    | some (name, rest), _ =>
      if name = "true" then some (.bool true, rest)
      else if name = "false" then some (.bool false, rest)
      else if name = "None" then some (.absent, rest)
      else if name = "inf" then some (.number (.real (.infinity false)), rest)
      else if name = "NaN" then some (.number (.real (.nan false)), rest)
      else readPresent fuel room rest
    | none, some (_, name, rest) => readNamed fuel room name rest
    | none, none =>
      match cs with
      | '(' :: ')' :: cs => some (.unit, cs)
      | '(' :: cs => readGroup fuel room none cs
      | '[' :: cs =>
        match room with
        | 0 => none
        | room + 1 => (readItems fuel room ']' true cs).map fun p => (.list p.1, p.2)
      | '\x7b' :: cs =>
        match room with
        | 0 => none
        | room + 1 => (readEntries fuel room true cs).map fun p => (.map p.1, p.2)
      | '"' :: cs => (readText (cs.length + 1) cs).map fun p => (.text (String.ofList p.1), p.2)
      | 'r' :: cs => (readRawText? cs).map fun p => (.text (String.ofList p.1), p.2)
      | '\'' :: cs => (readChar? cs).map fun p => (.char p.1, p.2)
      | cs => (readNumber? cs).map fun p => (.number p.1, p.2)

/-- What stands behind a name: a group, or nothing. -/
def readNamed : (fuel room : Nat) → (name : String) → List Char → Option (Form × List Char)
  | 0, _, _, _ => none
  | fuel + 1, room, name, cs =>
    match skip cs with
    | none => none
    | some ('(' :: cs) => readGroup fuel room (some name) cs
    | some cs => some (.word name, cs)

/-- The value of an option behind its word. If options need no parentheses, one that has none is
read as if they stood around the next value. -/
def readPresent : (fuel room : Nat) → List Char → Option (Form × List Char)
  | 0, _, _ => none
  | _ + 1, 0, _ => none
  | fuel + 1, room + 1, cs =>
    match skip cs with
    | some ('(' :: cs) =>
      match (skip cs).bind (readForm fuel room) with
      | none => none
      | some (v, cs) =>
        match readComma? cs with
        | some (_, ')' :: cs) => some (.present v, cs)
        | _ => none
    | some cs =>
      if bareOptions then (readForm fuel room cs).map fun p => (.present p.1, p.2) else none
    | none => none

/-- The parts of a record or tuple behind its parenthesis. -/
def readGroup : (fuel room : Nat) → (name? : Option String) → List Char →
    Option (Form × List Char)
  | 0, _, _, _ => none
  | _ + 1, 0, _, _ => none
  | fuel + 1, room + 1, name?, cs =>
    match skip cs with
    | none => none
    | some cs =>
      if (labelAt? cs).isSome then
        (readFields fuel room true cs).map fun p => (.record name? p.1, p.2)
      else (readItems fuel room ')' true cs).map fun p => (.tuple p.1, p.2)

/-- Items up to the closing mark; `comma` tells whether another item may follow. -/
def readItems : (fuel room : Nat) → (close : Char) → (comma : Bool) → List Char →
    Option (List Form × List Char)
  | 0, _, _, _, _ => none
  | fuel + 1, room, close, comma, cs =>
    match skip cs with
    | none => none
    | some cs =>
      match atClose? close comma cs with
      | none => none
      | some (some cs) => some ([], cs)
      | some none =>
        match room with
        | 0 => none
        | inner + 1 =>
          match readForm fuel inner cs with
          | none => none
          | some (v, cs) =>
            match readComma? cs with
            | none => none
            | some (comma, cs) =>
              (readItems fuel room close comma cs).map fun p => (v :: p.1, p.2)

/-- What stands in front of the colon of a field: a label, or else any value. -/
def readLabel : (fuel room : Nat) → List Char → Option (Form × List Char)
  | 0, _, _ => none
  | fuel + 1, room, cs =>
    match labelAt? cs with
    | some p => some p
    | none => readForm fuel room cs

/-- Fields up to the closing parenthesis. -/
def readFields : (fuel room : Nat) → (comma : Bool) → List Char →
    Option (List (Form × Form) × List Char)
  | 0, _, _, _ => none
  | fuel + 1, room, comma, cs =>
    match skip cs with
    | none => none
    | some cs =>
      match atClose? ')' comma cs with
      | none => none
      | some (some cs) => some ([], cs)
      | some none =>
        match room with
        | 0 => none
        | inner + 1 =>
          match readLabel fuel inner cs with
          | none => none
          | some (label, cs) =>
            match skip cs with
            | some (':' :: cs) =>
              match (skip cs).bind (readForm fuel inner) with
              | none => none
              | some (v, cs) =>
                match readComma? cs with
                | none => none
                | some (comma, cs) =>
                  (readFields fuel room comma cs).map fun p => ((label, v) :: p.1, p.2)
            | _ => none

/-- Keys and values up to the closing brace. -/
def readEntries : (fuel room : Nat) → (comma : Bool) → List Char →
    Option (List (Form × Form) × List Char)
  | 0, _, _, _ => none
  | fuel + 1, room, comma, cs =>
    match skip cs with
    | none => none
    | some cs =>
      match atClose? '\x7d' comma cs with
      | none => none
      | some (some cs) => some ([], cs)
      | some none =>
        match room with
        | 0 => none
        | inner + 1 =>
          match readForm fuel inner cs with
          | none => none
          | some (k, cs) =>
            match skip cs with
            | some (':' :: cs) =>
              match (skip cs).bind (readForm fuel inner) with
              | none => none
              | some (v, cs) =>
                match readComma? cs with
                | none => none
                | some (comma, cs) =>
                  (readEntries fuel room comma cs).map fun p => ((k, v) :: p.1, p.2)
            | _ => none

end

end

/-! ## Extension attributes -/

/-- Drops marks that must stand in this order, and the gap behind each. -/
def skipMarks : List String → List Char → Option (List Char)
  | [], cs => some cs
  | mark :: marks, cs =>
    if mark.toList.isPrefixOf cs then (skip (cs.drop mark.length)).bind (skipMarks marks)
    else none

/-- The extension that lets options do without parentheses. -/
def bareOptionsName : String := "implicit_some"

/-- The extensions of RON. The others change how wrapped values are written, which no reader here asks
for. -/
def extensions : List String :=
  ["unwrap_newtypes", bareOptionsName, "unwrap_variant_newtypes"]

/-- Whether a name may go on here. -/
def startsWithWord (cs : List Char) : Bool :=
  cs.head?.any isAsciiWord

/-- The names of extensions, and the rest. -/
def readExtensions : (fuel : Nat) → List Char → Option (List String × List Char)
  | 0, _ => none
  | fuel + 1, cs =>
    match readName? cs with
    | none => none
    | some (_, name, cs) =>
      if name ∈ extensions then
        match readComma? cs with
        | none => none
        | some (true, cs) =>
          if startsWithWord cs then (readExtensions fuel cs).map fun p => (name :: p.1, p.2)
          else some ([name], cs)
        | some (false, cs) => if startsWithWord cs then none else some ([name], cs)
      else none

/-- The extensions that the attributes in front of a text enable, and the text behind them. -/
def readAttributes : (fuel : Nat) → List Char → Option (List String × List Char)
  | 0, _ => none
  | fuel + 1, '#' :: cs =>
    match (skipMarks ["#", "!", "[", "enable", "("] ('#' :: cs)).bind
        (readExtensions (cs.length + 1)) with
    | none => none
    | some (names, rest) =>
      ((skipMarks [")", "]"] rest).bind (readAttributes fuel)).map
        fun p => (names ++ p.1, p.2)
  | _ + 1, cs => some ([], cs)

/-- The form of a whole text, gaps around it allowed. -/
def Form.parse (s : String) : Option Form :=
  let cs := s.toList
  match (skip cs).bind (readAttributes (cs.length + 1)) with
  | none => none
  | some (enabled, body) =>
    match readForm (enabled.contains bareOptionsName) (4 * cs.length + 4) deepestNesting body with
    | none => none
    | some (f, rest) => if skip rest = some [] then some f else none

end TableCompiler.Ron
