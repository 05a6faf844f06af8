import TableCompiler.Text.Class
import TableCompiler.Text.Hex

/-!
# The form of a JSON text — what is written, before it is given a value

A `Form` keeps numbers as their digits and texts as their code units, so that a part which nobody
reads may hold a number of any size or a lone surrogate. `Form.parse` is the grammar of JSON and
nothing else; what the numbers and texts are worth is said in `Json.Reader`.
-/

namespace TableCompiler.Json

open TableCompiler.Text

/-- A number as it is written: sign, digits before and after the point, signed exponent. -/
structure NumberForm where
  negative : Bool
  whole : List Char
  fraction : List Char
  exponent : Option (Bool × List Char)
  deriving DecidableEq, Repr

/-- A JSON text as it is written; texts and names are code points, surrogates included. -/
inductive Form where
  | null
  | bool (b : Bool)
  | number (n : NumberForm)
  | text (units : List Nat)
  | list (items : List Form)
  | object (members : List (List Nat × Form))

/-- The blank space of JSON. -/
def isSpace (c : Char) : Bool :=
  c == ' ' || c == '\t' || c == '\r' || c == '\n'

/-- Drops the blank space in front. -/
def skipSpace (cs : List Char) : List Char :=
  cs.dropWhile isSpace

/-- The character that a letter stands for after a backslash. -/
def unescape? (c : Char) : Option Char :=
  if c = '"' then some '"'
  else if c = '\\' then some '\\'
  else if c = '/' then some '/'
  else if c = 'b' then some '\x08'
  else if c = 'f' then some '\x0c'
  else if c = 'n' then some '\n'
  else if c = 'r' then some '\r'
  else if c = 't' then some '\t'
  else none

/-- The code unit that four hexadecimal digits spell. -/
def hexUnit? (a b c d : Char) : Option Nat :=
  match Hex.value? a, Hex.value? b, Hex.value? c, Hex.value? d with
  | some w, some x, some y, some z => some (((w * 16 + x) * 16 + y) * 16 + z)
  | _, _, _, _ => none

/-- Adds a code point in front of a text that has been read. -/
def consUnit (n : Nat) : Option (List Nat × List Char) → Option (List Nat × List Char)
  | some (ns, rest) => some (n :: ns, rest)
  | none => none

/-- The code points up to the closing quote, and the rest. -/
def readText : List Char → Option (List Nat × List Char)
  | [] => none
  | '"' :: rest => some ([], rest)
  | '\\' :: 'u' :: a :: b :: c :: d :: rest =>
    match hexUnit? a b c d with
    | some n => consUnit n (readText rest)
    | none => none
  | '\\' :: e :: rest =>
    match unescape? e with
    | some x => consUnit x.toNat (readText rest)
    | none => none
  | c :: rest =>
    if c = '\\' || c.toNat < 0x20 then none else consUnit c.toNat (readText rest)

/-- The digits before the point: a single zero, or a run that does not start with one. -/
def readWhole? (cs : List Char) : Option (List Char × List Char) :=
  let digits := cs.takeWhile isDigit
  let rest := cs.dropWhile isDigit
  match digits with
  | [] => none
  | '0' :: _ :: _ => none
  | _ => some (digits, rest)

/-- The digits after a point, if there is one; a point needs a digit after it. -/
def readFraction? : List Char → Option (List Char × List Char)
  | '.' :: cs =>
    let digits := cs.takeWhile isDigit
    if digits.isEmpty then none else some (digits, cs.dropWhile isDigit)
  | cs => some ([], cs)

/-- The sign of an exponent: whether it is a minus, and the rest. -/
def exponentSign : List Char → Bool × List Char
  | '-' :: cs => (true, cs)
  | '+' :: cs => (false, cs)
  | cs => (false, cs)

/-- The exponent, if there is one; it needs a digit. -/
def readExponent? : List Char → Option (Option (Bool × List Char) × List Char)
  | [] => some (none, [])
  | c :: cs =>
    if c = 'e' || c = 'E' then
      let signed := exponentSign cs
      let digits := signed.2.takeWhile isDigit
      if digits.isEmpty then none
      else some (some (signed.1, digits), signed.2.dropWhile isDigit)
    else some (none, c :: cs)

/-- An unsigned number. -/
def readUnsigned? (negative : Bool) (cs : List Char) : Option (NumberForm × List Char) :=
  match readWhole? cs with
  | none => none
  | some (whole, cs) =>
    match readFraction? cs with
    | none => none
    | some (fraction, cs) =>
      match readExponent? cs with
      | none => none
      | some (exponent, cs) => some (⟨negative, whole, fraction, exponent⟩, cs)

/-- A number with an optional minus in front. -/
def readNumber? : List Char → Option (NumberForm × List Char)
  | '-' :: cs => readUnsigned? true cs
  | cs => readUnsigned? false cs

/-- A quoted name and the colon after it. -/
def readName? (cs : List Char) : Option (List Nat × List Char) :=
  match skipSpace cs with
  | '"' :: cs =>
    match readText cs with
    | none => none
    | some (name, cs) =>
      match skipSpace cs with
      | ':' :: cs => some (name, cs)
      | _ => none
  | _ => none

mutual

/-- A value after optional blank space; `fuel` bounds the values, items and members read. -/
def readForm : (fuel : Nat) → List Char → Option (Form × List Char)
  | 0, _ => none
  | fuel + 1, cs =>
    match skipSpace cs with
    | 'n' :: 'u' :: 'l' :: 'l' :: cs => some (.null, cs)
    | 't' :: 'r' :: 'u' :: 'e' :: cs => some (.bool true, cs)
    | 'f' :: 'a' :: 'l' :: 's' :: 'e' :: cs => some (.bool false, cs)
    | '"' :: cs => (readText cs).map fun p => (.text p.1, p.2)
    | '[' :: cs =>
      match skipSpace cs with
      | ']' :: cs => some (.list [], cs)
      | cs => (readItems fuel cs).map fun p => (.list p.1, p.2)
    | '\x7b' :: cs =>
      match skipSpace cs with
      | '\x7d' :: cs => some (.object [], cs)
      | cs => (readMembers fuel cs).map fun p => (.object p.1, p.2)
    | cs => (readNumber? cs).map fun p => (.number p.1, p.2)

/-- One or more items up to the closing bracket. -/
def readItems : (fuel : Nat) → List Char → Option (List Form × List Char)
  | 0, _ => none
  | fuel + 1, cs =>
    match readForm fuel cs with
    | none => none
    | some (v, cs) =>
      match skipSpace cs with
      | ']' :: cs => some ([v], cs)
      | ',' :: cs => (readItems fuel cs).map fun p => (v :: p.1, p.2)
      | _ => none

/-- One or more members up to the closing brace. -/
def readMembers : (fuel : Nat) → List Char → Option (List (List Nat × Form) × List Char)
  | 0, _ => none
  | fuel + 1, cs =>
    match readName? cs with
    | none => none
    | some (name, cs) =>
      match readForm fuel cs with
      | none => none
      | some (v, cs) =>
        match skipSpace cs with
        | '\x7d' :: cs => some ([(name, v)], cs)
        | ',' :: cs => (readMembers fuel cs).map fun p => ((name, v) :: p.1, p.2)
        | _ => none

end

/-- The form of a whole text, blank space around it allowed. -/
def Form.parse (s : String) : Option Form :=
  let cs := s.toList
  match readForm (2 * cs.length + 2) cs with
  | some (f, rest) => if (skipSpace rest).isEmpty then some f else none
  | none => none

end TableCompiler.Json
