import TableCompiler.Number.RealText
import TableCompiler.Text.Hex
import TableCompiler.Text.Ordered

/-!
# JSON values — and their compact text

A value holds integers of 64 bits apart from real numbers. The members of an object stand in
ascending order of their names, each name once; `Json.ofMembers` makes it so. The text has no blank
space, and escapes only what must be escaped.
-/

namespace TableCompiler

open TableCompiler.Number TableCompiler.Text

/-- A JSON value. -/
inductive Json where
  | null
  | bool (b : Bool)
  | int (n : Int)
  | real (x : Double)
  | text (s : String)
  | list (items : List Json)
  | object (members : List (String × Json))

namespace Json

/-- The object that has the last value given for each name. -/
def ofMembers (members : List (String × Json)) : Json :=
  .object (ordered members)

/-- An exponent, always with a sign. -/
def exponentText (e : Int) : List Char :=
  (if e < 0 then ['-'] else ['+']) ++ decimalDigits e.natAbs

/-- The text of a finite real number: shortest digits, halfway cases to the even digit, with `.0` on
whole numbers, and with an exponent when the decimal exponent is below -5 or at least 16. -/
def realText (x : Double) : List Char :=
  if x.isZero then x.sign ++ ['0', '.', '0']
  else
    let d := x.digits .even
    let e := d.2 - 1
    x.sign ++
      if -5 ≤ e && e < 16 then
        positional d.1 d.2 ++ if d.1.length ≤ d.2.toNat then ['.', '0'] else []
      else
        d.1.take 1 ++ (if d.1.length = 1 then [] else '.' :: d.1.drop 1) ++ ['e']
          ++ exponentText e

/-- The letter that stands for a character after a backslash. -/
def shortEscape? (c : Char) : Option Char :=
  if c = '"' then some '"'
  else if c = '\\' then some '\\'
  else if c = '\x08' then some 'b'
  else if c = '\x0c' then some 'f'
  else if c = '\n' then some 'n'
  else if c = '\r' then some 'r'
  else if c = '\t' then some 't'
  else none

/-- One character as it stands between the quotes. -/
def escapeChar (c : Char) : List Char :=
  match shortEscape? c with
  | some e => ['\\', e]
  | none => if c.toNat < 0x20 then ['\\', 'u'] ++ Hex.padded 4 c.toNat else [c]

/-- A text between quotes. -/
def quote (s : String) : List Char :=
  ['"'] ++ s.toList.flatMap escapeChar ++ ['"']

/-- The text of an integer. -/
def intText (n : Int) : List Char :=
  if n < 0 then '-' :: decimalDigits n.natAbs else decimalDigits n.natAbs

mutual

/-- The compact text of a value. -/
def render : Json → List Char
  | .null => "null".toList
  | .bool true => "true".toList
  | .bool false => "false".toList
  | .int n => intText n
  | .real x => realText x
  | .text s => quote s
  | .list items => ['['] ++ renderItems items ++ [']']
  | .object members => ['\x7b'] ++ renderMembers members ++ ['\x7d']

/-- The items with commas between them. -/
def renderItems : List Json → List Char
  | [] => []
  | [v] => render v
  | v :: w :: rest => render v ++ [','] ++ renderItems (w :: rest)

/-- The members with commas between them. -/
def renderMembers : List (String × Json) → List Char
  | [] => []
  | [(k, v)] => quote k ++ [':'] ++ render v
  | (k, v) :: m :: rest => quote k ++ [':'] ++ render v ++ [','] ++ renderMembers (m :: rest)

end

/-- The compact text of a value. -/
def display (v : Json) : String :=
  String.ofList v.render

end Json

end TableCompiler
