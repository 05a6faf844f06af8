/-!
# Reading CSV — commas, quotes and line ends

A field that starts with a quote goes on to its closing quote, a quote inside it being written twice;
anywhere else a quote is a character like others. A carriage return or a line feed ends a record, and
empty lines are no records. A byte-order mark in front is dropped.
-/

namespace TableCompiler.Csv

/-- Where the reader stands. -/
inductive Place where
  /-- Before a record. -/
  | recordStart
  /-- Before a field that is not the first. -/
  | fieldStart
  /-- Inside a field. -/
  | inField
  /-- Inside the quotes of a field. -/
  | inQuotes
  /-- Behind a quote that closes the quotes, or is the first half of a doubled one. -/
  | afterQuote
  deriving DecidableEq, Repr

/-- What has been read: the characters of the field, the fields of the record, the records. -/
structure Progress where
  place : Place
  field : List Char
  record : List String
  records : List (List String)
  deriving DecidableEq, Repr

namespace Progress

/-- Before the first record. -/
def start : Progress := ⟨.recordStart, [], [], []⟩

/-- Adds a character to the field. -/
def push (p : Progress) (place : Place) (c : Char) : Progress :=
  { p with place := place, field := p.field ++ [c] }

/-- Ends the field; the record goes on. -/
def endField (p : Progress) : Progress :=
  { p with place := .fieldStart, field := [], record := p.record ++ [String.ofList p.field] }

/-- Ends the field and its record. -/
def endRecord (p : Progress) : Progress :=
  ⟨.recordStart, [], [], p.records ++ [p.record ++ [String.ofList p.field]]⟩

/-- A character that ends a record. -/
def isLineEnd (c : Char) : Bool :=
  c == '\r' || c == '\n'

/-- Reads a character of a field that is not in quotes. -/
def stepPlain (p : Progress) (c : Char) : Progress :=
  if c = ',' then p.endField
  else if isLineEnd c then p.endRecord
  else p.push .inField c

/-- Reads a character before a field. -/
def stepFieldStart (p : Progress) (c : Char) : Progress :=
  if c = '"' then { p with place := .inQuotes } else p.stepPlain c

/-- Reads one character. -/
def step (p : Progress) (c : Char) : Progress :=
  match p.place with
  | .recordStart => if isLineEnd c then p else p.stepFieldStart c
  | .fieldStart => p.stepFieldStart c
  | .inField => p.stepPlain c
  | .inQuotes => if c = '"' then { p with place := .afterQuote } else p.push .inQuotes c
  | .afterQuote => if c = '"' then p.push .inQuotes c else p.stepPlain c

/-- The records when the text ends; a record that has begun ends with it. -/
def finish (p : Progress) : List (List String) :=
  match p.place with
  | .recordStart => p.records
  | _ => p.endRecord.records

end Progress

/-- Drops a byte-order mark. -/
def dropMark : List Char → List Char
  | '\uFEFF' :: cs => cs
  | cs => cs

/-- The records of a text. A second byte-order mark behind the first is dropped as well. -/
def parse (text : String) : List (List String) :=
  ((dropMark (dropMark text.toList)).foldl Progress.step .start).finish

end TableCompiler.Csv
