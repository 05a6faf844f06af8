/-!
# Writing CSV — quotes only where they are needed

A field is quoted if it holds a comma, a quote or a line end. A record that would be an empty line is
written as two quotes, since an empty line is no record. Each record ends with a line feed.
-/

namespace TableCompiler.Csv

/-- Whether a field must be quoted. -/
def needsQuotes (cs : List Char) : Bool :=
  cs.any fun c => c == ',' || c == '"' || c == '\r' || c == '\n'

/-- One character as it stands between quotes. -/
def doubleQuote (c : Char) : List Char :=
  if c = '"' then ['"', '"'] else [c]

/-- A field, in quotes if need be. -/
def writeField (s : String) : List Char :=
  if needsQuotes s.toList then ['"'] ++ s.toList.flatMap doubleQuote ++ ['"'] else s.toList

/-- The fields of a record with commas between them. -/
def writeFields : List String → List Char
  | [] => []
  | [s] => writeField s
  | s :: t :: rest => writeField s ++ [','] ++ writeFields (t :: rest)

/-- A record and its line feed. -/
def writeRecord (record : List String) : List Char :=
  let line := writeFields record
  (if line.isEmpty then ['"', '"'] else line) ++ ['\n']

/-- The text of records. -/
def write (records : List (List String)) : String :=
  String.ofList (records.flatMap writeRecord)

end TableCompiler.Csv
