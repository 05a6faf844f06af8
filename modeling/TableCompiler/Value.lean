import TableCompiler.Calendar.Date
import TableCompiler.Json.Value

/-!
# Values — typed cells

A cell of a converted table holds one `Value`. Which kind it is, its column decides; every kind has
a text.
-/

namespace TableCompiler

open TableCompiler.Number TableCompiler.Calendar TableCompiler.Text

/-- A typed cell. -/
inductive Value where
  | int (n : Int64)
  | uint (n : UInt64)
  | real (x : Double)
  | text (s : String)
  /-- The bytes of a digest. -/
  | bytes (bs : List UInt8)
  | date (d : Date)
  | dateTime (dt : DateTime)
  /-- A number of seconds. -/
  | span (seconds : Int)
  | json (v : Json)

namespace Value

/-- The name of the kind. -/
def kind : Value → String
  | .int _ => "int"
  | .uint _ => "uint"
  | .real _ => "real"
  | .text _ => "text"
  | .bytes _ => "bytes"
  | .date _ => "date"
  | .dateTime _ => "datetime"
  | .span _ => "span"
  | .json _ => "json"

/-- The text, if it is one. -/
def asText? : Value → Option String
  | .text s => some s
  | _ => none

/-- The unsigned number, if it is one. -/
def asUInt? : Value → Option UInt64
  | .uint n => some n
  | _ => none

/-- The text that stands for a value. -/
def display : Value → String
  | .int n => toString n.toInt
  | .uint n => toString n.toNat
  | .real x => x.display
  | .text s => s
  | .bytes bs => Hex.ofBytes bs
  | .date d => String.ofList d.text
  | .dateTime dt => String.ofList dt.text
  | .span seconds => String.ofList (spanText seconds)
  | .json v => v.display

end Value

end TableCompiler
