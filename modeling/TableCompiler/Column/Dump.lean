import TableCompiler.Column.Convert
import TableCompiler.Hash.Block
import TableCompiler.Text.Utf16

/-!
# Dumping values — values to bytes

Integers are written in two's complement at the width of the column, least significant byte first;
texts in the column's encoding; dates and JSON as their text in UTF-8.
-/

namespace TableCompiler

open TableCompiler.Text

/-- The number of an integer value. -/
def Value.asInt? : Value → Option Int
  | .int n => some n.toInt
  | .uint n => some n.toNat
  | _ => none

/-- The bytes of an integer in two's complement, least significant first. -/
def twosComplement (size : Nat) (n : Int) : List UInt8 :=
  Hash.littleBytes size (n % Nat.pow 256 size).toNat

/-- Dumps an integer that must fit an integer width. -/
def dumpInteger (v : Value) (width : StorageWidth) : Except DumpError (List UInt8) :=
  match v.asInt? with
  | none => .error (.valueMismatch "integer" v.kind)
  | some n =>
    match width.intBounds?, width.byteLen? with
    | some (low, high), some size =>
      if low ≤ n && n ≤ high then .ok (twosComplement size n) else .error (.outOfRange n width)
    | _, _ => .error (.outOfRange n width)

/-- The byte of an ASCII character. -/
def asciiByte (c : Char) : UInt8 :=
  UInt8.ofNat c.toNat

/-- Characters in ASCII; `position` is that of the first of them. -/
def encodeAscii (policy : ErrorPolicy) : (position : Nat) → List Char →
    Except DumpError (List UInt8)
  | _, [] => .ok []
  | position, c :: cs =>
    if isAscii c then (encodeAscii policy (position + 1) cs).map (asciiByte c :: ·)
    else
      match policy with
      | .strict => .error (.encoding position)
      | .ignore => encodeAscii policy (position + 1) cs
      | .replace => (encodeAscii policy (position + 1) cs).map (asciiByte '?' :: ·)

/-- A text in an encoding. -/
def encodeText (text : String) (encoding : TextEncoding) (policy : ErrorPolicy) :
    Except DumpError (List UInt8) :=
  match encoding with
  | .utf8 => .ok (Utf8.encode text)
  | .utf16 => .ok (Utf16.encode text)
  | .ascii => encodeAscii policy 0 text.toList

/-- Dumps a value of the column. -/
def ColumnType.dumpValue (t : ColumnType) (v : Value) : Except DumpError (List UInt8) :=
  match t.dump with
  | .int width => dumpInteger v width
  | .real width =>
    match v with
    | .real x => .ok (if width = .f64 then x.toBytes else x.toSingleBytes)
    | _ => .error (.valueMismatch "real" v.kind)
  | .text encoding policy =>
    match v with
    | .text s => encodeText s encoding policy
    | _ => .error (.valueMismatch "text" v.kind)
  | .raw =>
    match v with
    | .bytes bs => .ok bs
    | _ => .error (.valueMismatch "bytes" v.kind)
  | .canonicalText =>
    match v with
    | .date _ | .dateTime _ | .span _ | .text _ => .ok (Utf8.encode v.display)
    | _ => .error (.valueMismatch "date" v.kind)
  | .json =>
    match v with
    | .json j => .ok (Utf8.encode j.display)
    | _ => .error (.valueMismatch "json" v.kind)

end TableCompiler
