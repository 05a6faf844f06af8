import TableCompiler.Text.Class
import TableCompiler.Text.Hex

/-!
# Quoted names — an identifier between quotes, readable character by character

A character that cannot be shown alone, because it joins or extends its neighbour, is written as
its code point: `\u` and the hexadecimal number in braces.
-/

namespace TableCompiler.Text.Quoted

/-- Whether an identifier character joins or extends the one before it. -/
def isJoining (c : Char) : Bool :=
  0x300 ≤ c.toNat && inRanges joiningRanges c.toNat

/-- The code point in braces after a backslash and the letter u. -/
def escape (c : Char) : List Char :=
  ['\\', 'u', '\x7b'] ++ Nat.toDigits 16 c.toNat ++ ['\x7d']

/-- One character as it stands between the quotes. -/
def quoteChar (c : Char) : List Char :=
  if isJoining c then escape c else [c]

/-- An identifier between double quotes. -/
def quote (s : String) : String :=
  String.ofList (['"'] ++ s.toList.flatMap quoteChar ++ ['"'])

end TableCompiler.Text.Quoted
