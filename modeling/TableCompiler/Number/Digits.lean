import TableCompiler.Number.Bounds
import TableCompiler.Text.Class

/-!
# Decimal digits — numbers as text and back
-/

namespace TableCompiler.Number

open TableCompiler.Text

/-- The value of a digit in a radix up to thirty-six, letters of either case counting from ten. -/
def digitValue? (radix : Nat) (c : Char) : Option Nat :=
  let value :=
    if '0' ≤ c && c ≤ '9' then c.toNat - '0'.toNat
    else if 'a' ≤ c && c ≤ 'z' then c.toNat - 'a'.toNat + 10
    else if 'A' ≤ c && c ≤ 'Z' then c.toNat - 'A'.toNat + 10
    else radix
  if value < radix then some value else none

/-- The number that digits spell in a radix; `none` if a character is no digit of it. -/
def ofDigits? (radix : Nat) (cs : List Char) : Option Nat :=
  cs.foldlM (fun n c => (digitValue? radix c).map (n * radix + ·)) 0

/-- The value of an ASCII digit. -/
def decimalValue (c : Char) : Nat :=
  c.toNat - '0'.toNat

/-- The number that a run of decimal digits spells. -/
def ofDecimalDigits (cs : List Char) : Nat :=
  cs.foldl (fun n c => n * 10 + decimalValue c) 0

/-- The decimal digits of a number. -/
def decimalDigits (n : Nat) : List Char :=
  Nat.toDigits 10 n

/-- How many decimal digits a number has. -/
def decimalLength (n : Nat) : Nat :=
  (decimalDigits n).length

/-- The run of digits at the start, and what follows it. -/
def spanDigits (cs : List Char) : List Char × List Char :=
  (cs.takeWhile isDigit, cs.dropWhile isDigit)

/-- Decimal digits, with zeros in front up to a least width. -/
def zeroPadded (width n : Nat) : List Char :=
  List.replicate (width - decimalLength n) '0' ++ decimalDigits n

end TableCompiler.Number
