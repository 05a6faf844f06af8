import TableCompiler.Number.Shortest

/-!
# Real numbers as text — reading a cell, showing a value

A cell is read by the usual grammar: an optional sign, digits with an optional point, an optional
exponent, or the words for infinity and NaN. A value is shown with its shortest digits, always in
positions and never with an exponent.
-/

namespace TableCompiler.Number

open TableCompiler.Text

/-- Digits in positions, the point after `point` of them; no point in a whole number. -/
def positional (digits : List Char) (point : Int) : List Char :=
  if point ≤ 0 then ['0', '.'] ++ List.replicate (-point).toNat '0' ++ digits
  else if digits.length ≤ point.toNat then
    digits ++ List.replicate (point.toNat - digits.length) '0'
  else digits.take point.toNat ++ ['.'] ++ digits.drop point.toNat

/-- The shortest digits of a double and the place of the point before, among or after them. -/
def Double.digits (tie : DecimalTie) (x : Double) : List Char × Int :=
  let d := x.shortest tie
  let ds := decimalDigits d.coefficient
  (ds, ds.length + d.exponent)

/-- A sign for negative numbers, negative zero included. -/
def Double.sign (x : Double) : List Char :=
  if x.isNegative then ['-'] else []

/-- The text of a real value: shortest digits in positions, halfway cases away from zero. -/
def Double.display (x : Double) : String :=
  if x.isNaN then "NaN"
  else if !x.isFinite then String.ofList (x.sign ++ "inf".toList)
  else if x.isZero then String.ofList (x.sign ++ ['0'])
  else
    let d := x.digits .up
    String.ofList (x.sign ++ positional d.1 d.2)

/-- Why a text is no real number. -/
inductive RealError where
  | empty
  | invalid
  deriving DecidableEq, Repr

/-- The wording of the reason. -/
def RealError.message : RealError → String
  | .empty => "cannot parse float from empty string"
  | .invalid => "invalid float literal"

/-- An ASCII letter in lower case. -/
def lowerAscii (c : Char) : Char :=
  if 'A' ≤ c && c ≤ 'Z' then Char.ofNat (c.toNat + 32) else c

/-- The optional sign in front: whether it is a minus, and the rest. -/
def takeSign : List Char → Bool × List Char
  | '-' :: rest => (true, rest)
  | '+' :: rest => (false, rest)
  | cs => (false, cs)

/-- The optional exponent that must end the text. -/
def readExponent? : List Char → Option Int
  | [] => some 0
  | c :: rest =>
    if c == 'e' || c == 'E' then
      let signed := takeSign rest
      if !signed.2.isEmpty && signed.2.all isDigit then
        let n : Int := ofDecimalDigits signed.2
        some (if signed.1 then -n else n)
      else none
    else none

/-- The digits after the point, if there is a point, and what follows. -/
def takeFraction : List Char → List Char × List Char
  | '.' :: rest => spanDigits rest
  | cs => ([], cs)

/-- An unsigned decimal: digits on at least one side of the point, then an optional exponent. -/
def readDecimal? (cs : List Char) : Option Decimal :=
  let whole := spanDigits cs
  let fraction := takeFraction whole.2
  let digits := whole.1 ++ fraction.1
  if digits.isEmpty then none
  else
    (readExponent? fraction.2).map fun e =>
      ⟨ofDecimalDigits digits, e - fraction.1.length⟩

/-- The words for numbers that have no digits. -/
def specialReal? (negative : Bool) (cs : List Char) : Option Double :=
  let word := String.ofList (cs.map lowerAscii)
  if word = "inf" || word = "infinity" then some (.infinity negative)
  else if word = "nan" then some (.nan negative)
  else none

/-- The double nearest to the number a text spells. -/
def readReal (cs : List Char) : Except RealError Double :=
  if cs.isEmpty then .error .empty
  else
    let signed := takeSign cs
    match readDecimal? signed.2 with
    | some d => .ok (.ofDecimal signed.1 d.coefficient d.exponent)
    | none =>
      match specialReal? signed.1 signed.2 with
      | some x => .ok x
      | none => .error .invalid

end TableCompiler.Number
