import TableCompiler.Json.Form
import TableCompiler.Json.Value

/-!
# Reading JSON — the value of a form

Integers of 64 bits are kept as they are; every other number becomes a double, computed from as many
digits as an unsigned 64-bit number holds and a power of ten, each step rounded. Lone surrogates,
numbers past the largest double and nesting deeper than 127 have no value.
-/

namespace TableCompiler.Json

open TableCompiler.Number TableCompiler.Text

/-- Lists and objects may be nested this deep. -/
def deepestNesting : Nat := 127

/-- The text of code points in which every surrogate belongs to a pair. -/
def joinSurrogates : List Nat → Option (List Char)
  | [] => some []
  | [n] => if 0xD800 ≤ n && n < 0xE000 then none else some [Char.ofNat n]
  | n :: m :: rest =>
    if 0xD800 ≤ n && n < 0xDC00 then
      if 0xDC00 ≤ m && m < 0xE000 then
        (joinSurrogates rest).map
          (Char.ofNat (0x10000 + (n - 0xD800) * 0x400 + (m - 0xDC00)) :: ·)
      else none
    else if 0xDC00 ≤ n && n < 0xE000 then none
    else (joinSurrogates (m :: rest)).map (Char.ofNat n :: ·)

/-- The text that a written text stands for. -/
def textOf? (units : List Nat) : Option String :=
  (joinSurrogates units).map String.ofList

/-- Takes digits onto a number as long as it fits 64 bits; the digits left over follow. -/
def takeFitting : Nat → List Char → Nat × List Char
  | n, [] => (n, [])
  | n, c :: cs =>
    if n * 10 + decimalValue c ≤ largestUnsigned then takeFitting (n * 10 + decimalValue c) cs
    else (n, c :: cs)

/-- `f · 10^exponent` by at most `fuel` divisions by `10^308` and one last step; `none` when the
result is infinite. -/
def scaleByTen : (fuel : Nat) → Double → Int → Option Double
  | 0, f, _ => some f
  | fuel + 1, f, exponent =>
    if exponent.natAbs ≤ 308 then
      let power := Double.ofNat false (Nat.pow 10 exponent.natAbs)
      let result := if 0 ≤ exponent then f.mul power else f.div power
      if result.isFinite then some result else none
    else if f.isZero then some f
    else if 0 ≤ exponent then none
    else scaleByTen fuel (f.div (Double.ofNat false (Nat.pow 10 308))) (exponent + 308)

/-- The largest exponent that is told apart. -/
def largestExponent : Nat := 2147483647

/-- An exponent kept within 32 bits. -/
def clampExponent (e : Int) : Int :=
  max (-2147483648) (min 2147483647 e)

/-- A number with the sign put back. -/
def withSign (negative : Bool) (x : Double) : Double :=
  if negative then .ofMagnitude true x.magnitude else x

/-- The double of a written number. -/
def realOf? (n : NumberForm) : Option Double :=
  let whole := takeFitting 0 n.whole
  let fraction := takeFitting whole.1 n.fraction
  let significand := fraction.1
  let start : Int := (whole.2.length : Int) - (n.fraction.length - fraction.2.length)
  let scaled (e : Int) : Option Double :=
    (scaleByTen 4 (Double.ofNat false significand) e).map (withSign n.negative)
  match n.exponent with
  | none => scaled start
  | some (down, digits) =>
    let e := ofDecimalDigits digits
    if largestExponent < e then
      if significand ≠ 0 && !down then none else some (.zero n.negative)
    else scaled (clampExponent (if down then start - e else start + e))

/-- The integer of a written number without point and exponent, if 64 bits hold it. There is no
negative zero among the integers. -/
def intOf? (n : NumberForm) : Option Int :=
  if n.fraction.isEmpty && n.exponent.isNone then
    let m := ofDecimalDigits n.whole
    if n.negative then
      if 0 < m && leastSigned ≤ -(m : Int) then some (-m) else none
    else if m ≤ largestUnsigned then some m else none
  else none

/-- The value of a written number. -/
def numberOf? (n : NumberForm) : Option Json :=
  match intOf? n with
  | some i => some (.int i)
  | none => (realOf? n).map .real

mutual

/-- The value of a form, with `room` for that many levels of lists and objects. -/
def valueOf? : (room : Nat) → Form → Option Json
  | _, .null => some .null
  | _, .bool b => some (.bool b)
  | _, .number n => numberOf? n
  | _, .text units => (textOf? units).map .text
  | 0, .list _ => none
  | 0, .object _ => none
  | room + 1, .list items => (itemsOf? room items).map .list
  | room + 1, .object members => (membersOf? room members).map ofMembers

/-- The values of forms. -/
def itemsOf? : (room : Nat) → List Form → Option (List Json)
  | _, [] => some []
  | room, f :: rest =>
    match valueOf? room f, itemsOf? room rest with
    | some v, some vs => some (v :: vs)
    | _, _ => none

/-- The names and values of members. -/
def membersOf? : (room : Nat) → List (List Nat × Form) → Option (List (String × Json))
  | _, [] => some []
  | room, (name, f) :: rest =>
    match textOf? name, valueOf? room f, membersOf? room rest with
    | some k, some v, some ms => some ((k, v) :: ms)
    | _, _, _ => none

end

/-- Reads a JSON text. -/
def parse (s : String) : Option Json :=
  match Form.parse s with
  | some f => valueOf? deepestNesting f
  | none => none

end TableCompiler.Json
