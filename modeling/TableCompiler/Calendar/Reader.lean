import TableCompiler.Calendar.Date

/-!
# Reading dates and times

A number may have blank space before it and fewer digits than its place allows. A year has up to
four digits, or a sign and any number of them. Each part is checked as soon as it is read, the text
must end with the last part, and only then must the calendar have the day.
-/

namespace TableCompiler.Calendar

open TableCompiler.Text TableCompiler.Number

/-- Why a text is no date or time. -/
inductive DateError where
  /-- The text ends before its last part. -/
  | tooShort
  /-- The text goes on after its last part. -/
  | tooLong
  /-- A number is not in the range of its place, or the calendar lacks the day. -/
  | outOfRange
  /-- A character is not the one that must stand there. -/
  | invalid
  deriving DecidableEq, Repr

/-- The wording of the reason. -/
def DateError.message : DateError → String
  | .tooShort => "premature end of input"
  | .tooLong => "trailing input"
  | .outOfRange => "input is out of range"
  | .invalid => "input contains invalid characters"

/-- The result of reading a part: its value and the rest of the text. -/
abbrev Part (α : Type) := Except DateError (α × List Char)

/-- The most that a number in a date may be. -/
def largestNumber : Nat := 9223372036854775807

/-- A run of one or more digits. -/
def readDigits (digits rest : List Char) : Part Nat :=
  match digits with
  | [] => .error (if rest.isEmpty then .tooShort else .invalid)
  | _ =>
    let n := ofDecimalDigits digits
    if largestNumber < n then .error .outOfRange else .ok (n, rest)

/-- A run of one to `width` digits. -/
def readNumber (width : Nat) (cs : List Char) : Part Nat :=
  let digits := (cs.take width).takeWhile isDigit
  readDigits digits (cs.drop digits.length)

/-- A run of digits of any length. -/
def readLongNumber (cs : List Char) : Part Nat :=
  readDigits (cs.takeWhile isDigit) (cs.dropWhile isDigit)

/-- Passes on a number within the range of its place. -/
def within (low high : Nat) : Part Nat → Part Nat
  | .ok (n, rest) => if low ≤ n && n ≤ high then .ok (n, rest) else .error .outOfRange
  | .error e => .error e

/-- A number of at most two digits after optional blank space, within the range of its place. -/
def readPlace (low high : Nat) (cs : List Char) : Part Nat :=
  within low high (readNumber 2 (trimStart cs))

/-- A year is a 32-bit number. -/
def checkYear (negative : Bool) : Part Nat → Part Int
  | .ok (n, rest) =>
    let year : Int := if negative then -n else n
    if -2147483648 ≤ year && year ≤ 2147483647 then .ok (year, rest) else .error .outOfRange
  | .error e => .error e

/-- A year after optional blank space: four digits, or a sign and any number of digits. -/
def readYear (cs : List Char) : Part Int :=
  match trimStart cs with
  | '-' :: rest => checkYear true (readLongNumber rest)
  | '+' :: rest => checkYear false (readLongNumber rest)
  | rest => checkYear false (readNumber 4 rest)

/-- A character that must stand where it is. -/
def readMark (mark : Char) : List Char → Except DateError (List Char)
  | [] => .error .tooShort
  | c :: rest => if c = mark then .ok rest else .error .invalid

/-- Year, month and day, not yet checked against the calendar. -/
def readDateParts (cs : List Char) :
    Except DateError ((Int × Nat × Nat) × List Char) := do
  let (year, cs) ← readYear cs
  let cs ← readMark '-' cs
  let (month, cs) ← readPlace 1 12 cs
  let cs ← readMark '-' cs
  let (day, cs) ← readPlace 1 31 cs
  return ((year, month, day), cs)

/-- Hour, minute and second. -/
def readTimeParts (cs : List Char) :
    Except DateError ((Nat × Nat × Nat) × List Char) := do
  let (hour, cs) ← readPlace 0 23 cs
  let cs ← readMark ':' cs
  let (minute, cs) ← readPlace 0 59 cs
  let cs ← readMark ':' cs
  let (second, cs) ← readPlace 0 60 cs
  return ((hour, minute, second), cs)

/-- The text must end here. -/
def readEnd (cs : List Char) : Except DateError Unit :=
  if cs.isEmpty then .ok () else .error .tooLong

/-- A value that the calendar or the clock must have. -/
def orOutOfRange {α : Type} : Option α → Except DateError α
  | some a => .ok a
  | none => .error .outOfRange

/-- Reads a date. -/
def readDate (cs : List Char) : Except DateError Date := do
  let ((year, month, day), rest) ← readDateParts cs
  readEnd rest
  orOutOfRange (Date.ofParts? year month day)

/-- Reads a time of day. -/
def readTime (cs : List Char) : Except DateError Time := do
  let ((hour, minute, second), rest) ← readTimeParts cs
  readEnd rest
  orOutOfRange (Time.ofParts? hour minute second)

/-- Reads a date and a time with any blank space, or none, between them. -/
def readDateTime (cs : List Char) : Except DateError DateTime := do
  let ((year, month, day), rest) ← readDateParts cs
  let ((hour, minute, second), rest) ← readTimeParts (trimStart rest)
  readEnd rest
  let date ← orOutOfRange (Date.ofParts? year month day)
  let time ← orOutOfRange (Time.ofParts? hour minute second)
  return ⟨date, time⟩

end TableCompiler.Calendar
