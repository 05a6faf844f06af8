import TableCompiler.Calendar.Date

/-!
# TOML moments — dates, times and both, with a distance from universal time

Four digits and a hyphen begin a date, two digits and a colon a time. Of the digits behind the second
nine are kept; zeros at their end are not written.
-/

namespace TableCompiler.Toml

open TableCompiler.Calendar TableCompiler.Number TableCompiler.Text

/-- How far a moment is from universal time. -/
inductive Offset where
  | universal
  | minutes (west : Bool) (count : Nat)
  deriving DecidableEq, Repr

/-- A time with the digits behind its second. -/
structure ClockTime where
  time : Time
  fraction : List Char
  deriving DecidableEq

/-- A date, a time, or both; only both together have an offset. -/
inductive Moment where
  | date (d : Date)
  | time (t : ClockTime)
  | both (d : Date) (t : ClockTime) (offset? : Option Offset)
  deriving DecidableEq

/-! ## Writing -/

/-- The text of an offset; no offset lies west of universal time by nothing. -/
def Offset.text : Offset → List Char
  | .universal => ['Z']
  | .minutes west count =>
    (if west && 0 < count then ['-'] else ['+']) ++ zeroPadded 2 (count / 60) ++ [':']
      ++ zeroPadded 2 (count % 60)

/-- The text of a time. -/
def ClockTime.text (t : ClockTime) : List Char :=
  t.time.text ++ if t.fraction.isEmpty then [] else '.' :: t.fraction

/-- The text of a moment. -/
def Moment.text : Moment → List Char
  | .date d => d.text
  | .time t => t.text
  | .both d t offset? => d.text ++ ['T'] ++ t.text ++ (offset?.map Offset.text).getD []

/-! ## Reading -/

/-- The number that exactly so many digits spell. -/
def readPlaces? (width : Nat) (cs : List Char) : Option (Nat × List Char) :=
  let digits := (cs.take width).takeWhile isDigit
  if digits.length = width then some (ofDecimalDigits digits, cs.drop width) else none

/-- A mark that must stand here. -/
def readMark? (mark : Char) : List Char → Option (List Char)
  | [] => none
  | c :: cs => if c = mark then some cs else none

/-- Whether so many digits and then a mark stand here. -/
def startsWithPlaces (width : Nat) (mark : Char) (cs : List Char) : Bool :=
  match readPlaces? width cs with
  | some (_, cs) => cs.head? = some mark
  | none => false

/-- A date. -/
def readDate? (cs : List Char) : Option (Date × List Char) := do
  let (year, cs) ← readPlaces? 4 cs
  let cs ← readMark? '-' cs
  let (month, cs) ← readPlaces? 2 cs
  let cs ← readMark? '-' cs
  let (day, cs) ← readPlaces? 2 cs
  let date ← Date.ofParts? year month day
  return (date, cs)

/-- Digits without the zeros at their end. -/
def dropEndingZeros (digits : List Char) : List Char :=
  (digits.reverse.dropWhile (· == '0')).reverse

/-- The digits behind a second, if there is a point with a digit behind it. -/
def readFractionOfSecond : List Char → List Char × List Char
  | '.' :: cs =>
    let digits := cs.takeWhile isDigit
    if digits.isEmpty then ([], '.' :: cs)
    else (dropEndingZeros (digits.take 9), cs.dropWhile isDigit)
  | cs => ([], cs)

/-- A time. -/
def readTime? (cs : List Char) : Option (ClockTime × List Char) := do
  let (hour, cs) ← readPlaces? 2 cs
  let cs ← readMark? ':' cs
  let (minute, cs) ← readPlaces? 2 cs
  let cs ← readMark? ':' cs
  let (second, cs) ← readPlaces? 2 cs
  let time ← Time.ofParts? hour minute second
  let (fraction, cs) := readFractionOfSecond cs
  return (⟨time, fraction⟩, cs)

/-- Hours and minutes of an offset. -/
def readOffsetMinutes? (west : Bool) (cs : List Char) : Option (Offset × List Char) := do
  let (hours, cs) ← readPlaces? 2 cs
  let cs ← readMark? ':' cs
  let (minutes, cs) ← readPlaces? 2 cs
  if hours < 24 && minutes < 60 then some (.minutes west (hours * 60 + minutes), cs) else none

/-- An offset, if there is one. -/
def readOffset? : List Char → Option (Option Offset × List Char)
  | 'Z' :: cs => some (some .universal, cs)
  | 'z' :: cs => some (some .universal, cs)
  | '+' :: cs => (readOffsetMinutes? false cs).map fun p => (some p.1, p.2)
  | '-' :: cs => (readOffsetMinutes? true cs).map fun p => (some p.1, p.2)
  | cs => some (none, cs)

/-- What stands behind a letter or space that may part a date from a time, if a time follows it. -/
def afterDate? : List Char → Option (List Char)
  | c :: cs =>
    if (c = 'T' || c = 't' || c = ' ') && startsWithPlaces 2 ':' cs then some cs else none
  | [] => none

/-- A moment that begins with a date. -/
def readDated? (cs : List Char) : Option (Moment × List Char) := do
  let (d, cs) ← readDate? cs
  match afterDate? cs with
  | none => some (.date d, cs)
  | some cs =>
    let (t, cs) ← readTime? cs
    let (offset?, cs) ← readOffset? cs
    return (.both d t offset?, cs)

/-- Whether a moment begins here; if one does, nothing else can be read here. -/
def startsMoment (cs : List Char) : Bool :=
  startsWithPlaces 4 '-' cs || startsWithPlaces 2 ':' cs

/-- A moment. -/
def readMoment? (cs : List Char) : Option (Moment × List Char) :=
  if startsWithPlaces 4 '-' cs then readDated? cs
  else (readTime? cs).map fun p => (.time p.1, p.2)

end TableCompiler.Toml
