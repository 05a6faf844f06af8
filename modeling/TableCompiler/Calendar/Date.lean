import TableCompiler.Number.Digits

/-!
# Dates and times — the proleptic Gregorian calendar

A `Date` is a day that the calendar has, a `Time` a time of day whose seconds may count a leap
second, and a span a number of seconds. Each has one canonical text.
-/

namespace TableCompiler.Calendar

open TableCompiler.Number

/-- Every fourth year, save the centuries that four hundred does not divide. -/
def isLeapYear (year : Int) : Bool :=
  year % 4 = 0 && (year % 100 ≠ 0 || year % 400 = 0)

/-- The number of days of a month. -/
def daysInMonth (year : Int) (month : Nat) : Nat :=
  if month = 2 then if isLeapYear year then 29 else 28
  else if month = 4 || month = 6 || month = 9 || month = 11 then 30
  else 31

/-- The years that a date may have. -/
def isYear (year : Int) : Bool :=
  -262143 ≤ year && year ≤ 262142

/-- Whether the calendar has the day. -/
def isDay (year : Int) (month day : Nat) : Bool :=
  isYear year && 1 ≤ month && month ≤ 12 && 1 ≤ day && day ≤ daysInMonth year month

/-- A day of the calendar. -/
structure Date where
  year : Int
  month : Nat
  day : Nat
  valid : isDay year month day = true
  deriving DecidableEq

/-- The day with these parts, if the calendar has it. -/
def Date.ofParts? (year : Int) (month day : Nat) : Option Date :=
  if h : isDay year month day = true then some ⟨year, month, day, h⟩ else none

/-- Whether a clock shows the time; the sixtieth second is a leap second. -/
def isTime (hour minute second : Nat) : Bool :=
  hour < 24 && minute < 60 && second ≤ 60

/-- A time of day. -/
structure Time where
  hour : Nat
  minute : Nat
  second : Nat
  valid : isTime hour minute second = true
  deriving DecidableEq

/-- The time with these parts, if a clock shows it. -/
def Time.ofParts? (hour minute second : Nat) : Option Time :=
  if h : isTime hour minute second = true then some ⟨hour, minute, second, h⟩ else none

/-- Seconds since midnight; a leap second counts with the second before it. -/
def Time.secondsFromMidnight (t : Time) : Nat :=
  t.hour * 3600 + t.minute * 60 + min t.second 59

/-- A day and a time on it. -/
structure DateTime where
  date : Date
  time : Time
  deriving DecidableEq

/-- A year has at least four digits, and a sign unless it lies between 0 and 9999. -/
def yearText (year : Int) : List Char :=
  if year < 0 then '-' :: zeroPadded 4 year.natAbs
  else if year ≤ 9999 then zeroPadded 4 year.natAbs
  else '+' :: zeroPadded 4 year.natAbs

/-- Year, month and day with hyphens between them. -/
def Date.text (d : Date) : List Char :=
  yearText d.year ++ ['-'] ++ zeroPadded 2 d.month ++ ['-'] ++ zeroPadded 2 d.day

/-- Hour, minute and second in two digits with colons between them. -/
def Time.text (t : Time) : List Char :=
  zeroPadded 2 t.hour ++ [':'] ++ zeroPadded 2 t.minute ++ [':'] ++ zeroPadded 2 t.second

/-- The date, one space, the time. -/
def DateTime.text (dt : DateTime) : List Char :=
  dt.date.text ++ [' '] ++ dt.time.text

/-- A span as hours, minutes and seconds, the hours without zeros in front. -/
def spanText (seconds : Int) : List Char :=
  let total := seconds.natAbs
  (if seconds < 0 then ['-'] else []) ++ decimalDigits (total / 3600) ++ [':']
    ++ zeroPadded 2 (total % 3600 / 60) ++ [':'] ++ zeroPadded 2 (total % 60)

end TableCompiler.Calendar
