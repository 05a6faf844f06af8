import TableCompiler.Calendar.Reader
import TableCompiler.Proofs.Column.Word
import TableCompiler.Proofs.Number.DigitRuns

/-!
# Canonical texts — a date that is written is read

The reader takes as many digits as a place allows.  The writer fills every place up with zeros, save the
hours of a span, which a colon ends (`readNumber_append`), and gives a year a sign where it has more
than four digits (`readYear_append`).  So parts, dates and times are read back from their canonical
texts (`readDate_text`, `readDateTime_text`), and a span of less than a day as the time of that many
seconds (`readTime_spanText`).
-/

namespace TableCompiler.Number.Spells

open TableCompiler.Text TableCompiler.Calendar

variable {ds rest : List Char} {n width low high : Nat} (spells : Spells ds n)
include spells

/-! ## Numbers -/

/-- A run of digits is read as the number that it spells. -/
theorem readDigits_eq (fits : n ≤ largestNumber) : readDigits ds rest = .ok (n, rest) := by
  cases hds : ds with
  | nil => exact absurd hds spells.nonempty
  | cons c cs =>
      rw [readDigits, ← hds]
      · simp only [spells.value, if_neg (Nat.not_lt.mpr fits)]
      · exact fun h => nomatch h

/-- **A NUMBER IN ITS PLACE** is read, when the place is full or no digit follows. -/
theorem readNumber_append (fits : n ≤ largestNumber) (short : ds.length ≤ width)
    (ends : ds.length = width ∨ NoDigitFirst rest) :
    readNumber width (ds ++ rest) = .ok (n, rest) := by
  have hrest : (rest.take (width - ds.length)).takeWhile isDigit = [] := by
    rcases ends with hfull | hnone
    · rw [hfull, Nat.sub_self, List.take_zero, List.takeWhile_nil]
    · refine takeWhile_of_noDigitFirst fun c hc => hnone c ?_
      rw [List.head?_take] at hc
      split at hc
      case isTrue => cases hc
      case isFalse => exact hc
  have hdigits : ((ds ++ rest).take width).takeWhile isDigit = ds := by
    rw [List.take_append, List.take_of_length_le short,
      List.takeWhile_append_of_pos (p := isDigit) spells.digits, hrest, List.append_nil]
  simp only [readNumber, hdigits, List.drop_left]
  exact spells.readDigits_eq fits

/-- A run of digits is read to its end. -/
theorem readLongNumber_append (fits : n ≤ largestNumber) (ends : NoDigitFirst rest) :
    readLongNumber (ds ++ rest) = .ok (n, rest) := by
  rw [readLongNumber, spells.takeWhile_append ends, spells.dropWhile_append ends]
  exact spells.readDigits_eq fits

/-- Nothing has to be skipped in front of a run of digits. -/
theorem visible_head : ∀ c, (ds ++ rest).head? = some c → isBlank c = false := by
  obtain ⟨c, cs, rfl, hc⟩ := spells.exists_cons
  exact fun d hd => Option.some.inj hd ▸ isBlank_of_isDigit hc

/-- Nothing has to be cut off behind a run of digits. -/
theorem visible_last : ∀ c, (rest ++ ds).getLast? = some c → isBlank c = false := by
  intro c hc
  rw [List.getLast?_append_of_ne_nil _ spells.nonempty] at hc
  exact isBlank_of_isDigit (spells.digits c (List.mem_of_getLast? hc))

theorem trimStart_append : trimStart (ds ++ rest) = ds ++ rest :=
  dropWhile_isBlank spells.visible_head

/-- One or two digits are read as a place of a date or time that lies within its bounds. -/
theorem readPlace_append (within : low ≤ n ∧ n ≤ high) (fits : n ≤ largestNumber)
    (short : ds.length ≤ 2) (ends : ds.length = 2 ∨ NoDigitFirst rest) :
    readPlace low high (ds ++ rest) = .ok (n, rest) := by
  rw [readPlace, spells.trimStart_append, spells.readNumber_append fits short ends, Calendar.within,
    if_pos]
  rw [Bool.and_eq_true, decide_eq_true_eq, decide_eq_true_eq]
  exact within

end TableCompiler.Number.Spells

namespace TableCompiler.Calendar

open TableCompiler.Text TableCompiler.Number

variable {ds rest : List Char} {n low high : Nat} {year : Int}

/-! ## Parts -/

/-- A number of two digits in its place. -/
theorem readPlace_zeroPadded (within : low ≤ n ∧ n ≤ high) (small : high < 100) :
    readPlace low high (zeroPadded 2 n ++ rest) = .ok (n, rest) := by
  have hfits : n < 100 := by omega
  have hlength : (zeroPadded 2 n).length = 2 := length_zeroPadded (by decide) hfits
  refine (spells_zeroPadded 2 n).readPlace_append within ?_ (Nat.le_of_eq hlength) (.inl hlength)
  exact Nat.le_trans (Nat.le_of_lt hfits) (by decide)

/-- A mark is read where it is expected. -/
theorem readMark_cons (mark : Char) : readMark mark (mark :: rest) = .ok rest := by
  rw [readMark, if_pos rfl]

/-- A year that the calendar has passes the check, whatever its sign. -/
theorem checkYear_ok (negative : Bool) (h : isYear (if negative then -(n : Int) else n) = true) :
    checkYear negative (.ok (n, rest)) = .ok (if negative then -(n : Int) else n, rest) := by
  rw [isYear, Bool.and_eq_true, decide_eq_true_eq, decide_eq_true_eq] at h
  simp only [checkYear]
  rw [if_pos]
  rw [Bool.and_eq_true, decide_eq_true_eq, decide_eq_true_eq]
  omega

theorem trimStart_sign {mark : Char} (visible : isBlank mark = false) :
    trimStart (mark :: rest) = mark :: rest :=
  dropWhile_isBlank fun _ hc => Option.some.inj hc ▸ visible

/-- Years before the year zero have a sign, and any number of digits. -/
theorem readYear_minus : readYear ('-' :: rest) = checkYear true (readLongNumber rest) := by
  rw [readYear, trimStart_sign (by decide)]
  rfl

/-- Years that need more than four digits have a sign as well. -/
theorem readYear_plus : readYear ('+' :: rest) = checkYear false (readLongNumber rest) := by
  rw [readYear, trimStart_sign (by decide)]
  rfl

/-- A year without a sign has four digits at most. -/
theorem readYear_of_spells (spells : Spells ds n) :
    readYear (ds ++ rest) = checkYear false (readNumber 4 (ds ++ rest)) := by
  obtain ⟨c, cs, hds, hc⟩ := spells.exists_cons
  obtain ⟨hplus, hminus⟩ := not_sign_of_isDigit hc
  rw [readYear, spells.trimStart_append, hds, List.cons_append]
  split
  case h_1 hcons => exact absurd (List.cons.inj hcons).1 hminus
  case h_2 hcons => exact absurd (List.cons.inj hcons).1 hplus
  case h_3 => rfl

/-- **A YEAR** is read up to the hyphen behind it. -/
theorem readYear_append (h : isYear year = true) :
    readYear (yearText year ++ '-' :: rest) = .ok (year, '-' :: rest) := by
  have hrange : -262143 ≤ year ∧ year ≤ 262142 := by
    rwa [isYear, Bool.and_eq_true, decide_eq_true_eq, decide_eq_true_eq] at h
  have hfits : year.natAbs ≤ largestNumber := Nat.le_trans (by omega : _ ≤ 262143) (by decide)
  have spells := spells_zeroPadded 4 year.natAbs
  have hyphen : NoDigitFirst ('-' :: rest) := fun c hc => Option.some.inj hc ▸ by decide
  have hlong := spells.readLongNumber_append hfits hyphen
  rw [yearText]
  split
  case isTrue hnegative =>
    have hyear : (if true then -(year.natAbs : Int) else year.natAbs) = year := by
      rw [if_pos rfl]
      omega
    rw [List.cons_append, readYear_minus, hlong, checkYear_ok true (hyear.symm ▸ h), hyear]
  case isFalse hnonneg =>
    have hyear : (if false then -(year.natAbs : Int) else year.natAbs) = year := by
      rw [if_neg Bool.false_ne_true]
      omega
    -- up to 9999 the place is full, and beyond it a sign lets any number of digits follow
    split
    case isTrue hsmall =>
      have hplace : year.natAbs < 10000 := by omega
      have hlength : (zeroPadded 4 year.natAbs).length = 4 :=
        length_zeroPadded (by decide) hplace
      rw [readYear_of_spells spells, spells.readNumber_append hfits (Nat.le_of_eq hlength) (.inl hlength),
        checkYear_ok false (hyear.symm ▸ h), hyear]
    case isFalse hlarge =>
      rw [List.cons_append, readYear_plus, hlong, checkYear_ok false (hyear.symm ▸ h), hyear]

/-- The parts of a day are in the ranges of their places. -/
theorem ranges_of_isDay {month day : Nat} (h : isDay year month day = true) :
    isYear year = true ∧ (1 ≤ month ∧ month ≤ 12) ∧ 1 ≤ day ∧ day ≤ 31 := by
  simp only [isDay, Bool.and_eq_true, decide_eq_true_eq] at h
  obtain ⟨⟨⟨⟨hyear, hfirst⟩, hlast⟩, hday⟩, hdays⟩ := h
  have hmost : daysInMonth year month ≤ 31 := by
    rw [daysInMonth]
    split
    · split <;> decide
    · split <;> decide
  exact ⟨hyear, ⟨hfirst, hlast⟩, hday, Nat.le_trans hdays hmost⟩

/-- A time of day has its numbers within the bounds of a clock, a leap second included. -/
theorem ranges_of_isTime {hour minute second : Nat} (h : isTime hour minute second = true) :
    hour ≤ 23 ∧ minute ≤ 59 ∧ second ≤ 60 := by
  simp only [isTime, Bool.and_eq_true, decide_eq_true_eq] at h
  omega

/-- **THE PARTS OF A DATE** are read, whatever follows them. -/
theorem readDateParts_append (d : Date) (rest : List Char) :
    readDateParts (d.text ++ rest) = .ok ((d.year, d.month, d.day), rest) := by
  obtain ⟨hyear, hmonth, hday⟩ := ranges_of_isDay d.valid
  have htext : d.text ++ rest = yearText d.year
      ++ '-' :: (zeroPadded 2 d.month ++ '-' :: (zeroPadded 2 d.day ++ rest)) := by
    simp only [Date.text, List.append_assoc, List.cons_append, List.nil_append]
  simp only [readDateParts, htext, readYear_append hyear, bind, Except.bind, readMark_cons,
    readPlace_zeroPadded hmonth (by decide), readPlace_zeroPadded hday (by decide), pure,
    Except.pure]

/-- **THE PARTS OF A TIME** are read, whatever follows them. -/
theorem readTimeParts_append (t : Time) (rest : List Char) :
    readTimeParts (t.text ++ rest) = .ok ((t.hour, t.minute, t.second), rest) := by
  obtain ⟨hhour, hminute, hsecond⟩ := ranges_of_isTime t.valid
  have htext : t.text ++ rest = zeroPadded 2 t.hour
      ++ ':' :: (zeroPadded 2 t.minute ++ ':' :: (zeroPadded 2 t.second ++ rest)) := by
    simp only [Time.text, List.append_assoc, List.cons_append, List.nil_append]
  simp only [readTimeParts, htext, bind, Except.bind, readMark_cons,
    readPlace_zeroPadded ⟨Nat.zero_le _, hhour⟩ (by decide),
    readPlace_zeroPadded ⟨Nat.zero_le _, hminute⟩ (by decide),
    readPlace_zeroPadded ⟨Nat.zero_le _, hsecond⟩ (by decide), pure, Except.pure]

/-- The parts of a date are those of a day that the calendar has. -/
theorem ofParts?_date (d : Date) : Date.ofParts? d.year d.month d.day = some d := by
  rw [Date.ofParts?, dif_pos d.valid]

/-- The parts of a time are those of a time that the clock has. -/
theorem ofParts?_time (t : Time) : Time.ofParts? t.hour t.minute t.second = some t := by
  rw [Time.ofParts?, dif_pos t.valid]

/-! ## Dates and times -/

/-- The text of a time is three numbers of two digits each. -/
theorem Time.text_eq (t : Time) :
    t.text = zeroPadded 2 t.hour
      ++ (':' :: (zeroPadded 2 t.minute ++ (':' :: zeroPadded 2 t.second))) := by
  simp only [Time.text, List.append_assoc, List.cons_append, List.nil_append]

/-- No blank space stands in front of a year. -/
theorem visible_yearText (year : Int) :
    ∀ c, (yearText year ++ rest).head? = some c → isBlank c = false := by
  rw [yearText]
  split
  case isTrue => exact fun c hc => Option.some.inj hc ▸ by decide
  case isFalse =>
    split
    case isTrue => exact (spells_zeroPadded 4 year.natAbs).visible_head
    case isFalse => exact fun c hc => Option.some.inj hc ▸ by decide

/-- The text of a date neither begins nor ends with white space. -/
theorem trim_date (d : Date) : trim d.text = d.text := by
  refine trim_of_ends ?_ ?_
  · simp only [Date.text, List.append_assoc]
    exact visible_yearText d.year
  · exact (spells_zeroPadded 2 d.day).visible_last

/-- The text of a date with a time neither begins nor ends with white space. -/
theorem trim_dateTime (dt : DateTime) : trim dt.text = dt.text := by
  refine trim_of_ends ?_ ?_
  · simp only [DateTime.text, Date.text, List.append_assoc]
    exact visible_yearText dt.date.year
  · rw [DateTime.text, Time.text, ← List.append_assoc]
    exact (spells_zeroPadded 2 dt.time.second).visible_last

/-- **A DATE** is read from its text. -/
theorem readDate_text (d : Date) : readDate (trim d.text) = .ok d := by
  have hparts := readDateParts_append d []
  rw [List.append_nil] at hparts
  simp only [readDate, trim_date, hparts, bind, Except.bind, readEnd, List.isEmpty_nil, if_true,
    ofParts?_date, orOutOfRange]

/-- **A DATE AND A TIME** are read from their text. -/
theorem readDateTime_text (dt : DateTime) : readDateTime (trim dt.text) = .ok dt := by
  have hdate := readDateParts_append dt.date (' ' :: dt.time.text)
  have htime := readTimeParts_append dt.time []
  rw [List.append_nil] at htime
  have htrim : trimStart (' ' :: dt.time.text) = dt.time.text := by
    show trimStart dt.time.text = dt.time.text
    rw [Time.text_eq, (spells_zeroPadded 2 dt.time.hour).trimStart_append]
  have htext : dt.text = dt.date.text ++ ' ' :: dt.time.text := by
    simp only [DateTime.text, List.append_assoc, List.singleton_append]
  rw [trim_dateTime]
  simp only [readDateTime, htext, hdate, htrim, htime, bind, Except.bind, readEnd,
    List.isEmpty_nil, if_true, ofParts?_date, ofParts?_time, orOutOfRange, pure, Except.pure]

/-! ## Spans -/

/-- The time of day that is that many seconds away from midnight. -/
theorem isTime_of_seconds {seconds : Nat} (h : seconds < 86400) :
    isTime (seconds / 3600) (seconds % 3600 / 60) (seconds % 60) = true := by
  simp only [isTime, Bool.and_eq_true, decide_eq_true_eq]
  omega

/-- The seconds since midnight are fewer than those of a day. -/
theorem secondsFromMidnight_lt (t : Time) : t.secondsFromMidnight < 86400 := by
  have := ranges_of_isTime t.valid
  rw [Time.secondsFromMidnight]
  omega

/-- The text of a span is its hours in full, then minutes and seconds in two digits each. -/
theorem spanText_eq (seconds : Nat) :
    spanText seconds = decimalDigits (seconds / 3600)
      ++ (':' :: (zeroPadded 2 (seconds % 3600 / 60) ++ (':' :: zeroPadded 2 (seconds % 60)))) := by
  have hnonneg : ¬(seconds : Int) < 0 := by omega
  simp only [spanText, if_neg hnonneg, Int.natAbs_natCast, List.append_assoc, List.cons_append,
    List.nil_append]

/-- The text of a span neither begins nor ends with white space. -/
theorem trim_spanText (seconds : Nat) : trim (spanText seconds) = spanText seconds := by
  refine trim_of_ends ?_ ?_
  · rw [spanText_eq]
    exact (spells_decimalDigits (seconds / 3600)).visible_head
  · rw [spanText]
    exact (spells_zeroPadded 2 _).visible_last

/-- **A SPAN OF LESS THAN A DAY** is read as the time of day that is as far from midnight. -/
theorem readTime_spanText {seconds : Nat} (h : seconds < 86400) :
    ∃ t, readTime (trim (spanText seconds)) = .ok t ∧ t.secondsFromMidnight = seconds := by
  have spells := spells_decimalDigits (seconds / 3600)
  have colon : ∀ rest, NoDigitFirst (':' :: rest) := fun _ c hc => Option.some.inj hc ▸ by decide
  have hlength : (decimalDigits (seconds / 3600)).length ≤ 2 :=
    (Nat.length_toDigits_le_iff (by decide) (by decide)).mpr (by omega)
  have hhour : ∀ rest, readPlace 0 23 (decimalDigits (seconds / 3600) ++ ':' :: rest)
      = .ok (seconds / 3600, ':' :: rest) := fun rest =>
    spells.readPlace_append (by omega) (Nat.le_trans (by omega : _ ≤ 24) (by decide)) hlength
      (.inr (colon rest))
  have hsecond : readPlace 0 60 (zeroPadded 2 (seconds % 60)) = .ok (seconds % 60, []) := by
    rw [← List.append_nil (zeroPadded 2 (seconds % 60))]
    exact readPlace_zeroPadded (by omega) (by decide)
  have hminute : ∀ rest, readPlace 0 59 (zeroPadded 2 (seconds % 3600 / 60) ++ rest)
      = .ok (seconds % 3600 / 60, rest) := fun rest =>
    readPlace_zeroPadded (by omega) (by decide)
  -- with three places read the rest is arithmetic: the seconds are put together again
  refine ⟨⟨_, _, _, isTime_of_seconds h⟩, ?_, ?_⟩
  · rw [trim_spanText, spanText_eq]
    simp only [readTime, readTimeParts, bind, Except.bind, hhour, hminute, hsecond, readMark_cons,
      pure, Except.pure, readEnd, List.isEmpty_nil, if_true, Time.ofParts?, isTime_of_seconds h,
      dif_pos, orOutOfRange]
  · rw [Time.secondsFromMidnight]
    dsimp only
    omega

end TableCompiler.Calendar
