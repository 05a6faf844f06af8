import TableCompiler.Proofs.Calendar.Canonical
import TableCompiler.Proofs.Column.TwosComplement
import TableCompiler.Proofs.Text.Utf16

/-!
# Decoding cells — the value that the bytes of a column hold

Numbers are read at the width in which they were dumped, texts in the encoding of the column, and dates
and times by the column itself, from their canonical text.  Columns of numbers, enum members, whole texts
and dates get their values back that way (`readBytes?_of_dump`).  A hash or a text with characters left
out or replaced keeps too little for that, and an extension may make any value.
-/

namespace TableCompiler

open TableCompiler.Text TableCompiler.Calendar

variable {r : Registry} {t : ColumnType} {v : Value} {width : StorageWidth} {bytes : List UInt8}
variable {expr text : String}

/-- A column of numbers, members of an enum, whole texts, dates or times. -/
def ColumnType.holdsValues (t : ColumnType) : Bool :=
  match t.convert with
  | .integer _ _ | .enum _ _ | .text | .date | .dateTime | .time => true
  | .encoded encoding policy => encoding ≠ .ascii || policy = .strict
  | _ => false

/-- The value that the bytes of a cell hold, for a column that holds values. -/
def ColumnType.readBytes? (t : ColumnType) (bytes : List UInt8) : Option Value :=
  match t.dump with
  | .int width => some (integerValue width (width.readInteger bytes))
  | .text .utf16 _ => (Utf16.decode bytes).map .text
  | .text _ _ => (Utf8.decode bytes).map .text
  | .canonicalText => (Utf8.decode bytes).bind fun text => (t.convertCell text).toOption
  | _ => none

/-! ## Texts -/

/-- UTF-8 writes an ASCII character as its own byte. -/
theorem encodeChar_of_isAscii {c : Char} (h : isAscii c = true) :
    String.utf8EncodeChar c = [asciiByte c] := by
  have hc : c.toNat < 128 := of_decide_eq_true h
  have hcode : c.val.toNat = c.toNat := rfl
  rw [String.utf8EncodeChar, hcode, if_pos (by omega : c.toNat ≤ 127)]
  rfl

/-- Strict ASCII is UTF-8. -/
theorem encodeAscii_strict {cs : List Char} {position : Nat}
    (h : encodeAscii .strict position cs = .ok bytes) : bytes = Utf8.encodeChars cs := by
  -- the position of the first character is counted on, so it is generalized
  induction cs generalizing position bytes with
  | nil => exact (Except.ok.inj h).symm
  | cons c cs ih =>
      rw [encodeAscii] at h
      split at h
      case isFalse => cases h
      case isTrue hc =>
        cases hrest : encodeAscii .strict (position + 1) cs with
        | error e =>
            rw [hrest] at h
            cases h
        | ok rest =>
            rw [hrest] at h
            rw [← Except.ok.inj h, ih hrest]
            show _ = String.utf8EncodeChar c ++ Utf8.encodeChars cs
            rw [encodeChar_of_isAscii hc]
            rfl

/-! ## Dates and times -/

/-- The values that date and time columns make of their cells. -/
inductive CalendarValue : ConvertStrategy → Value → Prop where
  | date (d : Date) : CalendarValue .date (.date d)
  | dateTime (dt : DateTime) : CalendarValue .dateTime (.dateTime dt)
  | time (t : Time) : CalendarValue .time (.span t.secondsFromMidnight)

section Calendar

variable {convert : ConvertStrategy} (calendar : CalendarValue convert v)
include calendar

/-- **A CANONICAL TEXT** converts to the value that it stands for. -/
theorem convertCell_display (hconvert : t.convert = convert) :
    t.convertCell v.display = .ok v := by
  rw [ColumnType.convertCell, hconvert]
  cases calendar with
  | date d => simp only [Value.display, String.toList_ofList, readDate_text, dateResult]
  | dateTime dt => simp only [Value.display, String.toList_ofList, readDateTime_text, dateResult]
  | time t =>
      obtain ⟨t', hread, hseconds⟩ := readTime_spanText (secondsFromMidnight_lt t)
      simp only [Value.display, String.toList_ofList, hread, dateResult, hseconds]

/-- Dates and times are written as their canonical texts. -/
theorem dumpValue_calendar (hdump : t.dump = .canonicalText) :
    t.dumpValue v = .ok (Utf8.encode v.display) := by
  simp only [ColumnType.dumpValue, hdump]
  cases calendar <;> rfl

/-- **DATES COME BACK** from their canonical texts. -/
theorem readBytes?_calendar (hconvert : t.convert = convert) (hdump : t.dump = .canonicalText)
    (dumped : t.dumpValue v = .ok bytes) : t.readBytes? bytes = some v := by
  have hbytes := Except.ok.inj ((dumpValue_calendar calendar hdump).symm.trans dumped)
  simp only [ColumnType.readBytes?, hdump, ← hbytes, Utf8.decode_encode, Option.bind_some,
    convertCell_display calendar hconvert]
  rfl

end Calendar

/-! ## Columns -/

/-- **WHAT SUITS IS READ BACK**: what a column with a width, a conversion and a dump that suit each
other dumps of its own values. -/
theorem readBytes?_of_agree (agree : Agree t.width t.convert t.dump) (value : t.holdsValues = true)
    (converted : t.convertCell text = .ok v) (dumped : t.dumpValue v = .ok bytes) :
    t.readBytes? bytes = some v := by
  rcases t with ⟨expr, semantic, width, main?, sub?, role, convert, dump⟩
  change Agree width convert dump at agree
  -- floating-point numbers, hashes, JSON and lossy ASCII do not hold their values and drop out
  cases agree with
  | integer radix bounded =>
      obtain ⟨⟨low, high⟩, hbounds⟩ := Option.isSome_iff_exists.mp bounded
      obtain ⟨n, hcheck⟩ := convertInteger_ok converted
      obtain ⟨hlow, hhigh, rfl⟩ := checkInteger_ok hbounds hcheck
      obtain ⟨m, -, -, hm, -, -, -, hread⟩ := dumpInteger_eq_ok dumped
      have hsame : n = m := Option.some.inj ((asInt?_integerValue hbounds hlow hhigh).symm.trans hm)
      rw [hsame, ← hread]
      rfl
  | text =>
      cases converted
      cases dumped
      exact congrArg (Option.map Value.text) (Utf8.decode_encode text)
  | encoded encoding policy =>
      obtain ⟨rfl, -⟩ := convertEncoded_ok converted
      cases encoding with
      | utf8 =>
          cases dumped
          exact congrArg (Option.map Value.text) (Utf8.decode_encode text)
      | utf16 =>
          cases dumped
          exact congrArg (Option.map Value.text) (Utf16.decode_encode text)
      | ascii =>
          cases policy with
          | strict =>
              rw [encodeAscii_strict dumped]
              exact congrArg (Option.map Value.text) (Utf8.decode_encode text)
          | ignore => cases value
          | replace => cases value
  | date =>
      obtain ⟨d, rfl⟩ := dateResult_ok converted
      exact readBytes?_calendar (.date d) rfl rfl dumped
  | dateTime =>
      obtain ⟨dt, rfl⟩ := dateResult_ok converted
      exact readBytes?_calendar (.dateTime dt) rfl rfl dumped
  | time =>
      obtain ⟨t, rfl⟩ := dateResult_ok converted
      exact readBytes?_calendar (.time t) rfl rfl dumped
  | single => cases value
  | double => cases value
  | hash hash => cases value
  | json => cases value

/-- A column that holds values does not convert them with a registered converter. -/
theorem isExtension_of_holdsValues (value : t.holdsValues = true) : t.isExtension = false := by
  rw [ColumnType.holdsValues] at value
  rw [ColumnType.isExtension]
  cases hconvert : t.convert with
  | custom convert =>
      rw [hconvert] at value
      cases value
  | _ => rfl

/-- **A VALUE IS READ BACK** from the bytes that its column dumps it to. -/
theorem readBytes?_of_dump (built : r.Built) (resolved : r.resolve expr = .ok t)
    (value : t.holdsValues = true) (converted : t.convertCell text = .ok v)
    (dumped : t.dumpValue v = .ok bytes) : t.readBytes? bytes = some v := by
  have plain := isExtension_of_holdsValues value
  by_cases enum : t.semantic = .enum
  · obtain ⟨ns, members, -, -, -, hconvert, hdump⟩ := enum_of_resolve built resolved plain enum
    rw [ColumnType.convertCell, hconvert] at converted
    obtain ⟨n, -, rfl⟩ := convertMember_ok converted
    simp only [ColumnType.dumpValue, hdump] at dumped
    obtain ⟨m, -, -, hm, -, -, -, hread⟩ := dumpInteger_eq_ok dumped
    obtain rfl := Option.some.inj hm
    simp only [ColumnType.readBytes?, hdump, hread]
    exact congrArg (fun n => some (Value.int n)) (Int64.ofInt_toInt n)
  · exact readBytes?_of_agree (agree_of_resolve built resolved plain enum) value converted dumped

end TableCompiler
