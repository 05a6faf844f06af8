import TableCompiler.Proofs.Column.Decoding
import TableCompiler.Proofs.Column.Language
import TableCompiler.Proofs.Json.RoundTrip

/-!
# Stored texts — a column accepts what it writes

Dates, times and JSON are written as texts, and each value has one text, however the cell had it: numbers
are filled up with zeros, the sixtieth second of a time is the one before it, the names of an object are in
order, and no blank space is left.  That text converts to the value that it was written of
(`calendar_columns_restore`, `json_columns_restore`), so what has been stored can be compiled again, to the
same bytes.  JSON with floating-point numbers is left out, since their digits are rounded in several steps
when they are read.
-/

namespace TableCompiler

open TableCompiler.Text TableCompiler.Calendar

variable {r : Registry} {expr text name : String} {main? sub? : Option String} {t : ColumnType}
variable {v : Value} {semantic : SemanticType} {width : StorageWidth} {convert : ConvertStrategy}

/-- The column writes the canonical text of the value in UTF-8, and accepts this text for an equal value,
of which it writes the same bytes. -/
def ColumnType.Restores (t : ColumnType) (v : Value) : Prop :=
  ∃ bytes again, t.dumpValue v = .ok bytes ∧ Utf8.decode bytes = some v.display ∧
    t.convertCell v.display = .ok again ∧ again = v ∧ t.dumpValue again = .ok bytes

/-- A value restores if the column writes its text in UTF-8 and takes that text for the value. -/
theorem restores_of_accepted (dumped : t.dumpValue v = .ok (Utf8.encode v.display))
    (accepted : t.convertCell v.display = .ok v) : t.Restores v :=
  ⟨_, v, dumped, Utf8.decode_encode v.display, accepted, rfl, dumped⟩

/-- The semantic types whose columns have no attributes. -/
def SemanticType.isBare : SemanticType → Bool
  | .int | .uint | .string | .enum => false
  | _ => true

/-- A column without attributes converts and dumps as its semantic type has it. -/
theorem strategies_of_resolve (built : r.Built)
    (listed : (name, semantic, width) ∈ Registry.builtinTypes) (bare : semantic.isBare = true)
    (parsed : TypeExpr.parse expr = .ok ⟨name, main?, sub?⟩) (resolved : r.resolve expr = .ok t) :
    t.convert = .ofSemantic semantic width ∧ t.dump = .ofSemantic semantic width := by
  have plain : semantic ≠ .enum := by
    rintro rfl
    cases bare
  obtain ⟨res, means, rfl⟩ := (resolve_eq_ok_iff_means built listed plain parsed).mp resolved
  cases means with
  | plain => exact ⟨rfl, rfl⟩
  | int => cases bare
  | uint => cases bare
  | text => cases bare

/-! ## Dates and times -/

/-- What a date or time column makes of a cell. -/
theorem calendarValue_of_convertCell
    (timed : t.convert = .date ∨ t.convert = .dateTime ∨ t.convert = .time)
    (converted : t.convertCell text = .ok v) : CalendarValue t.convert v := by
  rw [ColumnType.convertCell] at converted
  rcases timed with hconvert | hconvert | hconvert
  all_goals rw [hconvert] at converted ⊢
  · obtain ⟨d, rfl⟩ := dateResult_ok converted
    exact .date d
  · obtain ⟨dt, rfl⟩ := dateResult_ok converted
    exact .dateTime dt
  · obtain ⟨clock, rfl⟩ := dateResult_ok converted
    exact .time clock

/-- The columns of the four names read dates and times, and write canonical texts. -/
theorem calendar_of_resolve (built : r.Built)
    (parsed : TypeExpr.parse expr = .ok ⟨name, main?, sub?⟩)
    (calendar : name ∈ ["date", "datetime", "time", "span"]) (resolved : r.resolve expr = .ok t) :
    (t.convert = .date ∨ t.convert = .dateTime ∨ t.convert = .time) ∧ t.dump = .canonicalText := by
  have strategies : ∀ {semantic : SemanticType},
      (name, semantic, .unbounded) ∈ Registry.builtinTypes → semantic.isBare = true →
      t.convert = .ofSemantic semantic .unbounded ∧ t.dump = .ofSemantic semantic .unbounded :=
    fun listed bare => strategies_of_resolve built listed bare parsed resolved
  rcases List.mem_cons.mp calendar with rfl | calendar
  · have listed : ("date", .date, .unbounded) ∈ Registry.builtinTypes := by decide
    obtain ⟨hconvert, hdump⟩ := strategies listed rfl
    exact ⟨.inl hconvert, hdump⟩
  rcases List.mem_cons.mp calendar with rfl | calendar
  · have listed : ("datetime", .dateTime, .unbounded) ∈ Registry.builtinTypes := by decide
    obtain ⟨hconvert, hdump⟩ := strategies listed rfl
    exact ⟨.inr (.inl hconvert), hdump⟩
  -- times and spans are one semantic type
  have listed : (name, .timeSpan, .unbounded) ∈ Registry.builtinTypes := by
    rcases List.mem_pair.mp calendar with rfl | rfl <;> decide
  obtain ⟨hconvert, hdump⟩ := strategies listed rfl
  exact ⟨.inr (.inr hconvert), hdump⟩

/-- **DATES AND TIMES** are stored as texts that stand for them, in every column that takes them: fewer
digits, blank space before numbers, signed years and leap seconds are accepted and come out the same. -/
theorem calendar_columns_restore (built : r.Built)
    (parsed : TypeExpr.parse expr = .ok ⟨name, main?, sub?⟩)
    (calendar : name ∈ ["date", "datetime", "time", "span"]) (resolved : r.resolve expr = .ok t)
    (converted : t.convertCell text = .ok v) : t.Restores v := by
  obtain ⟨timed, hdump⟩ := calendar_of_resolve built parsed calendar resolved
  have value := calendarValue_of_convertCell timed converted
  exact restores_of_accepted (dumpValue_calendar value hdump) (convertCell_display value rfl)

/-- A leap second on a leap day before the year one. -/
def leapMoment : Value :=
  .dateTime ⟨⟨-4, 2, 29, by decide⟩, ⟨3, 4, 60, by decide⟩⟩

/-- A leap second of a year before the first one, with digits left out, and a time with blank space in
it. -/
theorem calendar_columns_restore_leapSeconds :
    TypeExpr.parse " datetime " = .ok ⟨"datetime", none, none⟩ ∧
      TypeExpr.parse "time" = .ok ⟨"time", none, none⟩ ∧
      ∃ moments clocks,
        grades.resolve " datetime " = .ok moments ∧ grades.resolve "time" = .ok clocks ∧
        moments.convertCell " -4- 2-29  3:4:60" = .ok leapMoment ∧
        leapMoment.display = "-0004-02-29 03:04:60" ∧ moments.Restores leapMoment ∧
        clocks.convertCell "3: 4:60" = .ok (.span 11099) ∧
        (Value.span 11099).display = "3:04:59" ∧ clocks.Restores (.span 11099) := by
  have moment : TypeExpr.parse " datetime " = .ok ⟨"datetime", none, none⟩ := rfl
  have clock : TypeExpr.parse "time" = .ok ⟨"time", none, none⟩ := rfl
  obtain ⟨moments, hmoments, leap⟩ : ∃ t, grades.resolve " datetime " = .ok t ∧
      t.convertCell " -4- 2-29  3:4:60" = .ok leapMoment := ⟨_, rfl, rfl⟩
  obtain ⟨clocks, hclocks, second⟩ : ∃ t, grades.resolve "time" = .ok t ∧
      t.convertCell "3: 4:60" = .ok (.span 11099) := ⟨_, rfl, rfl⟩
  exact ⟨moment, clock, moments, clocks, hmoments, hclocks,
    leap, rfl, calendar_columns_restore grades_built moment (by decide) hmoments leap,
    second, rfl, calendar_columns_restore grades_built clock (by decide) hclocks second⟩

/-! ## JSON -/

/-- A JSON column restores what it reads back from its own text. -/
theorem restores_of_json {j : Json} (hconvert : t.convert = .json) (hdump : t.dump = .json)
    (accepted : convertJson j.display = .ok (.json j)) : t.Restores (.json j) := by
  refine restores_of_accepted ?_ ?_
  · rw [ColumnType.dumpValue, hdump]
    rfl
  · rw [ColumnType.convertCell, hconvert]
    exact accepted

/-- **JSON** without floating-point numbers is stored as a text that stands for it, in every column that
takes it: escapes, nesting as deep as is accepted, and objects in any order and with names given twice
come out the same. -/
theorem json_columns_restore (built : r.Built)
    (parsed : TypeExpr.parse expr = .ok ⟨"json", main?, sub?⟩) (resolved : r.resolve expr = .ok t)
    (converted : t.convertCell text = .ok v) :
    ∃ j, v = .json j ∧ (j.hasReal = false → t.Restores v) := by
  have listed : ("json", .json, .unbounded) ∈ Registry.builtinTypes := by decide
  obtain ⟨hconvert, hdump⟩ := strategies_of_resolve built listed rfl parsed resolved
  rw [ColumnType.convertCell, hconvert] at converted
  change convertJson text = .ok v at converted
  rw [convertJson] at converted
  split at converted
  case h_1 j read =>
    obtain rfl := Except.ok.inj converted
    refine ⟨j, rfl, fun integers => restores_of_json hconvert hdump ?_⟩
    rw [convertJson, Json.parse_display_of_parse read integers]
  case h_2 => cases converted

/-- An object with a name given twice, the names in no order, and characters behind backslashes. -/
def untidyText : String :=
  "\x7b\"b\": [1.5], \"a\" :\"\\u00e9\\n\\ud83d\\ude00\\u0001\"," ++
    " \"b\": [-9223372036854775808, 18446744073709551615, \x7b \x7d]\x7d"

/-- What is stored of it. -/
def tidyText : String :=
  "\x7b\"a\":\"\u00e9\\n😀\\u0001\",\"b\":[-9223372036854775808,18446744073709551615,\x7b\x7d]\x7d"

/-- Names out of order and given twice, escapes and the numbers at both ends of 64 bits come out tidy.
-/
theorem json_columns_restore_untidy :
    TypeExpr.parse "json" = .ok ⟨"json", none, none⟩ ∧
      ∃ t j, grades.resolve "json" = .ok t ∧ t.convertCell untidyText = .ok (.json j) ∧
        j.hasReal = false ∧ j.display = tidyText ∧ t.Restores (.json j) := by
  have parsed : TypeExpr.parse "json" = .ok ⟨"json", none, none⟩ := rfl
  have evaluated : (Json.parse untidyText).map (fun j => (j.hasReal, j.display))
      = some (false, tidyText) := by decide +kernel
  obtain ⟨j, read, found⟩ := Option.map_eq_some_iff.mp evaluated
  obtain ⟨integers, written⟩ := Prod.mk.inj found
  obtain ⟨t, resolved, converted⟩ : ∃ t, grades.resolve "json" = .ok t ∧
      t.convertCell untidyText = .ok (.json j) := by
    refine ⟨_, rfl, ?_⟩
    show convertJson untidyText = _
    rw [convertJson, read]
  refine ⟨parsed, t, j, resolved, converted, integers, written, ?_⟩
  obtain ⟨j', same, restores⟩ := json_columns_restore grades_built parsed resolved converted
  obtain rfl := Value.json.inj same
  exact restores integers

end TableCompiler
