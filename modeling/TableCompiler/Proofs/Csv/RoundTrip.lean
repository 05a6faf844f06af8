import Mathlib.Data.List.Basic
import TableCompiler.Csv.Writer
import TableCompiler.Proofs.Table.Grid
import TableCompiler.Source.Load

/-!
# CSV there and back — what is written is read

The reader goes through a written field and stands behind it with the text of the field in hand
(`read_field`), so that the comma or the line feed that follows ends just this field.  A line is
therefore read as its record (`read_record`), and a text as its records (`parse_write`), unless it
begins with what is taken for a byte-order mark.  The grid of a table makes the table again
(`ofRows_parse_write`).
-/

namespace TableCompiler.Csv

open Progress

variable {p : Progress} {s : String} {record : List String} {records : List (List String)}
variable {cs : List Char}

/-! ## Fields -/

/-- Before a field, be it the first of its record or not. -/
structure AtField (p : Progress) : Prop where
  place : p.place = .recordStart ∨ p.place = .fieldStart
  field : p.field = []

/-- Between quotes every character is read back, each doubled quote as one. -/
theorem read_quoted (p : Progress) (cs : List Char) :
    (cs.flatMap doubleQuote).foldl step { p with place := .inQuotes }
      = { p with place := .inQuotes, field := p.field ++ cs } := by
  induction cs generalizing p with
  | nil => rw [List.flatMap_nil, List.foldl_nil, List.append_nil]
  | cons c cs ih =>
      -- a quote is read as two, of which the second one is kept
      have hstep : (doubleQuote c).foldl step { p with place := .inQuotes }
          = { p with place := .inQuotes, field := p.field ++ [c] } := by
        by_cases hc : c = '"'
        · simp only [doubleQuote, List.foldl_cons, List.foldl_nil, step, push, if_true, hc]
        · simp only [doubleQuote, if_neg hc, List.foldl_cons, List.foldl_nil, step, push]
      rw [List.flatMap_cons, List.foldl_append, hstep,
        ih { p with field := p.field ++ [c] }, List.append_assoc, List.singleton_append]

/-- A field that needs no quotes starts with a character that has no meaning of its own. -/
theorem stepPlain_of_plain {c : Char} (h : needsQuotes (c :: cs) = false) :
    p.stepPlain c = p.push .inField c ∧ c ≠ '"' ∧ isLineEnd c = false ∧ needsQuotes cs = false := by
  rw [needsQuotes, List.any_cons, Bool.or_eq_false_iff] at h
  obtain ⟨hc, hcs⟩ := h
  simp only [Bool.or_eq_false_iff, beq_eq_false_iff_ne] at hc
  obtain ⟨⟨⟨hcomma, hquote⟩, hreturn⟩, hfeed⟩ := hc
  have hend : isLineEnd c = false := by
    rw [isLineEnd, Bool.or_eq_false_iff]
    exact ⟨beq_eq_false_iff_ne.mpr hreturn, beq_eq_false_iff_ne.mpr hfeed⟩
  refine ⟨?_, hquote, hend, hcs⟩
  rw [stepPlain, if_neg hcomma, hend, if_neg Bool.false_ne_true]

/-- A field that needs no quotes is read character by character. -/
theorem read_plain (h : needsQuotes cs = false) (p : Progress) :
    cs.foldl step { p with place := .inField }
      = { p with place := .inField, field := p.field ++ cs } := by
  induction cs generalizing p with
  | nil => rw [List.foldl_nil, List.append_nil]
  | cons c cs ih =>
      obtain ⟨hplain, -, -, hcs⟩ := stepPlain_of_plain (p := { p with place := .inField }) h
      have hstep : step { p with place := .inField } c
          = { p with place := .inField, field := p.field ++ [c] } := hplain
      rw [List.foldl_cons, hstep, ih hcs { p with field := p.field ++ [c] }, List.append_assoc,
        List.singleton_append]

/-- At the start of a field every character but the ends of lines starts it, in a new record or not.
-/
theorem AtField.step_eq (h : AtField p) {c : Char} (hc : isLineEnd c = false) :
    step p c = p.stepFieldStart c := by
  rcases h.place with hplace | hplace
  · simp only [step, hplace, hc, Bool.false_eq_true, if_false]
  · simp only [step, hplace]

/-- Where the reader stands behind a field. -/
def placeBehind (place : Place) (s : String) : Place :=
  if needsQuotes s.toList then .afterQuote else if s.toList = [] then place else .inField

/-- **A FIELD** is in hand when it has been read. -/
theorem read_field (h : AtField p) (s : String) :
    (writeField s).foldl step p = { p with place := placeBehind p.place s, field := s.toList } := by
  rw [writeField, placeBehind]
  cases hquotes : needsQuotes s.toList with
  | true =>
      have hopen : step p '"' = { p with place := .inQuotes } := by
        rw [h.step_eq rfl, stepFieldStart, if_pos rfl]
      simp only [if_true, List.foldl_append, List.foldl_cons, List.foldl_nil, hopen]
      rw [read_quoted p, h.field, List.nil_append]
      rfl
  | false =>
      rw [if_neg Bool.false_ne_true, if_neg Bool.false_ne_true]
      cases hcs : s.toList with
      | nil => rw [List.foldl_nil, if_pos rfl, ← h.field]
      | cons c cs =>
          rw [hcs] at hquotes
          obtain ⟨hplain, hquote, hend, hrest⟩ := stepPlain_of_plain (p := p) hquotes
          -- the first character takes the reader into the field
          have hstep : step p c = { p with place := .inField, field := [c] } := by
            rw [h.step_eq hend, stepFieldStart, if_neg hquote, hplain, push, h.field,
              List.nil_append]
          rw [List.foldl_cons, hstep, if_neg (List.cons_ne_nil c cs)]
          exact read_plain hrest { p with field := [c] }

/-- Behind a written field no quotes are open. -/
theorem placeBehind_ne_inQuotes (h : AtField p) : placeBehind p.place s ≠ .inQuotes := by
  rw [placeBehind]
  split
  · exact Place.noConfusion
  · split
    · rcases h.place with hplace | hplace <;> rw [hplace] <;> exact Place.noConfusion
    · exact Place.noConfusion

/-- Only an empty field in front of a record leaves the reader there. -/
theorem placeBehind_ne_recordStart (h : p.place = .fieldStart ∨ writeField s ≠ []) :
    placeBehind p.place s ≠ .recordStart := by
  rw [placeBehind]
  cases hquotes : needsQuotes s.toList with
  | true => exact Place.noConfusion
  | false =>
      rw [if_neg Bool.false_ne_true]
      split
      case isTrue hempty =>
        rcases h with hplace | hline
        · rw [hplace]
          exact Place.noConfusion
        · rw [writeField, hquotes, if_neg Bool.false_ne_true] at hline
          exact absurd hempty hline
      case isFalse => exact Place.noConfusion

/-! ## Records -/

/-- Outside quotes a comma ends the field. -/
theorem step_comma (h : p.place ≠ .inQuotes) : step p ',' = p.endField := by
  cases hplace : p.place with
  | inQuotes => exact absurd hplace h
  | recordStart => simp only [step, hplace]; rfl
  | fieldStart => simp only [step, hplace]; rfl
  | inField => simp only [step, hplace]; rfl
  | afterQuote => simp only [step, hplace]; rfl

/-- Outside quotes a line feed ends the record. -/
theorem step_feed (h : p.place ≠ .inQuotes) (h' : p.place ≠ .recordStart) :
    step p '\n' = p.endRecord := by
  cases hplace : p.place with
  | inQuotes => exact absurd hplace h
  | recordStart => exact absurd hplace h'
  | fieldStart => simp only [step, hplace]; rfl
  | inField => simp only [step, hplace]; rfl
  | afterQuote => simp only [step, hplace]; rfl

/-- **A LINE** ends its record, if the line is not empty. -/
theorem read_line (h : AtField p)
    (hline : p.place = .fieldStart ∨ writeFields (s :: record) ≠ []) :
    (writeFields (s :: record) ++ ['\n']).foldl step p
      = ⟨.recordStart, [], [], p.records ++ [p.record ++ s :: record]⟩ := by
  induction record generalizing p s with
  | nil =>
      rw [writeFields, List.foldl_append, read_field h, List.foldl_cons, List.foldl_nil,
        step_feed (placeBehind_ne_inQuotes h) (placeBehind_ne_recordStart hline), endRecord,
        String.ofList_toList]
  | cons s' record ih =>
      -- behind the comma the line goes on with a field that is not the first
      have hcomma : step { p with place := placeBehind p.place s, field := s.toList } ','
          = ⟨.fieldStart, [], p.record ++ [s], p.records⟩ := by
        rw [step_comma (placeBehind_ne_inQuotes h), endField, String.ofList_toList]
      rw [writeFields, List.append_assoc, List.append_assoc, List.foldl_append, read_field h,
        List.singleton_append, List.foldl_cons, hcomma, ih ⟨.inr rfl, rfl⟩ (.inl rfl),
        List.append_assoc, List.singleton_append]

/-- Only the lone empty field would be written as nothing. -/
theorem eq_empty_of_writeFields (h : writeFields (s :: record) = []) : s = "" ∧ record = [] := by
  cases record with
  | nil =>
      rw [writeFields, writeField] at h
      split at h
      case isTrue => cases h
      case isFalse => exact ⟨String.toList_eq_nil_iff.mp h, rfl⟩
  | cons s' record =>
      rw [writeFields, List.append_assoc, List.append_eq_nil_iff] at h
      cases h.2

/-- A record is read from its line, also one that would be an empty line. -/
theorem read_record (full : record ≠ []) (records : List (List String)) :
    (writeRecord record).foldl step ⟨.recordStart, [], [], records⟩
      = ⟨.recordStart, [], [], records ++ [record]⟩ := by
  obtain ⟨s, record, rfl⟩ := List.exists_cons_of_ne_nil full
  rw [writeRecord]
  by_cases hempty : writeFields (s :: record) = []
  · obtain ⟨rfl, rfl⟩ := eq_empty_of_writeFields hempty
    rfl
  · simp only [List.isEmpty_iff, if_neg hempty]
    exact read_line ⟨.inl rfl, rfl⟩ (.inr hempty)

/-- **WRITTEN ROWS ARE READ**, one after the other, behind those that were read before. -/
theorem read_records {rows : List (List String)} (full : ∀ record ∈ rows, record ≠ [])
    (records : List (List String)) :
    (rows.flatMap writeRecord).foldl step ⟨.recordStart, [], [], records⟩
      = ⟨.recordStart, [], [], records ++ rows⟩ := by
  induction rows generalizing records with
  | nil => rw [List.flatMap_nil, List.foldl_nil, List.append_nil]
  | cons record rows ih =>
      rw [List.flatMap_cons, List.foldl_append, read_record (full record List.mem_cons_self),
        ih (fun r hr => full r (List.mem_cons_of_mem record hr)), List.append_assoc,
        List.singleton_append]

/-! ## Texts -/

/-- A text that does not start with the byte order mark loses nothing. -/
theorem dropMark_of_head (h : cs.head? ≠ some '\uFEFF') : dropMark cs = cs := by
  unfold dropMark
  split
  case h_1 => exact absurd rfl h
  case h_2 => rfl

/-- A field is written without the mark in front unless it has it itself. -/
theorem head_writeField (h : s.toList.head? ≠ some '\uFEFF') (hs : writeField s ≠ [])
    (rest : List Char) : (writeField s ++ rest).head? ≠ some '\uFEFF' := by
  rw [writeField] at hs ⊢
  split
  case isTrue =>
    intro hquote
    exact absurd (Option.some.inj hquote) (by decide)
  case isFalse hplain =>
    rw [if_neg hplain] at hs
    rwa [List.head?_append_of_ne_nil _ hs]

/-- A line begins with its first field, or if that is empty with a comma or a quote. -/
theorem head_writeRecord (h : s.toList.head? ≠ some '\uFEFF') (rest : List Char) :
    (writeRecord (s :: record) ++ rest).head? ≠ some '\uFEFF' := by
  rw [writeRecord]
  by_cases hempty : writeFields (s :: record) = []
  · rw [hempty]
    intro hquote
    exact absurd (Option.some.inj hquote) (by decide)
  · simp only [List.isEmpty_iff, if_neg hempty, List.append_assoc]
    cases record with
    | nil => exact head_writeField h hempty _
    | cons s' record =>
        rw [writeFields, List.append_assoc, List.append_assoc]
        by_cases hs : writeField s = []
        · rw [hs]
          intro hcomma
          exact absurd (Option.some.inj hcomma) (by decide)
        · exact head_writeField h hs _

/-- **WHAT IS WRITTEN IS READ**: the records of a text are the ones that were written, if none of them
is without fields and the first field does not begin with a byte-order mark. -/
theorem parse_write {rows : List (List String)} (full : ∀ record ∈ rows, record ≠ [])
    (plain : ∀ record ∈ rows.head?, ∀ s ∈ record.head?, s.toList.head? ≠ some '\uFEFF') :
    parse (write rows) = rows := by
  have hmark : (rows.flatMap writeRecord).head? ≠ some '\uFEFF' := by
    cases rows with
    | nil => exact fun hnone => nomatch hnone
    | cons record rows =>
        obtain ⟨s, record, rfl⟩ := List.exists_cons_of_ne_nil (full record List.mem_cons_self)
        exact head_writeRecord (plain _ rfl s rfl) _
  rw [parse, write, String.toList_ofList, dropMark_of_head hmark, dropMark_of_head hmark,
    Progress.start, read_records full, finish, List.nil_append]

/-- The rows of a table are read as they were written, if it has columns and the name of the first one
does not begin with a byte-order mark. -/
theorem parse_write_toRows (t : RawTable) {first : String} (named : t.names.head? = some first)
    (plain : first.toList.head? ≠ some '\uFEFF') : parse (write t.toRows) = t.toRows := by
  obtain ⟨rest, hnames⟩ := List.head?_eq_some_iff.mp named
  have hpositive : 0 < t.names.length := by
    rw [hnames]
    exact Nat.succ_pos _
  refine parse_write (fun row hrow => ?_) fun row hrow s hs => ?_
  · exact List.ne_nil_of_length_pos (t.length_of_mem_toRows row hrow ▸ hpositive)
  · obtain rfl := Option.some.inj hrow
    obtain rfl := Option.some.inj (named.symm.trans hs)
    exact plain

/-- **A TABLE IS READ AS IT WAS WRITTEN**, whatever its names, types and cells hold, if it has columns
and the name of the first one does not begin with a byte-order mark. -/
theorem ofRows_parse_write (t : RawTable) {first : String} (named : t.names.head? = some first)
    (plain : first.toList.head? ≠ some '\uFEFF') :
    Source.parseGrid? .csv (write t.toRows) = some (t.names :: t.types :: t.records) ∧
      RawTable.ofRows (t.names :: t.types :: t.records) = .ok t :=
  ⟨congrArg some (parse_write_toRows t named plain), t.ofRows_toRows⟩

/-- One column whose rows would be empty lines, two records or two fields if they were not quoted. -/
def loneColumn : RawTable where
  names := ["say, \"no\""]
  types := [""]
  records := [[""], ["first\r\nsecond"], [" "], ["\"\""], ["검"]]
  typed := rfl
  rectangular := by decide

/-- A single column with quotes, commas and line breaks in its cells and with an empty one. -/
theorem ofRows_parse_write_loneColumn :
    loneColumn.names.head? = some "say, \"no\"" ∧
      "say, \"no\"".toList.head? ≠ some '\uFEFF' ∧
      Source.parseGrid? .csv (write loneColumn.toRows)
        = some (loneColumn.names :: loneColumn.types :: loneColumn.records) ∧
      RawTable.ofRows (loneColumn.names :: loneColumn.types :: loneColumn.records)
        = .ok loneColumn :=
  ⟨rfl, by decide, ofRows_parse_write loneColumn rfl (by decide)⟩

end TableCompiler.Csv
