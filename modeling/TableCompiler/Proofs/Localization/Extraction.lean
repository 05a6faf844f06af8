import TableCompiler.Localization.HashTable

/-!
# Extraction — what a hash table lists, and when there is one

The rows of a hash table are a flattening of the decorated columns: the two head rows, then for each
column its locale and, record by record, a key and a text.  Adding a row fails exactly if its place
holds another text, so what is carried from row to row is `OneText`: within one head a hash stands
for one text.  `extract_eq_ok_iff` puts both together.
-/

namespace TableCompiler.Localization

variable {raw : RawTable} {rows new out : List HashRow} {row r : HashRow}
variable {column : DecoratedColumn} {columns : List DecoratedColumn}

/-! ## Rows that agree on their texts -/

/-- Within one head a hash stands for one text. -/
def OneText (rows : List HashRow) : Prop :=
  ∀ r ∈ rows, ∀ s ∈ rows, r.head = s.head → r.hash = s.hash → r.text = s.text

instance : Decidable (OneText rows) :=
  inferInstanceAs (Decidable (∀ r ∈ rows, ∀ s ∈ rows, _))

theorem samePlace_iff {r s : HashRow} :
    r.samePlace s = true ↔ r.head = s.head ∧ r.hash = s.hash := by
  simp [HashRow.samePlace]

theorem OneText.left (h : OneText (rows ++ new)) : OneText rows :=
  fun r hr s hs => h r (List.mem_append_left _ hr) s (List.mem_append_left _ hs)

/-- One more row keeps the agreement if it agrees with all the rows before it. -/
theorem oneText_concat :
    OneText (rows ++ [row]) ↔
      OneText rows ∧ ∀ r ∈ rows, row.head = r.head → row.hash = r.hash → r.text = row.text := by
  constructor
  · intro h
    refine ⟨h.left, ?_⟩
    intro r hr hhead hhash
    exact h r (List.mem_append_left _ hr) row
      (List.mem_append_right _ (List.mem_singleton.mpr rfl)) hhead.symm hhash.symm
  · rintro ⟨hrows, hrow⟩ r hr s hs hhead hhash
    rcases List.mem_append.mp hr with hr | hr <;> rcases List.mem_append.mp hs with hs | hs
    · exact hrows r hr s hs hhead hhash
    · rw [List.mem_singleton.mp hs] at hhead hhash ⊢
      exact hrow r hr hhead.symm hhash.symm
    · rw [List.mem_singleton.mp hr] at hhead hhash ⊢
      exact (hrow s hs hhead hhash).symm
    · rw [List.mem_singleton.mp hr, List.mem_singleton.mp hs]

/-! ## Adding rows -/

/-- A row is added exactly if the rows still agree with it. -/
theorem pushRow_eq_ok_iff (h : OneText rows) :
    pushRow rows row = .ok out ↔ out = rows ++ [row] ∧ OneText (rows ++ [row]) := by
  rw [pushRow, oneText_concat]
  cases hf : rows.find? row.samePlace with
  | none =>
      have hfree : ∀ r ∈ rows, row.head = r.head → row.hash = r.hash → r.text = row.text := by
        intro r hr hhead hhash
        have hne := List.find?_eq_none.mp hf r hr
        exact absurd (samePlace_iff.mpr ⟨hhead, hhash⟩) hne
      constructor
      · intro ho
        exact ⟨(Except.ok.inj ho).symm, h, hfree⟩
      · rintro ⟨rfl, -⟩
        rfl
  | some earlier =>
      have hmem := List.mem_of_find?_eq_some hf
      obtain ⟨hhead, hhash⟩ := samePlace_iff.mp (List.find?_some hf)
      -- a row of the same place is there, and by invariant every other one agrees with it
      by_cases ht : earlier.text = row.text
      · have hall : ∀ r ∈ rows, row.head = r.head → row.hash = r.hash → r.text = row.text := by
          intro r hr hrhead hrhash
          rw [← ht]
          exact h r hr earlier hmem (hrhead.symm.trans hhead) (hrhash.symm.trans hhash)
        simp only [ht, if_true]
        constructor
        · intro ho
          exact ⟨(Except.ok.inj ho).symm, h, hall⟩
        · rintro ⟨rfl, -⟩
          rfl
      · simp only [ht, if_false]
        constructor
        · intro ho
          cases ho
        · rintro ⟨-, -, hall⟩
          exact absurd (hall earlier hmem hhead hhash) ht

/-- Rows are added exactly if all of them agree in the end. -/
theorem pushRows_eq_ok_iff (h : OneText rows) :
    pushRows rows new = .ok out ↔ out = rows ++ new ∧ OneText (rows ++ new) := by
  induction new generalizing rows with
  | nil =>
      rw [pushRows, List.append_nil]
      constructor
      · intro ho
        exact ⟨(Except.ok.inj ho).symm, h⟩
      · rintro ⟨rfl, -⟩
        rfl
  | cons row rest ih =>
      rw [pushRows, List.append_cons]
      -- the invariant is that the rows so far do not disagree; an accepted row keeps it
      cases hp : pushRow rows row with
      | error e =>
          constructor
          · intro ho
            cases ho
          · rintro ⟨-, hone⟩
            rw [(pushRow_eq_ok_iff h).mpr ⟨rfl, hone.left⟩] at hp
            cases hp
      | ok next =>
          obtain ⟨rfl, hone⟩ := (pushRow_eq_ok_iff h).mp hp
          exact ih hone

/-! ## The rows of a column -/

/-- The key text of a decorated column in a record. -/
def keyText (raw : RawTable) (column : DecoratedColumn) (record : List String) : String :=
  match keyColumn? raw column with
  | some key => record.getD key ""
  | none => ""

/-- The text of a decorated column in a record. -/
def localeText (column : DecoratedColumn) (record : List String) : String :=
  record.getD column.index ""

/-- The row that lists the key of a record. -/
def keyRow (raw : RawTable) (column : DecoratedColumn) (record : List String) : HashRow :=
  ⟨KeyHash.adler keyWord, KeyHash.adler (keyText raw column record), keyText raw column record⟩

/-- The row that lists the text of a record under the hash of its key. -/
def textRow (raw : RawTable) (column : DecoratedColumn) (record : List String) : HashRow :=
  ⟨KeyHash.adler column.locale, KeyHash.adler (keyText raw column record),
    localeText column record⟩

/-- The rows of a decorated column. -/
def sectionRows (raw : RawTable) (column : DecoratedColumn) : List HashRow :=
  localeRow column ::
    raw.retainedRecords.flatMap fun record => [keyRow raw column record, textRow raw column record]

/-- The rows of all decorated columns behind the head rows. -/
def extractedRows (raw : RawTable) : List HashRow :=
  headRows ++ (decoratedColumns raw.names).flatMap (sectionRows raw)

/-- Every decorated column has a key column. -/
def Keyed (raw : RawTable) (columns : List DecoratedColumn) : Prop :=
  ∀ column ∈ columns, ∃ key, keyColumn? raw column = some key

/-- A record gives a column two rows: its key, and its text under the locale. -/
theorem recordRows_eq {key : Nat} (h : keyColumn? raw column = some key) :
    recordRows column key
      = fun record => [keyRow raw column record, textRow raw column record] := by
  funext record
  simp only [recordRows, keyRow, textRow, keyText, localeText, h]

/-- A column gives the row of its locale, and behind it those of its records. -/
theorem sectionRows_eq {key : Nat} (h : keyColumn? raw column = some key) :
    sectionRows raw column = localeRow column :: columnRows raw column key := by
  rw [columnRows, recordRows_eq h, sectionRows]

theorem mem_sectionRows :
    r ∈ sectionRows raw column ↔
      r = localeRow column ∨ ∃ record ∈ raw.retainedRecords,
        r = keyRow raw column record ∨ r = textRow raw column record := by
  simp [sectionRows]

theorem mem_extractedRows :
    r ∈ extractedRows raw ↔
      r = ⟨0, 0, algorithmName⟩ ∨ r = ⟨0, KeyHash.adler keyWord, keyWord⟩ ∨
        ∃ column ∈ decoratedColumns raw.names, r ∈ sectionRows raw column := by
  simp [extractedRows, headRows]

/-- A column with a key column adds its section. -/
theorem pushColumns_cons {key : Nat} (h : keyColumn? raw column = some key) :
    pushColumns raw rows (column :: columns)
      = match pushRows rows (sectionRows raw column) with
        | .error e => .error e
        | .ok rows => pushColumns raw rows columns := by
  rw [pushColumns, sectionRows_eq h, pushRows, h]
  cases pushRow rows (localeRow column) <;> rfl

/-- Columns are added only if each has a key column. -/
theorem keyed_of_pushColumns {rows : List HashRow} :
    pushColumns raw rows columns = .ok out → Keyed raw columns := by
  induction columns generalizing rows with
  | nil => intro _ c hc; cases hc
  | cons column rest ih =>
      intro ho
      -- without a key column the pushes stop behind the row of the locale
      cases hk : keyColumn? raw column with
      | none =>
          rw [pushColumns, hk] at ho
          cases hp : pushRow rows (localeRow column) with
          | error e => rw [hp] at ho; cases ho
          | ok next => rw [hp] at ho; cases ho
      | some key =>
          rw [pushColumns_cons hk] at ho
          cases hp : pushRows rows (sectionRows raw column) with
          | error e => rw [hp] at ho; cases ho
          | ok next =>
              rw [hp] at ho
              intro c hc
              rcases List.mem_cons.mp hc with rfl | hc
              · exact ⟨key, hk⟩
              · exact ih ho c hc

/-- Columns with key columns are added exactly if all rows agree in the end. -/
theorem pushColumns_eq_ok_iff (h : OneText rows) (keyed : Keyed raw columns) :
    pushColumns raw rows columns = .ok out ↔
      out = rows ++ columns.flatMap (sectionRows raw) ∧
        OneText (rows ++ columns.flatMap (sectionRows raw)) := by
  induction columns generalizing rows with
  | nil =>
      rw [pushColumns, List.flatMap_nil, List.append_nil]
      constructor
      · intro ho
        exact ⟨(Except.ok.inj ho).symm, h⟩
      · rintro ⟨rfl, -⟩
        rfl
  | cons column rest ih =>
      obtain ⟨key, hk⟩ := keyed column (List.mem_cons_self ..)
      rw [pushColumns_cons hk, List.flatMap_cons, ← List.append_assoc]
      -- the rows of one column are pushed as one batch, with the invariant of `pushRows_eq_ok_iff`
      cases hp : pushRows rows (sectionRows raw column) with
      | error e =>
          constructor
          · intro ho
            cases ho
          · rintro ⟨-, hone⟩
            rw [(pushRows_eq_ok_iff h).mpr ⟨rfl, hone.left⟩] at hp
            cases hp
      | ok next =>
          obtain ⟨rfl, hone⟩ := (pushRows_eq_ok_iff h).mp hp
          exact ih hone fun c hc => keyed c (List.mem_cons_of_mem _ hc)

theorem oneText_headRows : OneText headRows := by
  decide

/-- **EXTRACTION**: a table has a hash table exactly if each decorated column has a key column and
no two rows of its flattening disagree, and then the hash table lists the flattening. -/
theorem extract_eq_ok_iff {h : HashTable} :
    HashTable.extract raw = .ok h ↔
      Keyed raw (decoratedColumns raw.names) ∧ OneText (extractedRows raw) ∧
        h = ⟨extractedRows raw, (distinctLocales (decoratedColumns raw.names)).length⟩ := by
  have hnil : OneText [] := fun r hr => absurd hr List.not_mem_nil
  have hhead : pushRows [] headRows = .ok headRows :=
    (pushRows_eq_ok_iff hnil).mpr ⟨rfl, oneText_headRows⟩
  simp only [HashTable.extract, hhead]
  cases hp : pushColumns raw headRows (decoratedColumns raw.names) with
  | error e =>
      constructor
      · intro ho
        cases ho
      · rintro ⟨hkeyed, hone, -⟩
        rw [(pushColumns_eq_ok_iff oneText_headRows hkeyed).mpr ⟨rfl, hone⟩] at hp
        cases hp
  | ok rows =>
      have hkeyed := keyed_of_pushColumns hp
      obtain ⟨rfl, hone⟩ := (pushColumns_eq_ok_iff oneText_headRows hkeyed).mp hp
      constructor
      · intro ho
        exact ⟨hkeyed, hone, (Except.ok.inj ho).symm⟩
      · rintro ⟨-, -, rfl⟩
        rfl

/-! ## Heads -/

/-- The head of keys is not the head of heads. -/
theorem adler_keyWord_ne_zero : KeyHash.adler keyWord ≠ 0 := by
  decide

/-- The name of the algorithm does not hash to zero, under which it stands. -/
theorem adler_algorithmName_ne_zero : KeyHash.adler algorithmName ≠ 0 := by
  decide

/-- The row that names the hash algorithm. -/
def algorithmRow : HashRow := ⟨0, 0, algorithmName⟩

/-- The row that names the word for keys. -/
def keyWordRow : HashRow := ⟨0, KeyHash.adler keyWord, keyWord⟩

theorem algorithmRow_mem : algorithmRow ∈ extractedRows raw :=
  mem_extractedRows.mpr (Or.inl rfl)

theorem keyWordRow_mem : keyWordRow ∈ extractedRows raw :=
  mem_extractedRows.mpr (Or.inr (Or.inl rfl))

theorem localeRow_mem (mem : column ∈ decoratedColumns raw.names) :
    localeRow column ∈ extractedRows raw :=
  mem_extractedRows.mpr (Or.inr (Or.inr ⟨column, mem, mem_sectionRows.mpr (Or.inl rfl)⟩))

/-- Every record that counts has the row of its key for each decorated column. -/
theorem keyRow_mem {record : List String} (mem : column ∈ decoratedColumns raw.names)
    (hrecord : record ∈ raw.retainedRecords) : keyRow raw column record ∈ extractedRows raw :=
  mem_extractedRows.mpr (Or.inr (Or.inr
    ⟨column, mem, mem_sectionRows.mpr (Or.inr ⟨record, hrecord, Or.inl rfl⟩)⟩))

theorem textRow_mem {record : List String} (mem : column ∈ decoratedColumns raw.names)
    (hrecord : record ∈ raw.retainedRecords) : textRow raw column record ∈ extractedRows raw :=
  mem_extractedRows.mpr (Or.inr (Or.inr
    ⟨column, mem, mem_sectionRows.mpr (Or.inr ⟨record, hrecord, Or.inr rfl⟩)⟩))

/-- No locale is filed under head zero: its place there is that of the algorithm. -/
theorem adler_locale_ne_zero (one : OneText (extractedRows raw))
    (mem : column ∈ decoratedColumns raw.names) : KeyHash.adler column.locale ≠ 0 := by
  intro hzero
  have hname : column.locale = algorithmName :=
    one (localeRow column) (localeRow_mem mem) algorithmRow algorithmRow_mem rfl hzero
  exact adler_algorithmName_ne_zero (hname ▸ hzero)

/-- Only the word for keys is filed under the head of keys. -/
theorem locale_eq_keyWord (one : OneText (extractedRows raw))
    (mem : column ∈ decoratedColumns raw.names)
    (h : KeyHash.adler column.locale = KeyHash.adler keyWord) : column.locale = keyWord :=
  one (localeRow column) (localeRow_mem mem) keyWordRow keyWordRow_mem rfl h

/-- Where no rows disagree, locales with one hash are one locale. -/
theorem locale_eq_of_adler_eq (one : OneText (extractedRows raw)) {other : DecoratedColumn}
    (mem : column ∈ decoratedColumns raw.names) (hother : other ∈ decoratedColumns raw.names)
    (h : KeyHash.adler column.locale = KeyHash.adler other.locale) :
    column.locale = other.locale :=
  one (localeRow column) (localeRow_mem mem) (localeRow other) (localeRow_mem hother) rfl h

/-- What is filed under head zero. -/
theorem mem_headZero (one : OneText (extractedRows raw)) {hash : UInt32} {text : String} :
    ⟨0, hash, text⟩ ∈ extractedRows raw ↔
      (hash, text) = (0, algorithmName) ∨ (hash, text) = (KeyHash.adler keyWord, keyWord) ∨
        ∃ column ∈ decoratedColumns raw.names,
          (hash, text) = (KeyHash.adler column.locale, column.locale) := by
  rw [mem_extractedRows]
  constructor
  · rintro (h | h | ⟨column, hc, hr⟩)
    · exact Or.inl (by simpa using h)
    · exact Or.inr (Or.inl (by simpa using h))
    · refine Or.inr (Or.inr ⟨column, hc, ?_⟩)
      -- the rows of keys and texts stand under other heads, whose hashes are not zero
      rcases mem_sectionRows.mp hr with h | ⟨record, hrecord, h | h⟩
      · simpa [localeRow] using h
      · exact absurd (congrArg HashRow.head h).symm adler_keyWord_ne_zero
      · exact absurd (congrArg HashRow.head h).symm (adler_locale_ne_zero one hc)
  · rintro (h | h | ⟨column, hc, h⟩)
    · exact Or.inl (by simpa using h)
    · exact Or.inr (Or.inl (by simpa using h))
    · refine Or.inr (Or.inr ⟨column, hc, mem_sectionRows.mpr (Or.inl ?_)⟩)
      simpa [localeRow] using h

/-- What is filed under the head of keys: the key texts under their own hashes, also where a locale
has the word for keys as its name. -/
theorem mem_keyHead (one : OneText (extractedRows raw)) {hash : UInt32} {text : String} :
    ⟨KeyHash.adler keyWord, hash, text⟩ ∈ extractedRows raw ↔
      ∃ column ∈ decoratedColumns raw.names, ∃ record ∈ raw.retainedRecords,
        hash = KeyHash.adler (keyText raw column record) ∧ text = keyText raw column record := by
  constructor
  · intro hmem
    rcases mem_extractedRows.mp hmem with h | h | ⟨column, hc, hr⟩
    · exact absurd (congrArg HashRow.head h) adler_keyWord_ne_zero
    · exact absurd (congrArg HashRow.head h) adler_keyWord_ne_zero
    · rcases mem_sectionRows.mp hr with h | ⟨record, hrecord, h | h⟩
      · exact absurd (congrArg HashRow.head h) adler_keyWord_ne_zero
      · exact ⟨column, hc, record, hrecord, congrArg HashRow.hash h, congrArg HashRow.text h⟩
      · -- the key row of the same record has the same place
        have hhash : hash = KeyHash.adler (keyText raw column record) :=
          congrArg HashRow.hash h
        exact ⟨column, hc, record, hrecord, hhash,
          one _ hmem _ (keyRow_mem hc hrecord) rfl hhash⟩
  · rintro ⟨column, hc, record, hrecord, rfl, rfl⟩
    exact keyRow_mem hc hrecord

/-- What is filed under the head of a locale: the texts of its columns under the hashes of their
keys. -/
theorem mem_localeHead (one : OneText (extractedRows raw))
    (mem : column ∈ decoratedColumns raw.names) (other : column.locale ≠ keyWord)
    {hash : UInt32} {text : String} :
    ⟨KeyHash.adler column.locale, hash, text⟩ ∈ extractedRows raw ↔
      ∃ c ∈ decoratedColumns raw.names, c.locale = column.locale ∧
        ∃ record ∈ raw.retainedRecords,
          hash = KeyHash.adler (keyText raw c record) ∧ text = localeText c record := by
  have hzero := adler_locale_ne_zero one mem
  constructor
  · intro hmem
    rcases mem_extractedRows.mp hmem with h | h | ⟨c, hc, hr⟩
    · exact absurd (congrArg HashRow.head h) hzero
    · exact absurd (congrArg HashRow.head h) hzero
    · rcases mem_sectionRows.mp hr with h | ⟨record, hrecord, h | h⟩
      · exact absurd (congrArg HashRow.head h) hzero
      · exact absurd (locale_eq_keyWord one mem (congrArg HashRow.head h)) other
      · exact ⟨c, hc, (locale_eq_of_adler_eq one mem hc (congrArg HashRow.head h)).symm,
          record, hrecord, congrArg HashRow.hash h, congrArg HashRow.text h⟩
  · rintro ⟨c, hc, hlocale, record, hrecord, rfl, rfl⟩
    rw [← hlocale]
    exact textRow_mem hc hrecord

end TableCompiler.Localization
