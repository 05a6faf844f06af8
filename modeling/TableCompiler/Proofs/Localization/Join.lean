import Mathlib.Data.List.Nodup
import TableCompiler.Proofs.Localization.Regrouping

/-!
# The join — extracting and pivoting, seen from the source table

Flattening the decorated columns and regrouping the rows by head is a join of these columns on their
key texts.  `JoinsTexts` states it without hashes in between: the keys of the text table are the key
texts of the source, each once; every text of every decorated column stands in the row of its key,
under its locale; and nothing else stands there.

The word for keys heads the column of the key texts.  A locale of that name has no column of its own:
its texts must be the key texts, and rows may stand there whose key none of its columns has.
-/

namespace TableCompiler.Localization

variable {raw : RawTable} {t : TextTable} {column : DecoratedColumn} {record : List String}
variable {head hash : UInt32} {text : String} {position : Nat} {row : TextRow}

/-! ## The statement -/

/-- The decorated columns with the records that count, column by column. -/
def textPairs (raw : RawTable) : List (DecoratedColumn × List String) :=
  (decoratedColumns raw.names).flatMap fun column => raw.retainedRecords.map fun r => (column, r)

/-- The key texts of the decorated columns, column by column and record by record. -/
def keyTexts (raw : RawTable) : List String :=
  (textPairs raw).map fun p => keyText raw p.1 p.2

/-- Whether a text stands in a row under a header entry behind the first one. -/
def StandsUnder (t : TextTable) (row : TextRow) (locale text : String) : Prop :=
  (locale, text) ∈ (t.header.drop 1).zip row.texts

/-- Whether a text belongs to a locale and a key: a column of the locale has it in a record with that
key. -/
def Localizes (raw : RawTable) (locale key text : String) : Prop :=
  ∃ column ∈ decoratedColumns raw.names, column.locale = locale ∧
    ∃ record ∈ raw.retainedRecords,
      keyText raw column record = key ∧ localeText column record = text

/-- A text table that joins the decorated columns of a source table on their keys. -/
structure JoinsTexts (raw : RawTable) (t : TextTable) : Prop where
  /-- The first texts are the key texts, each once, in the order in which they are first seen. -/
  keys : t.rows.map (fun row => row.texts[0]?) = (keyTexts raw).eraseDups.map some
  /-- The hash of a row is that of its first text. -/
  hashes : ∀ row ∈ t.rows, ∀ key, row.texts[0]? = some key → row.hash = KeyHash.adler key
  /-- No two rows have one hash. -/
  hashesDiffer : (t.rows.map TextRow.hash).Nodup
  /-- No two header entries behind the first are the same. -/
  localesDiffer : (t.header.drop 1).Nodup
  /-- Every decorated column has a key column. -/
  keyed : Keyed raw (decoratedColumns raw.names)
  /-- One row has the key of a record. -/
  keyedRow : ∀ column ∈ decoratedColumns raw.names, ∀ record ∈ raw.retainedRecords,
    ∃! row, row ∈ t.rows ∧ row.texts[0]? = some (keyText raw column record)
  /-- The row with the key of a record has its text under the locale of the column. -/
  carried : ∀ column ∈ decoratedColumns raw.names, ∀ record ∈ raw.retainedRecords,
    ∀ row ∈ t.rows, row.texts[0]? = some (keyText raw column record) →
      StandsUnder t row column.locale (localeText column record)
  /-- What stands under a locale other than the word for keys is one of its texts for that key. -/
  sourced : ∀ row ∈ t.rows, ∀ locale text, StandsUnder t row locale text → locale ≠ keyWord →
    ∃ key, row.texts[0]? = some key ∧ Localizes raw locale key text
  /-- What stands under the word for keys is the key. -/
  reserved : ∀ row ∈ t.rows, ∀ text, StandsUnder t row keyWord text → row.texts[0]? = some text

/-! ## The declared heads -/

/-- Under head zero the algorithm stands first and the word for keys second, for their hashes differ.
-/
theorem headEntries_zero (one : OneText (extractedRows raw)) :
    ∃ locales, headEntries (extractedRows raw) 0
      = (0, algorithmName) :: (KeyHash.adler keyWord, keyWord) :: locales := by
  have hlisted : ∃ rest, listedEntries (extractedRows raw) 0
      = (0, algorithmName) :: (KeyHash.adler keyWord, keyWord) :: rest := ⟨_, rfl⟩
  have hne : ((KeyHash.adler keyWord, keyWord) == ((0 : UInt32), algorithmName)) = false := by
    decide
  obtain ⟨rest, hrest⟩ := hlisted
  rw [headEntries_eq_eraseDups one, hrest, List.eraseDups_cons,
    List.filter_cons_of_pos (by rw [hne]; rfl), List.eraseDups_cons]
  exact ⟨_, rfl⟩

/-- Each declared head is the hash of the text that declares it. -/
theorem mem_declaredHeads (one : OneText (extractedRows raw)) {e : UInt32 × String} :
    e ∈ declaredHeads (extractedRows raw) ↔
      e = (KeyHash.adler keyWord, keyWord) ∨
        ∃ column ∈ decoratedColumns raw.names,
          e = (KeyHash.adler column.locale, column.locale) := by
  obtain ⟨locales, hzero⟩ := headEntries_zero one
  have hnodup : ((headEntries (extractedRows raw) 0).map Prod.fst).Nodup :=
    nodup_hashes_headEntries one
  have hmem : e ∈ headEntries (extractedRows raw) 0 ↔ _ :=
    (mem_headEntries one).trans (mem_headZero one)
  rw [hzero] at hnodup hmem
  rw [declaredHeads, hzero, List.drop_one, List.tail_cons]
  -- the algorithm is dropped as the first entry, and no other entry has its hash
  constructor
  · intro he
    rcases hmem.mp (List.mem_cons_of_mem _ he) with h | h
    · have hfirst := (List.nodup_cons.mp hnodup).1
      exact absurd (List.mem_map.mpr ⟨e, he, congrArg Prod.fst h⟩) hfirst
    · exact h
  · intro h
    rcases List.mem_cons.mp (hmem.mpr (Or.inr h)) with rfl | he
    · rcases h with h | ⟨column, hc, h⟩
      · exact absurd (congrArg Prod.fst h).symm adler_keyWord_ne_zero
      · exact absurd (congrArg Prod.fst h).symm (adler_locale_ne_zero one hc)
    · exact he

theorem keyHead_declared (one : OneText (extractedRows raw)) :
    (KeyHash.adler keyWord, keyWord) ∈ declaredHeads (extractedRows raw) :=
  (mem_declaredHeads one).mpr (Or.inl rfl)

theorem localeHead_declared (one : OneText (extractedRows raw))
    (mem : column ∈ decoratedColumns raw.names) :
    (KeyHash.adler column.locale, column.locale) ∈ declaredHeads (extractedRows raw) :=
  (mem_declaredHeads one).mpr (Or.inr ⟨column, mem, rfl⟩)

/-- A declared head is the hash of its word. -/
theorem fst_of_mem_declaredHeads (one : OneText (extractedRows raw)) {e : UInt32 × String}
    (h : e ∈ declaredHeads (extractedRows raw)) : e.1 = KeyHash.adler e.2 := by
  rcases (mem_declaredHeads one).mp h with rfl | ⟨column, -, rfl⟩ <;> rfl

/-- No word is declared twice, since no hash is. -/
theorem nodup_locales (one : OneText (extractedRows raw)) :
    ((declaredHeads (extractedRows raw)).map Prod.snd).Nodup := by
  -- words are told apart by their hashes, which the rows under head zero do not repeat
  refine List.Nodup.of_map KeyHash.adler ?_
  have hheads : ((declaredHeads (extractedRows raw)).map Prod.snd).map KeyHash.adler
      = (declaredHeads (extractedRows raw)).map Prod.fst := by
    rw [List.map_map]
    exact List.map_congr_left fun e he => (fst_of_mem_declaredHeads one he).symm
  rw [hheads, declaredHeads, List.map_drop]
  exact (nodup_hashes_headEntries one).sublist (List.drop_sublist _ _)

/-! ## The keys -/

theorem listedEntries_append (xs ys : List HashRow) :
    listedEntries (xs ++ ys) head = listedEntries xs head ++ listedEntries ys head := by
  simp [listedEntries]

theorem listedEntries_flatMap {α : Type} (f : α → List HashRow) (xs : List α) :
    listedEntries (xs.flatMap f) head = xs.flatMap fun x => listedEntries (f x) head := by
  induction xs with
  | nil => rfl
  | cons x rest ih => rw [List.flatMap_cons, listedEntries_append, ih, List.flatMap_cons]

/-- A head other than zero lists what the pairs of columns and records give it. -/
theorem listedEntries_extractedRows (h : head ≠ 0) :
    listedEntries (extractedRows raw) head
      = (textPairs raw).flatMap fun p =>
          listedEntries [keyRow raw p.1 p.2, textRow raw p.1 p.2] head := by
  have hzero : ∀ hash text, listedEntries [⟨0, hash, text⟩] head = [] := by
    intro hash text
    simp [listedEntries, h.symm]
  have hsection : ∀ column, listedEntries (sectionRows raw column) head
      = raw.retainedRecords.flatMap fun r =>
          listedEntries [keyRow raw column r, textRow raw column r] head := by
    intro column
    rw [sectionRows, ← List.singleton_append, listedEntries_append, localeRow, hzero,
      List.nil_append, listedEntries_flatMap]
  have hhead : listedEntries headRows head = [] := by
    rw [headRows, ← List.singleton_append, listedEntries_append, hzero, hzero, List.append_nil]
  rw [extractedRows, listedEntries_append, hhead, List.nil_append, listedEntries_flatMap,
    textPairs, List.flatMap_assoc]
  simp only [hsection, List.flatMap_map]

theorem mem_textPairs :
    (column, record) ∈ textPairs raw ↔
      column ∈ decoratedColumns raw.names ∧ record ∈ raw.retainedRecords := by
  simp [textPairs]

/-- The head of keys lists the key texts under their hashes, each once, in first-seen order. -/
theorem headEntries_keys (one : OneText (extractedRows raw)) :
    headEntries (extractedRows raw) (KeyHash.adler keyWord)
      = (keyTexts raw).eraseDups.map fun key => (KeyHash.adler key, key) := by
  -- a text row comes under the head of keys only if its locale is named by the word for them, and
  -- then it repeats the key row of its record
  have hcopies : ∀ p ∈ textPairs raw,
      listedEntries [keyRow raw p.1 p.2, textRow raw p.1 p.2] (KeyHash.adler keyWord) ≠ [] ∧
        ∀ e ∈ listedEntries [keyRow raw p.1 p.2, textRow raw p.1 p.2] (KeyHash.adler keyWord),
          e = (KeyHash.adler (keyText raw p.1 p.2), keyText raw p.1 p.2) := by
    intro p hp
    obtain ⟨hc, hr⟩ := mem_textPairs.mp hp
    have hkey : (KeyHash.adler (keyText raw p.1 p.2), keyText raw p.1 p.2)
        ∈ listedEntries [keyRow raw p.1 p.2, textRow raw p.1 p.2] (KeyHash.adler keyWord) :=
      mem_listedEntries.mpr (List.mem_cons_self ..)
    refine ⟨List.ne_nil_of_mem hkey, ?_⟩
    rintro ⟨hash, text⟩ he
    have hmem : ⟨KeyHash.adler keyWord, hash, text⟩ ∈ extractedRows raw := by
      rcases List.mem_cons.mp (mem_listedEntries.mp he) with h | h
      · rw [h]
        exact keyRow_mem hc hr
      · rw [List.mem_singleton.mp h]
        exact textRow_mem hc hr
    have hhash : hash = KeyHash.adler (keyText raw p.1 p.2) := by
      rcases List.mem_cons.mp (mem_listedEntries.mp he) with h | h
      · exact congrArg HashRow.hash h
      · exact congrArg HashRow.hash (List.mem_singleton.mp h)
    have htext : text = keyText raw p.1 p.2 := one _ hmem _ (keyRow_mem hc hr) rfl hhash
    rw [hhash, htext]
  rw [headEntries_eq_eraseDups one, listedEntries_extractedRows adler_keyWord_ne_zero,
    eraseDups_flatMap_copies hcopies, keyTexts]
  rw [map_eraseDups (f := fun key => (KeyHash.adler key, key))
    (fun x _ y _ h => congrArg Prod.snd h), List.map_map]
  rfl

/-! ## The rows of the text table -/

section Rows

variable (one : OneText (extractedRows raw)) (regrouped : PivotedFrom (extractedRows raw) t)
include one regrouped

/-- The first text of a row is the entry of the head of keys at its position. -/
theorem first_text (hrow : t.rows[position]? = some row) :
    ∃ key, row.texts[0]? = some key ∧
      (headEntries (extractedRows raw) (KeyHash.adler keyWord))[position]?
        = some (row.hash, key) := by
  obtain ⟨textOf, htexts, hplaced⟩ := regrouped.placed position row hrow
  obtain ⟨locales, hzero⟩ := headEntries_zero one
  have hentry := hplaced (KeyHash.adler keyWord, keyWord) (keyHead_declared one)
  refine ⟨textOf (KeyHash.adler keyWord, keyWord), ?_, hentry⟩
  rw [htexts, declaredHeads, hzero]
  rfl

/-- Row by row, hashes and first texts are the entries of the head of keys. -/
theorem rows_eq_keyEntries :
    t.rows.map (fun row => (row.hash, row.texts[0]?))
      = (headEntries (extractedRows raw) (KeyHash.adler keyWord)).map
          fun e => (e.1, some e.2) := by
  refine List.ext_getElem? fun position => ?_
  rw [List.getElem?_map, List.getElem?_map]
  cases hrow : t.rows[position]? with
  | some row =>
      obtain ⟨key, hfirst, hentry⟩ := first_text one regrouped hrow
      rw [hentry, Option.map_some, Option.map_some, hfirst]
  | none =>
      have hout := List.getElem?_eq_none_iff.mp hrow
      rw [← regrouped.sized _ (keyHead_declared one)] at hout
      rw [List.getElem?_eq_none_iff.mpr hout]
      rfl

/-- The first texts of the rows are the key texts, each once, as they are first seen. -/
theorem keys_eq :
    t.rows.map (fun row => row.texts[0]?) = (keyTexts raw).eraseDups.map some := by
  have h := congrArg (List.map Prod.snd) (rows_eq_keyEntries one regrouped)
  rw [headEntries_keys one, List.map_map, List.map_map, List.map_map] at h
  exact h

/-- The hashes of the rows are those under the head of keys. -/
theorem hashes_eq :
    t.rows.map TextRow.hash
      = (headEntries (extractedRows raw) (KeyHash.adler keyWord)).map Prod.fst := by
  have h := congrArg (List.map Prod.fst) (rows_eq_keyEntries one regrouped)
  rw [List.map_map, List.map_map] at h
  exact h

/-- The hash of a row is that of its first text. -/
theorem hash_of_first_text {key : String} (hmem : row ∈ t.rows)
    (hkey : row.texts[0]? = some key) : row.hash = KeyHash.adler key := by
  obtain ⟨position, hrow⟩ := List.mem_iff_getElem?.mp hmem
  obtain ⟨key', hfirst, hentry⟩ := first_text one regrouped hrow
  -- the entry at this position comes of a row of the extraction, which hashed its own text
  obtain rfl : key = key' := Option.some.inj (hkey.symm.trans hfirst)
  have hlisted := (mem_headEntries one).mp (List.mem_iff_getElem?.mpr ⟨position, hentry⟩)
  obtain ⟨column, -, record, -, hhash, htext⟩ := (mem_keyHead one).mp hlisted
  rw [hhash, htext]

/-- The row of a record's key is there, once. -/
theorem exists_unique_row (hc : column ∈ decoratedColumns raw.names)
    (hr : record ∈ raw.retainedRecords) :
    ∃! row, row ∈ t.rows ∧ row.texts[0]? = some (keyText raw column record) := by
  have hkey : some (keyText raw column record) ∈ t.rows.map fun row => row.texts[0]? := by
    rw [keys_eq one regrouped]
    refine List.mem_map.mpr ⟨_, List.mem_eraseDups.mpr (List.mem_map.mpr ?_), rfl⟩
    exact ⟨(column, record), mem_textPairs.mpr ⟨hc, hr⟩, rfl⟩
  obtain ⟨row, hrow, hfirst⟩ := List.mem_map.mp hkey
  refine ⟨row, ⟨hrow, hfirst⟩, ?_⟩
  rintro other ⟨hother, hsame⟩
  have hnodup : (t.rows.map TextRow.hash).Nodup := by
    rw [hashes_eq one regrouped]
    exact nodup_hashes_headEntries one
  refine List.inj_on_of_nodup_map hnodup hother hrow ?_
  rw [hash_of_first_text one regrouped hother hsame, hash_of_first_text one regrouped hrow hfirst]

/-- The text of a record stands in the row of its key, under the locale. -/
theorem standsUnder_locale (hc : column ∈ decoratedColumns raw.names)
    (hr : record ∈ raw.retainedRecords) (hmem : row ∈ t.rows)
    (hkey : row.texts[0]? = some (keyText raw column record)) :
    StandsUnder t row column.locale (localeText column record) := by
  obtain ⟨position, hrow⟩ := List.mem_iff_getElem?.mp hmem
  have hhead := localeHead_declared one hc
  obtain ⟨textOf, -, hplaced⟩ := regrouped.placed position row hrow
  have hentry := hplaced _ hhead
  -- the entry and the record's own row share a place, so they share the text
  have htext : textOf (KeyHash.adler column.locale, column.locale)
      = localeText column record :=
    one _ ((mem_headEntries one).mp (List.mem_iff_getElem?.mpr ⟨position, hentry⟩))
      _ (textRow_mem hc hr) rfl (hash_of_first_text one regrouped hmem hkey)
  exact (regrouped.mem_zip hrow).mpr ⟨_, hhead, rfl, by rw [hentry, htext]⟩

/-- What stands under a locale other than the word for keys comes of one of its columns. -/
theorem localizes_of_standsUnder {locale : String} (hmem : row ∈ t.rows)
    (hstands : StandsUnder t row locale text) (other : locale ≠ keyWord) :
    ∃ key, row.texts[0]? = some key ∧ Localizes raw locale key text := by
  obtain ⟨position, hrow⟩ := List.mem_iff_getElem?.mp hmem
  obtain ⟨e, he, rfl, hentry⟩ := (regrouped.mem_zip hrow).mp hstands
  obtain ⟨key, hfirst, hkeyEntry⟩ := first_text one regrouped hrow
  refine ⟨key, hfirst, ?_⟩
  have hlisted := (mem_headEntries one).mp (List.mem_iff_getElem?.mpr ⟨position, hentry⟩)
  have hkeyListed := (mem_headEntries one).mp (List.mem_iff_getElem?.mpr ⟨position, hkeyEntry⟩)
  rcases (mem_declaredHeads one).mp he with rfl | ⟨column, hc, rfl⟩
  · exact absurd rfl other
  · obtain ⟨c, hcMem, hlocale, record, hr, hhash, htext⟩ :=
      (mem_localeHead one hc other).mp hlisted
    refine ⟨c, hcMem, hlocale, record, hr, ?_, htext.symm⟩
    exact (one _ hkeyListed _ (keyRow_mem hcMem hr) rfl hhash).symm

/-- What stands under the word for keys is the first text of the row. -/
theorem first_text_of_standsUnder_keyWord (hmem : row ∈ t.rows)
    (hstands : StandsUnder t row keyWord text) : row.texts[0]? = some text := by
  obtain ⟨position, hrow⟩ := List.mem_iff_getElem?.mp hmem
  obtain ⟨e, he, hword, hentry⟩ := (regrouped.mem_zip hrow).mp hstands
  obtain ⟨key, hfirst, hkeyEntry⟩ := first_text one regrouped hrow
  -- the header entry is the word for keys, so its head is the head of keys itself
  rw [fst_of_mem_declaredHeads one he, hword, hkeyEntry] at hentry
  rw [hfirst, (Prod.mk.inj (Option.some.inj hentry)).2]

end Rows

/-- **THE JOIN**: extracting and pivoting join the decorated columns on their key texts. -/
theorem joinsTexts_of_pivot {h : HashTable} (extracted : HashTable.extract raw = .ok h)
    (pivoted : TextTable.pivot h = .ok t) : JoinsTexts raw t := by
  obtain ⟨hkeyed, one, rfl⟩ := extract_eq_ok_iff.mp extracted
  have regrouped := pivotedFrom_of_pivot pivoted
  exact
    { keys := keys_eq one regrouped
      hashes := fun row hrow key hkey => hash_of_first_text one regrouped hrow hkey
      hashesDiffer := by
        rw [hashes_eq one regrouped]
        exact nodup_hashes_headEntries one
      localesDiffer := by
        rw [regrouped.header, ← List.map_drop]
        exact nodup_locales one
      keyed := hkeyed
      keyedRow := fun column hc record hr => exists_unique_row one regrouped hc hr
      carried := fun column hc record hr row hrow hkey =>
        standsUnder_locale one regrouped hc hr hrow hkey
      sourced := fun row hrow locale text hstands other =>
        localizes_of_standsUnder one regrouped hrow hstands other
      reserved := fun row hrow text hstands =>
        first_text_of_standsUnder_keyWord one regrouped hrow hstands }

/-- Names and notes in two locales.  A name comes twice, notes have no column of their own and are
keyed by the first plain column, and one record is a comment. -/
def namesAndNotes : RawTable where
  names := ["id", "name", "$name[en]", "$note[en]", "$name[ko]", "$note[ko]"]
  types := ["int:pk", "str:key", "str", "str", "str", "str"]
  records := [["1", "SWORD", "Sword", "A blade.", "검", "칼날."],
    ["#2", "OLD", "Old", "Retired.", "낡은", "폐기."],
    ["3", "SWORD", "Sword", "Rusty.", "검", "녹슨."]]
  typed := rfl
  rectangular := by decide

def namesAndNotesTexts : TextTable where
  header := ["adler32", "key", "en", "ko"]
  rows := [⟨KeyHash.adler "SWORD", ["SWORD", "Sword", "검"]⟩,
    ⟨KeyHash.adler "1", ["1", "A blade.", "칼날."]⟩,
    ⟨KeyHash.adler "3", ["3", "Rusty.", "녹슨."]⟩]
  aligned := by decide

/-- A key that comes twice, a key column of another name and a record that is a comment. -/
theorem joinsTexts_namesAndNotes :
    HashTable.extract namesAndNotes = .ok ⟨extractedRows namesAndNotes, 2⟩ ∧
      TextTable.pivot ⟨extractedRows namesAndNotes, 2⟩ = .ok namesAndNotesTexts ∧
      JoinsTexts namesAndNotes namesAndNotesTexts :=
  ⟨rfl, rfl, joinsTexts_of_pivot (h := ⟨extractedRows namesAndNotes, 2⟩) rfl rfl⟩

/-- A locale with the word for keys as its name, beside a locale with other keys. -/
def keyLocale : RawTable where
  names := ["a", "b", "$a[en]", "$b[key]"]
  types := ["str", "str", "str", "str"]
  records := [["x", "x", "X", "x"], ["y", "x", "Y", "x"]]
  typed := rfl
  rectangular := by decide

def keyLocaleTexts : TextTable where
  header := ["adler32", "key", "en"]
  rows := [⟨KeyHash.adler "x", ["x", "X"]⟩, ⟨KeyHash.adler "y", ["y", "Y"]⟩]
  aligned := by decide

/-- **A LOCALE NAMED BY THE WORD FOR KEYS** has no column of its own: what stands under its name are the
keys of all locales, and need not come from its columns. -/
theorem not_every_locale_sourced :
    ¬ ∀ (raw : RawTable) (h : HashTable) (t : TextTable),
      HashTable.extract raw = .ok h → TextTable.pivot h = .ok t →
        ∀ column ∈ decoratedColumns raw.names, ∀ row ∈ t.rows, ∀ text,
          StandsUnder t row column.locale text →
            ∃ key, row.texts[0]? = some key ∧ Localizes raw column.locale key text := by
  intro every
  have hstands : StandsUnder keyLocaleTexts ⟨KeyHash.adler "y", ["y", "Y"]⟩ "key" "y" :=
    List.mem_cons_self ..
  obtain ⟨key, hkey, column, hc, hlocale, record, hr, hkeyText, -⟩ :=
    every keyLocale ⟨extractedRows keyLocale, 2⟩ keyLocaleTexts rfl rfl ⟨3, "b", "key"⟩
      (by decide) ⟨KeyHash.adler "y", ["y", "Y"]⟩ (by decide) "y" hstands
  have hnone : ∀ column ∈ decoratedColumns keyLocale.names, column.locale = "key" →
      ∀ record ∈ keyLocale.retainedRecords, keyText keyLocale column record ≠ "y" := by
    decide
  exact hnone column hc hlocale record hr (hkeyText.trans (Option.some.inj hkey).symm)

end TableCompiler.Localization
