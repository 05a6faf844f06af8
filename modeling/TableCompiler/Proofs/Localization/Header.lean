import TableCompiler.Proofs.Localization.Pivoting

/-!
# The header — which locales have a column

Head zero lists the word for keys and the locales by their hashes, and extraction has made sure that a
hash stands for one of them.  So the header names the algorithm, then each of these words once
(`header_of_extracted`), and the locales are counted by name with the same result, whatever they are
called.  One name is taken: a locale called like the word for keys is listed already, and gets no column
beside that of the keys.  It is the only one (`one_column_per_locale_iff`).
-/

namespace TableCompiler.Localization

variable {raw : RawTable} {h : HashTable} {t : TextTable} {row : TextRow}

/-- The word for keys in front of the locales is met there once more, or not at all. -/
theorem eraseDups_keyWord_cons (raw : RawTable) :
    (keyWord :: (decoratedColumns raw.names).map DecoratedColumn.locale).eraseDups
      = keyWord :: (locales raw).erase keyWord := by
  have once : (locales raw).Nodup := nodup_eraseDups _
  rw [List.eraseDups_cons, filter_eraseDups, once.erase_eq_filter]
  rfl

/-- **THE HEADER** names the algorithm, the keys, and the locales that are not called like the keys. -/
theorem header_of_extracted (extracted : HashTable.extract raw = .ok h)
    (pivoted : TextTable.pivot h = .ok t) :
    t.header = algorithmName :: keyWord :: (locales raw).erase keyWord := by
  obtain ⟨-, one, rfl⟩ := extract_eq_ok_iff.mp extracted
  rw [header_words one pivoted, eraseDups_keyWord_cons]

/-- The locales are counted by name. -/
theorem localeCount_of_extracted (extracted : HashTable.extract raw = .ok h) :
    h.localeCount = (locales raw).length := by
  obtain ⟨-, -, rfl⟩ := extract_eq_ok_iff.mp extracted
  exact congrArg List.length (distinctLocales_eq _)

/-- **ONE COLUMN PER LOCALE**: the header lists all locales behind the algorithm and the word for keys,
with as many entries as were counted and a text for each in every row, exactly if no locale is called
like the word for keys.  A locale of that name has no column of its own, and all others have one. -/
theorem one_column_per_locale_iff (extracted : HashTable.extract raw = .ok h)
    (pivoted : TextTable.pivot h = .ok t) :
    t.header = algorithmName :: keyWord :: (locales raw).erase keyWord ∧
    ((t.header = algorithmName :: keyWord :: locales raw ∧
        t.header.length = 2 + h.localeCount ∧
        ∀ row ∈ t.rows, row.texts.length = 1 + h.localeCount) ↔ keyWord ∉ locales raw) ∧
    (keyWord ∈ locales raw →
      t.header.length = 1 + h.localeCount ∧
        ∀ row ∈ t.rows, row.texts.length = h.localeCount) := by
  have hheader := header_of_extracted extracted pivoted
  have hcount := localeCount_of_extracted extracted
  have hlength : t.header.length = 2 + ((locales raw).erase keyWord).length := by
    rw [hheader, List.length_cons, List.length_cons]
    omega
  -- a row has a text for every entry of the header but the first
  have hrows : ∀ row ∈ t.rows, row.texts.length + 1 = t.header.length := t.aligned
  have htaken : keyWord ∈ locales raw → t.header.length = 1 + h.localeCount := by
    intro hmem
    have hpos : 0 < (locales raw).length := List.length_pos_of_mem hmem
    have herase := List.length_erase_of_mem hmem
    omega
  refine ⟨hheader, ⟨?_, fun hfree => ?_⟩, fun hmem => ⟨htaken hmem, fun row hrow => ?_⟩⟩
  · rintro ⟨-, hall, -⟩ hmem
    have := htaken hmem
    omega
  · rw [List.erase_of_not_mem hfree] at hheader hlength
    refine ⟨hheader, by omega, fun row hrow => ?_⟩
    have := hrows row hrow
    omega
  · have := hrows row hrow
    have := htaken hmem
    omega

/-- Names in English, and as a locale of their own the keys that stand for them. -/
def keysAsLocale : RawTable where
  names := ["id", "$id[en]", "$id[key]"]
  types := ["str:key", "str", "str"]
  records := [["SWORD", "Sword", "SWORD"], ["BOW", "Bow", "BOW"]]
  typed := rfl
  rectangular := by decide

def keysAsLocaleTexts : TextTable where
  header := ["adler32", "key", "en"]
  rows := [⟨KeyHash.adler "SWORD", ["SWORD", "Sword"]⟩, ⟨KeyHash.adler "BOW", ["BOW", "Bow"]⟩]
  aligned := by decide

/-- A locale named by the word for keys is counted, and has no column. -/
theorem one_column_per_locale_iff_keysAsLocale :
    HashTable.extract keysAsLocale = .ok ⟨extractedRows keysAsLocale, 2⟩ ∧
      TextTable.pivot ⟨extractedRows keysAsLocale, 2⟩ = .ok keysAsLocaleTexts ∧
      locales keysAsLocale = ["en", "key"] ∧
      keysAsLocaleTexts.header.length = 1 + 2 ∧
      ∀ row ∈ keysAsLocaleTexts.rows, row.texts.length = 2 := by
  have hextract : HashTable.extract keysAsLocale = .ok ⟨extractedRows keysAsLocale, 2⟩ := rfl
  have hpivot : TextTable.pivot ⟨extractedRows keysAsLocale, 2⟩ = .ok keysAsLocaleTexts := rfl
  exact ⟨hextract, hpivot, by decide, (one_column_per_locale_iff hextract hpivot).2.2 (by decide)⟩

/-- Not every locale has a column: two are counted here, and one of them is in the header. -/
theorem not_always_one_column_per_locale :
    ¬ ∀ (raw : RawTable) (h : HashTable) (t : TextTable),
      HashTable.extract raw = .ok h → TextTable.pivot h = .ok t →
        t.header = algorithmName :: keyWord :: locales raw ∧
          t.header.length = 2 + h.localeCount ∧
          ∀ row ∈ t.rows, row.texts.length = 1 + h.localeCount := by
  intro every
  have hall := every keysAsLocale ⟨extractedRows keysAsLocale, 2⟩ keysAsLocaleTexts rfl rfl
  exact absurd hall.2.1 (by decide)

end TableCompiler.Localization
