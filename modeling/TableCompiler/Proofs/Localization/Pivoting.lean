import TableCompiler.Proofs.Localization.Alignment
import TableCompiler.Proofs.Localization.Collision

/-!
# Pivoting — when the keys of the locales line up

The hashes that an extracted table files under a locale are those of the key texts of its columns, each
once, in the order in which they are first seen (`hashes_locale`), and those filed under the word for
keys are the hashes of all key texts.  So whether a pivot succeeds, and where it stops, is a matter of
key texts alone: each locale must have all of them in the order of all columns
(`pivot_extracted_exact`).  No hash stands between the statement and the source table, since extraction
has told the key texts apart.

A locale that is named by the word for keys has no column of its own and is left out here.
-/

namespace TableCompiler.Localization

variable {raw : RawTable} {column : DecoratedColumn} {locale : String} {e : LocalizationError}
variable {h : HashTable}

/-! ## The keys of a locale -/

/-- The distinct key texts of all decorated columns, column by column and record by record. -/
def allKeys (raw : RawTable) : List String :=
  (keyTexts raw).eraseDups

/-- The key texts of the columns of a locale, column by column and record by record. -/
def localeKeyTexts (raw : RawTable) (locale : String) : List String :=
  ((decoratedColumns raw.names).filter (·.locale = locale)).flatMap fun column =>
    raw.retainedRecords.map (keyText raw column)

/-- The distinct key texts of the columns of a locale. -/
def localeKeys (raw : RawTable) (locale : String) : List String :=
  (localeKeyTexts raw locale).eraseDups

/-- The key texts, column by column. -/
theorem keyTexts_eq (raw : RawTable) :
    keyTexts raw = (decoratedColumns raw.names).flatMap fun column =>
      raw.retainedRecords.map (keyText raw column) := by
  rw [keyTexts, textPairs, List.map_flatMap]
  simp only [List.map_map]
  rfl

/-- The key texts of a locale are key texts. -/
theorem localeKeyTexts_subset (raw : RawTable) (locale : String) :
    localeKeyTexts raw locale ⊆ keyTexts raw := by
  intro key hkey
  obtain ⟨column, hc, hkey⟩ := List.mem_flatMap.mp hkey
  rw [keyTexts_eq]
  exact List.mem_flatMap.mpr ⟨column, List.mem_of_mem_filter hc, hkey⟩

theorem mem_locales : locale ∈ locales raw ↔
    ∃ column ∈ decoratedColumns raw.names, column.locale = locale := by
  rw [locales, List.mem_eraseDups, List.mem_map]

theorem flatMap_filter {α β : Type} (P : α → Prop) [DecidablePred P] (f : α → List β)
    (xs : List α) :
    (xs.filter fun x => decide (P x)).flatMap f
      = xs.flatMap fun x => if P x then f x else [] := by
  induction xs with
  | nil => rfl
  | cons x rest ih =>
      by_cases hx : P x
      · rw [List.filter_cons, if_pos (decide_eq_true hx), List.flatMap_cons, List.flatMap_cons, ih,
          if_pos hx]
      · rw [List.filter_cons, if_neg (by simpa using hx), List.flatMap_cons, ih, if_neg hx,
          List.nil_append]

/-- A pivot that succeeds has a row for each entry of a declared head, with its hash. -/
theorem hashes_eq_rows {rows : List HashRow} {t : TextTable} {head : UInt32 × String}
    (regrouped : PivotedFrom rows t) (declared : head ∈ declaredHeads rows) :
    hashes (head.1, headEntries rows head.1) = t.rows.map TextRow.hash := by
  refine List.ext_getElem? fun position => ?_
  rw [hashes, List.getElem?_map, List.getElem?_map]
  cases hrow : t.rows[position]? with
  | some row =>
      obtain ⟨textOf, -, hplaced⟩ := regrouped.placed position row hrow
      rw [hplaced head declared]
      rfl
  | none =>
      have hout := List.getElem?_eq_none_iff.mp hrow
      rw [← regrouped.sized head declared] at hout
      rw [List.getElem?_eq_none_iff.mpr hout]
      rfl

/-! ## The declared columns -/

section Extracted

variable (one : OneText (extractedRows raw))
include one

/-- A record files one text under the head of its column's locale, and under no other locale's. -/
theorem listedEntries_record (hc : column ∈ decoratedColumns raw.names)
    (hlocale : locale ∈ locales raw) (unreserved : locale ≠ keyWord) (record : List String) :
    listedEntries [keyRow raw column record, textRow raw column record] (KeyHash.adler locale)
      = if column.locale = locale then
          [(KeyHash.adler (keyText raw column record), localeText column record)]
        else [] := by
  obtain ⟨other, hother, rfl⟩ := mem_locales.mp hlocale
  have hkey : KeyHash.adler keyWord ≠ KeyHash.adler other.locale :=
    fun heq => unreserved (locale_eq_keyWord one hother heq.symm)
  have htext : KeyHash.adler column.locale = KeyHash.adler other.locale ↔
      column.locale = other.locale :=
    ⟨locale_eq_of_adler_eq one hc hother, congrArg _⟩
  by_cases heq : column.locale = other.locale
  · simp [listedEntries, keyRow, textRow, hkey, heq]
  · simp [listedEntries, keyRow, textRow, hkey, htext, heq]

/-- **THE HASHES OF A LOCALE** are those of its distinct key texts. -/
theorem hashes_locale (hlocale : locale ∈ locales raw) (unreserved : locale ≠ keyWord) :
    hashes (KeyHash.adler locale, headEntries (extractedRows raw) (KeyHash.adler locale))
      = (localeKeys raw locale).map KeyHash.adler := by
  have hlisted : (listedEntries (extractedRows raw) (KeyHash.adler locale)).map Prod.fst
      = (localeKeyTexts raw locale).map KeyHash.adler := by
    have hzero : KeyHash.adler locale ≠ 0 := by
      obtain ⟨column, hc, rfl⟩ := mem_locales.mp hlocale
      exact adler_locale_ne_zero one hc
    rw [listedEntries_extractedRows hzero, textPairs, List.flatMap_assoc, localeKeyTexts,
      flatMap_filter, List.map_flatMap, List.map_flatMap]
    refine List.flatMap_congr fun column hc => ?_
    rw [List.flatMap_map]
    simp only [listedEntries_record one hc hlocale unreserved]
    -- a column of the locale gives the keys of its records, and another column gives nothing
    by_cases heq : column.locale = locale
    · simp only [if_pos heq]
      rw [← List.map_eq_flatMap, List.map_map, List.map_map]
      rfl
    · simp only [if_neg heq]
      rw [List.flatMap_eq_nil_iff.mpr fun _ _ => rfl]
      rfl
  have hinj : ∀ key ∈ localeKeyTexts raw locale, ∀ key' ∈ localeKeyTexts raw locale,
      KeyHash.adler key = KeyHash.adler key' → key = key' := fun key hkey key' hkey' =>
    keyText_eq_of_adler_eq one (localeKeyTexts_subset raw locale hkey)
      (localeKeyTexts_subset raw locale hkey')
  rw [hashes, headEntries_eq_eraseDups one, map_eraseDups one.listedEntries, hlisted, localeKeys,
    map_eraseDups hinj]

/-- The head of keys has the hashes of all distinct key texts. -/
theorem hashes_keys :
    hashes (KeyHash.adler keyWord, headEntries (extractedRows raw) (KeyHash.adler keyWord))
      = (allKeys raw).map KeyHash.adler := by
  rw [hashes, headEntries_keys one, List.map_map]
  rfl

/-- The declared heads are the word for keys and the locales, in order of first appearance. -/
theorem declaredHeads_eq :
    declaredHeads (extractedRows raw)
      = (keyWord :: (decoratedColumns raw.names).map DecoratedColumn.locale).eraseDups.map
          fun word => (KeyHash.adler word, word) := by
  have hsection : ∀ column ∈ decoratedColumns raw.names,
      listedEntries (sectionRows raw column) 0 = [(KeyHash.adler column.locale, column.locale)] := by
    intro column hc
    have hrecords : ∀ record : List String,
        listedEntries [keyRow raw column record, textRow raw column record] 0 = [] := by
      intro record
      simp [listedEntries, keyRow, textRow, adler_keyWord_ne_zero, adler_locale_ne_zero one hc]
    -- of a section only the row that lists its locale is under head zero
    rw [sectionRows, ← List.singleton_append, listedEntries_append, listedEntries_flatMap,
      List.flatMap_eq_nil_iff.mpr fun record _ => hrecords record]
    rfl
  have hlisted : listedEntries (extractedRows raw) 0
      = (0, algorithmName) ::
          (keyWord :: (decoratedColumns raw.names).map DecoratedColumn.locale).map
            fun word => (KeyHash.adler word, word) := by
    rw [extractedRows, listedEntries_append, listedEntries_flatMap, List.flatMap_congr hsection,
      ← List.map_eq_flatMap, List.map_cons, List.map_map]
    rfl
  -- the algorithm stands alone under hash zero
  have halone : ∀ x ∈ (keyWord :: (decoratedColumns raw.names).map DecoratedColumn.locale).map
      fun word => (KeyHash.adler word, word), (!x == ((0 : UInt32), algorithmName)) = true := by
    intro x hx
    have hzero : x.1 ≠ 0 := by
      obtain ⟨word, hword, rfl⟩ := List.mem_map.mp hx
      rcases List.mem_cons.mp hword with rfl | hword
      · exact adler_keyWord_ne_zero
      · obtain ⟨column, hc, rfl⟩ := List.mem_map.mp hword
        exact adler_locale_ne_zero one hc
    simp only [Bool.not_eq_true', beq_eq_false_iff_ne]
    exact fun heq => hzero (congrArg Prod.fst heq)
  rw [declaredHeads, headEntries_eq_eraseDups one, hlisted, List.eraseDups_cons,
    List.filter_eq_self.mpr halone, List.drop_one, List.tail_cons,
    map_eraseDups fun x _ y _ heq => congrArg Prod.snd heq]

/-- The header names the algorithm, then the word for keys and the locales, each once. -/
theorem header_words {count : Nat} {t : TextTable}
    (pivoted : TextTable.pivot ⟨extractedRows raw, count⟩ = .ok t) :
    t.header = algorithmName ::
      (keyWord :: (decoratedColumns raw.names).map DecoratedColumn.locale).eraseDups := by
  obtain ⟨rest, hzero⟩ := headEntries_zero one
  have hwords := congrArg (List.map Prod.snd) (declaredHeads_eq one)
  have hself : ∀ words : List String,
      (words.map fun word => (KeyHash.adler word, word)).map Prod.snd = words := by
    intro words
    rw [List.map_map]
    exact List.map_id _
  rw [hself] at hwords
  rw [(pivotedFrom_of_pivot pivoted).header, ← hwords, declaredHeads, hzero]
  rfl

end Extracted

/-- What is filed under the head of a word. -/
def filedUnder (raw : RawTable) (word : String) : UInt32 × Entries :=
  (KeyHash.adler word, headEntries (extractedRows raw) (KeyHash.adler word))

/-- No locale is named by the word for keys. -/
def Unreserved (raw : RawTable) : Prop :=
  ∀ column ∈ decoratedColumns raw.names, column.locale ≠ keyWord

/-- The word for keys stands in front of the locales, and is none of them. -/
theorem eraseDups_of_unreserved (unreserved : Unreserved raw) :
    (keyWord :: (decoratedColumns raw.names).map DecoratedColumn.locale).eraseDups
      = keyWord :: locales raw := by
  have hword : ∀ word ∈ (decoratedColumns raw.names).map DecoratedColumn.locale,
      (!word == keyWord) = true := by
    intro word hmem
    obtain ⟨column, hc, rfl⟩ := List.mem_map.mp hmem
    simp only [Bool.not_eq_true', beq_eq_false_iff_ne]
    exact unreserved column hc
  rw [List.eraseDups_cons, List.filter_eq_self.mpr hword, locales]

section Aligned

variable (one : OneText (extractedRows raw)) (unreserved : Unreserved raw)
include one unreserved

/-- The heads that are declared are those of the word for keys and of the locales, as they are first
seen. -/
theorem declaredHeads_extracted :
    declaredHeads (extractedRows raw)
      = (keyWord :: locales raw).map fun word => (KeyHash.adler word, word) := by
  rw [declaredHeads_eq one, eraseDups_of_unreserved unreserved]

/-- The columns to be aligned are those of the keys and of the locales, in that order. -/
theorem declaredColumns_extracted :
    declaredColumns (extractedRows raw)
      = filedUnder raw keyWord :: (locales raw).map (filedUnder raw) := by
  rw [declaredColumns_eq, declaredHeads_extracted one unreserved, List.map_map]
  rfl

/-- Under a locale stand the hashes of its keys. -/
theorem hashes_filedUnder (hlocale : locale ∈ locales raw) :
    hashes (filedUnder raw locale) = (localeKeys raw locale).map KeyHash.adler := by
  refine hashes_locale one hlocale ?_
  obtain ⟨column, hc, rfl⟩ := mem_locales.mp hlocale
  exact unreserved column hc

theorem length_filedUnder (hlocale : locale ∈ locales raw) :
    (filedUnder raw locale).2.length = (localeKeys raw locale).length := by
  have hlength := congrArg List.length (hashes_filedUnder one unreserved hlocale)
  rwa [hashes, List.length_map, List.length_map] at hlength

omit unreserved in
/-- The head of keys has as many entries as there are keys. -/
theorem length_filedUnder_keyWord :
    (filedUnder raw keyWord).2.length = (allKeys raw).length := by
  have hlength := congrArg List.length (hashes_keys one)
  rwa [hashes, List.length_map, List.length_map] at hlength

end Aligned

/-! ## Where keys do not line up -/

/-- What keeps the keys of the locales from lining up, for the first locale in the order of the
header. -/
inductive Misfit (raw : RawTable) : LocalizationError → Prop
  /-- A locale has more or fewer keys than all columns together. -/
  | uneven {before after : List String} {locale : String} :
      locales raw = before ++ locale :: after →
      (∀ other ∈ before, (localeKeys raw other).length = (allKeys raw).length) →
      (localeKeys raw locale).length ≠ (allKeys raw).length →
      Misfit raw (.unevenColumns (KeyHash.adler locale) (allKeys raw).length
        (localeKeys raw locale).length)
  /-- All locales have as many keys, and at the least position where one has another key, a locale
  has another key. -/
  | displaced {position : Nat} {before after : List String} {locale expected found : String} :
      (∀ other ∈ locales raw, (localeKeys raw other).length = (allKeys raw).length) →
      (∀ p < position, ∀ other ∈ locales raw, (localeKeys raw other)[p]? = (allKeys raw)[p]?) →
      locales raw = before ++ locale :: after →
      (∀ other ∈ before, (localeKeys raw other)[position]? = (allKeys raw)[position]?) →
      (allKeys raw)[position]? = some expected →
      (localeKeys raw locale)[position]? = some found → found ≠ expected →
      Misfit raw (.alignment position (KeyHash.adler locale) (KeyHash.adler expected)
        (KeyHash.adler found))

/-- Where a locale misfits, not every locale has all keys in their order. -/
theorem Misfit.not_aligned (h : Misfit raw e) :
    ¬∀ locale ∈ locales raw, localeKeys raw locale = allKeys raw := by
  intro hall
  cases h with
  | uneven hsplit _ hne => exact hne (by rw [hall _ (by rw [hsplit]; simp)])
  | displaced _ _ hsplit _ hexpected hfound hne =>
      rw [hall _ (by rw [hsplit]; simp), hexpected] at hfound
      exact hne (Option.some.inj hfound).symm

section Aligned

variable (one : OneText (extractedRows raw)) (unreserved : Unreserved raw)
include one unreserved

/-- A hash at a position of a locale tells the key text there. -/
theorem getElem?_hashes_eq_iff (hlocale : locale ∈ locales raw) (position : Nat) :
    (hashes (filedUnder raw locale))[position]? = (hashes (filedUnder raw keyWord))[position]? ↔
      (localeKeys raw locale)[position]? = (allKeys raw)[position]? := by
  rw [hashes_filedUnder one unreserved hlocale, filedUnder, hashes_keys one, List.getElem?_map,
    List.getElem?_map]
  refine ⟨fun heq => ?_, fun heq => by rw [heq]⟩
  cases hkey : (localeKeys raw locale)[position]? with
  | none =>
      rw [hkey, Option.map_none] at heq
      exact (Option.map_eq_none_iff.mp heq.symm).symm
  | some key =>
      rw [hkey, Option.map_some] at heq
      obtain ⟨key', hkey', hhash⟩ := Option.map_eq_some_iff.mp heq.symm
      have hmem := localeKeyTexts_subset raw locale
        (List.mem_eraseDups.mp (List.mem_of_getElem? hkey))
      have hmem' := List.mem_eraseDups.mp (List.mem_of_getElem? hkey')
      rw [hkey', keyText_eq_of_adler_eq one hmem hmem' hhash.symm]

omit unreserved in
/-- At each position of the head of keys stands the hash of the key of that position. -/
theorem getElem?_hashes_keyWord {position : Nat} {hash : UInt32} :
    (hashes (filedUnder raw keyWord))[position]? = some hash ↔
      ∃ key, (allKeys raw)[position]? = some key ∧ KeyHash.adler key = hash := by
  rw [filedUnder, hashes_keys one, List.getElem?_map, Option.map_eq_some_iff]

/-- At each position of a locale stands the hash of its key of that position. -/
theorem getElem?_hashes_locale (hlocale : locale ∈ locales raw) {position : Nat} {hash : UInt32} :
    (hashes (filedUnder raw locale))[position]? = some hash ↔
      ∃ key, (localeKeys raw locale)[position]? = some key ∧ KeyHash.adler key = hash := by
  rw [hashes_filedUnder one unreserved hlocale, List.getElem?_map, Option.map_eq_some_iff]

/-- The locales with another number of keys are those with another number of entries. -/
theorem find?_uneven :
    ((locales raw).find? fun locale =>
        decide ((filedUnder raw locale).2.length ≠ (filedUnder raw keyWord).2.length))
      = (locales raw).find? fun locale =>
          decide ((localeKeys raw locale).length ≠ (allKeys raw).length) := by
  rw [← List.head?_filter, ← List.head?_filter]
  refine congrArg List.head? (List.filter_congr fun locale hlocale => ?_)
  rw [length_filedUnder one unreserved hlocale, length_filedUnder_keyWord one]

theorem expectedLength_extracted :
    expectedLength (declaredColumns (extractedRows raw)) = (allKeys raw).length := by
  rw [declaredColumns_extracted one unreserved]
  exact length_filedUnder_keyWord one

/-- The first column with another number of entries is that of the first locale with another number
of keys. -/
theorem unevenColumn?_extracted :
    unevenColumn? (allKeys raw).length (declaredColumns (extractedRows raw))
      = ((locales raw).find? fun locale =>
          decide ((localeKeys raw locale).length ≠ (allKeys raw).length)).map (filedUnder raw) := by
  have hcons := unevenColumn?_cons (filedUnder raw keyWord) (filedUnder raw) (locales raw)
  rw [← declaredColumns_extracted one unreserved, expectedLength_extracted one unreserved,
    find?_uneven one unreserved] at hcons
  exact hcons

/-- No column is uneven if every locale has as many keys as there are. -/
theorem unevenColumn?_eq_none_iff :
    unevenColumn? (allKeys raw).length (declaredColumns (extractedRows raw)) = none ↔
      ∀ locale ∈ locales raw, (localeKeys raw locale).length = (allKeys raw).length := by
  rw [unevenColumn?_extracted one unreserved, Option.map_eq_none_iff, List.find?_eq_none]
  simp

/-- The first locale that has not is the uneven column. -/
theorem unevenColumn?_eq_some_iff {c : UInt32 × Entries} :
    unevenColumn? (allKeys raw).length (declaredColumns (extractedRows raw)) = some c ↔
      ∃ before locale after, locales raw = before ++ locale :: after ∧
        (∀ other ∈ before, (localeKeys raw other).length = (allKeys raw).length) ∧
        (localeKeys raw locale).length ≠ (allKeys raw).length ∧ c = filedUnder raw locale := by
  rw [unevenColumn?_extracted one unreserved, Option.map_eq_some_iff]
  constructor
  · rintro ⟨locale, hfind, rfl⟩
    obtain ⟨hne, before, after, hsplit, hbefore⟩ := List.find?_eq_some_iff_append.mp hfind
    exact ⟨before, locale, after, hsplit, fun other hother => by simpa using hbefore other hother,
      of_decide_eq_true hne, rfl⟩
  · rintro ⟨before, locale, after, hsplit, hbefore, hne, rfl⟩
    refine ⟨locale, List.find?_eq_some_iff_append.mpr ?_, rfl⟩
    exact ⟨decide_eq_true hne, before, after, hsplit,
      fun other hother => by simpa using hbefore other hother⟩

/-- Locales with all their keys stop a pivot at the least position where one has another key than all
columns together, and there at the first one that has. -/
theorem alignRows_extracted_eq_error_iff
    (sized : ∀ locale ∈ locales raw, (localeKeys raw locale).length = (allKeys raw).length) :
    alignRows (declaredColumns (extractedRows raw))
        (List.range (allKeys raw).length) = .error e ↔
      ∃ position before locale after expected found,
        (∀ p < position, ∀ other ∈ locales raw,
          (localeKeys raw other)[p]? = (allKeys raw)[p]?) ∧
        locales raw = before ++ locale :: after ∧
        (∀ other ∈ before, (localeKeys raw other)[position]? = (allKeys raw)[position]?) ∧
        (allKeys raw)[position]? = some expected ∧
        (localeKeys raw locale)[position]? = some found ∧ found ≠ expected ∧
        e = .alignment position (KeyHash.adler locale) (KeyHash.adler expected)
          (KeyHash.adler found) := by
  have hsized : ∀ locale ∈ locales raw,
      (filedUnder raw locale).2.length = (filedUnder raw keyWord).2.length := by
    intro locale hlocale
    rw [length_filedUnder one unreserved hlocale, length_filedUnder_keyWord one,
      sized locale hlocale]
  rw [← expectedLength_extracted one unreserved, declaredColumns_extracted one unreserved,
    alignRows_eq_error_iff hsized]
  -- hashes are compared, and where no rows disagree they stand for the keys one to one
  constructor
  · rintro ⟨position, hash, hleads, hearlier, before, locale, after, hsplit, hbefore, found,
      hfound, hne, rfl⟩
    have hin : ∀ other ∈ before ++ locale :: after, other ∈ locales raw :=
      fun other hother => hsplit ▸ hother
    obtain ⟨key, hkey, rfl⟩ := (getElem?_hashes_keyWord one).mp hleads
    obtain ⟨key', hkey', rfl⟩ :=
      (getElem?_hashes_locale one unreserved (hin locale (by simp))).mp hfound
    refine ⟨position, before, locale, after, key, key', fun p hp other hother => ?_, hsplit,
      fun other hother => ?_, hkey, hkey', fun heq => hne (congrArg _ heq), rfl⟩
    · exact (getElem?_hashes_eq_iff one unreserved hother p).mp (hearlier p hp other hother)
    · refine (getElem?_hashes_eq_iff one unreserved
        (hin other (List.mem_append_left _ hother)) position).mp ?_
      rw [hbefore other hother, hleads]
  · rintro ⟨position, before, locale, after, key, key', hearlier, hsplit, hbefore, hkey, hkey', hne,
      rfl⟩
    have hin : ∀ other ∈ before ++ locale :: after, other ∈ locales raw :=
      fun other hother => hsplit ▸ hother
    have hleads := (getElem?_hashes_keyWord one).mpr ⟨key, hkey, rfl⟩
    refine ⟨position, _, hleads, fun p hp other hother => ?_, before, locale, after, hsplit,
      fun other hother => ?_, _, (getElem?_hashes_locale one unreserved
        (hin locale (by simp))).mpr ⟨key', hkey', rfl⟩, fun heq => hne ?_, rfl⟩
    · exact (getElem?_hashes_eq_iff one unreserved hother p).mpr (hearlier p hp other hother)
    · rw [← hleads]
      exact (getElem?_hashes_eq_iff one unreserved
        (hin other (List.mem_append_left _ hother)) position).mpr (hbefore other hother)
    · exact keyText_eq_of_adler_eq one
        (localeKeyTexts_subset raw locale (List.mem_eraseDups.mp (List.mem_of_getElem? hkey')))
        (List.mem_eraseDups.mp (List.mem_of_getElem? hkey)) heq

/-- **WHERE A PIVOT STOPS**: at what keeps the keys from lining up. -/
theorem pivot_eq_error_iff_misfit {count : Nat} :
    TextTable.pivot ⟨extractedRows raw, count⟩ = .error e ↔ Misfit raw e := by
  rw [pivot_eq_error_iff one, expectedLength_extracted one unreserved]
  simp only [unevenColumn?_eq_some_iff one unreserved, unevenColumn?_eq_none_iff one unreserved]
  -- lengths first, then positions: the two kinds of a misfit
  constructor
  · rintro (⟨c, ⟨before, locale, after, hsplit, hbefore, hne, rfl⟩, rfl⟩ | ⟨hsized, halign⟩)
    · rw [length_filedUnder one unreserved (by rw [hsplit]; simp)]
      exact .uneven hsplit hbefore hne
    · obtain ⟨position, before, locale, after, key, key', hearlier, hsplit, hbefore, hkey, hkey',
        hne, rfl⟩ := (alignRows_extracted_eq_error_iff one unreserved hsized).mp halign
      exact .displaced hsized hearlier hsplit hbefore hkey hkey' hne
  · intro hmisfit
    cases hmisfit with
    | @uneven before after locale hsplit hbefore hne =>
        refine .inl ⟨_, ⟨before, locale, after, hsplit, hbefore, hne, rfl⟩, ?_⟩
        rw [length_filedUnder one unreserved (by rw [hsplit]; simp)]
        rfl
    | displaced hsized hearlier hsplit hbefore hkey hkey' hne =>
        exact .inr ⟨hsized, (alignRows_extracted_eq_error_iff one unreserved hsized).mpr
          ⟨_, _, _, _, _, _, hearlier, hsplit, hbefore, hkey, hkey', hne, rfl⟩⟩

/-- A pivot that succeeds has lined the keys up. -/
theorem keys_line_up {count : Nat} {t : TextTable}
    (h : TextTable.pivot ⟨extractedRows raw, count⟩ = .ok t) :
    ∀ locale ∈ locales raw, localeKeys raw locale = allKeys raw := by
  have regrouped := pivotedFrom_of_pivot h
  intro locale hlocale
  obtain ⟨column, hc, rfl⟩ := mem_locales.mp hlocale
  refine List.ext_getElem? fun position => ?_
  refine (getElem?_hashes_eq_iff one unreserved hlocale position).mp ?_
  rw [filedUnder, filedUnder, hashes_eq_rows regrouped (localeHead_declared one hc),
    hashes_eq_rows regrouped (keyHead_declared one)]

/-- The header names the algorithm, the keys and the locales in order of first appearance. -/
theorem header_of_pivot {count : Nat} {t : TextTable}
    (h : TextTable.pivot ⟨extractedRows raw, count⟩ = .ok t) :
    t.header = algorithmName :: keyWord :: locales raw := by
  rw [header_words one h, eraseDups_of_unreserved unreserved]

/-- A pivot is made just if every locale has all keys, in one order. -/
theorem pivot_ok_iff {count : Nat} :
    (∃ t, TextTable.pivot ⟨extractedRows raw, count⟩ = .ok t) ↔
      ∀ locale ∈ locales raw, localeKeys raw locale = allKeys raw := by
  constructor
  · rintro ⟨t, ht⟩
    exact keys_line_up one unreserved ht
  · intro hall
    cases hpivot : TextTable.pivot ⟨extractedRows raw, count⟩ with
    | ok t => exact ⟨t, rfl⟩
    | error e =>
        exact absurd hall ((pivot_eq_error_iff_misfit one unreserved).mp hpivot).not_aligned

end Aligned

/-- Columns with one key column have their keys in one order. -/
theorem keys_line_up_of_one_keyColumn
    (shared : ∀ column ∈ decoratedColumns raw.names, ∀ other ∈ decoratedColumns raw.names,
      keyColumn? raw column = keyColumn? raw other) :
    ∀ locale ∈ locales raw, localeKeys raw locale = allKeys raw := by
  intro locale hlocale
  obtain ⟨column, hc, rfl⟩ := mem_locales.mp hlocale
  have hsame : ∀ other ∈ decoratedColumns raw.names,
      raw.retainedRecords.map (keyText raw other)
        = raw.retainedRecords.map (keyText raw column) := by
    intro other hother
    refine List.map_congr_left fun record _ => ?_
    rw [keyText, keyText, shared other hother column hc]
  rw [localeKeys, localeKeyTexts, allKeys, keyTexts_eq,
    eraseDups_flatMap_same (List.ne_nil_of_mem hc) hsame]
  refine eraseDups_flatMap_same (List.ne_nil_of_mem (a := column) ?_) fun other hother =>
    hsame other (List.mem_of_mem_filter hother)
  exact List.mem_filter.mpr ⟨hc, decide_eq_true rfl⟩

/-- Where the columns have one number of entries, every position that is read is one of each column,
and there is a first column to read it from. -/
def ReadsWithin (columns : List (UInt32 × Entries)) : Prop :=
  unevenColumn? (expectedLength columns) columns = none →
    ∀ position ∈ List.range (expectedLength columns),
      columns ≠ [] ∧ ∀ c ∈ columns, position < c.2.length

/-- No column is read beyond its end: the lengths are compared before. -/
theorem readsWithin (columns : List (UInt32 × Entries)) : ReadsWithin columns := by
  intro heven position hposition
  have hlt := List.mem_range.mp hposition
  refine ⟨?_, fun c hc => ?_⟩
  · rintro rfl
    exact Nat.not_lt_zero _ hlt
  · have hlength : c.2.length = expectedLength columns := by
      simpa using List.find?_eq_none.mp heven c hc
    rwa [hlength]

/-- **PIVOTING, EXACTLY**: an extracted table whose locales are not named by the word for keys is
pivoted exactly if every locale has all keys in the order of all columns, and what is reported
otherwise is the first misfit in the order of the header.  Collisions have been ruled out by the
extraction, every entry that is read is there, and columns with one key column always line up. -/
theorem pivot_extracted_exact (extracted : HashTable.extract raw = .ok h)
    (unreserved : Unreserved raw) :
    ((∃ t, TextTable.pivot h = .ok t) ↔
      ∀ locale ∈ locales raw, localeKeys raw locale = allKeys raw) ∧
    (∀ t, TextTable.pivot h = .ok t → t.header = algorithmName :: keyWord :: locales raw) ∧
    (∀ e, TextTable.pivot h = .error e ↔ Misfit raw e) ∧
    (∀ head hash existing incoming,
      TextTable.pivot h ≠ .error (.hashCollision head hash existing incoming)) ∧
    ReadsWithin (declaredColumns h.rows) ∧
    ((∀ column ∈ decoratedColumns raw.names, ∀ other ∈ decoratedColumns raw.names,
        keyColumn? raw column = keyColumn? raw other) →
      ∃ t, TextTable.pivot h = .ok t) := by
  obtain ⟨-, one, rfl⟩ := extract_eq_ok_iff.mp extracted
  refine ⟨pivot_ok_iff one unreserved, fun t => header_of_pivot one unreserved,
    fun e => pivot_eq_error_iff_misfit one unreserved, ?_, readsWithin _, fun shared => ?_⟩
  · intro head hash existing incoming hpivot
    exact nomatch (pivot_eq_error_iff_misfit one unreserved).mp hpivot
  · exact (pivot_ok_iff one unreserved).mpr (keys_line_up_of_one_keyColumn shared)

/-- Two locales with the same keys, the other way round. -/
def crossedKeys : RawTable where
  names := ["a", "b", "$a[en]", "$b[ko]"]
  types := ["str:key", "str:key", "str", "str"]
  records := [["x", "y", "X", "Y"], ["y", "x", "Y", "X"]]
  typed := rfl
  rectangular := by decide

/-- Two locales with the same keys in crossed order: the second one is refused at its first position. -/
theorem pivot_extracted_exact_crossedKeys :
    HashTable.extract crossedKeys = .ok ⟨extractedRows crossedKeys, 2⟩ ∧
      Unreserved crossedKeys ∧
      TextTable.pivot ⟨extractedRows crossedKeys, 2⟩
        = .error (.alignment 0 (KeyHash.adler "ko") (KeyHash.adler "x") (KeyHash.adler "y")) ∧
      ¬∀ locale ∈ locales crossedKeys, localeKeys crossedKeys locale = allKeys crossedKeys := by
  have hunreserved : Unreserved crossedKeys := by
    rw [Unreserved]
    decide
  have hextract : HashTable.extract crossedKeys = .ok ⟨extractedRows crossedKeys, 2⟩ := rfl
  have hmisfit : Misfit crossedKeys
      (.alignment 0 (KeyHash.adler "ko") (KeyHash.adler "x") (KeyHash.adler "y")) :=
    @Misfit.displaced _ 0 ["en"] [] "ko" "x" "y" (by decide) (fun p hp => absurd hp p.not_lt_zero)
      (by decide) (by decide) (by decide) (by decide) (by decide)
  exact ⟨hextract, hunreserved,
    ((pivot_extracted_exact hextract hunreserved).2.2.1 _).mpr hmisfit, hmisfit.not_aligned⟩

end TableCompiler.Localization
