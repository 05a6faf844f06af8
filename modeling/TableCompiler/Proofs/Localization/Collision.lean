import TableCompiler.Proofs.Localization.DecoratedName
import TableCompiler.Proofs.Localization.Join

/-!
# Collisions — which row an extraction stops at

Every row of the flattening is tried in order, and the first one that disagrees with a row before it
ends the extraction.  `FirstConflict` says so of a list of rows alone; that the loop reports exactly
this row, with the earlier text and its own, is carried by one fact: what has been added so far agrees
(`firstConflict_of_pushRows`).  Missing key columns are the only other obstacle, and they are missing
for all columns or for none (`keyed_iff`).
-/

namespace TableCompiler.Localization

variable {raw : RawTable} {rows new out : List HashRow} {row earlier later : HashRow}
variable {column : DecoratedColumn} {columns : List DecoratedColumn} {e : LocalizationError}

/-! ## Key columns -/

/-- Whether a table has a plain column. -/
def HasPlain (raw : RawTable) : Prop :=
  ∃ name ∈ raw.names, isPlainField name = true

theorem hasPlain_iff : HasPlain raw ↔ ∃ i, raw.firstPlain? = some i := by
  rw [← Option.isSome_iff_exists, RawTable.firstPlain?, List.findIdx?_isSome, List.any_eq_true]
  rfl

/-- A plain column can key every decorated one. -/
theorem HasPlain.keyed (h : HasPlain raw) : Keyed raw columns := by
  obtain ⟨i, hi⟩ := hasPlain_iff.mp h
  intro column _
  rw [keyColumn?, hi]
  cases raw.columnIndex? column.field with
  | some j => exact ⟨j, rfl⟩
  | none => exact ⟨i, rfl⟩

/-- **KEY COLUMNS**: a field is a word, so the column named after it is a plain one, and without plain
columns no decorated column has a key column. -/
theorem keyed_iff :
    Keyed raw (decoratedColumns raw.names) ↔ decoratedColumns raw.names = [] ∨ HasPlain raw := by
  constructor
  · intro hkeyed
    cases hcolumns : decoratedColumns raw.names with
    | nil => exact .inl rfl
    | cons column rest =>
        have hmem : column ∈ decoratedColumns raw.names := by
          rw [hcolumns]
          exact List.mem_cons_self ..
        obtain ⟨key, hkey⟩ := hkeyed column hmem
        refine .inr ?_
        rw [keyColumn?] at hkey
        cases hindex : raw.columnIndex? column.field with
        | none =>
            rw [hindex] at hkey
            exact hasPlain_iff.mpr ⟨key, hkey⟩
        | some i =>
            -- the column that is found has the name of the field
            obtain ⟨hi, heq, -⟩ := List.findIdx?_eq_some_iff_getElem.mp hindex
            refine ⟨raw.names[i], List.getElem_mem hi, ?_⟩
            rw [of_decide_eq_true heq]
            exact isPlainField_field hmem
  · rintro (hnone | hplain)
    · intro column hmem
      rw [hnone] at hmem
      exact nomatch hmem
    · exact hplain.keyed

/-! ## The first conflict -/

/-- Two rows claim one place with different texts. -/
def Disagree (r s : HashRow) : Prop :=
  r.head = s.head ∧ r.hash = s.hash ∧ r.text ≠ s.text

instance (r s : HashRow) : Decidable (Disagree r s) :=
  inferInstanceAs (Decidable (_ ∧ _ ∧ _))

/-- `later` is the first row that disagrees with a row before it, and `earlier` is such a row. -/
def FirstConflict (rows : List HashRow) (earlier later : HashRow) : Prop :=
  ∃ before after, rows = before ++ later :: after ∧ OneText before ∧
    earlier ∈ before ∧ Disagree earlier later

/-- What is reported of two rows that disagree. -/
def collision (earlier later : HashRow) : LocalizationError :=
  .hashCollision later.head later.hash earlier.text later.text

theorem OneText.not_disagree (one : OneText rows) (hmem : earlier ∈ rows) (hmem' : later ∈ rows) :
    ¬Disagree earlier later :=
  fun ⟨hhead, hhash, htext⟩ => htext (one earlier hmem later hmem' hhead hhash)

theorem FirstConflict.not_oneText (h : FirstConflict rows earlier later) : ¬OneText rows := by
  obtain ⟨before, after, rfl, -, hmem, hne⟩ := h
  exact fun one => one.not_disagree (List.mem_append_left _ hmem)
    (List.mem_append_right _ (List.mem_cons_self ..)) hne

/-- Rows that agree end before the first row that disagrees with one of them. -/
theorem eq_nil_of_oneText {before between after after' : List HashRow} {other : HashRow}
    (one : OneText (before ++ between)) (hmem : earlier ∈ before) (hne : Disagree earlier later)
    (hsplit : later :: after = between ++ other :: after') : between = [] := by
  cases between with
  | nil => rfl
  | cons first rest =>
      obtain ⟨rfl, -⟩ := List.cons.inj hsplit
      exact absurd hne (one.not_disagree (List.mem_append_left _ hmem)
        (List.mem_append_right _ (List.mem_cons_self ..)))

/-- There is one first conflict, whichever earlier row shows it. -/
theorem FirstConflict.collision_eq {earlier' later' : HashRow}
    (h : FirstConflict rows earlier later) (h' : FirstConflict rows earlier' later') :
    collision earlier later = collision earlier' later' := by
  obtain ⟨before, after, hrows, one, hmem, hne⟩ := h
  obtain ⟨before', after', hrows', one', hmem', hne'⟩ := h'
  have hfront : before = before' ∧ later :: after = later' :: after' := by
    rcases List.append_eq_append_iff.mp (hrows.symm.trans hrows') with
      ⟨between, rfl, hsplit⟩ | ⟨between, rfl, hsplit⟩
    · obtain rfl := eq_nil_of_oneText one' hmem hne hsplit
      exact ⟨(List.append_nil _).symm, hsplit⟩
    · obtain rfl := eq_nil_of_oneText one hmem' hne' hsplit
      exact ⟨List.append_nil _, hsplit.symm⟩
  obtain ⟨rfl, hlater⟩ := hfront
  obtain ⟨rfl, -⟩ := List.cons.inj hlater
  -- both earlier rows have the place of the later one, so they have one text
  have htext : earlier.text = earlier'.text :=
    one earlier hmem earlier' hmem' (hne.1.trans hne'.1.symm) (hne.2.1.trans hne'.2.1.symm)
  rw [collision, collision, htext]

/-! ## Adding rows -/

/-- A row that cannot be added disagrees with one that is there. -/
theorem disagree_of_pushRow (h : pushRow rows row = .error e) :
    ∃ earlier ∈ rows, Disagree earlier row ∧ e = collision earlier row := by
  rw [pushRow] at h
  cases hfind : rows.find? row.samePlace with
  | none =>
      rw [hfind] at h
      cases h
  | some earlier =>
      simp only [hfind] at h
      obtain ⟨hhead, hhash⟩ := samePlace_iff.mp (List.find?_some hfind)
      split at h
      case isTrue => cases h
      case isFalse htext =>
        exact ⟨earlier, List.mem_of_find?_eq_some hfind, ⟨hhead.symm, hhash.symm, htext⟩,
          (Except.error.inj h).symm⟩

/-- Rows that cannot all be added have a first conflict, and it is what is reported. -/
theorem firstConflict_of_pushRows (one : OneText rows) (h : pushRows rows new = .error e) :
    ∃ earlier later, FirstConflict (rows ++ new) earlier later ∧ e = collision earlier later := by
  induction new generalizing rows with
  | nil => exact nomatch h
  | cons row rest ih =>
      rw [pushRows] at h
      cases hpush : pushRow rows row with
      | error e₁ =>
          rw [hpush] at h
          obtain ⟨earlier, hmem, hne, he⟩ := disagree_of_pushRow hpush
          exact ⟨earlier, row, ⟨rows, rest, rfl, one, hmem, hne⟩,
            (Except.error.inj h).symm.trans he⟩
      | ok next =>
          rw [hpush] at h
          -- the row that was added agrees with those before it, so the rows still agree
          obtain ⟨rfl, hnext⟩ := (pushRow_eq_ok_iff one).mp hpush
          rw [List.append_cons]
          exact ih hnext h

/-- **THE FIRST COLLISION**: what ends the adding of rows is their first conflict. -/
theorem pushRows_eq_error_iff (one : OneText rows) :
    pushRows rows new = .error e ↔
      ∃ earlier later, FirstConflict (rows ++ new) earlier later ∧ e = collision earlier later := by
  refine ⟨firstConflict_of_pushRows one, ?_⟩
  rintro ⟨earlier, later, hconflict, rfl⟩
  cases hpush : pushRows rows new with
  | ok out => exact absurd ((pushRows_eq_ok_iff one).mp hpush).2 hconflict.not_oneText
  | error e₁ =>
      obtain ⟨earlier', later', hconflict', rfl⟩ := firstConflict_of_pushRows one hpush
      rw [hconflict.collision_eq hconflict']

/-- Rows can be pushed in two batches. -/
theorem pushRows_append (rows new more : List HashRow) :
    pushRows rows (new ++ more)
      = match pushRows rows new with
        | .error e => .error e
        | .ok rows => pushRows rows more := by
  induction new generalizing rows with
  | nil => rfl
  | cons row rest ih =>
      rw [List.cons_append, pushRows, pushRows]
      cases pushRow rows row with
      | error e => rfl
      | ok next => exact ih next

/-- Columns with key columns add their sections as one list of rows. -/
theorem pushColumns_eq_pushRows (keyed : Keyed raw columns) (rows : List HashRow) :
    pushColumns raw rows columns = pushRows rows (columns.flatMap (sectionRows raw)) := by
  induction columns generalizing rows with
  | nil => rfl
  | cons column rest ih =>
      obtain ⟨key, hkey⟩ := keyed column (List.mem_cons_self ..)
      rw [pushColumns_cons hkey, List.flatMap_cons, pushRows_append]
      cases pushRows rows (sectionRows raw column) with
      | error e => rfl
      | ok next => exact ih (fun c hc => keyed c (List.mem_cons_of_mem _ hc)) next

/-- A table whose columns have key columns is extracted by adding its rows. -/
theorem extract_eq_pushRows (keyed : Keyed raw (decoratedColumns raw.names)) :
    HashTable.extract raw
      = (pushRows [] (extractedRows raw)).map
          (⟨·, (distinctLocales (decoratedColumns raw.names)).length⟩) := by
  rw [HashTable.extract, extractedRows, pushRows_append]
  cases pushRows [] headRows with
  | error e => rfl
  | ok rows =>
      simp only [pushColumns_eq_pushRows keyed]
      cases pushRows rows ((decoratedColumns raw.names).flatMap (sectionRows raw)) <;> rfl

/-! ## What is extracted -/

/-- The locales of the decorated columns, each once, in order of first appearance. -/
def locales (raw : RawTable) : List String :=
  ((decoratedColumns raw.names).map DecoratedColumn.locale).eraseDups

/-- The locales are counted once each. -/
theorem distinctLocales_eq (columns : List DecoratedColumn) :
    distinctLocales columns = (columns.map DecoratedColumn.locale).eraseDups := by
  rw [eraseDups_eq_foldl, List.foldl_map]
  rfl

/-- A table gives two rows in front, and each column one for its locale and two for each record that
counts. -/
theorem length_extractedRows (raw : RawTable) :
    (extractedRows raw).length
      = 2 + (decoratedColumns raw.names).length * (1 + 2 * raw.retainedRecords.length) := by
  have hsection : ∀ column,
      (sectionRows raw column).length = 1 + 2 * raw.retainedRecords.length := by
    intro column
    rw [sectionRows, List.length_cons, List.length_flatMap]
    simp only [List.length_cons, List.length_nil, List.map_const', List.sum_replicate_nat]
    omega
  rw [extractedRows, List.length_append, List.length_flatMap]
  simp only [hsection, List.map_const', List.sum_replicate_nat]
  rfl

/-- In rows that agree, key texts are told apart by their hashes. -/
theorem keyText_eq_of_adler_eq (one : OneText (extractedRows raw)) {key key' : String}
    (hkey : key ∈ keyTexts raw) (hkey' : key' ∈ keyTexts raw)
    (h : KeyHash.adler key = KeyHash.adler key') : key = key' := by
  obtain ⟨⟨column, record⟩, hpair, rfl⟩ := List.mem_map.mp hkey
  obtain ⟨⟨column', record'⟩, hpair', rfl⟩ := List.mem_map.mp hkey'
  obtain ⟨hc, hr⟩ := mem_textPairs.mp hpair
  obtain ⟨hc', hr'⟩ := mem_textPairs.mp hpair'
  exact one _ (keyRow_mem hc hr) _ (keyRow_mem hc' hr') rfl h

/-- **EXTRACTION, EXACTLY**: a table is extracted exactly if it has plain columns where it has
decorated ones and no two rows of its flattening disagree.  Then the hash table is the flattening, and
neither two key texts nor two locales have one hash.  If a table with plain columns is not extracted,
the first conflict of its flattening is reported. -/
theorem extract_exact (raw : RawTable) :
    ((∃ h, HashTable.extract raw = .ok h) ↔
      (decoratedColumns raw.names = [] ∨ HasPlain raw) ∧ OneText (extractedRows raw)) ∧
    (∀ h, HashTable.extract raw = .ok h →
      h.rows = extractedRows raw ∧
      h.rows.length
        = 2 + (decoratedColumns raw.names).length * (1 + 2 * raw.retainedRecords.length) ∧
      h.localeCount = (locales raw).length ∧
      (∀ key ∈ keyTexts raw, ∀ key' ∈ keyTexts raw,
        KeyHash.adler key = KeyHash.adler key' → key = key') ∧
      ∀ locale ∈ locales raw, ∀ locale' ∈ locales raw,
        KeyHash.adler locale = KeyHash.adler locale' → locale = locale') ∧
    (HasPlain raw → ∀ e, HashTable.extract raw = .error e ↔
      ∃ earlier later, FirstConflict (extractedRows raw) earlier later ∧
        e = .hashCollision later.head later.hash earlier.text later.text) := by
  refine ⟨?_, ?_, ?_⟩
  · rw [← keyed_iff]
    constructor
    · rintro ⟨h, hextract⟩
      obtain ⟨hkeyed, one, -⟩ := extract_eq_ok_iff.mp hextract
      exact ⟨hkeyed, one⟩
    · rintro ⟨hkeyed, one⟩
      exact ⟨_, extract_eq_ok_iff.mpr ⟨hkeyed, one, rfl⟩⟩
  · intro h hextract
    obtain ⟨-, one, rfl⟩ := extract_eq_ok_iff.mp hextract
    refine ⟨rfl, length_extractedRows raw, congrArg List.length (distinctLocales_eq _),
      fun key hkey key' hkey' => keyText_eq_of_adler_eq one hkey hkey', ?_⟩
    intro locale hlocale locale' hlocale' hhash
    obtain ⟨column, hc, rfl⟩ := List.mem_map.mp (List.mem_eraseDups.mp hlocale)
    obtain ⟨column', hc', rfl⟩ := List.mem_map.mp (List.mem_eraseDups.mp hlocale')
    exact locale_eq_of_adler_eq one hc hc' hhash
  · intro hplain e
    have hnil : OneText [] := fun r hr => absurd hr List.not_mem_nil
    have hiff : pushRows [] (extractedRows raw) = .error e ↔ ∃ earlier later,
        FirstConflict (extractedRows raw) earlier later ∧ e = collision earlier later :=
      pushRows_eq_error_iff hnil
    -- with a plain column nothing else can fail, and extraction is one run of pushes
    rw [extract_eq_pushRows hplain.keyed]
    refine Iff.trans ?_ hiff
    cases pushRows [] (extractedRows raw) with
    | ok rows => exact ⟨(fun h => nomatch h), fun h => nomatch h⟩
    | error e₁ =>
        refine ⟨fun h => congrArg Except.error (Except.error.inj h), fun h => ?_⟩
        rw [Except.error.inj h]
        rfl

/-- One key with two texts in a locale, behind a column that agrees. -/
def twiceTranslated : RawTable where
  names := ["id", "name", "$id[en]", "$name[en]"]
  types := ["str:key", "str", "str", "str"]
  records := [["A", "B", "Apple", "Pear"], ["B", "A", "Pear", "Plum"]]
  typed := rfl
  rectangular := by decide

/-- A key with two translations in one locale is refused, with both of them. -/
theorem extract_exact_twiceTranslated :
    HasPlain twiceTranslated ∧
      FirstConflict (extractedRows twiceTranslated)
        ⟨KeyHash.adler "en", KeyHash.adler "A", "Apple"⟩
        ⟨KeyHash.adler "en", KeyHash.adler "A", "Plum"⟩ ∧
      HashTable.extract twiceTranslated
        = .error (.hashCollision (KeyHash.adler "en") (KeyHash.adler "A") "Apple" "Plum") := by
  have hplain : HasPlain twiceTranslated := ⟨"id", by decide, by decide⟩
  have hconflict : FirstConflict (extractedRows twiceTranslated)
      ⟨KeyHash.adler "en", KeyHash.adler "A", "Apple"⟩
      ⟨KeyHash.adler "en", KeyHash.adler "A", "Plum"⟩ :=
    ⟨(extractedRows twiceTranslated).take 11, [], by decide, by decide, by decide, by decide⟩
  exact ⟨hplain, hconflict,
    ((extract_exact twiceTranslated).2.2 hplain _).mpr ⟨_, _, hconflict, rfl⟩⟩

end TableCompiler.Localization
