import TableCompiler.Localization.Decorated
import TableCompiler.Proofs.Table.Places

/-!
# Decorated names — a field and a locale in one name

`Decorates` says which name a field has in a locale: both are words, and the name has its marks in front
of them, between them and behind them.  No word has a bracket, so the first ones of a name are where its
words end: parsing finds them in exactly the decorated names (`parseDecorated_eq_some_iff`).  No word has
a dollar sign either, so a decorated name is never a plain one (`not_word_of_decorates`).
-/

namespace TableCompiler.Localization

open TableCompiler.Text

variable {name field locale : String} {cs fs ls : List Char}

/-- The name of a field in a locale. -/
def decoratedName (field locale : String) : String :=
  "$" ++ field ++ "[" ++ locale ++ "]"

/-- A field and a locale are words, and this is the name of the field in the locale. -/
structure Decorates (name field locale : String) : Prop where
  field_word : Word field
  locale_word : Word locale
  name_eq : name = decoratedName field locale

theorem toList_decoratedName (field locale : String) :
    (decoratedName field locale).toList
      = '$' :: (field.toList ++ '[' :: (locale.toList ++ [']'])) := by
  simp only [decoratedName, String.toList_append, List.append_assoc]
  rfl

/-! ## Parsing -/

/-- Up to a mark that is not in front of it, and from there on. -/
theorem span_mark {mark : Char} {front : List Char} (h : mark ∉ front) (rest : List Char) :
    (front ++ mark :: rest).takeWhile (· ≠ mark) = front ∧
      (front ++ mark :: rest).dropWhile (· ≠ mark) = mark :: rest := by
  have inside : ∀ c ∈ front, decide (c ≠ mark) = true := by
    intro c hc
    refine decide_eq_true fun same => ?_
    exact h (same ▸ hc)
  constructor
  · rw [List.takeWhile_append_of_pos inside, List.takeWhile_cons_of_neg (by simp),
      List.append_nil]
  · rw [List.dropWhile_append_of_pos inside, List.dropWhile_cons_of_neg (by simp)]

/-- Two words between the marks are found. -/
theorem parseDecoratedChars_of_words (field : Run (isWord · = true) fs)
    (locale : Run (isWord · = true) ls) :
    parseDecoratedChars ('$' :: (fs ++ '[' :: (ls ++ [']']))) = some (fs, ls) := by
  have opening : '[' ∉ fs := field.not_mem (by decide)
  have closing : ']' ∉ ls := locale.not_mem (by decide)
  obtain ⟨htake, hdrop⟩ := span_mark opening (ls ++ [']'])
  obtain ⟨htake', hdrop'⟩ := span_mark closing []
  simp only [parseDecoratedChars, hdrop, htake, hdrop', htake', isIdentifier_iff.mpr field,
    isIdentifier_iff.mpr locale, Bool.and_self, decide_true, if_true]

/-- What is found are two words between the marks, and nothing else is in the name. -/
theorem words_of_parseDecoratedChars (h : parseDecoratedChars cs = some (fs, ls)) :
    Run (isWord · = true) fs ∧ Run (isWord · = true) ls ∧
      cs = '$' :: (fs ++ '[' :: (ls ++ [']'])) := by
  unfold parseDecoratedChars at h
  split at h
  case h_2 => cases h
  case h_1 rest =>
    simp only at h
    split at h
    case h_2 => cases h
    case h_1 behind hbehind =>
      split at h
      case isFalse => cases h
      case isTrue hwords =>
        obtain ⟨rfl, rfl⟩ := Prod.mk.inj (Option.some.inj h)
        rw [Bool.and_eq_true, Bool.and_eq_true, decide_eq_true_eq] at hwords
        refine ⟨isIdentifier_iff.mp hwords.1.2, isIdentifier_iff.mp hwords.2, ?_⟩
        -- what stands behind each word is what was found behind it
        rw [← hwords.1.1, List.takeWhile_append_dropWhile, ← hbehind,
          List.takeWhile_append_dropWhile]

/-- **A NAME PARSES** to the field and the locale that it decorates. -/
theorem parseDecorated_eq_some_iff :
    parseDecorated name = some (field, locale) ↔ Decorates name field locale := by
  rw [parseDecorated, Option.map_eq_some_iff]
  constructor
  · rintro ⟨⟨fs, ls⟩, hchars, hpair⟩
    obtain ⟨rfl, rfl⟩ := Prod.mk.inj hpair
    obtain ⟨hfield, hlocale, hname⟩ := words_of_parseDecoratedChars hchars
    refine ⟨?_, ?_, ?_⟩
    · rwa [Word, String.toList_ofList]
    · rwa [Word, String.toList_ofList]
    · apply String.toList_injective
      rw [toList_decoratedName, String.toList_ofList, String.toList_ofList]
      exact hname
  · rintro ⟨hfield, hlocale, rfl⟩
    refine ⟨(field.toList, locale.toList), ?_, ?_⟩
    · rw [toList_decoratedName]
      exact parseDecoratedChars_of_words hfield hlocale
    · rw [String.ofList_toList, String.ofList_toList]

/-- **ONE FIELD, ONE LOCALE**: a name decorates no more. -/
theorem Decorates.unique {field' locale' : String} (h : Decorates name field locale)
    (h' : Decorates name field' locale') : field = field' ∧ locale = locale' := by
  have same : some (field, locale) = some (field', locale') :=
    (parseDecorated_eq_some_iff.mpr h).symm.trans (parseDecorated_eq_some_iff.mpr h')
  exact Prod.mk.inj (Option.some.inj same)

/-- Neither a field nor a locale is decorated itself. -/
theorem identifiers_of_parseDecorated (h : parseDecorated name = some (field, locale)) :
    isPlainField field = true ∧ isPlainField locale = true := by
  have decorates := parseDecorated_eq_some_iff.mp h
  exact ⟨isIdentifier_iff.mpr decorates.field_word, isIdentifier_iff.mpr decorates.locale_word⟩

/-! ## Plain names -/

/-- **NO NAME IS BOTH** decorated and plain: a decorated one starts with a mark that no word has. -/
theorem not_word_of_decorates (h : Decorates name field locale) : ¬Word name := by
  intro word
  have mark : '$' ∈ name.toList := by
    rw [h.name_eq, toList_decoratedName]
    exact List.mem_cons_self
  exact word.not_mem (by decide) mark

/-- A plain name is not decorated. -/
theorem parseDecorated_of_isPlainField (plain : isPlainField name = true) :
    parseDecorated name = none := by
  cases hparse : parseDecorated name with
  | none => rfl
  | some d =>
      have decorates := parseDecorated_eq_some_iff.mp hparse
      exact absurd (isIdentifier_iff.mp plain) (not_word_of_decorates decorates)

/-! ## Columns -/

variable {names : List String} {column : DecoratedColumn}

/-- The decorated column that a name at a position stands for. -/
def decorationAt (p : String × Nat) : Option DecoratedColumn :=
  (parseDecorated p.1).map fun d => ⟨p.2, d.1, d.2⟩

/-- The decorated columns are those of the numbered names that have a decoration. -/
theorem decoratedFrom_eq_filterMap (index : Nat) (names : List String) :
    decoratedFrom index names = (names.zipIdx index).filterMap decorationAt := by
  induction names generalizing index with
  | nil => rfl
  | cons name rest ih =>
      rw [decoratedFrom, List.zipIdx_cons, List.filterMap_cons, ih, decorationAt]
      cases parseDecorated name <;> rfl

theorem decoratedColumns_eq_filterMap (names : List String) :
    decoratedColumns names = names.zipIdx.filterMap decorationAt :=
  decoratedFrom_eq_filterMap 0 names

/-- **DECORATED COLUMNS** are the columns whose name parses. -/
theorem mem_decoratedColumns :
    column ∈ decoratedColumns names ↔ ∃ name, names[column.index]? = some name ∧
      parseDecorated name = some (column.field, column.locale) := by
  rw [decoratedColumns_eq_filterMap, List.mem_filterMap]
  constructor
  · rintro ⟨⟨name, index⟩, hmem, hname⟩
    obtain ⟨⟨field, locale⟩, hparse, rfl⟩ := Option.map_eq_some_iff.mp hname
    exact ⟨name, List.mem_zipIdx_iff_getElem?.mp hmem, hparse⟩
  · rintro ⟨name, hget, hparse⟩
    refine ⟨(name, column.index), List.mem_zipIdx_iff_getElem?.mpr hget, ?_⟩
    rw [decorationAt, hparse]
    rfl

theorem isPlainField_field (mem : column ∈ decoratedColumns names) :
    isPlainField column.field = true := by
  obtain ⟨name, -, hparse⟩ := mem_decoratedColumns.mp mem
  exact (identifiers_of_parseDecorated hparse).1

theorem isPlainField_locale (mem : column ∈ decoratedColumns names) :
    isPlainField column.locale = true := by
  obtain ⟨name, -, hparse⟩ := mem_decoratedColumns.mp mem
  exact (identifiers_of_parseDecorated hparse).2

/-- **DECORATED COLUMNS IN ORDER**: they are listed from left to right. -/
theorem decoratedColumns_sorted (names : List String) :
    (decoratedColumns names).Pairwise fun c d => c.index < d.index := by
  rw [decoratedColumns_eq_filterMap]
  refine List.Pairwise.filterMap _ ?_ (pairwise_zipIdx names 0)
  intro p q before c hc d hd
  obtain ⟨_, _, rfl⟩ := Option.map_eq_some_iff.mp hc
  obtain ⟨_, _, rfl⟩ := Option.map_eq_some_iff.mp hd
  exact before

/-- **NO COLUMN IS BOTH** plain and decorated. -/
theorem not_isPlain_index {raw : RawTable} (mem : column ∈ decoratedColumns raw.names) :
    ¬raw.IsPlain column.index := by
  rintro ⟨name, hname, hplain⟩
  obtain ⟨name', hname', hparse⟩ := mem_decoratedColumns.mp mem
  obtain rfl := Option.some.inj (hname.symm.trans hname')
  exact not_word_of_decorates (parseDecorated_eq_some_iff.mp hparse) (isIdentifier_iff.mp hplain)

/-- **DECORATED NAMES** parse to the field and the locale that they decorate, which no other pair does,
and none of them is a plain name.  The decorated columns are listed from left to right, each with what
its name decorates.  So a column is compiled if its name is a word, is localized if its name decorates a
field, and is never both. -/
theorem decorated_names_exact (names : List String) :
    (∀ name field locale,
      parseDecorated name = some (field, locale) ↔ Decorates name field locale) ∧
    (∀ name field locale field' locale', Decorates name field locale →
      Decorates name field' locale' → field = field' ∧ locale = locale') ∧
    (∀ name, ¬(isPlainField name = true ∧ ∃ field locale, Decorates name field locale)) ∧
    (decoratedColumns names).Pairwise (fun c d => c.index < d.index) ∧
    (∀ column, column ∈ decoratedColumns names ↔
      ∃ name, names[column.index]? = some name ∧ Decorates name column.field column.locale) ∧
    ∀ raw : RawTable, raw.names = names → ∀ col,
      (col ∈ raw.sourceMap.cols ↔ ∃ name, names[col]? = some name ∧ Word name) ∧
      ¬(col ∈ raw.sourceMap.cols ∧ ∃ column ∈ decoratedColumns names, column.index = col) := by
  refine ⟨fun _ _ _ => parseDecorated_eq_some_iff, fun _ _ _ _ _ => Decorates.unique, ?_,
    decoratedColumns_sorted names, ?_, ?_⟩
  · rintro name ⟨plain, field, locale, decorates⟩
    exact not_word_of_decorates decorates (isIdentifier_iff.mp plain)
  · intro column
    rw [mem_decoratedColumns]
    exact exists_congr fun name => and_congr_right' parseDecorated_eq_some_iff
  · rintro raw rfl col
    have compiled : col ∈ raw.sourceMap.cols ↔ raw.IsPlain col := RawTable.mem_plainColumns
    refine ⟨?_, ?_⟩
    · rw [compiled]
      exact exists_congr fun name => and_congr_right' isIdentifier_iff
    · rintro ⟨hcol, column, hcolumn, rfl⟩
      exact not_isPlain_index hcolumn (compiled.mp hcol)

/-- A table with a column that is compiled, one that is localized, and two that are neither. -/
def sortsOfNames : RawTable where
  names := ["id", "$name[en]", "#note", "$name[en]s"]
  types := ["int", "str", "str", "int"]
  records := []
  typed := rfl
  rectangular := fun _ h => nomatch h

/-- One decorated name, beside a plain one, a comment and a name with a letter behind the bracket. -/
theorem decorated_names_exact_sortsOfNames :
    Decorates "$name[en]" "name" "en" ∧
      (∀ field locale, Decorates "$name[en]" field locale → "name" = field ∧ "en" = locale) ∧
      ⟨1, "name", "en"⟩ ∈ decoratedColumns sortsOfNames.names ∧
      0 ∈ sortsOfNames.sourceMap.cols ∧ 1 ∉ sortsOfNames.sourceMap.cols := by
  obtain ⟨parses, unique, -, -, listed, columns⟩ := decorated_names_exact sortsOfNames.names
  have decorates : Decorates "$name[en]" "name" "en" := (parses _ _ _).mp rfl
  have localized : ⟨1, "name", "en"⟩ ∈ decoratedColumns sortsOfNames.names :=
    (listed _).mpr ⟨"$name[en]", rfl, decorates⟩
  have word : Word "id" := isIdentifier_iff.mp (by decide)
  refine ⟨decorates, ?_, localized, ((columns _ rfl 0).1).mpr ⟨"id", rfl, word⟩, ?_⟩
  · intro field locale decorates'
    exact unique _ _ _ _ _ decorates decorates'
  · intro compiled
    exact (columns _ rfl 1).2 ⟨compiled, _, localized, rfl⟩

end TableCompiler.Localization
