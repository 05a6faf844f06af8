import TableCompiler.Proofs.Localization.Regrouping
import TableCompiler.Proofs.Table.Traversal

/-!
# Alignment — which column a pivot stops at

A pivot first asks every column for its number of entries, then reads position after position, and at
each position column after column.  Both loops end at the first error, so the error of a pivot is that
of the first column, in the order of the header, at the least position (`alignRows_eq_error_iff`).  The
first column sets the pace and never fails.
-/

namespace TableCompiler.Localization

variable {α : Type} {xs : List α} {column : α → UInt32 × Entries}
variable {columns : List (UInt32 × Entries)} {first c : UInt32 × Entries}
variable {position n : Nat} {hash : UInt32} {e : LocalizationError} {table : HashTable}

/-- The hashes of a column. -/
def hashes (c : UInt32 × Entries) : List UInt32 :=
  c.2.map Prod.fst

/-- What one column gives at a position. -/
def textAt (position : Nat) (hash : UInt32) (c : UInt32 × Entries) :
    Except LocalizationError String :=
  if (c.2.getD position (hash, "")).1 = hash then .ok (c.2.getD position (hash, "")).2
  else .error (.alignment position c.1 hash (c.2.getD position (hash, "")).1)

/-! ## The two loops -/

/-- The texts of a position are asked of one column after the other. -/
theorem alignTexts_eq_tryAll (position : Nat) (hash : UInt32)
    (columns : List (UInt32 × Entries)) :
    alignTexts position hash columns = tryAll (textAt position hash) columns := by
  induction columns with
  | nil => rfl
  | cons c rest ih =>
      rw [alignTexts, tryAll, textAt, ← ih]
      by_cases heq : (c.2.getD position (hash, "")).1 = hash
      · rw [if_pos heq, if_pos heq]
      · rw [if_neg heq, if_neg heq]

theorem alignRows_eq_tryAll (columns : List (UInt32 × Entries)) (positions : List Nat) :
    alignRows columns positions
      = tryAll (fun position =>
          (alignTexts position (leadingHash columns position) columns).map
            (⟨leadingHash columns position, ·⟩)) positions := by
  induction positions with
  | nil => rfl
  | cons position rest ih =>
      rw [alignRows, tryAll, ← ih]
      cases alignTexts position (leadingHash columns position) columns <;> rfl

/-! ## One column at one position -/

/-- Within a column the entry that is looked at is the one that stands there. -/
theorem fst_getD_eq_iff {d : UInt32 × String} (h : position < c.2.length) :
    (c.2.getD position d).1 = hash ↔ (hashes c)[position]? = some hash := by
  rw [List.getD_eq_getElem _ _ h, hashes, List.getElem?_map, List.getElem?_eq_getElem h,
    Option.map_some, Option.some_inj]

/-- A column gives a text just if its hash at the position is the leading one. -/
theorem textAt_eq_ok_iff (h : position < c.2.length) :
    (∃ text, textAt position hash c = .ok text) ↔ (hashes c)[position]? = some hash := by
  rw [← fst_getD_eq_iff h (d := (hash, "")), textAt]
  by_cases heq : (c.2.getD position (hash, "")).1 = hash
  · rw [if_pos heq]
    exact ⟨fun _ => heq, fun _ => ⟨_, rfl⟩⟩
  · rw [if_neg heq]
    exact ⟨(fun ⟨_, ht⟩ => nomatch ht), fun ht => absurd ht heq⟩

/-- A column with another hash at the position is out of line, and the error has both hashes. -/
theorem textAt_eq_error_iff (h : position < c.2.length) :
    textAt position hash c = .error e ↔
      ∃ found, (hashes c)[position]? = some found ∧ found ≠ hash ∧
        e = .alignment position c.1 hash found := by
  have hfound : (hashes c)[position]? = some (c.2.getD position (hash, "")).1 :=
    (fst_getD_eq_iff h).mp rfl
  rw [textAt]
  by_cases heq : (c.2.getD position (hash, "")).1 = hash
  · rw [if_pos heq]
    refine ⟨(fun ht => nomatch ht), ?_⟩
    rintro ⟨found, hf, hne, -⟩
    exact absurd ((Option.some.inj (hf.symm.trans hfound)).trans heq) hne
  · rw [if_neg heq]
    constructor
    · intro ht
      exact ⟨_, hfound, heq, (Except.error.inj ht).symm⟩
    · rintro ⟨found, hf, -, rfl⟩
      rw [Option.some.inj (hf.symm.trans hfound)]

/-! ## All columns

The columns behind the first one are told by what they stand for. -/

/-- The first column has its own number of entries. -/
theorem unevenColumn?_cons (first : UInt32 × Entries) (column : α → UInt32 × Entries)
    (xs : List α) :
    unevenColumn? (expectedLength (first :: xs.map column)) (first :: xs.map column)
      = (xs.find? fun x => decide ((column x).2.length ≠ first.2.length)).map column := by
  have hfirst : decide (first.2.length ≠ first.2.length) = false :=
    decide_eq_false (not_not_intro rfl)
  rw [unevenColumn?, expectedLength, List.find?_cons, hfirst, List.find?_map]
  rfl

section Sized

variable (sized : ∀ x ∈ xs, (column x).2.length = first.2.length)
variable (within : position < first.2.length) (leads : (hashes first)[position]? = some hash)
include sized within leads

/-- A position is aligned if every column has the leading hash there. -/
theorem alignTexts_cons_eq_ok_iff :
    (∃ texts, alignTexts position hash (first :: xs.map column) = .ok texts) ↔
      ∀ x ∈ xs, (hashes (column x))[position]? = some hash := by
  -- the first column gives the hash that it is asked for
  obtain ⟨text, htext⟩ := (textAt_eq_ok_iff within).mpr leads
  rw [alignTexts_eq_tryAll, tryAll_cons_ok htext, exists_map_eq_ok_iff, tryAll_map]
  constructor
  · rintro ⟨texts, htexts⟩ x hx
    exact (textAt_eq_ok_iff (by rwa [sized x hx])).mp (exists_ok_of_tryAll htexts x hx)
  · intro hall
    exact tryAll_total fun x hx => (textAt_eq_ok_iff (by rwa [sized x hx])).mpr (hall x hx)

/-- A position fails at the first column with another hash, and names it. -/
theorem alignTexts_cons_eq_error_iff :
    alignTexts position hash (first :: xs.map column) = .error e ↔
      ∃ before x after, xs = before ++ x :: after ∧
        (∀ y ∈ before, (hashes (column y))[position]? = some hash) ∧
        ∃ found, (hashes (column x))[position]? = some found ∧ found ≠ hash ∧
          e = .alignment position (column x).1 hash found := by
  obtain ⟨text, htext⟩ := (textAt_eq_ok_iff within).mpr leads
  rw [alignTexts_eq_tryAll, tryAll_cons_ok htext, map_eq_error_iff, tryAll_map,
    tryAll_eq_error_iff]
  -- the first column leads and has its own hash, so the first failure is among the others
  constructor
  · rintro ⟨before, x, after, rfl, hx, hbefore⟩
    have hin : ∀ y ∈ before ++ x :: after, position < (column y).2.length :=
      fun y hy => by rwa [sized y hy]
    refine ⟨before, x, after, rfl, fun y hy => ?_, ?_⟩
    · exact (textAt_eq_ok_iff (hin y (List.mem_append_left _ hy))).mp (hbefore y hy)
    · exact (textAt_eq_error_iff (hin x (by simp))).mp hx
  · rintro ⟨before, x, after, rfl, hbefore, hx⟩
    have hin : ∀ y ∈ before ++ x :: after, position < (column y).2.length :=
      fun y hy => by rwa [sized y hy]
    refine ⟨before, x, after, rfl, ?_, fun y hy => ?_⟩
    · exact (textAt_eq_error_iff (hin x (by simp))).mpr hx
    · exact (textAt_eq_ok_iff (hin y (List.mem_append_left _ hy))).mpr (hbefore y hy)

end Sized

/-- **THE FIRST MISALIGNMENT**: columns of one length stop a pivot at the least position where one of
them has another hash than the first column, and there at the first one that has. -/
theorem alignRows_eq_error_iff
    (sized : ∀ x ∈ xs, (column x).2.length = first.2.length) :
    alignRows (first :: xs.map column)
        (List.range (expectedLength (first :: xs.map column))) = .error e ↔
      ∃ position expected, (hashes first)[position]? = some expected ∧
        (∀ p < position, ∀ x ∈ xs, (hashes (column x))[p]? = (hashes first)[p]?) ∧
        ∃ before x after, xs = before ++ x :: after ∧
          (∀ y ∈ before, (hashes (column y))[position]? = some expected) ∧
          ∃ found, (hashes (column x))[position]? = some found ∧ found ≠ expected ∧
            e = .alignment position (column x).1 expected found := by
  have hleads : ∀ p, p < first.2.length →
      (hashes first)[p]? = some (leadingHash (first :: xs.map column) p) :=
    fun p hp => (fst_getD_eq_iff hp).mp rfl
  have hwithin : ∀ p hash, (hashes first)[p]? = some hash → p < first.2.length := by
    intro p hash hp
    obtain ⟨hlt, -⟩ := List.getElem?_eq_some_iff.mp hp
    rwa [hashes, List.length_map] at hlt
  rw [alignRows_eq_tryAll, expectedLength,
    tryAll_eq_error_iff_of_sorted (fun p q => Nat.lt_asymm) List.pairwise_lt_range]
  simp only [map_eq_error_iff, exists_map_eq_ok_iff, List.mem_range]
  constructor
  -- the positions are those of the first column, and so are the hashes that are asked for
  · rintro ⟨position, hposition, herror, hbefore⟩
    refine ⟨position, _, hleads position hposition, fun p hp => ?_, ?_⟩
    · have hin : p < first.2.length := Nat.lt_trans hp hposition
      rw [hleads p hin]
      exact (alignTexts_cons_eq_ok_iff sized hin (hleads p hin)).mp (hbefore p hin hp)
    · exact (alignTexts_cons_eq_error_iff sized hposition (hleads position hposition)).mp herror
  · rintro ⟨position, expected, hexpected, hbefore, hcolumn⟩
    have hposition := hwithin position expected hexpected
    obtain rfl := Option.some.inj (hexpected.symm.trans (hleads position hposition))
    refine ⟨position, hposition, ?_, fun p hin hp => ?_⟩
    · exact (alignTexts_cons_eq_error_iff sized hposition hexpected).mpr hcolumn
    · refine (alignTexts_cons_eq_ok_iff sized hin (hleads p hin)).mpr fun x hx => ?_
      rw [hbefore p hp x hx, hleads p hin]

/-! ## The pivot -/

/-- Rows that agree stop a pivot by the number of entries, or else by their order. -/
theorem pivot_eq_error_iff (one : OneText table.rows) :
    TextTable.pivot table = .error e ↔
      (∃ c, unevenColumn? (expectedLength (declaredColumns table.rows))
            (declaredColumns table.rows) = some c ∧
          e = .unevenColumns c.1 (expectedLength (declaredColumns table.rows)) c.2.length) ∨
        unevenColumn? (expectedLength (declaredColumns table.rows))
            (declaredColumns table.rows) = none ∧
          alignRows (declaredColumns table.rows)
            (List.range (expectedLength (declaredColumns table.rows))) = .error e := by
  have hnil : OneText [] := fun r hr => absurd hr List.not_mem_nil
  have hrows : pushRows [] table.rows = .ok table.rows :=
    (pushRows_eq_ok_iff hnil).mpr ⟨rfl, one⟩
  rw [TextTable.pivot, hrows]
  simp only
  -- the lengths are compared before any row is aligned, so unevenness comes first
  split
  case h_1 c huneven =>
    rw [huneven]
    constructor
    · intro h
      exact .inl ⟨c, rfl, (Except.error.inj h).symm⟩
    · rintro (⟨c', hc', rfl⟩ | ⟨hnone, -⟩)
      · rw [Option.some.inj hc']
      · cases hnone
  case h_2 huneven =>
    rw [huneven]
    split
    case h_1 e₁ halign =>
      constructor
      · intro h
        exact .inr ⟨rfl, halign.trans (congrArg Except.error (Except.error.inj h))⟩
      · rintro (⟨c, hc, -⟩ | ⟨-, h⟩)
        · cases hc
        · exact congrArg Except.error (Except.error.inj (halign.symm.trans h))
    case h_2 texts halign =>
      constructor
      · intro h
        cases h
      · rintro (⟨c, hc, -⟩ | ⟨-, h⟩)
        · cases hc
        · cases halign.symm.trans h

end TableCompiler.Localization
