import TableCompiler.Proofs.Table.Shape

/-!
# Padding — which grids make a table, and which make the same one

A grid makes no table for one of three reasons, and `Unfit` says which of them is told: the check behind
the padding never has one of its own (`ofRows_eq_error_iff`).  Rows are filled up with empty cells at
their ends, so two of them are filled up alike exactly when they differ in such cells alone
(`pad_eq_pad_iff`): what a spreadsheet drops from the ends of its rows is not seen in the table.
-/

namespace TableCompiler.RawTable

variable {width row start found : Nat} {names typeRow cells cells' core : List String}
variable {rows rows' grid : List (List String)} {t : RawTable} {e : TableError}

/-! ## Grids that make no table -/

/-- The first of these rows with more cells than that, and its cells. -/
structure FirstLonger (width : Nat) (rows : List (List String)) (row : Nat)
    (cells : List String) : Prop where
  cells_eq : rows[row]? = some cells
  longer : width < cells.length
  within : ∀ i < row, ∀ earlier, rows[i]? = some earlier → earlier.length ≤ width

/-- Why a grid makes no table.  The row of types is judged before the records, and of these the first one
that is too long, counted from the first record. -/
inductive Unfit : List (List String) → TableError → Prop where
  | headless {grid : List (List String)} : grid.length < 2 → Unfit grid .missingHeader
  | types {names typeRow : List String} {rows : List (List String)} :
      names.length < typeRow.length →
      Unfit (names :: typeRow :: rows) (.columnCountMismatch names.length typeRow.length)
  | record {names typeRow cells : List String} {rows : List (List String)} {row : Nat} :
      typeRow.length ≤ names.length → FirstLonger names.length rows row cells →
      Unfit (names :: typeRow :: rows) (.raggedRecord row names.length cells.length)

theorem firstLonger_zero_iff :
    FirstLonger width (cells :: rows) 0 cells' ↔ cells' = cells ∧ width < cells.length := by
  constructor
  · rintro ⟨hcells, longer, -⟩
    obtain rfl := Option.some.inj hcells
    exact ⟨rfl, longer⟩
  · rintro ⟨rfl, longer⟩
    exact ⟨rfl, longer, fun i hi => absurd hi (Nat.not_lt_zero i)⟩

theorem firstLonger_succ_iff :
    FirstLonger width (cells :: rows) (row + 1) cells' ↔
      cells.length ≤ width ∧ FirstLonger width rows row cells' := by
  constructor
  · rintro ⟨hcells, longer, within⟩
    refine ⟨within 0 (Nat.succ_pos row) cells rfl, hcells, longer, fun i hi => ?_⟩
    exact within (i + 1) (Nat.succ_lt_succ hi)
  · rintro ⟨first, hcells, longer, within⟩
    refine ⟨hcells, longer, fun i hi earlier hearlier => ?_⟩
    cases i with
    | zero =>
        obtain rfl := Option.some.inj hearlier
        exact first
    | succ i => exact within i (Nat.lt_of_succ_lt_succ hi) earlier hearlier

/-- The row that is found is the first one beyond the width, with its length. -/
theorem firstLonger?_from_eq_some_iff :
    firstLonger? width start rows = some (row, found) ↔
      ∃ i cells, FirstLonger width rows i cells ∧ row = start + i ∧ found = cells.length := by
  induction rows generalizing start with
  | nil =>
      refine iff_of_false (fun h => nomatch h) ?_
      rintro ⟨i, cells, ⟨hcells, -, -⟩, -⟩
      cases hcells
  | cons cells rest ih =>
      rw [firstLonger?]
      -- the start is generalized: rows are counted from it, and the first one decides
      by_cases longer : width < cells.length
      · rw [if_pos longer]
        constructor
        · intro h
          obtain ⟨rfl, rfl⟩ := Prod.mk.inj (Option.some.inj h)
          exact ⟨0, cells, firstLonger_zero_iff.mpr ⟨rfl, longer⟩, rfl, rfl⟩
        · rintro ⟨i, cells', first, rfl, rfl⟩
          cases i with
          | zero =>
              obtain ⟨rfl, -⟩ := firstLonger_zero_iff.mp first
              rfl
          | succ i =>
              exact absurd longer (Nat.not_lt.mpr (firstLonger_succ_iff.mp first).1)
      · rw [if_neg longer, ih]
        constructor
        · rintro ⟨i, cells', first, rfl, rfl⟩
          exact ⟨i + 1, cells', firstLonger_succ_iff.mpr ⟨Nat.not_lt.mp longer, first⟩, by omega, rfl⟩
        · rintro ⟨i, cells', first, rfl, rfl⟩
          cases i with
          | zero =>
              obtain ⟨rfl, longer'⟩ := firstLonger_zero_iff.mp first
              exact absurd longer' longer
          | succ i => exact ⟨i, cells', (firstLonger_succ_iff.mp first).2, by omega, rfl⟩

/-- **THE FIRST LONGER ROW** is found, with its number of cells. -/
theorem firstLonger?_eq_some_iff :
    firstLonger? width 0 rows = some (row, found) ↔
      ∃ cells, FirstLonger width rows row cells ∧ found = cells.length := by
  rw [firstLonger?_from_eq_some_iff]
  constructor
  · rintro ⟨i, cells, first, rfl, rfl⟩
    rw [Nat.zero_add]
    exact ⟨cells, first, rfl⟩
  · rintro ⟨cells, first, rfl⟩
    exact ⟨row, cells, first, (Nat.zero_add row).symm, rfl⟩

/-- A grid that has its rows fails for the type row, or else for its first longer record. -/
theorem ofRows_eq_error_iff_longer :
    ofRows (names :: typeRow :: rows) = .error e ↔
      (names.length < typeRow.length ∧
        e = .columnCountMismatch names.length typeRow.length) ∨
      (typeRow.length ≤ names.length ∧ ∃ row cells, FirstLonger names.length rows row cells ∧
        e = .raggedRecord row names.length cells.length) := by
  rw [ofRows]
  by_cases typed : typeRow.length ≤ names.length
  · rw [if_neg (Nat.not_lt.mpr typed)]
    cases hlonger : firstLonger? names.length 0 rows with
    | none =>
        have within := (firstLonger?_eq_none_iff 0).mp hlonger
        have fits := rectangular_pad typed within
        -- filled up, the rows pass the check of the parts
        rw [Table.new_eq_ok fits.typed fits.filled]
        constructor
        · intro h
          cases h
        · rintro (⟨longer, -⟩ | ⟨-, row, cells, first, -⟩)
          · exact absurd typed (Nat.not_le.mpr longer)
          · have short := within cells (List.mem_of_getElem? first.cells_eq)
            exact absurd first.longer (Nat.not_lt.mpr short)
    | some longer =>
        obtain ⟨row, found⟩ := longer
        obtain ⟨cells, first, rfl⟩ := firstLonger?_eq_some_iff.mp hlonger
        constructor
        · intro h
          exact .inr ⟨typed, row, cells, first, (Except.error.inj h).symm⟩
        · rintro (⟨longer, -⟩ | ⟨-, row', cells', first', rfl⟩)
          · exact absurd typed (Nat.not_le.mpr longer)
          · have again := firstLonger?_eq_some_iff.mpr ⟨cells', first', rfl⟩
            obtain ⟨hrow, hfound⟩ := Prod.mk.inj (Option.some.inj (hlonger.symm.trans again))
            rw [hrow, hfound]
  · have longer := Nat.not_le.mp typed
    rw [if_pos longer]
    constructor
    · intro h
      exact .inl ⟨longer, (Except.error.inj h).symm⟩
    · rintro (⟨-, rfl⟩ | ⟨typed', -⟩)
      · rfl
      · exact absurd typed' typed

/-- **A GRID MAKES NO TABLE** for the reason that it has. -/
theorem ofRows_eq_error_iff : ofRows grid = .error e ↔ Unfit grid e := by
  -- a grid of fewer than two rows fails before any width is compared
  match grid with
  | [] =>
      constructor
      · intro h
        rw [← Except.error.inj h]
        exact .headless (by decide)
      · rintro ⟨-⟩
        rfl
  | [names] =>
      constructor
      · intro h
        rw [← Except.error.inj h]
        exact .headless (by simp)
      · rintro ⟨-⟩
        rfl
  | names :: typeRow :: rows =>
      rw [ofRows_eq_error_iff_longer]
      constructor
      · rintro (⟨longer, rfl⟩ | ⟨typed, row, cells, first, rfl⟩)
        · exact .types longer
        · exact .record typed first
      · rintro (few | longer | ⟨typed, first⟩)
        · exact absurd few (by simp)
        · exact .inl ⟨longer, rfl⟩
        · exact .inr ⟨typed, _, _, first, rfl⟩

/-! ## Grids that make the same table -/

/-- Rows that differ in empty cells at their ends alone. -/
def SameButEnds (cells cells' : List String) : Prop :=
  ∃ core n m, cells = core ++ List.replicate n "" ∧ cells' = core ++ List.replicate m ""

/-- However many empty cells a row ends with, it is filled up to the same row. -/
theorem pad_append_replicate {n : Nat}
    (within : (core ++ List.replicate n "").length ≤ width) :
    pad width (core ++ List.replicate n "")
      = core ++ List.replicate (width - core.length) "" := by
  rw [List.length_append, List.length_replicate] at within
  have sum : n + (width - (core.length + n)) = width - core.length := by omega
  rw [pad, List.length_append, List.length_replicate, List.append_assoc,
    List.replicate_append_replicate, sum]

/-- **PADDING HIDES EMPTY ENDS**, and nothing else. -/
theorem pad_eq_pad_iff (within : cells.length ≤ width) (within' : cells'.length ≤ width) :
    pad width cells = pad width cells' ↔ SameButEnds cells cells' := by
  constructor
  · intro same
    rw [pad, pad] at same
    have longer : ∀ {k : Nat} {behind front : List String},
        List.replicate k "" = behind ++ front → behind = List.replicate behind.length "" := by
      intro k behind front h
      exact (List.append_eq_replicate_iff.mp h.symm).2.1
    rcases List.append_eq_append_iff.mp same with ⟨behind, rfl, h⟩ | ⟨behind, rfl, h⟩
    · exact ⟨cells, 0, behind.length, (List.append_nil cells).symm, by rw [← longer h]⟩
    · exact ⟨cells', behind.length, 0, by rw [← longer h], (List.append_nil cells').symm⟩
  · rintro ⟨core, n, m, rfl, rfl⟩
    rw [pad_append_replicate within, pad_append_replicate within']

/-- Grids are padded to the same rows just if their rows are the same but for empty ends. -/
theorem map_pad_eq_iff (within : ∀ row ∈ rows, row.length ≤ width)
    (within' : ∀ row ∈ rows', row.length ≤ width) :
    rows.map (pad width) = rows'.map (pad width) ↔ List.Forall₂ SameButEnds rows rows' := by
  induction rows generalizing rows' with
  | nil =>
      rw [List.forall₂_nil_left_iff, List.map_nil, eq_comm, List.map_eq_nil_iff]
  | cons cells rows ih =>
      cases rows' with
      | nil => exact iff_of_false (fun h => nomatch h) fun h => nomatch h
      | cons cells' rows' =>
          obtain ⟨first, rest⟩ := List.forall_mem_cons.mp within
          obtain ⟨first', rest'⟩ := List.forall_mem_cons.mp within'
          rw [List.map_cons, List.map_cons, List.cons.injEq, List.forall₂_cons,
            pad_eq_pad_iff first first', ih rest rest']

/-- **THE SAME TABLE** is made of the rows that differ in empty ends alone. -/
theorem ofRows_eq_ok_iff_sameButEnds {typeRow' : List String}
    (made : ofRows (names :: typeRow :: rows) = .ok t) (typed' : typeRow'.length ≤ names.length)
    (within' : ∀ row ∈ rows', row.length ≤ names.length) :
    ofRows (names :: typeRow' :: rows') = .ok t ↔
      SameButEnds typeRow typeRow' ∧ List.Forall₂ SameButEnds rows rows' := by
  obtain ⟨⟨typed, within⟩, parts⟩ := ofRows_eq_ok_iff.mp made
  rw [← pad_eq_pad_iff typed typed', ← map_pad_eq_iff within within', ofRows_eq_ok_iff,
    and_iff_right ⟨typed', within'⟩]
  constructor
  · intro parts'
    exact ⟨parts.types_eq.symm.trans parts'.types_eq,
      parts.records_eq.symm.trans parts'.records_eq⟩
  · rintro ⟨htypes, hrows⟩
    rwa [← htypes, ← hrows]

/-- **WHAT A GRID MAKES**: no table for the one reason that it has, or else a table that all grids make
which differ from it in empty cells at the ends of their rows, the first one apart, and no others under
the same names.  The grid of a table makes the table. -/
theorem ofRows_exact (grid : List (List String)) :
    (∀ e, ofRows grid = .error e ↔ Unfit grid e) ∧
    (∀ names typeRow rows t, grid = names :: typeRow :: rows → ofRows grid = .ok t →
      ∀ typeRow' rows', typeRow'.length ≤ names.length →
        (∀ row ∈ rows', row.length ≤ names.length) →
        (ofRows (names :: typeRow' :: rows') = .ok t ↔
          SameButEnds typeRow typeRow' ∧ List.Forall₂ SameButEnds rows rows')) ∧
    ∀ t : RawTable, ofRows (t.names :: t.types :: t.records) = .ok t := by
  refine ⟨fun e => ofRows_eq_error_iff, ?_, ofRows_toRows⟩
  rintro names typeRow rows t rfl made typeRow' rows' typed' within'
  exact ofRows_eq_ok_iff_sameButEnds made typed' within'

/-- A table of two columns with an empty cell. -/
def shortEnds : RawTable where
  names := ["id", "note"]
  types := ["int", ""]
  records := [["1", ""]]
  typed := rfl
  rectangular := by decide

/-- Cells that a spreadsheet dropped are not missed, others are. -/
theorem ofRows_exact_shortEnds :
    ofRows [["id", "note"], ["int"], ["1"]] = .ok shortEnds ∧
      ofRows [["id", "note"], ["int", ""], ["1", ""]] = .ok shortEnds ∧
      ofRows [["id", "note"], ["int"], ["2"]] ≠ .ok shortEnds ∧
      Unfit [["id"], ["int"], ["1"], ["2", "3"]] (.raggedRecord 1 1 2) := by
  have made : ofRows [["id", "note"], ["int"], ["1"]] = .ok shortEnds := rfl
  obtain ⟨-, same, -⟩ := ofRows_exact [["id", "note"], ["int"], ["1"]]
  have sameButEnds : ∀ cell : String, SameButEnds [cell] [cell, ""] := fun cell =>
    ⟨[cell], 0, 1, rfl, rfl⟩
  refine ⟨made, ?_, ?_, ?_⟩
  · refine (same _ _ _ _ rfl made _ _ (by decide) (by decide)).mpr ⟨sameButEnds _, ?_⟩
    exact .cons (sameButEnds _) .nil
  · intro made'
    have rows := ((same _ _ _ _ rfl made _ _ (by decide) (by decide)).mp made').2
    have padded : pad 2 ["1"] = pad 2 ["2"] :=
      (pad_eq_pad_iff (by decide) (by decide)).mpr (List.forall₂_cons.mp rows).1
    exact absurd padded (by decide)
  · exact ((ofRows_exact _).1 _).mp rfl

end TableCompiler.RawTable
