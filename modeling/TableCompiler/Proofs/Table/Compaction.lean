import Mathlib.Data.List.Basic
import TableCompiler.Proofs.Table.Places

/-!
# Compaction — what is kept of a source, and where it stood

`Compacts` says in terms of the source what a compacted table is: the columns whose names are words, the
records that count, both in their order, and every cell from where the map says.  Compaction gives such
a table and such a map, and no others fit (`compacts_iff`).  What is kept is `Whole`: all its columns are
plain, and the first of them is the one that its records were judged by, so all of them count again.
Hence a second compaction leaves everything in its place.
-/

namespace TableCompiler

variable {raw t t' : RawTable} {m m' : SourceMap}

/-- The cell of a column in a row. -/
def Table.cell? {τ κ : Type} (t : Table τ κ) (row col : Nat) : Option κ :=
  t.records[row]?.bind fun record => record[col]?

namespace RawTable

/-! ## What compaction is -/

/-- A table is what compaction keeps of a source, and a map says where it stood: names, types and cells
are those of the source at the places of the map. -/
structure Compacts (raw t : RawTable) (m : SourceMap) : Prop where
  cols_increase : m.cols.Pairwise (· < ·)
  mem_cols : ∀ col, col ∈ m.cols ↔ ∃ name, raw.names[col]? = some name ∧
    name.toList ≠ [] ∧ ∀ c ∈ name.toList, Text.isWord c = true
  rows_increase : m.rows.Pairwise (· < ·)
  /-- A record counts by its cell in the first of these columns; without one none does. -/
  mem_rows : ∀ row, row ∈ m.rows ↔ ∃ first cell, m.cols.head? = some first ∧
    raw.cell? row first = some cell ∧ Counts cell
  names : ∀ j : Nat, t.names[j]? = m.cols[j]?.bind fun col => raw.names[col]?
  types : ∀ j : Nat, t.types[j]? = m.cols[j]?.bind fun col => raw.types[col]?
  rowCount : t.rowCount = m.rows.length
  cells : ∀ i j, t.cell? i j = m.rows[i]?.bind fun row => m.cols[j]?.bind fun col => raw.cell? row col

/-- Lists in order with the same members are equal. -/
theorem eq_of_increasing {xs ys : List Nat} (hx : xs.Pairwise (· < ·)) (hy : ys.Pairwise (· < ·))
    (same : ∀ n, n ∈ xs ↔ n ∈ ys) : xs = ys := by
  -- what increases repeats nothing, so the same members make a permutation
  have once : ∀ {zs : List Nat}, zs.Pairwise (· < ·) → zs.Nodup :=
    fun hz => hz.imp fun h => Nat.ne_of_lt h
  have perm := (List.perm_ext_iff_of_nodup (once hx) (once hy)).mpr same
  exact perm.eq_of_pairwise (fun _ _ _ _ hab hba => absurd hab (Nat.lt_asymm hba)) hx hy

/-- Tables with the same head and the same cells are one table. -/
theorem eq_of_cells {τ : Type} {t t' : Table τ String} (names : t.names = t'.names)
    (types : t.types = t'.types) (rows : t.rowCount = t'.rowCount)
    (cells : ∀ i j, t.cell? i j = t'.cell? i j) : t = t' := by
  refine Table.ext names types (List.ext_getElem rows fun i hi hi' => ?_)
  refine List.ext_getElem? fun j => ?_
  have hcell := cells i j
  rwa [Table.cell?, Table.cell?, List.getElem?_eq_getElem hi, List.getElem?_eq_getElem hi'] at hcell

/-- **ONE TABLE AND ONE MAP** at most are what compaction keeps of a source. -/
theorem Compacts.unique (h : Compacts raw t m) (h' : Compacts raw t' m') : t = t' ∧ m = m' := by
  have hcols : m.cols = m'.cols :=
    eq_of_increasing h.cols_increase h'.cols_increase fun col =>
      (h.mem_cols col).trans (h'.mem_cols col).symm
  -- which rows are kept depends on the first column that is, so columns come first
  have hrows : m.rows = m'.rows := by
    refine eq_of_increasing h.rows_increase h'.rows_increase fun row => ?_
    rw [h.mem_rows, h'.mem_rows, hcols]
  constructor
  · apply eq_of_cells
    · exact List.ext_getElem? fun j => by rw [h.names, h'.names, hcols]
    · exact List.ext_getElem? fun j => by rw [h.types, h'.types, hcols]
    · rw [h.rowCount, h'.rowCount, hrows]
    · intro i j
      rw [h.cells, h'.cells, hcols, hrows]
  · cases m
    cases m'
    cases hcols
    cases hrows
    rfl

/-! ## What compaction does -/

/-- An entry that is picked is the one at its column. -/
theorem getElem?_pick {cells : List String} (sized : cells.length = raw.names.length) (j : Nat) :
    (pick raw.plainColumns cells)[j]? = raw.plainColumns[j]?.bind fun col => cells[col]? := by
  rw [pick, List.getElem?_map]
  cases hcol : raw.plainColumns[j]? with
  | none => rfl
  | some col =>
      have plain := mem_plainColumns.mp (List.mem_of_getElem? hcol)
      exact (plain.getElem?_eq_getD sized).symm

/-- A row of the map holds the record that is kept. -/
theorem getElem?_of_retainedRows {i : Nat} {r : List String × Nat}
    (h : raw.retainedRows[i]? = some r) : raw.records[r.2]? = some r.1 :=
  (mem_retainedRows.mp (List.mem_of_getElem? h)).1

/-- The rows that are kept are those whose first plain cell counts. -/
theorem mem_sourceMap_rows {row : Nat} :
    row ∈ raw.sourceMap.rows ↔ ∃ first cell, raw.plainColumns.head? = some first ∧
      raw.cell? row first = some cell ∧ Counts cell := by
  rw [sourceMap, List.mem_map, ← firstPlain?_eq_head?]
  constructor
  · rintro ⟨⟨record, row⟩, hmem, rfl⟩
    obtain ⟨hrecord, hretained⟩ := mem_retainedRows.mp hmem
    obtain ⟨first, cell, hfirst, hcell, counts⟩ := isRetained_iff.mp hretained
    refine ⟨first, cell, hfirst, ?_, counts⟩
    rw [Table.cell?, hrecord, Option.bind_some, hcell]
  · rintro ⟨first, cell, hfirst, hcell, counts⟩
    obtain ⟨record, hrecord, hcell⟩ := Option.bind_eq_some_iff.mp hcell
    exact ⟨(record, row), mem_retainedRows.mpr
      ⟨hrecord, isRetained_iff.mpr ⟨first, cell, hfirst, hcell, counts⟩⟩, rfl⟩

theorem cell?_compact (raw : RawTable) (i j : Nat) :
    raw.compact.cell? i j = raw.sourceMap.rows[i]?.bind fun row =>
      raw.sourceMap.cols[j]?.bind fun col => raw.cell? row col := by
  rw [Table.cell?, compact, sourceMap, List.getElem?_map, List.getElem?_map]
  cases hrow : raw.retainedRows[i]? with
  | none => rfl
  | some r =>
      have hrecord := getElem?_of_retainedRows hrow
      simp only [Option.map_some, Option.bind_some, Table.cell?, hrecord]
      exact getElem?_pick (raw.rectangular r.1 (List.mem_of_getElem? hrecord)) j

/-- **COMPACTION** keeps what it should, from where it says. -/
theorem compacts (raw : RawTable) : Compacts raw raw.compact raw.sourceMap where
  cols_increase := raw.plainColumns_sorted
  mem_cols := by
    intro col
    show col ∈ raw.plainColumns ↔ _
    rw [mem_plainColumns]
    simp only [IsPlain, isPlainField_iff]
  rows_increase := List.pairwise_map.mpr raw.retainedRows_sorted
  mem_rows := fun row => mem_sourceMap_rows
  names := getElem?_pick rfl
  types := getElem?_pick raw.typed
  rowCount := by
    rw [Table.rowCount, compact, sourceMap, List.length_map, List.length_map]
  cells := raw.cell?_compact

/-- What compaction gives is the one result that is asked for. -/
theorem compacts_iff : Compacts raw t m ↔ (raw.compact, raw.sourceMap) = (t, m) := by
  rw [Prod.mk.injEq]
  constructor
  · exact (compacts raw).unique
  · rintro ⟨rfl, rfl⟩
    exact compacts raw

/-! ## Sources with nothing to leave out -/

/-- Every column of a source is plain and every record counts. -/
structure Whole (raw : RawTable) : Prop where
  plain : ∀ name ∈ raw.names, isPlainField name = true
  kept : ∀ record ∈ raw.records, raw.isRetained record = true

end RawTable

theorem pick_range {cells : List String} {n : Nat} (sized : cells.length = n) :
    pick (List.range n) cells = cells := by
  refine List.ext_getElem? fun i => ?_
  rw [pick, List.getElem?_map]
  by_cases hi : i < n
  · rw [List.getElem?_range hi, Option.map_some, List.getD_eq_getElem?_getD,
      List.getElem?_eq_getElem (sized ▸ hi), Option.getD_some]
  · have hout : (List.range n)[i]? = none := by
      rw [List.getElem?_eq_none_iff, List.length_range]
      exact Nat.not_lt.mp hi
    rw [hout, List.getElem?_eq_none_iff.mpr (sized ▸ Nat.not_lt.mp hi)]
    rfl

namespace RawTable

namespace Whole

variable (whole : raw.Whole)
include whole

theorem plainColumns_eq : raw.plainColumns = List.range raw.columnCount := by
  have hall : ∀ c ∈ raw.names.zipIdx, isPlainField c.1 = true :=
    fun c hc => whole.plain c.1 (List.fst_mem_of_mem_zipIdx hc)
  rw [plainColumns, List.filter_eq_self.mpr hall, List.zipIdx_map_snd, ← List.range_eq_range']
  rfl

theorem retainedRows_eq : raw.retainedRows = raw.records.zipIdx :=
  List.filter_eq_self.mpr fun r hr => whole.kept r.1 (List.fst_mem_of_mem_zipIdx hr)

/-- **NOTHING IS LEFT OUT** by compaction, and everything stays in its place. -/
theorem compact_eq :
    raw.compact = raw ∧
      raw.sourceMap = ⟨List.range raw.rowCount, List.range raw.columnCount⟩ := by
  constructor
  · refine Table.ext ?_ ?_ ?_
    · show pick raw.plainColumns raw.names = raw.names
      rw [whole.plainColumns_eq]
      exact pick_range rfl
    · show pick raw.plainColumns raw.types = raw.types
      rw [whole.plainColumns_eq]
      exact pick_range raw.typed
    · show raw.retainedRows.map (fun r => pick raw.plainColumns r.1) = raw.records
      have hpick : ∀ r ∈ raw.records.zipIdx, pick (List.range raw.columnCount) r.1 = r.1 :=
        fun r hr => pick_range (raw.rectangular r.1 (List.fst_mem_of_mem_zipIdx hr))
      rw [whole.plainColumns_eq, whole.retainedRows_eq]
      exact (List.map_congr_left hpick).trans (List.zipIdx_map_fst 0 raw.records)
  · rw [sourceMap, whole.plainColumns_eq, whole.retainedRows_eq, List.zipIdx_map_snd,
      ← List.range_eq_range']
    rfl

end Whole

/-! ## Compaction a second time -/

/-- A compact table has plain names only. -/
theorem isPlainField_of_mem_compact {name : String} (h : name ∈ raw.compact.names) :
    isPlainField name = true := by
  obtain ⟨col, hcol, rfl⟩ := List.mem_map.mp h
  have plain := mem_plainColumns.mp hcol
  have hname := plain.getElem?_eq_getD rfl
  obtain ⟨name, hname', hplain⟩ := plain
  rwa [← Option.some.inj (hname'.symm.trans hname)]

/-- The first column of a compacted table is the first plain column of its source. -/
theorem firstPlain?_compact {first : Nat} (h : raw.firstPlain? = some first) :
    raw.compact.firstPlain? = some 0 := by
  rw [firstPlain?_eq_head?] at h
  obtain ⟨rest, hcols⟩ := List.head?_eq_some_iff.mp h
  have hnames : raw.compact.names = raw.names.getD first "" :: pick rest raw.names := by
    show pick raw.plainColumns raw.names = raw.names.getD first "" :: pick rest raw.names
    rw [hcols]
    rfl
  have hplain := isPlainField_of_mem_compact (hnames ▸ List.mem_cons_self)
  rw [firstPlain?, hnames, List.findIdx?_cons, hplain, if_pos rfl]

/-- **WHAT IS KEPT** has nothing to leave out: its records count by the cell that they counted by. -/
theorem whole_compact (raw : RawTable) : raw.compact.Whole where
  plain := fun _ => isPlainField_of_mem_compact
  kept := by
    intro record hrecord
    obtain ⟨⟨source, row⟩, hmem, rfl⟩ := List.mem_map.mp hrecord
    obtain ⟨hsource, hretained⟩ := mem_retainedRows.mp hmem
    obtain ⟨first, cell, hfirst, hcell, counts⟩ := isRetained_iff.mp hretained
    -- the cell that the record counts by stands first in what is kept of it
    refine isRetained_iff.mpr ⟨0, cell, firstPlain?_compact hfirst, ?_, counts⟩
    rw [firstPlain?_eq_head?, List.head?_eq_getElem?] at hfirst
    rw [getElem?_pick (raw.rectangular source (List.mem_of_getElem? hsource)), hfirst,
      Option.bind_some, hcell]

/-- **COMPACTION IS EXACT**: the compacted table and the map are the only ones that list the columns
whose names are words and the records that count, in order, with what stands there in the source.
Compacted again, the table stays as it is, with everything in its place. -/
theorem compaction_exact (raw : RawTable) :
    (∀ t m, (raw.compact, raw.sourceMap) = (t, m) ↔ Compacts raw t m) ∧
      raw.compact.compact = raw.compact ∧
      raw.compact.sourceMap
        = ⟨List.range raw.compact.rowCount, List.range raw.compact.columnCount⟩ :=
  ⟨fun _ _ => compacts_iff.symm, (whole_compact raw).compact_eq⟩

end RawTable

end TableCompiler
