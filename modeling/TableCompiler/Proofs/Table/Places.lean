import TableCompiler.Proofs.Text.Blank
import TableCompiler.Table.Compact

/-!
# Places — the cells that compaction keeps, where they stand in the source

`HasColumn` and `HasCell` say in terms of the source alone which columns and cells are compiled.
Compaction lists exactly these (`hasColumn_iff`, `hasCell_iff`), and lists them in the order of the
source, whichever rows and columns it drops.
-/

namespace TableCompiler

/-- One cell stands before another: in an earlier row, or before it in the same row. -/
def Precedes (row₁ col₁ row₂ col₂ : Nat) : Prop :=
  row₁ < row₂ ∨ row₁ = row₂ ∧ col₁ < col₂

theorem pairwise_zipIdx {α : Type} (xs : List α) (k : Nat) :
    (xs.zipIdx k).Pairwise fun p q => p.2 < q.2 := by
  have h : ((xs.zipIdx k).map Prod.snd).Pairwise (· < ·) := by
    rw [List.zipIdx_map_snd]
    exact List.pairwise_lt_range'
  exact List.pairwise_map.mp h

namespace RawTable

variable {raw : RawTable} {record : List String} {row col : Nat} {expr text : String}

/-- A column of the source is compiled. -/
def IsPlain (raw : RawTable) (col : Nat) : Prop :=
  ∃ name, raw.names[col]? = some name ∧ isPlainField name = true

/-- A column of the source is compiled, and that is its type expression. -/
def HasColumn (raw : RawTable) (col : Nat) (expr : String) : Prop :=
  raw.IsPlain col ∧ raw.types[col]? = some expr

/-- A record that counts and a column that is compiled meet in that text. -/
def HasCell (raw : RawTable) (row col : Nat) (text : String) : Prop :=
  ∃ record, raw.records[row]? = some record ∧ raw.isRetained record = true ∧ raw.IsPlain col ∧
    record[col]? = some text

/-- The plain columns are the places of plain names. -/
theorem mem_plainColumns : col ∈ raw.plainColumns ↔ raw.IsPlain col := by
  rw [plainColumns, List.mem_map]
  constructor
  · rintro ⟨⟨name, i⟩, hmem, rfl⟩
    obtain ⟨hzip, hplain⟩ := List.mem_filter.mp hmem
    exact ⟨name, List.mem_zipIdx_iff_getElem?.mp hzip, hplain⟩
  · rintro ⟨name, hname, hplain⟩
    exact ⟨(name, col), List.mem_filter.mpr ⟨List.mem_zipIdx_iff_getElem?.mpr hname, hplain⟩, rfl⟩

theorem mem_retainedRows :
    (record, row) ∈ raw.retainedRows ↔
      raw.records[row]? = some record ∧ raw.isRetained record = true := by
  rw [retainedRows, List.mem_filter, List.mem_zipIdx_iff_getElem?]

/-! ## Which columns and which records -/

/-- **A COLUMN IS PLAIN** if its name is one or more word characters. -/
theorem isPlainField_iff {name : String} :
    isPlainField name = true ↔ name.toList ≠ [] ∧ ∀ c ∈ name.toList, Text.isWord c = true :=
  Text.isIdentifier_iff

/-- A cell makes its record count: it shows something, and does not start with the comment mark. -/
def Counts (cell : String) : Prop :=
  ¬(∀ c ∈ cell.toList, Text.isBlank c = true) ∧ cell.toList.head? ≠ some '#'

/-- Cells count if the first of them does. -/
theorem isCommentOrBlank_eq_false_iff {cells : List String} :
    isCommentOrBlank cells = false ↔ ∃ cell, cells.head? = some cell ∧ Counts cell := by
  cases cells with
  | nil => exact iff_of_false (fun h => nomatch h) fun ⟨_, h, _⟩ => nomatch h
  | cons cell rest =>
      rw [isCommentOrBlank, Bool.or_eq_false_iff, decide_eq_false_iff_not, Bool.eq_false_iff,
        Ne, List.all_eq_true]
      constructor
      · intro counts
        exact ⟨cell, rfl, counts⟩
      · rintro ⟨_, hcell, counts⟩
        obtain rfl := Option.some.inj hcell
        exact counts

/-- **A RECORD COUNTS** by its cell in the first plain column. -/
theorem isRetained_iff :
    raw.isRetained record = true ↔
      ∃ first cell, raw.firstPlain? = some first ∧ record[first]? = some cell ∧ Counts cell := by
  rw [isRetained]
  cases raw.firstPlain? with
  | none => exact iff_of_false Bool.false_ne_true fun ⟨_, _, h, _⟩ => nomatch h
  | some first =>
      dsimp only
      rw [Bool.not_eq_true', isCommentOrBlank_eq_false_iff, List.head?_drop]
      constructor
      · rintro ⟨cell, hcell, counts⟩
        exact ⟨first, cell, rfl, hcell, counts⟩
      · rintro ⟨_, cell, hfirst, hcell, counts⟩
        obtain rfl := Option.some.inj hfirst
        exact ⟨cell, hcell, counts⟩

theorem firstPlain?_eq_head? (t : RawTable) : t.firstPlain? = t.plainColumns.head? := by
  rw [firstPlain?, plainColumns, List.findIdx?_eq_fst_find?_zipIdx, List.head?_map,
    List.head?_filter]

/-! ## Where they stand -/

/-- A list with an entry for each name has one at a plain column. -/
theorem IsPlain.getElem?_eq_getD {cells : List String} (plain : raw.IsPlain col)
    (sized : cells.length = raw.names.length) : cells[col]? = some (cells.getD col "") := by
  obtain ⟨name, hname, -⟩ := plain
  obtain ⟨hlt, -⟩ := List.getElem?_eq_some_iff.mp hname
  have hcol : col < cells.length := sized.symm ▸ hlt
  rw [List.getD_eq_getElem?_getD, List.getElem?_eq_getElem hcol, Option.getD_some]

theorem hasColumn_iff :
    raw.HasColumn col expr ↔ col ∈ raw.plainColumns ∧ raw.types.getD col "" = expr := by
  rw [mem_plainColumns]
  constructor
  · rintro ⟨hplain, hexpr⟩
    exact ⟨hplain, Option.some.inj ((hplain.getElem?_eq_getD raw.typed).symm.trans hexpr)⟩
  · rintro ⟨hplain, rfl⟩
    exact ⟨hplain, hplain.getElem?_eq_getD raw.typed⟩

theorem hasCell_iff :
    raw.HasCell row col text ↔
      ∃ record, (record, row) ∈ raw.retainedRows ∧ col ∈ raw.plainColumns ∧
        record.getD col "" = text := by
  simp only [HasCell, mem_retainedRows, mem_plainColumns]
  constructor
  · rintro ⟨record, hrecord, hretained, hplain, htext⟩
    have sized := raw.rectangular record (List.mem_of_getElem? hrecord)
    exact ⟨record, ⟨hrecord, hretained⟩, hplain,
      Option.some.inj ((hplain.getElem?_eq_getD sized).symm.trans htext)⟩
  · rintro ⟨record, ⟨hrecord, hretained⟩, hplain, rfl⟩
    have sized := raw.rectangular record (List.mem_of_getElem? hrecord)
    exact ⟨record, hrecord, hretained, hplain, hplain.getElem?_eq_getD sized⟩

/-- **COLUMNS IN ORDER**: the plain columns are listed from left to right. -/
theorem plainColumns_sorted (raw : RawTable) : raw.plainColumns.Pairwise (· < ·) :=
  List.pairwise_map.mpr ((pairwise_zipIdx raw.names 0).filter _)

/-- **ROWS IN ORDER**: the records that count are listed from top to bottom. -/
theorem retainedRows_sorted (raw : RawTable) :
    raw.retainedRows.Pairwise fun r s => r.2 < s.2 :=
  (pairwise_zipIdx raw.records 0).filter _

/-- A row holds one record. -/
theorem eq_of_mem_retainedRows {r s : List String × Nat} (hr : r ∈ raw.retainedRows)
    (hs : s ∈ raw.retainedRows) (h : r.2 = s.2) : r = s := by
  have hrecord := (mem_retainedRows.mp hr).1
  rw [h] at hrecord
  exact Prod.ext (Option.some.inj (hrecord.symm.trans (mem_retainedRows.mp hs).1)) h

end RawTable

end TableCompiler
