import TableCompiler.Table.Basic

/-!
# Grids — rows of texts and the table that they make

A grid is padded to the width of its first row.  Rows that have this width already are left as they
are, so the grid of a table is read as that table (`ofRows_toRows`).
-/

namespace TableCompiler.RawTable

variable {width : Nat} {cells : List String} {rows : List (List String)}

/-- Rows of full width are not padded. -/
theorem pad_of_length (full : cells.length = width) : pad width cells = cells := by
  rw [pad, full, Nat.sub_self, List.replicate_zero, List.append_nil]

/-- No row is too long if all are within the width. -/
theorem firstLonger?_eq_none_iff (row : Nat) :
    firstLonger? width row rows = none ↔ ∀ cells ∈ rows, cells.length ≤ width := by
  induction rows generalizing row with
  | nil => exact iff_of_true rfl fun cells hcells => nomatch hcells
  | cons cells rest ih =>
      rw [firstLonger?, List.forall_mem_cons, ← ih (row + 1), ← Nat.not_lt]
      split
      case isTrue hlonger => exact iff_of_false (fun h => nomatch h) fun h => h.1 hlonger
      case isFalse hwithin => exact (and_iff_right hwithin).symm

/-- Every row of the grid of a table has the width of the table. -/
theorem length_of_mem_toRows (t : RawTable) :
    ∀ row ∈ t.toRows, row.length = t.names.length := by
  intro row hrow
  rcases List.mem_cons.mp hrow with rfl | hrow
  · rfl
  · rcases List.mem_cons.mp hrow with rfl | hrow
    · exact t.typed
    · exact t.rectangular row hrow

/-- **THE GRID OF A TABLE** makes the table. -/
theorem ofRows_toRows (t : RawTable) : ofRows t.toRows = .ok t := by
  have hrecords : t.records.map (pad t.names.length) = t.records :=
    (List.map_congr_left fun record hrecord =>
      pad_of_length (t.rectangular record hrecord)).trans (List.map_id t.records)
  have hlonger : firstLonger? t.names.length 0 t.records = none :=
    (firstLonger?_eq_none_iff 0).mpr fun record hrecord =>
      Nat.le_of_eq (t.rectangular record hrecord)
  rw [toRows, ofRows, if_neg (Nat.not_lt.mpr (Nat.le_of_eq t.typed)), hlonger]
  simp only [pad_of_length t.typed, hrecords]
  exact Table.new_eq_ok t.typed t.rectangular

end TableCompiler.RawTable
