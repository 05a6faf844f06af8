import TableCompiler.Proofs.Table.Traversal

/-!
# Cells — gone through with their types, and none left over

A loop that pairs the cells of a record with the types of a table ends where the shorter of the two
ends, and would lose what is left of the longer one.  `Cellwise` leaves nothing over on either side.  On
records that are as wide as the type row it is what the loops do, with or without the places that they
tell (`tryAll_zip_eq_ok_iff`); so the values and the bytes of a table are as wide as its cells.
-/

namespace TableCompiler

variable {τ α β κ ε δ : Type}

/-- There are as many types as names, and as many cells in every record. -/
structure Rectangular {ν : Type} (names : List ν) (types : List τ) (records : List (List κ)) :
    Prop where
  typed : types.length = names.length
  filled : ∀ record ∈ records, record.length = names.length

/-! ## Cells -/

section Loops

variable {f : τ → α → Except δ β} {types : List τ} {cells : List α} {results : List β}

/-- Every cell goes through the type in its place, and neither cells nor types are left over. -/
inductive Cellwise (f : τ → α → Except δ β) : List τ → List α → List β → Prop where
  | nil : Cellwise f [] [] []
  | cons {type : τ} {cell : α} {result : β} {types : List τ} {cells : List α} {results : List β} :
      f type cell = .ok result → Cellwise f types cells results →
        Cellwise f (type :: types) (cell :: cells) (result :: results)

/-- Every record of a table goes through its types cell by cell. -/
def Gridwise (f : τ → α → Except δ β) (types : List τ) (cells : List (List α))
    (results : List (List β)) : Prop :=
  List.Forall₂ (Cellwise f types) cells results

theorem Cellwise.length_eq (h : Cellwise f types cells results) :
    cells.length = types.length ∧ results.length = types.length := by
  induction h with
  | nil => exact ⟨rfl, rfl⟩
  | cons _ _ ih => exact ⟨congrArg (· + 1) ih.1, congrArg (· + 1) ih.2⟩

/-- Types that fit the names fit the results as well. -/
theorem Gridwise.rectangular {ν : Type} {names : List ν} {cells : List (List α)}
    {results : List (List β)} (h : Gridwise f types cells results)
    (typed : types.length = names.length) : Rectangular names types results := by
  refine ⟨typed, ?_⟩
  induction h with
  | nil => exact fun record hrecord => nomatch hrecord
  | cons hfirst _ ih => exact List.forall_mem_cons.mpr ⟨hfirst.length_eq.2.trans typed, ih⟩

/-- A loop over elements and their positions succeeds element by element. -/
theorem tryAll_zipIdx_eq_ok_iff {F : α × Nat → Except ε β} {R : α → β → Prop} {xs : List α}
    {ys : List β} (each : ∀ x ∈ xs, ∀ position y, F (x, position) = .ok y ↔ R x y)
    (position : Nat) : tryAll F (xs.zipIdx position) = .ok ys ↔ List.Forall₂ R xs ys := by
  rw [tryAll_eq_ok_iff]
  induction xs generalizing position ys with
  | nil => rw [List.zipIdx_nil, List.forall₂_nil_left_iff, List.forall₂_nil_left_iff]
  | cons x xs ih =>
      have hrest : ∀ rest, List.Forall₂ (fun p y => F p = .ok y) (xs.zipIdx (position + 1)) rest ↔
          List.Forall₂ R xs rest :=
        fun rest => ih (fun y hy => each y (List.mem_cons_of_mem x hy)) (position + 1)
      rw [List.zipIdx_cons, List.forall₂_cons_left_iff, List.forall₂_cons_left_iff]
      simp only [each x List.mem_cons_self, hrest]

/-- On a record that fits, a loop over pairs of types and cells leaves none of them over. -/
theorem forall₂_zip_iff_cellwise (sized : cells.length = types.length) :
    List.Forall₂ (fun p result => f p.1 p.2 = .ok result) (types.zip cells) results ↔
      Cellwise f types cells results := by
  induction types generalizing cells results with
  | nil =>
      obtain rfl := List.length_eq_zero_iff.mp sized
      exact ⟨fun h => by cases h; exact .nil, fun h => by cases h; exact .nil⟩
  | cons type types ih =>
      obtain ⟨cell, rest, rfl⟩ := List.exists_cons_of_length_eq_add_one sized
      rw [List.zip_cons_cons]
      constructor
      · intro h
        cases h with
        | cons hfirst hrest => exact .cons hfirst ((ih (Nat.succ.inj sized)).mp hrest)
      · intro h
        cases h with
        | cons hfirst hrest => exact .cons hfirst ((ih (Nat.succ.inj sized)).mpr hrest)

/-- **A LOOP OVER CELLS** that tells where it failed, on a record that fits. -/
theorem tryAll_zip_eq_ok_iff {tag : Nat → δ → ε} (sized : cells.length = types.length)
    (position : Nat) :
    tryAll (fun p => (f p.1.1 p.1.2).mapError (tag p.2)) ((types.zip cells).zipIdx position)
        = .ok results ↔ Cellwise f types cells results := by
  rw [← forall₂_zip_iff_cellwise sized]
  exact tryAll_zipIdx_eq_ok_iff (fun p _ position y => mapError_eq_ok_iff) position

end Loops

/-! ## The cells of the compiler -/

variable {types : List ColumnType}

/-- Records convert just if each of their cells does, under the type of its column. -/
theorem convertRecords_eq_ok_iff {cells : List (List String)} {records : List (List Value)}
    (sized : ∀ record ∈ cells, record.length = types.length) :
    convertRecords types 0 cells = .ok records ↔
      Gridwise ColumnType.convertCell types cells records := by
  rw [convertRecords_eq_tryAll]
  refine tryAll_zipIdx_eq_ok_iff (fun record hrecord row values => ?_) 0
  rw [convertCells_eq_tryAll]
  exact tryAll_zip_eq_ok_iff (sized record hrecord) 0

/-- Records are dumped just if each of their values is, under the type of its column. -/
theorem dumpRecords_eq_ok_iff {values : List (List Value)} {records : List (List (List UInt8))}
    (sized : ∀ record ∈ values, record.length = types.length) :
    dumpRecords types 0 values = .ok records ↔
      Gridwise ColumnType.dumpValue types values records := by
  rw [dumpRecords_eq_tryAll]
  refine tryAll_zipIdx_eq_ok_iff (fun record hrecord row bytes => ?_) 0
  rw [dumpCells_eq_tryAll]
  exact tryAll_zip_eq_ok_iff (sized record hrecord) 0

end TableCompiler
