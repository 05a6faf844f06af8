import Mathlib.Data.List.Forall2
import TableCompiler.Table.Binary
import TableCompiler.Table.Typed

/-!
# Traversals — loops that end at the first error

Resolving a type row, converting cells and dumping values all go through a list and end at the first
error.  `tryAll` is that loop without the positions; what it says about order is said once here, and
each loop of the compiler is an instance of it over the list with its positions.  Likewise `stage` is
one step of the compiler behind another, each of which can end it.
-/

namespace TableCompiler

variable {α β γ ε ε' : Type} {f g : α → Except ε β} {xs : List α} {ys : List β} {e : ε}

/-- Tries every element in order; the first error ends it. -/
def tryAll (f : α → Except ε β) : List α → Except ε (List β)
  | [] => .ok []
  | x :: xs =>
    match f x with
    | .error e => .error e
    | .ok y => (tryAll f xs).map (y :: ·)

theorem tryAll_cons_error {x : α} (h : f x = .error e) : tryAll f (x :: xs) = .error e := by
  rw [tryAll, h]

theorem tryAll_cons_ok {x : α} {y : β} (h : f x = .ok y) :
    tryAll f (x :: xs) = (tryAll f xs).map (y :: ·) := by
  rw [tryAll, h]

/-! ## What the result says about the elements -/

/-- An error comes from an element behind elements that succeed. -/
theorem tryAll_eq_error_iff :
    tryAll f xs = .error e ↔ ∃ before x after, xs = before ++ x :: after ∧
      f x = .error e ∧ ∀ y ∈ before, ∃ b, f y = .ok b := by
  induction xs with
  | nil =>
      refine ⟨(fun h => by cases h), ?_⟩
      rintro ⟨before, x, after, h, -⟩
      exact absurd h.symm (List.append_ne_nil_of_right_ne_nil _ (List.cons_ne_nil _ _))
  | cons x₀ xs ih =>
      cases hx₀ : f x₀ with
      | error e₀ =>
          rw [tryAll_cons_error hx₀]
          constructor
          · intro h
            exact ⟨[], x₀, xs, rfl, hx₀.trans (congrArg _ (Except.error.inj h)),
              fun y hy => absurd hy List.not_mem_nil⟩
          · rintro ⟨before, x, after, hsplit, hx, hbefore⟩
            rcases List.cons_eq_append_iff.mp hsplit with ⟨rfl, hcons⟩ | ⟨rest, rfl, -⟩
            · obtain ⟨rfl, -⟩ := List.cons.inj hcons
              exact congrArg Except.error (Except.error.inj (hx₀.symm.trans hx))
            · obtain ⟨b, hb⟩ := hbefore x₀ (List.mem_cons_self ..)
              cases hx₀.symm.trans hb
      | ok y₀ =>
          -- the first element only stands in front of the error of the rest
          have hmap : tryAll f (x₀ :: xs) = .error e ↔ tryAll f xs = .error e := by
            rw [tryAll_cons_ok hx₀]
            cases tryAll f xs with
            | error e' => exact Iff.rfl
            | ok ys => exact ⟨(fun h => by cases h), (fun h => by cases h)⟩
          rw [hmap, ih]
          constructor
          · rintro ⟨before, x, after, rfl, hx, hbefore⟩
            refine ⟨x₀ :: before, x, after, rfl, hx, fun y hy => ?_⟩
            rcases List.mem_cons.mp hy with rfl | hy
            · exact ⟨y₀, hx₀⟩
            · exact hbefore y hy
          · rintro ⟨before, x, after, hsplit, hx, hbefore⟩
            rcases List.cons_eq_append_iff.mp hsplit with ⟨rfl, hcons⟩ | ⟨rest, rfl, hrest⟩
            · obtain ⟨rfl, -⟩ := List.cons.inj hcons
              cases hx₀.symm.trans hx
            · exact ⟨rest, x, after, hrest, hx,
                fun y hy => hbefore y (List.mem_cons_of_mem x₀ hy)⟩

/-- **THE FIRST ERROR**: in a list that a strict order sorts, the error is that of the least element
that fails. -/
theorem tryAll_eq_error_iff_of_sorted {R : α → α → Prop} (asymm : ∀ x y, R x y → ¬R y x)
    (sorted : xs.Pairwise R) :
    tryAll f xs = .error e ↔
      ∃ x ∈ xs, f x = .error e ∧ ∀ y ∈ xs, R y x → ∃ b, f y = .ok b := by
  rw [tryAll_eq_error_iff]
  constructor
  -- in a sorted list the elements that precede `x` are those that stand before it
  · rintro ⟨before, x, after, rfl, hx, hbefore⟩
    refine ⟨x, List.mem_append_right _ (List.mem_cons_self ..), hx, fun y hy hlt => ?_⟩
    have hafter := (List.pairwise_cons.mp (List.pairwise_append.mp sorted).2.1).1
    rcases List.mem_append.mp hy with hy | hy
    · exact hbefore y hy
    · rcases List.mem_cons.mp hy with rfl | hy
      · exact absurd hlt (asymm _ _ hlt)
      · exact absurd hlt (asymm _ _ (hafter y hy))
  · rintro ⟨x, hmem, hx, hleast⟩
    obtain ⟨before, after, rfl⟩ := List.append_of_mem hmem
    refine ⟨before, x, after, rfl, hx, fun y hy => ?_⟩
    exact hleast y (List.mem_append_left _ hy)
      ((List.pairwise_append.mp sorted).2.2 y hy x (List.mem_cons_self ..))

/-- **THE LOOP SUCCEEDS** element by element: it gives for each element what that element gives. -/
theorem tryAll_eq_ok_iff :
    tryAll f xs = .ok ys ↔ List.Forall₂ (fun x y => f x = .ok y) xs ys := by
  -- the results follow the elements, so they are generalized
  induction xs generalizing ys with
  | nil =>
      rw [List.forall₂_nil_left_iff]
      exact ⟨fun h => (Except.ok.inj h).symm, fun h => congrArg Except.ok h.symm⟩
  | cons x xs ih =>
      rw [List.forall₂_cons_left_iff]
      cases hx : f x with
      | error e =>
          rw [tryAll_cons_error hx]
          refine ⟨(fun h => nomatch h), ?_⟩
          rintro ⟨y, rest, hy, -, -⟩
          cases hy
      | ok y =>
          rw [tryAll_cons_ok hx]
          constructor
          · intro h
            cases hrest : tryAll f xs with
            | error e =>
                rw [hrest] at h
                cases h
            | ok rest =>
                rw [hrest] at h
                exact ⟨y, rest, rfl, ih.mp hrest, (Except.ok.inj h).symm⟩
          · rintro ⟨y', rest, hy, hrest, rfl⟩
            obtain rfl := Except.ok.inj hy
            rw [ih.mpr hrest]
            rfl

/-- If the loop comes to its end, no element fails. -/
theorem exists_ok_of_tryAll (h : tryAll f xs = .ok ys) : ∀ x ∈ xs, ∃ y, f x = .ok y := by
  have each := tryAll_eq_ok_iff.mp h
  clear h
  induction each with
  | nil => exact fun x hx => absurd hx List.not_mem_nil
  | cons hx _ ih => exact List.forall_mem_cons.mpr ⟨⟨_, hx⟩, ih⟩

/-- Where no element fails, the loop does not. -/
theorem tryAll_total (h : ∀ x ∈ xs, ∃ y, f x = .ok y) : ∃ ys, tryAll f xs = .ok ys := by
  cases htry : tryAll f xs with
  | ok ys => exact ⟨ys, rfl⟩
  | error e =>
      obtain ⟨before, x, after, rfl, hx, -⟩ := tryAll_eq_error_iff.mp htry
      obtain ⟨y, hy⟩ := h x (List.mem_append_right _ (List.mem_cons_self ..))
      cases hx.symm.trans hy

/-! ## Other elements, other errors -/

theorem tryAll_map (h : γ → α) (zs : List γ) :
    tryAll f (zs.map h) = tryAll (fun z => f (h z)) zs := by
  induction zs with
  | nil => rfl
  | cons z zs ih => rw [List.map_cons, tryAll, ih, tryAll]

/-- Functions that agree on the elements make one loop. -/
theorem tryAll_congr (h : ∀ x ∈ xs, f x = g x) : tryAll f xs = tryAll g xs := by
  induction xs with
  | nil => rfl
  | cons x xs ih =>
      rw [tryAll, tryAll, h x (List.mem_cons_self ..),
        ih fun y hy => h y (List.mem_cons_of_mem x hy)]

/-- The loop can tell its error in another way at its end, or at the element that fails. -/
theorem mapError_tryAll (k : ε → ε') :
    (tryAll f xs).mapError k = tryAll (fun x => (f x).mapError k) xs := by
  induction xs with
  | nil => rfl
  | cons x xs ih =>
      rw [tryAll, tryAll, ← ih]
      cases f x with
      | error e => rfl
      | ok y => cases tryAll f xs <;> rfl

theorem mapError_mapError {ε'' : Type} (k : ε → ε') (l : ε' → ε'') (x : Except ε β) :
    (x.mapError k).mapError l = x.mapError fun d => l (k d) := by
  cases x <;> rfl

theorem mapError_eq_error_iff {k : ε → ε'} {x : Except ε β} {e' : ε'} :
    x.mapError k = .error e' ↔ ∃ d, x = .error d ∧ k d = e' := by
  cases x with
  | ok y =>
      constructor
      · intro h
        cases h
      · rintro ⟨d, hd, -⟩
        cases hd
  | error d =>
      constructor
      · exact fun h => ⟨d, rfl, Except.error.inj h⟩
      · rintro ⟨d', hd, rfl⟩
        rw [Except.error.inj hd]
        rfl

theorem mapError_eq_ok_iff {k : ε → ε'} {x : Except ε β} {y : β} :
    x.mapError k = .ok y ↔ x = .ok y := by
  cases x with
  | ok z =>
      exact ⟨fun h => congrArg Except.ok (Except.ok.inj h),
        fun h => congrArg Except.ok (Except.ok.inj h)⟩
  | error d => exact ⟨(fun h => by cases h), (fun h => by cases h)⟩

theorem map_eq_error_iff {k : β → γ} {x : Except ε β} : x.map k = .error e ↔ x = .error e := by
  cases x with
  | ok y => exact ⟨(fun h => by cases h), fun h => by cases h⟩
  | error d =>
      exact ⟨fun h => congrArg Except.error (Except.error.inj h),
        fun h => congrArg Except.error (Except.error.inj h)⟩

theorem exists_map_eq_ok_iff {k : β → γ} {x : Except ε β} :
    (∃ z, x.map k = .ok z) ↔ ∃ y, x = .ok y := by
  cases x with
  | ok y => exact ⟨fun _ => ⟨y, rfl⟩, fun _ => ⟨k y, rfl⟩⟩
  | error d => exact ⟨(fun ⟨_, h⟩ => by cases h), fun ⟨_, h⟩ => by cases h⟩

/-- What stands at a position belongs to what stands there in the other list. -/
theorem forall₂_getElem? {R : α → β → Prop} {i : Nat} {y : β} (h : List.Forall₂ R xs ys)
    (hy : ys[i]? = some y) : ∃ x, xs[i]? = some x ∧ R x y := by
  induction h generalizing i with
  | nil => cases hy
  | cons hfirst _ ih =>
      cases i with
      | zero =>
          obtain rfl := Option.some.inj hy
          exact ⟨_, rfl, hfirst⟩
      | succ i => exact ih hy

/-- What belongs to each element of a list, in two lists at once. -/
theorem forall₂_zip {R : α → β → Prop} {S : α → γ → Prop} {zs : List γ}
    (left : List.Forall₂ R xs ys) (right : List.Forall₂ S xs zs) :
    List.Forall₂ (fun x p => R x p.1 ∧ S x p.2) xs (ys.zip zs) := by
  induction left generalizing zs with
  | nil => exact .nil
  | cons hx _ ih =>
      cases right with
      | cons hx' rest => exact .cons ⟨hx, hx'⟩ (ih rest)

/-- **PLACES**: going through a list with its positions, and looking the place of each position up, is
going through the elements that it was made of, each with its own place. -/
theorem tryAll_zipIdx_places (places : α → Nat) (F : γ → Nat → Except ε β) {zs : List γ}
    (made : List.Forall₂ (fun x z => F z (places x) = f x) xs zs) :
    tryAll (fun p => F p.1 ((xs.map places).getD p.2 p.2)) zs.zipIdx = tryAll f xs := by
  have hpairs : zs.zipIdx.map (fun p => (p.1, (xs.map places).getD p.2 p.2))
      = zs.zip (xs.map places) := by
    have hlength := made.length_eq
    refine List.ext_getElem (by simp [hlength]) fun i hi _ => ?_
    have hi : i < xs.length := by simpa [hlength] using hi
    simp [hi]
  have hzip : tryAll (fun q => F q.1 q.2) (zs.zip (xs.map places)) = tryAll f xs := by
    clear hpairs
    induction made with
    | nil => rfl
    | cons hx _ ih => rw [List.map_cons, List.zip_cons_cons, tryAll, tryAll, hx, ih]
  rw [← hzip, ← hpairs, tryAll_map]

/-! ## Stages -/

/-- A stage that goes on with what the stage before it gave, or tells the error of that one. -/
def stage (tell : ε → ε') (x : Except ε α) (next : α → Except ε' β) : Except ε' β :=
  match x with
  | .error d => .error (tell d)
  | .ok a => next a

theorem stage_eq_error_iff {tell : ε → ε'} {x : Except ε α} {next : α → Except ε' β} {e' : ε'} :
    stage tell x next = .error e' ↔
      (∃ d, x = .error d ∧ e' = tell d) ∨ ∃ a, x = .ok a ∧ next a = .error e' := by
  cases x <;> simp [stage, eq_comm]

theorem stage_eq_ok_iff {tell : ε → ε'} {x : Except ε α} {next : α → Except ε' β} {b : β} :
    stage tell x next = .ok b ↔ ∃ a, x = .ok a ∧ next a = .ok b := by
  cases x <;> simp [stage]

/-! ## The loops of the compiler -/

/-- Expressions are resolved in a loop over the columns. -/
theorem resolveFrom_eq_tryAll (r : Registry) (col : Nat) (exprs : List String) :
    r.resolveFrom col exprs
      = tryAll (fun p => (r.resolve p.1).mapError (.column p.2)) (exprs.zipIdx col) := by
  induction exprs generalizing col with
  | nil => rfl
  | cons expr rest ih =>
      rw [Registry.resolveFrom, List.zipIdx_cons, tryAll, ih]
      cases r.resolve expr <;> rfl

/-- The cells of a record are converted in a loop over its columns. -/
theorem convertCells_eq_tryAll (row col : Nat) (types : List ColumnType) (cells : List String) :
    convertCells row col types cells
      = tryAll (fun p => (p.1.1.convertCell p.1.2).mapError (.fieldConversion row p.2))
          ((types.zip cells).zipIdx col) := by
  induction types generalizing col cells with
  | nil => rfl
  | cons t types ih =>
      cases cells with
      | nil => rfl
      | cons text cells =>
          rw [convertCells, List.zip_cons_cons, List.zipIdx_cons, tryAll, ih]
          cases t.convertCell text <;> rfl

/-- Records are converted in a loop over the rows. -/
theorem convertRecords_eq_tryAll (types : List ColumnType) (row : Nat)
    (records : List (List String)) :
    convertRecords types row records
      = tryAll (fun p => convertCells p.2 0 types p.1) (records.zipIdx row) := by
  induction records generalizing row with
  | nil => rfl
  | cons record rest ih =>
      rw [convertRecords, List.zipIdx_cons, tryAll, ih]
      cases convertCells row 0 types record <;> rfl

/-- The values of a record are dumped in a loop over its columns. -/
theorem dumpCells_eq_tryAll (row col : Nat) (types : List ColumnType) (values : List Value) :
    dumpCells row col types values
      = tryAll (fun p => (p.1.1.dumpValue p.1.2).mapError (.dump row p.2))
          ((types.zip values).zipIdx col) := by
  induction types generalizing col values with
  | nil => rfl
  | cons t types ih =>
      cases values with
      | nil => rfl
      | cons v values =>
          rw [dumpCells, List.zip_cons_cons, List.zipIdx_cons, tryAll, ih]
          cases t.dumpValue v <;> rfl

/-- Records are dumped in a loop over the rows. -/
theorem dumpRecords_eq_tryAll (types : List ColumnType) (row : Nat)
    (records : List (List Value)) :
    dumpRecords types row records
      = tryAll (fun p => dumpCells p.2 0 types p.1) (records.zipIdx row) := by
  induction records generalizing row with
  | nil => rfl
  | cons record rest ih =>
      rw [dumpRecords, List.zipIdx_cons, tryAll, ih]
      cases dumpCells row 0 types record <;> rfl

end TableCompiler
