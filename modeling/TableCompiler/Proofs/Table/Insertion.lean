import Mathlib.Data.List.InsertIdx

/-!
# Insertion — what stands where when something has been put into a list

Putting an element in moves what stands behind it by one (`shiftFrom`).  A search that passes over the
new element finds what it found before, only moved: with its positions (`filter_zipIdx_insertIdx`,
`filterMap_zipIdx_insertIdx`) or for the first position alone (`findIdx?_insertIdx`).
-/

namespace TableCompiler

variable {α β : Type} {x : α} {p : α → Bool}

/-- Where a position is after something has been put in at `i`. -/
def shiftFrom (i n : Nat) : Nat :=
  if n < i then n else n + 1

theorem shiftFrom_of_lt {i n : Nat} (h : n < i) : shiftFrom i n = n :=
  if_pos h

theorem shiftFrom_of_le {i n : Nat} (h : i ≤ n) : shiftFrom i n = n + 1 :=
  if_neg (Nat.not_lt.mpr h)

/-- What stood at a position stands where the position is now. -/
theorem getElem?_insertIdx_shiftFrom (xs : List α) (i n : Nat) (x : α) :
    (xs.insertIdx i x)[shiftFrom i n]? = xs[n]? := by
  by_cases h : n < i
  · rw [shiftFrom_of_lt h]
    exact List.getElem?_insertIdx_of_lt h
  · rw [shiftFrom_of_le (Nat.not_lt.mp h), List.getElem?_insertIdx_of_gt (by omega),
      Nat.add_sub_cancel]

theorem getD_insertIdx_shiftFrom (xs : List α) (i n : Nat) (x d : α) :
    (xs.insertIdx i x).getD (shiftFrom i n) d = xs.getD n d := by
  rw [List.getD_eq_getElem?_getD, List.getD_eq_getElem?_getD, getElem?_insertIdx_shiftFrom]

/-- The elements with their positions, the new one among them. -/
theorem zipIdx_insertIdx (xs : List α) (k i : Nat) (x : α) :
    (xs.insertIdx i x).zipIdx k
      = ((xs.zipIdx k).map fun q => (q.1, shiftFrom (k + i) q.2)).insertIdx i (x, k + i) := by
  -- the start is generalized, since numbers are counted on behind the first item
  induction i generalizing xs k with
  | zero =>
      have hbehind : xs.zipIdx (k + 1)
          = (xs.zipIdx k).map fun q => (q.1, shiftFrom (k + 0) q.2) := by
        rw [List.zipIdx_succ]
        refine List.map_congr_left fun q hq => ?_
        show (q.1, q.2 + 1) = (q.1, shiftFrom k q.2)
        rw [shiftFrom_of_le (List.le_snd_of_mem_zipIdx hq)]
      rw [List.insertIdx_zero, List.insertIdx_zero, List.zipIdx_cons, hbehind]
      rfl
  | succ i ih =>
      cases xs with
      | nil => rfl
      | cons y ys =>
          have hstart : k + 1 + i = k + (i + 1) := by omega
          rw [List.insertIdx_succ_cons, List.zipIdx_cons, List.zipIdx_cons, ih, hstart,
            List.map_cons, List.insertIdx_succ_cons, shiftFrom_of_lt (by omega)]

theorem filter_insertIdx (xs : List α) (i : Nat) (passed : p x = false) :
    (xs.insertIdx i x).filter p = xs.filter p := by
  induction i generalizing xs with
  | zero => rw [List.insertIdx_zero, List.filter_cons, passed, if_neg Bool.false_ne_true]
  | succ i ih =>
      cases xs with
      | nil => rfl
      | cons y ys => rw [List.insertIdx_succ_cons, List.filter_cons, List.filter_cons, ih]

/-- What is passed over can be inserted anywhere. -/
theorem filterMap_insertIdx {f : α → Option β} (xs : List α) (i : Nat) (passed : f x = none) :
    (xs.insertIdx i x).filterMap f = xs.filterMap f := by
  induction i generalizing xs with
  | zero => rw [List.insertIdx_zero, List.filterMap_cons_none passed]
  | succ i ih =>
      cases xs with
      | nil => rfl
      | cons y ys => rw [List.insertIdx_succ_cons, List.filterMap_cons, List.filterMap_cons, ih]

/-- **A FILTER THAT PASSES OVER THE NEW ELEMENT** keeps what it kept, moved. -/
theorem filter_zipIdx_insertIdx (xs : List α) (i : Nat) (passed : p x = false) :
    ((xs.insertIdx i x).zipIdx.filter fun q => p q.1)
      = (xs.zipIdx.filter fun q => p q.1).map fun q => (q.1, shiftFrom i q.2) := by
  rw [zipIdx_insertIdx, Nat.zero_add,
    filter_insertIdx (x := (x, i)) (p := fun q : α × Nat => p q.1) _ _ passed, List.filter_map]
  rfl

theorem filterMap_zipIdx_insertIdx {f : α × Nat → Option β} (xs : List α) (i : Nat)
    (passed : f (x, i) = none) :
    (xs.insertIdx i x).zipIdx.filterMap f
      = xs.zipIdx.filterMap fun q => f (q.1, shiftFrom i q.2) := by
  rw [zipIdx_insertIdx, Nat.zero_add, filterMap_insertIdx _ _ passed, List.filterMap_map]
  rfl

/-- The first position that a search finds is moved. -/
theorem findIdx?_insertIdx (xs : List α) (i : Nat) (passed : p x = false) :
    (xs.insertIdx i x).findIdx? p = (xs.findIdx? p).map (shiftFrom i) := by
  have hfirst : ∀ ys : List α, ys.findIdx? p
      = (ys.zipIdx.filter fun q => p q.1).head?.map Prod.snd := by
    intro ys
    rw [List.findIdx?_eq_fst_find?_zipIdx, List.head?_filter]
  rw [hfirst, hfirst, filter_zipIdx_insertIdx xs i passed, List.head?_map, Option.map_map,
    Option.map_map]
  rfl

end TableCompiler
