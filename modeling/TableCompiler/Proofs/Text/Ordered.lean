import TableCompiler.Text.Ordered

/-!
# Ordered members — what is in order stays as it is

Putting the members in order one after the other leaves each name once and the names ascending
(`ascending_ordered`).  Members whose names ascend already come out as they went in
(`ordered_of_ascending`), since each of them then belongs behind all that have been put in place.  Where
no name comes twice, no member is lost (`perm_ordered`), and the order in which they are given leaves no
trace (`Ascending.eq_of_perm`).
-/

namespace TableCompiler.Text

variable {α : Type} {name : String} {value : α} {m : String × α} {members front : List (String × α)}

/-- Every name is less than all names behind it. -/
def Ascending (members : List (String × α)) : Prop :=
  members.Pairwise fun m n => m.1 < n.1

/-- Insertion brings in the new member and no other. -/
theorem mem_of_mem_insertOrdered (h : m ∈ insertOrdered name value members) :
    m = (name, value) ∨ m ∈ members := by
  induction members with
  | nil => exact .inl (List.mem_singleton.mp h)
  | cons first rest ih =>
      obtain ⟨k, v⟩ := first
      rw [insertOrdered] at h
      split at h
      case isTrue =>
        exact (List.mem_cons.mp h).imp_right (List.mem_cons_of_mem _)
      case isFalse =>
        split at h
        case isTrue => exact List.mem_cons.mp h
        case isFalse =>
          rcases List.mem_cons.mp h with rfl | h
          · exact .inr List.mem_cons_self
          · exact (ih h).imp_right (List.mem_cons_of_mem _)

/-- **AN INSERTION** keeps the order. -/
theorem ascending_insertOrdered (ascending : Ascending members) :
    Ascending (insertOrdered name value members) := by
  induction members with
  | nil => exact List.pairwise_singleton _ _
  | cons first rest ih =>
      obtain ⟨k, v⟩ := first
      obtain ⟨behind, tail⟩ := List.pairwise_cons.mp ascending
      rw [insertOrdered]
      -- replaced, put in front, or passed on: in each case the members behind stay behind
      split
      case isTrue same => exact List.pairwise_cons.mpr ⟨same ▸ behind, tail⟩
      case isFalse other =>
        split
        case isTrue before =>
          refine List.pairwise_cons.mpr ⟨fun n hn => ?_, ascending⟩
          rcases List.mem_cons.mp hn with rfl | hn
          · exact before
          · exact String.lt_trans before (behind n hn)
        case isFalse notBefore =>
          have after : k < name := by
            apply Decidable.byContradiction
            intro notAfter
            exact other (String.le_antisymm (String.not_lt.mp notAfter) (String.not_lt.mp notBefore))
          refine List.pairwise_cons.mpr ⟨fun n hn => ?_, ih tail⟩
          rcases mem_of_mem_insertOrdered hn with rfl | hn
          · exact after
          · exact behind n hn

/-- Insertions keep the members in ascending order, whatever they start from. -/
theorem foldl_insertOrdered (ascending : Ascending front) :
    let sorted := members.foldl (fun sorted m => insertOrdered m.1 m.2 sorted) front
    Ascending sorted ∧ ∀ m ∈ sorted, m ∈ front ∨ m ∈ members := by
  induction members generalizing front with
  | nil => exact ⟨ascending, fun m hm => .inl hm⟩
  | cons first rest ih =>
      have inserted : Ascending (insertOrdered first.1 first.2 front) := ascending_insertOrdered ascending
      obtain ⟨sorted, listed⟩ := ih inserted
      refine ⟨sorted, fun m hm => ?_⟩
      rcases listed m hm with hfront | hrest
      · rcases mem_of_mem_insertOrdered hfront with rfl | hfront
        · exact .inr List.mem_cons_self
        · exact .inl hfront
      · exact .inr (List.mem_cons_of_mem _ hrest)

/-- **PUT IN ORDER**, names ascend. -/
theorem ascending_ordered (members : List (String × α)) : Ascending (ordered members) :=
  (foldl_insertOrdered List.Pairwise.nil).1

theorem mem_of_mem_ordered (h : m ∈ ordered members) : m ∈ members :=
  ((foldl_insertOrdered List.Pairwise.nil).2 m h).resolve_left List.not_mem_nil

/-- A name behind all others goes to the end. -/
theorem insertOrdered_of_greatest (greatest : ∀ m ∈ members, m.1 < name) :
    insertOrdered name value members = members ++ [(name, value)] := by
  induction members with
  | nil => rfl
  | cons first rest ih =>
      obtain ⟨k, v⟩ := first
      have after : k < name := greatest (k, v) List.mem_cons_self
      have other : name ≠ k := fun same => String.lt_irrefl k (same ▸ after)
      have notBefore : ¬name < k := fun before => String.lt_irrefl k (String.lt_trans after before)
      rw [insertOrdered, if_neg other, if_neg notBefore,
        ih fun m hm => greatest m (List.mem_cons_of_mem _ hm), List.cons_append]

/-- **WHAT IS IN ORDER** stays as it is. -/
theorem ordered_of_ascending (ascending : Ascending members) : ordered members = members := by
  -- the fold is generalized over what is in order already
  have appended : ∀ front : List (String × α), Ascending (front ++ members) →
      members.foldl (fun sorted m => insertOrdered m.1 m.2 sorted) front = front ++ members := by
    clear ascending
    induction members with
    | nil =>
        intro front _
        exact (List.append_nil front).symm
    | cons first rest ih =>
        intro front ascending
        have greatest : ∀ m ∈ front, m.1 < first.1 := fun m hm =>
          (List.pairwise_append.mp ascending).2.2 m hm first List.mem_cons_self
        have moved : front ++ first :: rest = front ++ [first] ++ rest := by
          rw [List.append_assoc, List.singleton_append]
        rw [moved] at ascending ⊢
        rw [List.foldl_cons, insertOrdered_of_greatest greatest]
        exact ih _ ascending
  exact appended [] ascending

/-! ## Members in any order -/

theorem Ascending.nodup (ascending : Ascending members) : (members.map (·.1)).Nodup := by
  refine List.pairwise_map.mpr (ascending.imp ?_)
  intro m n before same
  rw [same] at before
  exact String.lt_irrefl _ before

/-- **ONE ORDER**: members of ascending names can be listed in no other one. -/
theorem Ascending.eq_of_perm (ascending : Ascending front) (ascending' : Ascending members)
    (perm : front.Perm members) : front = members := by
  refine List.Perm.eq_of_pairwise ?_ ascending ascending' perm
  intro m n _ _ before after
  exact absurd (String.lt_trans before after) (String.lt_irrefl _)

theorem perm_insertOrdered (new : name ∉ members.map (·.1)) :
    (insertOrdered name value members).Perm ((name, value) :: members) := by
  induction members with
  | nil => exact .refl _
  | cons first rest ih =>
      obtain ⟨k, v⟩ := first
      rw [List.map_cons, List.mem_cons, not_or] at new
      rw [insertOrdered, if_neg new.1]
      split
      case isTrue => exact .refl _
      case isFalse => exact ((ih new.2).cons (k, v)).trans (.swap ..)

/-- **NO MEMBER IS LOST** where no name comes twice. -/
theorem perm_ordered (nodup : (members.map (·.1)).Nodup) : (ordered members).Perm members := by
  -- the fold is generalized over what has been inserted; names that differ replace nothing
  have placed : ∀ front : List (String × α), ((front ++ members).map (·.1)).Nodup →
      (members.foldl (fun sorted m => insertOrdered m.1 m.2 sorted) front).Perm
        (front ++ members) := by
    clear nodup
    induction members with
    | nil =>
        intro front _
        rw [List.append_nil]
        exact .refl _
    | cons first rest ih =>
        intro front nodup
        have moved : (front ++ first :: rest).Perm (first :: front ++ rest) := List.perm_middle
        have nodup' := (moved.map (·.1)).nodup_iff.mp nodup
        have new : first.1 ∉ front.map (·.1) := by
          intro mem
          rw [List.cons_append, List.map_cons, List.nodup_cons, List.map_append] at nodup'
          exact nodup'.1 (List.mem_append_left _ mem)
        have inserted : (insertOrdered first.1 first.2 front ++ rest).Perm (first :: front ++ rest) :=
          (perm_insertOrdered new).append_right rest
        rw [List.foldl_cons]
        exact ((ih _ ((inserted.map (·.1)).nodup_iff.mpr nodup')).trans inserted).trans moved.symm
  exact placed [] nodup

end TableCompiler.Text
