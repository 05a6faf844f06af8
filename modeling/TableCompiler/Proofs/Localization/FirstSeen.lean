import TableCompiler.Localization.TextTable

/-!
# First-seen order — the entries of a head as a list without repeats

The pivot collects entries one by one and passes over a hash that it has seen.  While a hash stands
for one text, that is the same as erasing later repeats, and then order, members and distinctness
come from the theory of lists.
-/

namespace TableCompiler.Localization

variable {α β : Type} [BEq α] [LawfulBEq α]

/-- Puts a value behind the others unless it is there. -/
def addNew (seen : List α) (x : α) : List α :=
  if x ∈ seen then seen else seen ++ [x]

theorem addNew_of_mem {seen : List α} {x : α} (h : x ∈ seen) : addNew seen x = seen :=
  if_pos h

theorem addNew_of_not_mem {seen : List α} {x : α} (h : x ∉ seen) :
    addNew seen x = seen ++ [x] :=
  if_neg h

theorem mem_addNew_self (seen : List α) (x : α) : x ∈ addNew seen x := by
  by_cases h : x ∈ seen
  · rw [addNew_of_mem h]
    exact h
  · rw [addNew_of_not_mem h]
    exact List.mem_append.mpr (Or.inr (List.mem_singleton.mpr rfl))

/-- Adding a value changes neither what is there nor what is still to come. -/
theorem mem_addNew_append {seen rest : List α} {x y : α} :
    y ∈ addNew seen x ++ rest ↔ y ∈ seen ++ x :: rest := by
  by_cases hx : x ∈ seen
  · rw [addNew_of_mem hx]
    simp only [List.mem_append, List.mem_cons]
    constructor
    · exact Or.imp_right Or.inr
    · rintro (h | rfl | h)
      · exact Or.inl h
      · exact Or.inl hx
      · exact Or.inr h
  · rw [addNew_of_not_mem hx, List.append_assoc, List.singleton_append]

/-- Adding values one by one keeps the first of each. -/
theorem foldl_addNew (xs : List α) :
    ∀ seen : List α,
      xs.foldl addNew seen = seen ++ (xs.filter fun x => x ∉ seen).eraseDups := by
  -- the values seen so far are generalized: the fold goes on from any of them
  induction xs with
  | nil => intro seen; simp
  | cons x rest ih =>
      intro seen
      rw [List.foldl_cons, ih]
      by_cases h : x ∈ seen
      · rw [addNew_of_mem h, List.filter_cons_of_neg (by simpa using h)]
      · have hsplit : (rest.filter fun y => y ∉ seen ++ [x])
            = (rest.filter fun y => y ∉ seen).filter fun y => !y == x := by
          rw [List.filter_filter]
          congr 1
          funext y
          by_cases hy : y = x <;> simp [hy]
        rw [addNew_of_not_mem h, List.filter_cons_of_pos (by simpa using h),
          List.eraseDups_cons, hsplit]
        simp

/-- Values each once, in first-seen order, are collected from the front. -/
theorem eraseDups_eq_foldl (xs : List α) : xs.eraseDups = xs.foldl addNew [] := by
  rw [foldl_addNew, List.nil_append, List.filter_eq_self.mpr (by simp)]

theorem nodup_foldl_addNew (xs : List α) :
    ∀ {seen : List α}, seen.Nodup → (xs.foldl addNew seen).Nodup := by
  induction xs with
  | nil => intro seen h; exact h
  | cons x rest ih =>
      intro seen h
      refine ih ?_
      by_cases hx : x ∈ seen
      · rw [addNew_of_mem hx]
        exact h
      · rw [addNew_of_not_mem hx]
        exact List.nodup_append.mpr ⟨h, by simp, by
          intro a ha b hb
          rw [List.mem_singleton.mp hb]
          exact fun heq => hx (heq ▸ ha)⟩

theorem nodup_eraseDups (xs : List α) : xs.eraseDups.Nodup := by
  rw [eraseDups_eq_foldl]
  exact nodup_foldl_addNew xs List.nodup_nil

/-- A map that keeps the listed values apart keeps their first-seen order. -/
theorem map_foldl_addNew [BEq β] [LawfulBEq β] {f : α → β} (xs : List α) :
    ∀ {seen : List α}, (∀ x ∈ seen ++ xs, ∀ y ∈ seen ++ xs, f x = f y → x = y) →
      (xs.foldl addNew seen).map f = (xs.map f).foldl addNew (seen.map f) := by
  induction xs with
  | nil => intros; rfl
  | cons x rest ih =>
      intro seen inj
      -- the function tells the values apart, so seen before and seen after are the same
      have hstep : (addNew seen x).map f = addNew (seen.map f) (f x) := by
        by_cases h : x ∈ seen
        · rw [addNew_of_mem h, addNew_of_mem (List.mem_map.mpr ⟨x, h, rfl⟩)]
        · have hf : f x ∉ seen.map f := by
            intro hmem
            obtain ⟨y, hy, hyx⟩ := List.mem_map.mp hmem
            exact h (inj y (List.mem_append_left _ hy) x (by simp) hyx ▸ hy)
          rw [addNew_of_not_mem h, addNew_of_not_mem hf, List.map_append, List.map_singleton]
      rw [List.foldl_cons, List.map_cons, List.foldl_cons, ← hstep]
      exact ih fun y hy z hz =>
        inj y (mem_addNew_append.mp hy) z (mem_addNew_append.mp hz)

/-- A function that tells the values apart can be applied before or after. -/
theorem map_eraseDups [BEq β] [LawfulBEq β] {f : α → β} {xs : List α}
    (inj : ∀ x ∈ xs, ∀ y ∈ xs, f x = f y → x = y) :
    xs.eraseDups.map f = (xs.map f).eraseDups := by
  rw [eraseDups_eq_foldl, eraseDups_eq_foldl]
  exact map_foldl_addNew xs inj

/-- What a test keeps is kept in first-seen order. -/
theorem filter_foldl_addNew (p : α → Bool) (xs : List α) (seen : List α) :
    (xs.foldl addNew seen).filter p = (xs.filter p).foldl addNew (seen.filter p) := by
  induction xs generalizing seen with
  | nil => rfl
  | cons x rest ih =>
      rw [List.foldl_cons, ih]
      -- what the filter drops changes neither side
      by_cases hx : p x = true
      · have hstep : (addNew seen x).filter p = addNew (seen.filter p) x := by
          by_cases hseen : x ∈ seen
          · rw [addNew_of_mem hseen, addNew_of_mem (List.mem_filter.mpr ⟨hseen, hx⟩)]
          · rw [addNew_of_not_mem hseen,
              addNew_of_not_mem fun hmem => hseen (List.mem_filter.mp hmem).1,
              List.filter_append, List.filter_cons_of_pos hx, List.filter_nil]
        rw [List.filter_cons_of_pos hx, List.foldl_cons, hstep]
      · have hstep : (addNew seen x).filter p = seen.filter p := by
          by_cases hseen : x ∈ seen
          · rw [addNew_of_mem hseen]
          · rw [addNew_of_not_mem hseen, List.filter_append, List.filter_cons_of_neg hx,
              List.filter_nil, List.append_nil]
        rw [List.filter_cons_of_neg hx, hstep]

theorem filter_eraseDups (p : α → Bool) (xs : List α) :
    (xs.filter p).eraseDups = xs.eraseDups.filter p := by
  rw [eraseDups_eq_foldl, eraseDups_eq_foldl, filter_foldl_addNew, List.filter_nil]

/-- Values that come as runs of copies have the first-seen order of the values. -/
theorem eraseDups_flatMap_copies {f : β → List α} {g : β → α} {xs : List β}
    (copies : ∀ x ∈ xs, f x ≠ [] ∧ ∀ y ∈ f x, y = g x) :
    (xs.flatMap f).eraseDups = (xs.map g).eraseDups := by
  -- one copy adds the value and the others find it there
  have hrun : ∀ (run : List α) (y : α) (seen : List α), (∀ z ∈ run, z = y) → y ∈ seen →
      run.foldl addNew seen = seen := by
    intro run y seen
    induction run with
    | nil => intros; rfl
    | cons z rest ih =>
        intro hall hy
        rw [List.foldl_cons, hall z (List.mem_cons_self ..), addNew_of_mem hy]
        exact ih (fun w hw => hall w (List.mem_cons_of_mem _ hw)) hy
  rw [eraseDups_eq_foldl, eraseDups_eq_foldl]
  generalize ([] : List α) = seen
  induction xs generalizing seen with
  | nil => rfl
  | cons x rest ih =>
      obtain ⟨hne, hall⟩ := copies x (List.mem_cons_self ..)
      rw [List.flatMap_cons, List.foldl_append, List.map_cons, List.foldl_cons]
      have hx : (f x).foldl addNew seen = addNew seen (g x) := by
        cases hf : f x with
        | nil => exact absurd hf hne
        | cons y run =>
            rw [hf] at hall
            rw [List.foldl_cons, hall y (List.mem_cons_self ..)]
            exact hrun run (g x) _ (fun z hz => hall z (List.mem_cons_of_mem _ hz))
              (mem_addNew_self seen (g x))
      rw [hx]
      exact ih (fun y hy => copies y (List.mem_cons_of_mem _ hy)) (addNew seen (g x))

/-- One list again and again has the first-seen order of the list. -/
theorem eraseDups_flatMap_same {f : β → List α} {ys : List α} {xs : List β} (ne : xs ≠ [])
    (same : ∀ x ∈ xs, f x = ys) : (xs.flatMap f).eraseDups = ys.eraseDups := by
  cases xs with
  | nil => exact absurd rfl ne
  | cons x rest =>
      have hrest : (rest.flatMap f).removeAll ys = [] := by
        refine List.filter_eq_nil_iff.mpr fun y hy => ?_
        obtain ⟨x', hx', hy⟩ := List.mem_flatMap.mp hy
        rw [same x' (List.mem_cons_of_mem _ hx')] at hy
        simp [hy]
      rw [List.flatMap_cons, same x (List.mem_cons_self ..), List.eraseDups_append, hrest,
        List.eraseDups_nil, List.append_nil]

/-! ## Entries -/

/-- Where a hash has one text, an entry is new just if its hash is. -/
theorem addEntry_eq_addNew {entries : Entries} {e : UInt32 × String}
    (h : ∀ a ∈ entries, a.1 = e.1 → a = e) : addEntry entries e = addNew entries e := by
  by_cases he : e ∈ entries
  · rw [addNew_of_mem he, addEntry,
      if_pos (List.any_eq_true.mpr ⟨e, he, decide_eq_true rfl⟩)]
  · rw [addNew_of_not_mem he, addEntry, if_neg]
    intro hany
    obtain ⟨a, ha, heq⟩ := List.any_eq_true.mp hany
    exact he (h a ha (of_decide_eq_true heq) ▸ ha)

/-- While a hash stands for one text, passing over a hash is passing over an entry. -/
theorem foldl_addEntry (xs : Entries) :
    ∀ {seen : Entries}, (∀ a ∈ seen ++ xs, ∀ b ∈ seen ++ xs, a.1 = b.1 → a = b) →
      xs.foldl addEntry seen = xs.foldl addNew seen := by
  induction xs with
  | nil => intros; rfl
  | cons e rest ih =>
      intro seen one
      have hstep : addEntry seen e = addNew seen e :=
        addEntry_eq_addNew fun a ha => one a (List.mem_append_left _ ha) e (by simp)
      rw [List.foldl_cons, List.foldl_cons, hstep]
      exact ih fun a ha b hb => one a (mem_addNew_append.mp ha) b (mem_addNew_append.mp hb)

end TableCompiler.Localization
