import TableCompiler.Text.Repeated

/-!
# Repeated names — when no name is repeated
-/

namespace TableCompiler.Text

/-- Nothing is repeated when the names differ from each other and from those that were seen. -/
theorem firstRepeatedFrom_eq_none_iff {names seen : List String} :
    firstRepeatedFrom seen names = none ↔ names.Nodup ∧ ∀ name ∈ names, name ∉ seen := by
  -- the names seen so far grow along the list, so they are generalized
  induction names generalizing seen with
  | nil => exact ⟨fun _ => ⟨List.nodup_nil, fun name hname => nomatch hname⟩, fun _ => rfl⟩
  | cons first rest ih =>
      rw [firstRepeatedFrom]
      by_cases hfirst : first ∈ seen
      · rw [if_pos hfirst]
        refine ⟨(fun h => nomatch h), fun h => ?_⟩
        exact absurd hfirst (h.2 first List.mem_cons_self)
      · rw [if_neg hfirst, ih, List.nodup_cons]
        constructor
        · rintro ⟨hnodup, hunseen⟩
          refine ⟨⟨fun hmem => hunseen first hmem List.mem_cons_self, hnodup⟩, ?_⟩
          intro name hname hseen
          rcases List.mem_cons.mp hname with rfl | hname
          · exact hfirst hseen
          · exact hunseen name hname (List.mem_cons_of_mem first hseen)
        · rintro ⟨⟨hnew, hnodup⟩, hunseen⟩
          refine ⟨hnodup, fun name hname hseen => ?_⟩
          rcases List.mem_cons.mp hseen with rfl | hseen
          · exact hnew hname
          · exact hunseen name (List.mem_cons_of_mem first hname) hseen

theorem firstRepeated?_eq_none_iff {names : List String} :
    firstRepeated? names = none ↔ names.Nodup := by
  rw [firstRepeated?, firstRepeatedFrom_eq_none_iff]
  exact and_iff_left fun name _ => List.not_mem_nil

end TableCompiler.Text
