import TableCompiler.Proofs.Project.Outputs

/-!
# Written outputs — what the files hold when all of them are written

Outputs are written one after the other, so a file holds what was written last at its place, and what
stands elsewhere stays (`writeOutputs_frame`).  Where no two outputs share a place, every one of them
can be read back when the last is written (`read_of_writeOutputs`).
-/

namespace TableCompiler

open TableCompiler.Files

variable {tree next after : FileTree} {o : Output} {outputs : List Output} {place : Location}

/-- Writing a file leaves what stands at other places. -/
theorem writeOutput_frame (h : writeOutput tree o = .ok next) :
    next.home = tree.home ∧
      ∀ place, place ≠ tree.target o.file → next.entry? place = tree.entry? place := by
  have hwrite := writeOutput_eq_ok_iff.mp h
  refine ⟨(FileTree.write_ok hwrite).2.home, fun place apart => ?_⟩
  refine FileTree.entry_write_of_ne hwrite fun hplace => ?_
  exact apart (FileTree.locate_ok hplace)

/-- **WRITING FILES**, also up to a refusal, leaves what stands at the places of none of them. -/
theorem writeOutputs_frame {result : Except BuildError Unit}
    (h : writeOutputs tree outputs = (after, result)) :
    after.home = tree.home ∧
      ∀ place, (∀ o ∈ outputs, place ≠ tree.target o.file) →
        after.entry? place = tree.entry? place := by
  induction outputs generalizing tree with
  | nil =>
      obtain ⟨rfl, -⟩ := Prod.mk.inj h
      exact ⟨rfl, fun place _ => rfl⟩
  | cons o rest ih =>
      rw [writeOutputs] at h
      split at h
      case h_1 =>
        obtain ⟨rfl, -⟩ := Prod.mk.inj h
        exact ⟨rfl, fun place _ => rfl⟩
      case h_2 next hnext =>
        obtain ⟨hhome, hframe⟩ := writeOutput_frame hnext
        obtain ⟨hhome', hframe'⟩ := ih h
        refine ⟨hhome'.trans hhome, fun place apart => ?_⟩
        -- later files lead to the same places, since the home of the tree stays
        have hrest : ∀ o' ∈ rest, place ≠ next.target o'.file := by
          intro o' ho'
          rw [FileTree.target_congr hhome]
          exact apart o' (List.mem_cons_of_mem o ho')
        rw [hframe' place hrest, hframe place (apart o List.mem_cons_self)]

/-- Writing leaves what stands at a place where no output is. -/
theorem entry_writeOutputs (h : writeOutputs tree outputs = (after, .ok ()))
    (apart : ∀ o ∈ outputs, after.locate o.file ≠ .ok place) :
    after.entry? place = tree.entry? place := by
  obtain ⟨hhome, hframe⟩ := writeOutputs_frame h
  refine hframe place ?_
  rintro o ho rfl
  obtain ⟨place, hplace⟩ := (writeOutputs_ok h).2 o ho
  apply apart o ho
  rw [hplace, FileTree.locate_ok hplace, FileTree.target_congr hhome]

/-- **DIFFERENT OUTPUTS ARE READ BACK**: every output holds what was written, if no two of them are
one file. -/
theorem read_of_writeOutputs (h : writeOutputs tree outputs = (after, .ok ()))
    (differ : outputs.Pairwise fun o o' => ¬SameFile after o.file o'.file) :
    ∀ o ∈ outputs, after.read o.file = .ok o.content.bytes := by
  induction outputs generalizing tree with
  | nil => exact fun o ho => absurd ho List.not_mem_nil
  | cons o rest ih =>
      obtain ⟨next, hwrite, hrest⟩ := writeOutputs_cons h
      obtain ⟨hfirst, hothers⟩ := List.pairwise_cons.mp differ
      intro o' ho'
      rcases List.mem_cons.mp ho' with rfl | ho'
      · obtain ⟨place, hplace, hfile⟩ := FileTree.read_eq_ok_iff.mp (FileTree.read_write hwrite)
        -- no later output is the same file, so what it holds now it holds in the end
        have hafter := (writeOutputs_ok hrest).1.locate hplace
        refine FileTree.read_eq_ok_iff.mpr ⟨place, hafter, ?_⟩
        rw [entry_writeOutputs hrest fun o ho hsame => hfirst o ho ⟨place, hafter, hsame⟩, hfile]
      · exact ih hrest hothers o' ho'

end TableCompiler
