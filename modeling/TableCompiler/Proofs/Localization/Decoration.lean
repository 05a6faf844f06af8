import TableCompiler.Proofs.Localization.Collision
import TableCompiler.Proofs.Table.Places

/-!
# Decoration — where decorated columns and their key columns stand

A table whose columns are all plain has no decorated ones.  A field is a word, so the key column of a
decorated column is always a plain one, whether it is named after the field or is the first of all
(`isPlain_of_keyColumn?`).
-/

namespace TableCompiler.Localization

variable {raw : RawTable} {names : List String} {column : DecoratedColumn} {key : Nat}

/-- A list with an entry for each name has one at a decorated column. -/
theorem getElem?_index_eq_getD {cells : List String} (mem : column ∈ decoratedColumns names)
    (sized : cells.length = names.length) :
    cells[column.index]? = some (cells.getD column.index "") := by
  obtain ⟨name, hname, -⟩ := mem_decoratedColumns.mp mem
  obtain ⟨hlt, -⟩ := List.getElem?_eq_some_iff.mp hname
  rw [List.getD_eq_getElem?_getD, List.getElem?_eq_getElem (sized.symm ▸ hlt), Option.getD_some]

/-- Plain names decorate no column. -/
theorem decoratedColumns_eq_nil (plain : ∀ name ∈ names, isPlainField name = true) :
    decoratedColumns names = [] := by
  refine List.eq_nil_iff_forall_not_mem.mpr fun column hcolumn => ?_
  obtain ⟨name, hget, hparse⟩ := mem_decoratedColumns.mp hcolumn
  cases (parseDecorated_of_isPlainField (plain name (List.mem_of_getElem? hget))).symm.trans hparse

/-- A search among the plain names finds a plain column. -/
theorem isPlain_of_findIdx? {p : String → Bool}
    (plain : ∀ name, p name = true → isPlainField name = true)
    (found : raw.names.findIdx? p = some key) : raw.IsPlain key := by
  obtain ⟨hkey, hname, -⟩ := List.findIdx?_eq_some_iff_getElem.mp found
  exact ⟨raw.names[key], List.getElem?_eq_getElem hkey, plain _ hname⟩

/-- **KEY COLUMNS ARE PLAIN**. -/
theorem isPlain_of_keyColumn? (mem : column ∈ decoratedColumns raw.names)
    (found : keyColumn? raw column = some key) : raw.IsPlain key := by
  rw [keyColumn?] at found
  split at found
  case h_1 i hindex =>
    obtain rfl := Option.some.inj found
    refine isPlain_of_findIdx? (fun name hname => ?_) hindex
    rw [of_decide_eq_true hname]
    exact isPlainField_field mem
  case h_2 => exact isPlain_of_findIdx? (fun _ hname => hname) found

end TableCompiler.Localization
