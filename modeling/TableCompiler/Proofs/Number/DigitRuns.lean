import TableCompiler.Proofs.Number.Numeral

/-!
# Runs of digits — where a number ends

A run of digits is read up to the first character that is none, so a number is read back from its digits
as long as no digit follows them (`Spells.takeWhile_append`, `Spells.dropWhile_append`).  The digits of a
number can have zeros in front where a place is filled up, and have none otherwise
(`head?_decimalDigits`).
-/

namespace TableCompiler.Number

open TableCompiler.Text

variable {ds rest : List Char} {n width : Nat}

/-- A run of digits and the number that it spells. -/
structure Spells (ds : List Char) (n : Nat) : Prop where
  nonempty : ds ≠ []
  digits : ∀ c ∈ ds, c.isDigit = true
  value : ofDecimalDigits ds = n

/-- Zeros in front leave the number as it is. -/
theorem spells_zeroPadded (width n : Nat) : Spells (zeroPadded width n) n where
  nonempty := by
    rw [zeroPadded]
    exact List.append_ne_nil_of_right_ne_nil _ Nat.toDigits_ne_nil
  digits := by
    intro c hc
    rcases List.mem_append.mp hc with hc | hc
    · rw [List.eq_of_mem_replicate hc]
      decide
    · exact Nat.isDigit_of_mem_toDigits (by decide) (by decide) hc
  value := by
    rw [ofDecimalDigits_eq, zeroPadded, Nat.ofDigitChars_append, Nat.ofDigitChars_replicate_zero,
      Nat.mul_zero, decimalDigits, Nat.ofDigitChars_ten_toDigits]

theorem spells_decimalDigits (n : Nat) : Spells (decimalDigits n) n := by
  have h := spells_zeroPadded 0 n
  rwa [zeroPadded, Nat.zero_sub, List.replicate_zero, List.nil_append] at h

/-- A number that its place can hold fills it. -/
theorem length_zeroPadded (pos : 0 < width) (fits : n < Nat.pow 10 width) :
    (zeroPadded width n).length = width := by
  have hlength : decimalLength n ≤ width := (Nat.length_toDigits_le_iff (by decide) pos).mpr fits
  rw [zeroPadded, List.length_append, List.length_replicate]
  exact Nat.sub_add_cancel hlength

/-- **NO ZERO STANDS IN FRONT** of the digits of a number other than zero. -/
theorem head?_decimalDigits (pos : 0 < n) : (decimalDigits n).head? ≠ some '0' := by
  induction n using Nat.strongRecOn with
  | ind n ih =>
      rw [decimalDigits]
      by_cases one : n < 10
      · rw [Nat.toDigits_of_lt_base one]
        have nonzero : ∀ d < 10, 0 < d → [d.digitChar].head? ≠ some '0' := by decide
        exact nonzero n one pos
      · -- the first digit is that of the number without the last one
        have shorter := ih (n / 10) (by omega) (by omega)
        have front : (Nat.toDigits 10 (n / 10)) ≠ [] := Nat.toDigits_ne_nil
        rw [Nat.toDigits_of_base_le (by decide) (Nat.not_lt.mp one), List.head?_append_of_ne_nil _ front]
        exact shorter

/-- What a run of digits comes before. -/
def NoDigitFirst (rest : List Char) : Prop :=
  ∀ c, rest.head? = some c → isDigit c = false

theorem takeWhile_of_noDigitFirst (h : NoDigitFirst rest) : rest.takeWhile isDigit = [] := by
  cases rest with
  | nil => rfl
  | cons c cs =>
      rw [List.takeWhile_cons_of_neg]
      rw [h c rfl]
      exact Bool.false_ne_true

namespace Spells

variable (spells : Spells ds n)
include spells

theorem takeWhile_append (ends : NoDigitFirst rest) : (ds ++ rest).takeWhile isDigit = ds := by
  rw [List.takeWhile_append_of_pos (p := isDigit) spells.digits, takeWhile_of_noDigitFirst ends,
    List.append_nil]

theorem dropWhile_append (ends : NoDigitFirst rest) : (ds ++ rest).dropWhile isDigit = rest := by
  have split := List.takeWhile_append_dropWhile (p := isDigit) (l := ds ++ rest)
  rw [spells.takeWhile_append ends] at split
  exact List.append_cancel_left split

/-- Digits start with one. -/
theorem exists_cons : ∃ c cs, ds = c :: cs ∧ c.isDigit = true := by
  obtain ⟨c, cs, hds⟩ := List.exists_cons_of_ne_nil spells.nonempty
  exact ⟨c, cs, hds, spells.digits c (hds ▸ List.mem_cons_self)⟩

end Spells

end TableCompiler.Number
