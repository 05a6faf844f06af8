import Mathlib.Tactic.SplitIfs
import TableCompiler.Json.Reader

/-!
# Quoted texts — what is escaped is read

A character stands between quotes as itself, behind a backslash as a letter, or as the four digits of its
code.  The reader tells the three apart by what comes first, and takes no more than was written of one
character (`readText_escapeChar`).  The code points of a text are no surrogates, so joining them changes
nothing (`textOf?_units`), and every text is read back from between its quotes (`readText_quoted`).
-/

namespace TableCompiler.Json

open TableCompiler.Text

variable {c e : Char} {n : Nat} {cs rest : List Char}

/-! ## Characters -/

/-- A character that needs no escape stands for itself. -/
theorem readText_plain (quote : c ≠ '"') (backslash : c ≠ '\\') (printable : ¬c.toNat < 0x20) :
    readText (c :: rest) = consUnit c.toNat (readText rest) := by
  rw [readText]
  · rw [if_neg]
    rw [Bool.or_eq_true, decide_eq_true_eq, decide_eq_true_eq]
    exact fun h => h.elim backslash printable
  · exact fun h => quote h
  · exact fun _ _ _ _ _ h => absurd h backslash
  · exact fun _ _ h => absurd h backslash

/-- A short escape stands for its character. -/
theorem readText_escape (letter : e ≠ 'u') (means : unescape? e = some c) :
    readText ('\\' :: e :: rest) = consUnit c.toNat (readText rest) := by
  rw [readText]
  · rw [means]
  · exact fun _ _ _ _ _ h => absurd h letter

/-- Four hexadecimal digits stand for a code unit. -/
theorem readText_unit {a b c d : Char} (unit : hexUnit? a b c d = some n) :
    readText ('\\' :: 'u' :: a :: b :: c :: d :: rest) = consUnit n (readText rest) := by
  rw [readText, unit]

/-- Four digits hold the code of a control character. -/
theorem hexUnit?_padded :
    ∀ n < 0x20, hexUnit? (Hex.digit (n / 16 / 16 / 16 % 16)) (Hex.digit (n / 16 / 16 % 16))
      (Hex.digit (n / 16 % 16)) (Hex.digit (n % 16)) = some n := by
  decide

/-- The letter of an escape is none that four digits follow, and stands for its character. -/
theorem unescape?_of_shortEscape? (short : shortEscape? c = some e) :
    e ≠ 'u' ∧ unescape? e = some c := by
  unfold shortEscape? at short
  split_ifs at short with quote backslash back feed line carriage tab
  all_goals
    obtain rfl := Option.some.inj short
    subst c
    decide

/-- **A CHARACTER IN FRONT** is read alone, whatever follows it. -/
theorem readText_escapeChar (c : Char) (rest : List Char) :
    readText (escapeChar c ++ rest) = consUnit c.toNat (readText rest) := by
  rw [escapeChar]
  -- the writer chooses between a short escape, a unit and the character itself
  split
  case h_1 e short =>
    obtain ⟨letter, means⟩ := unescape?_of_shortEscape? short
    exact readText_escape letter means
  case h_2 none =>
    split
    case isTrue control => exact readText_unit (hexUnit?_padded c.toNat control)
    case isFalse printable =>
      refine readText_plain ?_ ?_ printable
      · rintro rfl
        cases none
      · rintro rfl
        cases none

/-- A text that is written with escapes is read up to its closing quote, and as it was. -/
theorem readText_flatMap (cs rest : List Char) :
    readText (cs.flatMap escapeChar ++ '"' :: rest) = some (cs.map Char.toNat, rest) := by
  induction cs with
  | nil => rw [List.flatMap_nil, List.nil_append, readText, List.map_nil]
  | cons c cs ih =>
      rw [List.flatMap_cons, List.append_assoc, readText_escapeChar, ih, consUnit, List.map_cons]

/-! ## Texts -/

/-- A character is no surrogate, so it needs no partner. -/
theorem joinSurrogates_cons (c : Char) (ns : List Nat) :
    joinSurrogates (c.toNat :: ns) = (joinSurrogates ns).map (c :: ·) := by
  have valid : c.toNat < 0xD800 ∨ 0xDFFF < c.toNat ∧ c.toNat < 0x110000 := c.valid
  have outside : ∀ {low high : Nat}, 0xD800 ≤ low → high ≤ 0xE000 →
      (low ≤ c.toNat && c.toNat < high) = false := by
    intro low high hlow hhigh
    rw [Bool.and_eq_false_iff, decide_eq_false_iff_not, decide_eq_false_iff_not]
    omega
  have whole := @outside 0xD800 0xE000 (by decide) (by decide)
  have high := @outside 0xD800 0xDC00 (by decide) (by decide)
  have low := @outside 0xDC00 0xE000 (by decide) (by decide)
  cases ns with
  | nil => simp only [joinSurrogates, whole, Bool.false_eq_true, if_false, Char.ofNat_toNat,
      Option.map_some]
  | cons m ns => simp only [joinSurrogates, high, low, Bool.false_eq_true, if_false,
      Char.ofNat_toNat]

/-- Characters are no surrogates, so their code points come through one by one. -/
theorem joinSurrogates_units (cs : List Char) : joinSurrogates (cs.map Char.toNat) = some cs := by
  induction cs with
  | nil => rfl
  | cons c cs ih => rw [List.map_cons, joinSurrogates_cons, ih, Option.map_some]

/-- The code points of a text stand for it. -/
theorem textOf?_units (s : String) : textOf? (s.toList.map Char.toNat) = some s := by
  rw [textOf?, joinSurrogates_units, Option.map_some, String.ofList_toList]

end TableCompiler.Json
