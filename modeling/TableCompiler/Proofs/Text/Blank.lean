import Mathlib.Data.List.TakeWhile
import TableCompiler.Text.Class

/-!
# Words and blank space — what trimming leaves alone

A word is a run of word characters (`isIdentifier_iff`).  The two classes of characters have no character
in common (`isBlank_of_isWord`); since their range tables are long, the ranges are compared once and not
the characters.  `Trims` says which body a text has between the blank space at its ends: one with visible
ends.  That is what trimming finds, and there is no other (`trim_eq_iff`), so a text whose ends are
visible is trimmed already (`trim_of_ends`).
-/

namespace TableCompiler.Text

/-! ## Words -/

/-- One or more characters of a class, and nothing else. -/
def Run (p : Char → Prop) (cs : List Char) : Prop :=
  cs ≠ [] ∧ ∀ c ∈ cs, p c

theorem Run.not_mem {p : Char → Prop} {c : Char} {cs : List Char} (run : Run p cs)
    (foreign : ¬p c) : c ∉ cs := by
  intro mem
  exact foreign (run.2 c mem)

/-- A word: a run of word characters. -/
def Word (s : String) : Prop :=
  Run (isWord · = true) s.toList

/-- **AN IDENTIFIER** is a run of word characters. -/
theorem isIdentifier_iff {cs : List Char} :
    isIdentifier cs = true ↔ Run (isWord · = true) cs := by
  rw [isIdentifier, Bool.and_eq_true, Bool.not_eq_true', List.isEmpty_eq_false_iff,
    List.all_eq_true]
  exact Iff.rfl

/-- No range of blank characters meets one of the characters of words. -/
theorem blankRanges_disjoint :
    ∀ b ∈ blankRanges, ∀ w ∈ wordRangesLow ++ wordRangesMiddle ++ wordRangesHigh,
      b.2 < w.1 ∨ w.2 < b.1 := by
  decide +kernel

theorem inRanges_iff {ranges : List (Nat × Nat)} {n : Nat} :
    inRanges ranges n = true ↔ ∃ r ∈ ranges, r.1 ≤ n ∧ n ≤ r.2 := by
  simp [inRanges]

/-- In ASCII a word character is one of four kinds. -/
theorem code_of_isAsciiWord {c : Char} (h : isAsciiWord c = true) :
    48 ≤ c.toNat ∧ c.toNat ≤ 122 := by
  simp only [isAsciiWord, isDigit, Bool.or_eq_true, Bool.and_eq_true, decide_eq_true_eq,
    beq_iff_eq] at h
  rcases h with ((h | h) | h) | rfl
  · exact ⟨h.1, Nat.le_trans h.2 (by decide)⟩
  · exact ⟨Nat.le_trans (by decide) h.1, h.2⟩
  · exact ⟨Nat.le_trans (by decide) h.1, Nat.le_trans h.2 (by decide)⟩
  · exact ⟨by decide, by decide⟩

/-- **NO WORD CHARACTER IS BLANK**. -/
theorem isBlank_of_isWord {c : Char} (h : isWord c = true) : isBlank c = false := by
  apply Bool.eq_false_iff.mpr
  intro hblank
  obtain ⟨b, hb, hlow, hhigh⟩ := inRanges_iff.mp hblank
  have apart : ∀ {ranges : List (Nat × Nat)}, inRanges ranges c.toNat = true →
      ¬ranges ⊆ wordRangesLow ++ wordRangesMiddle ++ wordRangesHigh := by
    intro ranges hin hsub
    obtain ⟨w, hw, hlow', hhigh'⟩ := inRanges_iff.mp hin
    have := blankRanges_disjoint b hb w (hsub hw)
    omega
  rw [isWord] at h
  split at h
  case isTrue hascii =>
    -- the blank characters of ASCII stand before its words
    have hword := (code_of_isAsciiWord h).1
    have hfew : ∀ r ∈ blankRanges, r.2 < 48 ∨ 128 ≤ r.1 := by decide
    have := hfew b hb
    omega
  case isFalse =>
    split at h
    case isTrue =>
      exact apart h fun w hw => List.mem_append_left _ (List.mem_append_left _ hw)
    case isFalse =>
      split at h
      case isTrue =>
        exact apart h fun w hw => List.mem_append_left _ (List.mem_append_right _ hw)
      case isFalse => exact apart h fun w hw => List.mem_append_right _ hw

theorem code_of_isDigit {c : Char} (h : c.isDigit = true) : 48 ≤ c.toNat ∧ c.toNat ≤ 57 := by
  rw [Char.isDigit, Bool.and_eq_true, decide_eq_true_eq, decide_eq_true_eq] at h
  exact h

/-- **NO DIGIT IS BLANK**, since digits are word characters. -/
theorem isBlank_of_isDigit {c : Char} (h : c.isDigit = true) : isBlank c = false := by
  obtain ⟨hlow, hhigh⟩ := code_of_isDigit h
  have hdigit : isDigit c = true := h
  refine isBlank_of_isWord ?_
  rw [isWord, if_pos (by omega), isAsciiWord, hdigit]
  rfl

/-! ## Trimming -/

theorem dropWhile_isBlank {cs : List Char} (first : ∀ c, cs.head? = some c → isBlank c = false) :
    cs.dropWhile isBlank = cs := by
  cases cs with
  | nil => rfl
  | cons c cs =>
      rw [List.dropWhile_cons_of_neg]
      rw [first c rfl]
      exact Bool.false_ne_true

/-- What blank space is dropped from starts with none. -/
theorem visible_dropWhile {cs : List Char} {c : Char}
    (h : (cs.dropWhile isBlank).head? = some c) : isBlank c = false := by
  have first := List.head?_dropWhile_not isBlank cs
  rw [h] at first
  exact first

/-- The start of a text is visible, and trimming its end takes nothing from there. -/
theorem visible_head_trim {cs : List Char} {c : Char} (h : (trim cs).head? = some c) :
    isBlank c = false := by
  have front : trim cs <+: trimStart cs := by
    have behind := List.dropWhile_suffix isBlank (l := (trimStart cs).reverse)
    rwa [← List.reverse_prefix, List.reverse_reverse] at behind
  obtain ⟨rest, hrest⟩ := front
  have first : (trimStart cs).head? = some c := by
    rw [← hrest, List.head?_append, h, Option.some_or]
  exact visible_dropWhile first

theorem visible_last_trim {cs : List Char} {c : Char} (h : (trim cs).getLast? = some c) :
    isBlank c = false := by
  rw [trim, trimEnd, List.getLast?_reverse] at h
  exact visible_dropWhile h

/-- What a text holds between the blank space at its ends. -/
structure Trims (cs body : List Char) : Prop where
  around : ∃ front back, cs = front ++ (body ++ back) ∧ (∀ c ∈ front, isBlank c = true) ∧
    ∀ c ∈ back, isBlank c = true
  first : ∀ c, body.head? = some c → isBlank c = false
  last : ∀ c, body.getLast? = some c → isBlank c = false

/-- What is trimmed at the end is blank. -/
theorem exists_trimEnd (cs : List Char) :
    ∃ back, cs = trimEnd cs ++ back ∧ ∀ c ∈ back, isBlank c = true := by
  refine ⟨(cs.reverse.takeWhile isBlank).reverse, ?_, ?_⟩
  · rw [trimEnd, ← List.reverse_append, List.takeWhile_append_dropWhile, List.reverse_reverse]
  · intro c hc
    exact List.mem_takeWhile_imp (List.mem_reverse.mp hc)

/-- Blank space behind a text that does not end in it is trimmed, and no more. -/
theorem trimEnd_append {body back : List Char}
    (last : ∀ c, body.getLast? = some c → isBlank c = false)
    (blank : ∀ c ∈ back, isBlank c = true) : trimEnd (body ++ back) = body := by
  have hlast : body.reverse.dropWhile isBlank = body.reverse := by
    apply dropWhile_isBlank
    intro c hc
    rw [List.head?_reverse] at hc
    exact last c hc
  rw [trimEnd, List.reverse_append, List.dropWhile_append_of_pos, hlast, List.reverse_reverse]
  intro c hc
  exact blank c (List.mem_reverse.mp hc)

/-- **TRIMMING** finds the body of a text, and a text has no other. -/
theorem trim_eq_iff {cs body : List Char} : trim cs = body ↔ Trims cs body := by
  constructor
  · rintro rfl
    obtain ⟨back, hback, hblank⟩ := exists_trimEnd (trimStart cs)
    refine ⟨⟨cs.takeWhile isBlank, back, ?_, ?_, hblank⟩, fun c => visible_head_trim,
      fun c => visible_last_trim⟩
    · rw [trim, ← hback, trimStart, List.takeWhile_append_dropWhile]
    · intro c hc
      exact List.mem_takeWhile_imp hc
  · rintro ⟨⟨front, back, rfl, hfront, hback⟩, first, last⟩
    rw [trim, trimStart, List.dropWhile_append_of_pos hfront]
    cases body with
    | nil =>
        -- a text of blank space alone has an empty body
        have hnil : back.dropWhile isBlank = [] := List.dropWhile_eq_nil_iff.mpr hback
        rw [List.nil_append, hnil]
        rfl
    | cons c body =>
        rw [List.cons_append, dropWhile_isBlank, ← List.cons_append]
        · exact trimEnd_append last hback
        · intro d hd
          exact first d hd

/-- A text is trimmed when no blank space stands at its ends. -/
theorem trim_of_ends {cs : List Char} (first : ∀ c, cs.head? = some c → isBlank c = false)
    (last : ∀ c, cs.getLast? = some c → isBlank c = false) : trim cs = cs := by
  refine trim_eq_iff.mpr ⟨⟨[], [], ?_, ?_, ?_⟩, first, last⟩
  · rw [List.append_nil, List.nil_append]
  · intro c hc
    exact absurd hc List.not_mem_nil
  · intro c hc
    exact absurd hc List.not_mem_nil

/-- **TRIMMING ONCE** is enough. -/
theorem trim_trim (cs : List Char) : trim (trim cs) = trim cs :=
  trim_of_ends (fun _ => visible_head_trim) fun _ => visible_last_trim

theorem trim_toList_trimmed (s : String) : trim (trimmed s).toList = trim s.toList := by
  rw [trimmed, String.toList_ofList, trim_trim]

theorem trimmed_trimmed (s : String) : trimmed (trimmed s) = trimmed s :=
  congrArg String.ofList (trim_toList_trimmed s)

/-- A text without blank space is trimmed to itself. -/
theorem trim_of_isBlank_eq_false {cs : List Char} (h : ∀ c ∈ cs, isBlank c = false) :
    trim cs = cs :=
  trim_of_ends (fun c hc => h c (List.mem_of_head? hc)) fun c hc => h c (List.mem_of_getLast? hc)

end TableCompiler.Text
