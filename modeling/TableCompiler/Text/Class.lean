import TableCompiler.Text.WordRanges

/-!
# Character classes — blank space and word characters

Two classes of the Unicode standard decide how a table is read: *blank* characters are trimmed
from cells and type expressions, and *word* characters make up identifiers. Both are decided by
range tables; the ASCII part is tested first.
-/

namespace TableCompiler.Text

/-- Whether a code point lies in one of the ranges. -/
def inRanges (ranges : List (Nat × Nat)) (n : Nat) : Bool :=
  ranges.any fun r => r.1 ≤ n && n ≤ r.2

/-- The characters with the White_Space property. -/
def blankRanges : List (Nat × Nat) :=
  [(0x09, 0x0D), (0x20, 0x20), (0x85, 0x85), (0xA0, 0xA0), (0x1680, 0x1680), (0x2000, 0x200A),
   (0x2028, 0x2029), (0x202F, 0x202F), (0x205F, 0x205F), (0x3000, 0x3000)]

/-- Blank space: a character with the White_Space property. -/
def isBlank (c : Char) : Bool :=
  inRanges blankRanges c.toNat

/-- An ASCII digit. -/
def isDigit (c : Char) : Bool :=
  '0' ≤ c && c ≤ '9'

/-- An ASCII letter, digit or underscore. -/
def isAsciiWord (c : Char) : Bool :=
  isDigit c || ('a' ≤ c && c ≤ 'z') || ('A' ≤ c && c ≤ 'Z') || c == '_'

/-- A word character: alphabetic, mark, decimal digit, connector punctuation or join control. -/
def isWord (c : Char) : Bool :=
  if c.toNat < 0x80 then isAsciiWord c
  else if c.toNat < 0x2000 then inRanges wordRangesLow c.toNat
  else if c.toNat < 0x10000 then inRanges wordRangesMiddle c.toNat
  else inRanges wordRangesHigh c.toNat

/-- One or more word characters and nothing else. -/
def isIdentifier (cs : List Char) : Bool :=
  !cs.isEmpty && cs.all isWord

/-- Drops the blank characters at the start. -/
def trimStart (cs : List Char) : List Char :=
  cs.dropWhile isBlank

/-- Drops the blank characters at the end. -/
def trimEnd (cs : List Char) : List Char :=
  (cs.reverse.dropWhile isBlank).reverse

/-- Drops the blank characters at both ends. -/
def trim (cs : List Char) : List Char :=
  trimEnd (trimStart cs)

/-- A text without the blank characters at its ends. -/
def trimmed (s : String) : String :=
  String.ofList (trim s.toList)

@[simp] theorem trim_nil : trim [] = [] := rfl

theorem isIdentifier_nil : isIdentifier [] = false := rfl

/-- An identifier is made of word characters only. -/
theorem isWord_of_mem_identifier {cs : List Char} (h : isIdentifier cs = true) {c : Char}
    (hc : c ∈ cs) : isWord c = true := by
  simp only [isIdentifier, Bool.and_eq_true, List.all_eq_true] at h
  exact h.2 c hc

end TableCompiler.Text
