import Mathlib.Data.Nat.Digits.Defs
import Mathlib.Data.List.Forall2
import TableCompiler.Number.Digits

/-!
# Numerals — signs, radix marks and digits

A numeral is a sign or none, the mark of its radix or none, and digits.  `Numeral` says what number it
stands for, with the positional value of the library.  Every text, whether a numeral or not, has a
`Reading`: the sign and the mark that it starts with, the digits behind them up to the first character
that is none, and the rest (`exists_reads`).  A text is a numeral just if its reading has digits and no
rest (`Reads.numeral`,
`Numeral.reads`): the letter of a mark is no digit of the radix that it marks, so
a mark is never a digit and one more.
-/

namespace TableCompiler.Number

variable {radix n d : Nat} {c : Char} {cs digits rest mark : List Char} {ds : List Nat} {v : Int}

/-! ## Digits -/

/-- The digits in the order of their values, with small letters. -/
def smallDigits : List Char :=
  ['0', '1', '2', '3', '4', '5', '6', '7', '8', '9', 'a', 'b', 'c', 'd', 'e', 'f', 'g', 'h', 'i', 'j',
   'k', 'l', 'm', 'n', 'o', 'p', 'q', 'r', 's', 't', 'u', 'v', 'w', 'x', 'y', 'z']

/-- The digits in the order of their values, with capital letters. -/
def capitalDigits : List Char :=
  ['0', '1', '2', '3', '4', '5', '6', '7', '8', '9', 'A', 'B', 'C', 'D', 'E', 'F', 'G', 'H', 'I', 'J',
   'K', 'L', 'M', 'N', 'O', 'P', 'Q', 'R', 'S', 'T', 'U', 'V', 'W', 'X', 'Y', 'Z']

/-- A character is the digit of that value in a radix, in either case. -/
def IsDigit (radix : Nat) (c : Char) (d : Nat) : Prop :=
  d < radix ∧ (smallDigits[d]? = some c ∨ capitalDigits[d]? = some c)

instance (radix : Nat) (c : Char) (d : Nat) : Decidable (IsDigit radix c d) :=
  inferInstanceAs (Decidable (_ ∧ _))

/-- Digits amount to a number: it is their positional value, and no digits amount to zero. -/
def AmountTo (radix : Nat) (digits : List Char) (n : Nat) : Prop :=
  ∃ ds, List.Forall₂ (IsDigit radix) digits ds ∧ n = Nat.ofDigits radix ds.reverse

/-- A character lies in one of the three runs of digits, at the place of that value. -/
abbrev DigitCode (c : Char) (d : Nat) : Prop :=
  ('0' ≤ c ∧ c ≤ '9') ∧ c.toNat = 48 + d ∨
    ¬('0' ≤ c ∧ c ≤ '9') ∧ ('a' ≤ c ∧ c ≤ 'z') ∧ c.toNat + 10 = 97 + d ∨
    ¬('0' ≤ c ∧ c ≤ '9') ∧ ¬('a' ≤ c ∧ c ≤ 'z') ∧ ('A' ≤ c ∧ c ≤ 'Z') ∧ c.toNat + 10 = 65 + d

/-- Every digit that is listed has the code of its value. -/
theorem digitCode_of_listed :
    ∀ p ∈ smallDigits.zipIdx ++ capitalDigits.zipIdx, DigitCode p.1 p.2 := by
  decide

theorem IsDigit.code (digit : IsDigit radix c d) : DigitCode c d := by
  refine digitCode_of_listed (c, d) ?_
  rw [List.mem_append, List.mk_mem_zipIdx_iff_getElem?, List.mk_mem_zipIdx_iff_getElem?]
  exact digit.2

theorem listed_of_code :
    (∀ d < 10, smallDigits[d]? = some (Char.ofNat (48 + d))) ∧
      ∀ d < 36, 10 ≤ d → smallDigits[d]? = some (Char.ofNat (97 + d - 10)) ∧
        capitalDigits[d]? = some (Char.ofNat (65 + d - 10)) := by
  decide +kernel

/-- Whatever has such a code is listed, as a small letter or as a capital one. -/
theorem listed_of_digitCode (code : DigitCode c d) :
    smallDigits[d]? = some c ∨ capitalDigits[d]? = some c := by
  have named : ∀ n, c.toNat = n → Char.ofNat n = c := by
    rintro n rfl
    exact Char.ofNat_toNat c
  rcases code with ⟨⟨hlow, hhigh⟩, hcode⟩ | ⟨-, ⟨hlow, hhigh⟩, hcode⟩ | ⟨-, -, ⟨hlow, hhigh⟩, hcode⟩
  · have hlow : 48 ≤ c.toNat := hlow
    have hhigh : c.toNat ≤ 57 := hhigh
    rw [listed_of_code.1 d (by omega), named _ hcode]
    exact .inl rfl
  · have hlow : 97 ≤ c.toNat := hlow
    have hhigh : c.toNat ≤ 122 := hhigh
    rw [(listed_of_code.2 d (by omega) (by omega)).1, named _ (by omega)]
    exact .inl rfl
  · have hlow : 65 ≤ c.toNat := hlow
    have hhigh : c.toNat ≤ 90 := hhigh
    rw [(listed_of_code.2 d (by omega) (by omega)).2, named _ (by omega)]
    exact .inr rfl

/-- The reader takes a digit for its value, if that is less than the radix. -/
theorem digitValue?_of_digitCode (code : DigitCode c d) :
    digitValue? radix c = if d < radix then some d else none := by
  simp only [digitValue?, Bool.and_eq_true, decide_eq_true_eq]
  -- digits, small letters and capitals, in the order in which the reader tries them
  rcases code with ⟨range, hcode⟩ | ⟨digit, range, hcode⟩ | ⟨digit, small, range, hcode⟩
  · have value : c.toNat - '0'.toNat = d := by
      show c.toNat - 48 = d
      omega
    rw [if_pos range, value]
  · have value : c.toNat - 'a'.toNat + 10 = d := by
      have low : 97 ≤ c.toNat := range.1
      show c.toNat - 97 + 10 = d
      omega
    rw [if_neg digit, if_pos range, value]
  · have value : c.toNat - 'A'.toNat + 10 = d := by
      have low : 65 ≤ c.toNat := range.1
      show c.toNat - 65 + 10 = d
      omega
    rw [if_neg digit, if_neg small, if_pos range, value]

/-- The reader takes nothing else for a digit. -/
theorem exists_digitCode {k : Nat} (h : digitValue? radix c = some k) : ∃ d, DigitCode c d := by
  by_cases digit : '0' ≤ c ∧ c ≤ '9'
  · have low : 48 ≤ c.toNat := digit.1
    exact ⟨c.toNat - 48, .inl ⟨digit, by omega⟩⟩
  · by_cases small : 'a' ≤ c ∧ c ≤ 'z'
    · have low : 97 ≤ c.toNat := small.1
      exact ⟨c.toNat + 10 - 97, .inr (.inl ⟨digit, small, by omega⟩)⟩
    · by_cases capital : 'A' ≤ c ∧ c ≤ 'Z'
      · have low : 65 ≤ c.toNat := capital.1
        exact ⟨c.toNat + 10 - 65, .inr (.inr ⟨digit, small, capital, by omega⟩)⟩
      · simp only [digitValue?, Bool.and_eq_true, decide_eq_true_eq, if_neg digit, if_neg small,
          if_neg capital, Nat.lt_irrefl, if_false] at h
        cases h

/-- **A DIGIT IS READ** as its value. -/
theorem digitValue?_eq_some_iff : digitValue? radix c = some d ↔ IsDigit radix c d := by
  constructor
  · intro h
    obtain ⟨k, code⟩ := exists_digitCode h
    rw [digitValue?_of_digitCode code] at h
    split at h
    case isTrue hlt =>
      obtain rfl := Option.some.inj h
      exact ⟨hlt, listed_of_digitCode code⟩
    case isFalse => cases h
  · intro digit
    rw [digitValue?_of_digitCode digit.code, if_pos digit.1]

theorem IsDigit.mem (digit : IsDigit radix c d) : c ∈ smallDigits ++ capitalDigits :=
  List.mem_append.mpr (digit.2.imp List.mem_of_getElem? List.mem_of_getElem?)

/-- A digit has one value. -/
theorem IsDigit.unique {d' : Nat} (h : IsDigit radix c d) (h' : IsDigit radix c d') : d = d' := by
  rw [← digitValue?_eq_some_iff] at h h'
  exact Option.some.inj (h.symm.trans h')

/-- Digits amount to one number. -/
theorem AmountTo.unique {n' : Nat} (h : AmountTo radix digits n)
    (h' : AmountTo radix digits n') : n = n' := by
  obtain ⟨ds, run, rfl⟩ := h
  obtain ⟨ds', run', rfl⟩ := h'
  have same : ds = ds' := by
    induction run generalizing ds' with
    | nil =>
        cases run'
        rfl
    | cons digit _ ih =>
        cases run' with
        | cons digit' run' => rw [digit.unique digit', ih _ run']
  rw [same]

/-- A number with more digits behind it. -/
def accumulate (radix a : Nat) (ds : List Nat) : Nat :=
  ds.foldl (fun n d => n * radix + d) a

/-- **FROM LEFT TO RIGHT** digits are added up to their positional value. -/
theorem accumulate_zero (radix : Nat) (ds : List Nat) :
    accumulate radix 0 ds = Nat.ofDigits radix ds.reverse := by
  rw [Nat.ofDigits_eq_foldr, List.foldr_reverse, accumulate]
  congr 1
  funext n d
  rw [Nat.cast_id, Nat.mul_comm, Nat.add_comm]

/-! ## Decimal digits -/

/-- **A DECIMAL DIGIT** is one of radix ten. -/
theorem isDigit_ten_iff : IsDigit 10 c d ↔ Text.isDigit c = true ∧ decimalValue c = d := by
  constructor
  · intro digit
    have below : d < 10 := digit.1
    -- letters count from ten
    rcases digit.code with ⟨⟨low, high⟩, code⟩ | ⟨-, ⟨low, -⟩, code⟩ | ⟨-, -, ⟨low, -⟩, code⟩
    · rw [Text.isDigit, Bool.and_eq_true, decide_eq_true_eq, decide_eq_true_eq]
      refine ⟨⟨low, high⟩, ?_⟩
      show c.toNat - 48 = d
      omega
    · have low : 97 ≤ c.toNat := low
      omega
    · have low : 65 ≤ c.toNat := low
      omega
  · rintro ⟨digit, rfl⟩
    rw [Text.isDigit, Bool.and_eq_true, decide_eq_true_eq, decide_eq_true_eq] at digit
    have low : 48 ≤ c.toNat := digit.1
    have high : c.toNat ≤ 57 := digit.2
    have value : decimalValue c = c.toNat - 48 := rfl
    exact ⟨by omega, listed_of_digitCode (.inl ⟨digit, by omega⟩)⟩

/-- A run of digits to base ten is one of decimal digits. -/
theorem forall₂_ten_iff :
    List.Forall₂ (IsDigit 10) digits ds ↔
      digits.all Text.isDigit = true ∧ digits.map decimalValue = ds := by
  induction digits generalizing ds with
  | nil =>
      cases ds with
      | nil => exact iff_of_true .nil ⟨rfl, rfl⟩
      | cons d ds => exact iff_of_false (fun h => nomatch h) fun h => nomatch h.2
  | cons c digits ih =>
      cases ds with
      | nil => exact iff_of_false (fun h => nomatch h) fun h => nomatch h.2
      | cons d ds =>
          rw [List.forall₂_cons, ih, isDigit_ten_iff, List.all_cons, Bool.and_eq_true, List.map_cons,
            List.cons.injEq]
          exact and_and_and_comm

/-- **DECIMAL DIGITS** amount to the number that they are read as. -/
theorem amountTo_ten_iff :
    AmountTo 10 digits n ↔ digits.all Text.isDigit = true ∧ n = ofDecimalDigits digits := by
  have value : ofDecimalDigits digits = Nat.ofDigits 10 (digits.map decimalValue).reverse := by
    rw [← accumulate_zero, accumulate, List.foldl_map]
    rfl
  rw [value]
  constructor
  · rintro ⟨ds, run, rfl⟩
    obtain ⟨all, rfl⟩ := forall₂_ten_iff.mp run
    exact ⟨all, rfl⟩
  · rintro ⟨all, rfl⟩
    exact ⟨_, forall₂_ten_iff.mpr ⟨all, rfl⟩, rfl⟩

/-- Decimal digits amount to what the library makes of them. -/
theorem ofDecimalDigits_eq (cs : List Char) : ofDecimalDigits cs = Nat.ofDigitChars 10 cs 0 := by
  rw [ofDecimalDigits, Nat.ofDigitChars_eq_foldl]
  refine congrFun (congrFun (congrArg _ ?_) 0) cs
  funext n c
  rw [Nat.mul_comm]
  rfl

/-- The decimal digits of a number amount to it. -/
theorem amountTo_toDigits (n : Nat) : AmountTo 10 (Nat.toDigits 10 n) n := by
  refine amountTo_ten_iff.mpr ⟨List.all_eq_true.mpr fun c hc => ?_, ?_⟩
  · exact Nat.isDigit_of_mem_toDigits (by decide) (by decide) hc
  · rw [ofDecimalDigits_eq, Nat.ofDigitChars_ten_toDigits]

/-! ## Signs and marks -/

/-- A character is a sign. -/
def IsSign (c : Char) : Prop :=
  c = '+' ∨ c = '-'

/-- The sign of a numeral, if it has one. -/
inductive Sign where
  | none
  | plus
  | minus
  deriving DecidableEq

namespace Sign

def text : Sign → List Char
  | .none => []
  | .plus => ['+']
  | .minus => ['-']

/-- The number of that sign and magnitude. -/
def applied : Sign → Nat → Int
  | .none, n => n
  | .plus, n => n
  | .minus, n => -n

end Sign

theorem IsDigit.not_sign (digit : IsDigit radix c d) : ¬IsSign c := by
  rintro (rfl | rfl) <;> exact absurd digit.mem (by decide)

/-- The marks of a radix, in either case. -/
def marks (radix : Nat) : List (List Char) :=
  match radix with
  | 2 => [['0', 'b'], ['0', 'B']]
  | 8 => [['0', 'o'], ['0', 'O']]
  | 16 => [['0', 'x'], ['0', 'X']]
  | _ => []

/-- **THE LETTER OF A MARK** is no digit of the radix. -/
theorem letter_of_mem_marks (h : mark ∈ marks radix) :
    ∃ letter, mark = ['0', letter] ∧ ∀ d, ¬IsDigit radix letter d := by
  have apart : ∀ {radix : Nat} {letter : Char},
      (∀ d < radix, ¬(smallDigits[d]? = some letter ∨ capitalDigits[d]? = some letter)) →
        ∀ d, ¬IsDigit radix letter d := fun none d digit => none d digit.1 digit.2
  have pair : ∀ {a b : List Char}, mark ∈ [a, b] → mark = a ∨ mark = b := fun h => by
    rwa [List.mem_pair] at h
  unfold marks at h
  split at h
  case h_1 => rcases pair h with rfl | rfl <;> exact ⟨_, rfl, apart (by decide)⟩
  case h_2 => rcases pair h with rfl | rfl <;> exact ⟨_, rfl, apart (by decide)⟩
  case h_3 => rcases pair h with rfl | rfl <;> exact ⟨_, rfl, apart (by decide)⟩
  case h_4 => exact absurd h List.not_mem_nil

/-! ## Numerals -/

/-- The texts of numerals in a radix, each with its number. -/
inductive Numeral (radix : Nat) : List Char → Int → Prop where
  | mk (sign : Sign) {mark digits : List Char} {n : Nat} : mark = [] ∨ mark ∈ marks radix →
      digits ≠ [] → AmountTo radix digits n →
      Numeral radix (sign.text ++ (mark ++ digits)) (sign.applied n)

/-! ## Readings -/

/-- The parts of a text from left to right, and the number that its digits amount to. -/
structure Reading where
  sign : Sign
  mark : List Char
  digits : List Char
  rest : List Char
  magnitude : Nat

/-- A text is read with these parts.  Sign and mark are taken if there are any, and the digits go on
to the first character that is none. -/
structure Reading.Reads (r : Reading) (radix : Nat) (cs : List Char) : Prop where
  text : cs = r.sign.text ++ (r.mark ++ (r.digits ++ r.rest))
  sign : r.sign = .none → ∀ c, cs.head? = some c → ¬IsSign c
  mark : r.mark ∈ marks radix ∨ r.mark = [] ∧ ∀ m ∈ marks radix, ¬m <+: r.digits ++ r.rest
  magnitude : AmountTo radix r.digits r.magnitude
  stops : ∀ c, r.rest.head? = some c → ∀ d, ¬IsDigit radix c d

/-- Every text has a sign or none in front. -/
theorem exists_sign (cs : List Char) :
    ∃ sign rest, cs = Sign.text sign ++ rest ∧ (sign = .none → ∀ c, cs.head? = some c → ¬IsSign c) := by
  cases cs with
  | nil => exact ⟨.none, [], rfl, fun _ c h => nomatch h⟩
  | cons c cs =>
      by_cases plus : c = '+'
      · exact ⟨.plus, cs, by rw [plus]; rfl, fun h => nomatch h⟩
      · by_cases minus : c = '-'
        · exact ⟨.minus, cs, by rw [minus]; rfl, fun h => nomatch h⟩
        · refine ⟨.none, c :: cs, rfl, fun _ c' h => ?_⟩
          obtain rfl := Option.some.inj h
          rintro (h | h)
          · exact plus h
          · exact minus h

/-- Every text has a mark of the radix or none in front. -/
theorem exists_mark (radix : Nat) (cs : List Char) :
    ∃ mark rest, cs = mark ++ rest ∧
      (mark ∈ marks radix ∨ mark = [] ∧ ∀ m ∈ marks radix, ¬m <+: rest) := by
  by_cases marked : ∃ m ∈ marks radix, m <+: cs
  · obtain ⟨m, hm, rest, rfl⟩ := marked
    exact ⟨m, rest, rfl, .inl hm⟩
  · exact ⟨[], cs, rfl, .inr ⟨rfl, fun m hm hprefix => marked ⟨m, hm, hprefix⟩⟩⟩

/-- Every text has a longest run of digits in front, which may be empty. -/
theorem exists_digits (radix : Nat) (cs : List Char) :
    ∃ digits rest ds, cs = digits ++ rest ∧ List.Forall₂ (IsDigit radix) digits ds ∧
      ∀ c, rest.head? = some c → ∀ d, ¬IsDigit radix c d := by
  induction cs with
  | nil => exact ⟨[], [], [], rfl, .nil, fun c h => nomatch h⟩
  | cons c cs ih =>
      by_cases digit : ∃ d, IsDigit radix c d
      · obtain ⟨d, hd⟩ := digit
        obtain ⟨digits, rest, ds, rfl, hds, hrest⟩ := ih
        exact ⟨c :: digits, rest, d :: ds, rfl, .cons hd hds, hrest⟩
      · refine ⟨[], c :: cs, [], rfl, .nil, fun c' h d hd => ?_⟩
        obtain rfl := Option.some.inj h
        exact digit ⟨d, hd⟩

/-- **EVERY TEXT IS READ**, numeral or not. -/
theorem exists_reads (radix : Nat) (cs : List Char) : ∃ r : Reading, r.Reads radix cs := by
  obtain ⟨sign, behindSign, hsign, unsigned⟩ := exists_sign cs
  obtain ⟨mark, behindMark, hmark, marked⟩ := exists_mark radix behindSign
  obtain ⟨digits, rest, ds, hdigits, hds, stops⟩ := exists_digits radix behindMark
  subst hdigits hmark
  exact ⟨⟨sign, mark, digits, rest, _⟩, hsign, unsigned, marked, ⟨ds, hds, rfl⟩, stops⟩

/-- The sign in front is one. -/
theorem sign_unique {sign sign' : Sign} {rest rest' : List Char}
    (text : cs = sign.text ++ rest) (text' : cs = sign'.text ++ rest')
    (unsigned : sign = .none → ∀ c, cs.head? = some c → ¬IsSign c)
    (unsigned' : sign' = .none → ∀ c, cs.head? = some c → ¬IsSign c) :
    sign = sign' ∧ rest = rest' := by
  subst text
  -- nine pairs: only equal signs are left when the texts start alike and an absent sign is really
  -- absent
  cases sign with
  | none =>
      cases sign' with
      | none => exact ⟨rfl, text'⟩
      | plus => exact absurd (.inl rfl) (unsigned rfl '+' (by rw [text']; rfl))
      | minus => exact absurd (.inr rfl) (unsigned rfl '-' (by rw [text']; rfl))
  | plus =>
      cases sign' with
      | none => exact absurd (.inl rfl) (unsigned' rfl '+' rfl)
      | plus => exact ⟨rfl, (List.cons.inj text').2⟩
      | minus => exact absurd (List.cons.inj text').1 (by decide)
  | minus =>
      cases sign' with
      | none => exact absurd (.inr rfl) (unsigned' rfl '-' rfl)
      | plus => exact absurd (List.cons.inj text').1 (by decide)
      | minus => exact ⟨rfl, (List.cons.inj text').2⟩

/-- The mark of the radix in front is one, for no mark is the start of another. -/
theorem mark_unique {mark' rest rest' : List Char} (text : mark ++ rest = mark' ++ rest')
    (marked : mark ∈ marks radix ∨ mark = [] ∧ ∀ m ∈ marks radix, ¬m <+: rest)
    (marked' : mark' ∈ marks radix ∨ mark' = [] ∧ ∀ m ∈ marks radix, ¬m <+: rest') :
    mark = mark' ∧ rest = rest' := by
  rcases marked with hmark | ⟨rfl, unmarked⟩
  · rcases marked' with hmark' | ⟨rfl, unmarked'⟩
    · -- marks are of one length
      obtain ⟨letter, rfl, -⟩ := letter_of_mem_marks hmark
      obtain ⟨letter', rfl, -⟩ := letter_of_mem_marks hmark'
      exact List.append_inj text rfl
    · exact absurd ⟨rest, text⟩ (unmarked' mark hmark)
  · rcases marked' with hmark' | ⟨rfl, -⟩
    · exact absurd ⟨rest', text.symm⟩ (unmarked mark' hmark')
    · exact ⟨rfl, text⟩

/-- The longest run of digits in front is one. -/
theorem digits_unique {digits' rest rest' : List Char} {ds' : List Nat}
    (text : digits ++ rest = digits' ++ rest') (run : List.Forall₂ (IsDigit radix) digits ds)
    (run' : List.Forall₂ (IsDigit radix) digits' ds')
    (stops : ∀ c, rest.head? = some c → ∀ d, ¬IsDigit radix c d)
    (stops' : ∀ c, rest'.head? = some c → ∀ d, ¬IsDigit radix c d) :
    digits = digits' ∧ rest = rest' := by
  induction run generalizing digits' ds' with
  | nil =>
      cases run' with
      | nil => exact ⟨rfl, text⟩
      | cons digit' _ => exact absurd digit' (stops _ (by rw [List.nil_append] at text; rw [text]; rfl) _)
  | @cons c d digits ds digit run ih =>
      cases run' with
      | nil => exact absurd digit (stops' _ (by rw [List.nil_append] at text; rw [← text]; rfl) _)
      | cons digit' run' =>
          obtain ⟨rfl, behind⟩ := List.cons.inj text
          obtain ⟨rfl, same⟩ := ih behind run'
          exact ⟨rfl, same⟩

/-- **A TEXT IS READ** in one way. -/
theorem Reading.Reads.unique {r r' : Reading} (reads : r.Reads radix cs)
    (reads' : r'.Reads radix cs) : r = r' := by
  obtain ⟨sign, behindSign⟩ := sign_unique reads.text reads'.text reads.sign reads'.sign
  obtain ⟨mark, behindMark⟩ := mark_unique behindSign reads.mark reads'.mark
  obtain ⟨ds, run, -⟩ := reads.magnitude
  obtain ⟨ds', run', -⟩ := reads'.magnitude
  obtain ⟨digits, rest⟩ := digits_unique behindMark run run' reads.stops reads'.stops
  have magnitude := reads'.magnitude
  rw [← digits] at magnitude
  have magnitude := reads.magnitude.unique magnitude
  cases r
  cases r'
  cases sign
  cases mark
  cases digits
  cases rest
  cases magnitude
  rfl

/-- **A READING WITHOUT REST** that has digits is one of a numeral. -/
theorem Reading.Reads.numeral {r : Reading} (reads : r.Reads radix cs) (some : r.digits ≠ [])
    (whole : r.rest = []) : Numeral radix cs (r.sign.applied r.magnitude) := by
  have marked : r.mark = [] ∨ r.mark ∈ marks radix :=
    reads.mark.elim .inr fun h => .inl h.1
  rw [reads.text, whole, List.append_nil]
  exact .mk r.sign marked some reads.magnitude

/-- Digits start with a digit. -/
theorem AmountTo.head (amount : AmountTo radix (c :: digits) n) : ∃ d, IsDigit radix c d := by
  obtain ⟨ds, hds, -⟩ := amount
  cases hds with
  | cons hd _ => exact ⟨_, hd⟩

theorem AmountTo.eq_zero (amount : AmountTo radix [] n) : n = 0 := by
  obtain ⟨ds, hds, rfl⟩ := amount
  cases hds
  rfl

/-- No mark stands at the front of digits. -/
theorem AmountTo.unmarked (amount : AmountTo radix digits n) : ∀ m ∈ marks radix, ¬m <+: digits := by
  rintro m hm ⟨rest, rfl⟩
  obtain ⟨letter, rfl, apart⟩ := letter_of_mem_marks hm
  obtain ⟨ds, hds, -⟩ := amount
  cases hds with
  | cons _ hds =>
      cases hds with
      | cons hd _ => exact apart _ hd

/-- **A NUMERAL IS READ** to its end. -/
theorem Numeral.reads (numeral : Numeral radix cs v) :
    ∃ r : Reading, r.Reads radix cs ∧ r.digits ≠ [] ∧ r.rest = [] ∧
      v = r.sign.applied r.magnitude := by
  obtain ⟨sign, marked, some, amount⟩ := numeral
  rename_i mark digits n
  -- a numeral is a reading with nothing left, so nothing can follow the digits
  refine ⟨⟨sign, mark, digits, [], n⟩, ⟨?_, ?_, ?_, amount, fun c h => nomatch h⟩, some, rfl, rfl⟩
  · rw [List.append_nil]
  · rintro rfl c hc
    obtain ⟨first, rest, rfl⟩ := List.exists_cons_of_ne_nil some
    rcases marked with rfl | hmark
    · obtain ⟨d, digit⟩ := amount.head
      obtain rfl := Option.some.inj hc
      exact digit.not_sign
    · obtain ⟨letter, rfl, -⟩ := letter_of_mem_marks hmark
      obtain rfl := Option.some.inj hc
      rintro (h | h) <;> exact absurd h (by decide)
  · rcases marked with rfl | hmark
    · refine .inr ⟨rfl, ?_⟩
      rw [List.append_nil]
      exact amount.unmarked
    · exact .inl hmark

/-- A text whose reading has no digits or leaves something is no numeral. -/
theorem Reading.Reads.not_numeral {r : Reading} (reads : r.Reads radix cs)
    (garbled : r.digits = [] ∨ r.rest ≠ []) : ¬Numeral radix cs v := by
  intro numeral
  obtain ⟨r', reads', some, whole, -⟩ := numeral.reads
  obtain rfl := reads.unique reads'
  exact garbled.elim some fun left => left whole

end TableCompiler.Number
