import TableCompiler.Proofs.Column.ConvertDump
import TableCompiler.Proofs.Number.Numeral

/-!
# Integers as text — which number a cell stands for

A cell of integers is read in one pass, and three things can go wrong on the way: a character that is no
digit, a magnitude of more than 128 bits, a number outside the bounds of the width.  What the pass does is
decided by the reading of the text alone (`readMagnitude_of_amount`): the magnitude grows with every digit,
so where the digits in front of a bad character come to too much, this is noticed first.  Hence a cell
becomes a value just if it holds a numeral of a number within the bounds, and every other cell fails for
the reason that its text has (`convertInteger_exact`).
-/

namespace TableCompiler

open TableCompiler.Text TableCompiler.Number

variable {radix n a : Nat} {c : Char} {cs digits rest mark : List Char} {ds : List Nat}
variable {r : Reading} {text : String} {width : StorageWidth} {value : Value} {v low high : Int}

/-! ## Magnitudes -/

/-- Digits only add to a magnitude. -/
theorem le_accumulate (pos : 0 < radix) (a : Nat) (ds : List Nat) : a ≤ accumulate radix a ds := by
  induction ds generalizing a with
  | nil => exact Nat.le_refl a
  | cons d ds ih =>
      have grows : a * 1 ≤ a * radix := Nat.mul_le_mul_left a pos
      have next := ih (a * radix + d)
      rw [accumulate] at next ⊢
      rw [List.foldl_cons]
      omega

/-- **ONE PASS**: digits are added up as long as the magnitude can be told apart, and what comes behind
them is looked at only then. -/
theorem readMagnitude_run (pos : 0 < radix) (run : List.Forall₂ (IsDigit radix) digits ds)
    (stops : ∀ c, rest.head? = some c → ∀ d, ¬IsDigit radix c d) (fits : a ≤ largestMagnitude) :
    readMagnitude radix a (digits ++ rest)
      = if largestMagnitude < accumulate radix a ds then .error .tooLarge
        else if rest = [] then .ok (accumulate radix a ds) else .error .invalidDigit := by
  induction run generalizing a with
  | nil =>
      rw [accumulate, List.foldl_nil, if_neg (Nat.not_lt.mpr fits), List.nil_append]
      cases rest with
      | nil => rfl
      | cons c rest =>
          have none : digitValue? radix c = none := by
            cases hc : digitValue? radix c with
            | none => rfl
            | some d => exact absurd (digitValue?_eq_some_iff.mp hc) (stops c rfl d)
          rw [readMagnitude, none, if_neg (List.cons_ne_nil c rest)]
  | @cons c d digits ds digit _ ih =>
      rw [List.cons_append, readMagnitude, digitValue?_eq_some_iff.mpr digit]
      have hcons : accumulate radix a (d :: ds) = accumulate radix (a * radix + d) ds := rfl
      dsimp only
      rw [hcons]
      split
      case isTrue exceeds =>
        -- the pass stops here, and no digit behind could bring the magnitude down again
        rw [if_pos (Nat.lt_of_lt_of_le exceeds (le_accumulate pos _ ds))]
      case isFalse within => exact ih (Nat.not_lt.mp within)

/-- A run of digits is read to its end, and what follows is looked at only if the amount fits. -/
theorem readMagnitude_of_amount (pos : 0 < radix) (amount : AmountTo radix digits n)
    (stops : ∀ c, rest.head? = some c → ∀ d, ¬IsDigit radix c d) :
    readMagnitude radix 0 (digits ++ rest)
      = if largestMagnitude < n then .error .tooLarge
        else if rest = [] then .ok n else .error .invalidDigit := by
  obtain ⟨ds, run, rfl⟩ := amount
  rw [← accumulate_zero]
  exact readMagnitude_run pos run stops (Nat.zero_le _)

/-- **NOTHING OVERFLOWS** on the way: a magnitude that is gone on with is the exact one, and it can be
told apart. -/
theorem amount_of_readMagnitude (pos : 0 < radix) (h : readMagnitude radix 0 cs = .ok n) :
    AmountTo radix cs n ∧ n ≤ largestMagnitude := by
  obtain ⟨digits, rest, ds, rfl, run, stops⟩ := exists_digits radix cs
  have amount : AmountTo radix digits _ := ⟨ds, run, rfl⟩
  rw [readMagnitude_of_amount pos amount stops] at h
  split at h
  case isTrue => cases h
  case isFalse within =>
    split at h
    case isTrue whole =>
      obtain rfl := Except.ok.inj h
      rw [whole, List.append_nil]
      exact ⟨amount, Nat.not_lt.mp within⟩
    case isFalse => cases h

/-! ## Signs and marks -/

theorem takeSign_of_unsigned (unsigned : ∀ c, cs.head? = some c → ¬IsSign c) :
    takeSign cs = (false, cs) := by
  rw [takeSign]
  · rintro rest rfl
    exact unsigned '-' rfl (.inr rfl)
  · rintro rest rfl
    exact unsigned '+' rfl (.inl rfl)

theorem startsWithSign_of_unsigned (unsigned : ∀ c, cs.head? = some c → ¬IsSign c) :
    startsWithSign cs = false := by
  rw [startsWithSign]
  · rintro rest rfl
    exact unsigned '+' rfl (.inl rfl)
  · rintro rest rfl
    exact unsigned '-' rfl (.inr rfl)

/-- The sign of a reading is the one that is taken off. -/
theorem takeSign_of_reads (reads : r.Reads radix cs) :
    takeSign cs = (decide (r.sign = .minus), r.mark ++ (r.digits ++ r.rest)) := by
  have unsigned := reads.sign
  rw [reads.text] at unsigned ⊢
  cases hsign : r.sign with
  | none =>
      rw [hsign] at unsigned
      exact takeSign_of_unsigned (unsigned rfl)
  | plus => rfl
  | minus => rfl

/-- The marks of a radix are a zero and a letter. -/
theorem marks_eq (radix : Nat) : marks radix = (radixMarks radix).map fun c => ['0', c] := by
  unfold marks radixMarks
  split
  case h_1 => rfl
  case h_2 => rfl
  case h_3 => rfl
  case h_4 two eight sixteen => rw [if_neg two, if_neg eight, if_neg sixteen, List.map_nil]

theorem dropRadixMark_mark (h : mark ∈ marks radix) : dropRadixMark radix (mark ++ rest) = rest := by
  rw [marks_eq] at h
  obtain ⟨letter, hletter, rfl⟩ := List.mem_map.mp h
  show dropRadixMark radix ('0' :: letter :: rest) = rest
  rw [dropRadixMark, if_pos (List.contains_iff_mem.mpr hletter)]

theorem dropRadixMark_unmarked (unmarked : ∀ m ∈ marks radix, ¬m <+: cs) :
    dropRadixMark radix cs = cs := by
  rw [dropRadixMark.eq_def]
  split
  case h_1 letter rest =>
    split
    case isTrue contained =>
      have marked : ['0', letter] ∈ marks radix := by
        rw [marks_eq]
        exact List.mem_map_of_mem (List.contains_iff_mem.mp contained)
      exact absurd ⟨rest, rfl⟩ (unmarked _ marked)
    case isFalse => rfl
  case h_2 => rfl

/-- What is dropped is the mark of the reading. -/
theorem dropRadixMark_of_reads (reads : r.Reads radix cs) :
    dropRadixMark radix (r.mark ++ (r.digits ++ r.rest)) = r.digits ++ r.rest := by
  rcases reads.mark with marked | ⟨none, unmarked⟩
  · exact dropRadixMark_mark marked
  · rw [none, List.nil_append]
    exact dropRadixMark_unmarked unmarked

/-! ## Cells -/

section Reads

variable (pos : 0 < radix)
variable (reads : r.Reads radix (trim text.toList))
include pos reads

/-- A text with digits is decided by what its digits amount to and by whether anything is left. -/
theorem convertInteger_of_digits (some : r.digits ≠ []) :
    convertInteger text radix width
      = if largestMagnitude < r.magnitude then
          .error ⟨if r.sign = .minus then .underflow else .overflow, text, "exceeds 128 bits"⟩
        else if r.rest = [] then checkInteger text width (r.sign.applied r.magnitude)
        else .error ⟨.invalidNumber, text, "invalid digit found in string"⟩ := by
  -- what stands behind sign and mark begins with a digit, so it is no second sign
  have unsigned : startsWithSign (r.digits ++ r.rest) = false := by
    apply startsWithSign_of_unsigned
    intro c hc
    have amount := reads.magnitude
    obtain ⟨first, others, hdigits⟩ := List.exists_cons_of_ne_nil some
    rw [hdigits] at hc amount
    obtain ⟨d, digit⟩ := amount.head
    obtain rfl := Option.some.inj hc
    exact digit.not_sign
  have filled : (r.digits ++ r.rest).isEmpty = false := by
    rw [List.isEmpty_eq_false_iff]
    exact List.append_ne_nil_of_left_ne_nil some r.rest
  simp only [convertInteger, takeSign_of_reads reads, dropRadixMark_of_reads reads, unsigned, filled,
    readMagnitude_of_amount pos reads.magnitude reads.stops, Bool.false_eq_true, if_false,
    decide_eq_true_eq]
  by_cases exceeds : largestMagnitude < r.magnitude
  · simp only [if_pos exceeds]
  · by_cases whole : r.rest = []
    · simp only [if_neg exceeds, if_pos whole]
      cases r.sign <;> rfl
    · simp only [if_neg exceeds, if_neg whole]

/-- A text without digits is no number. -/
theorem convertInteger_of_no_digits (none : r.digits = []) :
    ∃ memo, convertInteger text radix width = .error ⟨.invalidNumber, text, memo⟩ := by
  have hrest := readMagnitude_of_amount pos reads.magnitude reads.stops
  have amount := reads.magnitude
  rw [none] at amount
  have zero : r.magnitude = 0 := amount.eq_zero
  have hdrop := dropRadixMark_of_reads reads
  rw [none, zero, List.nil_append, if_neg (Nat.not_lt_zero _)] at hrest
  rw [none, List.nil_append] at hdrop
  simp only [convertInteger, takeSign_of_reads reads, none, List.nil_append, hdrop]
  -- three tests stand in front of an empty run, and each of them refuses
  split
  case isTrue => exact ⟨_, rfl⟩
  case isFalse =>
    split
    case isTrue => exact ⟨_, rfl⟩
    case isFalse filled =>
      have left : r.rest ≠ [] := fun h => filled (List.isEmpty_iff.mpr h)
      rw [hrest, if_neg left]
      exact ⟨_, rfl⟩

/-- **A TEXT THAT IS NO NUMERAL** fails: it is no number, unless its digits in front of the first bad
character come to too much already. -/
theorem convertInteger_garbled (width : StorageWidth) (garbled : r.digits = [] ∨ r.rest ≠ []) :
    ∃ memo, convertInteger text radix width
      = .error ⟨if r.magnitude ≤ largestMagnitude then .invalidNumber
          else if r.sign = .minus then .underflow else .overflow, text, memo⟩ := by
  by_cases none : r.digits = []
  · have zero : r.magnitude = 0 := by
      have amount := reads.magnitude
      rw [none] at amount
      exact amount.eq_zero
    rw [zero, if_pos (Nat.zero_le _)]
    exact convertInteger_of_no_digits pos reads none
  · have left : r.rest ≠ [] := garbled.resolve_left none
    rw [convertInteger_of_digits pos reads none, if_neg left]
    by_cases within : r.magnitude ≤ largestMagnitude
    · rw [if_neg (Nat.not_lt.mpr within), if_pos within]
      exact ⟨_, rfl⟩
    · rw [if_pos (Nat.not_le.mp within), if_neg within]
      exact ⟨_, rfl⟩

end Reads

/-! ## Bounds -/

/-- A value holds an integer in the way of a width, unsigned or signed. -/
inductive StorageWidth.Holds (width : StorageWidth) : Value → Int → Prop where
  | unsigned (n : UInt64) : width.isUnsigned = true → Holds width (.uint n) n.toNat
  | signed (n : Int64) : width.isUnsigned = false → Holds width (.int n) n.toInt

/-- **NOTHING IS LOST** when an integer within the bounds becomes a value. -/
theorem holds_iff (bounds : width.intBounds? = some (low, high)) (hlow : low ≤ v) (hhigh : v ≤ high) :
    width.Holds value v ↔ value = integerValue width v := by
  have exact' := asInt?_integerValue bounds hlow hhigh
  constructor
  · rintro (⟨n, unsigned⟩ | ⟨n, signed⟩)
    · rw [integerValue, if_pos unsigned, Int.toNat_natCast, UInt64.ofNat_toNat]
    · rw [integerValue, if_neg (Bool.eq_false_iff.mp signed), Int64.ofInt_toInt]
  -- the value that is made has the number back, and it is of the kind of the width
  · rintro rfl
    rw [integerValue] at exact' ⊢
    split
    case isTrue unsigned =>
      rw [if_pos unsigned] at exact'
      have held := StorageWidth.Holds.unsigned (UInt64.ofNat v.toNat) unsigned
      rwa [Option.some.inj exact'] at held
    case isFalse signed =>
      rw [if_neg signed] at exact'
      have held := StorageWidth.Holds.signed (Int64.ofInt v) (Bool.eq_false_iff.mpr signed)
      rwa [Option.some.inj exact'] at held

/-- The bounds of every width lie within what can be told apart. -/
theorem bounds_within (bounds : width.intBounds? = some (low, high)) :
    -(largestMagnitude : Int) ≤ low ∧ low ≤ high ∧ high ≤ largestMagnitude := by
  cases width with
  | f32 => cases bounds
  | f64 => cases bounds
  | fixed _ => cases bounds
  | unbounded => cases bounds
  | _ =>
      obtain ⟨rfl, rfl⟩ := Prod.mk.inj (Option.some.inj bounds)
      decide

/-- A number within the bounds of the width becomes its value. -/
theorem checkInteger_within (bounds : width.intBounds? = some (low, high)) (hlow : low ≤ v)
    (hhigh : v ≤ high) : checkInteger text width v = .ok (integerValue width v) := by
  simp only [checkInteger, convertBounds, bounds, Option.getD_some, if_neg (Int.not_lt.mpr hlow),
    if_neg (Int.not_lt.mpr hhigh)]

/-- A number below the bounds is an underflow that names the lower one. -/
theorem checkInteger_below (bounds : width.intBounds? = some (low, high)) (below : v < low) :
    checkInteger text width v = .error ⟨.underflow, text, "< " ++ toString low⟩ := by
  simp only [checkInteger, convertBounds, bounds, Option.getD_some, if_pos below]

/-- A number above the bounds is an overflow that names the upper one. -/
theorem checkInteger_above (bounds : width.intBounds? = some (low, high)) (above : high < v) :
    checkInteger text width v = .error ⟨.overflow, text, "> " ++ toString high⟩ := by
  have inOrder := (bounds_within bounds).2.1
  simp only [checkInteger, convertBounds, bounds, Option.getD_some, if_neg (by omega : ¬v < low),
    if_pos above]

/-- The number of a sign and a magnitude is as large as the magnitude. -/
theorem natAbs_applied (sign : Sign) (n : Nat) : (sign.applied n).natAbs = n := by
  cases sign with
  | minus => exact Int.natAbs_neg n
  | _ => rfl

/-! ## Numerals -/

section Numerals

variable (pos : 0 < radix)
include pos

/-- A numeral is decided by its number: what cannot be told apart is outside the bounds anyway. -/
theorem convertInteger_numeral (width : StorageWidth) (numeral : Numeral radix (trim text.toList) v) :
    convertInteger text radix width = checkInteger text width v ∨
      (largestMagnitude < v.natAbs ∧ convertInteger text radix width
        = .error ⟨if v < 0 then .underflow else .overflow, text, "exceeds 128 bits"⟩) := by
  obtain ⟨r, reads, some, whole, rfl⟩ := numeral.reads
  rw [convertInteger_of_digits pos reads some, if_pos whole, natAbs_applied]
  by_cases exceeds : largestMagnitude < r.magnitude
  · have negative : r.sign.applied r.magnitude < 0 ↔ r.sign = .minus := by
      cases r.sign with
      | minus => exact iff_of_true (Int.neg_neg_of_pos (by omega)) rfl
      | none => exact iff_of_false (Int.not_lt.mpr (Int.natCast_nonneg _)) (fun h => nomatch h)
      | plus => exact iff_of_false (Int.not_lt.mpr (Int.natCast_nonneg _)) (fun h => nomatch h)
    rw [if_pos exceeds]
    simp only [negative]
    exact .inr ⟨exceeds, trivial⟩
  · rw [if_neg exceeds]
    exact .inl rfl

/-- **A NUMERAL WITHIN THE BOUNDS** becomes the value of its number. -/
theorem convertInteger_within (bounds : width.intBounds? = some (low, high))
    (numeral : Numeral radix (trim text.toList) v) (hlow : low ≤ v) (hhigh : v ≤ high) :
    convertInteger text radix width = .ok (integerValue width v) := by
  have wide := bounds_within bounds
  rcases convertInteger_numeral pos width numeral with checked | ⟨exceeds, -⟩
  · rw [checked, checkInteger_within bounds hlow hhigh]
  · omega

/-- **A NUMERAL ABOVE THE BOUNDS** overflows, however long it is. -/
theorem convertInteger_above (bounds : width.intBounds? = some (low, high))
    (numeral : Numeral radix (trim text.toList) v) (above : high < v) :
    ∃ memo, convertInteger text radix width = .error ⟨.overflow, text, memo⟩ := by
  have wide := bounds_within bounds
  rcases convertInteger_numeral pos width numeral with checked | ⟨exceeds, exceeded⟩
  · exact ⟨_, checked.trans (checkInteger_above bounds above)⟩
  · rw [if_neg (by omega)] at exceeded
    exact ⟨_, exceeded⟩

/-- **A NUMERAL BELOW THE BOUNDS** underflows, however long it is. -/
theorem convertInteger_below (bounds : width.intBounds? = some (low, high))
    (numeral : Numeral radix (trim text.toList) v) (below : v < low) :
    ∃ memo, convertInteger text radix width = .error ⟨.underflow, text, memo⟩ := by
  have wide := bounds_within bounds
  rcases convertInteger_numeral pos width numeral with checked | ⟨exceeds, exceeded⟩
  · exact ⟨_, checked.trans (checkInteger_below bounds below)⟩
  · rw [if_pos (by omega)] at exceeded
    exact ⟨_, exceeded⟩

/-- What becomes a value was a numeral. -/
theorem numeral_of_convertInteger (bounds : width.intBounds? = some (low, high))
    (converted : convertInteger text radix width = .ok value) :
    ∃ v, Numeral radix (trim text.toList) v ∧ low ≤ v ∧ v ≤ high ∧ value = integerValue width v := by
  obtain ⟨r, reads⟩ := exists_reads radix (trim text.toList)
  by_cases garbled : r.digits = [] ∨ r.rest ≠ []
  · obtain ⟨memo, failed⟩ := convertInteger_garbled pos reads width garbled
    cases failed.symm.trans converted
  · rw [not_or, not_not] at garbled
    have numeral := reads.numeral garbled.1 garbled.2
    rcases convertInteger_numeral pos width numeral with checked | ⟨-, exceeded⟩
    · obtain ⟨hlow, hhigh, hvalue⟩ := checkInteger_ok bounds (checked.symm.trans converted)
      exact ⟨_, numeral, hlow, hhigh, hvalue⟩
    · cases exceeded.symm.trans converted

end Numerals

/-- 128 bits hold a number with its sign. -/
def Fits128 (n : Int) : Prop :=
  -2 ^ 127 ≤ n ∧ n < 2 ^ 127

/-- **CELLS OF INTEGERS** become values just if they hold numerals of numbers within the bounds, and then
the values of these numbers.  Numerals above the bounds overflow and numerals below them underflow.
What is no numeral is an invalid number, unless the digits in front of its first bad character come to
more than 128 bits hold.  The magnitudes on the way are the exact ones, and fit with either sign. -/
theorem convertInteger_exact (atLeast : 2 ≤ radix) (bounds : width.intBounds? = some (low, high))
    (text : String) :
    (∀ value, convertInteger text radix width = .ok value ↔
        ∃ v, Numeral radix (trim text.toList) v ∧ low ≤ v ∧ v ≤ high ∧ width.Holds value v) ∧
      (∀ v, Numeral radix (trim text.toList) v → high < v →
        ∃ memo, convertInteger text radix width = .error ⟨.overflow, text, memo⟩) ∧
      (∀ v, Numeral radix (trim text.toList) v → v < low →
        ∃ memo, convertInteger text radix width = .error ⟨.underflow, text, memo⟩) ∧
      (∃ r : Reading, r.Reads radix (trim text.toList)) ∧
      (∀ r : Reading, r.Reads radix (trim text.toList) →
        (∀ v, ¬Numeral radix (trim text.toList) v) →
        ∃ memo, convertInteger text radix width
          = .error ⟨if r.magnitude ≤ largestMagnitude then .invalidNumber
              else if r.sign = .minus then .underflow else .overflow, text, memo⟩) ∧
      ∀ digits n, readMagnitude radix 0 digits = .ok n →
        AmountTo radix digits n ∧ Fits128 n ∧ Fits128 (-n) := by
  have pos : 0 < radix := Nat.lt_of_lt_of_le (by decide) atLeast
  refine ⟨fun value => ⟨fun converted => ?_, ?_⟩, ?_, ?_, exists_reads radix _, ?_, ?_⟩
  · obtain ⟨v, numeral, hlow, hhigh, hvalue⟩ :=
      numeral_of_convertInteger pos bounds converted
    exact ⟨v, numeral, hlow, hhigh, (holds_iff bounds hlow hhigh).mpr hvalue⟩
  · rintro ⟨v, numeral, hlow, hhigh, held⟩
    rw [(holds_iff bounds hlow hhigh).mp held]
    exact convertInteger_within pos bounds numeral hlow hhigh
  · exact fun v => convertInteger_above pos bounds
  · exact fun v => convertInteger_below pos bounds
  -- either there is no digit, or something stands behind the digits
  · intro r reads none
    refine convertInteger_garbled pos reads width ?_
    by_cases empty : r.digits = []
    · exact .inl empty
    · exact .inr fun whole => none _ (reads.numeral empty whole)
  · intro digits n h
    obtain ⟨amount, within⟩ := amount_of_readMagnitude pos h
    have within : (n : Int) ≤ 170141183460469231731687303715884105727 := by
      exact_mod_cast within
    refine ⟨amount, ⟨?_, ?_⟩, ?_, ?_⟩ <;> omega

/-- Digits that come to one more than 128 bits hold, behind a mark, and a letter that is no digit. -/
def garbledReading : Reading :=
  ⟨.minus, ['0', 'X'], '8' :: List.replicate 31 '0', ['g'], 2 ^ 127⟩

/-- The garbled text read: a sign, a mark, digits beyond 128 bits, and a letter that is no digit. -/
theorem reads_garbledReading :
    garbledReading.Reads 16 (trim " -0X80000000000000000000000000000000g".toList) where
  text := by decide
  sign := fun h => nomatch h
  mark := .inl (by decide)
  magnitude := ⟨8 :: List.replicate 31 0, by decide, by decide +kernel⟩
  stops := by
    have letter : ∀ d < 16, ¬IsDigit 16 'g' d := by decide
    intro c hc d digit
    obtain rfl := Option.some.inj hc
    exact letter d digit.1 digit

/-- A marked number with a sign, a number below a byte, and digits beyond 128 bits in front of a
letter. -/
theorem convertInteger_exact_hexadecimal :
    2 ≤ 16 ∧ StorageWidth.i8.intBounds? = some (-128, 127) ∧
      convertInteger "+0x7f\u3000" 16 .i8 = .ok (.int 127) ∧
      (∃ memo, convertInteger "-081" 16 .i8 = .error ⟨.underflow, "-081", memo⟩) ∧
      ∃ memo, convertInteger " -0X80000000000000000000000000000000g" 16 .i8
        = .error ⟨.underflow, " -0X80000000000000000000000000000000g", memo⟩ := by
  have atLeast : 2 ≤ 16 := by decide
  have bounds : StorageWidth.i8.intBounds? = some (-128, 127) := rfl
  refine ⟨atLeast, bounds, ?_, ?_, ?_⟩
  · have numeral : Numeral 16 (trim "+0x7f\u3000".toList) 127 :=
      @Numeral.mk 16 .plus ['0', 'x'] ['7', 'f'] 127 (.inr (by decide)) (by decide)
        ⟨[7, 15], by decide, by decide⟩
    have held : StorageWidth.i8.Holds (.int 127) 127 := .signed 127 rfl
    exact ((convertInteger_exact atLeast bounds "+0x7f\u3000").1 _).mpr
      ⟨127, numeral, by decide, by decide, held⟩
  · have numeral : Numeral 16 (trim "-081".toList) (-129) :=
      @Numeral.mk 16 .minus [] ['0', '8', '1'] 129 (.inl rfl) (by decide)
        ⟨[0, 8, 1], by decide, by decide⟩
    exact (convertInteger_exact atLeast bounds "-081").2.2.1 _ numeral (by decide)
  · have none : ∀ v, ¬Numeral 16 (trim " -0X80000000000000000000000000000000g".toList) v :=
      fun _ => reads_garbledReading.not_numeral (.inr (by decide))
    exact (convertInteger_exact atLeast bounds _).2.2.2.2.1 _ reads_garbledReading none

end TableCompiler
