import TableCompiler.Proofs.Column.IntegerText
import TableCompiler.Proofs.Text.Blank

/-!
# Words — 32-bit numbers as text and as bytes

Hashes are written in decimal for people and in four bytes for programs.  The decimal text of a number
is a numeral of it (`numeral_toString`), so a word is read back from that text (`convertInteger_word`),
and its value is written in its four bytes, least significant first (`dumpInteger_wordLittle`).
-/

namespace TableCompiler

open TableCompiler.Text TableCompiler.Number

variable {c : Char} {n : Nat}

/-! ## Digits -/

theorem not_sign_of_isDigit (h : c.isDigit = true) : c ≠ '+' ∧ c ≠ '-' := by
  constructor
  · rintro rfl
    exact absurd h (by decide)
  · rintro rfl
    exact absurd h (by decide)

/-! ## Numbers as text -/

theorem toList_toString (n : Nat) : (toString n).toList = Nat.toDigits 10 n := by
  rw [Nat.toString_eq_repr, Nat.toList_repr]

theorem isDigit_of_mem_toString (h : c ∈ (toString n).toList) : c.isDigit = true := by
  rw [toList_toString] at h
  exact Nat.isDigit_of_mem_toDigits (by decide) (by decide) h

/-- The decimal text of a number is a numeral of it. -/
theorem numeral_toString (n : Nat) : Numeral 10 (trim (toString n).toList) n := by
  have solid : trim (toString n).toList = Nat.toDigits 10 n := by
    refine (trim_of_isBlank_eq_false fun c hc => ?_).trans (toList_toString n)
    exact isBlank_of_isDigit (isDigit_of_mem_toString hc)
  rw [solid]
  exact .mk .none (.inl rfl) Nat.toDigits_ne_nil (amountTo_toDigits n)

/-- **THE DECIMAL TEXT** of a word is read back as that word. -/
theorem convertInteger_word (x : UInt32) :
    convertInteger (toString x.toNat) 10 .u32 = .ok (.uint x.toUInt64) := by
  have value : integerValue .u32 x.toNat = .uint x.toUInt64 := by
    rw [integerValue, StorageWidth.isUnsigned, if_pos rfl, Int.toNat_natCast,
      UInt64.ofNat_uInt32ToNat]
  have hx : x.toNat < 4294967296 := x.toNat_lt
  rw [← value]
  exact convertInteger_within (by decide) rfl (numeral_toString x.toNat) (Int.natCast_nonneg _)
    (by omega)

/-! ## Numbers as bytes -/

/-- A word is stored in its four bytes, the low one first. -/
theorem littleBytes_word (x : UInt32) : Hash.littleBytes 4 x.toNat = Hash.wordLittle x := by
  have hbyte : ∀ i < 4, UInt8.ofNat (x.toNat / Nat.pow 256 i % 256)
      = (x >>> UInt32.ofNat (8 * i)).toUInt8 := by
    intro i hi
    apply UInt8.toNat.inj
    have hshift : 8 * i % 4294967296 % 32 = 8 * i := by omega
    have hpow : 256 ^ i = 2 ^ (8 * i) := (Nat.pow_mul 2 8 i).symm
    simp [hshift, hpow, Nat.shiftRight_eq_div_pow]
  have hzero : x >>> UInt32.ofNat 0 = x := UInt32.shiftRight_zero
  rw [Hash.littleBytes, Hash.wordLittle]
  simp only [List.range, List.range.loop, List.map_cons, List.map_nil, hbyte 0 (by decide),
    hbyte 1 (by decide), hbyte 2 (by decide), hbyte 3 (by decide)]
  rw [Nat.mul_zero, hzero]
  rfl

theorem length_wordLittle (x : UInt32) : (Hash.wordLittle x).length = 4 := rfl

/-- **THE BYTES OF A WORD** are what a value of it is dumped to. -/
theorem dumpInteger_wordLittle (x : UInt32) :
    dumpInteger (.uint x.toUInt64) .u32 = .ok (Hash.wordLittle x) := by
  have hx : x.toNat < 4294967296 := x.toNat_lt
  have hrange : (0 ≤ (x.toNat : Int) && (x.toNat : Int) ≤ 4294967295) = true := by
    rw [Bool.and_eq_true, decide_eq_true_eq, decide_eq_true_eq]
    omega
  have hmod : ((x.toNat : Int) % (Nat.pow 256 4 : Nat)).toNat = x.toNat := by
    show ((x.toNat : Int) % 4294967296).toNat = x.toNat
    omega
  simp only [dumpInteger, Value.asInt?, StorageWidth.intBounds?, StorageWidth.byteLen?,
    UInt32.toNat_toUInt64, hrange, if_true, twosComplement]
  rw [hmod, littleBytes_word]

end TableCompiler
