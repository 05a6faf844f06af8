import Mathlib.Data.List.Basic
import TableCompiler.Text.Utf8

/-!
# UTF-8 there and back — what is encoded is decoded

A character is written as a lead byte, whose range tells how many continuation bytes follow, and each
of these holds six bits of it.  So a decoder knows where a character ends before it reads the next one
(`decodeChars_append`), and every text is what its bytes decode to (`decode_encode`).
-/

namespace TableCompiler.Text.Utf8

variable {c : Char} {n least : Nat} {rest : List UInt8}

/-! ## Single bytes -/

theorem toNat_ofNat (h : n < 256) : (UInt8.ofNat n).toNat = n := by
  rw [UInt8.toNat_ofNat']
  exact Nat.mod_eq_of_lt h

/-- A continuation byte gives back its six bits. -/
theorem payload_ofNat (h : n < 64) : payload? (UInt8.ofNat (n + 128)) = some n := by
  have hbyte : (UInt8.ofNat (n + 128)).toNat = n + 128 := toNat_ofNat (by omega)
  simp only [payload?, UInt8.le_iff_toNat_le, UInt8.lt_iff_toNat_lt, hbyte, UInt8.reduceToNat]
  rw [decide_eq_true (Nat.le_add_left 128 n), decide_eq_true (by omega : n + 128 < 192)]
  exact congrArg some (Nat.add_sub_cancel n 128)

/-- The code point of a character is no surrogate and within range. -/
theorem scalar_toNat (h : least ≤ c.toNat) : scalar? least c.toNat = some c := by
  have hvalid : c.toNat < 0xD800 ∨ 0xDFFF < c.toNat ∧ c.toNat < 0x110000 := c.valid
  rw [scalar?, if_pos, Char.ofNat_toNat]
  simp only [Bool.and_eq_true, Bool.or_eq_true, decide_eq_true_eq]
  omega

/-! ## Characters -/

theorem decodeChars_one (h : c.toNat < 0x80) :
    decodeChars (UInt8.ofNat c.toNat :: rest) = (decodeChars rest).map (c :: ·) := by
  have hlead : (UInt8.ofNat c.toNat).toNat = c.toNat := toNat_ofNat (by omega)
  rw [decodeChars.eq_def]
  simp only [UInt8.lt_iff_toNat_lt, hlead, UInt8.reduceToNat]
  rw [if_pos h, Char.ofNat_toNat]

/-- A sequence of two bytes holds eleven bits of a code that needs them. -/
theorem decodeChars_two {x y : Nat} (hx : x < 32) (hy : y < 64) (hleast : 0x80 ≤ c.toNat)
    (hcode : c.toNat = x * 64 + y) :
    decodeChars (UInt8.ofNat (x + 192) :: UInt8.ofNat (y + 128) :: rest)
      = (decodeChars rest).map (c :: ·) := by
  have hlead : (UInt8.ofNat (x + 192)).toNat = x + 192 := toNat_ofNat (by omega)
  simp only [decodeChars, UInt8.lt_iff_toNat_lt, hlead, UInt8.reduceToNat, payload_ofNat hy,
    Nat.add_sub_cancel, ← hcode, scalar_toNat hleast]
  rw [if_neg (by omega), if_neg (by omega), if_pos (by omega)]

/-- A sequence of three bytes holds sixteen bits of a code that needs them. -/
theorem decodeChars_three {x y z : Nat} (hx : x < 16) (hy : y < 64) (hz : z < 64)
    (hleast : 0x800 ≤ c.toNat) (hcode : c.toNat = (x * 64 + y) * 64 + z) :
    decodeChars (UInt8.ofNat (x + 224) :: UInt8.ofNat (y + 128) :: UInt8.ofNat (z + 128) :: rest)
      = (decodeChars rest).map (c :: ·) := by
  have hlead : (UInt8.ofNat (x + 224)).toNat = x + 224 := toNat_ofNat (by omega)
  simp only [decodeChars, UInt8.lt_iff_toNat_lt, hlead, UInt8.reduceToNat, payload_ofNat hy,
    payload_ofNat hz, Nat.add_sub_cancel, ← hcode, scalar_toNat hleast]
  rw [if_neg (by omega), if_neg (by omega), if_neg (by omega), if_pos (by omega)]

/-- A sequence of four bytes holds the codes beyond sixteen bits. -/
theorem decodeChars_four {x y z w : Nat} (hx : x < 8) (hy : y < 64) (hz : z < 64) (hw : w < 64)
    (hleast : 0x10000 ≤ c.toNat) (hcode : c.toNat = ((x * 64 + y) * 64 + z) * 64 + w) :
    decodeChars (UInt8.ofNat (x + 240) :: UInt8.ofNat (y + 128) :: UInt8.ofNat (z + 128)
      :: UInt8.ofNat (w + 128) :: rest) = (decodeChars rest).map (c :: ·) := by
  have hlead : (UInt8.ofNat (x + 240)).toNat = x + 240 := toNat_ofNat (by omega)
  simp only [decodeChars, UInt8.lt_iff_toNat_lt, hlead, UInt8.reduceToNat, payload_ofNat hy,
    payload_ofNat hz, payload_ofNat hw, Nat.add_sub_cancel, ← hcode, scalar_toNat hleast]
  rw [if_neg (by omega), if_neg (by omega), if_neg (by omega), if_neg (by omega),
    if_pos (by omega)]

/-- **A CHARACTER IN FRONT** is decoded alone, whatever follows it. -/
theorem decodeChars_append (c : Char) (rest : List UInt8) :
    decodeChars (String.utf8EncodeChar c ++ rest) = (decodeChars rest).map (c :: ·) := by
  have hvalid : c.toNat < 0xD800 ∨ 0xDFFF < c.toNat ∧ c.toNat < 0x110000 := c.valid
  have hcode : c.val.toNat = c.toNat := rfl
  rw [String.utf8EncodeChar, hcode]
  -- the ranges of the code points are those of the lead bytes
  by_cases hone : c.toNat ≤ 127
  · rw [if_pos hone]
    exact decodeChars_one (by omega)
  · rw [if_neg hone]
    by_cases htwo : c.toNat ≤ 2047
    · rw [if_pos htwo]
      exact decodeChars_two (by omega) (by omega) (by omega) (by omega)
    · rw [if_neg htwo]
      by_cases hthree : c.toNat ≤ 65535
      · rw [if_pos hthree]
        exact decodeChars_three (by omega) (by omega) (by omega) (by omega) (by omega)
      · rw [if_neg hthree]
        exact decodeChars_four (by omega) (by omega) (by omega) (by omega) (by omega) (by omega)

/-- Encoded characters are decoded again. -/
theorem decodeChars_encodeChars (cs : List Char) : decodeChars (encodeChars cs) = some cs := by
  induction cs with
  | nil => rfl
  | cons c cs ih =>
      have hcons : encodeChars (c :: cs) = String.utf8EncodeChar c ++ encodeChars cs :=
        List.flatMap_cons
      rw [hcons, decodeChars_append, ih, Option.map_some]

/-- **EVERY TEXT IS DECODED** from its bytes. -/
theorem decode_encode (s : String) : decode (encode s) = some s := by
  rw [decode, encode, decodeChars_encodeChars, Option.map_some, String.ofList_toList]

theorem mapM_decode_encode (texts : List String) : (texts.map encode).mapM decode = some texts := by
  have hsome : decode ∘ encode = fun s => pure (id s) := funext decode_encode
  rw [List.mapM_map, hsome, List.mapM_pure, List.map_id]
  rfl

end TableCompiler.Text.Utf8
