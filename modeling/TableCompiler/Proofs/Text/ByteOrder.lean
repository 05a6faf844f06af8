import Mathlib.Tactic.SplitIfs
import TableCompiler.Proofs.Text.Utf8

/-!
# The order of texts — by characters or by bytes, the same

Texts are ordered by their first difference.  It makes none whether they are taken character by character
or byte by byte (`encode_lt_encode_iff`): a longer sequence has a larger lead byte, and in sequences of one
length the bytes hold the digits of the code point, the highest ones first (`utf8EncodeChar_lt`).
-/

namespace TableCompiler.Text.Utf8

variable {a b x y z w x' y' z' w' : Nat} {rest rest' : List UInt8} {cs ds : List Char}

theorem ofNat_cons_lt_iff (ha : a < 256) (hb : b < 256) :
    UInt8.ofNat a :: rest < UInt8.ofNat b :: rest' ↔ a < b ∨ a = b ∧ rest < rest' := by
  rw [List.cons_lt_cons_iff, UInt8.lt_iff_toNat_lt, ← UInt8.toNat_inj, toNat_ofNat ha,
    toNat_ofNat hb]

/-- A smaller lead byte decides. -/
theorem lt_of_lead (h : a < b) (hb : b < 256) :
    UInt8.ofNat a :: rest < UInt8.ofNat b :: rest' :=
  (ofNat_cons_lt_iff (Nat.lt_trans h hb) hb).mpr (.inl h)

/-- Two-byte sequences compare as the codes they hold. -/
theorem two_lt (hx : x < 32) (hy : y < 64) (hx' : x' < 32) (hy' : y' < 64)
    (h : x * 64 + y < x' * 64 + y') :
    UInt8.ofNat (x + 192) :: UInt8.ofNat (y + 128) :: rest
      < UInt8.ofNat (x' + 192) :: UInt8.ofNat (y' + 128) :: rest' := by
  simp (disch := omega) only [ofNat_cons_lt_iff]
  omega

/-- Three-byte sequences compare as the codes they hold. -/
theorem three_lt (hx : x < 16) (hy : y < 64) (hz : z < 64) (hx' : x' < 16) (hy' : y' < 64)
    (hz' : z' < 64) (h : (x * 64 + y) * 64 + z < (x' * 64 + y') * 64 + z') :
    UInt8.ofNat (x + 224) :: UInt8.ofNat (y + 128) :: UInt8.ofNat (z + 128) :: rest
      < UInt8.ofNat (x' + 224) :: UInt8.ofNat (y' + 128) :: UInt8.ofNat (z' + 128) :: rest' := by
  simp (disch := omega) only [ofNat_cons_lt_iff]
  omega

/-- Four-byte sequences compare as the codes they hold. -/
theorem four_lt (hx : x < 8) (hy : y < 64) (hz : z < 64) (hw : w < 64) (hx' : x' < 8)
    (hy' : y' < 64) (hz' : z' < 64) (hw' : w' < 64)
    (h : ((x * 64 + y) * 64 + z) * 64 + w < ((x' * 64 + y') * 64 + z') * 64 + w') :
    UInt8.ofNat (x + 240) :: UInt8.ofNat (y + 128) :: UInt8.ofNat (z + 128)
        :: UInt8.ofNat (w + 128) :: rest
      < UInt8.ofNat (x' + 240) :: UInt8.ofNat (y' + 128) :: UInt8.ofNat (z' + 128)
        :: UInt8.ofNat (w' + 128) :: rest' := by
  simp (disch := omega) only [ofNat_cons_lt_iff]
  omega

/-- **A SMALLER CHARACTER** has smaller bytes, whatever follows. -/
theorem utf8EncodeChar_lt {c d : Char} (h : c < d) :
    String.utf8EncodeChar c ++ rest < String.utf8EncodeChar d ++ rest' := by
  have hcode : c.val.toNat < d.val.toNat := UInt32.lt_iff_toNat_lt.mp (Char.lt_def.mp h)
  have hd : d.val.toNat < 0xD800 ∨ 0xDFFF < d.val.toNat ∧ d.val.toNat < 0x110000 := d.valid
  rw [String.utf8EncodeChar, String.utf8EncodeChar]
  generalize c.val.toNat = n at hcode ⊢
  generalize d.val.toNat = m at hcode hd ⊢
  -- in each range the bytes hold digits, and the ranges above it have larger lead bytes
  by_cases hone : n ≤ 127
  · rw [if_pos hone]
    split_ifs <;> exact lt_of_lead (by omega) (by omega)
  · rw [if_neg hone, if_neg (by omega : ¬m ≤ 127)]
    by_cases htwo : n ≤ 2047
    · rw [if_pos htwo]
      split_ifs
      · exact two_lt (by omega) (by omega) (by omega) (by omega) (by omega)
      · exact lt_of_lead (by omega) (by omega)
      · exact lt_of_lead (by omega) (by omega)
    · rw [if_neg htwo, if_neg (by omega : ¬m ≤ 2047)]
      by_cases hthree : n ≤ 65535
      · rw [if_pos hthree]
        split_ifs
        · exact three_lt (by omega) (by omega) (by omega) (by omega) (by omega) (by omega)
            (by omega)
        · exact lt_of_lead (by omega) (by omega)
      · rw [if_neg hthree, if_neg (by omega : ¬m ≤ 65535)]
        exact four_lt (by omega) (by omega) (by omega) (by omega) (by omega) (by omega)
          (by omega) (by omega) (by omega)

/-- **BYTES ARE IN THE ORDER OF TEXTS**: a smaller text has smaller bytes. -/
theorem encodeChars_lt (h : cs < ds) : encodeChars cs < encodeChars ds := by
  induction cs generalizing ds with
  | nil =>
      cases ds with
      | nil => exact absurd h (List.lt_irrefl [])
      | cons d ds =>
          cases hbytes : encodeChars (d :: ds) with
          | nil =>
              have hnone := decodeChars_encodeChars (d :: ds)
              rw [hbytes] at hnone
              cases hnone
          | cons byte bytes => exact List.nil_lt_cons byte bytes
  | cons c cs ih =>
      cases ds with
      | nil => exact absurd h (List.not_lt_nil _)
      | cons d ds =>
          show String.utf8EncodeChar c ++ encodeChars cs < String.utf8EncodeChar d ++ encodeChars ds
          -- either the first characters decide, by their bytes, or those behind them do
          rcases List.cons_lt_cons_iff.mp h with hlt | ⟨rfl, hlt⟩
          · exact utf8EncodeChar_lt hlt
          · exact List.append_left_lt (ih hlt)

/-- **TEXTS ARE ORDERED** like their bytes. -/
theorem encode_lt_encode_iff {s t : String} : encode s < encode t ↔ s < t := by
  constructor
  · intro h
    apply Decidable.byContradiction
    intro notBefore
    rcases List.le_iff_lt_or_eq.mp (String.not_lt.mp notBefore) with hlt | heq
    · exact List.lt_asymm h (encodeChars_lt hlt)
    · rw [String.toList_injective heq] at h
      exact List.lt_irrefl _ h
  · intro h
    exact encodeChars_lt h

end TableCompiler.Text.Utf8
