import TableCompiler.Proofs.Text.Utf8
import TableCompiler.Text.Utf16

/-!
# UTF-16 there and back — what is written in code units is read

A unit outside the surrogates is a character of its own; a high surrogate holds the upper ten bits of a
character above U+FFFF and a low surrogate the lower ten.  So one unit tells whether a second one
belongs to it (`decodeUnits_append`), and every text is what its bytes decode to (`decode_encode`).
-/

namespace TableCompiler.Text.Utf16

variable {c : Char} {u : UInt16} {rest : List UInt16}

/-- A unit that is a character of its own. -/
def isLone (u : UInt16) : Bool :=
  u.toNat < 0xD800 || 0xE000 ≤ u.toNat

/-- The character of a surrogate pair. -/
def ofPair? (high low : UInt16) : Option Char :=
  if high.toNat < 0xDC00 && 0xDC00 ≤ low.toNat && low.toNat < 0xE000 then
    some (Char.ofNat (0x10000 + (high.toNat - 0xD800) * 0x400 + (low.toNat - 0xDC00)))
  else none

/-- Reads characters until the units end; `none` if a surrogate has no partner. -/
def decodeUnits : List UInt16 → Option (List Char)
  | [] => some []
  | u :: rest =>
    if isLone u then (decodeUnits rest).map (Char.ofNat u.toNat :: ·)
    else match rest with
      | [] => none
      | low :: rest =>
        match ofPair? u low with
        | none => none
        | some c => (decodeUnits rest).map (c :: ·)

/-- The units that bytes hold in pairs, the low byte first. -/
def unitsOf : List UInt8 → Option (List UInt16)
  | [] => some []
  | [_] => none
  | low :: high :: rest => (unitsOf rest).map (UInt16.ofNat (low.toNat + 256 * high.toNat) :: ·)

/-- The text that the bytes encode; `none` if they are not UTF-16. -/
def decode (bytes : List UInt8) : Option String :=
  ((unitsOf bytes).bind decodeUnits).map String.ofList

/-! ## Units -/

/-- A unit that is no surrogate is a character of its own. -/
theorem decodeUnits_lone (h : isLone u = true) :
    decodeUnits (u :: rest) = (decodeUnits rest).map (Char.ofNat u.toNat :: ·) := by
  rw [decodeUnits.eq_def]
  simp only [h, if_true]

theorem decodeUnits_pair {high low : UInt16} (hhigh : isLone high = false)
    (hpair : ofPair? high low = some c) :
    decodeUnits (high :: low :: rest) = (decodeUnits rest).map (c :: ·) := by
  rw [decodeUnits]
  simp only [hhigh, Bool.false_eq_true, if_false, hpair]

theorem toNat_ofNat {n : Nat} (h : n < 65536) : (UInt16.ofNat n).toNat = n := by
  rw [UInt16.toNat_ofNat']
  exact Nat.mod_eq_of_lt h

/-- **A CHARACTER IN FRONT** is decoded alone, whatever follows it. -/
theorem decodeUnits_append (c : Char) (rest : List UInt16) :
    decodeUnits (encodeChar c ++ rest) = (decodeUnits rest).map (c :: ·) := by
  have hvalid : c.toNat < 0xD800 ∨ 0xDFFF < c.toNat ∧ c.toNat < 0x110000 := c.valid
  rw [encodeChar]
  by_cases hbasic : c.toNat < 0x10000
  · have hunit : (UInt16.ofNat c.toNat).toNat = c.toNat := toNat_ofNat hbasic
    have hlone : isLone (UInt16.ofNat c.toNat) = true := by
      rw [isLone, hunit, Bool.or_eq_true, decide_eq_true_eq, decide_eq_true_eq]
      omega
    rw [if_pos hbasic, List.singleton_append, decodeUnits_lone hlone, hunit, Char.ofNat_toNat]
  · rw [if_neg hbasic, List.cons_append, List.singleton_append]
    have hhigh : (UInt16.ofNat (0xD800 + (c.toNat - 0x10000) / 0x400)).toNat
        = 0xD800 + (c.toNat - 0x10000) / 0x400 := toNat_ofNat (by omega)
    have hlow : (UInt16.ofNat (0xDC00 + (c.toNat - 0x10000) % 0x400)).toNat
        = 0xDC00 + (c.toNat - 0x10000) % 0x400 := toNat_ofNat (by omega)
    -- the two surrogates are told apart by their ranges, and together hold all twenty bits
    refine decodeUnits_pair ?_ ?_
    · rw [isLone, hhigh, Bool.or_eq_false_iff, decide_eq_false_iff_not, decide_eq_false_iff_not]
      omega
    · have hcode : 0x10000 + (0xD800 + (c.toNat - 0x10000) / 0x400 - 0xD800) * 0x400
          + (0xDC00 + (c.toNat - 0x10000) % 0x400 - 0xDC00) = c.toNat := by omega
      rw [ofPair?, hhigh, hlow, if_pos, hcode, Char.ofNat_toNat]
      rw [Bool.and_eq_true, Bool.and_eq_true, decide_eq_true_eq, decide_eq_true_eq,
        decide_eq_true_eq]
      omega

/-- Encoded characters are decoded again. -/
theorem decodeUnits_flatMap (cs : List Char) : decodeUnits (cs.flatMap encodeChar) = some cs := by
  induction cs with
  | nil => rfl
  | cons c cs ih => rw [List.flatMap_cons, decodeUnits_append, ih, Option.map_some]

/-! ## Bytes -/

/-- The bytes of units are those units. -/
theorem unitsOf_flatMap (us : List UInt16) : unitsOf (us.flatMap littleEndian) = some us := by
  induction us with
  | nil => rfl
  | cons u us ih =>
      have hu : u.toNat < 65536 := u.toNat_lt
      have hlow : (UInt8.ofNat (u.toNat % 256)).toNat = u.toNat % 256 :=
        Utf8.toNat_ofNat (by omega)
      have hhigh : (UInt8.ofNat (u.toNat / 256)).toNat = u.toNat / 256 :=
        Utf8.toNat_ofNat (by omega)
      rw [List.flatMap_cons, littleEndian, List.cons_append, List.singleton_append, unitsOf, ih,
        hlow, hhigh, Nat.mod_add_div, UInt16.ofNat_toNat, Option.map_some]

/-- **EVERY TEXT IS DECODED** from its bytes. -/
theorem decode_encode (s : String) : decode (encode s) = some s := by
  rw [decode, encode, unitsOf_flatMap, Option.bind_some, units, decodeUnits_flatMap,
    Option.map_some, String.ofList_toList]

end TableCompiler.Text.Utf16
