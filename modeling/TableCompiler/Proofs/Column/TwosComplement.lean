import TableCompiler.Proofs.Column.ConvertDump
import TableCompiler.Proofs.Text.Utf8

/-!
# Two's complement — the integer that bytes hold

The bytes of a number, least significant first, hold its remainder by a power of 256
(`ofLittleBytes_littleBytes`).  An unsigned width takes this remainder for the number; a signed one takes
the number of that remainder that lies nearest to zero.  An integer within the bounds of its width is the
one that its bytes hold (`readInteger_twosComplement`).
-/

namespace TableCompiler

variable {width : StorageWidth} {n low high : Int} {bytes : List UInt8} {v : Value}

/-- The number that bytes hold, least significant first. -/
def ofLittleBytes : List UInt8 → Nat
  | [] => 0
  | b :: rest => b.toNat + 256 * ofLittleBytes rest

/-- The integer that the bytes of a width hold. -/
def StorageWidth.readInteger (width : StorageWidth) (bytes : List UInt8) : Int :=
  if width.isUnsigned then ofLittleBytes bytes
  else Int.bmod (ofLittleBytes bytes) (Nat.pow 256 bytes.length)

/-- The low byte comes first, and the others are those of the number without it. -/
theorem littleBytes_succ (count n : Nat) :
    Hash.littleBytes (count + 1) n = UInt8.ofNat (n % 256) :: Hash.littleBytes count (n / 256) := by
  have hshift : ∀ i, n / Nat.pow 256 (i + 1) % 256 = n / 256 / Nat.pow 256 i % 256 := by
    intro i
    rw [Nat.div_div_eq_div_mul, Nat.mul_comm]
    rfl
  rw [Hash.littleBytes, List.range_succ_eq_map, List.map_cons, List.map_map]
  refine congr (congrArg _ ?_) (List.map_congr_left fun i _ => congrArg UInt8.ofNat (hshift i))
  show UInt8.ofNat (n / 1 % 256) = _
  rw [Nat.div_one]

/-- **BYTES HOLD** the remainder of a number. -/
theorem ofLittleBytes_littleBytes (count n : Nat) :
    ofLittleBytes (Hash.littleBytes count n) = n % Nat.pow 256 count := by
  induction count generalizing n with
  | zero => exact (Nat.mod_one n).symm
  | succ count ih =>
      have hbyte : (UInt8.ofNat (n % 256)).toNat = n % 256 := Text.Utf8.toNat_ofNat (by omega)
      have hpow : Nat.pow 256 (count + 1) = 256 * Nat.pow 256 count := Nat.mul_comm _ _
      rw [littleBytes_succ, ofLittleBytes, hbyte, ih, hpow, Nat.mod_mul]

/-- Two's complement holds the number up to multiples of the power of 256. -/
theorem ofLittleBytes_twosComplement (size : Nat) (n : Int) :
    (ofLittleBytes (twosComplement size n) : Int) = n % Nat.pow 256 size := by
  have hpos : 0 < Nat.pow 256 size := Nat.pow_pos (by decide)
  have hnonneg : 0 ≤ n % Nat.pow 256 size := Int.emod_nonneg n (by omega)
  have hlt : n % Nat.pow 256 size < Nat.pow 256 size := Int.emod_lt_of_pos n (by omega)
  rw [twosComplement, ofLittleBytes_littleBytes, Nat.mod_eq_of_lt (by omega),
    Int.toNat_of_nonneg hnonneg]

/-- The bounds of a width are those of its bytes: all remainders, or half of them on each side of
zero. -/
theorem intBounds?_eq {size : Nat} (hbounds : width.intBounds? = some (low, high))
    (hsize : width.byteLen? = some size) :
    if width.isUnsigned then low = 0 ∧ high + 1 = Nat.pow 256 size
    else -low = high + 1 ∧ 2 * (high + 1) = Nat.pow 256 size := by
  cases width with
  | f32 => cases hbounds
  | f64 => cases hbounds
  | fixed _ => cases hbounds
  | unbounded => cases hbounds
  | _ =>
      obtain ⟨rfl, rfl⟩ := Prod.mk.inj (Option.some.inj hbounds)
      obtain rfl := Option.some.inj hsize
      decide

/-- **INTEGERS COME BACK** from the bytes of their width. -/
theorem readInteger_twosComplement {size : Nat} (hbounds : width.intBounds? = some (low, high))
    (hsize : width.byteLen? = some size) (hlow : low ≤ n) (hhigh : n ≤ high) :
    width.readInteger (twosComplement size n) = n := by
  have hrange := intBounds?_eq hbounds hsize
  rw [StorageWidth.readInteger, length_twosComplement, ofLittleBytes_twosComplement]
  split at hrange
  case isTrue hunsigned =>
    rw [if_pos hunsigned]
    exact Int.emod_eq_of_lt (by omega) (by omega)
  case isFalse hsigned =>
    rw [if_neg hsigned, Int.emod_bmod]
    exact Int.bmod_eq_of_le (by omega) (by omega)

/-- What is dumped at a width holds the number that was dumped. -/
theorem dumpInteger_eq_ok (h : dumpInteger v width = .ok bytes) :
    ∃ n low high, v.asInt? = some n ∧ width.intBounds? = some (low, high) ∧ low ≤ n ∧ n ≤ high ∧
      width.readInteger bytes = n := by
  rw [dumpInteger] at h
  split at h
  case h_1 => cases h
  case h_2 n hv =>
    split at h
    case h_1 low high size hbounds hsize =>
      split at h
      case isTrue hwithin =>
        rw [Bool.and_eq_true, decide_eq_true_eq, decide_eq_true_eq] at hwithin
        rw [← Except.ok.inj h]
        exact ⟨n, low, high, hv, hbounds, hwithin.1, hwithin.2,
          readInteger_twosComplement hbounds hsize hwithin.1 hwithin.2⟩
      case isFalse => cases h
    case h_2 => cases h

end TableCompiler
