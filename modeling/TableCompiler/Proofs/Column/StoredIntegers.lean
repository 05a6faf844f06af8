import TableCompiler.Proofs.Column.TwosComplement

/-!
# Stored integers — what is written of a number

A column that dumps integers looks at the number of a value and not at its kind, so a signed value and an
unsigned one of the same number are written alike.  A width takes the numbers within its bounds.  Its
bytes hold one number each, and no two sequences of them the same one (`twosComplement_readInteger`); hence
the bytes that are written for a number are the only ones that hold it, and every other value is refused
for the reason that it has (`integer_dump_exact`).
-/

namespace TableCompiler

variable {t : ColumnType} {width : StorageWidth} {v : Value} {n : Int} {bytes : List UInt8}
variable {e : DumpError}

/-- The number of an integer value, signed or unsigned. -/
inductive Value.IsInteger : Value → Int → Prop where
  | int (n : Int64) : IsInteger (.int n) n.toInt
  | uint (n : UInt64) : IsInteger (.uint n) n.toNat

/-- The width is one for integers, and the number lies within its bounds. -/
def StorageWidth.Takes (width : StorageWidth) (n : Int) : Prop :=
  ∃ low high, width.intBounds? = some (low, high) ∧ low ≤ n ∧ n ≤ high

/-- As many bytes as the width has, and they hold the number. -/
structure StorageWidth.Stores (width : StorageWidth) (bytes : List UInt8) (n : Int) : Prop where
  size : width.byteLen? = some bytes.length
  number : width.readInteger bytes = n

/-! ## Bytes -/

theorem ofLittleBytes_lt (bytes : List UInt8) :
    ofLittleBytes bytes < Nat.pow 256 bytes.length := by
  induction bytes with
  | nil => decide
  | cons b bytes ih =>
      have hb : b.toNat < 256 := b.toNat_lt
      have hpow : Nat.pow 256 (bytes.length + 1) = 256 * Nat.pow 256 bytes.length := Nat.mul_comm _ _
      rw [ofLittleBytes, List.length_cons, hpow]
      omega

/-- **BYTES ARE TOLD** by the number that they hold. -/
theorem littleBytes_ofLittleBytes (bytes : List UInt8) :
    Hash.littleBytes bytes.length (ofLittleBytes bytes) = bytes := by
  induction bytes with
  | nil => rfl
  | cons b bytes ih =>
      have hb : b.toNat < 256 := b.toNat_lt
      -- the low byte is the remainder, the others are the quotient
      have hlow : (b.toNat + 256 * ofLittleBytes bytes) % 256 = b.toNat := by omega
      have hhigh : (b.toNat + 256 * ofLittleBytes bytes) / 256 = ofLittleBytes bytes := by omega
      rw [List.length_cons, littleBytes_succ, ofLittleBytes, hlow, hhigh, ih, UInt8.ofNat_toNat]

/-- **THE INTEGER THAT BYTES HOLD** is written in just these bytes, with a sign and without. -/
theorem twosComplement_readInteger (width : StorageWidth) (bytes : List UInt8) :
    twosComplement bytes.length (width.readInteger bytes) = bytes := by
  have hlt := ofLittleBytes_lt bytes
  have hrest : width.readInteger bytes % (Nat.pow 256 bytes.length : Nat) = ofLittleBytes bytes := by
    rw [StorageWidth.readInteger]
    split
    case isTrue => exact Int.emod_eq_of_lt (Int.natCast_nonneg _) (by omega)
    case isFalse =>
      rw [Int.bmod_emod]
      exact Int.emod_eq_of_lt (Int.natCast_nonneg _) (by omega)
  rw [twosComplement, hrest, Int.toNat_natCast, littleBytes_ofLittleBytes]

/-- The bytes that store a number are its two's complement. -/
theorem StorageWidth.Stores.eq_twosComplement (stores : width.Stores bytes n) :
    bytes = twosComplement bytes.length n := by
  rw [← stores.number, twosComplement_readInteger]

/-! ## Numbers -/

/-- The number of a value is the one that is looked at. -/
theorem Value.asInt?_eq_some_iff : v.asInt? = some n ↔ v.IsInteger n := by
  constructor
  · intro h
    cases v with
    | int m => exact Option.some.inj h ▸ .int m
    | uint m => exact Option.some.inj h ▸ .uint m
    | _ => cases h
  · rintro (_ | _) <;> rfl

theorem Value.asInt?_eq_none (other : ∀ n, ¬v.IsInteger n) : v.asInt? = none := by
  cases h : v.asInt? with
  | none => rfl
  | some n => exact absurd (asInt?_eq_some_iff.mp h) (other n)

/-- A number that a width takes is written in two's complement, as its bytes hold it. -/
theorem dumpInteger_of_takes (integer : v.IsInteger n) (takes : width.Takes n) :
    ∃ bytes, dumpInteger v width = .ok bytes ∧ width.Stores bytes n := by
  obtain ⟨low, high, hbounds, hlow, hhigh⟩ := takes
  obtain ⟨size, hsize⟩ := byteLen?_of_intBounds? hbounds
  have number := Value.asInt?_eq_some_iff.mpr integer
  refine ⟨_, dumpInteger_within number hbounds hsize hlow hhigh, ?_, ?_⟩
  · rw [length_twosComplement, hsize]
  · exact readInteger_twosComplement hbounds hsize hlow hhigh

/-- A number that a width does not take is out of range. -/
theorem dumpInteger_of_not_takes (integer : v.IsInteger n) (outside : ¬width.Takes n) :
    dumpInteger v width = .error (.outOfRange n width) := by
  have number := Value.asInt?_eq_some_iff.mpr integer
  cases hbounds : width.intBounds? with
  | none => simp only [dumpInteger, number, hbounds]
  | some bounds =>
      obtain ⟨low, high⟩ := bounds
      refine dumpInteger_outOfRange number hbounds ?_
      by_cases hlow : n < low
      · exact .inl hlow
      · refine .inr (Int.not_le.mp fun hhigh => ?_)
        exact outside ⟨low, high, hbounds, Int.not_lt.mp hlow, hhigh⟩

/-- A value of another kind is a mismatch at any width. -/
theorem dumpInteger_of_other (other : ∀ n, ¬v.IsInteger n) :
    dumpInteger v width = .error (.valueMismatch "integer" v.kind) := by
  rw [dumpInteger, Value.asInt?_eq_none other]

/-- A value has one number at most. -/
theorem Value.IsInteger.unique {m : Int} (integer : v.IsInteger n) (integer' : v.IsInteger m) :
    n = m :=
  Option.some.inj
    ((Value.asInt?_eq_some_iff.mpr integer).symm.trans (Value.asInt?_eq_some_iff.mpr integer'))

/-! ## Both outcomes -/

/-- What is written is what stores the number of the value, if the width takes it. -/
theorem dumpInteger_eq_ok_iff :
    dumpInteger v width = .ok bytes ↔ ∃ n, v.IsInteger n ∧ width.Takes n ∧ width.Stores bytes n := by
  constructor
  · intro dumped
    obtain ⟨n, low, high, number, hbounds, hlow, hhigh, -⟩ := dumpInteger_eq_ok dumped
    have integer := Value.asInt?_eq_some_iff.mp number
    have takes : width.Takes n := ⟨low, high, hbounds, hlow, hhigh⟩
    obtain ⟨bytes', dumped', stores⟩ := dumpInteger_of_takes integer takes
    obtain rfl := Except.ok.inj (dumped.symm.trans dumped')
    exact ⟨n, integer, takes, stores⟩
  · rintro ⟨n, integer, takes, stores⟩
    obtain ⟨bytes', dumped, stores'⟩ := dumpInteger_of_takes integer takes
    -- both hold the number in as many bytes, and there is one way to do so
    have hlength := Option.some.inj (stores.size.symm.trans stores'.size)
    rw [dumped, stores.eq_twosComplement, stores'.eq_twosComplement, hlength]

/-- What is refused is out of range or no integer, and the reason says which. -/
theorem dumpInteger_eq_error_iff :
    dumpInteger v width = .error e ↔
      (∃ n, v.IsInteger n ∧ ¬width.Takes n ∧ e = .outOfRange n width) ∨
        (∀ n, ¬v.IsInteger n) ∧ e = .valueMismatch "integer" v.kind := by
  -- the number decides first, and the width only behind it
  constructor
  · intro failed
    by_cases integer : ∃ n, v.IsInteger n
    · obtain ⟨n, integer⟩ := integer
      by_cases takes : width.Takes n
      · obtain ⟨bytes, dumped, -⟩ := dumpInteger_of_takes integer takes
        cases failed.symm.trans dumped
      · have refused := dumpInteger_of_not_takes integer takes
        exact .inl ⟨n, integer, takes, Except.error.inj (failed.symm.trans refused)⟩
    · have other : ∀ n, ¬v.IsInteger n := not_exists.mp integer
      exact .inr ⟨other, Except.error.inj (failed.symm.trans (dumpInteger_of_other other))⟩
  · rintro (⟨n, integer, outside, rfl⟩ | ⟨other, rfl⟩)
    · exact dumpInteger_of_not_takes integer outside
    · exact dumpInteger_of_other other

/-- **INTEGERS ARE WRITTEN** just if the width takes their number, in the bytes that hold it, whether the
value is a signed or an unsigned one.  Any other number is out of range, every number at a width that is
not for integers, and a value of another kind is a mismatch.  So what two columns of one width write alike
is the same number. -/
theorem integer_dump_exact (dump : t.dump = .int width) :
    (∀ v n, v.IsInteger n → width.Takes n → ∃ bytes, t.dumpValue v = .ok bytes) ∧
      (∀ v bytes, t.dumpValue v = .ok bytes ↔
        ∃ n, v.IsInteger n ∧ width.Takes n ∧ width.Stores bytes n) ∧
      (∀ v e, t.dumpValue v = .error e ↔
        (∃ n, v.IsInteger n ∧ ¬width.Takes n ∧ e = .outOfRange n width) ∨
          (∀ n, ¬v.IsInteger n) ∧ e = .valueMismatch "integer" v.kind) ∧
      ∀ (t' : ColumnType) (v v' : Value) (n n' : Int) (bytes : List UInt8), t'.dump = .int width →
        v.IsInteger n → v'.IsInteger n' → t.dumpValue v = .ok bytes → t'.dumpValue v' = .ok bytes →
        n = n' := by
  have dumps : ∀ {t : ColumnType} {v : Value}, t.dump = .int width →
      t.dumpValue v = dumpInteger v width := by
    intro t v dump
    simp only [ColumnType.dumpValue, dump]
  refine ⟨fun v n integer takes => ?_, fun v bytes => ?_, fun v e => ?_, ?_⟩
  · obtain ⟨bytes, dumped, -⟩ := dumpInteger_of_takes integer takes
    exact ⟨bytes, (dumps dump).trans dumped⟩
  · rw [dumps dump]
    exact dumpInteger_eq_ok_iff
  · rw [dumps dump]
    exact dumpInteger_eq_error_iff
  -- the bytes hold one number at this width, whichever column wrote them
  · intro t' v v' n n' bytes dump' integer integer' dumped dumped'
    rw [dumps dump] at dumped
    rw [dumps dump'] at dumped'
    obtain ⟨m, hm, -, stores⟩ := dumpInteger_eq_ok_iff.mp dumped
    obtain ⟨m', hm', -, stores'⟩ := dumpInteger_eq_ok_iff.mp dumped'
    calc
      n = m := integer.unique hm
      _ = width.readInteger bytes := stores.number.symm
      _ = m' := stores'.number
      _ = n' := hm'.unique integer'

/-- A column of small integers. -/
def byteColumn : ColumnType :=
  ⟨"int8", .int, .i8, none, none, .none, .integer 10 .i8, .int .i8⟩

/-- Either sign at the ends of a byte, a number beyond them and a text. -/
theorem integer_dump_exact_signs :
    byteColumn.dump = .int .i8 ∧ byteColumn.dumpValue (.int (-128)) = .ok [0x80] ∧
      byteColumn.dumpValue (.uint 127) = .ok [0x7f] ∧
      byteColumn.dumpValue (.uint 18446744073709551615)
        = .error (.outOfRange 18446744073709551615 .i8) ∧
      byteColumn.dumpValue (.text "7") = .error (.valueMismatch "integer" "text") := by
  have dump : byteColumn.dump = .int .i8 := rfl
  obtain ⟨-, written, refused, -⟩ := integer_dump_exact dump
  refine ⟨dump, (written _ _).mpr ?_, (written _ _).mpr ?_, (refused _ _).mpr ?_,
    (refused _ _).mpr ?_⟩
  · exact ⟨-128, .int (-128), ⟨-128, 127, rfl, by decide, by decide⟩, rfl, by decide⟩
  · exact ⟨127, .uint 127, ⟨-128, 127, rfl, by decide, by decide⟩, rfl, by decide⟩
  · refine .inl ⟨18446744073709551615, .uint 18446744073709551615, ?_, rfl⟩
    rintro ⟨low, high, hbounds, -, hhigh⟩
    obtain ⟨rfl, rfl⟩ := Prod.mk.inj (Option.some.inj hbounds)
    exact absurd hhigh (by decide)
  · exact .inr ⟨(fun _ integer => nomatch integer), rfl⟩

end TableCompiler
