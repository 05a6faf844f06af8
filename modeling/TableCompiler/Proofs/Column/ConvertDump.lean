import TableCompiler.Column.Dump
import TableCompiler.Proofs.Column.Agreement

/-!
# Converted values dump — no mismatch behind a conversion

Whatever a column makes of a text it can write, and in as many bytes as its width says
(`dump_of_convert`).  The one exception is the enum, whose members are registered with 64 bits and
stored with 32.  Each conversion has one lemma about the values it makes and each dump one lemma about
the values it takes; `Agree` says which of them meet.
-/

namespace TableCompiler

variable {r : Registry} {t : ColumnType} {v : Value} {width : StorageWidth} {n low high : Int}
variable {expr text : String}

/-- Some bytes are written, and as many as the width of the column says. -/
def ColumnType.DumpsFully (t : ColumnType) (v : Value) : Prop :=
  ∃ bytes, t.dumpValue v = .ok bytes ∧
    ∀ size, t.width.byteLen? = some size → bytes.length = size

/-- A member of an enum column that needs more than the 32 bits in which enums are stored. -/
def ColumnType.OutgrowsEnum (t : ColumnType) (n : Int64) : Prop :=
  t.semantic = .enum ∧ (n.toInt < -2147483648 ∨ 2147483647 < n.toInt)

/-! ## Integers -/

theorem length_twosComplement (size : Nat) (n : Int) : (twosComplement size n).length = size := by
  rw [twosComplement, Hash.littleBytes, List.length_map, List.length_range]

/-- The integer widths have a size. -/
theorem byteLen?_of_intBounds? {bounds : Int × Int} (h : width.intBounds? = some bounds) :
    ∃ size, width.byteLen? = some size := by
  cases width with
  | fixed _ => cases h
  | unbounded => cases h
  | _ => exact ⟨_, rfl⟩

/-- An integer within the bounds is written in two's complement. -/
theorem dumpInteger_within {size : Nat} (hv : v.asInt? = some n)
    (hbounds : width.intBounds? = some (low, high)) (hsize : width.byteLen? = some size)
    (hlow : low ≤ n) (hhigh : n ≤ high) :
    dumpInteger v width = .ok (twosComplement size n) := by
  simp only [dumpInteger, hv, hbounds, hsize, hlow, hhigh, decide_true, Bool.and_self, if_true]

/-- An integer within the bounds is written in the bytes of its width. -/
theorem dumpInteger_ok (hv : v.asInt? = some n) (hbounds : width.intBounds? = some (low, high))
    (hlow : low ≤ n) (hhigh : n ≤ high) :
    ∃ bytes, dumpInteger v width = .ok bytes ∧
      ∀ size, width.byteLen? = some size → bytes.length = size := by
  obtain ⟨size, hsize⟩ := byteLen?_of_intBounds? hbounds
  refine ⟨twosComplement size n, dumpInteger_within hv hbounds hsize hlow hhigh, ?_⟩
  · intro size' hsize'
    rw [length_twosComplement]
    exact Option.some.inj (hsize.symm.trans hsize')

/-- An integer outside the bounds is refused. -/
theorem dumpInteger_outOfRange (hv : v.asInt? = some n)
    (hbounds : width.intBounds? = some (low, high)) (outside : n < low ∨ high < n) :
    dumpInteger v width = .error (.outOfRange n width) := by
  obtain ⟨size, hsize⟩ := byteLen?_of_intBounds? hbounds
  have hno : (low ≤ n && n ≤ high) = false := by
    rw [Bool.and_eq_false_iff, decide_eq_false_iff_not, decide_eq_false_iff_not]
    omega
  simp only [dumpInteger, hv, hbounds, hsize, hno, Bool.false_eq_true, if_false]

/-- The value of an integer within the bounds holds that integer. -/
theorem asInt?_integerValue (hbounds : width.intBounds? = some (low, high)) (hlow : low ≤ n)
    (hhigh : n ≤ high) : (integerValue width n).asInt? = some n := by
  have signed : -2 ^ 63 ≤ n → n < 2 ^ 63 → (Value.int (Int64.ofInt n)).asInt? = some n := by
    intro h₁ h₂
    rw [Value.asInt?, Int64.toInt_ofInt_of_le h₁ h₂]
  have unsigned : 0 ≤ n → n < 2 ^ 64 → (Value.uint (UInt64.ofNat n.toNat)).asInt? = some n := by
    intro h₁ h₂
    have hnat : n.toNat < 2 ^ 64 := by omega
    rw [Value.asInt?, UInt64.toNat_ofNat_of_lt' hnat, Int.toNat_of_nonneg h₁]
  -- the bounds of every integer width lie within 64 bits, signed or unsigned
  cases width with
  | f32 => cases hbounds
  | f64 => cases hbounds
  | fixed _ => cases hbounds
  | unbounded => cases hbounds
  | i8 | i16 | i32 | i64 =>
      obtain ⟨rfl, rfl⟩ := Prod.mk.inj (Option.some.inj hbounds)
      exact signed (by omega) (by omega)
  | u8 | u16 | u32 | u64 =>
      obtain ⟨rfl, rfl⟩ := Prod.mk.inj (Option.some.inj hbounds)
      exact unsigned (by omega) (by omega)

/-- An integer that passes the check of its width lies within the bounds. -/
theorem checkInteger_ok (hbounds : width.intBounds? = some (low, high))
    (h : checkInteger text width n = .ok v) :
    low ≤ n ∧ n ≤ high ∧ v = integerValue width n := by
  simp only [checkInteger, convertBounds, hbounds, Option.getD_some] at h
  split at h
  case isTrue => cases h
  case isFalse hlow =>
    split at h
    case isTrue => cases h
    case isFalse hhigh =>
      exact ⟨Int.not_lt.mp hlow, Int.not_lt.mp hhigh, (Except.ok.inj h).symm⟩

/-- The text of an integer becomes an integer that passed the check of its width. -/
theorem convertInteger_ok {radix : Nat} (h : convertInteger text radix width = .ok v) :
    ∃ n, checkInteger text width n = .ok v := by
  simp only [convertInteger] at h
  split at h
  case isTrue => cases h
  case isFalse =>
    split at h
    case isTrue => cases h
    case isFalse =>
      split at h
      case h_1 => exact ⟨_, h⟩
      case h_2 => cases h
      case h_3 => cases h

/-- **INTEGERS** that a width takes are written in that width. -/
theorem dumpInteger_of_convertInteger {radix : Nat} (bounded : width.intBounds?.isSome)
    (h : convertInteger text radix width = .ok v) :
    ∃ bytes, dumpInteger v width = .ok bytes ∧
      ∀ size, width.byteLen? = some size → bytes.length = size := by
  obtain ⟨⟨low, high⟩, hbounds⟩ := Option.isSome_iff_exists.mp bounded
  obtain ⟨n, hcheck⟩ := convertInteger_ok h
  obtain ⟨hlow, hhigh, rfl⟩ := checkInteger_ok hbounds hcheck
  exact dumpInteger_ok (asInt?_integerValue hbounds hlow hhigh) hbounds hlow hhigh

/-! ## Hashes -/

/-- A word of 32 bits is written in 32 bits. -/
theorem dumpInteger_word (x : UInt32) :
    ∃ bytes, dumpInteger (.uint x.toUInt64) .u32 = .ok bytes ∧
      ∀ size, StorageWidth.byteLen? .u32 = some size → bytes.length = size := by
  have hx : x.toUInt64.toNat < 4294967296 := by
    rw [UInt32.toNat_toUInt64]
    exact x.toNat_lt
  exact dumpInteger_ok rfl rfl (Int.natCast_nonneg _) (by omega)

/-- A hash is written as its layout says. -/
theorem dumpsFully_digest (h : KeyHash) (hwidth : t.width = (hashLayout h).1)
    (hdump : t.dump = (hashLayout h).2) : t.DumpsFully (h.digest text) := by
  simp only [ColumnType.DumpsFully, ColumnType.dumpValue, hwidth, hdump]
  -- the hashes of one word are integers of their width, the others are bytes of a fixed length
  cases h with
  | hash64 =>
      have hx := (Hash.Fnv64.start.write (Text.Utf8.encode text)).state.toNat_lt
      exact dumpInteger_ok rfl rfl (Int.natCast_nonneg _) (by omega)
  | hash32 => exact dumpInteger_word _
  | adler32 => exact dumpInteger_word _
  | crc32 => exact dumpInteger_word _
  | md5 =>
      refine ⟨_, rfl, fun size hsize => ?_⟩
      rw [Hash.Md5.length_digest, ← Option.some.inj hsize, KeyHash.width]
  | sha1 =>
      refine ⟨_, rfl, fun size hsize => ?_⟩
      rw [Hash.Sha1.length_digest, ← Option.some.inj hsize, KeyHash.width]
  | sha256 =>
      refine ⟨_, rfl, fun size hsize => ?_⟩
      rw [Hash.Sha256.length_digest, ← Option.some.inj hsize, KeyHash.width]

/-! ## Reals, texts, dates and JSON -/

/-- The text of a real becomes a real. -/
theorem convertReal_ok (h : convertReal text width = .ok v) : ∃ x, v = .real x := by
  simp only [convertReal] at h
  split at h
  case h_1 => cases h
  case h_2 x _ =>
    split at h
    case isTrue => exact ⟨x, (Except.ok.inj h).symm⟩
    case isFalse =>
      simp only [checkReal] at h
      split at h
      case isTrue => cases h
      case isFalse =>
        split at h
        case isTrue => cases h
        case isFalse => exact ⟨_, (Except.ok.inj h).symm⟩

/-- A text that a strict ASCII column takes has ASCII characters only. -/
theorem convertEncoded_ok {encoding : TextEncoding} {policy : ErrorPolicy}
    (h : convertEncoded text encoding policy = .ok v) :
    v = .text text ∧
      (encoding = .ascii → policy = .strict → ∀ c ∈ text.toList, isAscii c = true) := by
  simp only [convertEncoded] at h
  split at h
  case isTrue =>
    split at h
    case h_1 => cases h
    case h_2 hnone =>
      refine ⟨(Except.ok.inj h).symm, fun _ _ c hc => ?_⟩
      have := List.findIdx?_eq_none_iff.mp hnone c hc
      rwa [Bool.not_eq_false'] at this
  case isFalse hnot =>
    refine ⟨(Except.ok.inj h).symm, fun hascii hstrict => ?_⟩
    rw [hascii, hstrict] at hnot
    exact absurd rfl hnot

/-- Only a strict policy refuses a character. -/
theorem encodeAscii_ok {policy : ErrorPolicy} {cs : List Char} (position : Nat)
    (h : policy = .strict → ∀ c ∈ cs, isAscii c = true) :
    ∃ bytes, encodeAscii policy position cs = .ok bytes := by
  induction cs generalizing position with
  | nil => exact ⟨[], rfl⟩
  | cons c cs ih =>
      obtain ⟨bytes, hbytes⟩ :=
        ih (position + 1) fun hstrict d hd => h hstrict d (List.mem_cons_of_mem c hd)
      rw [encodeAscii.eq_def]
      simp only [hbytes]
      by_cases hc : isAscii c = true
      · rw [if_pos hc]
        exact ⟨_, rfl⟩
      · rw [if_neg hc]
        cases policy with
        | strict => exact absurd (h rfl c (List.mem_cons_self ..)) hc
        | ignore => exact ⟨_, rfl⟩
        | replace => exact ⟨_, rfl⟩

/-- **TEXTS** that an encoding and its policy take are written in that encoding. -/
theorem encodeText_ok {encoding : TextEncoding} {policy : ErrorPolicy}
    (h : encoding = .ascii → policy = .strict → ∀ c ∈ text.toList, isAscii c = true) :
    ∃ bytes, encodeText text encoding policy = .ok bytes := by
  cases encoding with
  | utf8 => exact ⟨_, rfl⟩
  | utf16 => exact ⟨_, rfl⟩
  | ascii => exact encodeAscii_ok 0 (h rfl)

/-- A date that is read becomes a value of the column's kind. -/
theorem dateResult_ok {α : Type} {kind : FailureKind} {value : α → Value}
    {read : Except Calendar.DateError α} (h : dateResult kind text value read = .ok v) :
    ∃ a, v = value a := by
  cases read with
  | ok a => exact ⟨a, (Except.ok.inj h).symm⟩
  | error e => cases h

/-- A JSON text becomes a JSON value. -/
theorem convertJson_ok (h : convertJson text = .ok v) : ∃ j, v = .json j := by
  rw [convertJson] at h
  split at h
  case h_1 j _ => exact ⟨j, (Except.ok.inj h).symm⟩
  case h_2 => cases h

/-- The name of an enum member becomes its number. -/
theorem convertMember_ok {ns : String} {members : List (String × Int64)}
    (h : convertMember text ns members = .ok v) :
    ∃ n, members.lookup (Text.trimmed text) = some n ∧ v = .int n := by
  rw [convertMember] at h
  split at h
  case h_1 n hn => exact ⟨n, hn, (Except.ok.inj h).symm⟩
  case h_2 => cases h

/-! ## Columns -/

/-- Columns of any size: some bytes are enough. -/
theorem dumpsFully_of_unbounded (hwidth : t.width = .unbounded)
    (h : ∃ bytes, t.dumpValue v = .ok bytes) : t.DumpsFully v := by
  obtain ⟨bytes, hbytes⟩ := h
  refine ⟨bytes, hbytes, fun size hsize => ?_⟩
  rw [hwidth] at hsize
  cases hsize

/-- **WHAT SUITS DUMPS**: a column whose width, conversion and dump suit each other writes whatever
it converts. -/
theorem dumpsFully_of_agree (agree : Agree t.width t.convert t.dump)
    (h : t.convertCell text = .ok v) : t.DumpsFully v := by
  rcases t with ⟨expr, semantic, width, main?, sub?, role, convert, dump⟩
  change Agree width convert dump at agree
  -- one case for each conversion: the values it makes, then the dump that takes them
  cases agree with
  | integer radix bounded => exact dumpInteger_of_convertInteger bounded h
  | single =>
      obtain ⟨x, rfl⟩ := convertReal_ok h
      exact ⟨x.toSingleBytes, rfl, fun size hsize => Option.some.inj hsize⟩
  | double =>
      obtain ⟨x, rfl⟩ := convertReal_ok h
      exact ⟨x.toBytes, rfl, fun size hsize => Option.some.inj hsize⟩
  | text =>
      cases h
      exact dumpsFully_of_unbounded rfl ⟨_, rfl⟩
  | encoded encoding policy =>
      obtain ⟨rfl, hascii⟩ := convertEncoded_ok h
      exact dumpsFully_of_unbounded rfl (encodeText_ok hascii)
  | hash hash =>
      cases h
      exact dumpsFully_digest hash rfl rfl
  | date =>
      obtain ⟨d, rfl⟩ := dateResult_ok h
      exact dumpsFully_of_unbounded rfl ⟨_, rfl⟩
  | dateTime =>
      obtain ⟨d, rfl⟩ := dateResult_ok h
      exact dumpsFully_of_unbounded rfl ⟨_, rfl⟩
  | time =>
      obtain ⟨d, rfl⟩ := dateResult_ok h
      exact dumpsFully_of_unbounded rfl ⟨_, rfl⟩
  | json =>
      obtain ⟨j, rfl⟩ := convertJson_ok h
      exact dumpsFully_of_unbounded rfl ⟨_, rfl⟩

/-- **WHAT CONVERTS DUMPS**: a value that a column of a built-in type makes of a text is written in
the bytes of its width, unless it is an enum member outside 32 bits, and then it is out of range. -/
theorem dump_of_convert (built : r.Built) (resolved : r.resolve expr = .ok t)
    (plain : t.isExtension = false) (converted : t.convertCell text = .ok v) :
    ((∀ n, v = .int n → ¬t.OutgrowsEnum n) ∧ t.DumpsFully v) ∨
      ∃ n, v = .int n ∧ t.OutgrowsEnum n ∧ t.dumpValue v = .error (.outOfRange n.toInt .i32) := by
  -- enums alone convert without a look at the width in which they are stored
  by_cases enum : t.semantic = .enum
  · obtain ⟨ns, members, -, -, hwidth, hconvert, hdump⟩ :=
      enum_of_resolve built resolved plain enum
    rw [ColumnType.convertCell, hconvert] at converted
    obtain ⟨n, -, rfl⟩ := convertMember_ok converted
    simp only [ColumnType.DumpsFully, ColumnType.dumpValue, hwidth, hdump]
    by_cases outside : n.toInt < -2147483648 ∨ 2147483647 < n.toInt
    · exact .inr ⟨n, rfl, ⟨enum, outside⟩, dumpInteger_outOfRange rfl rfl outside⟩
    · refine .inl ⟨?_, dumpInteger_ok rfl rfl (by omega) (by omega)⟩
      intro m hm outgrows
      cases hm
      exact outside outgrows.2
  · refine .inl ⟨fun n _ outgrows => enum outgrows.1, ?_⟩
    exact dumpsFully_of_agree (agree_of_resolve built resolved plain enum) converted

/-- The members of an enum, one of which needs more than 32 bits. -/
def gradeMembers : List (String × Int64) :=
  [("low", 1), ("vast", 4294967296)]

/-- The built-in types and that enum. -/
def grades : Registry :=
  ⟨Registry.builtin.types, [("grade", gradeMembers)]⟩

/-- The column of that enum. -/
def gradeColumn : ColumnType :=
  ⟨"enum:grade", .enum, .i32, some "grade", none, .none, .enum "grade" gradeMembers, .int .i32⟩

theorem grades_built : grades.Built :=
  have registered : Registry.builtin.registerEnum "grade" gradeMembers = .ok grades := rfl
  .registerEnum .builtin registered

/-- The exception is reached: a member of 64 bits converts, and is out of range when it is dumped. -/
theorem dump_of_convert_vast :
    grades.resolve "enum:grade" = .ok gradeColumn ∧ gradeColumn.isExtension = false ∧
      gradeColumn.convertCell "vast" = .ok (.int 4294967296) ∧
      (((∀ n, Value.int 4294967296 = .int n → ¬gradeColumn.OutgrowsEnum n) ∧
          gradeColumn.DumpsFully (.int 4294967296)) ∨
        ∃ n, Value.int 4294967296 = .int n ∧ gradeColumn.OutgrowsEnum n ∧
          gradeColumn.dumpValue (.int 4294967296) = .error (.outOfRange n.toInt .i32)) :=
  have resolved : grades.resolve "enum:grade" = .ok gradeColumn := rfl
  have converted : gradeColumn.convertCell "vast" = .ok (.int 4294967296) := rfl
  ⟨resolved, rfl, converted, dump_of_convert grades_built resolved rfl converted⟩

end TableCompiler
