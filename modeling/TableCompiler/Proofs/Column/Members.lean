import TableCompiler.Proofs.Column.ConvertDump
import TableCompiler.Proofs.Column.Registration

/-!
# Enum members — which of them a column can use

A registration takes any names and any 64-bit numbers for the members of an enum, as long as no name
comes twice.  A column of that enum is narrower at both ends: it looks for the trimmed text of a cell,
and stores numbers in 32 bits.  So a member can be used just if its trimmed name stands for its number
as well, and its number fits (`members_usable_iff`).  A name with blank space around it is as good as
none unless the name without it is registered, and then the number of that one is meant.
-/

namespace TableCompiler

open TableCompiler.Text

variable {r : Registry} {ns name text : String} {value : Int64} {v : Value}
variable {members : List (String × Int64)}

/-! ## Names -/

/-- Where no name comes twice, the entries are what is found. -/
theorem lookup_eq_some_iff_mem {α β : Type} [DecidableEq α] {entries : List (α × β)} {a : α} {b : β}
    (nodup : (entries.map (·.1)).Nodup) : entries.lookup a = some b ↔ (a, b) ∈ entries := by
  induction entries with
  | nil => exact ⟨(fun h => nomatch h), fun h => absurd h List.not_mem_nil⟩
  | cons e entries ih =>
      obtain ⟨first, second⟩ := e
      rw [List.map_cons, List.nodup_cons] at nodup
      rw [List.mem_cons]
      -- the first entry of a name is found, and by assumption it is the only one
      by_cases same : a = first
      · subst same
        rw [List.lookup_cons_self]
        constructor
        · intro h
          exact .inl (congrArg _ (Option.some.inj h).symm)
        · rintro (h | h)
          · exact congrArg _ (Prod.mk.inj h).2.symm
          · exact absurd (List.mem_map_of_mem h) nodup.1
      · rw [List.lookup_cons, beq_false_of_ne same, ← ih nodup.2]
        constructor
        · exact .inr
        · rintro (h | h)
          · exact absurd (Prod.mk.inj h).1 same
          · exact h

/-- A cell means a member if its trimmed text is the name of one. -/
theorem convertMember_eq_ok_iff (nodup : (members.map (·.1)).Nodup) :
    convertMember text ns members = .ok v ↔
      ∃ value, (trimmed text, value) ∈ members ∧ v = .int value := by
  constructor
  · intro h
    obtain ⟨value, found, rfl⟩ := convertMember_ok h
    exact ⟨value, (lookup_eq_some_iff_mem nodup).mp found, rfl⟩
  · rintro ⟨value, member, rfl⟩
    rw [convertMember, (lookup_eq_some_iff_mem nodup).mpr member]

/-- A cell whose trimmed text names no member is refused as unknown. -/
theorem convertMember_unknown (missing : trimmed text ∉ members.map (·.1)) :
    convertMember text ns members = .error ⟨.unknown, text, "not in enum '" ++ ns ++ "'"⟩ := by
  have hnone : members.lookup (trimmed text) = none := by
    apply List.lookup_eq_none_iff.mpr
    intro m hm
    apply bne_iff_ne.mpr
    intro same
    exact missing (same ▸ List.mem_map_of_mem hm)
  rw [convertMember, hnone]

/-! ## Columns -/

/-- The column of an enum. -/
def enumColumn (ns : String) (members : List (String × Int64)) : ColumnType :=
  ⟨"enum:" ++ ns, .enum, .i32, some ns, none, .none, .enum ns members, .int .i32⟩

theorem text_enum (ns : String) : TypeExpr.text ⟨"enum", some ns, none⟩ = "enum:" ++ ns := by
  apply String.toList_inj.mp
  rw [TypeExpr.toList_text_main, String.toList_append]
  rfl

/-- A namespace can stand as a main attribute, since a word has neither a colon nor blank space. -/
theorem attributes_of_identifier (identifier : isIdentifier ns.toList = true) :
    TypeExpr.Attributes (some ns) none := by
  refine .main ⟨isIdentifier_ne_nil identifier, colon_not_mem_identifier identifier⟩ ?_
  rintro ⟨c, hlast, hblank⟩
  have hword := isWord_of_mem_identifier identifier (List.mem_of_getLast? hlast)
  exact Bool.false_ne_true ((isBlank_of_isWord hword).symm.trans hblank)

/-- **ENUMS ARE REACHED** under their namespace. -/
theorem Registry.resolve_enum (built : r.Built) (identifier : isIdentifier ns.toList = true)
    (registered : r.enumMembers? ns = some members) :
    r.resolve ("enum:" ++ ns) = .ok (enumColumn ns members) := by
  have builtin_name : isIdentifier "enum".toList = true := rfl
  obtain ⟨hparse, htrimmed⟩ :=
    TypeExpr.parse_text builtin_name (attributes_of_identifier identifier)
  rw [text_enum] at hparse htrimmed
  rw [resolve_of_parts hparse (built.baseType?_builtin rfl), htrimmed]
  simp only [resolveParts, if_true, resolveEnum, registered]
  rfl

/-- A number of 32 bits is written in four bytes. -/
theorem dumpValue_enumColumn (fits : ¬(enumColumn ns members).OutgrowsEnum value) :
    (enumColumn ns members).dumpValue (.int value) = .ok (twosComplement 4 value.toInt) := by
  have within : ¬(value.toInt < -2147483648 ∨ 2147483647 < value.toInt) :=
    fun outside => fits ⟨rfl, outside⟩
  show dumpInteger (.int value) .i32 = .ok (twosComplement 4 value.toInt)
  exact dumpInteger_within rfl rfl rfl (by omega) (by omega)

/-- A longer number is out of range. -/
theorem dumpValue_outgrows (outgrows : (enumColumn ns members).OutgrowsEnum value) :
    (enumColumn ns members).dumpValue (.int value) = .error (.outOfRange value.toInt .i32) := by
  show dumpInteger (.int value) .i32 = .error (.outOfRange value.toInt .i32)
  exact dumpInteger_outOfRange rfl rfl outgrows.2

/-- A member that a column can use: a cell with its name becomes its number, and the number is
written in four bytes. -/
def ColumnType.Uses (t : ColumnType) (name : String) (value : Int64) : Prop :=
  t.convertCell name = .ok (.int value) ∧
    t.dumpValue (.int value) = .ok (twosComplement 4 value.toInt)

/-- **USABLE** is what is found by its trimmed name and fits. -/
theorem uses_iff (nodup : (members.map (·.1)).Nodup) :
    (enumColumn ns members).Uses name value ↔
      (trimmed name, value) ∈ members ∧ ¬(enumColumn ns members).OutgrowsEnum value := by
  constructor
  · rintro ⟨converted, dumped⟩
    obtain ⟨value', member, same⟩ := (convertMember_eq_ok_iff nodup).mp converted
    obtain rfl := Value.int.inj same
    refine ⟨member, fun outgrows => ?_⟩
    rw [dumpValue_outgrows outgrows] at dumped
    cases dumped
  · rintro ⟨member, fits⟩
    exact ⟨(convertMember_eq_ok_iff nodup).mpr ⟨value, member, rfl⟩, dumpValue_enumColumn fits⟩

/-! ## Registered members -/

open Registry in
/-- **EVERY ACCEPTED ENUM** gives a column, however many registrations come before and after it.  A
member of it can be used just if its trimmed name stands for its number as well and the number fits
into 32 bits; else its name is not in the enum, or means the number of another member, or its number
is out of range. -/
theorem members_usable_iff (calls more : List Registration) (ns : String)
    (members : List (String × Int64))
    (accepted : ((Registration.enum ns members).outcome (builtin.asked calls)).1 = .ok ()) :
    (builtin.asked (calls ++ .enum ns members :: more)).resolve ("enum:" ++ ns)
        = .ok (enumColumn ns members) ∧
      ∀ name value, (name, value) ∈ members →
        ((enumColumn ns members).Uses name value ↔
          (trimmed name, value) ∈ members ∧ ¬(enumColumn ns members).OutgrowsEnum value) ∧
        (trimmed name ∉ members.map (·.1) →
          (enumColumn ns members).convertCell name
            = .error ⟨.unknown, name, "not in enum '" ++ ns ++ "'"⟩) ∧
        (∀ other, (trimmed name, other) ∈ members →
          (enumColumn ns members).convertCell name = .ok (.int other)) ∧
        ((enumColumn ns members).OutgrowsEnum value →
          (enumColumn ns members).dumpValue (.int value)
            = .error (.outOfRange value.toInt .i32)) := by
  obtain ⟨identifier, nodup, found⟩ :=
    enumMembers?_of_adds (Registration.outcome_eq_ok_iff.mp (Prod.ext accepted rfl))
  constructor
  · apply resolve_enum (Built.builtin.asked _) identifier
    rw [asked_append]
    exact (extends_asked _ more).enums found
  · intro name value _
    refine ⟨uses_iff nodup, convertMember_unknown, fun other member => ?_, dumpValue_outgrows⟩
    exact (convertMember_eq_ok_iff nodup).mpr ⟨other, member, rfl⟩

/-- An enum with a name that starts with blank space, the name of another member with blank space
behind it, and a number of more than 32 bits. -/
def oddMembers : List (String × Int64) :=
  [("low", 1), (" high", 2), ("low ", 3), ("vast", 4294967296)]

open Registry in
/-- Of the odd members one is usable, one is unknown, one means another and one is out of range. -/
theorem members_usable_iff_odd :
    ((Registration.enum "grade" oddMembers).outcome (builtin.asked [moneyType])).1 = .ok () ∧
      ∃ t, (builtin.asked [moneyType, .enum "grade" oddMembers, gradeEnum]).resolve "enum:grade"
          = .ok t ∧
        t.Uses "low" 1 ∧
        t.convertCell " high" = .error ⟨.unknown, " high", "not in enum 'grade'"⟩ ∧
        t.convertCell "low " = .ok (.int 1) ∧
        t.dumpValue (.int 4294967296) = .error (.outOfRange 4294967296 .i32) := by
  have accepted :
      ((Registration.enum "grade" oddMembers).outcome (builtin.asked [moneyType])).1 = .ok () := rfl
  obtain ⟨resolved, each⟩ := members_usable_iff [moneyType] [gradeEnum] "grade" oddMembers accepted
  have low : ("low", (1 : Int64)) ∈ oddMembers := by simp [oddMembers]
  have high : (" high", (2 : Int64)) ∈ oddMembers := by simp [oddMembers]
  have lowBehind : ("low ", (3 : Int64)) ∈ oddMembers := by simp [oddMembers]
  have vast : ("vast", (4294967296 : Int64)) ∈ oddMembers := by simp [oddMembers]
  have trimmed_low : trimmed "low" = "low" := rfl
  have trimmed_high : trimmed " high" = "high" := rfl
  have trimmed_lowBehind : trimmed "low " = "low" := rfl
  refine ⟨accepted, _, resolved, ?_, ?_, ?_, ?_⟩
  · apply (each _ _ low).1.mpr
    rw [trimmed_low]
    refine ⟨low, ?_⟩
    rintro ⟨-, outside⟩
    exact absurd outside (by decide)
  · apply (each _ _ high).2.1
    rw [trimmed_high]
    simp [oddMembers]
  · apply (each _ _ lowBehind).2.2.1
    rw [trimmed_lowBehind]
    exact low
  · exact (each _ _ vast).2.2.2 ⟨rfl, .inr (by decide)⟩

open Registry in
/-- Not every accepted member can be used. -/
theorem not_every_member_usable :
    ¬∀ calls more ns members,
      ((Registration.enum ns members).outcome (builtin.asked calls)).1 = .ok () →
        ∃ t, (builtin.asked (calls ++ .enum ns members :: more)).resolve ("enum:" ++ ns) = .ok t ∧
          ∀ name value, (name, value) ∈ members → t.Uses name value := by
  intro every
  obtain ⟨t, resolved, uses⟩ := every [] [] "grade" oddMembers rfl
  have hresolved : (builtin.asked [.enum "grade" oddMembers]).resolve "enum:grade"
      = .ok (enumColumn "grade" oddMembers) := rfl
  obtain rfl := Except.ok.inj (hresolved.symm.trans resolved)
  have high : (" high", (2 : Int64)) ∈ oddMembers := by simp [oddMembers]
  have converted := (uses " high" 2 high).1
  have refused : (enumColumn "grade" oddMembers).convertCell " high"
      = .error ⟨.unknown, " high", "not in enum 'grade'"⟩ := rfl
  rw [refused] at converted
  cases converted

end TableCompiler
