import TableCompiler.Column.Resolve
import TableCompiler.Proofs.Number.Numeral

/-!
# Attributes — the language behind the names of the built-in types

A built-in type other than the enum can have a main attribute, and some of these a sub attribute.
`BuiltinMeans` lists all of them, each with what it decides: the radix and the role of integers, and the
hash, the encoding, the policy and the role of texts.  Resolving gives just what is listed
(`resolveAttributes_eq_ok_iff`), and refuses the rest for one of two reasons (`BuiltinRefused`): the main
attribute is none of the semantic type, whatever stands behind it, or it is one and the sub attribute does
not belong to it (`resolveAttributes_eq_error_iff`).
-/

namespace TableCompiler

open TableCompiler.Number

variable {semantic : SemanticType} {width : StorageWidth} {main : String} {sub? : Option String}
variable {res : Resolution} {radix : Nat} {role : KeyRole} {e : TypeError} {s : String}

/-! ## Names -/

/-- The name of an encoding in type expressions. -/
def TextEncoding.name : TextEncoding → String
  | .utf8 => "utf8"
  | .utf16 => "utf16"
  | .ascii => "ascii"

/-- The name of a policy in type expressions. -/
def ErrorPolicy.name : ErrorPolicy → String
  | .strict => "strict"
  | .ignore => "ignore"
  | .replace => "replace"

/-- A hash is found under its own name. -/
theorem KeyHash.ofName?_eq_some_iff {h : KeyHash} : KeyHash.ofName? s = some h ↔ s = h.name := by
  constructor
  · intro found
    have hname := List.find?_some (p := fun k => KeyHash.name k = s) found
    exact (of_decide_eq_true hname).symm
  · rintro rfl
    exact ofName?_name h

theorem KeyHash.ofName?_eq_none_iff : KeyHash.ofName? s = none ↔ ∀ h : KeyHash, s ≠ h.name := by
  constructor
  · rintro none h rfl
    cases none.symm.trans (ofName?_name h)
  · intro other
    cases found : KeyHash.ofName? s with
    | none => rfl
    | some h => exact absurd (ofName?_eq_some_iff.mp found) (other h)

/-- An encoding is found under its own name. -/
theorem TextEncoding.ofName?_eq_some_iff {encoding : TextEncoding} :
    TextEncoding.ofName? s = some encoding ↔ s = encoding.name := by
  constructor
  · intro found
    unfold TextEncoding.ofName? at found
    split at found
    case isTrue h => exact Option.some.inj found ▸ h
    case isFalse =>
      split at found
      case isTrue h => exact Option.some.inj found ▸ h
      case isFalse =>
        split at found
        case isTrue h => exact Option.some.inj found ▸ h
        case isFalse => cases found
  · rintro rfl
    cases encoding <;> rfl

/-- A policy is found under its own name. -/
theorem ErrorPolicy.ofName?_eq_some_iff {policy : ErrorPolicy} :
    ErrorPolicy.ofName? s = some policy ↔ s = policy.name := by
  constructor
  · intro found
    unfold ErrorPolicy.ofName? at found
    split at found
    case isTrue h => exact Option.some.inj found ▸ h
    case isFalse =>
      split at found
      case isTrue h => exact Option.some.inj found ▸ h
      case isFalse =>
        split at found
        case isTrue h => exact Option.some.inj found ▸ h
        case isFalse => cases found
  · rintro rfl
    cases policy <;> rfl

/-! ## Radices -/

/-- A literal of a radix: decimal digits for a number from 2 to 36, perhaps behind a plus. -/
def RadixLiteral (main : String) (radix : Nat) : Prop :=
  ∃ digits, (main.toList = digits ∨ main.toList = '+' :: digits) ∧ digits ≠ [] ∧
    AmountTo 10 digits radix ∧ 2 ≤ radix ∧ radix ≤ 36

/-- A radix is read from decimal digits, with one plus in front at most, and must lie between 2 and
36. -/
theorem radixOf?_of_digits {digits : List Char}
    (bare : s.toList = '+' :: digits ∨ s.toList = digits ∧ ∀ rest, digits ≠ '+' :: rest) :
    radixOf? s =
      if digits.isEmpty || !digits.all Text.isDigit then none
      else if 2 ≤ ofDecimalDigits digits && ofDecimalDigits digits ≤ 36 then
        some (ofDecimalDigits digits)
      else none := by
  unfold radixOf?
  rcases bare with h | ⟨h, unsigned⟩
  · rw [h]
    rfl
  · rw [h]
    split
    case h_1 rest => exact absurd rfl (unsigned rest)
    case h_2 => rfl

/-- What a radix is read from, a plus in front apart. -/
theorem radixOf?_eq_some_iff_of_digits {digits : List Char}
    (bare : s.toList = '+' :: digits ∨ s.toList = digits ∧ ∀ rest, digits ≠ '+' :: rest) :
    radixOf? s = some radix ↔
      digits ≠ [] ∧ AmountTo 10 digits radix ∧ 2 ≤ radix ∧ radix ≤ 36 := by
  rw [radixOf?_of_digits bare, amountTo_ten_iff]
  -- the tests of the reader, one after the other: digits there are, and their amount is a radix
  split
  case isTrue wrong =>
    refine iff_of_false (fun h => nomatch h) ?_
    rintro ⟨some, ⟨all, -⟩, -⟩
    rw [all, List.isEmpty_eq_false_iff.mpr some] at wrong
    cases wrong
  case isFalse right =>
    rw [Bool.or_eq_true, not_or, Bool.not_eq_true, List.isEmpty_eq_false_iff, Bool.not_eq_true',
      Bool.not_eq_false] at right
    obtain ⟨some, all⟩ := right
    split
    case isTrue within =>
      rw [Bool.and_eq_true, decide_eq_true_eq, decide_eq_true_eq] at within
      constructor
      · intro h
        obtain rfl := Option.some.inj h
        exact ⟨some, ⟨all, rfl⟩, within⟩
      · rintro ⟨-, ⟨-, rfl⟩, -⟩
        rfl
    case isFalse outside =>
      rw [Bool.and_eq_true, decide_eq_true_eq, decide_eq_true_eq] at outside
      refine iff_of_false (fun h => nomatch h) ?_
      rintro ⟨-, ⟨-, rfl⟩, within⟩
      exact outside within

/-- **A RADIX** is read from its literals. -/
theorem radixOf?_eq_some_iff : radixOf? main = some radix ↔ RadixLiteral main radix := by
  -- a plus is taken off first, so the literals with one and without are told apart
  by_cases plus : ∃ digits, main.toList = '+' :: digits
  · obtain ⟨digits, hmain⟩ := plus
    rw [radixOf?_eq_some_iff_of_digits (.inl hmain)]
    constructor
    · exact fun h => ⟨digits, .inr hmain, h⟩
    · rintro ⟨digits', hmain' | hmain', some, amount, within⟩
      · -- a plus is no digit
        rw [← hmain', hmain] at amount
        obtain ⟨d, digit⟩ := amount.head
        exact absurd (.inl rfl) digit.not_sign
      · obtain rfl := (List.cons.inj (hmain.symm.trans hmain')).2
        exact ⟨some, amount, within⟩
  · rw [radixOf?_eq_some_iff_of_digits (.inr ⟨rfl, fun rest h => plus ⟨rest, h⟩⟩)]
    constructor
    · exact fun h => ⟨main.toList, .inl rfl, h⟩
    · rintro ⟨digits, rfl | hmain, some, amount, within⟩
      · exact ⟨some, amount, within⟩
      · exact absurd ⟨digits, hmain⟩ plus

/-- No word is a literal. -/
theorem RadixLiteral.ne {word : String} (literal : RadixLiteral main radix)
    (none : radixOf? word = none) : main ≠ word := by
  rintro rfl
  cases none.symm.trans (radixOf?_eq_some_iff.mpr literal)

/-! ## Integers -/

/-- The attributes that say how integers are written or that they are a key, with radix and role. -/
inductive IntegerAttribute : String → Nat → KeyRole → Prop where
  | binary : IntegerAttribute "bin" 2 .none
  | octal : IntegerAttribute "oct" 8 .none
  | hexadecimal : IntegerAttribute "hex" 16 .none
  | primary : IntegerAttribute "pk" 10 .primary
  | literal {main : String} {radix : Nat} : RadixLiteral main radix →
      IntegerAttribute main radix .none

/-- A main attribute of integers stands for the radix and the role that the listing gives it. -/
theorem integerAttr?_eq_some_iff :
    integerAttr? main = some (radix, role) ↔ IntegerAttribute main radix role := by
  constructor
  · intro found
    have parts : ∀ {radix' : Nat} {role' : KeyRole}, some (radix', role') = some (radix, role) →
        radix' = radix ∧ role' = role := fun h => Prod.mk.inj (Option.some.inj h)
    unfold integerAttr? at found
    split at found
    case isTrue h =>
      obtain ⟨rfl, rfl⟩ := parts found
      exact h ▸ .binary
    case isFalse =>
      split at found
      case isTrue h =>
        obtain ⟨rfl, rfl⟩ := parts found
        exact h ▸ .octal
      case isFalse =>
        split at found
        case isTrue h =>
          obtain ⟨rfl, rfl⟩ := parts found
          exact h ▸ .hexadecimal
        case isFalse =>
          split at found
          case isTrue h =>
            obtain ⟨rfl, rfl⟩ := parts found
            exact h ▸ .primary
          case isFalse =>
            obtain ⟨radix', hradix, heq⟩ := Option.map_eq_some_iff.mp found
            obtain ⟨rfl, rfl⟩ := Prod.mk.inj heq
            exact .literal (radixOf?_eq_some_iff.mp hradix)
  · intro listed
    cases listed with
    | binary => rfl
    | octal => rfl
    | hexadecimal => rfl
    | primary => rfl
    | literal literal =>
        -- none of the words in front of it is a literal
        rw [integerAttr?, if_neg (literal.ne rfl), if_neg (literal.ne rfl), if_neg (literal.ne rfl),
          if_neg (literal.ne rfl), radixOf?_eq_some_iff.mpr literal, Option.map_some]

/-- A foreign key is none of the other attributes. -/
theorem IntegerAttribute.ne_foreign (listed : IntegerAttribute main radix role) :
    main ≠ "fk" := by
  rintro rfl
  cases (integerAttr?_eq_some_iff.mpr listed).symm.trans (rfl : integerAttr? "fk" = none)

/-- What the attributes of integers decide.  Of them only a foreign key has a sub attribute, its
target. -/
inductive IntegerMeans (width : StorageWidth) : String → Option String → Resolution → Prop where
  | alone {main : String} {radix : Nat} {role : KeyRole} : IntegerAttribute main radix role →
      IntegerMeans width main none (.integer radix width role)
  | foreign (target? : Option String) :
      IntegerMeans width "fk" target? (.integer 10 width (.foreign target?))

/-- Integers resolve just if their attributes mean something, to that. -/
theorem resolveInteger_eq_ok_iff :
    resolveInteger semantic width main sub? = .ok res ↔ IntegerMeans width main sub? res := by
  constructor
  · intro resolved
    unfold resolveInteger at resolved
    -- foreign keys come first, since their sub attribute is a target and never a stray
    split at resolved
    case isTrue h =>
      obtain rfl := Except.ok.inj resolved
      exact h ▸ .foreign sub?
    case isFalse =>
      split at resolved
      case h_1 => cases resolved
      case h_2 => cases resolved
      case h_3 found =>
        obtain rfl := Except.ok.inj resolved
        exact .alone (integerAttr?_eq_some_iff.mp found)
  · rintro (listed | ⟨target?⟩)
    · unfold resolveInteger
      rw [if_neg listed.ne_foreign, integerAttr?_eq_some_iff.mpr listed]
    · rfl

/-! ## Texts -/

/-- What the attributes of texts decide.  Keys are hashed, with Adler-32 if no other hash is named; the
word behind a foreign key that names no hash is its target. -/
inductive TextMeans (width : StorageWidth) : String → Option String → Resolution → Prop where
  | lookup : TextMeans width "key" none { Resolution.plain .string width with role := .lookup }
  | primary : TextMeans width "pk" none (.hashed .adler32 .primary)
  | primaryNamed (h : KeyHash) : TextMeans width "pk" (some h.name) (.hashed h .primary)
  | foreign : TextMeans width "fk" none (.hashed .adler32 (.foreign none))
  | foreignNamed (h : KeyHash) : TextMeans width "fk" (some h.name) (.hashed h (.foreign none))
  | foreignTo {target : String} : (∀ h : KeyHash, target ≠ h.name) →
      TextMeans width "fk" (some target) (.hashed .adler32 (.foreign (some target)))
  | hashed (h : KeyHash) : TextMeans width h.name none (.hashed h .none)
  | encoded (encoding : TextEncoding) :
      TextMeans width encoding.name none (.encoded width encoding .strict)
  | encodedWith (encoding : TextEncoding) (policy : ErrorPolicy) :
      TextMeans width encoding.name (some policy.name) (.encoded width encoding policy)

/-- A primary key that resolves names a hash or nothing. -/
theorem means_of_resolvePrimary (resolved : resolvePrimary sub? = .ok res) :
    TextMeans width "pk" sub? res := by
  unfold resolvePrimary at resolved
  split at resolved
  case h_1 =>
    obtain rfl := Except.ok.inj resolved
    exact .primary
  case h_2 =>
    split at resolved
    case h_1 h found =>
      obtain rfl := Except.ok.inj resolved
      rw [KeyHash.ofName?_eq_some_iff.mp found]
      exact .primaryNamed h
    case h_2 => cases resolved

/-- A foreign key means something with any sub attribute, and with none. -/
theorem means_resolveForeign (width : StorageWidth) (sub? : Option String) :
    TextMeans width "fk" sub? (resolveForeign sub?) := by
  unfold resolveForeign
  split
  case h_1 => exact .foreign
  case h_2 =>
    split
    case h_1 h found =>
      rw [KeyHash.ofName?_eq_some_iff.mp found]
      exact .foreignNamed h
    case h_2 none => exact .foreignTo (KeyHash.ofName?_eq_none_iff.mp none)

/-- An encoding that resolves has a policy or nothing behind it. -/
theorem means_of_resolveEncoding {encoding : TextEncoding}
    (resolved : resolveEncoding width encoding.name encoding sub? = .ok res) :
    TextMeans width encoding.name sub? res := by
  unfold resolveEncoding at resolved
  split at resolved
  case h_1 =>
    obtain rfl := Except.ok.inj resolved
    exact .encoded encoding
  case h_2 =>
    split at resolved
    case h_1 policy found =>
      obtain rfl := Except.ok.inj resolved
      rw [ErrorPolicy.ofName?_eq_some_iff.mp found]
      exact .encodedWith encoding policy
    case h_2 => cases resolved

/-- A text that resolves has attributes that mean something. -/
theorem means_of_resolveString (resolved : resolveString width main sub? = .ok res) :
    TextMeans width main sub? res := by
  unfold resolveString at resolved
  -- the names are tried in this order: lookup, primary, foreign, hashes, encodings
  split at resolved
  case isTrue h =>
    cases sub? with
    | some sub => cases resolved
    | none =>
        obtain rfl := Except.ok.inj resolved
        exact h ▸ .lookup
  case isFalse =>
    split at resolved
    case isTrue h => exact h ▸ means_of_resolvePrimary resolved
    case isFalse =>
      split at resolved
      case isTrue h =>
        obtain rfl := Except.ok.inj resolved
        exact h ▸ means_resolveForeign width sub?
      case isFalse =>
        split at resolved
        case h_1 h found =>
          cases sub? with
          | some sub => cases resolved
          | none =>
              obtain rfl := Except.ok.inj resolved
              rw [KeyHash.ofName?_eq_some_iff.mp found]
              exact .hashed h
        case h_2 =>
          split at resolved
          case h_1 encoding found =>
            rw [TextEncoding.ofName?_eq_some_iff.mp found] at resolved ⊢
            exact means_of_resolveEncoding resolved
          case h_2 => cases resolved

/-- Attributes of texts that mean something resolve to that. -/
theorem TextMeans.resolves (means : TextMeans width main sub? res) :
    resolveString width main sub? = .ok res := by
  cases means with
  | lookup => rfl
  | primary => rfl
  | primaryNamed h => cases h <;> rfl
  | foreign => rfl
  | foreignNamed h => cases h <;> rfl
  | @foreignTo target other =>
      show Except.ok (resolveForeign (some target)) = _
      rw [resolveForeign, KeyHash.ofName?_eq_none_iff.mpr other]
  | hashed h => cases h <;> rfl
  | encoded encoding => cases encoding <;> rfl
  | encodedWith encoding policy => cases encoding <;> cases policy <;> rfl

theorem resolveString_eq_ok_iff :
    resolveString width main sub? = .ok res ↔ TextMeans width main sub? res :=
  ⟨means_of_resolveString, TextMeans.resolves⟩

/-! ## All built-in types -/

/-- What the attributes of a built-in type decide, enums apart. -/
inductive BuiltinMeans :
    SemanticType → StorageWidth → Option String → Option String → Resolution → Prop where
  /-- Without a main attribute there is no sub attribute either. -/
  | plain (semantic : SemanticType) (width : StorageWidth) (sub? : Option String) :
      BuiltinMeans semantic width none sub? (.plain semantic width)
  | int {width : StorageWidth} {main : String} {sub? : Option String} {res : Resolution} :
      IntegerMeans width main sub? res → BuiltinMeans .int width (some main) sub? res
  | uint {width : StorageWidth} {main : String} {sub? : Option String} {res : Resolution} :
      IntegerMeans width main sub? res → BuiltinMeans .uint width (some main) sub? res
  | text {width : StorageWidth} {main : String} {sub? : Option String} {res : Resolution} :
      TextMeans width main sub? res → BuiltinMeans .string width (some main) sub? res

/-- Why the attributes of a built-in type are refused: the main one means nothing, whatever stands
behind it, or it means something and the sub one nothing behind it. -/
inductive BuiltinRefused (semantic : SemanticType) (width : StorageWidth) :
    Option String → Option String → TypeError → Prop where
  | main {main : String} (sub? : Option String) :
      (∀ res, ¬BuiltinMeans semantic width (some main) none res) →
      BuiltinRefused semantic width (some main) sub? (.unknownMainAttribute semantic main)
  | sub {main sub : String} {res : Resolution} :
      BuiltinMeans semantic width (some main) none res →
      (∀ res, ¬BuiltinMeans semantic width (some main) (some sub) res) →
      BuiltinRefused semantic width (some main) (some sub) (.unknownSubAttribute semantic main sub)

/-- **RESOLVING ATTRIBUTES** gives just what they mean. -/
theorem resolveAttributes_eq_ok_iff :
    resolveAttributes semantic width main sub? = .ok res ↔
      BuiltinMeans semantic width (some main) sub? res := by
  constructor
  · intro resolved
    cases semantic with
    | int => exact .int (resolveInteger_eq_ok_iff.mp resolved)
    | uint => exact .uint (resolveInteger_eq_ok_iff.mp resolved)
    | string => exact .text (resolveString_eq_ok_iff.mp resolved)
    | _ => cases resolved
  · rintro (_ | means | means | means)
    · exact resolveInteger_eq_ok_iff.mpr means
    · exact resolveInteger_eq_ok_iff.mpr means
    · exact resolveString_eq_ok_iff.mpr means

theorem BuiltinMeans.eq_plain (means : BuiltinMeans semantic width none sub? res) :
    res = .plain semantic width := by
  cases means
  rfl

theorem BuiltinMeans.ne_enum (means : BuiltinMeans semantic width (some main) sub? res) :
    semantic ≠ .enum := by
  rintro rfl
  cases means

/-- **A MAIN ATTRIBUTE** with a meaning has one also without the sub attribute. -/
theorem BuiltinMeans.without_sub (means : BuiltinMeans semantic width (some main) sub? res) :
    ∃ res', BuiltinMeans semantic width (some main) none res' := by
  have integer : ∀ {width main sub? res}, IntegerMeans width main sub? res →
      ∃ res', IntegerMeans width main none res' := by
    rintro _ _ _ _ (listed | _)
    · exact ⟨_, .alone listed⟩
    · exact ⟨_, .foreign none⟩
  -- every main attribute that means something with a sub attribute does so without
  cases means with
  | int means => exact (integer means).imp fun _ => .int
  | uint means => exact (integer means).imp fun _ => .uint
  | text means =>
      cases means with
      | lookup => exact ⟨_, .text .lookup⟩
      | primary => exact ⟨_, .text .primary⟩
      | primaryNamed _ => exact ⟨_, .text .primary⟩
      | foreign => exact ⟨_, .text .foreign⟩
      | foreignNamed _ => exact ⟨_, .text .foreign⟩
      | foreignTo _ => exact ⟨_, .text .foreign⟩
      | hashed h => exact ⟨_, .text (.hashed h)⟩
      | encoded encoding => exact ⟨_, .text (.encoded encoding)⟩
      | encodedWith encoding _ => exact ⟨_, .text (.encoded encoding)⟩

/-- An error names the main attribute if nothing is meant by it alone, and else the sub attribute. -/
def NamesStray (semantic : SemanticType) (main : String) (sub? : Option String)
    (Meant : Resolution → Prop) (e : TypeError) : Prop :=
  (e = .unknownMainAttribute semantic main ∧ ∀ res, ¬Meant res) ∨
    ∃ sub, sub? = some sub ∧ e = .unknownSubAttribute semantic main sub ∧ ∃ res, Meant res

/-- A refused integer names the attribute that means nothing. -/
theorem refused_of_resolveInteger (refused : resolveInteger semantic width main sub? = .error e) :
    NamesStray semantic main sub? (IntegerMeans width main none) e := by
  unfold resolveInteger at refused
  split at refused
  case isTrue => cases refused
  case isFalse other =>
    split at refused
    case h_1 none =>
      refine .inl ⟨(Except.error.inj refused).symm, ?_⟩
      rintro res (listed | _)
      · cases none.symm.trans (integerAttr?_eq_some_iff.mpr listed)
      · exact other rfl
    case h_2 found =>
      exact .inr ⟨_, rfl, (Except.error.inj refused).symm, _,
        .alone (integerAttr?_eq_some_iff.mp found)⟩
    case h_3 => cases refused

theorem refused_of_resolvePrimary (refused : resolvePrimary sub? = .error e) :
    ∃ sub, sub? = some sub ∧ e = .unknownSubAttribute .string "pk" sub := by
  unfold resolvePrimary at refused
  split at refused
  case h_1 => cases refused
  case h_2 sub =>
    split at refused
    case h_1 => cases refused
    case h_2 => exact ⟨sub, rfl, (Except.error.inj refused).symm⟩

theorem refused_of_resolveEncoding {encoding : TextEncoding}
    (refused : resolveEncoding width main encoding sub? = .error e) :
    ∃ sub, sub? = some sub ∧ e = .unknownSubAttribute .string main sub := by
  unfold resolveEncoding at refused
  split at refused
  case h_1 => cases refused
  case h_2 sub =>
    split at refused
    case h_1 => cases refused
    case h_2 => exact ⟨sub, rfl, (Except.error.inj refused).symm⟩

/-- A refused text names the attribute that means nothing. -/
theorem refused_of_resolveString (refused : resolveString width main sub? = .error e) :
    NamesStray .string main sub? (TextMeans width main none) e := by
  unfold resolveString at refused
  split at refused
  case isTrue h =>
    subst h
    cases sub? with
    | none => cases refused
    | some sub => exact .inr ⟨sub, rfl, (Except.error.inj refused).symm, _, .lookup⟩
  case isFalse lookup =>
    split at refused
    case isTrue h =>
      subst h
      obtain ⟨sub, rfl, rfl⟩ := refused_of_resolvePrimary refused
      exact .inr ⟨sub, rfl, rfl, _, .primary⟩
    case isFalse primary =>
      split at refused
      case isTrue => cases refused
      case isFalse foreign =>
        split at refused
        case h_1 h found =>
          rw [KeyHash.ofName?_eq_some_iff.mp found] at refused ⊢
          cases sub? with
          | none => cases refused
          | some sub => exact .inr ⟨sub, rfl, (Except.error.inj refused).symm, _, .hashed h⟩
        case h_2 noHash =>
          split at refused
          case h_1 encoding found =>
            obtain ⟨sub, rfl, rfl⟩ := refused_of_resolveEncoding refused
            rw [TextEncoding.ofName?_eq_some_iff.mp found]
            exact .inr ⟨sub, rfl, rfl, _, .encoded encoding⟩
          case h_2 noEncoding =>
            -- every word with a meaning has been looked for by now
            refine .inl ⟨(Except.error.inj refused).symm, fun res means => ?_⟩
            have resolved := means.resolves
            unfold resolveString at resolved
            rw [if_neg lookup, if_neg primary, if_neg foreign, noHash, noEncoding] at resolved
            cases resolved

/-- A built-in type is refused for the one reason that its attributes have. -/
theorem refused_of_resolveAttributes
    (refused : resolveAttributes semantic width main sub? = .error e) :
    BuiltinRefused semantic width (some main) sub? e := by
  have unresolved : ∀ res, ¬BuiltinMeans semantic width (some main) sub? res := fun res means =>
    nomatch refused.symm.trans (resolveAttributes_eq_ok_iff.mpr means)
  have decided : ∀ {Meant : Resolution → Prop},
      (∀ {res}, Meant res ↔ BuiltinMeans semantic width (some main) none res) →
      NamesStray semantic main sub? Meant e → BuiltinRefused semantic width (some main) sub? e := by
    rintro Meant meant (⟨rfl, none⟩ | ⟨sub, rfl, rfl, res, alone⟩)
    · exact .main sub? fun res means => none res (meant.mpr means)
    · exact .sub (meant.mp alone) unresolved
  cases semantic with
  | int => exact decided ⟨.int, fun | .int means => means⟩ (refused_of_resolveInteger refused)
  | uint => exact decided ⟨.uint, fun | .uint means => means⟩ (refused_of_resolveInteger refused)
  | string => exact decided ⟨.text, fun | .text means => means⟩ (refused_of_resolveString refused)
  | _ =>
      obtain rfl := Except.error.inj refused
      exact .main sub? fun res means => nomatch means

/-- What is refused means nothing. -/
theorem BuiltinRefused.not_means {main? : Option String}
    (refused : BuiltinRefused semantic width main? sub? e) :
    ¬BuiltinMeans semantic width main? sub? res := by
  intro means
  cases refused with
  | main _ none =>
      obtain ⟨res', alone⟩ := means.without_sub
      exact none res' alone
  | sub _ none => exact none res means

/-- Attributes are refused for one reason. -/
theorem BuiltinRefused.unique {main? : Option String} {e' : TypeError}
    (refused : BuiltinRefused semantic width main? sub? e)
    (refused' : BuiltinRefused semantic width main? sub? e') : e = e' := by
  cases refused with
  | main _ none =>
      cases refused' with
      | main _ _ => rfl
      | sub alone _ => exact absurd alone (none _)
  | sub alone _ =>
      cases refused' with
      | main _ none => exact absurd alone (none _)
      | sub _ _ => rfl

/-- **ATTRIBUTES ARE REFUSED** that mean nothing, for the reason that they have. -/
theorem resolveAttributes_eq_error_iff :
    resolveAttributes semantic width main sub? = .error e ↔
      BuiltinRefused semantic width (some main) sub? e := by
  refine ⟨refused_of_resolveAttributes, fun refused => ?_⟩
  cases h : resolveAttributes semantic width main sub? with
  | ok res => exact absurd (resolveAttributes_eq_ok_iff.mp h) refused.not_means
  | error e' => rw [(refused_of_resolveAttributes h).unique refused]

/-! ## Parts of an expression -/

variable {r : Registry} {expr : String} {base : BaseType} {parts : TypeExpr}

/-- **THE PARTS** of an expression of a built-in type, enums apart, decide what its attributes mean. -/
theorem resolveParts_eq_ok_iff (builtin : base.convert? = none) (other : base.semantic ≠ .enum) :
    resolveParts r expr base parts = .ok res ↔
      BuiltinMeans base.semantic base.width parts.main? parts.sub? res := by
  unfold resolveParts
  rw [builtin, if_neg other]
  dsimp only
  cases parts.main? with
  | none =>
      constructor
      · intro h
        obtain rfl := Except.ok.inj h
        exact .plain base.semantic base.width parts.sub?
      · intro means
        rw [means.eq_plain]
  | some main => exact resolveAttributes_eq_ok_iff

/-- A built-in type other than the enum fails just for the reason that its attributes have. -/
theorem resolveParts_eq_error_iff (builtin : base.convert? = none) (other : base.semantic ≠ .enum) :
    resolveParts r expr base parts = .error e ↔
      BuiltinRefused base.semantic base.width parts.main? parts.sub? e := by
  unfold resolveParts
  rw [builtin, if_neg other]
  dsimp only
  cases parts.main? with
  | none => exact iff_of_false (fun h => nomatch h) fun h => nomatch h
  | some main => exact resolveAttributes_eq_error_iff

end TableCompiler
