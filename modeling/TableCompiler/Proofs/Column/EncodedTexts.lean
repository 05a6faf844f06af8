import TableCompiler.Proofs.Column.Decoding
import TableCompiler.Proofs.Column.Language
import TableCompiler.Proofs.Table.Traversal

/-!
# Encoded texts — what a text column takes, and what it writes

A text column looks at a text twice: a cell is checked when it is converted, and the text is encoded when
it is dumped.  Both passes count characters, and both stop at the first one that strict ASCII lacks
(`findIdx?_eq_some_iff`, `encodeAscii_strict_eq_error_iff`), so they refuse the same texts for the same
position.  All other texts are kept as they are, and `Encodes` says what is written of them
(`text_columns_exact`).
-/

namespace TableCompiler

open TableCompiler.Text

variable {r : Registry} {expr text : String} {parts : TypeExpr} {encoding : TextEncoding}
variable {policy : ErrorPolicy} {v : Value} {c : Char} {cs : List Char} {position : Nat}

/-! ## Foreign characters -/

/-- At that position stands the first character that is not in ASCII. -/
def FirstForeign (cs : List Char) (position : Nat) : Prop :=
  ∃ before c after, cs = before ++ c :: after ∧ before.length = position ∧
    (∀ d ∈ before, isAscii d = true) ∧ isAscii c = false

theorem not_firstForeign_nil : ¬FirstForeign [] position := by
  rintro ⟨before, c, after, hsplit, -⟩
  cases before <;> cases hsplit

theorem firstForeign_cons_foreign (hc : isAscii c = false) :
    FirstForeign (c :: cs) position ↔ position = 0 := by
  constructor
  · rintro ⟨before, c', after, hsplit, rfl, hbefore, -⟩
    cases before with
    | nil => rfl
    | cons d before =>
        obtain ⟨rfl, -⟩ := List.cons.inj hsplit
        cases hc.symm.trans (hbefore c List.mem_cons_self)
  · rintro rfl
    exact ⟨[], c, cs, rfl, rfl, fun d hd => absurd hd List.not_mem_nil, hc⟩

/-- Behind an ASCII character the first foreign one stands one place further on. -/
theorem firstForeign_cons_ascii (hc : isAscii c = true) :
    FirstForeign (c :: cs) position ↔ ∃ n, FirstForeign cs n ∧ position = n + 1 := by
  constructor
  · rintro ⟨before, c', after, hsplit, rfl, hbefore, hforeign⟩
    cases before with
    | nil =>
        obtain ⟨rfl, -⟩ := List.cons.inj hsplit
        cases hc.symm.trans hforeign
    | cons d before =>
        obtain ⟨-, rfl⟩ := List.cons.inj hsplit
        have hrest : ∀ d ∈ before, isAscii d = true := fun d hd => hbefore d (List.mem_cons_of_mem _ hd)
        exact ⟨before.length, ⟨before, c', after, rfl, rfl, hrest, hforeign⟩, rfl⟩
  · rintro ⟨n, ⟨before, c', after, rfl, rfl, hbefore, hforeign⟩, rfl⟩
    refine ⟨c :: before, c', after, rfl, rfl, fun d hd => ?_, hforeign⟩
    rcases List.mem_cons.mp hd with rfl | hd
    · exact hc
    · exact hbefore d hd

/-- A text in which no character comes first that is not in ASCII has none. -/
theorem isAscii_of_mem (none : ∀ n, ¬FirstForeign cs n) (hc : c ∈ cs) : isAscii c = true := by
  induction cs with
  | nil => exact absurd hc List.not_mem_nil
  | cons d cs ih =>
      cases hd : isAscii d with
      | false => exact absurd ((firstForeign_cons_foreign hd).mpr rfl) (none 0)
      | true =>
          rcases List.mem_cons.mp hc with rfl | hc
          · exact hd
          · refine ih (fun n first => ?_) hc
            exact none (n + 1) ((firstForeign_cons_ascii hd).mpr ⟨n, first, rfl⟩)

/-! ## Two passes -/

/-- **THE CHECK** finds the first foreign character. -/
theorem findIdx?_eq_some_iff :
    (cs.findIdx? fun c => !isAscii c) = some position ↔ FirstForeign cs position := by
  induction cs generalizing position with
  | nil => exact iff_of_false (fun h => nomatch h) not_firstForeign_nil
  | cons c cs ih =>
      rw [List.findIdx?_cons]
      cases hc : isAscii c with
      | false =>
          rw [firstForeign_cons_foreign hc]
          exact ⟨fun h => (Option.some.inj h).symm, fun h => congrArg some h.symm⟩
      | true =>
          rw [firstForeign_cons_ascii hc]
          show (cs.findIdx? fun c => !isAscii c).map (· + 1) = some position ↔ _
          rw [Option.map_eq_some_iff]
          exact exists_congr fun n => and_congr ih eq_comm

/-- **THE ENCODER** fails at the first foreign character. -/
theorem encodeAscii_strict_eq_error_iff {start : Nat} {e : DumpError} :
    encodeAscii .strict start cs = .error e ↔
      ∃ n, FirstForeign cs n ∧ e = .encoding (start + n) := by
  -- the start is generalized: a position counts from the start of the whole text
  induction cs generalizing start with
  | nil =>
      refine iff_of_false (fun h => nomatch h) ?_
      rintro ⟨n, first, -⟩
      exact not_firstForeign_nil first
  | cons c cs ih =>
      cases hc : isAscii c with
      | false =>
          have refused : encodeAscii .strict start (c :: cs) = .error (.encoding start) := by
            rw [encodeAscii, hc]
            rfl
          rw [refused]
          simp only [firstForeign_cons_foreign hc, exists_eq_left, Nat.add_zero]
          exact ⟨fun h => (Except.error.inj h).symm, fun h => congrArg Except.error h.symm⟩
      | true =>
          have passed : encodeAscii .strict start (c :: cs)
              = (encodeAscii .strict (start + 1) cs).map (asciiByte c :: ·) := by
            rw [encodeAscii, hc]
            rfl
          rw [passed, map_eq_error_iff, ih]
          simp only [firstForeign_cons_ascii hc]
          constructor
          · rintro ⟨n, first, rfl⟩
            exact ⟨n + 1, ⟨n, first, rfl⟩, by rw [Nat.add_assoc, Nat.add_comm 1 n]⟩
          · rintro ⟨_, ⟨n, first, rfl⟩, rfl⟩
            exact ⟨n, first, by rw [Nat.add_assoc, Nat.add_comm 1 n]⟩

/-! ## What is written -/

/-- The bytes of a text in UTF-8 are those of the library. -/
theorem Text.Utf8.encode_eq_toUTF8 (s : String) : Utf8.encode s = s.toUTF8.data.toList := by
  rw [String.toUTF8, ← String.utf8Encode_toList, List.utf8Encode, List.toList_data_toByteArray]
  rfl

/-- ASCII text has one byte for each character in UTF-8. -/
theorem encodeChars_of_ascii (ascii : ∀ c ∈ cs, isAscii c = true) :
    Utf8.encodeChars cs = cs.map asciiByte := by
  induction cs with
  | nil => rfl
  | cons c cs ih =>
      show String.utf8EncodeChar c ++ Utf8.encodeChars cs = asciiByte c :: cs.map asciiByte
      rw [encodeChar_of_isAscii (ascii c List.mem_cons_self),
        ih fun d hd => ascii d (List.mem_cons_of_mem c hd)]
      rfl

/-- In ASCII no policy is asked. -/
theorem encodeAscii_of_ascii (policy : ErrorPolicy) (start : Nat)
    (ascii : ∀ c ∈ cs, isAscii c = true) :
    encodeAscii policy start cs = .ok (cs.map asciiByte) := by
  induction cs generalizing start with
  | nil => rfl
  | cons c cs ih =>
      rw [encodeAscii.eq_def]
      dsimp only
      rw [if_pos (ascii c List.mem_cons_self),
        ih (start + 1) fun d hd => ascii d (List.mem_cons_of_mem c hd)]
      rfl

theorem encodeAscii_ignore (start : Nat) (cs : List Char) :
    encodeAscii .ignore start cs = .ok ((cs.filter isAscii).map asciiByte) := by
  induction cs generalizing start with
  | nil => rfl
  | cons c cs ih =>
      rw [encodeAscii, ih, List.filter_cons]
      cases isAscii c <;> rfl

/-- The byte that stands for a character where foreign ones are replaced. -/
def asciiByteOr (substitute c : Char) : UInt8 :=
  if isAscii c then asciiByte c else asciiByte substitute

theorem encodeAscii_replace (start : Nat) (cs : List Char) :
    encodeAscii .replace start cs = .ok (cs.map (asciiByteOr '?')) := by
  induction cs generalizing start with
  | nil => rfl
  | cons c cs ih =>
      rw [encodeAscii, ih, List.map_cons, asciiByteOr]
      cases isAscii c <;> rfl

/-- A character takes one or two units of two bytes each. -/
theorem Text.Utf16.even_length_encode (s : String) : Even (Utf16.encode s).length := by
  have pairs : ∀ us : List UInt16, (us.flatMap Utf16.littleEndian).length = us.length + us.length := by
    intro us
    induction us with
    | nil => rfl
    | cons u us ih =>
        rw [List.flatMap_cons, List.length_append, ih, List.length_cons]
        show 2 + _ = _
        omega
  exact ⟨_, pairs (Utf16.units s)⟩

/-- What is written of a text in an encoding.  Strict ASCII is for texts of ASCII characters only. -/
def Encodes (text : String) (bytes : List UInt8) : TextEncoding → ErrorPolicy → Prop
  | .utf8, _ => bytes = text.toUTF8.data.toList
  | .utf16, _ => Even bytes.length ∧ Utf16.decode bytes = some text
  | .ascii, .strict => bytes = text.toUTF8.data.toList ∧ bytes.length = text.length
  | .ascii, .ignore => bytes = (text.toList.filter isAscii).map asciiByte
  | .ascii, .replace => bytes = text.toList.map (asciiByteOr '?')

/-! ## Texts -/

/-- Strict ASCII lacks a character of the text, and the first of these stands at the position. -/
structure Refuses (encoding : TextEncoding) (policy : ErrorPolicy) (text : String)
    (position : Nat) : Prop where
  ascii : encoding = .ascii
  strict : policy = .strict
  first : FirstForeign text.toList position

/-- The failure of a cell whose text is refused. -/
def foreignFailure (text : String) (position : Nat) : ConversionFailure :=
  ⟨.encoding, text, "non-ascii character at position " ++ toString position⟩

/-- A pass that fails at what is refused and succeeds otherwise fails just there. -/
theorem eq_error_iff_of_refuses {ε α : Type} {x : Except ε α} {failure : Nat → ε} {e : ε}
    (refused : ∀ position, Refuses encoding policy text position → x = .error (failure position))
    (taken : (∀ position, ¬Refuses encoding policy text position) → ∃ y, x = .ok y) :
    x = .error e ↔ ∃ position, Refuses encoding policy text position ∧ e = failure position := by
  constructor
  · intro failed
    by_cases some : ∃ position, Refuses encoding policy text position
    · obtain ⟨position, refuses⟩ := some
      exact ⟨position, refuses, Except.error.inj (failed.symm.trans (refused position refuses))⟩
    · obtain ⟨y, passed⟩ := taken (not_exists.mp some)
      cases failed.symm.trans passed
  · rintro ⟨position, refuses, rfl⟩
    exact refused position refuses

/-- A cell with a foreign character is refused where ASCII is strict, at its first one. -/
theorem convertEncoded_of_refuses (refuses : Refuses encoding policy text position) :
    convertEncoded text encoding policy = .error (foreignFailure text position) := by
  obtain ⟨rfl, rfl, first⟩ := refuses
  rw [convertEncoded, if_pos (by decide), findIdx?_eq_some_iff.mpr first]
  rfl

/-- Dumping refuses a foreign character at the position at which conversion does. -/
theorem encodeText_of_refuses (refuses : Refuses encoding policy text position) :
    encodeText text encoding policy = .error (.encoding position) := by
  obtain ⟨rfl, rfl, first⟩ := refuses
  exact encodeAscii_strict_eq_error_iff.mpr ⟨position, first, by rw [Nat.zero_add]⟩

section Taken

variable (taken : ∀ position, ¬Refuses encoding policy text position)
include taken

/-- A text that strict ASCII takes has ASCII characters only. -/
theorem isAscii_of_taken (ascii : encoding = .ascii) (strict : policy = .strict) :
    ∀ c ∈ text.toList, isAscii c = true :=
  fun _ hc => isAscii_of_mem (fun n first => taken n ⟨ascii, strict, first⟩) hc

/-- A cell that is not refused for a foreign character is taken as it is. -/
theorem convertEncoded_of_taken : convertEncoded text encoding policy = .ok (.text text) := by
  rw [convertEncoded]
  split
  case isTrue asked =>
    rw [Bool.and_eq_true, decide_eq_true_eq, decide_eq_true_eq] at asked
    split
    case h_1 position found =>
      exact absurd ⟨asked.1, asked.2, findIdx?_eq_some_iff.mp found⟩ (taken position)
    case h_2 => rfl
  case isFalse => rfl

/-- **A TEXT THAT IS TAKEN** is written as its encoding and its policy have it. -/
theorem encodeText_of_taken :
    ∃ bytes, encodeText text encoding policy = .ok bytes ∧ Encodes text bytes encoding policy := by
  cases encoding with
  | utf8 => exact ⟨_, rfl, Utf8.encode_eq_toUTF8 text⟩
  | utf16 => exact ⟨_, rfl, Utf16.even_length_encode text, Utf16.decode_encode text⟩
  | ascii =>
      cases policy with
      | ignore => exact ⟨_, encodeAscii_ignore 0 text.toList, rfl⟩
      | replace => exact ⟨_, encodeAscii_replace 0 text.toList, rfl⟩
      | strict =>
          have ascii := isAscii_of_taken taken rfl rfl
          refine ⟨_, encodeAscii_of_ascii .strict 0 ascii, ?_, ?_⟩
          · rw [← encodeChars_of_ascii ascii, ← Utf8.encode_eq_toUTF8]
            rfl
          · rw [List.length_map, String.length_toList]

end Taken

/-- **ALL BUT UTF-16** write a text of ASCII characters alike. -/
theorem encodeText_of_ascii (ascii : ∀ c ∈ text.toList, isAscii c = true)
    (bytewise : encoding ≠ .utf16) (policy : ErrorPolicy) :
    encodeText text encoding policy = .ok text.toUTF8.data.toList := by
  rw [← Utf8.encode_eq_toUTF8]
  cases encoding with
  | utf8 => rfl
  | utf16 => exact absurd rfl bytewise
  | ascii =>
      refine (encodeAscii_of_ascii policy 0 ascii).trans (congrArg Except.ok ?_)
      exact (encodeChars_of_ascii ascii).symm

/-! ## Columns -/

/-- The expressions of columns that keep their texts, each with its encoding and its policy.  A column
for which none is named is one of strict UTF-8. -/
inductive KeepsTexts : TypeExpr → TextEncoding → ErrorPolicy → Prop where
  | plain : KeepsTexts ⟨"str", none, none⟩ .utf8 .strict
  | lookup : KeepsTexts ⟨"str", some "key", none⟩ .utf8 .strict
  | encoded (encoding : TextEncoding) :
      KeepsTexts ⟨"str", some encoding.name, none⟩ encoding .strict
  | encodedWith (encoding : TextEncoding) (policy : ErrorPolicy) :
      KeepsTexts ⟨"str", some encoding.name, some policy.name⟩ encoding policy

/-- A column that keeps texts checks them, and writes them, in its encoding with its policy. -/
theorem resolve_of_keepsTexts (built : r.Built) (parsed : TypeExpr.parse expr = .ok parts)
    (keeps : KeepsTexts parts encoding policy) :
    ∃ t, r.resolve expr = .ok t ∧
      (∀ text, t.convertCell text = convertEncoded text encoding policy) ∧
      ∀ text, t.dumpValue (.text text) = encodeText text encoding policy := by
  have listed : ("str", .string, .unbounded) ∈ Registry.builtinTypes := by decide
  have resolved : ∀ {main? sub? : Option String} {res : Resolution},
      TypeExpr.parse expr = .ok ⟨"str", main?, sub?⟩ →
      BuiltinMeans .string .unbounded main? sub? res →
      r.resolve expr = .ok ⟨trimmed expr, .string, res.width, main?, sub?, res.role, res.convert,
        res.dump⟩ := fun parsed means =>
    (resolve_eq_ok_iff_means built listed (by decide) parsed).mpr ⟨_, means, rfl⟩
  -- every form leads to an encoding and a policy, the bare ones to the default
  cases keeps with
  | plain =>
      exact ⟨_, resolved parsed (.plain _ _ _), fun _ => rfl, fun _ => rfl⟩
  | lookup =>
      exact ⟨_, resolved parsed (.text .lookup), fun _ => rfl, fun _ => rfl⟩
  | encoded encoding =>
      exact ⟨_, resolved parsed (.text (.encoded encoding)), fun _ => rfl, fun _ => rfl⟩
  | encodedWith encoding policy =>
      exact ⟨_, resolved parsed (.text (.encodedWith encoding policy)), fun _ => rfl, fun _ => rfl⟩

/-- **TEXT COLUMNS** refuse a text just if strict ASCII lacks a character of it, and name the position
of the first one, which is where writing that text would fail as well.  Every other text is kept as it
is and written as `Encodes` says; in ASCII the policies make no difference, and none to UTF-8. -/
theorem text_columns_exact (built : r.Built) (parsed : TypeExpr.parse expr = .ok parts)
    (keeps : KeepsTexts parts encoding policy) :
    ∃ t, r.resolve expr = .ok t ∧ ∀ text,
      (∀ f, t.convertCell text = .error f ↔
        ∃ position, Refuses encoding policy text position ∧ f = foreignFailure text position) ∧
      (∀ e, t.dumpValue (.text text) = .error e ↔
        ∃ position, Refuses encoding policy text position ∧ e = .encoding position) ∧
      (∀ v, t.convertCell text = .ok v ↔
        (∀ position, ¬Refuses encoding policy text position) ∧ v = .text text) ∧
      ((∀ position, ¬Refuses encoding policy text position) →
        ∃ bytes, t.dumpValue (.text text) = .ok bytes ∧ Encodes text bytes encoding policy) ∧
      ((∀ c ∈ text.toList, isAscii c = true) → encoding ≠ .utf16 →
        t.dumpValue (.text text) = .ok text.toUTF8.data.toList) := by
  obtain ⟨t, resolved, converts, dumps⟩ := resolve_of_keepsTexts built parsed keeps
  refine ⟨t, resolved, fun text => ?_⟩
  rw [converts, dumps]
  refine ⟨fun f => ?_, fun e => ?_, fun v => ⟨?_, ?_⟩, encodeText_of_taken,
    fun ascii bytewise => encodeText_of_ascii ascii bytewise policy⟩
  · exact eq_error_iff_of_refuses (fun _ => convertEncoded_of_refuses)
      fun taken => ⟨_, convertEncoded_of_taken taken⟩
  · refine eq_error_iff_of_refuses (fun _ => encodeText_of_refuses) fun taken => ?_
    obtain ⟨bytes, written, -⟩ := encodeText_of_taken taken
    exact ⟨bytes, written⟩
  -- a refused text does not convert, so a converted one is taken as it is
  · intro converted
    refine ⟨fun position refuses => ?_, (convertEncoded_ok converted).1⟩
    rw [convertEncoded_of_refuses refuses] at converted
    cases converted
  · rintro ⟨taken, rfl⟩
    exact convertEncoded_of_taken taken

/-- One text with characters of two, three and four bytes: refused in strict ASCII, kept in UTF-16. -/
theorem text_columns_exact_mixed :
    TypeExpr.parse " str:ascii " = .ok ⟨"str", some "ascii", none⟩ ∧
      KeepsTexts ⟨"str", some "ascii", none⟩ .ascii .strict ∧
      (∃ t, grades.resolve " str:ascii " = .ok t ∧
        t.convertCell "na\u00efve 😀" = .error (foreignFailure "na\u00efve 😀" 2) ∧
        t.dumpValue (.text "na\u00efve 😀") = .error (.encoding 2)) ∧
      TypeExpr.parse "str:utf16:ignore" = .ok ⟨"str", some "utf16", some "ignore"⟩ ∧
      KeepsTexts ⟨"str", some "utf16", some "ignore"⟩ .utf16 .ignore ∧
      ∃ t, grades.resolve "str:utf16:ignore" = .ok t ∧ ∃ bytes,
        t.dumpValue (.text "na\u00efve 😀") = .ok bytes ∧
        Utf16.decode bytes = some "na\u00efve 😀" := by
  have strictly : TypeExpr.parse " str:ascii " = .ok ⟨"str", some "ascii", none⟩ := rfl
  have inUnits : TypeExpr.parse "str:utf16:ignore" = .ok ⟨"str", some "utf16", some "ignore"⟩ := rfl
  refine ⟨strictly, .encoded .ascii, ?_, inUnits, .encodedWith .utf16 .ignore, ?_⟩
  · obtain ⟨t, resolved, each⟩ := text_columns_exact grades_built strictly (.encoded .ascii)
    obtain ⟨converts, dumps, -⟩ := each "na\u00efve 😀"
    have before : ∀ d ∈ ['n', 'a'], isAscii d = true := by
      intro d hd
      rcases List.mem_pair.mp hd with rfl | rfl <;> rfl
    have first : FirstForeign "na\u00efve 😀".toList 2 :=
      ⟨['n', 'a'], '\u00ef', "ve 😀".toList, rfl, rfl, before, rfl⟩
    have refuses : Refuses .ascii .strict "na\u00efve 😀" 2 := ⟨rfl, rfl, first⟩
    exact ⟨t, resolved, (converts _).mpr ⟨2, refuses, rfl⟩, (dumps _).mpr ⟨2, refuses, rfl⟩⟩
  · obtain ⟨t, resolved, each⟩ :=
      text_columns_exact grades_built inUnits (.encodedWith .utf16 .ignore)
    obtain ⟨-, -, -, writes, -⟩ := each "na\u00efve 😀"
    obtain ⟨bytes, dumped, -, decoded⟩ := writes fun _ refuses => nomatch refuses.ascii
    exact ⟨t, resolved, bytes, dumped, decoded⟩

end TableCompiler
