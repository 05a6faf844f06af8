import Mathlib.Data.List.Basic
import TableCompiler.Column.Expr
import TableCompiler.Proofs.Text.Blank

/-!
# The grammar of type expressions — their parts and their text

`Spells` lists the three forms of a type expression, each with its parts, and splitting accepts exactly
these (`parse_eq_ok_iff`).  A name has no colon and a main attribute none either, so the first two colons
are where the parts end; a word has no blank space, so trimming takes nothing from a name
(`parse_text`).  What is spelt are the well-formed parts joined with colons (`spells_iff`), so each text
has the parts that join to its body, or has none (`parse_exact`).
-/

namespace TableCompiler

open TableCompiler.Text

/-! ## Names -/

/-- A word has no colon. -/
theorem colon_not_mem_identifier {cs : List Char} (h : isIdentifier cs = true) : ':' ∉ cs := by
  intro hmem
  exact absurd (isWord_of_mem_identifier h hmem) (by decide)

theorem isIdentifier_ne_nil {cs : List Char} (h : isIdentifier cs = true) : cs ≠ [] := by
  rintro rfl
  exact absurd h (by decide)

namespace TypeExpr

variable {parts : TypeExpr} {expr name : String} {main? sub? : Option String} {cs : List Char}

/-! ## The three forms -/

/-- A main attribute is not empty and has no colon. -/
def IsMain (main : List Char) : Prop :=
  main ≠ [] ∧ ':' ∉ main

/-- The texts of type expressions, each with its parts. -/
inductive Spells : TypeExpr → List Char → Prop where
  | name {name : String} : isIdentifier name.toList = true →
      Spells ⟨name, none, none⟩ name.toList
  | main {name main : String} : isIdentifier name.toList = true → IsMain main.toList →
      Spells ⟨name, some main, none⟩ (name.toList ++ ':' :: main.toList)
  | sub {name main sub : String} : isIdentifier name.toList = true → IsMain main.toList →
      isSub sub.toList = true →
      Spells ⟨name, some main, some sub⟩
        (name.toList ++ ':' :: (main.toList ++ ':' :: sub.toList))

/-- Without a colon nothing is split off. -/
theorem splitColon_of_not_mem (h : ':' ∉ cs) : splitColon cs = (cs, none) := by
  induction cs with
  | nil => rfl
  | cons c cs ih =>
      have hc : c ≠ ':' := by
        intro hc
        exact h (hc ▸ List.mem_cons_self)
      rw [splitColon, if_neg hc, ih fun hmem => h (List.mem_cons_of_mem c hmem)]

/-- The first colon is where a text splits. -/
theorem splitColon_append {front rest : List Char} (h : ':' ∉ front) :
    splitColon (front ++ ':' :: rest) = (front, some rest) := by
  induction front with
  | nil => rfl
  | cons c front ih =>
      have hc : c ≠ ':' := by
        intro hc
        exact h (hc ▸ List.mem_cons_self)
      rw [List.cons_append, splitColon, if_neg hc,
        ih fun hmem => h (List.mem_cons_of_mem c hmem)]

/-- A text without a colon, or one in two at its first colon. -/
theorem splitColon_cases (cs : List Char) :
    (splitColon cs = (cs, none) ∧ ':' ∉ cs) ∨
      ∃ front rest, cs = front ++ ':' :: rest ∧ ':' ∉ front ∧
        splitColon cs = (front, some rest) := by
  by_cases h : ':' ∈ cs
  · obtain ⟨front, rest, rfl, hfront⟩ := List.eq_append_cons_of_mem h
    exact .inr ⟨front, rest, rfl, hfront, splitColon_append hfront⟩
  · exact .inl ⟨splitColon_of_not_mem h, h⟩

/-- **PARTS ARE FOUND** in every text that spells them. -/
theorem split?_of_spells (spells : Spells parts cs) : split? cs = some parts := by
  -- neither a name nor a main attribute has a colon, so each split finds the one between them
  cases spells with
  | name hname =>
      have hsplit := splitColon_of_not_mem (colon_not_mem_identifier hname)
      simp only [split?, hsplit, hname, Bool.not_true, Bool.false_eq_true, if_false,
        String.ofList_toList]
  | main hname hmain =>
      have hsplit : ∀ rest, splitColon (_ ++ ':' :: rest) = (_, some rest) :=
        fun rest => splitColon_append (colon_not_mem_identifier hname)
      simp only [split?, hsplit, splitColon_of_not_mem hmain.2, hname, Bool.not_true,
        Bool.false_eq_true, if_false, List.isEmpty_eq_false_iff.mpr hmain.1, String.ofList_toList]
  | sub hname hmain hsub =>
      have hsplit : ∀ rest, splitColon (_ ++ ':' :: rest) = (_, some rest) :=
        fun rest => splitColon_append (colon_not_mem_identifier hname)
      simp only [split?, hsplit, splitColon_append hmain.2, hname, Bool.not_true,
        Bool.false_eq_true, if_false, List.isEmpty_eq_false_iff.mpr hmain.1, hsub, if_true,
        String.ofList_toList]

/-- What is found is spelled by the text. -/
theorem spells_of_split? (h : split? cs = some parts) : Spells parts cs := by
  rw [split?] at h
  have back : ∀ ds : List Char, (String.ofList ds).toList = ds := fun ds => String.toList_ofList
  rcases splitColon_cases cs with ⟨hsplit, -⟩ | ⟨name, rest, rfl, -, hsplit⟩
  · simp only [hsplit] at h
    split at h
    case isTrue => cases h
    case isFalse hname =>
      obtain rfl := Option.some.inj h
      have hspelt : Spells ⟨String.ofList cs, none, none⟩ (String.ofList cs).toList :=
        .name (by simpa [back] using hname)
      rwa [back] at hspelt
  · simp only [hsplit] at h
    split at h
    case isTrue => cases h
    case isFalse hname =>
      have hname : isIdentifier (String.ofList name).toList = true := by simpa [back] using hname
      -- what stands behind the name is split in the same way
      rcases splitColon_cases rest with ⟨hrest, hnone⟩ | ⟨main, sub, rfl, hnone, hrest⟩
      · simp only [hrest] at h
        split at h
        case isTrue => cases h
        case isFalse hmain =>
          obtain rfl := Option.some.inj h
          have hattr : IsMain (String.ofList rest).toList := by
            simpa [back, IsMain, hnone] using hmain
          have hspelt := Spells.main hname hattr
          rwa [back, back] at hspelt
      · simp only [hrest] at h
        split at h
        case isTrue => cases h
        case isFalse hmain =>
          split at h
          case isFalse => cases h
          case isTrue hsub =>
            obtain rfl := Option.some.inj h
            have hattr : IsMain (String.ofList main).toList := by
              simpa [back, IsMain, hnone] using hmain
            have hsub : isSub (String.ofList sub).toList = true := by rwa [back]
            have hspelt := Spells.sub hname hattr hsub
            rwa [back, back, back] at hspelt

/-- **THE GRAMMAR**: an expression has the parts that its trimmed text spells. -/
theorem parse_eq_ok_iff : parse expr = .ok parts ↔ Spells parts (trim expr.toList) := by
  rw [parse]
  constructor
  · intro h
    split at h
    case h_1 hsplit =>
      obtain rfl := Except.ok.inj h
      exact spells_of_split? hsplit
    case h_2 => cases h
  · intro spells
    rw [split?_of_spells spells]

/-! ## The text of the parts -/

/-- The parts with colons between them. -/
def text (parts : TypeExpr) : String :=
  ":".intercalate (parts.name :: (parts.main?.toList ++ parts.sub?.toList))

theorem toList_text_main (name main : String) :
    (text ⟨name, some main, none⟩).toList = name.toList ++ ':' :: main.toList := by
  show (name ++ ":" ++ main).toList = name.toList ++ ':' :: main.toList
  rw [String.toList_append, String.toList_append, List.append_assoc]
  rfl

theorem toList_text_sub (name main sub : String) :
    (text ⟨name, some main, some sub⟩).toList
      = name.toList ++ ':' :: (main.toList ++ ':' :: sub.toList) := by
  show (name ++ ":" ++ main ++ ":" ++ sub).toList
    = name.toList ++ ':' :: (main.toList ++ ':' :: sub.toList)
  rw [String.toList_append, String.toList_append, String.toList_append, String.toList_append,
    List.append_assoc, List.append_assoc, List.append_assoc]
  rfl

/-- **JOINED WITH COLONS** the parts are the text that spells them. -/
theorem Spells.toList_text (spells : Spells parts cs) : parts.text.toList = cs := by
  cases spells with
  | name _ => rfl
  | main _ _ => exact toList_text_main _ _
  | sub _ _ _ => exact toList_text_sub _ _ _

/-- A text spells one expression at most. -/
theorem Spells.unique {parts' : TypeExpr} (spells : Spells parts cs) (spells' : Spells parts' cs) :
    parts = parts' :=
  Option.some.inj ((split?_of_spells spells).symm.trans (split?_of_spells spells'))

/-! ## Names with attributes -/

/-- Whether a text ends with blank space. -/
def EndsBlank (cs : List Char) : Prop :=
  ∃ c, cs.getLast? = some c ∧ isBlank c = true

/-- Attributes as they can stand behind a name.  Blank space at the end of an expression belongs to
none of its parts. -/
inductive Attributes : Option String → Option String → Prop where
  | none : Attributes none none
  | main {main : String} : IsMain main.toList → ¬EndsBlank main.toList →
      Attributes (some main) none
  | sub {main sub : String} : IsMain main.toList → isSub sub.toList = true →
      ¬EndsBlank sub.toList → Attributes (some main) (some sub)

/-- Blank space at the end of a text ends what follows a colon in it, if anything does. -/
theorem endsBlank_of_append {front : List Char} (h : EndsBlank (front ++ ':' :: cs))
    (ne : cs ≠ []) : EndsBlank cs := by
  obtain ⟨c, hlast, hblank⟩ := h
  rw [List.getLast?_append_cons, List.getLast?_cons_of_ne_nil ne] at hlast
  exact ⟨c, hlast, hblank⟩

/-- Attributes that can be written are spelled by the text that is written of them. -/
theorem spells_of_attributes (identifier : isIdentifier name.toList = true)
    (attributes : Attributes main? sub?) :
    Spells ⟨name, main?, sub?⟩ (text ⟨name, main?, sub?⟩).toList := by
  cases attributes with
  | none => exact .name identifier
  | main hmain _ =>
      rw [toList_text_main]
      exact .main identifier hmain
  | sub hmain hsub _ =>
      rw [toList_text_sub]
      exact .sub identifier hmain hsub

/-- The text of such attributes does not end in blank space, so trimming leaves it. -/
theorem not_endsBlank_text (identifier : isIdentifier name.toList = true)
    (attributes : Attributes main? sub?) :
    ¬EndsBlank (text ⟨name, main?, sub?⟩).toList := by
  intro h
  cases attributes with
  | none =>
      obtain ⟨c, hlast, hblank⟩ := h
      have hword := isWord_of_mem_identifier identifier (List.mem_of_getLast? hlast)
      exact Bool.false_ne_true ((isBlank_of_isWord hword).symm.trans hblank)
  | main hmain hsolid =>
      rw [toList_text_main] at h
      exact hsolid (endsBlank_of_append h hmain.1)
  | sub hmain hsub hsolid =>
      have hne : ∀ ds : List Char, isSub ds = true → ds ≠ [] := by
        rintro _ hds rfl
        exact absurd hds (by decide)
      rw [toList_text_sub] at h
      exact hsolid (endsBlank_of_append (endsBlank_of_append h (by simp)) (hne _ hsub))

/-- A text that spells parts starts with a character of a word. -/
theorem Spells.starts_with_word (spells : Spells parts cs) :
    ∃ c rest, cs = c :: rest ∧ isWord c = true := by
  have first : ∀ {name : List Char} (rest : List Char), isIdentifier name = true →
      ∃ c rest', name ++ rest = c :: rest' ∧ isWord c = true := by
    intro name rest hname
    obtain ⟨c, cs, rfl⟩ := List.exists_cons_of_ne_nil (isIdentifier_ne_nil hname)
    exact ⟨c, cs ++ rest, rfl, isWord_of_mem_identifier hname List.mem_cons_self⟩
  cases spells with
  | name hname =>
      have := first [] hname
      rwa [List.append_nil] at this
  | main hname _ => exact first _ hname
  | sub hname _ _ => exact first _ hname

/-- **A NAME WITH ATTRIBUTES** is split into just these. -/
theorem parse_text (identifier : isIdentifier name.toList = true)
    (attributes : Attributes main? sub?) :
    parse (text ⟨name, main?, sub?⟩) = .ok ⟨name, main?, sub?⟩ ∧
      trimmed (text ⟨name, main?, sub?⟩) = text ⟨name, main?, sub?⟩ := by
  have spells := spells_of_attributes identifier attributes
  have htrim : trim (text ⟨name, main?, sub?⟩).toList = (text ⟨name, main?, sub?⟩).toList := by
    refine trim_of_ends (fun c hc => ?_) (fun c hc => ?_)
    · obtain ⟨first, rest, hcs, hword⟩ := spells.starts_with_word
      rw [hcs] at hc
      exact isBlank_of_isWord (Option.some.inj hc ▸ hword)
    · apply Bool.eq_false_iff.mpr
      intro hblank
      exact not_endsBlank_text identifier attributes ⟨c, hc, hblank⟩
  refine ⟨parse_eq_ok_iff.mpr (htrim.symm ▸ spells), ?_⟩
  rw [trimmed, htrim, String.ofList_toList]

/-! ## Every text -/

/-- The parts as an expression can have them: a word, behind it perhaps a main attribute without a colon,
and behind that perhaps a sub attribute on one line. -/
structure WellFormed (parts : TypeExpr) : Prop where
  name_word : Word parts.name
  main_run : ∀ main, parts.main? = some main → Run (· ≠ ':') main.toList
  sub_run : ∀ sub, parts.sub? = some sub → Run (· ≠ '\n') sub.toList
  main_of_sub : parts.main? = none → parts.sub? = none

theorem isMain_iff {main : List Char} : IsMain main ↔ Run (· ≠ ':') main := by
  rw [IsMain, Run]
  exact and_congr_right' List.forall_mem_ne'.symm

theorem isSub_iff {sub : List Char} : isSub sub = true ↔ Run (· ≠ '\n') sub := by
  rw [isSub, Run, Bool.and_eq_true, Bool.not_eq_true', Bool.not_eq_true', List.isEmpty_eq_false_iff,
    ← Bool.not_eq_true, List.contains_iff_mem]
  exact and_congr_right' List.forall_mem_ne'.symm

/-- **WELL-FORMED PARTS** spell their text, and spelt parts are well formed. -/
theorem spells_iff : Spells parts cs ↔ WellFormed parts ∧ parts.text.toList = cs := by
  constructor
  · intro spells
    refine ⟨?_, spells.toList_text⟩
    cases spells with
    | name hname => exact ⟨isIdentifier_iff.mp hname, nofun, nofun, fun _ => rfl⟩
    | main hname hmain =>
        refine ⟨isIdentifier_iff.mp hname, ?_, nofun, nofun⟩
        rintro _ ⟨⟩
        exact isMain_iff.mp hmain
    | sub hname hmain hsub =>
        refine ⟨isIdentifier_iff.mp hname, ?_, ?_, nofun⟩
        · rintro _ ⟨⟩
          exact isMain_iff.mp hmain
        · rintro _ ⟨⟩
          exact isSub_iff.mp hsub
  · rintro ⟨⟨hname, hmain, hsub, hbehind⟩, rfl⟩
    obtain ⟨name, main?, sub?⟩ := parts
    have identifier := isIdentifier_iff.mpr hname
    -- without a main attribute there is none behind it, so three shapes are left
    cases main? with
    | none =>
        obtain rfl : sub? = none := hbehind rfl
        exact .name identifier
    | some main =>
        have attr := isMain_iff.mpr (hmain main rfl)
        cases sub? with
        | none =>
            rw [toList_text_main]
            exact .main identifier attr
        | some sub =>
            rw [toList_text_sub]
            exact .sub identifier attr (isSub_iff.mpr (hsub sub rfl))

/-- An expression parses to the well-formed parts whose text it is, when trimmed. -/
theorem parse_eq_ok_iff_wellFormed :
    parse expr = .ok parts ↔ WellFormed parts ∧ parts.text = trimmed expr := by
  rw [parse_eq_ok_iff, spells_iff]
  refine and_congr_right' ⟨fun h => ?_, fun h => ?_⟩
  · rw [trimmed, ← h, String.ofList_toList]
  · rw [h, trimmed, String.toList_ofList]

/-- **PARTS ARE TOLD APART** by their text. -/
theorem WellFormed.unique {parts' : TypeExpr} (wellFormed : WellFormed parts)
    (wellFormed' : WellFormed parts') (same : parts.text = parts'.text) : parts = parts' := by
  have spells : Spells parts parts'.text.toList := spells_iff.mpr ⟨wellFormed, congrArg _ same⟩
  exact spells.unique (spells_iff.mpr ⟨wellFormed', rfl⟩)

/-- An expression that has no parts is reported as it was written. -/
theorem parse_eq_error_iff {e : TypeError} :
    parse expr = .error e ↔
      (¬∃ parts, parse expr = .ok parts) ∧ e = .malformedExpression expr := by
  rw [parse]
  cases split? (trim expr.toList) with
  | some parts => exact iff_of_false (fun h => nomatch h) fun h => h.1 ⟨parts, rfl⟩
  | none =>
      constructor
      · intro h
        refine ⟨?_, (Except.error.inj h).symm⟩
        rintro ⟨parts, hok⟩
        cases hok
      · rintro ⟨-, rfl⟩
        rfl

/-- **EVERY TEXT** has a body without the blank space around it.  If well-formed parts joined with colons
are this body, the text is parsed to these, and no others are; if none are, it is refused as it was
written, blank space included. -/
theorem parse_exact (expr : String) :
    ∃ body : String, Trims expr.toList body.toList ∧
      (∀ parts, parse expr = .ok parts ↔ WellFormed parts ∧ parts.text = body) ∧
      (∀ parts parts', WellFormed parts → WellFormed parts' → parts.text = parts'.text →
        parts = parts') ∧
      ∀ e, parse expr = .error e ↔
        (¬∃ parts, WellFormed parts ∧ parts.text = body) ∧ e = .malformedExpression expr := by
  have trims : Trims expr.toList (trimmed expr).toList := by
    rw [trimmed, String.toList_ofList]
    exact trim_eq_iff.mp rfl
  refine ⟨trimmed expr, trims, fun parts => parse_eq_ok_iff_wellFormed,
    fun parts parts' => WellFormed.unique, fun e => ?_⟩
  rw [parse_eq_error_iff]
  simp only [parse_eq_ok_iff_wellFormed]

/-- Colons behind the second one belong to the sub attribute, and no attribute is empty. -/
theorem parse_exact_colons :
    WellFormed ⟨"str", some "fk", some "a:b"⟩ ∧
      (∀ parts, WellFormed parts → parts.text = "str:fk:a:b" →
        parts = ⟨"str", some "fk", some "a:b"⟩) ∧
      ¬∃ parts, WellFormed parts ∧ parts.text = "str:" := by
  obtain ⟨body, -, parsed, unique, -⟩ := parse_exact " str:fk:a:b "
  have hparse : parse " str:fk:a:b " = .ok ⟨"str", some "fk", some "a:b"⟩ := rfl
  obtain ⟨wellFormed, -⟩ := (parsed _).mp hparse
  refine ⟨wellFormed, ?_, ?_⟩
  · intro parts wellFormed' same
    exact unique _ _ wellFormed' wellFormed same
  · obtain ⟨body', trims', -, -, refused⟩ := parse_exact "str: "
    have hbody : body' = "str:" := String.toList_injective (trim_eq_iff.mpr trims').symm
    have hparse' : parse "str: " = .error (.malformedExpression "str: ") := rfl
    rw [← hbody]
    exact ((refused _).mp hparse').1

end TypeExpr

end TableCompiler
