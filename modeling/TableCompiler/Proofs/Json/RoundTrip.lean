import TableCompiler.Proofs.Json.Quoted
import TableCompiler.Proofs.Number.DigitRuns
import TableCompiler.Proofs.Text.Ordered

/-!
# JSON values — what is written is read back

A value that a reader makes is settled unless a floating-point number stands in it (`hasReal`): its
integers fit 64 bits, the names of each object ascend, and its lists and objects are nested no deeper than
the reader allows (`settled_of_valueOf?`).  A settled value is read back from its text (`parse_display`).
A number does not say where it ends, so each part is read back in front of anything that may follow a value
(`EndsValue`), and the reader is given two steps for each character of the part (`Settled.exists_form`).
-/

namespace TableCompiler.Json

open TableCompiler.Number TableCompiler.Text

mutual

/-- Whether a floating-point number stands anywhere in a value. -/
def hasReal : Json → Bool
  | .real _ => true
  | .list items => itemsHaveReal items
  | .object members => membersHaveReal members
  | _ => false

/-- Whether one stands in any of the items. -/
def itemsHaveReal : List Json → Bool
  | [] => false
  | v :: rest => v.hasReal || itemsHaveReal rest

/-- Whether one stands in the value of any member. -/
def membersHaveReal : List (String × Json) → Bool
  | [] => false
  | (_, v) :: rest => v.hasReal || membersHaveReal rest

end

/-- A value as a reader with room for so many levels leaves it, unless it has floating-point numbers. -/
inductive Settled : (room : Nat) → Json → Prop where
  | null {room : Nat} : Settled room .null
  | bool {room : Nat} (b : Bool) : Settled room (.bool b)
  | int {room : Nat} {n : Int} (least : leastSigned ≤ n) (largest : n ≤ largestUnsigned) :
      Settled room (.int n)
  | text {room : Nat} (s : String) : Settled room (.text s)
  | list {room : Nat} {items : List Json} (values : ∀ v ∈ items, Settled room v) :
      Settled (room + 1) (.list items)
  | object {room : Nat} {members : List (String × Json)} (ascending : Ascending members)
      (values : ∀ m ∈ members, Settled room m.2) : Settled (room + 1) (.object members)

variable {c : Char} {cs rest : List Char} {n : Int} {room fuel : Nat} {f : Form} {v : Json}
variable {items : List Json} {members : List (String × Json)}

/-! ## Integers -/

/-- What may follow a value inside a text, if anything does. -/
def EndsValue (rest : List Char) : Prop :=
  ∀ c, rest.head? = some c → c = ',' ∨ c = ']' ∨ c = '\x7d'

theorem endsValue_nil : EndsValue [] := by
  intro c h
  cases h

/-- A comma and a closing bracket end a value. -/
theorem endsValue_cons (h : c = ',' ∨ c = ']' ∨ c = '\x7d') : EndsValue (c :: rest) := by
  intro d hd
  obtain rfl := Option.some.inj hd
  exact h

/-- The form of an integer. -/
def intForm (n : Int) : NumberForm :=
  ⟨n < 0, decimalDigits n.natAbs, [], none⟩

section Ends

variable (ends : EndsValue rest)
include ends

/-- What ends a value does not continue a number. -/
theorem EndsValue.noDigitFirst : NoDigitFirst rest := by
  intro c h
  rcases ends c h with rfl | rfl | rfl <;> rfl

/-- The digits of a number are read as its whole part, without a leading zero. -/
theorem readWhole?_decimalDigits (m : Nat) :
    readWhole? (decimalDigits m ++ rest) = some (decimalDigits m, rest) := by
  have spells := spells_decimalDigits m
  simp only [readWhole?, spells.takeWhile_append ends.noDigitFirst,
    spells.dropWhile_append ends.noDigitFirst]
  split
  case h_1 none => exact absurd none spells.nonempty
  case h_2 d ds leading =>
    cases m with
    | zero => exact nomatch leading
    | succ m => exact absurd (congrArg List.head? leading) (head?_decimalDigits (Nat.succ_pos m))
  case h_3 => rfl

/-- A number at the end of a value has no fraction. -/
theorem readFraction?_of_endsValue : readFraction? rest = some ([], rest) := by
  rw [readFraction?]
  rintro cs rfl
  exact absurd (ends '.' rfl) (by decide)

/-- A number at the end of a value has no exponent. -/
theorem readExponent?_of_endsValue : readExponent? rest = some (none, rest) := by
  cases rest with
  | nil => rfl
  | cons c cs =>
      rw [readExponent?, if_neg]
      rcases ends c rfl with rfl | rfl | rfl <;> decide

/-- The digits of a number are read as a whole number. -/
theorem readUnsigned?_decimalDigits (negative : Bool) (m : Nat) :
    readUnsigned? negative (decimalDigits m ++ rest)
      = some (⟨negative, decimalDigits m, [], none⟩, rest) := by
  simp only [readUnsigned?, readWhole?_decimalDigits ends, readFraction?_of_endsValue ends,
    readExponent?_of_endsValue ends]

/-- **AN INTEGER** is read up to where a value may end. -/
theorem readNumber?_intText (n : Int) : readNumber? (intText n ++ rest) = some (intForm n, rest) := by
  rw [intText, intForm]
  split
  case isTrue negative =>
    rw [decide_eq_true negative]
    exact readUnsigned?_decimalDigits ends true n.natAbs
  case isFalse notNegative =>
    rw [decide_eq_false notNegative, ← readUnsigned?_decimalDigits ends false n.natAbs]
    obtain ⟨c, cs, hdigits, digit⟩ := (spells_decimalDigits n.natAbs).exists_cons
    rw [hdigits, List.cons_append, readNumber?]
    intro _ minus
    obtain ⟨rfl, -⟩ := List.cons.inj minus
    cases digit

end Ends

/-- An integer begins with a sign or a digit. -/
theorem exists_cons_intText (n : Int) :
    ∃ c cs, intText n = c :: cs ∧ (c = '-' ∨ c.isDigit = true) := by
  rw [intText]
  split
  case isTrue => exact ⟨_, _, rfl, .inl rfl⟩
  case isFalse =>
    obtain ⟨c, cs, hdigits, digit⟩ := (spells_decimalDigits n.natAbs).exists_cons
    exact ⟨c, cs, hdigits, .inr digit⟩

/-- Integers within 64 bits stay integers, with a sign or without. -/
theorem intOf?_intForm (least : leastSigned ≤ n) (largest : n ≤ largestUnsigned) :
    intOf? (intForm n) = some n := by
  have value : ofDecimalDigits (decimalDigits n.natAbs) = n.natAbs := (spells_decimalDigits _).value
  simp only [intOf?, intForm, value, List.isEmpty_nil, Option.isNone_none, Bool.and_self, if_true,
    decide_eq_true_eq]
  split
  case isTrue negative =>
    have same : -(n.natAbs : Int) = n := by omega
    rw [same, if_pos]
    rw [Bool.and_eq_true, decide_eq_true_eq, decide_eq_true_eq]
    exact ⟨by omega, least⟩
  case isFalse notNegative =>
    have same : (n.natAbs : Int) = n := by omega
    rw [same, if_pos (by omega)]

/-- An integer that was read fits 64 bits. -/
theorem bounds_of_intOf? {form : NumberForm} (h : intOf? form = some n) :
    leastSigned ≤ n ∧ n ≤ largestUnsigned := by
  simp only [intOf?] at h
  split_ifs at h with whole negative fits fits
  · rw [Bool.and_eq_true, decide_eq_true_eq, decide_eq_true_eq] at fits
    obtain rfl := Option.some.inj h
    exact ⟨fits.2, by omega⟩
  · obtain rfl := Option.some.inj h
    rw [leastSigned]
    exact ⟨by omega, by omega⟩

/-! ## What a reader leaves -/

/-- A list without reals has items without reals. -/
theorem hasReal_of_mem_items (integers : (Json.list items).hasReal = false) :
    ∀ v ∈ items, v.hasReal = false := by
  rw [hasReal] at integers
  induction items with
  | nil => exact fun v hv => absurd hv List.not_mem_nil
  | cons w items ih =>
      rw [itemsHaveReal, Bool.or_eq_false_iff] at integers
      intro v hv
      rcases List.mem_cons.mp hv with rfl | hv
      · exact integers.1
      · exact ih integers.2 v hv

/-- An object without reals has members without reals. -/
theorem hasReal_of_mem_members (integers : (Json.object members).hasReal = false) :
    ∀ m ∈ members, m.2.hasReal = false := by
  rw [hasReal] at integers
  induction members with
  | nil => exact fun m hm => absurd hm List.not_mem_nil
  | cons first members ih =>
      rw [membersHaveReal, Bool.or_eq_false_iff] at integers
      intro m hm
      rcases List.mem_cons.mp hm with rfl | hm
      · exact integers.1
      · exact ih integers.2 m hm

/-- Each value of a list comes from one of its forms. -/
theorem exists_form_of_mem_itemsOf? {forms : List Form} (h : itemsOf? room forms = some items) :
    ∀ v ∈ items, ∃ f, valueOf? room f = some v := by
  induction forms generalizing items with
  | nil =>
      rw [itemsOf?] at h
      obtain rfl := Option.some.inj h
      exact fun v hv => absurd hv List.not_mem_nil
  | cons f forms ih =>
      rw [itemsOf?] at h
      split at h
      case h_1 v vs hv hvs =>
        obtain rfl := Option.some.inj h
        intro w hw
        rcases List.mem_cons.mp hw with rfl | hw
        · exact ⟨f, hv⟩
        · exact ih hvs w hw
      case h_2 => cases h

/-- Each value of an object comes from one of its forms. -/
theorem exists_form_of_mem_membersOf? {forms : List (List Nat × Form)}
    (h : membersOf? room forms = some members) : ∀ m ∈ members, ∃ f, valueOf? room f = some m.2 := by
  induction forms generalizing members with
  | nil =>
      rw [membersOf?] at h
      obtain rfl := Option.some.inj h
      exact fun m hm => absurd hm List.not_mem_nil
  | cons first forms ih =>
      rw [membersOf?] at h
      split at h
      case h_1 k v ms hk hv hms =>
        obtain rfl := Option.some.inj h
        intro m hm
        rcases List.mem_cons.mp hm with rfl | hm
        · exact ⟨first.2, hv⟩
        · exact ih hms m hm
      case h_2 => cases h

/-- **WHAT IS READ** is settled, unless it has floating-point numbers. -/
theorem settled_of_valueOf? (h : valueOf? room f = some v) (integers : v.hasReal = false) :
    Settled room v := by
  -- every level of a form takes some of the room
  induction room using Nat.strongRecOn generalizing f v with
  | ind room ih =>
    cases f with
    | null =>
        rw [valueOf?] at h
        obtain rfl := Option.some.inj h
        exact .null
    | bool b =>
        rw [valueOf?] at h
        obtain rfl := Option.some.inj h
        exact .bool b
    | number form =>
        rw [valueOf?, numberOf?] at h
        split at h
        case h_1 n found =>
          obtain rfl := Option.some.inj h
          obtain ⟨least, largest⟩ := bounds_of_intOf? found
          exact .int least largest
        case h_2 =>
          obtain ⟨x, -, rfl⟩ := Option.map_eq_some_iff.mp h
          cases integers
    | text units =>
        rw [valueOf?] at h
        obtain ⟨s, -, rfl⟩ := Option.map_eq_some_iff.mp h
        exact .text s
    | list forms =>
        cases room with
        | zero => cases h
        | succ room =>
            rw [valueOf?] at h
            obtain ⟨items, hitems, rfl⟩ := Option.map_eq_some_iff.mp h
            refine .list fun v hv => ?_
            obtain ⟨f, hf⟩ := exists_form_of_mem_itemsOf? hitems v hv
            exact ih room (Nat.lt_succ_self room) hf (hasReal_of_mem_items integers v hv)
    | object forms =>
        cases room with
        | zero => cases h
        | succ room =>
            rw [valueOf?] at h
            obtain ⟨members, hmembers, rfl⟩ := Option.map_eq_some_iff.mp h
            refine .object (ascending_ordered members) fun m hm => ?_
            obtain ⟨f, hf⟩ := exists_form_of_mem_membersOf? hmembers m (mem_of_mem_ordered hm)
            exact ih room (Nat.lt_succ_self room) hf (hasReal_of_mem_members integers m hm)

/-! ## What is written -/

/-- A text of a value starts with a character that is neither blank nor a closing bracket. -/
def StartsValue (cs : List Char) : Prop :=
  ∃ c rest, cs = c :: rest ∧ isSpace c = false ∧ c ≠ ']'

theorem StartsValue.append (starts : StartsValue cs) (rest : List Char) :
    StartsValue (cs ++ rest) := by
  obtain ⟨c, cs, rfl, visible, opens⟩ := starts
  exact ⟨c, cs ++ rest, rfl, visible, opens⟩

/-- What is written of a value is read to a form that has this value. -/
structure ReadsBack (room : Nat) (v : Json) (f : Form) : Prop where
  value : valueOf? room f = some v
  starts : StartsValue v.render
  read : ∀ {fuel : Nat} {rest : List Char}, 2 * v.render.length ≤ fuel → EndsValue rest →
    readForm fuel (v.render ++ rest) = some (f, rest)

theorem skipSpace_visible (visible : isSpace c = false) : skipSpace (c :: cs) = c :: cs := by
  rw [skipSpace, List.dropWhile_cons_of_neg]
  rw [visible]
  exact Bool.false_ne_true

/-- A number begins with something visible that closes no list. -/
theorem visible_number (first : c = '-' ∨ c.isDigit = true) : isSpace c = false ∧ c ≠ ']' := by
  rcases first with rfl | digit
  · decide
  · constructor
    · cases space : isSpace c with
      | false => rfl
      | true =>
          simp only [isSpace, Bool.or_eq_true, beq_iff_eq] at space
          rcases space with ((rfl | rfl) | rfl) | rfl <;> cases digit
    · rintro rfl
      cases digit

/-- What begins like a number is read as one. -/
theorem readForm_number (first : c = '-' ∨ c.isDigit = true) :
    readForm (fuel + 1) (c :: cs) = (readNumber? (c :: cs)).map fun p => (.number p.1, p.2) := by
  rw [readForm, skipSpace_visible (visible_number first).1]
  split
  case h_7 => rfl
  all_goals
    rename_i other
    obtain ⟨rfl, -⟩ := List.cons.inj other
    exact absurd first (by decide)

/-- What an opening bracket begins is read as a list, if it does not close at once. -/
theorem readForm_list (starts : StartsValue cs) :
    readForm (fuel + 1) ('[' :: cs) = (readItems fuel cs).map fun p => (.list p.1, p.2) := by
  obtain ⟨c, cs, rfl, visible, opens⟩ := starts
  rw [readForm, skipSpace_visible (rfl : isSpace '[' = false)]
  simp only [skipSpace_visible visible]
  split
  case h_1 closes => exact absurd (List.cons.inj closes).1 opens
  case h_2 => rfl

/-- What an opening brace begins is read as an object, if it does not close at once. -/
theorem readForm_object (filled : members ≠ []) :
    readForm (fuel + 1) ('\x7b' :: (renderMembers members ++ rest))
      = (readMembers fuel (renderMembers members ++ rest)).map fun p => (.object p.1, p.2) := by
  cases members with
  | nil => exact absurd rfl filled
  | cons m members => cases members <;> rfl

theorem quote_append (s : String) (rest : List Char) :
    quote s ++ rest = '"' :: (s.toList.flatMap escapeChar ++ '"' :: rest) := by
  rw [quote, List.append_assoc, List.append_assoc]
  rfl

/-- A name is read with the colon behind it. -/
theorem readName?_quote (name : String) (rest : List Char) :
    readName? (quote name ++ ':' :: rest) = some (name.toList.map Char.toNat, rest) := by
  rw [quote_append, readName?, skipSpace_visible (rfl : isSpace '"' = false)]
  simp only [readText_flatMap]
  rfl

/-! ### Step by step -/

section Steps

variable {forms : List Form} {entries : List (List Nat × Form)} {name : List Nat}
variable {first second : List Char}

/-- An item before a closing bracket is the last one. -/
theorem readItems_last (read : readForm fuel cs = some (f, ']' :: rest)) :
    readItems (fuel + 1) cs = some ([f], rest) := by
  rw [readItems, read]
  rfl

/-- An item before a comma is followed by others. -/
theorem readItems_next (read : readForm fuel cs = some (f, ',' :: second))
    (following : readItems fuel second = some (forms, rest)) :
    readItems (fuel + 1) cs = some (f :: forms, rest) := by
  rw [readItems, read]
  show (readItems fuel second).map _ = _
  rw [following]
  rfl

/-- A member before a closing brace is the last one. -/
theorem readMembers_last (named : readName? cs = some (name, first))
    (read : readForm fuel first = some (f, '\x7d' :: rest)) :
    readMembers (fuel + 1) cs = some ([(name, f)], rest) := by
  rw [readMembers, named]
  dsimp only
  rw [read]
  rfl

/-- A member before a comma is followed by others. -/
theorem readMembers_next (named : readName? cs = some (name, first))
    (read : readForm fuel first = some (f, ',' :: second))
    (following : readMembers fuel second = some (entries, rest)) :
    readMembers (fuel + 1) cs = some ((name, f) :: entries, rest) := by
  rw [readMembers, named]
  dsimp only
  rw [read]
  show (readMembers fuel second).map _ = _
  rw [following]
  rfl

end Steps

/-! ### Values in values -/

/-- **THE ITEMS** of a list are read up to its end. -/
theorem exists_forms_of_items (filled : items ≠ [])
    (values : ∀ v ∈ items, ∃ f, ReadsBack room v f) :
    StartsValue (renderItems items) ∧ ∃ forms, itemsOf? room forms = some items ∧
      ∀ {fuel : Nat} {rest : List Char}, 2 * (renderItems items).length < fuel →
        readItems fuel (renderItems items ++ ']' :: rest) = some (forms, rest) := by
  induction items with
  | nil => exact absurd rfl filled
  | cons v items ih =>
      obtain ⟨f, value, starts, read⟩ := values v List.mem_cons_self
      -- the last item ends at the bracket, every other one at a comma
      cases items with
      | nil =>
          refine ⟨starts, [f], by rw [itemsOf?, value]; rfl, fun {fuel rest} enough => ?_⟩
          obtain ⟨fuel, rfl⟩ := Nat.exists_eq_add_one.mpr (Nat.zero_lt_of_lt enough)
          exact readItems_last (read (Nat.le_of_lt_succ enough) (endsValue_cons (.inr (.inl rfl))))
      | cons w items =>
          obtain ⟨-, forms, hforms, following⟩ :=
            ih (List.cons_ne_nil w items) fun v hv => values v (List.mem_cons_of_mem _ hv)
          have written : renderItems (v :: w :: items)
              = v.render ++ ',' :: renderItems (w :: items) := by
            rw [renderItems, List.append_assoc, List.singleton_append]
          rw [written]
          refine ⟨starts.append _, f :: forms, by rw [itemsOf?, value, hforms],
            fun {fuel rest} enough => ?_⟩
          rw [List.length_append, List.length_cons] at enough
          obtain ⟨fuel, rfl⟩ := Nat.exists_eq_add_one.mpr (Nat.zero_lt_of_lt enough)
          rw [List.append_assoc, List.cons_append]
          exact readItems_next (read (by omega) (endsValue_cons (.inl rfl))) (following (by omega))

/-- **THE MEMBERS** of an object are read up to its end. -/
theorem exists_forms_of_members (filled : members ≠ [])
    (values : ∀ m ∈ members, ∃ f, ReadsBack room m.2 f) :
    ∃ forms, membersOf? room forms = some members ∧
      ∀ {fuel : Nat} {rest : List Char}, 2 * (renderMembers members).length < fuel →
        readMembers fuel (renderMembers members ++ '\x7d' :: rest) = some (forms, rest) := by
  induction members with
  | nil => exact absurd rfl filled
  | cons m members ih =>
      obtain ⟨k, v⟩ := m
      obtain ⟨f, value, -, read⟩ := values (k, v) List.mem_cons_self
      dsimp only at value read
      -- as for lists, with a quoted name and a colon in front of each value
      cases members with
      | nil =>
          have written : renderMembers [(k, v)] = quote k ++ ':' :: v.render := by
            rw [renderMembers, List.append_assoc, List.singleton_append]
          rw [written]
          refine ⟨[(k.toList.map Char.toNat, f)], by rw [membersOf?, textOf?_units, value]; rfl,
            fun {fuel rest} enough => ?_⟩
          rw [List.length_append, List.length_cons] at enough
          obtain ⟨fuel, rfl⟩ := Nat.exists_eq_add_one.mpr (Nat.zero_lt_of_lt enough)
          rw [List.append_assoc, List.cons_append]
          exact readMembers_last (readName?_quote k _)
            (read (by omega) (endsValue_cons (.inr (.inr rfl))))
      | cons m members =>
          obtain ⟨forms, hforms, following⟩ :=
            ih (List.cons_ne_nil m members) fun m hm => values m (List.mem_cons_of_mem _ hm)
          have written : renderMembers ((k, v) :: m :: members)
              = quote k ++ ':' :: (v.render ++ ',' :: renderMembers (m :: members)) := by
            rw [renderMembers, List.append_assoc, List.append_assoc, List.append_assoc,
              List.singleton_append, List.singleton_append]
          rw [written]
          refine ⟨(k.toList.map Char.toNat, f) :: forms,
            by rw [membersOf?, textOf?_units, value, hforms], fun {fuel rest} enough => ?_⟩
          rw [List.length_append, List.length_cons, List.length_append, List.length_cons] at enough
          obtain ⟨fuel, rfl⟩ := Nat.exists_eq_add_one.mpr (Nat.zero_lt_of_lt enough)
          rw [List.append_assoc, List.cons_append, List.append_assoc, List.cons_append]
          exact readMembers_next (readName?_quote k _)
            (read (by omega) (endsValue_cons (.inl rfl))) (following (by omega))

/-- A value whose text is read in one step. -/
theorem ReadsBack.of_step (value : valueOf? room f = some v) (starts : StartsValue v.render)
    (read : ∀ {fuel : Nat} {rest : List Char}, EndsValue rest →
      readForm (fuel + 1) (v.render ++ rest) = some (f, rest)) : ReadsBack room v f where
  value := value
  starts := starts
  read := by
    intro fuel rest enough ends
    have filled : 0 < v.render.length := by
      obtain ⟨c, cs, hrender, -, -⟩ := starts
      rw [hrender]
      exact Nat.succ_pos _
    obtain ⟨fuel, rfl⟩ := Nat.exists_eq_add_one.mpr (show 0 < fuel by omega)
    exact read ends

/-- Integers within 64 bits are read back. -/
theorem readsBack_int (least : leastSigned ≤ n) (largest : n ≤ largestUnsigned) :
    ReadsBack room (.int n) (.number (intForm n)) := by
  obtain ⟨c, cs, written, first⟩ := exists_cons_intText n
  have value : valueOf? room (.number (intForm n)) = some (.int n) := by
    rw [valueOf?, numberOf?, intOf?_intForm least largest]
  have starts : StartsValue (intText n) := ⟨c, cs, written, visible_number first⟩
  refine .of_step value starts fun {fuel rest} ends => ?_
  have read := readNumber?_intText ends n
  rw [written, List.cons_append] at read
  show readForm (fuel + 1) (intText n ++ rest) = _
  rw [written, List.cons_append, readForm_number first, read]
  rfl

/-- Texts are read back. -/
theorem readsBack_text (s : String) :
    ReadsBack room (.text s) (.text (s.toList.map Char.toNat)) := by
  have value : valueOf? room (.text (s.toList.map Char.toNat)) = some (.text s) := by
    rw [valueOf?, textOf?_units]
    rfl
  refine .of_step value ⟨'"', _, rfl, rfl, by decide⟩ fun {fuel rest} _ => ?_
  show readForm (fuel + 1) (quote s ++ rest) = _
  rw [quote_append]
  show (readText _).map _ = _
  rw [readText_flatMap]
  rfl

/-- A list is read back if its items are. -/
theorem exists_form_list (values : ∀ v ∈ items, ∃ f, ReadsBack room v f) :
    ∃ f, ReadsBack (room + 1) (.list items) f := by
  -- the reader has a form of its own for an empty list
  by_cases filled : items = []
  · subst filled
    exact ⟨.list [], .of_step rfl ⟨'[', _, rfl, rfl, by decide⟩ fun _ => rfl⟩
  · obtain ⟨starts, forms, hforms, read⟩ := exists_forms_of_items filled values
    refine ⟨.list forms, by rw [valueOf?, hforms]; rfl, ⟨'[', _, rfl, rfl, by decide⟩,
      fun {fuel rest} enough _ => ?_⟩
    have written : (Json.list items).render ++ rest = '[' :: (renderItems items ++ ']' :: rest) := by
      rw [render, List.append_assoc, List.append_assoc]
      rfl
    rw [written]
    rw [render, List.length_append, List.length_append, List.length_singleton,
      List.length_singleton] at enough
    obtain ⟨fuel, rfl⟩ := Nat.exists_eq_add_one.mpr (show 0 < fuel by omega)
    rw [readForm_list (starts.append _), read (by omega)]
    rfl

/-- An object is read back if its values are and its names ascend. -/
theorem exists_form_object (ascending : Ascending members)
    (values : ∀ m ∈ members, ∃ f, ReadsBack room m.2 f) :
    ∃ f, ReadsBack (room + 1) (.object members) f := by
  by_cases filled : members = []
  · subst filled
    exact ⟨.object [], .of_step rfl ⟨'\x7b', _, rfl, rfl, by decide⟩ fun _ => rfl⟩
  · obtain ⟨forms, hforms, read⟩ := exists_forms_of_members filled values
    have value : valueOf? (room + 1) (.object forms) = some (.object members) := by
      rw [valueOf?, hforms, Option.map_some, ofMembers, ordered_of_ascending ascending]
    refine ⟨.object forms, value, ⟨'\x7b', _, rfl, rfl, by decide⟩, fun {fuel rest} enough _ => ?_⟩
    have written : (Json.object members).render ++ rest
        = '\x7b' :: (renderMembers members ++ '\x7d' :: rest) := by
      rw [render, List.append_assoc, List.append_assoc]
      rfl
    rw [written]
    rw [render, List.length_append, List.length_append, List.length_singleton,
      List.length_singleton] at enough
    obtain ⟨fuel, rfl⟩ := Nat.exists_eq_add_one.mpr (show 0 < fuel by omega)
    rw [readForm_object filled, read (by omega)]
    rfl

/-- **A SETTLED VALUE** is read back, whatever may follow it. -/
theorem Settled.exists_form (settled : Settled room v) : ∃ f, ReadsBack room v f := by
  induction settled with
  | null => exact ⟨.null, .of_step rfl ⟨'n', _, rfl, rfl, by decide⟩ fun _ => rfl⟩
  | bool b =>
      cases b with
      | true => exact ⟨.bool true, .of_step rfl ⟨'t', _, rfl, rfl, by decide⟩ fun _ => rfl⟩
      | false => exact ⟨.bool false, .of_step rfl ⟨'f', _, rfl, rfl, by decide⟩ fun _ => rfl⟩
  | int least largest => exact ⟨_, readsBack_int least largest⟩
  | text s => exact ⟨_, readsBack_text s⟩
  | list _ values => exact exists_form_list values
  | object ascending _ values => exact exists_form_object ascending values

/-- **A SETTLED VALUE** is the value of its own text. -/
theorem parse_display (settled : Settled deepestNesting v) : Json.parse v.display = some v := by
  obtain ⟨f, value, -, read⟩ := settled.exists_form
  have whole : readForm (2 * v.render.length + 2) v.render = some (f, []) := by
    have alone := read (Nat.le_add_right (2 * v.render.length) 2) endsValue_nil
    rwa [List.append_nil] at alone
  have formed : Form.parse v.display = some f := by
    simp only [Form.parse, display, String.toList_ofList, whole]
    rfl
  rw [Json.parse, formed]
  exact value

/-- **READING IS SETTLING**: the text of a value that was read is read to that value, unless
floating-point numbers stand in it. -/
theorem parse_display_of_parse {text : String} (read : Json.parse text = some v)
    (integers : v.hasReal = false) : Json.parse v.display = some v := by
  rw [Json.parse] at read
  split at read
  case h_1 => exact parse_display (settled_of_valueOf? read integers)
  case h_2 => cases read

end TableCompiler.Json
