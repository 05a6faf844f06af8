import Mathlib.Data.List.Forall2
import Mathlib.Data.List.GetD
import TableCompiler.Proofs.Localization.Extraction
import TableCompiler.Proofs.Localization.FirstSeen

/-!
# Regrouping — what a pivot reads from the rows of each head

A pivot that succeeds puts the entries of the declared heads side by side.  `PivotedFrom` says so
position by position, with no default for an entry that is missing: every declared head has an entry
at every position, and the entries at one position have one hash.
-/

namespace TableCompiler.Localization

variable {rows : List HashRow} {head hash : UInt32} {text : String}
variable {columns : List (UInt32 × Entries)} {position : Nat}

/-! ## The entries of a head -/

/-- Every entry of a head, repeats among them, in the order of the rows. -/
def listedEntries (rows : List HashRow) (head : UInt32) : Entries :=
  (rows.filter (·.head = head)).map fun r => (r.hash, r.text)

theorem mem_listedEntries :
    (hash, text) ∈ listedEntries rows head ↔ ⟨head, hash, text⟩ ∈ rows := by
  rw [listedEntries, List.mem_map]
  constructor
  · rintro ⟨r, hr, heq⟩
    obtain ⟨hmem, hhead⟩ := List.mem_filter.mp hr
    obtain ⟨rfl, rfl⟩ := Prod.mk.inj heq
    rw [← of_decide_eq_true hhead]
    exact hmem
  · intro hmem
    exact ⟨⟨head, hash, text⟩, List.mem_filter.mpr ⟨hmem, decide_eq_true rfl⟩, rfl⟩

/-- Where no rows disagree, a hash has one text under a head. -/
theorem OneText.listedEntries (h : OneText rows) :
    ∀ a ∈ listedEntries rows head, ∀ b ∈ listedEntries rows head, a.1 = b.1 → a = b := by
  rintro ⟨hash, text⟩ ha ⟨hash', text'⟩ hb heq
  have hhash : hash = hash' := heq
  subst hhash
  have htext : text = text' :=
    h _ (mem_listedEntries.mp ha) _ (mem_listedEntries.mp hb) rfl rfl
  rw [htext]

/-- The entries of a head are its listed entries without repeats. -/
theorem headEntries_eq_eraseDups (h : OneText rows) :
    headEntries rows head = (listedEntries rows head).eraseDups := by
  rw [eraseDups_eq_foldl]
  exact foldl_addEntry (listedEntries rows head) h.listedEntries

theorem mem_headEntries (h : OneText rows) :
    (hash, text) ∈ headEntries rows head ↔ ⟨head, hash, text⟩ ∈ rows := by
  rw [headEntries_eq_eraseDups h, List.mem_eraseDups]
  exact mem_listedEntries

/-- A hash stands once under a head. -/
theorem nodup_hashes_headEntries (h : OneText rows) :
    ((headEntries rows head).map Prod.fst).Nodup := by
  rw [headEntries_eq_eraseDups h, map_eraseDups h.listedEntries]
  exact nodup_eraseDups _

/-! ## Aligned rows -/

/-- Texts that are aligned have the leading hash in every column, and are the ones that stand there.
-/
theorem alignTexts_ok {texts : List String} (h : alignTexts position hash columns = .ok texts) :
    (∀ c ∈ columns, (c.2.getD position (hash, "")).1 = hash) ∧
      texts = columns.map fun c => (c.2.getD position (hash, "")).2 := by
  induction columns generalizing texts with
  | nil => exact ⟨(fun c hc => absurd hc List.not_mem_nil), (Except.ok.inj h).symm⟩
  | cons c rest ih =>
      rw [alignTexts] at h
      -- the columns are asked in turn, and the first of another hash would have failed
      split at h
      case isFalse => cases h
      case isTrue heq =>
        cases hr : alignTexts position hash rest with
        | error e => rw [hr] at h; cases h
        | ok ts =>
            rw [hr] at h
            obtain ⟨hall, rfl⟩ := ih hr
            refine ⟨?_, (Except.ok.inj h).symm⟩
            intro d hd
            rcases List.mem_cons.mp hd with rfl | hd
            · exact heq
            · exact hall d hd

/-- What the row at a position takes from the declared heads. -/
def RowAt (columns : List (UInt32 × Entries)) (position : Nat) (row : TextRow) : Prop :=
  row.hash = leadingHash columns position ∧
    (∀ c ∈ columns, (c.2.getD position (row.hash, "")).1 = row.hash) ∧
    row.texts = columns.map fun c => (c.2.getD position (row.hash, "")).2

/-- Rows that are aligned stand each at its position. -/
theorem alignRows_ok {positions : List Nat} {texts : List TextRow}
    (h : alignRows columns positions = .ok texts) :
    List.Forall₂ (RowAt columns) positions texts := by
  induction positions generalizing texts with
  | nil =>
      rw [← Except.ok.inj h]
      exact .nil
  | cons position rest ih =>
      rw [alignRows] at h
      cases ht : alignTexts position (leadingHash columns position) columns with
      | error e => simp only [ht] at h; cases h
      | ok ts =>
          cases hr : alignRows columns rest with
          | error e => simp only [ht, hr] at h; cases h
          | ok below =>
              simp only [ht, hr] at h
              rw [← Except.ok.inj h]
              obtain ⟨hall, rfl⟩ := alignTexts_ok ht
              exact .cons ⟨rfl, hall, rfl⟩ (ih hr)

/-! ## The whole pivot -/

/-- The heads that become columns, each with the text that declares it. -/
def declaredHeads (rows : List HashRow) : Entries :=
  (headEntries rows 0).drop 1

theorem declaredColumns_eq :
    declaredColumns rows = (declaredHeads rows).map fun e => (e.1, headEntries rows e.1) := rfl

theorem mem_declaredColumns {e : UInt32 × String} (h : e ∈ declaredHeads rows) :
    (e.1, headEntries rows e.1) ∈ declaredColumns rows := by
  rw [declaredColumns_eq]
  exact List.mem_map.mpr ⟨e, h, rfl⟩

/-- A text table whose columns are the entries of the declared heads, side by side. -/
structure PivotedFrom (rows : List HashRow) (t : TextTable) : Prop where
  header : t.header = (headEntries rows 0).map Prod.snd
  sized : ∀ e ∈ declaredHeads rows, (headEntries rows e.1).length = t.rows.length
  placed : ∀ (position : Nat) (row : TextRow), t.rows[position]? = some row →
    ∃ textOf : UInt32 × String → String, row.texts = (declaredHeads rows).map textOf ∧
      ∀ e ∈ declaredHeads rows,
        (headEntries rows e.1)[position]? = some (row.hash, textOf e)

/-- The stages of a pivot that succeeds. -/
theorem pivot_stages {table : HashTable} {t : TextTable} (h : TextTable.pivot table = .ok t) :
    t.header = (headEntries table.rows 0).map Prod.snd ∧
      unevenColumn? (expectedLength (declaredColumns table.rows)) (declaredColumns table.rows)
        = none ∧
      alignRows (declaredColumns table.rows)
        (List.range (expectedLength (declaredColumns table.rows))) = .ok t.rows := by
  rw [TextTable.pivot] at h
  split at h
  case h_1 => cases h
  case h_2 =>
    cases hu : unevenColumn? (expectedLength (declaredColumns table.rows))
        (declaredColumns table.rows) with
    | some c => simp only [hu] at h; cases h
    | none =>
        simp only [hu] at h
        split at h
        case h_1 => cases h
        case h_2 texts ha =>
          rw [← Except.ok.inj h]
          exact ⟨rfl, rfl, ha⟩

/-- **REGROUPING**: a pivot that succeeds puts the declared heads side by side. -/
theorem pivotedFrom_of_pivot {table : HashTable} {t : TextTable}
    (h : TextTable.pivot table = .ok t) : PivotedFrom table.rows t := by
  obtain ⟨hheader, huneven, halign⟩ := pivot_stages h
  have hrows := alignRows_ok halign
  have hlength : t.rows.length = expectedLength (declaredColumns table.rows) := by
    rw [← hrows.length_eq, List.length_range]
  have hsized : ∀ e ∈ declaredHeads table.rows,
      (headEntries table.rows e.1).length = t.rows.length := by
    intro e he
    rw [hlength]
    exact of_not_not fun hne =>
      List.find?_eq_none.mp huneven _ (mem_declaredColumns he) (decide_eq_true hne)
  refine ⟨hheader, hsized, ?_⟩
  intro position row hrow
  obtain ⟨hlt, hget⟩ := List.getElem?_eq_some_iff.mp hrow
  obtain ⟨-, hhash, htexts⟩ : RowAt (declaredColumns table.rows) position row := by
    have hat := hrows.get (by rw [List.length_range, ← hlength]; exact hlt) hlt
    simpa [hget] using hat
  -- every column reaches as far as the rows do, so no default is read
  refine ⟨fun e => ((headEntries table.rows e.1).getD position (row.hash, "")).2, ?_, ?_⟩
  · rw [htexts, declaredColumns_eq, List.map_map]
    rfl
  · intro e he
    have hin : position < (headEntries table.rows e.1).length := by
      rw [hsized e he]
      exact hlt
    have hentry := hhash _ (mem_declaredColumns he)
    show _ = some (row.hash, ((headEntries table.rows e.1).getD position (row.hash, "")).2)
    rw [List.getD_eq_getElem _ _ hin] at hentry ⊢
    rw [List.getElem?_eq_getElem hin, ← hentry]

/-- What stands under a header entry in the row at a position is the text of its head there. -/
theorem PivotedFrom.mem_zip {t : TextTable} {row : TextRow} (h : PivotedFrom rows t)
    (hrow : t.rows[position]? = some row) {locale : String} :
    (locale, text) ∈ (t.header.drop 1).zip row.texts ↔
      ∃ e ∈ declaredHeads rows, e.2 = locale ∧
        (headEntries rows e.1)[position]? = some (row.hash, text) := by
  obtain ⟨textOf, htexts, hplaced⟩ := h.placed position row hrow
  have hzip : (t.header.drop 1).zip row.texts
      = (declaredHeads rows).map fun e => (e.2, textOf e) := by
    rw [h.header, ← List.map_drop, htexts, declaredHeads, List.zip_map']
  rw [hzip, List.mem_map]
  constructor
  · rintro ⟨e, he, heq⟩
    obtain ⟨rfl, rfl⟩ := Prod.mk.inj heq
    exact ⟨e, he, rfl, hplaced e he⟩
  · rintro ⟨e, he, rfl, hentry⟩
    have htext : textOf e = text :=
      congrArg Prod.snd (Option.some.inj ((hplaced e he).symm.trans hentry))
    exact ⟨e, he, by rw [htext]⟩

end TableCompiler.Localization
