import TableCompiler.Localization.HashTable

/-!
# The text table — one column per locale

Pivoting regroups the rows of a hash table by head. Head zero names the columns: the algorithm for
the hashes, then the word for keys and the locales. All columns must list the same hashes in the same
order, and then each position is one row of the text table.
-/

namespace TableCompiler.Localization

/-- The texts of a head by hash, each hash once, in order of first appearance. -/
abbrev Entries := List (UInt32 × String)

/-- Adds an entry unless its hash is there already. -/
def addEntry (entries : Entries) (e : UInt32 × String) : Entries :=
  if entries.any (·.1 = e.1) then entries else entries ++ [e]

/-- The entries of one head. -/
def headEntries (rows : List HashRow) (head : UInt32) : Entries :=
  ((rows.filter (·.head = head)).map fun r => (r.hash, r.text)).foldl addEntry []

/-- A key hash with the key text and a text for each locale. -/
structure TextRow where
  hash : UInt32
  texts : List String
  deriving DecidableEq, Repr

/-- Localization texts with a column for the hashes, one for the keys and one for each locale. -/
structure TextTable where
  header : List String
  rows : List TextRow
  aligned : ∀ row ∈ rows, row.texts.length + 1 = header.length
  deriving DecidableEq

/-- The heads that head zero declares, each with its entries. -/
def declaredColumns (rows : List HashRow) : List (UInt32 × Entries) :=
  ((headEntries rows 0).drop 1).map fun e => (e.1, headEntries rows e.1)

/-- The number of entries that every column must have. -/
def expectedLength : List (UInt32 × Entries) → Nat
  | [] => 0
  | c :: _ => c.2.length

/-- The first column with another number of entries. -/
def unevenColumn? (expected : Nat) (columns : List (UInt32 × Entries)) :
    Option (UInt32 × Entries) :=
  columns.find? fun c => c.2.length ≠ expected

/-- The texts of all columns at a position, where every column must have the same hash. -/
def alignTexts (position : Nat) (hash : UInt32) : List (UInt32 × Entries) →
    Except LocalizationError (List String)
  | [] => .ok []
  | c :: rest =>
    let e := c.2.getD position (hash, "")
    if e.1 = hash then (alignTexts position hash rest).map (e.2 :: ·)
    else .error (.alignment position c.1 hash e.1)

/-- The hash of the first column at a position. -/
def leadingHash (columns : List (UInt32 × Entries)) (position : Nat) : UInt32 :=
  match columns with
  | [] => 0
  | c :: _ => (c.2.getD position (0, "")).1

/-- The rows of the text table at the given positions. -/
def alignRows (columns : List (UInt32 × Entries)) : List Nat →
    Except LocalizationError (List TextRow)
  | [] => .ok []
  | position :: rest =>
    let hash := leadingHash columns position
    match alignTexts position hash columns with
    | .error e => .error e
    | .ok texts => (alignRows columns rest).map (⟨hash, texts⟩ :: ·)

theorem length_of_alignTexts {position : Nat} {hash : UInt32} {columns : List (UInt32 × Entries)} :
    ∀ {texts : List String}, alignTexts position hash columns = .ok texts →
      texts.length = columns.length := by
  induction columns with
  | nil =>
      intro texts h
      cases h
      rfl
  | cons c rest ih =>
      intro texts h
      simp only [alignTexts] at h
      split at h
      case isFalse => cases h
      case isTrue =>
        cases hr : alignTexts position hash rest with
        | error e => simp [hr, Except.map] at h
        | ok ts =>
            simp only [hr, Except.map, Except.ok.injEq] at h
            subst h
            simp [ih hr]

theorem length_of_mem_alignRows {columns : List (UInt32 × Entries)} {positions : List Nat} :
    ∀ {rows : List TextRow}, alignRows columns positions = .ok rows →
      ∀ row ∈ rows, row.texts.length = columns.length := by
  induction positions with
  | nil =>
      intro rows h row hr
      cases h
      cases hr
  | cons position rest ih =>
      intro rows h
      simp only [alignRows] at h
      split at h
      case h_1 => cases h
      case h_2 texts ht =>
        cases hr : alignRows columns rest with
        | error e => simp [hr, Except.map] at h
        | ok rs =>
            simp only [hr, Except.map, Except.ok.injEq] at h
            subst h
            intro row hrow
            cases hrow with
            | head => exact length_of_alignTexts ht
            | tail _ hmem => exact ih hr row hmem

theorem alignRows_nil {positions : List Nat} {rows : List TextRow}
    (h : alignRows [] positions = .ok rows) (hp : positions = List.range (expectedLength [])) :
    rows = [] := by
  subst hp
  cases h
  rfl

/-- Every row has a text for each declared column. -/
theorem aligned_of_alignRows {rows : List HashRow} {texts : List TextRow}
    (h : alignRows (declaredColumns rows)
      (List.range (expectedLength (declaredColumns rows))) = .ok texts) :
    ∀ row ∈ texts, row.texts.length + 1 = ((headEntries rows 0).map (·.2)).length := by
  intro row hr
  have hlen := length_of_mem_alignRows h row hr
  cases hc : declaredColumns rows with
  | nil =>
      rw [hc] at h
      rw [alignRows_nil h rfl] at hr
      cases hr
  | cons c rest =>
      have hpos : 0 < (declaredColumns rows).length := by simp [hc]
      have : (declaredColumns rows).length = (headEntries rows 0).length - 1 := by
        simp [declaredColumns]
      simp only [List.length_map]
      omega

namespace TextTable

/-- Regroups a hash table by head. -/
def pivot (h : HashTable) : Except LocalizationError TextTable :=
  match pushRows [] h.rows with
  | .error e => .error e
  | .ok _ =>
    let expected := expectedLength (declaredColumns h.rows)
    match unevenColumn? expected (declaredColumns h.rows) with
    | some c => .error (.unevenColumns c.1 expected c.2.length)
    | none =>
      match ha : alignRows (declaredColumns h.rows)
          (List.range (expectedLength (declaredColumns h.rows))) with
      | .error e => .error e
      | .ok texts => .ok ⟨(headEntries h.rows 0).map (·.2), texts, aligned_of_alignRows ha⟩

/-- The type of the hashes, then the type of texts for every other column. -/
def typeExprs (t : TextTable) : List String :=
  t.header.zipIdx.map fun c => if c.2 = 0 then "uint32" else "str"

/-- The table as values. -/
def toTyped (t : TextTable) (registry : Registry) : Except LocalizationError TypedTable :=
  match ht : registry.resolveAll t.typeExprs with
  | .error e => .error (.type e)
  | .ok types => .ok
    { names := t.header
      types := types
      records := t.rows.map fun r => .uint r.hash.toUInt64 :: r.texts.map .text
      typed := by
        rw [Registry.length_of_resolveAll ht]
        simp [typeExprs]
      rectangular := by
        intro record hr
        obtain ⟨r, hm, rfl⟩ := List.mem_map.1 hr
        simpa using t.aligned r hm }

/-- The table as texts, the hashes in decimal. -/
def toRaw (t : TextTable) : RawTable where
  names := t.header
  types := t.typeExprs
  records := t.rows.map fun r => toString r.hash.toNat :: r.texts
  typed := by simp [typeExprs]
  rectangular := by
    intro record hr
    obtain ⟨r, hm, rfl⟩ := List.mem_map.1 hr
    simpa using t.aligned r hm

end TextTable

end TableCompiler.Localization
