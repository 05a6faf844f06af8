import TableCompiler.Localization.Decorated

/-!
# The hash table — every text of every locale under its key's hash

Extraction flattens the decorated columns into triples of head, hash and text. Head zero lists the
algorithm, the word for keys and the locales; the head of the word for keys lists the key texts; the
head of a locale lists its texts by the hash of their key. Within one head a hash stands for one
text: a second text is a collision.
-/

namespace TableCompiler.Localization

open TableCompiler.Text

/-- The name of the hash algorithm. -/
def algorithmName : String := "adler32"

/-- The word under whose hash the keys are filed. -/
def keyWord : String := "key"

/-- Why localization tables cannot be made. -/
inductive LocalizationError where
  /-- A decorated column in a table without plain columns. -/
  | missingKeyColumn (field column : String)
  /-- Two texts have one hash under one head. -/
  | hashCollision (head hash : UInt32) (existing incoming : String)
  /-- A head lists another key than the first head at a position. -/
  | alignment (position : Nat) (head expected found : UInt32)
  /-- A head lists more or fewer keys than the first head. -/
  | unevenColumns (head : UInt32) (expected found : Nat)
  /-- A type expression names no column type. -/
  | type (source : TypeError)
  deriving DecidableEq, Repr

/-- The wording of a localization error. -/
def LocalizationError.message : LocalizationError → String
  | .missingKeyColumn field column =>
    "column '" ++ column ++ "' localizes '" ++ field ++ "', but the table has no plain key column"
  | .hashCollision head hash existing incoming =>
    "hash " ++ Hex.word hash ++ " under head " ++ Hex.word head ++ " maps to both '" ++ existing
      ++ "' and '" ++ incoming ++ "'"
  | .alignment position head expected found =>
    "row " ++ toString position ++ ": head " ++ Hex.word head ++ " has hash " ++ Hex.word found
      ++ ", expected " ++ Hex.word expected
  | .unevenColumns head expected found =>
    "head " ++ Hex.word head ++ " has " ++ toString found ++ " rows, expected "
      ++ toString expected
  | .type source => source.message

/-- A text under the head of its locale and the hash of its key. -/
structure HashRow where
  head : UInt32
  hash : UInt32
  text : String
  deriving DecidableEq, Repr

/-- Whether two rows claim one place. -/
def HashRow.samePlace (r s : HashRow) : Bool :=
  r.head = s.head && r.hash = s.hash

/-- Adds a row, unless its place holds another text already. Repeats are kept. -/
def pushRow (rows : List HashRow) (row : HashRow) : Except LocalizationError (List HashRow) :=
  match rows.find? row.samePlace with
  | some earlier =>
    if earlier.text = row.text then .ok (rows ++ [row])
    else .error (.hashCollision row.head row.hash earlier.text row.text)
  | none => .ok (rows ++ [row])

/-- Adds rows one after the other. -/
def pushRows : List HashRow → List HashRow → Except LocalizationError (List HashRow)
  | rows, [] => .ok rows
  | rows, row :: rest =>
    match pushRow rows row with
    | .ok rows => pushRows rows rest
    | .error e => .error e

/-- The rows that every table starts with: the algorithm and the word for keys. -/
def headRows : List HashRow :=
  [⟨0, 0, algorithmName⟩, ⟨0, KeyHash.adler keyWord, keyWord⟩]

/-- The row that lists a locale. -/
def localeRow (column : DecoratedColumn) : HashRow :=
  ⟨0, KeyHash.adler column.locale, column.locale⟩

/-- The key and the text of a decorated column in one record. -/
def recordRows (column : DecoratedColumn) (key : Nat) (record : List String) : List HashRow :=
  let keyText := record.getD key ""
  let hash := KeyHash.adler keyText
  [⟨KeyHash.adler keyWord, hash, keyText⟩,
   ⟨KeyHash.adler column.locale, hash, record.getD column.index ""⟩]

/-- The rows of the records of one decorated column. -/
def columnRows (raw : RawTable) (column : DecoratedColumn) (key : Nat) : List HashRow :=
  raw.retainedRecords.flatMap (recordRows column key)

/-- Adds the rows of decorated columns one column after the other. -/
def pushColumns (raw : RawTable) : List HashRow → List DecoratedColumn →
    Except LocalizationError (List HashRow)
  | rows, [] => .ok rows
  | rows, column :: rest =>
    match pushRow rows (localeRow column) with
    | .error e => .error e
    | .ok rows =>
      match keyColumn? raw column with
      | none => .error (.missingKeyColumn column.field (raw.names.getD column.index ""))
      | some key =>
        match pushRows rows (columnRows raw column key) with
        | .error e => .error e
        | .ok rows => pushColumns raw rows rest

/-- The distinct locales in order of first appearance. -/
def distinctLocales (columns : List DecoratedColumn) : List String :=
  columns.foldl (fun seen c => if c.locale ∈ seen then seen else seen ++ [c.locale]) []

/-- Localization texts by hash. -/
structure HashTable where
  rows : List HashRow
  localeCount : Nat
  deriving DecidableEq, Repr

namespace HashTable

/-- Flattens every decorated column of a source table. -/
def extract (raw : RawTable) : Except LocalizationError HashTable :=
  let columns := decoratedColumns raw.names
  match pushRows [] headRows with
  | .error e => .error e
  | .ok rows =>
    match pushColumns raw rows columns with
    | .error e => .error e
    | .ok rows => .ok ⟨rows, (distinctLocales columns).length⟩

/-- Whether the source has no decorated columns. -/
def isEmpty (h : HashTable) : Bool :=
  h.localeCount = 0

/-- The names of the columns. -/
def fieldNames : List String := ["head", "hash", "text"]

/-- The type expressions of the columns. -/
def typeExprs : List String := ["uint32", "uint32", "str:utf8"]

/-- A row as values. -/
def rowValues (r : HashRow) : List Value :=
  [.uint r.head.toUInt64, .uint r.hash.toUInt64, .text r.text]

/-- The table as values. -/
def toTyped (h : HashTable) (registry : Registry) : Except LocalizationError TypedTable :=
  match ht : registry.resolveAll typeExprs with
  | .error e => .error (.type e)
  | .ok types => .ok
    { names := fieldNames
      types := types
      records := h.rows.map rowValues
      typed := (Registry.length_of_resolveAll ht).trans rfl
      rectangular := by
        intro record hr
        obtain ⟨r, _, rfl⟩ := List.mem_map.1 hr
        rfl }

end HashTable

end TableCompiler.Localization
