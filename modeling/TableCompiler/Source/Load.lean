import TableCompiler.Csv.Reader
import TableCompiler.Files.Tree
import TableCompiler.Json.View
import TableCompiler.Ron.View
import TableCompiler.Source.Format
import TableCompiler.Table.Basic
import TableCompiler.Toml.Reader
import TableCompiler.Toml.View

/-!
# Loading — source files to raw tables

Every format yields a grid of texts: names, types, then records. RON and JSON files hold nothing but
the grid; a TOML file holds it under `rows`, since the outermost value of TOML is a table.
-/

namespace TableCompiler.Source

open TableCompiler.Files

/-- Why a file cannot be loaded. -/
inductive LoadError where
  | unsupportedFormat (file : String)
  /-- The text of the file is not what its reader expects. -/
  | parse (file : String)
  /-- The grid is no table. -/
  | table (file : String) (source : TableError)
  /-- A manifest names two sources alike. -/
  | duplicateName (file name : String)
  /-- The system refuses to read or write. -/
  | refused (file : String) (reason : Refusal)
  deriving DecidableEq, Repr

/-- The wording of a load error. -/
def LoadError.message : LoadError → String
  | .unsupportedFormat file => "unsupported format for file: " ++ file
  | .parse file => "parse error in " ++ file ++ ": " ++ unexplained
  | .table file source => "invalid table in " ++ file ++ ": " ++ source.message
  | .duplicateName file name => "duplicate name '" ++ name ++ "' in " ++ file
  | .refused file reason => "i/o error on " ++ file ++ ": " ++ reason.message

/-- The format of a file. -/
def detectFormat (file : String) : Except LoadError Format :=
  match Format.ofPath? file with
  | some f => .ok f
  | none => .error (.unsupportedFormat file)

/-- The text of a file. -/
def readText (tree : FileTree) (file : String) : Except LoadError String :=
  match tree.readText file with
  | .ok s => .ok s
  | .error reason => .error (.refused file reason)

/-- What a reader makes of the value in a structured text. -/
def readStructured? {β : Type} (read : {α : Type} → View α → α → Option β) (format : Format)
    (text : String) : Option β :=
  match format with
  | .ron => (Ron.Form.parse text).bind (read Ron.view)
  | .json => (Json.Form.parse text).bind (read Json.view)
  | .toml => (Toml.parse text).bind (read Toml.view)
  | .csv => none

/-- What a reader makes of the value in a structured file. A CSV file is read, but holds no such
value. -/
def loadStructured {β : Type} (read : {α : Type} → View α → α → Option β) (tree : FileTree)
    (file : String) : Except LoadError β :=
  match detectFormat file with
  | .error e => .error e
  | .ok format =>
    match readText tree file with
    | .error e => .error e
    | .ok text =>
      if format = .csv then .error (.unsupportedFormat file)
      else
        match readStructured? read format text with
        | some v => .ok v
        | none => .error (.parse file)

/-- The grid under `rows`. -/
def rowsField? {α : Type} (view : View α) (x : α) : Option (List (List String)) :=
  (view.fields? "" ["rows"] x).bind (required "rows" view.grid?)

/-- The grid in a text of some format. -/
def parseGrid? (format : Format) (text : String) : Option (List (List String)) :=
  match format with
  | .csv => some (Csv.parse text)
  | .toml => readStructured? rowsField? .toml text
  | .ron => readStructured? View.grid? .ron text
  | .json => readStructured? View.grid? .json text

/-- The grid in a file. -/
def readRows (tree : FileTree) (file : String) : Except LoadError (List (List String)) :=
  match detectFormat file with
  | .error e => .error e
  | .ok format =>
    match readText tree file with
    | .error e => .error e
    | .ok text =>
      match parseGrid? format text with
      | some rows => .ok rows
      | none => .error (.parse file)

/-- The raw table in a file. -/
def loadTable (tree : FileTree) (file : String) : Except LoadError RawTable :=
  match readRows tree file with
  | .error e => .error e
  | .ok rows =>
    match RawTable.ofRows rows with
    | .ok table => .ok table
    | .error e => .error (.table file e)

end TableCompiler.Source
