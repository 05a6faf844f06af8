import TableCompiler.Files.Path

/-!
# Source formats — told by the extension of the file
-/

namespace TableCompiler.Source

open TableCompiler.Files

/-- The formats of source files. -/
inductive Format where
  | csv
  | ron
  | toml
  | json
  deriving DecidableEq, Repr

namespace Format

/-- Every format. -/
def all : List Format :=
  [.csv, .ron, .toml, .json]

/-- The extension of files in the format. -/
def extension : Format → String
  | .csv => "csv"
  | .ron => "ron"
  | .toml => "toml"
  | .json => "json"

/-- The format of a file, if its extension is one of theirs. -/
def ofPath? (path : String) : Option Format :=
  (extension? path).bind fun e => all.find? fun f => f.extension = e

end Format

end TableCompiler.Source
