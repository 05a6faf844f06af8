import TableCompiler.Column.Registry
import TableCompiler.Ron.Reader
import TableCompiler.Toml.Reader

/-!
# Structured column types — cells that hold a RON or TOML text

Both are converted to JSON values and dumped as such, so that what is read from a compiled table does
not depend on what its author typed.
-/

namespace TableCompiler

/-- The structured texts that can be enabled as column types. -/
inductive StructuredType where
  | ron
  | toml
  deriving DecidableEq, Repr

namespace StructuredType

/-- Every structured type. -/
def all : List StructuredType :=
  [.ron, .toml]

/-- The name of the data type. -/
def name : StructuredType → String
  | .ron => "ron"
  | .toml => "toml"

/-- The type of that name. -/
def ofName? (name : String) : Option StructuredType :=
  all.find? fun t => t.name = name

/-- The JSON value of a cell. -/
def read? : StructuredType → String → Option Json
  | .ron => Ron.read
  | .toml => Toml.read

/-- Converts a cell. -/
def converter (t : StructuredType) : Converter := fun cell _ _ =>
  match t.read? cell with
  | some v => .ok (.json v)
  | none => .error ⟨.custom, cell, t.name ++ ": " ++ unexplained⟩

end StructuredType

namespace Registry

/-- Adds a structured type. -/
def registerStructured (r : Registry) (t : StructuredType) : Except RegistryError Registry :=
  r.register t.name .json .unbounded t.converter

/-- Adds structured types that are not done yet, each once, up to the first that is refused: the
registry then, and the refusal. -/
def registerRemaining (r : Registry) (done : List StructuredType) :
    List StructuredType → Registry × Except RegistryError Unit
  | [] => (r, .ok ())
  | t :: rest =>
    if t ∈ done then r.registerRemaining done rest
    else
      match r.registerStructured t with
      | .error e => (r, .error e)
      | .ok r => r.registerRemaining (t :: done) rest

/-- Adds every listed structured type; repetitions do no harm. What was added before a refusal
stays. -/
def registerAllStructured (r : Registry) (types : List StructuredType) :
    Registry × Except RegistryError Unit :=
  r.registerRemaining [] types

end Registry

end TableCompiler
