import TableCompiler.Column.Storage

/-!
# Failures — cells that cannot be converted, values that cannot be dumped
-/

namespace TableCompiler

/-- Why a cell cannot be converted. -/
inductive FailureKind where
  | underflow
  | overflow
  /-- Not a member of the column's enum. -/
  | unknown
  | invalidNumber
  | invalidReal
  | invalidDate
  | invalidDateTime
  | invalidTime
  | invalidJson
  /-- A character that the column's encoding lacks. -/
  | encoding
  /-- Raised by a registered converter. -/
  | custom
  deriving DecidableEq, Repr

namespace FailureKind

/-- Every kind. -/
def all : List FailureKind :=
  [.underflow, .overflow, .unknown, .invalidNumber, .invalidReal, .invalidDate, .invalidDateTime,
   .invalidTime, .invalidJson, .encoding, .custom]

/-- The code in messages. -/
def code : FailureKind → String
  | .underflow => "UNDERFLOW"
  | .overflow => "OVERFLOW"
  | .unknown => "UNKNOWN"
  | .invalidNumber => "INVALID_NUMBER"
  | .invalidReal => "INVALID_REAL"
  | .invalidDate => "INVALID_DATE"
  | .invalidDateTime => "INVALID_DATETIME"
  | .invalidTime => "INVALID_TIME"
  | .invalidJson => "INVALID_JSON"
  | .encoding => "ENCODING"
  | .custom => "CUSTOM"

/-- The kind of that code. -/
def ofCode? (s : String) : Option FailureKind :=
  all.find? fun k => k.code = s

end FailureKind

/-- A cell that cannot be converted: why, its text, and a remark. -/
structure ConversionFailure where
  kind : FailureKind
  value : String
  memo : String
  deriving DecidableEq, Repr

/-- The wording of a failed conversion. -/
def ConversionFailure.message (f : ConversionFailure) : String :=
  f.kind.code ++ ": '" ++ f.value ++ "' (" ++ f.memo ++ ")"

/-- A reader of structured text says that it rejects a text, and not why. -/
def unexplained : String := "*"

/-- Why a value cannot be dumped. -/
inductive DumpError where
  /-- The column stores another kind of value. -/
  | valueMismatch (expected found : String)
  /-- The number does not fit the width. -/
  | outOfRange (value : Int) (width : StorageWidth)
  /-- ASCII lacks the character at that position. -/
  | encoding (position : Nat)
  deriving DecidableEq, Repr

/-- The wording of a failed dump. -/
def DumpError.message : DumpError → String
  | .valueMismatch expected found => "expected a " ++ expected ++ " value, found " ++ found
  | .outOfRange value width => "value " ++ toString value ++ " does not fit " ++ width.name
  | .encoding position =>
    "character at position " ++ toString position ++ " is not representable in ascii"

end TableCompiler
