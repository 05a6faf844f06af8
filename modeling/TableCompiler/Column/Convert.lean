import TableCompiler.Calendar.Reader
import TableCompiler.Column.Resolve
import TableCompiler.Json.Reader

/-!
# Converting cells — texts to values

Numbers, dates and enum members are read from the text without the blank space around it; texts,
hashes and JSON from the text as it is. A failure carries the whole text.
-/

namespace TableCompiler

open TableCompiler.Text TableCompiler.Number TableCompiler.Calendar

/-- The largest magnitude that is told apart while the digits of an integer are read. -/
def largestMagnitude : Nat := 170141183460469231731687303715884105727

/-- What goes wrong while the digits of an integer are read. -/
inductive DigitError where
  | noDigits
  | invalidDigit
  | tooLarge
  deriving DecidableEq, Repr

/-- Reads digits from left to right onto a magnitude; the first offence counts. -/
def readMagnitude (radix : Nat) : Nat → List Char → Except DigitError Nat
  | n, [] => .ok n
  | n, c :: cs =>
    match digitValue? radix c with
    | none => .error .invalidDigit
    | some d =>
      if largestMagnitude < n * radix + d then .error .tooLarge
      else readMagnitude radix (n * radix + d) cs

/-- The letters after the zero of a radix mark. -/
def radixMarks (radix : Nat) : List Char :=
  if radix = 2 then ['b', 'B']
  else if radix = 8 then ['o', 'O']
  else if radix = 16 then ['x', 'X']
  else []

/-- Drops the mark of the radix if the digits start with it. -/
def dropRadixMark (radix : Nat) : List Char → List Char
  | '0' :: c :: cs => if (radixMarks radix).contains c then cs else '0' :: c :: cs
  | cs => cs

/-- An integer without sign and mark must not start with a sign. -/
def startsWithSign : List Char → Bool
  | '+' :: _ => true
  | '-' :: _ => true
  | _ => false

/-- The bounds of a width; widths that are not for integers hold 64-bit ones. -/
def convertBounds (width : StorageWidth) : Int × Int :=
  width.intBounds?.getD (leastSigned, largestSigned)

/-- An integer within the bounds of its width as a value. -/
def integerValue (width : StorageWidth) (n : Int) : Value :=
  if width.isUnsigned then .uint (UInt64.ofNat n.toNat) else .int (Int64.ofInt n)

/-- An integer checked against its width. -/
def checkInteger (text : String) (width : StorageWidth) (n : Int) :
    Except ConversionFailure Value :=
  let bounds := convertBounds width
  if n < bounds.1 then .error ⟨.underflow, text, "< " ++ toString bounds.1⟩
  else if bounds.2 < n then .error ⟨.overflow, text, "> " ++ toString bounds.2⟩
  else .ok (integerValue width n)

/-- Converts the text of an integer: a sign, the mark of the radix, digits. -/
def convertInteger (text : String) (radix : Nat) (width : StorageWidth) :
    Except ConversionFailure Value :=
  let signed := takeSign (trim text.toList)
  let digits := dropRadixMark radix signed.2
  if startsWithSign digits then .error ⟨.invalidNumber, text, "misplaced sign"⟩
  else if digits.isEmpty then
    .error ⟨.invalidNumber, text, "cannot parse integer from empty string"⟩
  else
    match readMagnitude radix 0 digits with
    | .ok n => checkInteger text width (if signed.1 then -(n : Int) else n)
    | .error .tooLarge =>
      .error ⟨if signed.1 then .underflow else .overflow, text, "exceeds 128 bits"⟩
    | .error _ => .error ⟨.invalidNumber, text, "invalid digit found in string"⟩

/-- Whether a text spells infinity or a NaN. -/
def isSpecialReal (cs : List Char) : Bool :=
  let word := String.ofList ((cs.dropWhile fun c => c == '+' || c == '-').map lowerAscii)
  word = "inf" || word = "infinity" || word = "nan"

/-- Whether a digit other than zero stands before the exponent. -/
def hasNonzeroMantissa (cs : List Char) : Bool :=
  (cs.takeWhile fun c => c != 'e' && c != 'E').any fun c => '1' ≤ c && c ≤ '9'

/-- The precision of a real column and its name. -/
inductive Precision where
  | single
  | double
  deriving DecidableEq, Repr

/-- Real columns are single unless their width says double. -/
def Precision.ofWidth : StorageWidth → Precision
  | .f64 => .double
  | _ => .single

/-- The name in messages. -/
def Precision.name : Precision → String
  | .single => "f32"
  | .double => "f64"

/-- The value that is stored for a number. -/
def Precision.stored : Precision → Double → Double
  | .single, x => x.throughSingle
  | .double, x => x

/-- Whether a number lies outside the finite numbers of the precision. -/
def Precision.isTooLarge : Precision → Double → Bool
  | .single, x => !x.isFinite || Double.largestSingle.magnitude < x.magnitude
  | .double, x => !x.isFinite

/-- Whether a stored number is below the smallest normal number and not zero. -/
def Precision.isSubnormal : Precision → Double → Bool
  | .single, x => x.singleMagnitude ≠ 0 && x.singleMagnitude < Nat.pow 2 23
  | .double, x => x.isSubnormal

/-- A number checked against its precision. -/
def checkReal (text : String) (cs : List Char) (p : Precision) (x : Double) :
    Except ConversionFailure Value :=
  let stored := p.stored x
  if p.isTooLarge x then
    .error ⟨if x.isNegative then .underflow else .overflow, text, "outside " ++ p.name ++ " range"⟩
  else if (stored.isZero && hasNonzeroMantissa cs) || p.isSubnormal stored then
    .error ⟨.underflow, text, "below smallest normal " ++ p.name⟩
  else .ok (.real stored)

/-- Converts the text of a real number. Infinity and NaN are only what they are called. -/
def convertReal (text : String) (width : StorageWidth) : Except ConversionFailure Value :=
  let cs := trim text.toList
  match readReal cs with
  | .error e => .error ⟨.invalidReal, text, e.message⟩
  | .ok x =>
    if !x.isFinite && isSpecialReal cs then .ok (.real x)
    else checkReal text cs (.ofWidth width) x

/-- Whether a character is in ASCII. -/
def isAscii (c : Char) : Bool :=
  c.toNat < 0x80

/-- Converts a text that must suit an encoding: ASCII alone can lack a character. -/
def convertEncoded (text : String) (encoding : TextEncoding) (policy : ErrorPolicy) :
    Except ConversionFailure Value :=
  if encoding = .ascii && policy = .strict then
    match text.toList.findIdx? fun c => !isAscii c with
    | some position =>
      .error ⟨.encoding, text, "non-ascii character at position " ++ toString position⟩
    | none => .ok (.text text)
  else .ok (.text text)

/-- A value, or the failure of a date with its reason. -/
def dateResult {α : Type} (kind : FailureKind) (text : String) (value : α → Value) :
    Except DateError α → Except ConversionFailure Value
  | .ok a => .ok (value a)
  | .error e => .error ⟨kind, text, e.message⟩

/-- Converts the name of an enum member. -/
def convertMember (text : String) (ns : String) (members : List (String × Int64)) :
    Except ConversionFailure Value :=
  match members.lookup (trimmed text) with
  | some n => .ok (.int n)
  | none => .error ⟨.unknown, text, "not in enum '" ++ ns ++ "'"⟩

/-- Converts a JSON text. -/
def convertJson (text : String) : Except ConversionFailure Value :=
  match Json.parse text with
  | some v => .ok (.json v)
  | none => .error ⟨.invalidJson, text, unexplained⟩

/-- Converts a cell of the column. -/
def ColumnType.convertCell (t : ColumnType) (text : String) : Except ConversionFailure Value :=
  match t.convert with
  | .integer radix width => convertInteger text radix width
  | .real width => convertReal text width
  | .text => .ok (.text text)
  | .encoded encoding policy => convertEncoded text encoding policy
  | .hash h => .ok (h.digest text)
  | .date => dateResult .invalidDate text .date (readDate (trim text.toList))
  | .dateTime => dateResult .invalidDateTime text .dateTime (readDateTime (trim text.toList))
  | .time =>
    dateResult .invalidTime text (fun t => .span t.secondsFromMidnight)
      (readTime (trim text.toList))
  | .json => convertJson text
  | .enum ns members => convertMember text ns members
  | .custom convert => convert text t.main? t.sub?

end TableCompiler
