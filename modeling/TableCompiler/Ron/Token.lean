import TableCompiler.Number.RealText
import TableCompiler.Text.Hex

/-!
# RON tokens — gaps, names, texts, characters and numbers

Blank space and comments may stand between any two tokens; block comments nest. A name that reads
like a keyword is a plain name if it is marked `r#`. An integer that does not fit 64 bits is read as
a real number.
-/

namespace TableCompiler.Ron

open TableCompiler.Number TableCompiler.Text

/-- Where a reader stands between two tokens. -/
inductive Gap where
  | space
  /-- In a comment that the line ends. -/
  | line
  /-- In a block comment, that many others around it. -/
  | block (depth : Nat)
  deriving DecidableEq, Repr

/-- The gap after the end of a block comment. -/
def Gap.leave : (depth : Nat) → Gap
  | 0 => .space
  | depth + 1 => .block depth

/-- The blank space of RON. -/
def isSpace (c : Char) : Bool :=
  c == ' ' || c == '\t' || c == '\r' || c == '\n'

/-- Drops blank space and comments; `none` for a comment that never ends and for a lone slash. -/
def skipFrom : Gap → List Char → Option (List Char)
  | .space, [] => some []
  | .space, '/' :: '/' :: cs => skipFrom .line cs
  | .space, '/' :: '*' :: cs => skipFrom (.block 0) cs
  | .space, c :: cs =>
    if c = '/' then none else if isSpace c then skipFrom .space cs else some (c :: cs)
  | .line, [] => some []
  | .line, c :: cs => skipFrom (if c = '\n' then .space else .line) cs
  | .block _, [] => none
  | .block depth, '/' :: '*' :: cs => skipFrom (.block (depth + 1)) cs
  | .block depth, '*' :: '/' :: cs => skipFrom (.leave depth) cs
  | .block depth, _ :: cs => skipFrom (.block depth) cs

/-- Drops blank space and comments. -/
def skip (cs : List Char) : Option (List Char) :=
  skipFrom .space cs

/-! ## Names -/

/-- A character of a marked name. -/
def isMarkedWord (c : Char) : Bool :=
  isAsciiWord c || c == '.' || c == '+' || c == '-'

/-- A name without a mark. It must not run into a character that only marked names may hold. -/
def readPlainName? (cs : List Char) : Option (String × List Char) :=
  let rest := cs.dropWhile isAsciiWord
  if rest.head?.any isMarkedWord then none
  else some (String.ofList (cs.takeWhile isAsciiWord), rest)

/-- The names that stand for values when they are not marked. -/
def keywords : List String :=
  ["true", "false", "None", "Some", "inf", "NaN"]

/-- A keyword and the rest, which may begin with anything but a letter, a digit or an underscore. -/
def readKeyword? (cs : List Char) : Option (String × List Char) :=
  let name := String.ofList (cs.takeWhile isAsciiWord)
  if name ∈ keywords then some (name, cs.dropWhile isAsciiWord) else none

/-- A name: whether it is marked, its text, and the rest. -/
def readName? : List Char → Option (Bool × String × List Char)
  | 'r' :: '"' :: _ => none
  | 'r' :: '#' :: cs =>
    if cs.head?.any isMarkedWord then
      some (true, String.ofList (cs.takeWhile isMarkedWord), cs.dropWhile isMarkedWord)
    else none
  | ['r'] => none
  | c :: cs =>
    if isAsciiWord c && !isDigit c then
      (readPlainName? (c :: cs)).map fun p => (false, p.1, p.2)
    else none
  | [] => none

/-! ## Texts and characters -/

/-- The character with that code point. -/
def charOf? (n : Nat) : Option Char :=
  if h : n.isValidChar then some (Char.ofNatAux n h) else none

/-- The character of one to six hexadecimal digits in braces. -/
def readCodePoint? (cs : List Char) : Option (Char × List Char) :=
  let digits := cs.takeWhile fun c => (Hex.value? c).isSome
  if 1 ≤ digits.length && digits.length ≤ 6 then
    match cs.drop digits.length, (ofDigits? 16 digits).bind charOf? with
    | '\x7d' :: rest, some c => some (c, rest)
    | _, _ => none
  else none

/-- The character that a single letter stands for after a backslash. -/
def unescape? (c : Char) : Option Char :=
  if c = '\'' then some '\''
  else if c = '"' then some '"'
  else if c = '\\' then some '\\'
  else if c = 'n' then some '\n'
  else if c = 'r' then some '\r'
  else if c = 't' then some '\t'
  else if c = '0' then some '\x00'
  else none

/-- The character that stands after a backslash, and the rest. -/
def readEscape? : List Char → Option (Char × List Char)
  | 'x' :: a :: b :: cs => ((ofDigits? 16 [a, b]).bind charOf?).map (·, cs)
  | 'u' :: '\x7b' :: cs => readCodePoint? cs
  | c :: cs => (unescape? c).map (·, cs)
  | [] => none

/-- The characters up to the closing quote, and the rest; `fuel` bounds their number. -/
def readText : (fuel : Nat) → List Char → Option (List Char × List Char)
  | 0, _ => none
  | _ + 1, [] => none
  | _ + 1, '"' :: cs => some ([], cs)
  | fuel + 1, '\\' :: cs =>
    match readEscape? cs with
    | none => none
    | some (c, cs) => (readText fuel cs).map fun p => (c :: p.1, p.2)
  | fuel + 1, c :: cs => (readText fuel cs).map fun p => (c :: p.1, p.2)

/-- The characters in front of the first place where a mark stands, and what follows the mark. -/
def splitAtMark (mark : List Char) : List Char → Option (List Char × List Char)
  | [] => none
  | c :: cs =>
    if mark.isPrefixOf (c :: cs) then some ([], (c :: cs).drop mark.length)
    else (splitAtMark mark cs).map fun p => (c :: p.1, p.2)

/-- A raw text after its letter: signs, a quote, anything, a quote and as many signs. -/
def readRawText? (cs : List Char) : Option (List Char × List Char) :=
  let signs := cs.takeWhile (· == '#')
  match cs.drop signs.length with
  | '"' :: cs => splitAtMark ('"' :: signs) cs
  | _ => none

/-- A character and its closing quote. -/
def readChar? : List Char → Option (Char × List Char)
  | '\\' :: cs =>
    match readEscape? cs with
    | some (c, '\'' :: cs) => some (c, cs)
    | _ => none
  | c :: '\'' :: cs => if c = '\'' then none else some (c, cs)
  | _ => none

/-! ## Numbers -/

/-- An integer or a real number. -/
inductive Number where
  | integer (n : Int)
  | real (x : Double)
  deriving DecidableEq, Repr

/-- A character that may stand in a real number. -/
def isRealChar (c : Char) : Bool :=
  isDigit c || c == 'e' || c == 'E' || c == '.' || c == '+' || c == '-' || c == '_'

/-- A character that may stand in an integer of some radix. -/
def isIntegerChar (c : Char) : Bool :=
  (Hex.value? c).isSome || c == '_'

/-- The radix of an unsigned integer, and the integer without its mark. -/
def takeRadix : List Char → Nat × List Char
  | '0' :: 'x' :: cs => (16, cs)
  | '0' :: 'o' :: cs => (8, cs)
  | '0' :: 'b' :: cs => (2, cs)
  | cs => (10, cs)

/-- An unsigned integer. Underscores may stand anywhere but in front. -/
def readNatural? (cs : List Char) : Option (Nat × List Char) :=
  let marked := takeRadix cs
  let digits := marked.2.takeWhile isIntegerChar
  if digits.isEmpty || digits.head? = some '_' then none
  else
    (ofDigits? marked.1 (digits.filter (· != '_'))).map
      (·, marked.2.drop digits.length)

/-- An integer of 64 bits: with a sign it must fit the signed, without one the unsigned range. -/
def readInteger? (cs : List Char) : Option (Int × List Char) :=
  match cs with
  | '-' :: cs =>
    match readNatural? cs with
    | some (n, cs) => if leastSigned ≤ -(n : Int) then some (-n, cs) else none
    | none => none
  | '+' :: cs =>
    match readNatural? cs with
    | some (n, cs) => if (n : Int) ≤ largestSigned then some (n, cs) else none
    | none => none
  | cs =>
    match readNatural? cs with
    | some (n, cs) => if n ≤ largestUnsigned then some (n, cs) else none
    | none => none

/-- A real number: a word, or digits without underscores. -/
def readReal? (cs : List Char) : Option (Double × List Char) :=
  let signed := takeSign cs
  match readPlainName? signed.2 with
  | some ("inf", rest) => some (.infinity signed.1, rest)
  | some ("NaN", rest) => some (.nan signed.1, rest)
  | _ =>
    let digits := cs.takeWhile isRealChar
    if digits.contains '_' then none
    else
      match readReal digits with
      | .ok x => some (x, cs.drop digits.length)
      | .error _ => none

/-- Whether a number is written as a real one. -/
def isWrittenReal (cs : List Char) : Bool :=
  let unsigned := (takeSign cs).2
  (unsigned.takeWhile isIntegerChar).length < (unsigned.takeWhile isRealChar).length

/-- A number; what cannot be read as an integer is tried as a real number. -/
def readNumber? (cs : List Char) : Option (Number × List Char) :=
  let asReal := (readReal? cs).map fun p => (Number.real p.1, p.2)
  if isWrittenReal cs then asReal
  else
    match readInteger? cs with
    | some (n, rest) => some (.integer n, rest)
    | none => asReal

end TableCompiler.Ron
