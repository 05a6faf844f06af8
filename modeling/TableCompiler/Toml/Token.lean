import TableCompiler.Number.RealText
import TableCompiler.Text.Hex

/-!
# TOML tokens — blanks, line ends, keys, texts and numbers

Comments and texts hold no control characters but the tab. Digits may have single underscores
between them.
-/

namespace TableCompiler.Toml

open TableCompiler.Number TableCompiler.Text

/-! ## Blanks and line ends -/

/-- A space or a tab. -/
def isBlank (c : Char) : Bool :=
  c == ' ' || c == '\t'

/-- Drops spaces and tabs. -/
def skipBlank (cs : List Char) : List Char :=
  cs.dropWhile isBlank

/-- A character that may stand in a comment, and in a text unless it ends or escapes it. -/
def isVisible (c : Char) : Bool :=
  c == '\t' || (0x20 ≤ c.toNat && c.toNat ≠ 0x7F)

/-- What follows a line end. -/
def afterLineEnd? : List Char → Option (List Char)
  | '\n' :: cs => some cs
  | '\r' :: '\n' :: cs => some cs
  | _ => none

/-- Drops a comment, if one begins here. -/
def skipComment : List Char → List Char
  | '#' :: cs => cs.dropWhile isVisible
  | cs => cs

/-- What follows the line, if nothing but blanks and a comment is left of it. -/
def finishLine? (cs : List Char) : Option (List Char) :=
  match skipComment (skipBlank cs) with
  | [] => some []
  | cs => afterLineEnd? cs

/-- Drops blanks, line ends and comments; a comment must end with its line. -/
def skipGap : (comment : Bool) → List Char → Option (List Char)
  | false, [] => some []
  | true, [] => none
  | _, '\n' :: cs => skipGap false cs
  | _, '\r' :: '\n' :: cs => skipGap false cs
  | true, c :: cs => if isVisible c then skipGap true cs else none
  | false, c :: cs =>
    if c = '#' then skipGap true cs
    else if isBlank c then skipGap false cs
    else if c = '\r' then none
    else some (c :: cs)

/-! ## Texts -/

/-- The character with the code point that exactly so many hexadecimal digits spell. -/
def readCodePoint? (width : Nat) (cs : List Char) : Option (Char × List Char) :=
  let digits := cs.take width
  if digits.length = width then
    match ofDigits? 16 digits with
    | none => none
    | some n => if n.isValidChar then some (Char.ofNat n, cs.drop width) else none
  else none

/-- The character that a single letter stands for after a backslash. -/
def unescape? (c : Char) : Option Char :=
  if c = '"' then some '"'
  else if c = '\\' then some '\\'
  else if c = 'b' then some '\x08'
  else if c = 'f' then some '\x0c'
  else if c = 'n' then some '\n'
  else if c = 'r' then some '\r'
  else if c = 't' then some '\t'
  else none

/-- The character that stands after a backslash, and the rest. -/
def readEscape? : List Char → Option (Char × List Char)
  | 'u' :: cs => readCodePoint? 4 cs
  | 'U' :: cs => readCodePoint? 8 cs
  | c :: cs => (unescape? c).map (·, cs)
  | [] => none

/-- The characters of a text on one line, up to its closing quote. Only double quotes let a backslash
escape. -/
def readShortText (quote : Char) : (fuel : Nat) → List Char → Option (List Char × List Char)
  | 0, _ => none
  | _ + 1, [] => none
  | fuel + 1, c :: cs =>
    if c = quote then some ([], cs)
    else if c = '\\' && quote = '"' then
      match readEscape? cs with
      | none => none
      | some (c, cs) => (readShortText quote fuel cs).map fun p => (c :: p.1, p.2)
    else if isVisible c then (readShortText quote fuel cs).map fun p => (c :: p.1, p.2)
    else none

/-- Drops blanks and line ends. A carriage return is one only with its line feed. -/
def skipFolded : List Char → List Char
  | '\r' :: '\n' :: cs => skipFolded cs
  | c :: cs => if isBlank c || c == '\n' then skipFolded cs else c :: cs
  | [] => []

/-- What follows a backslash at the end of a line and all blanks and line ends after it. -/
def afterFold? (cs : List Char) : Option (List Char) :=
  (afterLineEnd? (skipBlank cs)).map skipFolded

/-- The characters of a text between three quotes on either side. One or two more quotes may stand
before the closing ones. Every line end becomes a line feed. -/
def readLongText (quote : Char) : (fuel : Nat) → List Char → Option (List Char × List Char)
  | 0, _ => none
  | _ + 1, [] => none
  | fuel + 1, c :: cs =>
    let more (text : List Char) (rest : List Char) : Option (List Char × List Char) :=
      (readLongText quote fuel rest).map fun p => (text ++ p.1, p.2)
    if c = quote then
      let quotes := (c :: cs).takeWhile (· == quote)
      let rest := (c :: cs).dropWhile (· == quote)
      if quotes.length < 3 then more quotes rest
      else
        let inside := min 2 (quotes.length - 3)
        some (quotes.take inside, quotes.drop (inside + 3) ++ rest)
    else if c = '\\' && quote = '"' then
      match afterFold? cs with
      | some rest => more [] rest
      | none =>
        match readEscape? cs with
        | none => none
        | some (c, rest) => more [c] rest
    else
      match afterLineEnd? (c :: cs) with
      | some rest => more ['\n'] rest
      | none => if isVisible c then more [c] cs else none

/-- Drops the line end right behind the opening quotes of a long text. -/
def skipFirstLineEnd (cs : List Char) : List Char :=
  (afterLineEnd? cs).getD cs

/-- A text of either kind of quote, if one begins here. -/
def readText? : List Char → Option (List Char × List Char)
  | '"' :: '"' :: '"' :: cs => readLongText '"' (cs.length + 1) (skipFirstLineEnd cs)
  | '\'' :: '\'' :: '\'' :: cs => readLongText '\'' (cs.length + 1) (skipFirstLineEnd cs)
  | '"' :: cs => readShortText '"' (cs.length + 1) cs
  | '\'' :: cs => readShortText '\'' (cs.length + 1) cs
  | _ => none

/-! ## Keys -/

/-- A character of a key without quotes. -/
def isKeyChar (c : Char) : Bool :=
  isAsciiWord c || c == '-'

/-- A key without dots. -/
def readKey? : List Char → Option (String × List Char)
  | '"' :: cs => (readShortText '"' (cs.length + 1) cs).map fun p => (String.ofList p.1, p.2)
  | '\'' :: cs => (readShortText '\'' (cs.length + 1) cs).map fun p => (String.ofList p.1, p.2)
  | cs =>
    let key := cs.takeWhile isKeyChar
    if key.isEmpty then none else some (String.ofList key, cs.dropWhile isKeyChar)

/-- Keys with dots between them and blanks around them. -/
def readKeys : (fuel : Nat) → List Char → Option (List String × List Char)
  | 0, _ => none
  | fuel + 1, cs =>
    match readKey? (skipBlank cs) with
    | none => none
    | some (key, cs) =>
      match skipBlank cs with
      | '.' :: cs => (readKeys fuel cs).map fun p => (key :: p.1, p.2)
      | cs => some ([key], cs)

/-- A path has fewer keys than this, and values are nested less deep. -/
def nestingLimit : Nat := 80

/-- A dotted key. -/
def readPath? (cs : List Char) : Option (List String × List Char) :=
  match readKeys (cs.length + 1) cs with
  | some (path, cs) => if path.length < nestingLimit then some (path, cs) else none
  | none => none

/-! ## Numbers -/

/-- Digits behind a digit, each perhaps with an underscore before it. -/
def readMoreDigits (ok : Char → Bool) : List Char → Option (List Char × List Char)
  | [] => some ([], [])
  | ['_'] => none
  | '_' :: c :: cs =>
    if ok c then (readMoreDigits ok cs).map fun p => (c :: p.1, p.2) else none
  | c :: cs =>
    if ok c then (readMoreDigits ok cs).map fun p => (c :: p.1, p.2) else some ([], c :: cs)

/-- One or more digits. -/
def readDigits? (ok : Char → Bool) : List Char → Option (List Char × List Char)
  | c :: cs => if ok c then (readMoreDigits ok cs).map fun p => (c :: p.1, p.2) else none
  | [] => none

/-- The digits of a decimal integer: a single zero, or digits that do not start with one. -/
def readWhole? : List Char → Option (List Char × List Char)
  | '0' :: cs => some (['0'], cs)
  | cs => readDigits? isDigit cs

/-- A digit of a radix. -/
def isDigitOf (radix : Nat) (c : Char) : Bool :=
  (digitValue? radix c).isSome

/-- An integer or a real number. -/
inductive Number where
  | integer (n : Int)
  | real (x : Double)
  deriving DecidableEq, Repr

/-- An integer that fits the signed range of 64 bits. -/
def signed? (n : Int) : Option Number :=
  if leastSigned ≤ n && n ≤ largestSigned then some (.integer n) else none

/-- An integer in a marked radix. -/
def readMarked? (radix : Nat) (cs : List Char) : Option (Number × List Char) :=
  match readDigits? (isDigitOf radix) cs with
  | none => none
  | some (digits, cs) => ((ofDigits? radix digits).bind fun n => signed? n).map (·, cs)

/-- The fraction of a real number, if there is one, with its point. -/
def readFraction? : List Char → Option (List Char × List Char)
  | '.' :: cs => (readDigits? isDigit cs).map fun p => ('.' :: p.1, p.2)
  | cs => some ([], cs)

/-- The sign of an exponent, as it is written. -/
def exponentSign : List Char → List Char × List Char
  | '-' :: cs => (['-'], cs)
  | '+' :: cs => (['+'], cs)
  | cs => ([], cs)

/-- The exponent of a real number, if there is one, with its letter. -/
def readExponent? : List Char → Option (List Char × List Char)
  | [] => some ([], [])
  | c :: cs =>
    if c = 'e' || c = 'E' then
      let sign := exponentSign cs
      (readDigits? isDigit sign.2).map fun p => ('e' :: sign.1 ++ p.1, p.2)
    else some ([], c :: cs)

/-- The real number of digits, which must not exceed the largest one. -/
def realOf? (negative : Bool) (digits : List Char) : Option Number :=
  match readReal (if negative then '-' :: digits else digits) with
  | .error _ => none
  | .ok x => if x = .infinity false then none else some (.real x)

/-- A decimal number with the sign already read. -/
def readDecimal? (negative : Bool) (cs : List Char) : Option (Number × List Char) :=
  match readWhole? cs with
  | none => none
  | some (whole, cs) =>
    match readFraction? cs with
    | none => none
    | some (fraction, cs) =>
      match readExponent? cs with
      | none => none
      | some (exponent, cs) =>
        let number :=
          if fraction.isEmpty && exponent.isEmpty then
            signed? (if negative then -(ofDecimalDigits whole) else ofDecimalDigits whole)
          else realOf? negative (whole ++ fraction ++ exponent)
        number.map (·, cs)

/-- A word or a decimal number with the sign already read. -/
def readSigned? (negative : Bool) : List Char → Option (Number × List Char)
  | 'i' :: 'n' :: 'f' :: cs => some (.real (.infinity negative), cs)
  | 'n' :: 'a' :: 'n' :: cs => some (.real (.nan negative), cs)
  | cs => readDecimal? negative cs

/-- A number. -/
def readNumber? : List Char → Option (Number × List Char)
  | '0' :: 'x' :: cs => readMarked? 16 cs
  | '0' :: 'o' :: cs => readMarked? 8 cs
  | '0' :: 'b' :: cs => readMarked? 2 cs
  | '-' :: cs => readSigned? true cs
  | '+' :: cs => readSigned? false cs
  | cs => readSigned? false cs

end TableCompiler.Toml
