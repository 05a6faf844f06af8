/-!
# Paths — names with slashes between them

A path that begins with a slash is absolute. Empty names and single dots lead nowhere and are passed
over; two dots lead back.
-/

namespace TableCompiler.Files

/-- The runs of characters between slashes. -/
def splitSlashes : List Char → List (List Char)
  | [] => [[]]
  | c :: cs =>
    if c = '/' then [] :: splitSlashes cs
    else
      match splitSlashes cs with
      | [] => [[c]]
      | run :: runs => (c :: run) :: runs

/-- The names of a path, the empty ones and the dots among them. -/
def segments (path : String) : List String :=
  (splitSlashes path.toList).map String.ofList

/-- A name that leads nowhere. -/
def isIdle (segment : String) : Bool :=
  segment = "" || segment = "."

/-- The names of a path that lead somewhere. -/
def components (path : String) : List String :=
  (segments path).filter fun s => !isIdle s

/-- A path that begins at the root. -/
def isAbsolute (path : String) : Bool :=
  path.toList.head? = some '/'

/-- A path that ends with a slash. -/
def endsWithSlash (path : String) : Bool :=
  path.toList.getLast? = some '/'

/-- A path without the slashes at its end; the root keeps one. -/
def dropEndingSlashes (path : String) : String :=
  let cs := (path.toList.reverse.dropWhile (· == '/')).reverse
  if cs.isEmpty && isAbsolute path then "/" else String.ofList cs

/-- A path that continues another; an absolute one replaces it. -/
def join (base path : String) : String :=
  if isAbsolute path || base = "" then path
  else if endsWithSlash base then base ++ path
  else base ++ "/" ++ path

/-- The path with these names. -/
def ofComponents (names : List String) : String :=
  String.ofList (['/'].intercalate (names.map String.toList))

/-- What stands behind the last dot of a file name, if the dot is neither missing nor its first
character. -/
def extensionOfName? (name : String) : Option String :=
  let cs := name.toList.reverse
  let stem := (cs.dropWhile (· != '.')).drop 1
  if stem.isEmpty || name = ".." then none
  else some (String.ofList (cs.takeWhile (· != '.')).reverse)

/-- The extension of the file that a path leads to. -/
def extension? (path : String) : Option String :=
  (components path).getLast?.bind extensionOfName?

end TableCompiler.Files
