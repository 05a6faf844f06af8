import TableCompiler.Files.Path
import TableCompiler.Text.Utf8

/-!
# File trees — directories and files, reached by paths

A location is the list of names that lead to it from the root. Relative paths begin at the tree's home.
A path is walked name by name: all but its last must lead to directories. What an operation cannot do
it refuses with the system's own reason, and then it changes nothing.
-/

namespace TableCompiler.Files

open TableCompiler.Text

/-- Why the system refuses an operation. -/
inductive Refusal where
  | notFound
  | exists
  | notDirectory
  | isDirectory
  | nameTooLong
  | nullInName
  /-- The file is there, but not text. -/
  | notText
  deriving DecidableEq, Repr

/-- The wording of a refusal. -/
def Refusal.message : Refusal → String
  | .notFound => "No such file or directory (os error 2)"
  | .exists => "File exists (os error 17)"
  | .notDirectory => "Not a directory (os error 20)"
  | .isDirectory => "Is a directory (os error 21)"
  | .nameTooLong => "File name too long (os error 36)"
  | .nullInName => "file name contained an unexpected NUL byte"
  | .notText => "stream did not contain valid UTF-8"

/-- The names that lead from the root to a place. -/
abbrev Location := List String

/-- What stands at a location. -/
inductive Entry where
  | directory
  | file (bytes : List UInt8)
  deriving DecidableEq, Repr

/-- Directories and files by location. The root and the home are directories, whether listed or
not. -/
structure FileTree where
  home : Location
  entries : List (Location × Entry)

namespace FileTree

/-- What stands at a location. -/
def entry? (t : FileTree) (place : Location) : Option Entry :=
  if place.isPrefixOf t.home then some .directory else t.entries.lookup place

/-- Puts an entry at a location. -/
def put (t : FileTree) (place : Location) (e : Entry) : FileTree :=
  if (t.entries.lookup place).isSome then
    { t with entries := t.entries.map fun old => if old.1 = place then (place, e) else old }
  else { t with entries := t.entries ++ [(place, e)] }

/-- The longest name in bytes. -/
def longestName : Nat := 255

/-- Whether the null character, which no name may hold, stands in a path. -/
def hasNull (path : String) : Bool :=
  path.toList.contains '\x00'

/-- The place that a name leads to from another, which must be a directory. -/
def step (t : FileTree) (place : Location) (name : String) : Except Refusal Location :=
  match t.entry? place with
  | none => .error .notFound
  | some (.file _) => .error .notDirectory
  | some .directory =>
    if isIdle name then .ok place
    else if name = ".." then .ok place.dropLast
    else if longestName < name.utf8ByteSize then .error .nameTooLong
    else .ok (place ++ [name])

/-- The place that names lead to one after another. -/
def walk (t : FileTree) : Location → List String → Except Refusal Location
  | place, [] => .ok place
  | place, name :: rest =>
    match t.step place name with
    | .error e => .error e
    | .ok next => t.walk next rest

/-- The place that a path leads to; nothing need stand there. -/
def locate (t : FileTree) (path : String) : Except Refusal Location :=
  if hasNull path then .error .nullInName
  else if path = "" then .error .notFound
  else t.walk (if isAbsolute path then [] else t.home) (segments path)

/-- Whether a path leads to a directory. -/
def isDirectory (t : FileTree) (path : String) : Bool :=
  match t.locate path with
  | .error _ => false
  | .ok place => t.entry? place = some .directory

/-- The bytes of a file. -/
def read (t : FileTree) (path : String) : Except Refusal (List UInt8) :=
  match t.locate path with
  | .error e => .error e
  | .ok place =>
    match t.entry? place with
    | none => .error .notFound
    | some .directory => .error .isDirectory
    | some (.file bytes) => .ok bytes

/-- The text of a file. -/
def readText (t : FileTree) (path : String) : Except Refusal String :=
  match t.read path with
  | .error e => .error e
  | .ok bytes =>
    match Utf8.decode bytes with
    | none => .error .notText
    | some s => .ok s

/-- Writes a file, in place of what it held before. -/
def write (t : FileTree) (path : String) (bytes : List UInt8) : Except Refusal FileTree :=
  match t.locate path with
  | .error e => .error e
  | .ok place =>
    match t.entry? place with
    | some .directory => .error .isDirectory
    | some (.file _) => .ok (t.put place (.file bytes))
    | none =>
      if endsWithSlash path then .error .isDirectory else .ok (t.put place (.file bytes))

/-- Makes a directory in a directory that is there. Slashes at the end of its path mean nothing. -/
def createDirectory (t : FileTree) (path : String) : Except Refusal FileTree :=
  match t.locate (dropEndingSlashes path) with
  | .error e => .error e
  | .ok place =>
    match t.entry? place with
    | some _ => .error .exists
    | none => .ok (t.put place .directory)

/-- Makes a directory unless it is there; `parent` makes the one around it if that is missing. -/
def ensureDirectory (t : FileTree) (path : String) (parent : Except Refusal FileTree) :
    Except Refusal FileTree :=
  match t.createDirectory path with
  | .ok made => .ok made
  | .error .notFound =>
    match parent with
    | .error e => .error e
    | .ok around =>
      match around.createDirectory path with
      | .ok made => .ok made
      | .error e => if around.isDirectory path then .ok around else .error e
  | .error e => if t.isDirectory path then .ok t else .error e

/-- Makes the directory that names lead to, given last name first, and those on the way to it. -/
def createNames (t : FileTree) (absolute : Bool) : (names : List String) → Except Refusal FileTree
  | [] => .ok t
  | name :: before =>
    t.ensureDirectory ((if absolute then "/" else "") ++ ofComponents (name :: before).reverse)
      (t.createNames absolute before)

/-- Makes a directory and those on the way to it, as far as they are missing. The way is told by the
names of the path, but the directory itself is asked for as the path is written: a dot at its end must
stand in a directory that is there. -/
def createDirectories (t : FileTree) (path : String) : Except Refusal FileTree :=
  if hasNull path then .error .nullInName
  else
    match (components path).reverse with
    | [] => .ok t
    | _ :: before => t.ensureDirectory path (t.createNames (isAbsolute path) before)

end FileTree

end TableCompiler.Files
