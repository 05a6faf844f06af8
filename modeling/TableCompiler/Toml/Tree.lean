import TableCompiler.Number.Double
import TableCompiler.Toml.Moment

/-!
# TOML trees — tables that are built statement by statement

A table remembers how it came to be, since that decides what may still be added to it: a header can be
given once, and only to a table that longer headers have passed through; a dotted key can extend what
dotted keys have made; braces are closed.
-/

namespace TableCompiler.Toml

open TableCompiler.Number

/-- How a table came to be. -/
inductive Origin where
  /-- It has a header of its own. -/
  | header
  /-- Longer headers pass through it. -/
  | passed
  /-- Dotted keys pass through it. -/
  | dotted
  /-- It is written in braces. -/
  | braces
  /-- Dotted keys in braces pass through it. -/
  | dottedInBraces
  deriving DecidableEq, Repr

/-- A value of TOML. -/
inductive Node where
  | text (s : String)
  | integer (n : Int)
  | real (x : Double)
  | bool (b : Bool)
  | moment (m : Moment)
  | list (items : List Node)
  | table (origin : Origin) (members : List (String × Node))
  /-- Tables under a header that is repeated. -/
  | tables (elements : List (List (String × Node)))

/-- Keys and values of a table. -/
abbrev Members := List (String × Node)

/-- A table that headers can pass through. -/
def Origin.isOpen : Origin → Bool
  | .header => true
  | .passed => true
  | .dotted => true
  | .braces => false
  | .dottedInBraces => false

/-- A table that dotted keys of a statement can pass through. -/
def Origin.isImplied : Origin → Bool
  | .passed => true
  | .dotted => true
  | _ => false

/-- Adds a member under a new key. -/
def addMember (key : String) (v : Node) (members : Members) : Option Members :=
  if (members.lookup key).isSome then none else some (members ++ [(key, v)])

/-- Puts another value under a key. -/
def replaceMember (key : String) (v : Node) (members : Members) : Members :=
  members.map fun m => if m.1 = key then (key, v) else m

/-- Changes the table under a key, or the last of the tables there; a missing table is made first. -/
def within (made : Origin) (mayEnter : Origin → Bool) (key : String)
    (change : Origin → Members → Option Members) (members : Members) : Option Members :=
  match members.lookup key with
  | none => (change made []).map fun inner => members ++ [(key, .table made inner)]
  | some (.table origin inner) =>
    if mayEnter origin then
      (change origin inner).map fun inner => replaceMember key (.table origin inner) members
    else none
  | some (.tables elements) =>
    match elements.getLast? with
    | none => none
    | some last =>
      (change .header last).map fun last =>
        replaceMember key (.tables (elements.dropLast ++ [last])) members
  | some _ => none

/-- Adds a value under a dotted key. The table that gets it is the one the statement stands in, or
was made by dotted keys. -/
def assign (made : Origin) (mayEnter : Origin → Bool) (v : Node) :
    (direct : Bool) → (path : List String) → Members → Option Members
  | _, [], _ => none
  | direct, [key], members => if direct then addMember key v members else none
  | _, key :: rest, members =>
    within made mayEnter key (fun origin inner => assign made mayEnter v (origin = made) rest inner)
      members

/-- Gives a table its header. -/
def declare : (path : List String) → Members → Option Members
  | [], _ => none
  | [key], members =>
    match members.lookup key with
    | none => addMember key (.table .header []) members
    | some (.table .passed inner) => some (replaceMember key (.table .header inner) members)
    | some _ => none
  | key :: rest, members =>
    within .passed Origin.isOpen key (fun _ inner => declare rest inner) members

/-- Begins another table under a repeated header. -/
def extend : (path : List String) → Members → Option Members
  | [], _ => none
  | [key], members =>
    match members.lookup key with
    | none => addMember key (.tables [[]]) members
    | some (.tables elements) => some (replaceMember key (.tables (elements ++ [[]])) members)
    | some _ => none
  | key :: rest, members =>
    within .passed Origin.isOpen key (fun _ inner => extend rest inner) members

/-- Changes the table that the last header began. -/
def inside (change : Members → Option Members) : (path : List String) → Members → Option Members
  | [], members => change members
  | key :: rest, members =>
    within .passed Origin.isOpen key (fun _ inner => inside change rest inner) members

/-- One statement of a document. -/
inductive Statement where
  | assign (path : List String) (v : Node)
  | header (path : List String)
  | element (path : List String)

/-- A document under construction: where its statements stand, and the whole of it. -/
structure Draft where
  current : List String
  members : Members

/-- Adds a statement to a document. -/
def Draft.add (d : Draft) : Statement → Option Draft
  | .assign path v =>
    (inside (assign .dotted Origin.isImplied v true path) d.current d.members).map
      fun members => { d with members := members }
  | .header path => (declare path d.members).map fun members => ⟨path, members⟩
  | .element path => (extend path d.members).map fun members => ⟨path, members⟩

/-- The table of a document's statements. -/
def build (statements : List Statement) : Option Members :=
  (statements.foldlM Draft.add ⟨[], []⟩).map Draft.members

/-- The table in braces that has these values under these dotted keys. -/
def braces (members : List (List String × Node)) : Option Node :=
  (members.foldlM
    (fun made m => assign .dottedInBraces (· = .dottedInBraces) m.2 true m.1 made) []).map
    (.table .braces)

end TableCompiler.Toml
