import TableCompiler.Table.Basic
import TableCompiler.Hash.KeyHash

/-!
# Sample tables — small sources to try a compiler on
-/

namespace TableCompiler.Samples

/-- Items with typed columns, a comment row and a remark column. -/
def itemRows : List (List String) :=
  [["id", "name", "price", "weight", "released", "#memo"],
   ["int:pk", "str:key", "uint16", "real", "date", "str"],
   ["1", "SWORD", "120", "3.5", "2024-01-15", "starter"],
   ["# retired items", "", "", "", "", ""],
   ["2", "SHIELD", "80", "6.25", "2024-02-01", ""],
   ["3", "POTION", "15", "0.5", "2024-03-10", "consumable"]]

/-- Items whose names are given in two locales. -/
def localizedRows : List (List String) :=
  [["id", "name", "$name[en]", "$name[ko]"],
   ["int:pk", "str:key", "str", "str"],
   ["1", "ITEM_SWORD", "Sword", "검"],
   ["#2", "ITEM_OLD", "Old", "낡은"],
   ["3", "ITEM_SHIELD", "Shield", "방패"]]

/-- More candidates than any search for distinct keys goes through. -/
def candidateLimit : Nat := 4611686018427387904

/-- The first `count` keys, from number `i` on, whose checksums are new. -/
def distinctFrom (name : String) : (fuel i count : Nat) → List UInt32 → List String
  | 0, _, _, _ => []
  | _, _, 0, _ => []
  | fuel + 1, i, count + 1, seen =>
    let key := name ++ toString i
    let hash := KeyHash.adler key
    if hash ∈ seen then distinctFrom name fuel (i + 1) (count + 1) seen
    else key :: distinctFrom name fuel (i + 1) count (hash :: seen)

/-- Keys of a common beginning and a number, whose Adler-32 checksums all differ. -/
def distinctKeys (name : String) (count : Nat) : List String :=
  distinctFrom name candidateLimit 0 count []

/-- A number in capital hexadecimal digits. -/
def capitalHex (n : Nat) : String :=
  String.ofList ((Nat.toDigits 16 n).map Char.toUpper)

/-- A record of the wide table. -/
def wideRow (i : Nat) (key : String) : List String :=
  [toString i, capitalHex i, key, "Name " ++ toString i, toString (i % 1000) ++ ".25",
   "row-" ++ toString i]

/-- A table with many kinds of columns and any number of records. -/
def wideRows (count : Nat) : List (List String) :=
  ["id", "code", "name", "$name[en]", "score", "hash"]
    :: ["int:pk", "int:hex", "str:key", "str", "real64", "str:sha1"]
    :: (distinctKeys "NAME_" count).zipIdx.map fun k => wideRow k.2 k.1

end TableCompiler.Samples
