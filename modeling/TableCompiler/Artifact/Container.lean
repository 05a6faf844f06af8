import TableCompiler.Hash.Block
import TableCompiler.Text.Utf8

/-!
# The container — numbers, byte strings and lists in sequence

Every piece says how long it is before it begins: a number in groups of seven bits whose last one is
marked, a byte string after its length, a list after its count. So a reader knows where a piece ends,
and what it reads does not depend on the bytes behind it.
-/

namespace TableCompiler.Container

/-- A reader takes a piece off the front of the bytes, or refuses them. -/
abbrev Reader (α : Type) := List UInt8 → Option (α × List UInt8)

/-- A number in groups of seven bits, least significant first; every group but the last is marked.
`fuel` bounds the groups. -/
def writeGroups : (fuel : Nat) → Nat → List UInt8
  | 0, n => [UInt8.ofNat (n % 128)]
  | fuel + 1, n =>
    if n < 128 then [UInt8.ofNat n]
    else UInt8.ofNat (128 + n % 128) :: writeGroups fuel (n / 128)

/-- Writes a number of any size. -/
def writeNat (n : Nat) : List UInt8 :=
  writeGroups n n

/-- Reads a number of any size. -/
def readNat : Reader Nat
  | [] => none
  | b :: rest =>
    if b < 128 then some (b.toNat, rest)
    else
      match readNat rest with
      | none => none
      | some (n, rest) => some (b.toNat - 128 + 128 * n, rest)

/-- Writes a word of 32 bits in four bytes. -/
def writeWord (n : UInt32) : List UInt8 :=
  Hash.littleBytes 4 n.toNat

/-- Reads a word of 32 bits. -/
def readWord : Reader UInt32
  | a :: b :: c :: d :: rest =>
    some (UInt32.ofNat (a.toNat + 256 * (b.toNat + 256 * (c.toNat + 256 * d.toNat))), rest)
  | _ => none

/-- Writes a byte string after its length. -/
def writeBytes (bytes : List UInt8) : List UInt8 :=
  writeNat bytes.length ++ bytes

/-- Reads a byte string. -/
def readBytes : Reader (List UInt8) := fun bytes =>
  match readNat bytes with
  | none => none
  | some (n, rest) => if rest.length < n then none else some (rest.take n, rest.drop n)

/-- Writes pieces after their count. -/
def writeList {α : Type} (write : α → List UInt8) (items : List α) : List UInt8 :=
  writeNat items.length ++ items.flatMap write

/-- Reads a given number of pieces. -/
def readCount {α : Type} (read : Reader α) : (count : Nat) → Reader (List α)
  | 0, bytes => some ([], bytes)
  | count + 1, bytes =>
    match read bytes with
    | none => none
    | some (a, rest) =>
      match readCount read count rest with
      | none => none
      | some (as, rest) => some (a :: as, rest)

/-- Reads a list of pieces. -/
def readList {α : Type} (read : Reader α) : Reader (List α) := fun bytes =>
  match readNat bytes with
  | none => none
  | some (n, rest) => readCount read n rest

/-- Writes a text in UTF-8. -/
def writeText (s : String) : List UInt8 :=
  writeBytes (Text.Utf8.encode s)

/-- Reads a text. -/
def readText : Reader String := fun bytes =>
  match readBytes bytes with
  | none => none
  | some (encoded, rest) =>
    match Text.Utf8.decode encoded with
    | none => none
    | some s => some (s, rest)

end TableCompiler.Container
