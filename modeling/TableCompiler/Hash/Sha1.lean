import TableCompiler.Hash.Block

/-!
# SHA-1 — a digest of twenty bytes
-/

namespace TableCompiler.Hash.Sha1

/-- The chaining state. -/
structure State where
  a : UInt32
  b : UInt32
  c : UInt32
  d : UInt32
  e : UInt32
  deriving DecidableEq, Repr

/-- The state before the first block. -/
def start : State := ⟨0x67452301, 0xefcdab89, 0x98badcfe, 0x10325476, 0xc3d2e1f0⟩

/-- Adds the next word to a schedule. -/
def extend (words : Array UInt32) (i : Nat) : Array UInt32 :=
  words.push (rotateLeft
    (words.getD (i - 3) 0 ^^^ words.getD (i - 8) 0 ^^^ words.getD (i - 14) 0
      ^^^ words.getD (i - 16) 0) 1)

/-- The eighty words of a block: sixteen of its own and sixty-four more. -/
def schedule (block : List UInt8) : Array UInt32 :=
  ((List.range 64).map (· + 16)).foldl extend (bigWords block).toArray

/-- One round. -/
def round (words : Array UInt32) (s : State) (i : Nat) : State :=
  let mixed :=
    if i < 20 then ((s.b &&& s.c) ||| (~~~s.b &&& s.d)) + 0x5a827999
    else if i < 40 then (s.b ^^^ s.c ^^^ s.d) + 0x6ed9eba1
    else if i < 60 then ((s.b &&& s.c) ||| (s.b &&& s.d) ||| (s.c &&& s.d)) + 0x8f1bbcdc
    else (s.b ^^^ s.c ^^^ s.d) + 0xca62c1d6
  ⟨rotateLeft s.a 5 + mixed + s.e + words.getD i 0, s.a, rotateLeft s.b 30, s.c, s.d⟩

/-- Brings one block into the state. -/
def compress (s : State) (block : List UInt8) : State :=
  let t := (List.range 80).foldl (round (schedule block)) s
  ⟨s.a + t.a, s.b + t.b, s.c + t.c, s.d + t.d, s.e + t.e⟩

/-- The bytes of a state. -/
def State.bytes (s : State) : List UInt8 :=
  wordBig s.a ++ wordBig s.b ++ wordBig s.c ++ wordBig s.d ++ wordBig s.e

/-- The digest of a message. -/
def digest (bytes : List UInt8) : List UInt8 :=
  ((blocksOf (padMessage (bigBytes 8) bytes)).foldl compress start).bytes

theorem length_digest (bytes : List UInt8) : (digest bytes).length = 20 := rfl

end TableCompiler.Hash.Sha1
