/-!
# FNV-1a — a streaming hash of 64 or 32 bits

Each byte is mixed into the state by exclusive or and then a multiplication modulo the word size.
Writing is a fold over the bytes, so a text may be fed in pieces.
-/

namespace TableCompiler.Hash

/-- The state of a 64-bit hash. -/
structure Fnv64 where
  state : UInt64
  deriving DecidableEq, Repr

namespace Fnv64

/-- The state before any byte. -/
def start : Fnv64 := ⟨0xcbf29ce484222325⟩

/-- The multiplier. -/
def prime : UInt64 := 0x100000001b3

/-- Mixes in one byte. -/
def step (h : Fnv64) (b : UInt8) : Fnv64 :=
  ⟨(h.state ^^^ b.toUInt64) * prime⟩

/-- Mixes in bytes, first to last. -/
def write (h : Fnv64) (bytes : List UInt8) : Fnv64 :=
  bytes.foldl step h

@[simp] theorem write_nil (h : Fnv64) : h.write [] = h := rfl

@[simp] theorem write_cons (h : Fnv64) (b : UInt8) (bytes : List UInt8) :
    h.write (b :: bytes) = (h.step b).write bytes := rfl

end Fnv64

/-- The state of a 32-bit hash. -/
structure Fnv32 where
  state : UInt32
  deriving DecidableEq, Repr

namespace Fnv32

/-- The state before any byte. -/
def start : Fnv32 := ⟨0x811c9dc5⟩

/-- The multiplier. -/
def prime : UInt32 := 0x01000193

/-- Mixes in one byte. -/
def step (h : Fnv32) (b : UInt8) : Fnv32 :=
  ⟨(h.state ^^^ b.toUInt32) * prime⟩

/-- Mixes in bytes, first to last. -/
def write (h : Fnv32) (bytes : List UInt8) : Fnv32 :=
  bytes.foldl step h

@[simp] theorem write_nil (h : Fnv32) : h.write [] = h := rfl

@[simp] theorem write_cons (h : Fnv32) (b : UInt8) (bytes : List UInt8) :
    h.write (b :: bytes) = (h.step b).write bytes := rfl

end Fnv32

end TableCompiler.Hash
