import Mathlib.Algebra.Group.Units.Basic
import Mathlib.Data.BitVec
import TableCompiler.Hash.KeyHash

/-!
# Sensitivity — a hash that every single byte changes

A step of FNV-1a can be undone: exclusive or with a byte undoes itself, and the multiplier has an inverse
modulo the word size.  Nor does a step lose the byte.  Both word sizes are one mixing of words, each with
a multiplier of its own (`lossless_mix`).

What holds of a step holds of a run.  Writing a string permutes the states (`Lossless.foldl_bijective`),
so states that one byte has parted stay apart, whatever is written behind it
(`Lossless.foldl_eq_foldl_iff`), and strings that differ in a single byte have different hashes
(`fnv_streams_and_separates`).
-/

namespace TableCompiler.Hash

open TableCompiler.Text

/-! ## One difference -/

section Differences

variable {α : Type} {xs ys front rest : List α} {a b : α}

/-- Lists of one length that differ in exactly one place. -/
def DifferOnce (xs ys : List α) : Prop :=
  xs.length = ys.length ∧ ∃! i : Nat, xs[i]? ≠ ys[i]?

/-- One entry replaced by another is a single difference. -/
theorem differOnce_append_cons (h : a ≠ b) :
    DifferOnce (front ++ a :: rest) (front ++ b :: rest) := by
  refine ⟨by rw [List.length_append, List.length_append, List.length_cons, List.length_cons],
    front.length, ?_, ?_⟩
  · show (front ++ a :: rest)[front.length]? ≠ (front ++ b :: rest)[front.length]?
    rw [List.getElem?_append_right (Nat.le_refl _), List.getElem?_append_right (Nat.le_refl _),
      Nat.sub_self]
    exact fun heq => h (Option.some.inj heq)
  · intro i differs
    by_contra hi
    apply differs
    -- in front of the entry both lists are `front`, behind it both are `rest`
    rcases Nat.lt_or_gt_of_ne hi with before | behind
    · rw [List.getElem?_append_left before, List.getElem?_append_left before]
    · obtain ⟨k, rfl⟩ := Nat.exists_eq_add_of_lt behind
      rw [List.getElem?_append_right (by omega), List.getElem?_append_right (by omega),
        Nat.add_assoc, Nat.add_sub_cancel_left, List.getElem?_cons_succ, List.getElem?_cons_succ]

/-- What stands in front of a single difference is the same, and so is what stands behind it. -/
theorem DifferOnce.split (h : DifferOnce xs ys) :
    ∃ front a b rest, a ≠ b ∧ xs = front ++ a :: rest ∧ ys = front ++ b :: rest := by
  obtain ⟨hlength, i, differs, only⟩ := h
  -- the place lies within both lists, and away from it they agree
  have same : ∀ j, j ≠ i → xs[j]? = ys[j]? := fun j hj => by
    by_contra other
    exact hj (only j other)
  have hi : i < xs.length := by
    by_contra hi
    exact differs (by rw [List.getElem?_eq_none (by omega), List.getElem?_eq_none (by omega)])
  have hi' : i < ys.length := hlength ▸ hi
  have hfront : xs.take i = ys.take i := by
    refine List.ext_getElem? fun j => ?_
    rw [List.getElem?_take, List.getElem?_take]
    split
    case isTrue hj => exact same j (by omega)
    case isFalse => rfl
  have hrest : xs.drop (i + 1) = ys.drop (i + 1) := by
    refine List.ext_getElem? fun j => ?_
    rw [List.getElem?_drop, List.getElem?_drop]
    exact same _ (by omega)
  refine ⟨xs.take i, xs[i], ys[i], xs.drop (i + 1), ?_, ?_, ?_⟩
  · intro heq
    apply differs
    rw [List.getElem?_eq_getElem hi, List.getElem?_eq_getElem hi', heq]
  · rw [← List.drop_eq_getElem_cons, List.take_append_drop]
  · rw [hfront, hrest, ← List.drop_eq_getElem_cons, List.take_append_drop]

/-- Lists differ once when they part at one place and go on alike. -/
theorem differOnce_iff :
    DifferOnce xs ys ↔ ∃ front a b rest, a ≠ b ∧ xs = front ++ a :: rest ∧ ys = front ++ b :: rest :=
  ⟨DifferOnce.split, fun ⟨_, _, _, _, h, hxs, hys⟩ => hxs ▸ hys ▸ differOnce_append_cons h⟩

end Differences

/-! ## Steps and runs -/

section Runs

variable {State State' : Type} {step : State → UInt8 → State} {step' : State' → UInt8 → State'}
variable {s : State} {a b : UInt8} {front rest bytes bytes' : List UInt8}

/-- A step that can be undone, and that takes each byte to a state of its own. -/
structure Lossless (step : State → UInt8 → State) : Prop where
  states : ∀ b, Function.Bijective fun s => step s b
  bytes : ∀ s, Function.Injective (step s)

namespace Lossless

/-- **RUNS PERMUTE THE STATES** when steps do. -/
theorem foldl_bijective (lossless : Lossless step) (bytes : List UInt8) :
    Function.Bijective fun s => bytes.foldl step s := by
  induction bytes with
  | nil => exact Function.bijective_id
  | cons b bytes ih => exact ih.comp (lossless.states b)

/-- Runs that part at one byte do not meet again. -/
theorem foldl_eq_foldl_iff (lossless : Lossless step) :
    (front ++ a :: rest).foldl step s = (front ++ b :: rest).foldl step s ↔ a = b := by
  rw [List.foldl_append, List.foldl_append, List.foldl_cons, List.foldl_cons]
  exact (lossless.foldl_bijective rest).injective.eq_iff.trans (lossless.bytes _).eq_iff

/-- **ONE BYTE DECIDES** where a run ends. -/
theorem foldl_ne (lossless : Lossless step) (s : State) (differ : DifferOnce bytes bytes') :
    bytes.foldl step s ≠ bytes'.foldl step s := by
  obtain ⟨front, a, b, rest, hne, rfl, rfl⟩ := differOnce_iff.mp differ
  exact fun heq => hne (lossless.foldl_eq_foldl_iff.mp heq)

/-- States may be taken for others that step alike. -/
theorem of_equiv (lossless : Lossless step') (e : State ≃ State')
    (alike : ∀ s b, e (step s b) = step' (e s) b) : Lossless step where
  states b := by
    have hstep : (fun s => step s b) = e.symm ∘ (fun s => step' s b) ∘ e :=
      funext fun s => e.eq_symm_apply.mpr (alike s b)
    rw [hstep]
    exact e.symm.bijective.comp ((lossless.states b).comp e.bijective)
  bytes s := by
    intro a b heq
    apply lossless.bytes (e s)
    rw [← alike, ← alike, heq]

end Lossless

end Runs

/-! ## Mixing -/

section Mixing

variable {width : Nat} {prime inverse : BitVec width}

/-- Mixes a byte into a word of any width: exclusive or, then a multiplication. -/
def mix (prime word : BitVec width) (b : UInt8) : BitVec width :=
  (word ^^^ b.toBitVec.setWidth width) * prime

/-- Exclusive or with a word undoes itself. -/
theorem xor_bijective (v : BitVec width) : Function.Bijective fun w => w ^^^ v := by
  refine Function.Involutive.bijective fun w => ?_
  rw [BitVec.xor_assoc, BitVec.xor_self, BitVec.xor_zero]

/-- A word that has room for a byte tells it from all others. -/
theorem setWidth_byte_injective (fits : 8 ≤ width) :
    Function.Injective fun b : UInt8 => b.toBitVec.setWidth width := by
  intro a b heq
  have hback := congrArg (BitVec.setWidth 8) heq
  simp only [BitVec.setWidth_setWidth_of_le _ fits, BitVec.setWidth_eq] at hback
  exact UInt8.toBitVec_inj.mp hback

/-- **MIXING LOSES NOTHING** when the multiplier has an inverse and a byte fits in a word. -/
theorem lossless_mix (hinverse : prime * inverse = 1) (fits : 8 ≤ width) :
    Lossless (mix prime) := by
  have hmul : Function.Bijective fun w => w * prime :=
    IsUnit.isUnit_iff_mulRight_bijective.mp (.of_mul_eq_one inverse hinverse)
  refine ⟨fun b => hmul.comp (xor_bijective _), fun w a b heq => ?_⟩
  have hxor := hmul.injective heq
  exact setWidth_byte_injective fits ((BitVec.xor_right_inj w).mp hxor)

end Mixing

/-! ## The two word sizes -/

/-- The word of a state. -/
def Fnv64.word : Fnv64 ≃ BitVec 64 where
  toFun h := h.state.toBitVec
  invFun w := ⟨⟨w⟩⟩
  left_inv _ := rfl
  right_inv _ := rfl

/-- A 64-bit step loses nothing: its multiplier has an inverse. -/
theorem Fnv64.lossless_step : Lossless Fnv64.step := by
  have hinverse : Fnv64.prime.toBitVec * 0xce965057aff6957b = 1 := by decide
  -- a step is the mixing of the word by definition
  exact (lossless_mix hinverse (by decide)).of_equiv Fnv64.word fun _ _ => rfl

/-- The word of a state. -/
def Fnv32.word : Fnv32 ≃ BitVec 32 where
  toFun h := h.state.toBitVec
  invFun w := ⟨⟨w⟩⟩
  left_inv _ := rfl
  right_inv _ := rfl

/-- A 32-bit step loses nothing: its multiplier has an inverse. -/
theorem Fnv32.lossless_step : Lossless Fnv32.step := by
  have hinverse : Fnv32.prime.toBitVec * 0x359c449b = 1 := by decide
  exact (lossless_mix hinverse (by decide)).of_equiv Fnv32.word fun _ _ => rfl

section Hashes

variable {bytes bytes' : List UInt8} {text text' : String}

/-- Strings that differ once have different 64-bit hashes, from whatever state. -/
theorem Fnv64.state_ne (h : Fnv64) (differ : DifferOnce bytes bytes') :
    (h.write bytes).state ≠ (h.write bytes').state :=
  fun heq => Fnv64.lossless_step.foldl_ne h differ (congrArg Fnv64.mk heq)

/-- Strings that differ once have different 32-bit hashes, from whatever state. -/
theorem Fnv32.state_ne (h : Fnv32) (differ : DifferOnce bytes bytes') :
    (h.write bytes).state ≠ (h.write bytes').state :=
  fun heq => Fnv32.lossless_step.foldl_ne h differ (congrArg Fnv32.mk heq)

/-- Keys whose bytes differ once are told apart by either hash. -/
theorem digest_ne (differ : DifferOnce (Utf8.encode text) (Utf8.encode text')) :
    KeyHash.hash64.digest text ≠ KeyHash.hash64.digest text' ∧
      KeyHash.hash32.digest text ≠ KeyHash.hash32.digest text' := by
  constructor
  · intro heq
    exact Fnv64.start.state_ne differ (Value.uint.inj heq)
  · intro heq
    exact Fnv32.start.state_ne differ (UInt32.toUInt64_inj.mp (Value.uint.inj heq))

end Hashes

/-- **FNV-1A STREAMS AND SEPARATES**: from every state, chunks written one after the other end where the
whole ends; writing a string permutes the states; and strings that differ in exactly one byte have
different hashes, of which the keys of columns are a case. -/
theorem fnv_streams_and_separates :
    (∀ chunks : List (List UInt8),
      (∀ h : Fnv64, chunks.foldl Fnv64.write h = h.write chunks.flatten) ∧
      ∀ h : Fnv32, chunks.foldl Fnv32.write h = h.write chunks.flatten) ∧
    (∀ bytes : List UInt8,
      (Function.Bijective fun h : Fnv64 => h.write bytes) ∧
      Function.Bijective fun h : Fnv32 => h.write bytes) ∧
    (∀ bytes bytes' : List UInt8, DifferOnce bytes bytes' →
      (∀ h : Fnv64, (h.write bytes).state ≠ (h.write bytes').state) ∧
      ∀ h : Fnv32, (h.write bytes).state ≠ (h.write bytes').state) ∧
    ∀ text text' : String, DifferOnce (Utf8.encode text) (Utf8.encode text') →
      KeyHash.hash64.digest text ≠ KeyHash.hash64.digest text' ∧
      KeyHash.hash32.digest text ≠ KeyHash.hash32.digest text' := by
  refine ⟨fun chunks => ⟨fun h => ?_, fun h => ?_⟩, fun bytes => ⟨?_, ?_⟩,
    fun bytes bytes' differ => ⟨fun h => h.state_ne differ, fun h => h.state_ne differ⟩,
    fun text text' => digest_ne⟩
  · exact List.foldl_flatten.symm
  · exact List.foldl_flatten.symm
  · exact Fnv64.lossless_step.foldl_bijective bytes
  · exact Fnv32.lossless_step.foldl_bijective bytes

/-- Two words apart in the second byte of a character. -/
theorem fnv_streams_and_separates_umlauts :
    DifferOnce (Utf8.encode "Hülle") (Utf8.encode "Hölle") ∧
      (∀ h : Fnv64,
        (h.write (Utf8.encode "Hülle")).state ≠ (h.write (Utf8.encode "Hölle")).state) ∧
      (∀ h : Fnv32,
        (h.write (Utf8.encode "Hülle")).state ≠ (h.write (Utf8.encode "Hölle")).state) ∧
      KeyHash.hash64.digest "Hülle" ≠ KeyHash.hash64.digest "Hölle" ∧
      KeyHash.hash32.digest "Hülle" ≠ KeyHash.hash32.digest "Hölle" := by
  obtain ⟨-, -, states, keys⟩ := fnv_streams_and_separates
  have differ : DifferOnce (Utf8.encode "Hülle") (Utf8.encode "Hölle") :=
    differOnce_iff.mpr ⟨[0x48, 0xC3], 0xBC, 0xB6, [0x6C, 0x6C, 0x65], by decide, rfl, rfl⟩
  obtain ⟨words64, words32⟩ := states _ _ differ
  exact ⟨differ, words64, words32, keys _ _ differ⟩

end TableCompiler.Hash
