import TableCompiler.Artifact.Basic
import TableCompiler.Proofs.Text.Utf8

/-!
# Artifacts there and back — what is written is read

A piece of a container tells its own length, so that its reader stops where its writer did, whatever
stands behind (`Undoes`).  This passes from numbers to byte strings, from pieces to lists of them, and
from the parts of an artifact to the whole (`decode_toBytes`).
-/

namespace TableCompiler

open TableCompiler.Text TableCompiler.Container

variable {α : Type} {read : Reader α} {write : α → List UInt8}

namespace Container

/-- A reader takes what the writer wrote off the front of the bytes, and leaves what is behind. -/
def Undoes (read : Reader α) (write : α → List UInt8) : Prop :=
  ∀ a rest, read (write a ++ rest) = some (a, rest)

/-! ## Numbers -/

/-- The groups of a number are read when the fuel sufficed to write them all. -/
theorem readNat_writeGroups {fuel n : Nat} (h : n ≤ fuel) (rest : List UInt8) :
    readNat (writeGroups fuel n ++ rest) = some (n, rest) := by
  induction fuel generalizing n with
  | zero =>
      obtain rfl := Nat.le_zero.mp h
      rfl
  | succ fuel ih =>
      rw [writeGroups]
      by_cases hlast : n < 128
      · have hbyte : (UInt8.ofNat n).toNat = n := Utf8.toNat_ofNat (by omega)
        simp only [if_pos hlast, List.cons_append, List.nil_append, readNat,
          UInt8.lt_iff_toNat_lt, hbyte, UInt8.reduceToNat]
      · have hbyte : (UInt8.ofNat (128 + n % 128)).toNat = 128 + n % 128 :=
          Utf8.toNat_ofNat (by omega)
        have hmarked : ¬128 + n % 128 < 128 := by omega
        -- the groups behind the first one are those of a smaller number
        have hrest := ih (by omega : n / 128 ≤ fuel)
        simp only [if_neg hlast, List.cons_append, readNat, UInt8.lt_iff_toNat_lt, hbyte,
          UInt8.reduceToNat, if_neg hmarked, hrest, Nat.add_sub_cancel_left, Nat.mod_add_div]

/-- Numbers are read back from seven bits a byte. -/
theorem undoes_nat : Undoes readNat writeNat :=
  fun n rest => readNat_writeGroups (Nat.le_refl n) rest

/-- Words are read back from their four bytes. -/
theorem undoes_word : Undoes readWord writeWord := by
  intro n rest
  have hsize : n.toNat < 2 ^ 32 := n.toNat_lt
  have hbytes : writeWord n = [UInt8.ofNat (n.toNat % 256), UInt8.ofNat (n.toNat / 256 % 256),
      UInt8.ofNat (n.toNat / 65536 % 256), UInt8.ofNat (n.toNat / 16777216 % 256)] := by
    simp [writeWord, Hash.littleBytes, List.range_succ]
  have hsum : n.toNat % 256 + 256 * (n.toNat / 256 % 256 + 256 * (n.toNat / 65536 % 256
      + 256 * (n.toNat / 16777216 % 256))) = n.toNat := by omega
  have hbyte : ∀ k, (UInt8.ofNat (k % 256)).toNat = k % 256 := fun k => Utf8.toNat_ofNat (by omega)
  simp only [hbytes, List.cons_append, List.nil_append, readWord, hbyte, hsum, UInt32.ofNat_toNat]

/-! ## Byte strings, lists and texts -/

/-- Strings of bytes are read back with their length in front. -/
theorem undoes_bytes : Undoes readBytes writeBytes := by
  intro bytes rest
  have hlength : ¬(bytes ++ rest).length < bytes.length := by
    rw [List.length_append]
    omega
  rw [readBytes, writeBytes, List.append_assoc, undoes_nat]
  simp only [if_neg hlength, List.take_left, List.drop_left]

/-- Pieces written one behind the other are read back in that order. -/
theorem readCount_flatMap (undoes : Undoes read write) (items : List α) (rest : List UInt8) :
    readCount read items.length (items.flatMap write ++ rest) = some (items, rest) := by
  induction items with
  | nil => rfl
  | cons a items ih =>
      simp only [List.length_cons, List.flatMap_cons, List.append_assoc, readCount, undoes a, ih]

/-- Lists are read back where their pieces are. -/
theorem Undoes.list (undoes : Undoes read write) : Undoes (readList read) (writeList write) := by
  intro items rest
  simp only [readList, writeList, List.append_assoc, undoes_nat items.length,
    readCount_flatMap undoes]

/-- Texts are read back from their bytes. -/
theorem undoes_text : Undoes Container.readText writeText := by
  intro s rest
  simp only [Container.readText, writeText, undoes_bytes (Utf8.encode s), Utf8.decode_encode]

end Container

namespace Artifact

/-! ## Artifacts -/

theorem undoes_header : Undoes readHeader writeHeader := by
  intro h rest
  have hsize : h.rowCount.toNat < UInt64.size := h.rowCount.toNat_lt
  simp only [readHeader, writeHeader, List.append_assoc, undoes_word h.magic,
    undoes_word h.version, undoes_nat h.rowCount.toNat, undoes_word h.columnCount,
    Option.bind_eq_bind, Option.bind_some, if_pos hsize, UInt64.ofNat_toNat]

/-- Binary tables are read back with their names, types and records. -/
theorem undoes_table : Undoes readTable writeTable := by
  intro b rest
  simp only [readTable, writeTable, List.append_assoc, undoes_bytes.list b.names,
    undoes_bytes.list b.types, undoes_bytes.list.list b.records, Option.bind_eq_bind,
    Option.bind_some]

/-- An artifact is read back part by part, and what is behind it is left. -/
theorem readArtifact_append (a : Artifact) (rest : List UInt8) :
    readArtifact (writeHeader a.header ++ (writeText a.name ++ (writeTable a.binary ++ rest)))
      = some (a, rest) := by
  simp only [readArtifact, undoes_header a.header, undoes_text a.name, undoes_table a.binary,
    Option.bind_eq_bind, Option.bind_some]

/-- **EVERY ARTIFACT IS DECODED** from its bytes. -/
theorem decode_toBytes (a : Artifact) : decode a.toBytes = some a := by
  -- behind the artifact nothing is left
  have hread := readArtifact_append a []
  rw [List.append_nil] at hread
  simp only [decode, toBytes, List.append_assoc, List.take_left, if_true, List.drop_left, hread]

/-- What is written of a table has a header that this version can use. -/
theorem ofBytes_ofTable (name : String) (b : BinaryTable) :
    ofBytes (ofTable name b).toBytes = .ok (ofTable name b) := by
  have hvalid : (ofTable name b).header.validate = .ok () := rfl
  rw [ofBytes, decode_toBytes]
  simp only [hvalid]

end Artifact

end TableCompiler
