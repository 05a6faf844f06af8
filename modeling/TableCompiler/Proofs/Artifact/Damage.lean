import TableCompiler.Proofs.Artifact.RoundTrip

/-!
# Damage — artifacts that are cut, extended or of another version

What a reader takes off the front of the bytes does not depend on the bytes behind it (`Stable`).  This
passes from numbers to artifacts as the round trip does, and it makes artifacts prefix-free: bytes that
are an artifact stop being one when anything is put behind them (`eq_nil_of_decode_append`).  So what is
cut anywhere is no artifact either, since the rest put behind it would give one.  Of what is whole, the
header alone decides (`read_of_written`).
-/

namespace TableCompiler

open TableCompiler.Text TableCompiler.Container

variable {α β : Type} {read : Reader α} {bytes more : List UInt8}

namespace Container

/-- A reader that takes the same piece whatever stands behind it. -/
def Stable (read : Reader α) : Prop :=
  ∀ bytes a rest more, read bytes = some (a, rest) → read (bytes ++ more) = some (a, rest ++ more)

/-- A reader that takes nothing. -/
theorem stable_pure (a : α) : Stable fun bytes => some (a, bytes) := by
  intro bytes b rest more h
  obtain ⟨rfl, rfl⟩ := Prod.mk.inj (Option.some.inj h)
  rfl

/-- A reader that refuses everything takes nothing either. -/
theorem stable_none : Stable fun _ => (none : Option (α × List UInt8)) :=
  fun _ _ _ _ h => nomatch h

/-- One reader behind another. -/
theorem Stable.bind {next : α × List UInt8 → Option (β × List UInt8)} (first : Stable read)
    (second : ∀ a, Stable fun between => next (a, between)) :
    Stable fun bytes => read bytes >>= next := by
  intro bytes b rest more h
  obtain ⟨⟨a, between⟩, hread, hnext⟩ := Option.bind_eq_some_iff.mp h
  show (read (bytes ++ more) >>= next) = some (b, rest ++ more)
  rw [first bytes a between more hread]
  exact second a between b rest more hnext

/-! ## Pieces -/

/-- The last byte of a number shows that it ends. -/
theorem stable_nat : Stable readNat := by
  intro bytes
  induction bytes with
  | nil => exact fun _ _ _ h => nomatch h
  | cons b bytes ih =>
      intro n rest more h
      rw [readNat] at h
      rw [List.cons_append, readNat]
      -- a byte without its high bit ends the number, and bytes appended behind are not looked at
      by_cases hlast : b < 128
      · rw [if_pos hlast] at h ⊢
        obtain ⟨rfl, rfl⟩ := Prod.mk.inj (Option.some.inj h)
        rfl
      · rw [if_neg hlast] at h ⊢
        cases hrest : readNat bytes with
        | none =>
            rw [hrest] at h
            cases h
        | some p =>
            obtain ⟨k, left⟩ := p
            rw [hrest] at h
            obtain ⟨rfl, rfl⟩ := Prod.mk.inj (Option.some.inj h)
            rw [ih k left more hrest]

theorem stable_word : Stable readWord := by
  intro bytes n rest more h
  unfold readWord at h
  split at h
  case h_1 a b c d left =>
    obtain ⟨rfl, rfl⟩ := Prod.mk.inj (Option.some.inj h)
    rfl
  case h_2 => cases h

/-- A piece of known length ends within the bytes that are there. -/
theorem stable_take (n : Nat) :
    Stable fun bytes => if bytes.length < n then none else some (bytes.take n, bytes.drop n) := by
  intro bytes piece rest more h
  by_cases short : bytes.length < n
  · simp only [if_pos short] at h
    cases h
  · simp only [if_neg short] at h
    obtain ⟨rfl, rfl⟩ := Prod.mk.inj (Option.some.inj h)
    have within : n ≤ bytes.length := Nat.le_of_not_lt short
    have still : ¬(bytes ++ more).length < n := by
      rw [List.length_append]
      omega
    simp only [if_neg still, List.take_append_of_le_length within,
      List.drop_append_of_le_length within]

/-- A string of bytes tells its length first. -/
theorem stable_bytes : Stable readBytes := by
  have parts : readBytes = fun bytes => readNat bytes >>= fun p =>
      if p.2.length < p.1 then none else some (p.2.take p.1, p.2.drop p.1) := by
    funext bytes
    rw [readBytes]
    cases readNat bytes <;> rfl
  rw [parts]
  exact stable_nat.bind stable_take

/-- As many pieces as announced are taken, one behind the other. -/
theorem Stable.count (stable : Stable read) (count : Nat) : Stable (readCount read count) := by
  induction count with
  | zero => exact stable_pure []
  | succ count ih =>
      have parts : readCount read (count + 1) = fun bytes => read bytes >>= fun p =>
          readCount read count p.2 >>= fun q => some (p.1 :: q.1, q.2) := by
        funext bytes
        rw [readCount]
        cases read bytes with
        | none => rfl
        | some p => cases hrest : readCount read count p.2 <;> simp [hrest]
      rw [parts]
      refine stable.bind fun a => ?_
      show Stable fun between => readCount read count between >>= fun q => some (a :: q.1, q.2)
      exact ih.bind fun others => stable_pure (a :: others)

/-- A list tells how many pieces it has. -/
theorem Stable.list (stable : Stable read) : Stable (readList read) := by
  have parts : readList read = fun bytes => readNat bytes >>= fun p => readCount read p.1 p.2 := by
    funext bytes
    rw [readList]
    cases readNat bytes <;> rfl
  rw [parts]
  exact stable_nat.bind stable.count

/-- Whether bytes are a text is decided by them alone, within their length. -/
theorem stable_text : Stable Container.readText := by
  have parts : Container.readText = fun bytes => readBytes bytes >>= fun p =>
      (Utf8.decode p.1).map fun s => (s, p.2) := by
    funext bytes
    rw [Container.readText]
    cases readBytes bytes with
    | none => rfl
    | some p => cases hdecode : Utf8.decode p.1 <;> simp [hdecode]
  rw [parts]
  refine stable_bytes.bind fun encoded => ?_
  show Stable fun between => (Utf8.decode encoded).map fun s => (s, between)
  cases Utf8.decode encoded with
  | none => exact stable_none
  | some s => exact stable_pure s

end Container

namespace Artifact

variable {a a' : Artifact}

/-! ## Artifacts -/

/-- Headers are numbers and words of known sizes. -/
theorem stable_header : Stable readHeader := by
  refine stable_word.bind fun magic => stable_word.bind fun version =>
    stable_nat.bind fun rowCount => stable_word.bind fun columnCount => ?_
  show Stable fun bytes => if rowCount < UInt64.size then
    some ((⟨magic, version, UInt64.ofNat rowCount, columnCount⟩ : ArtifactHeader), bytes) else none
  by_cases hsize : rowCount < UInt64.size
  · simp only [if_pos hsize]
    exact stable_pure _
  · simp only [if_neg hsize]
    exact stable_none

theorem stable_table : Stable readTable :=
  stable_bytes.list.bind fun names => stable_bytes.list.bind fun types =>
    stable_bytes.list.list.bind fun records => stable_pure (BinaryTable.mk names types records)

/-- Artifacts are a header, a name and a table, each of which ends by itself. -/
theorem stable_artifact : Stable readArtifact :=
  stable_header.bind fun header => stable_text.bind fun name =>
    stable_table.bind fun binary => stable_pure (Artifact.mk header name binary)

/-- The bytes of an artifact are the signature and what is read as the artifact, to the end. -/
theorem decode_eq_some_iff :
    decode bytes = some a ↔ ∃ body, bytes = signature ++ body ∧ readArtifact body = some (a, []) := by
  rw [decode]
  constructor
  · intro h
    split at h
    case isFalse => cases h
    case isTrue hsignature =>
      refine ⟨bytes.drop signature.length, ?_, ?_⟩
      · conv_lhs => rw [← List.take_append_drop signature.length bytes, hsignature]
      · split at h
        case h_1 a' hread =>
          rw [hread, Option.some.inj h]
        case h_2 => cases h
  · rintro ⟨body, rfl, hread⟩
    rw [if_pos List.take_left, List.drop_left, hread]

/-- **ARTIFACTS ARE PREFIX-FREE**: nothing stands behind an artifact in another one. -/
theorem eq_nil_of_decode_append (h : decode bytes = some a)
    (h' : decode (bytes ++ more) = some a') : more = [] := by
  obtain ⟨body, rfl, hread⟩ := decode_eq_some_iff.mp h
  obtain ⟨body', hbytes, hread'⟩ := decode_eq_some_iff.mp h'
  rw [List.append_assoc] at hbytes
  obtain rfl := List.append_cancel_left hbytes
  have hlonger := stable_artifact body a [] more hread
  rw [hread'] at hlonger
  exact (Prod.mk.inj (Option.some.inj hlonger)).2.symm

/-- Bytes that are no container are refused before any header is looked at. -/
theorem ofBytes_of_decode_eq_none (h : decode bytes = none) : ofBytes bytes = .error .decode := by
  rw [ofBytes, h]

/-- **EXTENDED** bytes are no artifact. -/
theorem ofBytes_append (a : Artifact) (ne : more ≠ []) :
    ofBytes (a.toBytes ++ more) = .error .decode := by
  refine ofBytes_of_decode_eq_none ?_
  cases hdecode : decode (a.toBytes ++ more) with
  | none => rfl
  | some a' => exact absurd (eq_nil_of_decode_append (decode_toBytes a) hdecode) ne

/-- **CUT** bytes are no artifact. -/
theorem ofBytes_of_append_eq (a : Artifact) (cut : bytes ++ more = a.toBytes) (ne : more ≠ []) :
    ofBytes bytes = .error .decode := by
  refine ofBytes_of_decode_eq_none ?_
  cases hdecode : decode bytes with
  | none => rfl
  | some a' =>
      have hwhole : decode (bytes ++ more) = some a := cut ▸ decode_toBytes a
      exact absurd (eq_nil_of_decode_append hdecode hwhole) ne

/-- **WHOLE** bytes are the artifact, or its header is refused. -/
theorem ofBytes_toBytes (a : Artifact) :
    ofBytes a.toBytes =
      match a.header.validate with
      | .ok () => .ok a
      | .error e => .error e := by
  rw [ofBytes, decode_toBytes]
  simp only
  cases a.header.validate <;> rfl

/-- No artifact is written as nothing: its header is there in any case. -/
theorem toBytes_ne_nil (a : Artifact) : a.toBytes ≠ [] := by
  simp [toBytes, signature]

/-- **WHAT IS READ OF WHAT WAS WRITTEN**: whatever its header, its name and its table, an artifact is
read back exactly if the header has the magic number and the version of this format; otherwise the
magic number is refused first, and then a newer or an older version.  Bytes that end early, wherever
they are cut, and bytes that go on are no artifact.  The header that is written for a table counts its
rows and columns, as long as its fields of 64 and 32 bits can hold the counts. -/
theorem read_of_written (a : Artifact) :
    (a.header.magic = artifactMagic → a.header.version = formatVersion →
      ofBytes a.toBytes = .ok a) ∧
    (a.header.magic ≠ artifactMagic →
      ofBytes a.toBytes = .error (.invalidMagic a.header.magic)) ∧
    (a.header.magic = artifactMagic → formatVersion < a.header.version →
      ofBytes a.toBytes = .error (.futureVersion a.header.version)) ∧
    (a.header.magic = artifactMagic → a.header.version < formatVersion →
      ofBytes a.toBytes = .error (.unsupportedVersion a.header.version)) ∧
    (∀ length < a.toBytes.length, ofBytes (a.toBytes.take length) = .error .decode) ∧
    ofBytes a.toBytes.dropLast = .error .decode ∧
    ofBytes [] = .error .decode ∧
    (∀ more ≠ [], ofBytes (a.toBytes ++ more) = .error .decode) ∧
    (∀ name b, b.rowCount < UInt64.size → b.columnCount < UInt32.size →
      ∃ written, ofBytes (ofTable name b).toBytes = .ok written ∧
        written.header.rowCount.toNat = b.rowCount ∧
        written.header.columnCount.toNat = b.columnCount) := by
  -- a prefix that decoded would leave in the whole, unread, what had been cut off
  have hcut : ∀ length < a.toBytes.length,
      ofBytes (a.toBytes.take length) = .error .decode := by
    intro length hlength
    refine ofBytes_of_append_eq a (List.take_append_drop length a.toBytes) fun hnil => ?_
    exact absurd (List.drop_eq_nil_iff.mp hnil) (Nat.not_le_of_lt hlength)
  have hpos : 0 < a.toBytes.length := List.length_pos_iff.mpr (toBytes_ne_nil a)
  rw [ofBytes_toBytes]
  refine ⟨?_, ?_, ?_, ?_, hcut, ?_, ?_, fun more ne => ofBytes_append a ne, ?_⟩
  · intro hmagic hversion
    simp [ArtifactHeader.validate, hmagic, hversion]
  · intro hmagic
    simp [ArtifactHeader.validate, hmagic]
  · intro hmagic hnewer
    simp [ArtifactHeader.validate, hmagic, hnewer]
  · intro hmagic holder
    have hnot : ¬formatVersion < a.header.version := UInt32.lt_asymm holder
    simp [ArtifactHeader.validate, hmagic, hnot, holder]
  · rw [List.dropLast_eq_take]
    exact hcut _ (by omega)
  · exact hcut 0 hpos
  · intro name b hrows hcolumns
    exact ⟨_, ofBytes_ofTable name b, UInt64.toNat_ofNat_of_lt' hrows,
      UInt32.toNat_ofNat_of_lt' hcolumns⟩

/-- A table without shape: one name, two types, an empty record and one with an empty cell. -/
def raggedTable : BinaryTable :=
  ⟨[[0x69, 0x64]], [[], [0xFF]], [[], [[0x01, 0x80], []]]⟩

/-- That table under a header of some version, which counts wrong. -/
def versionedArtifact (version : UInt32) : Artifact :=
  ⟨⟨artifactMagic, version, 7, 0⟩, "später", raggedTable⟩

/-- The same table under a foreign header. -/
def foreignArtifact : Artifact :=
  ⟨⟨0xDEADBEEF, 0, 0, 0⟩, "", raggedTable⟩

/-- Four headers, of which one is read, and two kinds of damage to one of the others. -/
theorem read_of_written_ragged :
    ofBytes (versionedArtifact 1).toBytes = .ok (versionedArtifact 1) ∧
      ofBytes (versionedArtifact 2).toBytes = .error (.futureVersion 2) ∧
      ofBytes (versionedArtifact 0).toBytes = .error (.unsupportedVersion 0) ∧
      ofBytes foreignArtifact.toBytes = .error (.invalidMagic 0xDEADBEEF) ∧
      9 < foreignArtifact.toBytes.length ∧
      ofBytes (foreignArtifact.toBytes.take 9) = .error .decode ∧
      ofBytes (foreignArtifact.toBytes ++ [0]) = .error .decode ∧
      ∃ written, ofBytes (ofTable "" raggedTable).toBytes = .ok written ∧
        written.header.rowCount.toNat = 2 ∧ written.header.columnCount.toNat = 1 := by
  obtain ⟨-, hforeign, -, -, hcut, -, -, hmore, hcounts⟩ := read_of_written foreignArtifact
  have hlong : 9 < foreignArtifact.toBytes.length := by decide
  exact ⟨(read_of_written (versionedArtifact 1)).1 rfl rfl,
    (read_of_written (versionedArtifact 2)).2.2.1 rfl (by decide),
    (read_of_written (versionedArtifact 0)).2.2.2.1 rfl (by decide),
    hforeign (by decide), hlong, hcut 9 hlong, hmore [0] (by decide),
    hcounts "" raggedTable (by decide) (by decide)⟩

end Artifact

end TableCompiler
