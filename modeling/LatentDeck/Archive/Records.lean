import LatentDeck.Archive.Reader
import Mathlib.Tactic.Simproc.ExistsAndEq

/-!
# Records read as they are written

Each record reader accepts exactly the bytes its record writer produces. The equivalences pin
every constant, width and order of the local header, the central header and the three end records
at once, in both directions.
-/

namespace LatentDeck.Archive

open ByteFormat LittleEndian Streaming Checked

theorem readU32_reads : Reads readU32 fun value bytes => value < 2 ^ 32 ∧ bytes = leBytes 4 value :=
  .readWord 4 _

/-- A lifted check reads nothing and returns its result. -/
theorem lift_reads {α : Type} (result : Except CartridgeError α) :
    Reads (lift result) fun value bytes => result = .ok value ∧ bytes = [] := by
  intro medium position value next
  unfold lift
  cases result with
  | error error => simp
  | ok found =>
    simp only [Except.ok.injEq, Prod.mk.injEq]
    constructor
    · rintro ⟨rfl, rfl⟩
      exact ⟨[], ⟨rfl, rfl⟩, at_nil _ _, rfl⟩
    · rintro ⟨bytes, ⟨rfl, rfl⟩, -, rfl⟩
      exact ⟨rfl, rfl⟩

theorem expectU32_reads (expected : Nat) (code : ErrorCode) (label : String)
    (fits : expected < 2 ^ 32) :
    Reads (expectU32 expected code label) fun _ bytes => bytes = leBytes 4 expected := by
  apply (Reads.bind readU32_reads fun actual => Reads.demand (actual = expected) _).congr
  intro value bytes
  constructor
  · rintro ⟨actual, front, back, ⟨-, rfl⟩, ⟨rfl, rfl⟩, rfl⟩
    exact List.append_nil _
  · rintro rfl
    exact ⟨expected, _, [], ⟨fits, rfl⟩, ⟨rfl, rfl⟩, (List.append_nil _).symm⟩

/-- A name of a given length is its own encoding. -/
theorem readName_reads (length : Nat) :
    Reads (readName length) fun name bytes => bytes = nameBytes name ∧ bytes.length = length := by
  refine (Reads.bind (Reads.readExact length _) fun bytes =>
    (?_ : Reads _ fun name rest => fromUtf8 bytes = some name ∧ rest = [])).congr
      fun name bytes => ?_
  · split
    · rename_i found same
      apply (Reads.pure found).congr
      intro name rest
      rw [same, Option.some.injEq, eq_comm]
    · rename_i absent
      intro medium position value next
      simp [refuse, absent]
  constructor
  · rintro ⟨encoded, front, back, ⟨rfl, exact⟩, ⟨found, rfl⟩, rfl⟩
    rw [fromUtf8_eq_some] at found
    rw [List.append_nil]
    exact ⟨found, exact⟩
  · rintro ⟨rfl, exact⟩
    exact ⟨_, _, [], ⟨rfl, exact⟩, ⟨fromUtf8_nameBytes name, rfl⟩, (List.append_nil _).symm⟩

/-- The common header check accepts exactly the canonical constants. -/
theorem validateCommonHeader_reads (needed flags method modifiedTime modifiedDate : Nat) :
    Reads (validateCommonHeader needed flags method modifiedTime modifiedDate) fun _ bytes =>
      (needed = zip64Version ∧ flags = 0 ∧ method = 0 ∧ modifiedTime = dosTime ∧
        modifiedDate = dosDate) ∧ bytes = [] := by
  apply (Reads.bind (Reads.demand _ _) fun _ => Reads.bind (Reads.demand _ _) fun _ =>
    Reads.bind (Reads.demand _ _) fun _ => Reads.demand _ _).congr
  intro value bytes
  constructor
  · rintro ⟨-, -, -, ⟨-, rfl⟩, ⟨-, -, -, ⟨rfl, rfl⟩, ⟨-, -, -, ⟨rfl, rfl⟩,
      ⟨⟨rfl, rfl, rfl⟩, rfl⟩, rfl⟩, rfl⟩, rfl⟩
    exact ⟨⟨rfl, rfl, rfl, rfl, rfl⟩, rfl⟩
  · rintro ⟨⟨rfl, rfl, rfl, rfl, rfl⟩, rfl⟩
    simp

theorem readEndRecord_reads : Reads readEndRecord fun _ bytes => bytes = endRecord := by
  apply (Reads.fixed (expectU32_reads _ _ _ (by decide)) <|
    Reads.word 2 _ fun disk => Reads.word 2 _ fun centralDisk =>
    Reads.word 2 _ fun onDisk => Reads.word 2 _ fun total =>
    Reads.word 4 _ fun size => Reads.word 4 _ fun offset =>
    Reads.word 2 _ fun comment => Reads.demand _ _).congr
  intro value bytes
  have sentinels : u16Max < 65536 ∧ u32Max < 4294967296 := by decide
  simp [sentinels, endRecord]

theorem readLocator_reads :
    Reads readLocator fun offset bytes => offset < 2 ^ 64 ∧ bytes = zip64Locator offset := by
  apply (Reads.fixed (expectU32_reads _ _ _ (by decide)) <|
    Reads.word 4 _ fun endDisk => Reads.word 8 _ fun zip64EndOffset =>
    Reads.word 4 _ fun diskCount => Reads.guard _ _ <| Reads.pure zip64EndOffset).congr
  intro value bytes
  simp [zip64Locator]

/-- The ZIP64 end record is read exactly as it is written. -/
theorem readZip64End_reads :
    Reads readZip64End fun terminator bytes =>
      (terminator.entryCount < 2 ^ 64 ∧ terminator.centralSize < 2 ^ 64 ∧
        terminator.centralOffset < 2 ^ 64) ∧
      bytes = zip64EndRecord terminator.entryCount terminator.centralSize
        terminator.centralOffset := by
  apply (Reads.fixed (expectU32_reads _ _ _ (by decide)) <|
    .word 8 _ fun recordSize => .word 2 _ fun madeBy => .word 2 _ fun needed =>
    Reads.word 4 _ fun disk => Reads.word 4 _ fun centralDisk =>
    Reads.word 8 _ fun entriesOnDisk => Reads.word 8 _ fun entryCount =>
    Reads.word 8 _ fun centralSize => Reads.word 8 _ fun centralOffset =>
    Reads.guard _ _ <| Reads.pure (Terminator.mk entryCount centralSize centralOffset)).congr
  rintro ⟨entryCount, centralSize, centralOffset⟩ bytes
  have constants : versionMadeBy < 65536 ∧ zip64Version < 65536 := by decide
  simp [zip64EndRecord, constants, and_assoc]

/-- A record is written exactly for the names whose length fits its field. -/
theorem nameLength_bind (name : String) (record : Nat → List UInt8) (bytes : List UInt8) :
    (nameLength name >>= fun length => pure (record length)) = .ok bytes ↔
      (nameBytes name).length < 2 ^ 16 ∧ bytes = record (nameBytes name).length := by
  unfold nameLength
  split
  · rename_i fits
    constructor
    · exact fun written => ⟨fits, (Except.ok.inj written).symm⟩
    · rintro ⟨-, rfl⟩
      rfl
  · rename_i long
    constructor
    · exact nofun
    · exact fun same => absurd same.1 long

theorem writeLocalHeader_eq_ok (name : String) (size crc32 : Nat) (bytes : List UInt8) :
    writeLocalHeader name size crc32 = .ok bytes ↔ (nameBytes name).length < 2 ^ 16 ∧
      bytes = localHeaderRecord name (nameBytes name).length size crc32 :=
  nameLength_bind name (fun length => localHeaderRecord name length size crc32) bytes

theorem writeCentralHeader_eq_ok (entry : CentralEntry) (bytes : List UInt8) :
    writeCentralHeader entry = .ok bytes ↔ (nameBytes entry.name).length < 2 ^ 16 ∧
      bytes = centralHeaderRecord entry (nameBytes entry.name).length :=
  nameLength_bind entry.name (centralHeaderRecord entry) bytes

/-- A central header is read exactly as it is written. -/
theorem readCentralEntry_reads :
    Reads readCentralEntry fun entry bytes =>
      (entry.size < 2 ^ 64 ∧ entry.crc32 < 2 ^ 32 ∧ entry.localOffset < 2 ^ 64) ∧
      writeCentralHeader entry = .ok bytes := by
  apply (Reads.fixed (expectU32_reads _ _ _ (by decide)) <|
    .word 2 _ fun madeBy => .word 2 _ fun needed => .word 2 _ fun flags =>
    .word 2 _ fun method => .word 2 _ fun modifiedTime =>
    .word 2 _ fun modifiedDate => .word 4 _ fun crc32 =>
    .word 4 _ fun compressedSize => .word 4 _ fun uncompressedSize =>
    .word 2 _ fun nameLength => .word 2 _ fun extraLength =>
    .word 2 _ fun commentLength => .word 2 _ fun diskStart =>
    .word 2 _ fun internalAttributes => .word 4 _ fun externalAttributes =>
    .word 4 _ fun localOffsetSentinel => .guard _ _ <|
    .bind (validateCommonHeader_reads needed flags method modifiedTime modifiedDate) fun _ =>
    .guard _ _ <| .bind (readName_reads nameLength) fun name =>
    Reads.word 2 _ fun extraId => Reads.word 2 _ fun extraPayloadLength =>
    Reads.word 8 _ fun size => Reads.word 8 _ fun compressedSize64 =>
    Reads.word 8 _ fun localOffset => Reads.guard _ _ <|
    Reads.pure (CentralEntry.mk name size crc32 localOffset)).congr
  rintro ⟨name, size, crc32, localOffset⟩ bytes
  have constants : versionMadeBy < 65536 ∧ zip64Version < 65536 ∧ dosTime < 65536 ∧
      dosDate < 65536 ∧ u32Max < 4294967296 ∧ centralZip64ExtraBytes < 65536 ∧
      zip64ExtraId < 65536 := by decide
  rw [writeCentralHeader_eq_ok]
  simp [centralHeaderRecord, constants, and_assoc]
  constructor
  · rintro ⟨checksum, length, content, start, rfl⟩
    exact ⟨content, checksum, start, length, rfl⟩
  · rintro ⟨content, checksum, start, length, rfl⟩
    exact ⟨checksum, length, content, start, rfl⟩

/-- A local header is read exactly as it is written for the entry of its central record. -/
theorem readLocalHeader_reads (central : CentralEntry) :
    Reads (readLocalHeader central) fun _ bytes =>
      (central.size < 2 ^ 64 ∧ central.crc32 < 2 ^ 32) ∧
      writeLocalHeader central.name central.size central.crc32 = .ok bytes := by
  apply (Reads.fixed (expectU32_reads _ _ _ (by decide)) <|
    .word 2 _ fun needed => .word 2 _ fun flags =>
    .word 2 _ fun method => .word 2 _ fun modifiedTime =>
    .word 2 _ fun modifiedDate => .word 4 _ fun crc32 =>
    .word 4 _ fun compressedSize => .word 4 _ fun uncompressedSize =>
    .word 2 _ fun nameLength => .word 2 _ fun extraLength =>
    .bind (validateCommonHeader_reads needed flags method modifiedTime modifiedDate) fun _ =>
    Reads.guard _ _ <| Reads.bind (readName_reads nameLength) fun name =>
    Reads.word 2 _ fun extraId => Reads.word 2 _ fun extraPayloadLength =>
    Reads.word 8 _ fun size => Reads.word 8 _ fun compressedSize64 =>
    Reads.guard _ _ <| Reads.demand _ _).congr
  intro value bytes
  have constants : zip64Version < 65536 ∧ dosTime < 65536 ∧
      dosDate < 65536 ∧ u32Max < 4294967296 ∧ localZip64ExtraBytes < 65536 ∧
      zip64ExtraId < 65536 := by decide
  rw [writeLocalHeader_eq_ok]
  simp [localHeaderRecord, constants, and_assoc]
  constructor
  · rintro ⟨checksum, length, content, rfl⟩
    exact ⟨content, checksum, length, rfl⟩
  · rintro ⟨content, checksum, length, rfl⟩
    exact ⟨checksum, length, content, rfl⟩

end LatentDeck.Archive
