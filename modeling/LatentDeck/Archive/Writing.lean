import LatentDeck.Archive.Layout

/-!
# What the writer writes

`write_canonical` succeeds exactly for valid requests whose declared sizes and checksums are those
of their sources, and then writes the canonical bytes of the stored archive. The chunks in which a
source hands out its bytes have no influence.
-/

namespace LatentDeck.Archive

open LittleEndian Streaming Checked Fallible

/-- A request whose declared size and checksum are those of its source. -/
structure EntryWrite.Honest (hasher : StreamingHash) (entry : EntryWrite) : Prop where
  size : entry.size.toNat = entry.reader.bytes.length
  checksum : hasher.hash entry.reader.bytes = entry.crc32

def EntryWrite.stored (entry : EntryWrite) : StoredEntry where
  name := entry.name
  crc32 := entry.crc32
  content := entry.reader.bytes

/-- The writer's checks are the four conditions of an archive, on the declared sizes. -/
theorem validateWriteEntries_eq_ok (entries : List EntryWrite) :
    validateWriteEntries entries = .ok () ↔
      (∀ entry ∈ entries, validateSafeName entry.name = .ok ()) ∧
      validateDistinct (entries.map EntryWrite.name) [] = .ok () ∧
      validateEntryOrder (entries.map EntryWrite.name) = .ok () ∧
      ∀ entry ∈ entries, validateEntrySize entry.name entry.size.toNat = .ok () := by
  unfold validateWriteEntries
  rw [guarded_eq_ok, check_eq_ok, check_eq_ok, check_eq_ok, checkEach_eq_ok, checkEach_eq_ok]
  constructor
  · exact fun checks => checks.2
  · intro checks
    have counted := validateEntryOrder_short _ checks.2.2.1
    rw [List.length_map] at counted
    exact ⟨not_not_intro ⟨counted.2.1, counted.1⟩, checks⟩

theorem copyBufferBytes_pos : 0 < copyBufferBytes := by decide

variable (hasher : StreamingHash) (entry : EntryWrite)

/-- A source is copied exactly when its request is honest. -/
theorem copyEntry_eq_ok (bytes : List UInt8) :
    copyEntry hasher entry = .ok bytes ↔ entry.Honest hasher ∧ bytes = entry.reader.bytes := by
  unfold copyEntry
  rw [streamExactly_eq _ _ _ _ _ copyBufferBytes_pos, List.drop_zero]
  by_cases long : entry.size.toNat ≤ entry.reader.bytes.length
  · have probe : (entry.reader.read entry.size.toNat 1).length ≠ 0 ↔
        entry.size.toNat < entry.reader.bytes.length := by
      rw [ByteStream.read, List.length_take, List.length_drop]
      omega
    rw [if_pos long]
    dsimp only
    rw [guarded_eq_ok, guarded_eq_ok, probe, Except.ok.injEq]
    constructor
    · rintro ⟨within, checksum, rfl⟩
      have size : entry.size.toNat = entry.reader.bytes.length := by omega
      rw [List.take_of_length_le size.ge] at checksum ⊢
      exact ⟨⟨size, not_not.mp checksum⟩, rfl⟩
    · rintro ⟨honest, rfl⟩
      have whole := List.take_of_length_le honest.size.ge
      rw [whole]
      exact ⟨honest.size.ge.not_gt, not_not_intro honest.checksum, rfl⟩
  · rw [if_neg long]
    constructor
    · rintro ⟨⟩
    · exact fun both => absurd both.1.size.le long

theorem honest_header (honest : entry.Honest hasher) :
    localHeaderRecord entry.name (nameBytes entry.name).length entry.size.toNat
      entry.crc32.toNat = entry.stored.header := by
  rw [honest.size]
  rfl

theorem honest_central (honest : entry.Honest hasher) (offset : Nat) :
    CentralEntry.mk entry.name entry.size.toNat entry.crc32.toNat offset =
      entry.stored.central offset := by
  rw [honest.size]
  rfl

/-- The entry loop appends the local region and records where each entry starts. -/
theorem writeEntries_eq_ok (entries : List EntryWrite) (output : List UInt8)
    (written : List CentralEntry) (result : List UInt8 × List CentralEntry) :
    writeEntries hasher entries output written = .ok result ↔
      (∀ entry ∈ entries, (nameBytes entry.name).length < 2 ^ 16 ∧ entry.Honest hasher) ∧
      result = (output ++ localRegion (entries.map EntryWrite.stored),
        written ++ centralEntries (entries.map EntryWrite.stored) output.length) := by
  induction entries generalizing output written with
  | nil =>
    simp [writeEntries, localRegion, centralEntries, eq_comm]
  | cons entry entries ih =>
    have appended : (output ++ (entry.stored.header ++ entry.reader.bytes)) ++
        localRegion (entries.map EntryWrite.stored) =
        output ++ localRegion ((entry :: entries).map EntryWrite.stored) := by
      rw [List.map_cons, localRegion, List.append_assoc, List.append_assoc]
      rfl
    have recorded : (written ++ [entry.stored.central output.length]) ++
        centralEntries (entries.map EntryWrite.stored)
          (output ++ (entry.stored.header ++ entry.reader.bytes)).length =
        written ++ centralEntries ((entry :: entries).map EntryWrite.stored) output.length := by
      rw [List.map_cons, centralEntries, List.append_assoc, List.length_append,
        List.length_append, ← Nat.add_assoc]
      rfl
    rw [List.forall_mem_cons]
    simp only [writeEntries, bind_eq_ok, writeLocalHeader_eq_ok, copyEntry_eq_ok, ih]
    constructor
    · rintro ⟨_, ⟨short, rfl⟩, _, ⟨honest, rfl⟩, rest, rfl⟩
      rw [honest_header _ _ honest, honest_central _ _ honest, appended, recorded]
      exact ⟨⟨⟨short, honest⟩, rest⟩, rfl⟩
    · rintro ⟨⟨⟨short, honest⟩, rest⟩, rfl⟩
      refine ⟨_, ⟨short, rfl⟩, _, ⟨honest, rfl⟩, rest, ?_⟩
      rw [honest_header _ _ honest, honest_central _ _ honest, appended, recorded]

theorem writeCentralHeaders_eq_ok (entries : List CentralEntry) (output result : List UInt8) :
    writeCentralHeaders entries output = .ok result ↔
      (∀ entry ∈ entries, (nameBytes entry.name).length < 2 ^ 16) ∧
      result = output ++ centralRegion entries := by
  induction entries generalizing output with
  | nil => simp [writeCentralHeaders, centralRegion, eq_comm]
  | cons entry entries ih =>
    rw [List.forall_mem_cons, centralRegion, ← List.append_assoc]
    simp only [writeCentralHeaders, bind_eq_ok, writeCentralHeader_eq_ok, ih]
    constructor
    · rintro ⟨_, ⟨short, rfl⟩, rest, rfl⟩
      exact ⟨⟨short, rest⟩, rfl⟩
    · rintro ⟨⟨short, rest⟩, rfl⟩
      exact ⟨_, ⟨short, rfl⟩, rest, rfl⟩

/-- The archive that a valid list of honest requests stores. -/
def storedArchive (hasher : StreamingHash) (entries : List EntryWrite)
    (valid : validateWriteEntries entries = .ok ())
    (honest : ∀ entry ∈ entries, entry.Honest hasher) : StoredArchive where
  entries := entries.map EntryWrite.stored
  safe := by
    rw [List.forall_mem_map]
    exact ((validateWriteEntries_eq_ok entries).mp valid).1
  distinct := by
    rw [List.map_map]
    exact ((validateWriteEntries_eq_ok entries).mp valid).2.1
  ordered := by
    rw [List.map_map]
    exact ((validateWriteEntries_eq_ok entries).mp valid).2.2.1
  sized := by
    rw [List.forall_mem_map]
    intro entry member
    have sized := ((validateWriteEntries_eq_ok entries).mp valid).2.2.2 entry member
    rwa [(honest entry member).size] at sized

@[simp]
theorem storedArchive_entries (entries : List EntryWrite)
    (valid : validateWriteEntries entries = .ok ())
    (honest : ∀ entry ∈ entries, entry.Honest hasher) :
    (storedArchive hasher entries valid honest).entries = entries.map EntryWrite.stored := rfl

/-- What is left to write after the local entries always succeeds for an archive. -/
theorem writeDirectory (archive : StoredArchive) :
    (do
      let output ← writeCentralHeaders archive.records archive.locals
      match checkedSub output.length archive.locals.length with
      | none => .error (.new .archiveMalformed "central directory underflow")
      | some centralSize => do
          let terminator ← writeZip64Terminator archive.records.length centralSize
            archive.locals.length
          return output ++ terminator) = Except.ok archive.bytes := by
  have short : ∀ record ∈ archive.records, (nameBytes record.name).length < 2 ^ 16 := by
    apply (centralEntries_forall (fun name _ => (nameBytes name).length < 2 ^ 16) ..).mpr
    intro entry member
    have length := archive.short entry member
    omega
  have directory : writeCentralHeaders archive.records archive.locals =
      .ok (archive.locals ++ archive.directory) :=
    (writeCentralHeaders_eq_ok ..).mpr ⟨short, rfl⟩
  have size : checkedSub (archive.locals ++ archive.directory).length archive.locals.length =
      some archive.directory.length := by
    rw [checkedSub_eq_some, List.length_append]
  have regions := archive.regions_bound
  have offset : checkedAdd archive.locals.length archive.directory.length =
      some (archive.locals.length + archive.directory.length) := by
    rw [checkedAdd_eq_some]
    omega
  rw [bind_eq_ok]
  refine ⟨_, directory, ?_⟩
  rw [size]
  dsimp only
  rw [writeZip64Terminator, offset, StoredArchive.records, centralEntries_length]
  exact congrArg Except.ok (List.append_assoc ..)

/-- An archive is written exactly for valid, honest requests, and it is the canonical one. -/
theorem writeCanonical_eq_ok (entries : List EntryWrite) (bytes : List UInt8) :
    writeCanonical hasher 0 entries = .ok bytes ↔
      ∃ (valid : validateWriteEntries entries = .ok ())
        (honest : ∀ entry ∈ entries, entry.Honest hasher),
        bytes = (storedArchive hasher entries valid honest).bytes := by
  unfold writeCanonical
  rw [check_eq_ok, guarded_eq_ok, bind_eq_ok]
  constructor
  · rintro ⟨valid, -, _, locals, rest⟩
    rw [writeEntries_eq_ok] at locals
    obtain ⟨each, rfl⟩ := locals
    have honest : ∀ entry ∈ entries, entry.Honest hasher := fun entry member =>
      (each entry member).2
    have written := writeDirectory (storedArchive hasher entries valid honest)
    exact ⟨valid, honest, Except.ok.inj (rest.symm.trans written)⟩
  · rintro ⟨valid, honest, rfl⟩
    have short := (storedArchive hasher entries valid honest).short
    refine ⟨valid, not_not_intro rfl, _, (writeEntries_eq_ok ..).mpr ⟨?_, rfl⟩, ?_⟩
    · intro entry member
      have length := short entry.stored (List.mem_map_of_mem member)
      change (nameBytes entry.name).length ≤ 149 at length
      exact ⟨by omega, honest entry member⟩
    · exact writeDirectory (storedArchive hasher entries valid honest)

end LatentDeck.Archive
