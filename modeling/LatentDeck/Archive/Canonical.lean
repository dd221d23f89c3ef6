import LatentDeck.Archive.Writing
import LatentDeck.Archive.Inspection

/-!
# The archive is canonical

The two directions between writing and reading. What the writer produces is accepted and indexed
with the ranges of the written contents; what the inspector and the checksums accept is what the
writer produces for the extracted contents. The second makes the bytes of an archive a function of
its names and contents.
-/

namespace LatentDeck.Archive

open ByteFormat Streaming

def ArchiveEntry.extract (medium : List UInt8) (entry : ArchiveEntry) : List UInt8 :=
  (medium.drop entry.dataOffset).take entry.size

/-- The names and bytes of the indexed entries. -/
def ArchiveIndex.contents (medium : List UInt8) (index : ArchiveIndex) :
    List (String × List UInt8) :=
  index.entries.map fun entry => (entry.name, entry.extract medium)

/-- The request that writes a content under a name, in pieces chosen by the source. -/
def writeOf (hasher : StreamingHash) (pieces : String → Nat → Nat) (name : String)
    (content : List UInt8) : EntryWrite where
  name := name
  size := UInt64.ofNat content.length
  crc32 := hasher.hash content
  reader := { bytes := content, chunk := pieces name }

variable (hasher : StreamingHash)

theorem writeOf_honest (pieces : String → Nat → Nat) (name : String) (content : List UInt8)
    (fits : content.length < 2 ^ 64) : (writeOf hasher pieces name content).Honest hasher :=
  ⟨UInt64.toNat_ofNat_of_lt' fits, rfl⟩

def writesOf (hasher : StreamingHash) (pieces : String → Nat → Nat)
    (contents : List (String × List UInt8)) : List EntryWrite :=
  contents.map fun content => writeOf hasher pieces content.1 content.2

theorem indexedEntries_contents (medium : List UInt8) (entries : List StoredEntry) (offset : Nat)
    (present : At medium offset (localRegion entries)) :
    (indexedEntries entries offset).map (fun entry => (entry.name, entry.extract medium)) =
      entries.map fun entry => (entry.name, entry.content) := by
  induction entries generalizing offset with
  | nil => rfl
  | cons entry entries ih =>
    rw [localRegion, at_append, at_append] at present
    obtain ⟨-, contentAt, restAt⟩ := present
    have content : (entry.indexed offset).extract medium = entry.content := at_slice _ _ _ contentAt
    rw [indexedEntries, List.map_cons, List.map_cons, ih _ restAt, content]
    rfl

theorem index_contents (archive : StoredArchive) :
    archive.index.contents archive.bytes =
      archive.entries.map fun entry => (entry.name, entry.content) := by
  apply indexedEntries_contents
  exact ((at_append ..).mp (at_self archive.bytes)).1

theorem indexedEntries_fields {α : Type} (field : String → Nat → Nat → α)
    (entries : List StoredEntry) (offset : Nat) :
    (indexedEntries entries offset).map
        (fun entry => field entry.name entry.size entry.crc32) =
      entries.map fun entry => field entry.name entry.content.length entry.crc32.toNat := by
  induction entries generalizing offset with
  | nil => rfl
  | cons entry entries ih => exact congrArg _ (ih _)

/-- An entry is verified when its range is inside the medium and has its checksum. -/
theorem verifyEntry_eq_ok (input : ByteStream) (entry : ArchiveEntry) :
    verifyEntry hasher input entry = .ok () ↔
      entry.size ≤ (input.bytes.drop entry.dataOffset).length ∧
      (hasher.hash (entry.extract input.bytes)).toNat = entry.crc32 := by
  unfold verifyEntry
  rw [streamExactly_eq _ _ _ _ _ copyBufferBytes_pos]
  by_cases inside : entry.size ≤ (input.bytes.drop entry.dataOffset).length
  · rw [if_pos inside]
    dsimp only
    rw [Fallible.guarded_eq_ok]
    exact ⟨fun checked => ⟨inside, not_not.mp checked.1⟩,
      fun checked => ⟨not_not_intro checked.2, rfl⟩⟩
  · rw [if_neg inside]
    constructor
    · exact nofun
    · exact fun both => absurd both.1 inside

/-- All entries of a local region are verified exactly when the stored checksums are right. -/
theorem indexedEntries_verified (medium : List UInt8) (chunk : ArchiveEntry → Nat → Nat)
    (entries : List StoredEntry) (offset : Nat) (present : At medium offset (localRegion entries)) :
    (∀ entry ∈ indexedEntries entries offset,
        verifyEntry hasher ⟨medium, chunk entry⟩ entry = .ok ()) ↔
      ∀ entry ∈ entries, hasher.hash entry.content = entry.crc32 := by
  induction entries generalizing offset with
  | nil => simp [indexedEntries]
  | cons entry entries ih =>
    rw [localRegion, at_append, at_append] at present
    obtain ⟨-, contentAt, restAt⟩ := present
    have content : (entry.indexed offset).extract medium = entry.content := at_slice _ _ _ contentAt
    have inside : (entry.indexed offset).size ≤
        (medium.drop (entry.indexed offset).dataOffset).length := contentAt.length_le
    rw [indexedEntries, List.forall_mem_cons, List.forall_mem_cons, ih _ restAt,
      verifyEntry_eq_ok, content]
    apply and_congr_left'
    constructor
    · exact fun checked => UInt32.toNat_inj.mp checked.2
    · exact fun checksum => ⟨inside, congrArg UInt32.toNat checksum⟩

theorem index_verified (archive : StoredArchive) (chunk : ArchiveEntry → Nat → Nat) :
    (∀ entry ∈ archive.index.entries,
        verifyEntry hasher ⟨archive.bytes, chunk entry⟩ entry = .ok ()) ↔
      ∀ entry ∈ archive.entries, hasher.hash entry.content = entry.crc32 := by
  apply indexedEntries_verified
  exact ((at_append ..).mp (at_self archive.bytes)).1

/-- Valid requests are written exactly when they are honest, and the archive is accepted with the
same names, sizes and checksums over the sources' bytes. -/
theorem written_archive_read_back (hasher : StreamingHash) (entries : List EntryWrite)
    (valid : validateWriteEntries entries = .ok ()) :
    ((∃ archive, writeCanonical hasher 0 entries = .ok archive) ↔
      ∀ entry ∈ entries, entry.Honest hasher) ∧
    ∀ archive, writeCanonical hasher 0 entries = .ok archive →
      ∀ maximumArchiveBytes : UInt64, archive.length ≤ maximumArchiveBytes.toNat →
      ∃ index, inspectCanonical archive maximumArchiveBytes = .ok index ∧
        index.entries.map ArchiveEntry.name = entries.map EntryWrite.name ∧
        index.entries.map ArchiveEntry.size = entries.map (fun entry => entry.size.toNat) ∧
        index.entries.map ArchiveEntry.crc32 = entries.map (fun entry => entry.crc32.toNat) ∧
        index.entries.map (ArchiveEntry.extract archive) =
          entries.map (fun entry => entry.reader.bytes) ∧
        ∀ chunk : ArchiveEntry → Nat → Nat, ∀ entry ∈ index.entries,
          verifyEntry hasher ⟨archive, chunk entry⟩ entry = .ok () := by
  constructor
  · constructor
    · rintro ⟨archive, written⟩
      obtain ⟨_, honest, _⟩ := (writeCanonical_eq_ok ..).mp written
      exact honest
    · exact fun honest => ⟨_, (writeCanonical_eq_ok ..).mpr ⟨valid, honest, rfl⟩⟩
  · intro archive written maximumArchiveBytes bound
    obtain ⟨_, honest, rfl⟩ := (writeCanonical_eq_ok ..).mp written
    refine ⟨_, inspectCanonical_bytes _ maximumArchiveBytes bound, ?_, ?_, ?_, ?_, ?_⟩
    · exact (indexedEntries_fields (fun name _ _ => name) ..).trans (List.map_map ..)
    · apply (indexedEntries_fields (fun _ size _ => size) ..).trans
      rw [storedArchive_entries, List.map_map]
      exact List.map_congr_left fun entry member => (honest entry member).size.symm
    · exact (indexedEntries_fields (fun _ _ crc32 => crc32) ..).trans (List.map_map ..)
    · have contents := congrArg (List.map Prod.snd)
        (index_contents (storedArchive hasher entries valid honest))
      rw [ArchiveIndex.contents, List.map_map, List.map_map, storedArchive_entries, List.map_map]
        at contents
      exact contents
    · intro chunk
      rw [index_verified, storedArchive_entries, List.forall_mem_map]
      exact fun entry member => (honest entry member).checksum

/-- Two requests, an empty payload behind a small manifest. -/
def sampleEntries : List EntryWrite :=
  writesOf crc32 (fun _ _ => 1) [(manifestName, [0x7b, 0x7d]), ("payloads/a.safetensors", [])]

theorem sampleEntries_valid : validateWriteEntries sampleEntries = .ok () := by decide

theorem sampleEntries_honest : ∀ entry ∈ sampleEntries, entry.Honest crc32 := by
  rw [sampleEntries, writesOf, List.forall_mem_map]
  have small : ∀ content ∈ [(manifestName, [(0x7b : UInt8), 0x7d]),
      ("payloads/a.safetensors", [])], content.2.length ≤ 2 := by decide
  intro content member
  exact writeOf_honest _ _ _ _ ((small content member).trans_lt (by decide))

def sampleArchive : StoredArchive :=
  storedArchive crc32 sampleEntries sampleEntries_valid sampleEntries_honest

/-- The sample is written, read back and verified. -/
theorem sample_read_back : ∃ index,
    writeCanonical crc32 0 sampleEntries = .ok sampleArchive.bytes ∧
    inspectCanonical sampleArchive.bytes (UInt64.ofNat maxArchiveBytes) = .ok index ∧
    index.entries.map (ArchiveEntry.extract sampleArchive.bytes) = [[0x7b, 0x7d], []] := by
  have round := written_archive_read_back crc32 sampleEntries sampleEntries_valid
  have written : writeCanonical crc32 0 sampleEntries = .ok sampleArchive.bytes :=
    (writeCanonical_eq_ok ..).mpr ⟨sampleEntries_valid, sampleEntries_honest, rfl⟩
  obtain ⟨index, accepted, -, -, -, contents, -⟩ := round.2 _ written
    (UInt64.ofNat maxArchiveBytes) (by decide +kernel)
  exact ⟨index, written, accepted, contents⟩

/-- The contents of a verified archive are valid, honest requests that store the archive again. -/
theorem archive_rewritten (archive : StoredArchive) (pieces : String → Nat → Nat)
    (checksums : ∀ entry ∈ archive.entries, hasher.hash entry.content = entry.crc32) :
    writeCanonical hasher 0 (writesOf hasher pieces (archive.index.contents archive.bytes)) =
      .ok archive.bytes := by
  rw [index_contents, writesOf, List.map_map]
  have honest : ∀ entry ∈ archive.entries,
      (writeOf hasher pieces entry.name entry.content).Honest hasher := by
    intro entry member
    have size := validateEntrySize_bound _ _ (archive.sized entry member)
    have limit : maxH3PayloadBytes = 16106127360 := by decide
    exact writeOf_honest _ _ _ _ (by omega)
  have stores : ∀ entry ∈ archive.entries,
      (writeOf hasher pieces entry.name entry.content).stored = entry := by
    intro entry member
    rw [EntryWrite.stored, writeOf, checksums entry member]
  have valid : validateWriteEntries (archive.entries.map
      fun entry => writeOf hasher pieces entry.name entry.content) = .ok () := by
    rw [validateWriteEntries_eq_ok, List.forall_mem_map, List.forall_mem_map, List.map_map]
    refine ⟨archive.safe, archive.distinct, archive.ordered, ?_⟩
    intro entry member
    rw [(honest entry member).size]
    exact archive.sized entry member
  apply (writeCanonical_eq_ok ..).mpr
  refine ⟨valid, List.forall_mem_map.mpr honest, congrArg StoredArchive.bytes ?_⟩
  apply StoredArchive.ext
  rw [storedArchive_entries, List.map_map]
  exact ((List.map_congr_left stores).trans (List.map_id _)).symm

/-- An accepted archive whose checksums hold is what the writer produces for its contents, and it
is the only one with these contents. -/
theorem accepted_archive_canonical (hasher : StreamingHash) (medium : List UInt8)
    (maximumArchiveBytes : UInt64) (index : ArchiveIndex) (chunk : ArchiveEntry → Nat → Nat)
    (accepted : inspectCanonical medium maximumArchiveBytes = .ok index)
    (verified : ∀ entry ∈ index.entries,
      verifyEntry hasher ⟨medium, chunk entry⟩ entry = .ok ()) :
    (∀ pieces, writeCanonical hasher 0 (writesOf hasher pieces (index.contents medium)) =
      .ok medium) ∧
    ∀ (other : List UInt8) (otherMaximum : UInt64) (otherIndex : ArchiveIndex)
      (otherChunk : ArchiveEntry → Nat → Nat),
      inspectCanonical other otherMaximum = .ok otherIndex →
      (∀ entry ∈ otherIndex.entries,
        verifyEntry hasher ⟨other, otherChunk entry⟩ entry = .ok ()) →
      otherIndex.contents other = index.contents medium → other = medium := by
  have rewritten (archive : List UInt8) (maximum : UInt64) (found : ArchiveIndex)
      (requests : ArchiveEntry → Nat → Nat)
      (inspected : inspectCanonical archive maximum = .ok found)
      (checked : ∀ entry ∈ found.entries,
        verifyEntry hasher ⟨archive, requests entry⟩ entry = .ok ()) (pieces : String → Nat → Nat) :
      writeCanonical hasher 0 (writesOf hasher pieces (found.contents archive)) = .ok archive := by
    obtain ⟨stored, rfl, rfl⟩ := inspectCanonical_accepts _ _ _ inspected
    exact archive_rewritten hasher stored pieces ((index_verified ..).mp checked)
  constructor
  · exact rewritten medium maximumArchiveBytes index chunk accepted verified
  · intro other otherMaximum otherIndex otherChunk otherAccepted otherVerified same
    have first := rewritten medium _ index chunk accepted verified fun _ _ => 1
    have second := rewritten other _ otherIndex otherChunk otherAccepted otherVerified fun _ _ => 1
    rw [same, first] at second
    exact (Except.ok.inj second).symm

/-- The sample archive is written again from its contents, from sources that hand out seven bytes
at a time. -/
theorem sample_rewritten : writeCanonical crc32 0 (writesOf crc32 (fun _ _ => 7)
    (sampleArchive.index.contents sampleArchive.bytes)) = .ok sampleArchive.bytes := by
  have accepted := inspectCanonical_bytes sampleArchive (UInt64.ofNat maxArchiveBytes)
    (by decide +kernel)
  have verified := (index_verified crc32 sampleArchive fun _ _ => 1).mpr <| by
    intro entry member
    obtain ⟨request, among, rfl⟩ := List.mem_map.mp member
    exact (sampleEntries_honest request among).checksum
  exact (accepted_archive_canonical crc32 _ _ _ _ accepted verified).1 _

end LatentDeck.Archive
