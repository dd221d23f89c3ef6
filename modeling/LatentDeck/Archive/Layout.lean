import LatentDeck.Archive.Records

/-!
# The canonical layout

A stored archive is a list of named, checksummed contents whose names and sizes LC 0.1 admits. Its
bytes are fixed: local headers with their contents back to back from byte zero, the central
directory, and the three end records. The writer produces these bytes and the reader accepts no
others; both facts are proved against this one description.
-/

namespace LatentDeck.Archive

open LittleEndian

structure StoredEntry where
  name : String
  /-- The stored checksum. -/
  crc32 : UInt32
  content : List UInt8

/-- The central record of an entry whose local header starts at an offset. -/
def StoredEntry.central (entry : StoredEntry) (offset : Nat) : CentralEntry where
  name := entry.name
  size := entry.content.length
  crc32 := entry.crc32.toNat
  localOffset := offset

def StoredEntry.header (entry : StoredEntry) : List UInt8 :=
  localHeaderRecord entry.name (nameBytes entry.name).length entry.content.length
    entry.crc32.toNat

/-- The index record of an entry whose local header starts at an offset. -/
def StoredEntry.indexed (entry : StoredEntry) (offset : Nat) : ArchiveEntry where
  name := entry.name
  size := entry.content.length
  crc32 := entry.crc32.toNat
  dataOffset := offset + entry.header.length

/-- The local headers and contents of entries. -/
def localRegion : List StoredEntry → List UInt8
  | [] => []
  | entry :: entries => entry.header ++ (entry.content ++ localRegion entries)

/-- The central records of entries whose local region starts at an offset. -/
def centralEntries : List StoredEntry → Nat → List CentralEntry
  | [], _ => []
  | entry :: entries, offset =>
      entry.central offset ::
        centralEntries entries (offset + entry.header.length + entry.content.length)

/-- The index records of entries whose local region starts at an offset. -/
def indexedEntries : List StoredEntry → Nat → List ArchiveEntry
  | [], _ => []
  | entry :: entries, offset =>
      entry.indexed offset ::
        indexedEntries entries (offset + entry.header.length + entry.content.length)

def centralRegion : List CentralEntry → List UInt8
  | [] => []
  | entry :: entries =>
      centralHeaderRecord entry (nameBytes entry.name).length ++ centralRegion entries

variable (entries : List StoredEntry)

theorem centralEntries_name (offset : Nat) :
    (centralEntries entries offset).map CentralEntry.name = entries.map StoredEntry.name := by
  induction entries generalizing offset with
  | nil => rfl
  | cons entry entries ih => exact congrArg _ (ih _)

theorem centralEntries_length (offset : Nat) :
    (centralEntries entries offset).length = entries.length := by
  have lengths := congrArg List.length (centralEntries_name entries offset)
  rwa [List.length_map, List.length_map] at lengths

/-- Every central record is the record of one of the entries. -/
theorem mem_centralEntries (offset : Nat) (record : CentralEntry)
    (member : record ∈ centralEntries entries offset) :
    ∃ entry ∈ entries, ∃ start ≤ offset + (localRegion entries).length,
      record = entry.central start := by
  induction entries generalizing offset with
  | nil => cases member
  | cons entry entries ih =>
    have length : (localRegion (entry :: entries)).length =
        entry.header.length + (entry.content.length + (localRegion entries).length) := by
      rw [localRegion, List.length_append, List.length_append]
    cases member with
    | head => exact ⟨entry, List.mem_cons_self, offset, by omega, rfl⟩
    | tail _ member =>
      obtain ⟨found, among, start, bound, rfl⟩ := ih _ member
      exact ⟨found, List.mem_cons_of_mem _ among, start, by omega, rfl⟩

theorem centralEntries_forall (property : String → Nat → Prop) (entries : List StoredEntry)
    (offset : Nat) :
    (∀ record ∈ centralEntries entries offset, property record.name record.size) ↔
      ∀ entry ∈ entries, property entry.name entry.content.length := by
  induction entries generalizing offset with
  | nil => simp [centralEntries]
  | cons entry entries ih =>
    rw [centralEntries, List.forall_mem_cons, List.forall_mem_cons, ih]
    exact Iff.rfl

theorem indexedEntries_forall (property : String → Nat → Prop) (entries : List StoredEntry)
    (offset : Nat) :
    (∀ record ∈ indexedEntries entries offset, property record.name record.size) ↔
      ∀ entry ∈ entries, property entry.name entry.content.length := by
  induction entries generalizing offset with
  | nil => simp [indexedEntries]
  | cons entry entries ih =>
    rw [indexedEntries, List.forall_mem_cons, List.forall_mem_cons, ih]
    exact Iff.rfl

theorem indexedEntries_name (offset : Nat) :
    (indexedEntries entries offset).map ArchiveEntry.name = entries.map StoredEntry.name := by
  induction entries generalizing offset with
  | nil => rfl
  | cons entry entries ih => exact congrArg _ (ih _)

/-- The contents of indexed entries are inside the local region, one after the other. -/
theorem indexedEntries_ordered (offset : Nat) :
    (∀ record ∈ indexedEntries entries offset, offset ≤ record.dataOffset ∧
      record.dataOffset + record.size ≤ offset + (localRegion entries).length) ∧
      (indexedEntries entries offset).Pairwise fun earlier later =>
        earlier.dataOffset + earlier.size ≤ later.dataOffset := by
  induction entries generalizing offset with
  | nil => exact ⟨nofun, List.Pairwise.nil⟩
  | cons entry entries ih =>
    obtain ⟨inside, ordered⟩ := ih (offset + entry.header.length + entry.content.length)
    have length : (localRegion (entry :: entries)).length =
        entry.header.length + (entry.content.length + (localRegion entries).length) := by
      simp only [localRegion, List.length_append]
    rw [indexedEntries, List.forall_mem_cons, List.pairwise_cons, length]
    simp only [StoredEntry.indexed]
    refine ⟨⟨by omega, fun record member => ?_⟩, fun record member => ?_, ordered⟩
    · have bounds := inside record member
      omega
    · exact (inside record member).1

@[ext]
structure StoredArchive where
  entries : List StoredEntry
  safe : ∀ entry ∈ entries, validateSafeName entry.name = .ok ()
  distinct : validateDistinct (entries.map StoredEntry.name) [] = .ok ()
  ordered : validateEntryOrder (entries.map StoredEntry.name) = .ok ()
  sized : ∀ entry ∈ entries, validateEntrySize entry.name entry.content.length = .ok ()

namespace StoredArchive

def records (archive : StoredArchive) : List CentralEntry := centralEntries archive.entries 0

def locals (archive : StoredArchive) : List UInt8 := localRegion archive.entries

def directory (archive : StoredArchive) : List UInt8 :=
  centralRegion archive.records

def terminator (archive : StoredArchive) : Terminator where
  entryCount := archive.entries.length
  centralSize := archive.directory.length
  centralOffset := archive.locals.length

def ending (archive : StoredArchive) : List UInt8 :=
  zip64EndRecord archive.entries.length archive.directory.length archive.locals.length ++
    (zip64Locator (archive.locals.length + archive.directory.length) ++ endRecord)

def bytes (archive : StoredArchive) : List UInt8 :=
  archive.locals ++ (archive.directory ++ archive.ending)

def index (archive : StoredArchive) : ArchiveIndex where
  entries := indexedEntries archive.entries 0
  archiveSize := archive.bytes.length

end StoredArchive

theorem header_length (entry : StoredEntry) :
    entry.header.length = 50 + (nameBytes entry.name).length := by
  simp only [StoredEntry.header, localHeaderRecord, List.length_append, leBytes_length]
  omega

theorem centralHeaderRecord_length (entry : CentralEntry) (length : Nat) :
    (centralHeaderRecord entry length).length = 74 + (nameBytes entry.name).length := by
  simp only [centralHeaderRecord, List.length_append, leBytes_length]
  omega

theorem zip64EndRecord_length (entryCount centralSize centralOffset : Nat) :
    (zip64EndRecord entryCount centralSize centralOffset).length = zip64EndBytes := by
  simp only [zip64EndRecord, List.length_append, leBytes_length, zip64EndBytes]

theorem zip64Locator_length (offset : Nat) : (zip64Locator offset).length = zip64LocatorBytes := by
  simp only [zip64Locator, List.length_append, leBytes_length, zip64LocatorBytes]

theorem endRecord_length : endRecord.length = endBytes := by
  simp only [endRecord, List.length_append, leBytes_length, endBytes]

theorem utf8ByteSize_ofList_append (front back : List Char) :
    (String.ofList (front ++ back)).utf8ByteSize =
      (String.ofList front).utf8ByteSize + (String.ofList back).utf8ByteSize := by
  rw [String.ofList_append, String.utf8ByteSize_append]

theorem isPayloadName_length (name : String) (payload : isPayloadName name = true) :
    (nameBytes name).length ≤ 149 := by
  unfold isPayloadName at payload
  simp only [Bool.and_eq_true, decide_eq_true_eq, List.isPrefixOf_iff_prefix,
    List.isSuffixOf_iff_suffix] at payload
  obtain ⟨⟨value, characters⟩, ⟨payloadId, split⟩, ⟨⟨⟨⟨-, short⟩, -⟩, -⟩, -⟩, -⟩ := payload
  rw [← characters, List.drop_left] at split short
  rw [← split, List.length_append, Nat.add_sub_cancel, List.take_left] at short
  have fixed : (String.ofList payloadPrefix).utf8ByteSize = 9 ∧
      (String.ofList payloadSuffix).utf8ByteSize = 12 := by decide
  have total := congrArg (fun characters => (String.ofList characters).utf8ByteSize)
    (characters.symm.trans (congrArg (payloadPrefix ++ ·) split.symm))
  simp only [utf8ByteSize_ofList_append, fixed, String.ofList_toList] at total
  rw [nameBytes, Text.utf8Bytes_length]
  omega

/-- The canonical order admits two or three entries, and their names are short. -/
theorem validateEntryOrder_short (names : List String)
    (ordered : validateEntryOrder names = .ok ()) :
    names.length ≤ maxArchiveEntries ∧ minArchiveEntries ≤ names.length ∧
      ∀ name ∈ names, (nameBytes name).length ≤ 149 := by
  have fixed : (nameBytes manifestName).length ≤ 149 ∧
      (nameBytes optionalPreviewName).length ≤ 149 := by decide
  unfold validateEntryOrder at ordered
  dsimp only at ordered
  split at ordered
  · rename_i manifest payload
    by_cases valid : (manifest == manifestName && isPayloadName payload) = true
    · simp only [Bool.and_eq_true, beq_iff_eq] at valid
      have short := isPayloadName_length payload valid.2
      simp [valid.1, short, fixed, maxArchiveEntries, minArchiveEntries]
    · rw [if_neg valid] at ordered
      exact nomatch ordered
  · rename_i manifest payload preview
    by_cases valid : (manifest == manifestName && isPayloadName payload &&
        preview == optionalPreviewName) = true
    · simp only [Bool.and_eq_true, beq_iff_eq] at valid
      have short := isPayloadName_length payload valid.1.2
      simp [valid.1.1, valid.2, short, fixed, maxArchiveEntries, minArchiveEntries]
    · rw [if_neg valid] at ordered
      exact nomatch ordered
  · exact nomatch ordered

/-- Every kind of entry is below the payload limit. -/
theorem validateEntrySize_bound (name : String) (size : Nat)
    (sized : validateEntrySize name size = .ok ()) : size ≤ maxH3PayloadBytes := by
  have limits : maxManifestBytes ≤ maxH3PayloadBytes ∧ maxPreviewBytes ≤ maxH3PayloadBytes := by
    decide
  unfold validateEntrySize at sized
  dsimp only at sized
  split at sized
  · cases sized
  · rename_i maximum found
    by_cases large : size > maximum
    · rw [if_pos large] at sized
      cases sized
    · split at found
      · cases found
        omega
      · split at found
        · cases found
          omega
        · split at found
          · cases found
            omega
          · cases found

theorem localRegion_length (bound : Nat)
    (each : ∀ entry ∈ entries, entry.header.length + entry.content.length ≤ bound) :
    (localRegion entries).length ≤ entries.length * bound := by
  induction entries with
  | nil => exact Nat.zero_le _
  | cons entry entries ih =>
    have first := each entry List.mem_cons_self
    have rest := ih fun other member => each other (List.mem_cons_of_mem _ member)
    rw [localRegion, List.length_append, List.length_append, List.length_cons, Nat.succ_mul]
    omega

theorem centralRegion_length (entries : List CentralEntry) (bound : Nat)
    (each : ∀ entry ∈ entries, 74 + (nameBytes entry.name).length ≤ bound) :
    (centralRegion entries).length ≤ entries.length * bound := by
  induction entries with
  | nil => exact Nat.zero_le _
  | cons entry entries ih =>
    have first := each entry List.mem_cons_self
    have rest := ih fun other member => each other (List.mem_cons_of_mem _ member)
    rw [centralRegion, List.length_append, centralHeaderRecord_length, List.length_cons,
      Nat.succ_mul]
    omega

namespace StoredArchive

variable (archive : StoredArchive)

theorem count : minArchiveEntries ≤ archive.entries.length ∧
    archive.entries.length ≤ maxArchiveEntries := by
  have counted := validateEntryOrder_short _ archive.ordered
  rw [List.length_map] at counted
  exact ⟨counted.2.1, counted.1⟩

theorem short (entry : StoredEntry) (member : entry ∈ archive.entries) :
    (nameBytes entry.name).length ≤ 149 :=
  (validateEntryOrder_short _ archive.ordered).2.2 _ (List.mem_map_of_mem member)

/-- The local region and the central directory stay far below 64-bit offsets. -/
theorem regions_bound : archive.locals.length + archive.directory.length < 2 ^ 63 := by
  have contents : archive.locals.length ≤
      archive.entries.length * (199 + maxH3PayloadBytes) := by
    apply localRegion_length
    intro entry member
    have name := archive.short entry member
    have content := validateEntrySize_bound _ _ (archive.sized entry member)
    rw [header_length]
    omega
  have records : archive.directory.length ≤
      archive.records.length * 223 := by
    apply centralRegion_length
    intro record member
    obtain ⟨entry, among, start, -, rfl⟩ := mem_centralEntries _ _ _ member
    have name := archive.short entry among
    change 74 + (nameBytes entry.name).length ≤ 223
    omega
  have counted : archive.entries.length ≤ 3 := archive.count.2
  have limit : maxH3PayloadBytes = 16106127360 := by decide
  rw [StoredArchive.records, centralEntries_length] at records
  rw [limit] at contents
  omega

theorem bytes_length : archive.bytes.length =
    archive.locals.length + archive.directory.length +
      (zip64EndBytes + zip64LocatorBytes + endBytes) := by
  simp only [bytes, ending, List.length_append, zip64EndRecord_length, zip64Locator_length,
    endRecord_length]
  omega

end StoredArchive

end LatentDeck.Archive
