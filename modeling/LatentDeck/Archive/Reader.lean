import LatentDeck.Archive.Writer

/-!
# Inspecting and verifying an archive

`inspect_canonical` and `verify_entry` with the record readers below them. The medium is the
whole archive; a record reader starts where the previous read or seek left the position.
-/

namespace LatentDeck.Archive

open ByteFormat LittleEndian Streaming Checked

abbrev ArchiveReader := ByteReader CartridgeError

/-- `ArchiveEntry` — a validated entry with an absolute data range. -/
structure ArchiveEntry where
  name : String
  size : Nat
  crc32 : Nat
  dataOffset : Nat

/-- `ArchiveIndex` — the structural result of an inspection. -/
structure ArchiveIndex where
  entries : List ArchiveEntry
  archiveSize : Nat

/-- `Terminator` — what the end records say of the central directory. -/
structure Terminator where
  entryCount : Nat
  centralSize : Nat
  centralOffset : Nat

def readU16 : ArchiveReader Nat := readWord 2 (readError "cannot read u16")

def readU32 : ArchiveReader Nat := readWord 4 (readError "cannot read u32")

def readU64 : ArchiveReader Nat := readWord 8 (readError "cannot read u64")

def lift {α : Type} (result : Except CartridgeError α) : ArchiveReader α := fun _ position =>
  match result with
  | .ok value => .ok (value, position)
  | .error error => .error error

def expectU32 (expected : Nat) (code : ErrorCode) (label : String) : ArchiveReader Unit := do
  let actual ← readU32
  demand (actual = expected) (.new code (label ++ " is invalid"))

def readName (length : Nat) : ArchiveReader String := do
  let bytes ← readExact length (readError "cannot read entry name")
  match fromUtf8 bytes with
  | some name => return name
  | none => refuse { code := .entryUnsafePath, entry := none, detail := .invalidUtf8 bytes }

def validateCommonHeader (needed flags method modifiedTime modifiedDate : Nat) :
    ArchiveReader Unit := do
  demand (¬ (flags &&& 0x0001 ≠ 0 ∨ flags &&& 0x0040 ≠ 0))
    (.new .entryEncrypted "encrypted ZIP entries are forbidden")
  demand (flags = 0) (.new .archiveNoncanonical "ZIP entry flags must be zero")
  demand (method = 0) (.new .entryCompressed "LC entries must use the STORE method")
  demand (needed = zip64Version ∧ modifiedTime = dosTime ∧ modifiedDate = dosDate)
    (.new .archiveNoncanonical "ZIP version or timestamp is not canonical")

/-- The last position of a window in a byte string. -/
def lastWindow (window bytes : List UInt8) : Option Nat :=
  ((List.range (bytes.length + 1 - window.length)).reverse).find? fun index =>
    (bytes.drop index).take window.length == window

/-- `find_end_record` — the end record must be the last bytes of the archive. -/
def findEndRecord (archiveSize : Nat) : ArchiveReader Nat := do
  let searchLength := min archiveSize (u16Max + endBytes)
  let searchStart := archiveSize - searchLength
  seek searchStart
  let tail ← readExact searchLength (readError "cannot read archive terminator")
  match lastWindow (leBytes 4 endSignature) tail with
  | none => refuse (.new .archiveMalformed "ZIP end record is missing")
  | some relative =>
    let offset := searchStart + relative
    demand (checkedAdd offset endBytes = some archiveSize)
      (.new .archiveTrailingData "bytes follow the canonical ZIP end record")
    return offset

/-- The classic end record of `read_terminator`. -/
def readEndRecord : ArchiveReader Unit := do
  expectU32 endSignature .archiveMalformed "ZIP end signature"
  let disk ← readU16
  let centralDisk ← readU16
  let entriesOnDisk ← readU16
  let totalEntries ← readU16
  let centralSizeSentinel ← readU32
  let centralOffsetSentinel ← readU32
  let commentLength ← readU16
  demand (disk = 0 ∧ centralDisk = 0 ∧ entriesOnDisk = u16Max ∧ totalEntries = u16Max ∧
      centralSizeSentinel = u32Max ∧ centralOffsetSentinel = u32Max ∧ commentLength = 0)
    (.new .zip64Required "classic end record must contain the canonical ZIP64 sentinels")

/-- The ZIP64 locator of `read_terminator`. -/
def readLocator : ArchiveReader Nat := do
  expectU32 zip64LocatorSignature .zip64Required "ZIP64 locator signature"
  let endDisk ← readU32
  let zip64EndOffset ← readU64
  let diskCount ← readU32
  demand (endDisk = 0 ∧ diskCount = 1)
    (.new .archiveNoncanonical "multi-disk ZIP archives are forbidden")
  return zip64EndOffset

/-- The ZIP64 end record of `read_terminator`. -/
def readZip64End : ArchiveReader Terminator := do
  expectU32 zip64EndSignature .zip64Required "ZIP64 end signature"
  let recordSize ← readU64
  let madeBy ← readU16
  let needed ← readU16
  let disk ← readU32
  let centralDisk ← readU32
  let entriesOnDisk ← readU64
  let entryCount ← readU64
  let centralSize ← readU64
  let centralOffset ← readU64
  demand (recordSize = 44 ∧ madeBy = versionMadeBy ∧ needed = zip64Version ∧ disk = 0 ∧
      centralDisk = 0 ∧ entriesOnDisk = entryCount)
    (.new .archiveNoncanonical "ZIP64 end record does not match the LC canonical form")
  return { entryCount, centralSize, centralOffset }

def readTerminator (archiveSize endOffset : Nat) : ArchiveReader Terminator := do
  seek endOffset
  readEndRecord
  match checkedSub endOffset zip64LocatorBytes with
  | none => refuse (.new .archiveMalformed "ZIP64 locator offset underflow")
  | some locatorOffset =>
    seek locatorOffset
    let zip64EndOffset ← readLocator
    demand (checkedAdd zip64EndOffset zip64EndBytes = some locatorOffset)
      (.new .archiveNoncanonical "ZIP64 records are not contiguous")
    seek zip64EndOffset
    let terminator ← readZip64End
    demand (minArchiveEntries ≤ terminator.entryCount ∧
        terminator.entryCount ≤ maxArchiveEntries)
      (.new .entryCountInvalid "LC 0.1 requires two entries and permits one optional preview")
    demand (checkedAdd terminator.centralOffset terminator.centralSize = some zip64EndOffset ∧
        checkedAdd endOffset endBytes = some archiveSize)
      (.new .archiveNoncanonical "central directory or terminator offsets are inconsistent")
    return terminator

def readCentralEntry : ArchiveReader CentralEntry := do
  expectU32 centralHeaderSignature .archiveMalformed "central header signature"
  let madeBy ← readU16
  let needed ← readU16
  let flags ← readU16
  let method ← readU16
  let modifiedTime ← readU16
  let modifiedDate ← readU16
  let crc32 ← readU32
  let compressedSize ← readU32
  let uncompressedSize ← readU32
  let nameLength ← readU16
  let extraLength ← readU16
  let commentLength ← readU16
  let diskStart ← readU16
  let internalAttributes ← readU16
  let externalAttributes ← readU32
  let localOffsetSentinel ← readU32
  demand (madeBy = versionMadeBy)
    (.new .archiveNoncanonical "central entry host and writer version are not canonical")
  validateCommonHeader needed flags method modifiedTime modifiedDate
  demand (compressedSize = u32Max ∧ uncompressedSize = u32Max ∧
      extraLength = centralZip64ExtraBytes ∧ commentLength = 0 ∧ diskStart = 0 ∧
      internalAttributes = 0 ∧ externalAttributes = 0 ∧ localOffsetSentinel = u32Max)
    (.new .archiveNoncanonical "central entry is not in the canonical ZIP64 form")
  let name ← readName nameLength
  let extraId ← readU16
  let extraPayloadLength ← readU16
  let size ← readU64
  let compressedSize64 ← readU64
  let localOffset ← readU64
  demand (extraId = zip64ExtraId ∧ extraPayloadLength = 24 ∧ size = compressedSize64)
    ((CartridgeError.new .archiveNoncanonical
      "central ZIP64 extra field is invalid").atEntry name)
  return { name, size, crc32, localOffset }

/-- The entry loop of `read_central_entries`. -/
def readCentralEntriesFrom : Nat → List (List Char) → ArchiveReader (List CentralEntry)
  | 0, _ => return []
  | count + 1, folded => do
    let entry ← readCentralEntry
    lift (validateSafeName entry.name)
    lift (validateEntrySize entry.name entry.size)
    demand (¬ folded.contains (asciiLowercase entry.name))
      ((CartridgeError.new .entryDuplicate "entry names collide").atEntry entry.name)
    let entries ← readCentralEntriesFrom count (asciiLowercase entry.name :: folded)
    return entry :: entries

def readCentralEntries (centralOffset centralSize entryCount : Nat) :
    ArchiveReader (List CentralEntry) := do
  seek centralOffset
  let entries ← readCentralEntriesFrom entryCount []
  let centralEnd ← streamPosition
  demand (checkedAdd centralOffset centralSize = some centralEnd)
    (.new .archiveNoncanonical "central directory size does not match its records")
  lift (validateEntryOrder (entries.map CentralEntry.name))
  return entries

/-- The local header of one entry in `read_local_entries`, checked against its central record. -/
def readLocalHeader (central : CentralEntry) : ArchiveReader Unit := do
  expectU32 localHeaderSignature .archiveMalformed "local header signature"
  let needed ← readU16
  let flags ← readU16
  let method ← readU16
  let modifiedTime ← readU16
  let modifiedDate ← readU16
  let crc32 ← readU32
  let compressedSize ← readU32
  let uncompressedSize ← readU32
  let nameLength ← readU16
  let extraLength ← readU16
  validateCommonHeader needed flags method modifiedTime modifiedDate
  demand (compressedSize = u32Max ∧ uncompressedSize = u32Max ∧
      extraLength = localZip64ExtraBytes)
    ((CartridgeError.new .archiveNoncanonical
      "local entry is not in the canonical ZIP64 form").atEntry central.name)
  let name ← readName nameLength
  let extraId ← readU16
  let extraPayloadLength ← readU16
  let size ← readU64
  let compressedSize64 ← readU64
  demand (extraId = zip64ExtraId ∧ extraPayloadLength = 16 ∧ size = compressedSize64)
    ((CartridgeError.new .archiveNoncanonical "local ZIP64 extra field is invalid").atEntry name)
  demand (name = central.name ∧ size = central.size ∧ crc32 = central.crc32)
    ((CartridgeError.new .entrySizeMismatch
      "local and central entry records differ").atEntry central.name)

/-- The entry loop of `read_local_entries` from an expected offset. -/
def readLocalEntriesFrom (centralOffset : Nat) :
    List CentralEntry → Nat → ArchiveReader (List ArchiveEntry)
  | [], expectedOffset => do
    demand (expectedOffset = centralOffset) (.new .archiveNoncanonical
      "bytes exist between entry data and the central directory")
    return []
  | central :: rest, expectedOffset => do
    demand (central.localOffset = expectedOffset) ((CartridgeError.new .entryOverlap
      "local entries are not contiguous and ordered").atEntry central.name)
    seek central.localOffset
    readLocalHeader central
    let dataOffset ← streamPosition
    match checkedAdd dataOffset central.size with
    | none => refuse ((CartridgeError.new .entrySizeMismatch
        "entry range overflows u64").atEntry central.name)
    | some dataEnd =>
      demand (dataEnd ≤ centralOffset) ((CartridgeError.new .entryOverlap
        "entry payload overlaps the central directory").atEntry central.name)
      let entries ← readLocalEntriesFrom centralOffset rest dataEnd
      return {
        name := central.name
        size := central.size
        crc32 := central.crc32
        dataOffset } :: entries

def readLocalEntries (centralEntries : List CentralEntry) (centralOffset : Nat) :
    ArchiveReader (List ArchiveEntry) :=
  readLocalEntriesFrom centralOffset centralEntries 0

/-- `inspect_canonical` — the structure of an archive of at most `maximumArchiveBytes`. -/
def inspectCanonical (medium : List UInt8) (maximumArchiveBytes : UInt64) :
    Except CartridgeError ArchiveIndex :=
  let archiveSize := medium.length
  if archiveSize > maximumArchiveBytes.toNat then
    .error (.new .archiveTooLarge "archive exceeds the configured byte limit")
  else if archiveSize < zip64EndBytes + zip64LocatorBytes + endBytes then
    .error (.new .archiveMalformed "archive is shorter than its required ZIP64 terminator")
  else do
    let inspect : ArchiveReader (List ArchiveEntry) := do
      let endOffset ← findEndRecord archiveSize
      let terminator ← readTerminator archiveSize endOffset
      let centralEntries ← readCentralEntries terminator.centralOffset terminator.centralSize
        terminator.entryCount
      readLocalEntries centralEntries terminator.centralOffset
    let (entries, _) ← inspect medium 0
    return { entries, archiveSize }

/-- `verify_entry` — the checksum of one indexed entry. -/
def verifyEntry (hasher : StreamingHash) (input : ByteStream) (entry : ArchiveEntry) :
    Except CartridgeError Unit :=
  match streamExactly hasher input copyBufferBytes
      ((CartridgeError.new .entrySizeMismatch
        "indexed entry ended before its declared size").atEntry entry.name)
      ((CartridgeError.new .entrySizeMismatch
        "entry read exceeds declared size").atEntry entry.name)
      entry.dataOffset entry.size hasher.start with
  | .error error => .error error
  | .ok (_, state) =>
      if (hasher.finish state).toNat ≠ entry.crc32 then
        .error ((CartridgeError.new .entryCrcMismatch
          "entry CRC-32 does not match").atEntry entry.name)
      else .ok ()

end LatentDeck.Archive
