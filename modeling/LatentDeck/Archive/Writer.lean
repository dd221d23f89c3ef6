import LatentDeck.Archive.Format
import LatentDeck.Library.Fallible

/-!
# Writing the canonical archive

`write_canonical` and the record writers it calls. Each record writer returns the bytes it
appends; the position of the output is the length of what has been written. Writing to the output
cannot fail here, so every error is one the source itself decides.
-/

namespace LatentDeck.Archive

open LittleEndian Streaming Checked Fallible

/-- `EntryWrite` — one source entry with its declared size and checksum. -/
structure EntryWrite where
  name : String
  /-- `size` — the declared length. -/
  size : UInt64
  /-- `crc32` — the declared checksum. -/
  crc32 : UInt32
  reader : ByteStream

/-- `WrittenEntry` and `CentralEntry` — what a central record says of an entry. -/
structure CentralEntry where
  name : String
  size : Nat
  crc32 : Nat
  /-- `local_offset` — where the local header starts. -/
  localOffset : Nat

/-- `name_length` — the name's length as a 16-bit field. -/
def nameLength (name : String) : Except CartridgeError Nat :=
  if (nameBytes name).length < 2 ^ 16 then .ok (nameBytes name).length
  else .error ((CartridgeError.new .entryUnsafePath "entry name exceeds the ZIP limit").atEntry name)

/-- The name check of `validate_write_entries` against the names before it. -/
def validateDistinct : List String → List (List Char) → Except CartridgeError Unit
  | [], _ => .ok ()
  | name :: names, folded =>
      if folded.contains (asciiLowercase name) then
        .error ((CartridgeError.new .entryDuplicate "archive entry names collide").atEntry name)
      else validateDistinct names (asciiLowercase name :: folded)

/-- `validate_write_entries` — the names, order and sizes of the requested entries. -/
def validateWriteEntries (entries : List EntryWrite) : Except CartridgeError Unit :=
  if ¬ (minArchiveEntries ≤ entries.length ∧ entries.length ≤ maxArchiveEntries) then
    .error (.new .entryCountInvalid "LC 0.1 requires two entries and permits one optional preview")
  else do
    checkEach (fun entry => validateSafeName entry.name) entries
    validateDistinct (entries.map EntryWrite.name) []
    validateEntryOrder (entries.map EntryWrite.name)
    checkEach (fun entry => validateEntrySize entry.name entry.size.toNat) entries

/-- The bytes of `write_local_header` for a name of a given length. -/
def localHeaderRecord (name : String) (length size crc32 : Nat) : List UInt8 :=
  leBytes 4 localHeaderSignature ++ (leBytes 2 zip64Version ++ (leBytes 2 0 ++
    (leBytes 2 0 ++ (leBytes 2 dosTime ++ (leBytes 2 dosDate ++ (leBytes 4 crc32 ++
    (leBytes 4 u32Max ++ (leBytes 4 u32Max ++ (leBytes 2 length ++
    (leBytes 2 localZip64ExtraBytes ++ (nameBytes name ++ (leBytes 2 zip64ExtraId ++
    (leBytes 2 16 ++ (leBytes 8 size ++ leBytes 8 size))))))))))))))

def writeLocalHeader (name : String) (size crc32 : Nat) : Except CartridgeError (List UInt8) := do
  let length ← nameLength name
  return localHeaderRecord name length size crc32

/-- The bytes of `write_central_header` for a name of a given length. -/
def centralHeaderRecord (entry : CentralEntry) (length : Nat) : List UInt8 :=
  leBytes 4 centralHeaderSignature ++ (leBytes 2 versionMadeBy ++
    (leBytes 2 zip64Version ++ (leBytes 2 0 ++ (leBytes 2 0 ++ (leBytes 2 dosTime ++
    (leBytes 2 dosDate ++ (leBytes 4 entry.crc32 ++ (leBytes 4 u32Max ++ (leBytes 4 u32Max ++
    (leBytes 2 length ++ (leBytes 2 centralZip64ExtraBytes ++ (leBytes 2 0 ++ (leBytes 2 0 ++
    (leBytes 2 0 ++ (leBytes 4 0 ++ (leBytes 4 u32Max ++ (nameBytes entry.name ++
    (leBytes 2 zip64ExtraId ++ (leBytes 2 24 ++ (leBytes 8 entry.size ++ (leBytes 8 entry.size ++
    leBytes 8 entry.localOffset)))))))))))))))))))))

def writeCentralHeader (entry : CentralEntry) : Except CartridgeError (List UInt8) := do
  let length ← nameLength entry.name
  return centralHeaderRecord entry length

/-- The ZIP64 end record of `write_zip64_terminator`. -/
def zip64EndRecord (entryCount centralSize centralOffset : Nat) : List UInt8 :=
  leBytes 4 zip64EndSignature ++ (leBytes 8 44 ++ (leBytes 2 versionMadeBy ++
    (leBytes 2 zip64Version ++ (leBytes 4 0 ++ (leBytes 4 0 ++ (leBytes 8 entryCount ++
    (leBytes 8 entryCount ++ (leBytes 8 centralSize ++ leBytes 8 centralOffset))))))))

/-- The ZIP64 locator of `write_zip64_terminator`. -/
def zip64Locator (zip64EndOffset : Nat) : List UInt8 :=
  leBytes 4 zip64LocatorSignature ++ (leBytes 4 0 ++ (leBytes 8 zip64EndOffset ++ leBytes 4 1))

/-- The classic end record of `write_zip64_terminator`. -/
def endRecord : List UInt8 :=
  leBytes 4 endSignature ++ (leBytes 2 0 ++ (leBytes 2 0 ++ (leBytes 2 u16Max ++
    (leBytes 2 u16Max ++ (leBytes 4 u32Max ++ (leBytes 4 u32Max ++ leBytes 2 0))))))

def writeZip64Terminator (entryCount centralSize centralOffset : Nat) :
    Except CartridgeError (List UInt8) :=
  match checkedAdd centralOffset centralSize with
  | none => .error (.new .archiveMalformed "archive offset overflow")
  | some zip64EndOffset =>
      .ok (zip64EndRecord entryCount centralSize centralOffset ++
        (zip64Locator zip64EndOffset ++ endRecord))

/-- `copy_entry` — the entry's bytes, checked against its declared size and checksum. -/
def copyEntry (hasher : StreamingHash) (entry : EntryWrite) :
    Except CartridgeError (List UInt8) :=
  match streamExactly hasher entry.reader copyBufferBytes
      ((CartridgeError.new .entrySizeMismatch
        "source ended before its declared size").atEntry entry.name)
      ((CartridgeError.new .entrySizeMismatch
        "source read exceeds declared size").atEntry entry.name)
      0 entry.size.toNat hasher.start with
  | .error error => .error error
  | .ok (bytes, state) =>
      if (entry.reader.read entry.size.toNat 1).length ≠ 0 then
        .error ((CartridgeError.new .entrySizeMismatch
          "source contains bytes beyond its declared size").atEntry entry.name)
      else if hasher.finish state ≠ entry.crc32 then
        .error ((CartridgeError.new .entryCrcMismatch "source CRC-32 changed").atEntry entry.name)
      else .ok bytes

/-- The entry loop of `write_canonical`. -/
def writeEntries (hasher : StreamingHash) :
    List EntryWrite → List UInt8 → List CentralEntry →
      Except CartridgeError (List UInt8 × List CentralEntry)
  | [], output, written => .ok (output, written)
  | entry :: entries, output, written => do
      let header ← writeLocalHeader entry.name entry.size.toNat entry.crc32.toNat
      let data ← copyEntry hasher entry
      writeEntries hasher entries (output ++ (header ++ data)) (written ++ [{
        name := entry.name
        size := entry.size.toNat
        crc32 := entry.crc32.toNat
        localOffset := output.length }])

/-- The central directory loop of `write_canonical`. -/
def writeCentralHeaders : List CentralEntry → List UInt8 → Except CartridgeError (List UInt8)
  | [], output => .ok output
  | entry :: entries, output => do
      let header ← writeCentralHeader entry
      writeCentralHeaders entries (output ++ header)

/-- `write_canonical` — the only archive representation accepted by LC 0.1. -/
def writeCanonical (hasher : StreamingHash) (initialPosition : Nat) (entries : List EntryWrite) :
    Except CartridgeError (List UInt8) := do
  validateWriteEntries entries
  if initialPosition ≠ 0 then
    .error (.new .archiveNoncanonical "canonical archive output must begin at byte zero")
  else
    let (output, written) ← writeEntries hasher entries [] []
    let centralOffset := output.length
    let output ← writeCentralHeaders written output
    match checkedSub output.length centralOffset with
    | none => .error (.new .archiveMalformed "central directory underflow")
    | some centralSize =>
        let terminator ← writeZip64Terminator written.length centralSize centralOffset
        return output ++ terminator

end LatentDeck.Archive
