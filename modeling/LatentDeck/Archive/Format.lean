import LatentDeck.Library.ByteFormat
import LatentDeck.Library.Streaming
import LatentDeck.Library.Text

/-!
# LC archive vocabulary

Constants, errors and entry names of the canonical LC 0.1 archive, which is a stored ZIP64 archive
of two or three entries. Names are strings whose bytes are their UTF-8 encoding. Errors carry the
source's code, entry location and text.
-/

namespace LatentDeck.Archive

open ByteFormat LittleEndian

def localHeaderSignature : Nat := 0x04034b50
def centralHeaderSignature : Nat := 0x02014b50
def zip64EndSignature : Nat := 0x06064b50
def zip64LocatorSignature : Nat := 0x07064b50
def endSignature : Nat := 0x06054b50
def zip64ExtraId : Nat := 0x0001
def zip64Version : Nat := 45
def versionMadeBy : Nat := 0x032d
def dosTime : Nat := 0
def dosDate : Nat := 0x0021
def zip64EndBytes : Nat := 56
def zip64LocatorBytes : Nat := 20
def endBytes : Nat := 22
def localZip64ExtraBytes : Nat := 20
def centralZip64ExtraBytes : Nat := 28
def copyBufferBytes : Nat := 64 * 1024
/-- `u16::MAX`. -/
def u16Max : Nat := 0xffff
/-- `u32::MAX`. -/
def u32Max : Nat := 0xffffffff

def gib : Nat := 1024 * 1024 * 1024
def mib : Nat := 1024 * 1024
def maxArchiveBytes : Nat := 16 * gib
def minArchiveEntries : Nat := 2
def maxArchiveEntries : Nat := 3
def maxManifestBytes : Nat := 1048576
def maxH3PayloadBytes : Nat := 15 * gib
def maxPreviewBytes : Nat := 16 * mib

def manifestName : String := "manifest.json"
def optionalPreviewName : String := "preview.webp"

/-- `ErrorCode` — the codes the readers of a cartridge report. -/
inductive ErrorCode where
  | ioRead
  | archiveTooLarge
  | archiveMalformed
  | zip64Required
  | archiveNoncanonical
  | entryCountInvalid
  | entryUnexpected
  | entryDuplicate
  | entryUnsafePath
  | entryEncrypted
  | entryCompressed
  | entryTooLarge
  | entrySizeMismatch
  | entryOverlap
  | archiveTrailingData
  | entryCrcMismatch
  | entryMissing
  | manifestTooLarge
  | manifestNotUtf8
  | manifestJsonInvalid
  | manifestDuplicateKey
  | manifestUnknownField
  | manifestInvalid
  | unsupportedSpecVersion
  | payloadHashMismatch
  | safetensorsHeaderTooLarge
  | safetensorsInvalid
  | tensorMissing
  | tensorUnexpected
  | tensorDescriptorMismatch
  | tensorDtypeForbidden
  | tensorShapeInvalid
  | tensorSizeOverflow
  | tensorNonFinite
  | unsupportedCodec
  | unsupportedProfileVersion
  | timingMismatch
  | decodedGeometryMismatch
  | runtimeLimitExceeded
  deriving DecidableEq

inductive Detail where
  | text (text : String)
  | invalidUtf8 (bytes : List UInt8)
  deriving DecidableEq

/-- `CartridgeError` — a code, a text and an optional location. -/
structure CartridgeError where
  code : ErrorCode
  entry : Option String
  detail : Detail
  tensor : Option String := none
  jsonPointer : Option String := none
  deriving DecidableEq

def CartridgeError.new (code : ErrorCode) (detail : String) : CartridgeError :=
  { code, entry := none, detail := .text detail }

def CartridgeError.atEntry (error : CartridgeError) (entry : String) : CartridgeError :=
  { error with entry := some entry }

def CartridgeError.atTensor (error : CartridgeError) (tensor : String) : CartridgeError :=
  { error with tensor := some tensor }

def CartridgeError.atJson (error : CartridgeError) (jsonPointer : String) : CartridgeError :=
  { error with jsonPointer := some jsonPointer }

/-- `read_error` — a failed read; here only the end of the medium. -/
def readError (detail : String) : CartridgeError := .new .ioRead detail

/-- `name.as_bytes()`. -/
def nameBytes (name : String) : List UInt8 := Text.utf8Bytes name

/-- `String::from_utf8`. -/
def fromUtf8 (bytes : List UInt8) : Option String := String.fromUTF8? ⟨bytes.toArray⟩

theorem fromUtf8_nameBytes (name : String) : fromUtf8 (nameBytes name) = some name := by
  unfold fromUtf8 nameBytes Text.utf8Bytes String.fromUTF8?
  exact dif_pos name.isValidUTF8

theorem nameBytes_fromUtf8 (bytes : List UInt8) (name : String)
    (decoded : fromUtf8 bytes = some name) : nameBytes name = bytes := by
  unfold fromUtf8 String.fromUTF8? at decoded
  split at decoded
  · cases decoded
    rfl
  · cases decoded

theorem fromUtf8_eq_some (bytes : List UInt8) (name : String) :
    fromUtf8 bytes = some name ↔ bytes = nameBytes name := by
  constructor
  · exact fun decoded => (nameBytes_fromUtf8 bytes name decoded).symm
  · rintro rfl
    exact fromUtf8_nameBytes name

/-- `validate_safe_name` — refuses names that could leave the archive's own tree. -/
def validateSafeName (name : String) : Except CartridgeError Unit :=
  let characters := name.toList
  let unsafeName :=
    characters.isEmpty
      || !characters.all (fun character => character.toNat < 0x80)
      || characters.head? == some '/'
      || characters.head? == some '\\'
      || characters.getLast? == some '/'
      || characters.contains '\\'
      || characters.contains ':'
      || (nameBytes name).any (fun byte => byte == 0 || byte < 0x20 || byte == 0x7f)
      || (characters.splitOn '/').any
        (fun component => component.isEmpty || component == ['.'] || component == ['.', '.'])
  if unsafeName then
    .error ((CartridgeError.new .entryUnsafePath "entry path is unsafe").atEntry name)
  else .ok ()

/-- `payloads/`. -/
def payloadPrefix : List Char := "payloads/".toList
/-- `.safetensors`. -/
def payloadSuffix : List Char := ".safetensors".toList

def payloadCharacter (character : Char) : Bool :=
  character.isLower || character.isDigit || character == '.' || character == '_' ||
    character == '-'

/-- `is_payload_name` — `payloads/<identifier>.safetensors`. -/
def isPayloadName (name : String) : Bool :=
  let characters := name.toList
  payloadPrefix.isPrefixOf characters &&
  (let value := characters.drop payloadPrefix.length
   payloadSuffix.isSuffixOf value &&
   (let payloadId := value.take (value.length - payloadSuffix.length)
    let length := (String.ofList payloadId).utf8ByteSize
    1 ≤ length && length ≤ 128 &&
      payloadId.all (fun character => character.toNat < 0x80) &&
      payloadId.all payloadCharacter &&
      payloadId.head?.any (·.isAlphanum) &&
      payloadId.getLast?.any (·.isAlphanum)))

/-- `validate_entry_order` — the canonical names in the canonical order. -/
def validateEntryOrder (names : List String) : Except CartridgeError Unit :=
  let valid :=
    match names with
    | [manifest, payload] => manifest == manifestName && isPayloadName payload
    | [manifest, payload, preview] =>
        manifest == manifestName && isPayloadName payload && preview == optionalPreviewName
    | _ => false
  if valid then .ok ()
  else .error (.new .entryUnexpected "entries must use the canonical LC 0.1 names and order")

/-- `validate_entry_size` — the immutable limit of each kind of entry. -/
def validateEntrySize (name : String) (size : Nat) : Except CartridgeError Unit :=
  let maximum :=
    if name = manifestName then some maxManifestBytes
    else if name = optionalPreviewName then some maxPreviewBytes
    else if isPayloadName name then some maxH3PayloadBytes
    else none
  match maximum with
  | none =>
      .error ((CartridgeError.new .entryUnexpected "entry is not part of LC 0.1").atEntry name)
  | some maximum =>
      if size > maximum then
        .error ((CartridgeError.new .entryTooLarge
          "entry exceeds its immutable limit").atEntry name)
      else .ok ()

/-- `name.to_ascii_lowercase()`. -/
def asciiLowercase (name : String) : List Char := name.toList.map Char.toLower

example : isPayloadName "payloads/h3.safetensors" = true := by decide
example : validateSafeName "payloads/../h3" =
    .error ((CartridgeError.new .entryUnsafePath "entry path is unsafe").atEntry
      "payloads/../h3") := by decide

end LatentDeck.Archive
