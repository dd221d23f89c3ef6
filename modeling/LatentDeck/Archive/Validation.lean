import LatentDeck.Archive.Access
import LatentDeck.Archive.Preview
import LatentDeck.Archive.Profile

/-!
# Opening cartridges

The two readers of a cartridge. The integrity reader checks what every cartridge has in common;
the full reader also checks the H3 profile. Both inspect the structure first, then verify the
checksums, the digests and that every tensor value is finite.
-/

namespace LatentDeck.Archive

open Checked Fallible Streaming

/-- The parts of other crates that the readers rest on. -/
structure CartridgeDecoder extends HeaderDecoder, ManifestDecoder where
  /-- The SHA-256 digest of a byte string. -/
  sha256 : List UInt8 → Sha256Hash
  checksum : StreamingHash

def findEntry (archive : ArchiveIndex) (name : String) : Except CartridgeError ArchiveEntry :=
  orError (archive.entries.find? fun entry => entry.name = name)
    ((CartridgeError.new .entryMissing "required archive entry is missing").atEntry name)

def readEntryBytes (medium : List UInt8) (entry : ArchiveEntry) :
    Except CartridgeError (List UInt8) := do
  refuseWhen (entry.dataOffset + entry.size > medium.length)
    ((CartridgeError.new .ioRead "cannot read complete archive entry").atEntry entry.name)
  return (medium.drop entry.dataOffset).take entry.size

def hashEntry (decoder : CartridgeDecoder) (medium : List UInt8) (entry : ArchiveEntry) :
    Except CartridgeError MeasuredHash := do
  let measured := hashReader decoder.sha256 ((medium.drop entry.dataOffset).take entry.size)
  refuseWhen (measured.byteLength ≠ entry.size)
    ((CartridgeError.new .entrySizeMismatch
      "entry ended before its indexed size").atEntry entry.name)
  return measured

def ArchiveEntry.range (entry : ArchiveEntry) : EntryRange := ⟨entry.dataOffset, entry.size⟩

/-- The preview part of both descriptor checks. -/
def validatePreviewEntry (archive : ArchiveIndex) (manifest : ManifestV0_1) :
    Except CartridgeError Unit :=
  match manifest.preview, archive.entries.find? (fun entry => entry.name = optionalPreviewName) with
  | none, none => .ok ()
  | some preview, some entry =>
      refuseWhen (¬ (preview.path = optionalPreviewName ∧ preview.mediaType = "image/webp" ∧
          preview.byteLength = entry.size))
        (manifestError .manifestInvalid
          "preview descriptor does not match its archive entry" "/preview")
  | some _, none =>
      .error ((CartridgeError.new .entryMissing
        "manifest declares a preview but the entry is missing").atEntry optionalPreviewName)
  | none, some _ =>
      .error ((CartridgeError.new .entryUnexpected
        "preview entry has no manifest descriptor").atEntry optionalPreviewName)

def validateArchiveDescriptors (archive : ArchiveIndex) (manifest : ManifestV0_1) :
    Except CartridgeError Unit := do
  let payload ← onlyPayload manifest
  let mismatch := manifestError .tensorDescriptorMismatch
    "H3 payload descriptor does not match the archive entry" "/payloads/0"
  refuseWhen (payload.path ≠ h3EntryName ∨ payload.mediaType ≠ payloadMediaType) mismatch
  let entry ← findEntry archive h3EntryName
  refuseWhen (entry.size ≠ payload.byteLength) mismatch
  validatePreviewEntry archive manifest

def validateIntegrityArchiveDescriptors (archive : ArchiveIndex) (manifest : ManifestV0_1) :
    Except CartridgeError Unit := do
  let payload ← onlyPayload manifest
  let entry ← findEntry archive payload.path
  refuseWhen (payload.mediaType ≠ payloadMediaType ∨ entry.size ≠ payload.byteLength)
    (manifestError .tensorDescriptorMismatch
      "payload descriptor does not match the archive entry" "/payloads/0")
  validatePreviewEntry archive manifest

def SafetensorDType.manifestDType : SafetensorDType → DType
  | .f16 => .f16
  | .f32 => .f32

/-- The descriptor loop of `crosscheck_integrity_tensor_descriptors`. -/
def crosscheckIntegrityTensors (payloadPath : String)
    (tensors : SortedMap String SafetensorTensorDescriptor) :
    List TensorDescriptor → List String → Except CartridgeError Unit
  | [], _ => .ok ()
  | descriptor :: descriptors, names => do
      refuseWhen (names.contains descriptor.name)
        (tensorError .tensorUnexpected "manifest tensor name is duplicated" descriptor.name)
      let header ← orError (tensors.lookup descriptor.name)
        (tensorError .tensorDescriptorMismatch
          "manifest tensor is absent from the Safetensors header" descriptor.name)
      refuseWhen (descriptor.payload ≠ payloadPath ∨
          descriptor.storageDtype ≠ header.dtype.manifestDType ∨ descriptor.shape ≠ header.shape)
        (tensorError .tensorDescriptorMismatch
          "manifest tensor does not match the Safetensors header" descriptor.name)
      crosscheckIntegrityTensors payloadPath tensors descriptors (descriptor.name :: names)

def crosscheckIntegrityTensorDescriptors (manifest : List TensorDescriptor) (payloadPath : String)
    (payload : SafetensorsPreflight) : Except CartridgeError Unit := do
  refuseWhen (manifest.length ≠ payload.tensors.length)
    (manifestError .tensorDescriptorMismatch
      "manifest and Safetensors tensor counts differ" "/tensors")
  crosscheckIntegrityTensors payloadPath payload.tensors manifest []

def exactlyOneManifestTensor (tensors : List TensorDescriptor) (stream : TensorStream)
    (name : String) : Except CartridgeError TensorDescriptor :=
  exactlyOne tensors stream name (tensorError .tensorMissing "manifest tensor is missing" name)
    (tensorError .tensorUnexpected "manifest tensor is duplicated" name)

def crosscheckTensor (manifest : TensorDescriptor) (header : SafetensorTensorDescriptor) :
    Except CartridgeError Unit :=
  refuseWhen (manifest.name ≠ header.name ∨ manifest.payload ≠ h3EntryName ∨
      manifest.storageDtype ≠ header.dtype.manifestDType ∨ manifest.shape ≠ header.shape)
    (tensorError .tensorDescriptorMismatch
      "manifest tensor does not match the Safetensors header" header.name)

def crosscheckTensorDescriptors (manifest : List TensorDescriptor)
    (payload : H3SafetensorsPreflight) : Except CartridgeError Unit := do
  let visual ← exactlyOneManifestTensor manifest .visual "video"
  crosscheckTensor visual payload.video
  match audioTensor manifest, payload.audio with
  | none, none => .ok ()
  | some descriptor, some header => crosscheckTensor descriptor header
  | _, _ => .error (tensorError .tensorDescriptorMismatch
      "manifest and Safetensors audio presence differ" "audio")

/-- `IntegrityInspection`, with the index of its archive. -/
structure IntegrityInspection where
  archive : ArchiveIndex
  validationLevel : ValidationLevel
  archiveSize : Nat
  manifest : ManifestV0_1
  safetensors : SafetensorsPreflight

/-- `CartridgeInspection`, with the index of its archive. -/
structure CartridgeInspection where
  archive : ArchiveIndex
  validationLevel : ValidationLevel
  archiveSize : Nat
  manifest : ManifestV0_1
  h3Profile : ValidatedH3Profile
  safetensors : H3SafetensorsPreflight

/-- The manifest of an archive, which must be canonical JSON. -/
def readManifest (decoder : CartridgeDecoder) (medium : List UInt8) (archive : ArchiveIndex)
    (limits : ValidationLimits) : Except CartridgeError ManifestV0_1 := do
  let manifestEntry ← findEntry archive manifestName
  let manifestBytes ← readEntryBytes medium manifestEntry
  let manifest ← parseManifestJson decoder.toManifestDecoder manifestBytes limits
  let canonical ← canonicalManifestBytes decoder.toManifestDecoder manifest
  refuseWhen (canonical ≠ manifestBytes)
    ((CartridgeError.new .manifestInvalid
      "manifest.json is not RFC 8785 canonical JSON").atEntry manifestName)
  return manifest

def inspectPreview (medium : List UInt8) (archive : ArchiveIndex) (manifest : ManifestV0_1) :
    Except CartridgeError Unit :=
  match manifest.preview with
  | none => .ok ()
  | some preview => do
      let previewEntry ← findEntry archive optionalPreviewName
      let previewBytes ← readEntryBytes medium previewEntry
      let info ← inspectWebp previewBytes
      refuseWhen (info.width ≠ preview.width ∨ info.height ≠ preview.height)
        (((CartridgeError.new .manifestInvalid
          "preview dimensions do not match its manifest descriptor").atEntry
            optionalPreviewName).atJson "/preview")

def inspectIntegrityFile (decoder : CartridgeDecoder) (medium : List UInt8)
    (limits : ValidationLimits) : Except CartridgeError IntegrityInspection := do
  let archive ← inspectCanonical medium (UInt64.ofNat maxArchiveBytes)
  let manifest ← readManifest decoder medium archive limits
  validateIntegrityArchiveDescriptors archive manifest
  let payload ← onlyPayload manifest
  let payloadEntry ← findEntry archive payload.path
  let safetensors ← preflightSafetensors decoder.toHeaderDecoder medium payloadEntry.range
    payload.path limits
  crosscheckIntegrityTensorDescriptors manifest.tensors payload.path safetensors
  inspectPreview medium archive manifest
  return {
    archive
    validationLevel := .structureOnly
    archiveSize := archive.archiveSize
    manifest
    safetensors }

def inspectFile (decoder : CartridgeDecoder) (medium : List UInt8) (limits : ValidationLimits) :
    Except CartridgeError CartridgeInspection := do
  let archive ← inspectCanonical medium (UInt64.ofNat maxArchiveBytes)
  let manifest ← readManifest decoder medium archive limits
  validateArchiveDescriptors archive manifest
  let h3Profile ← validateProfile decoder.toManifestDecoder manifest limits
  let payloadEntry ← findEntry archive h3EntryName
  let safetensors ← preflightH3Safetensors decoder.toHeaderDecoder medium payloadEntry.range limits
  crosscheckTensorDescriptors manifest.tensors safetensors
  inspectPreview medium archive manifest
  return {
    archive
    validationLevel := .structureOnly
    archiveSize := archive.archiveSize
    manifest
    h3Profile
    safetensors }

/-- The digest check of the payload in both readers. -/
def verifyPayloadHash (decoder : CartridgeDecoder) (medium : List UInt8) (entry : ArchiveEntry)
    (payload : PayloadDescriptor) (entryName detail : String) :
    Except CartridgeError MeasuredHash := do
  let measured ← hashEntry decoder medium entry
  let expected ← (Sha256Hash.parse payload.sha256).mapError fun error =>
    error.atJson "/payloads/0/sha256"
  refuseWhen (measured.byteLength ≠ payload.byteLength ∨ measured.sha256 ≠ expected)
    ((CartridgeError.new .payloadHashMismatch detail).atEntry entryName)
  return measured

/-- `validate_preview_hash`; the full reader has the same check in its body. -/
def validatePreviewHash (decoder : CartridgeDecoder) (medium : List UInt8)
    (archive : ArchiveIndex) (manifest : ManifestV0_1) : Except CartridgeError Unit :=
  match manifest.preview with
  | none => .ok ()
  | some preview => do
      let previewEntry ← findEntry archive optionalPreviewName
      let measured ← hashEntry decoder medium previewEntry
      let expected ← (Sha256Hash.parse preview.sha256).mapError fun error =>
        error.atJson "/preview/sha256"
      refuseWhen (measured.byteLength ≠ preview.byteLength ∨ measured.sha256 ≠ expected)
        ((CartridgeError.new .payloadHashMismatch
          "preview bytes do not match the manifest").atEntry optionalPreviewName)

/-- What `open_integrity_validated` has established when it turns to the access receipt. -/
structure IntegrityEvidence where
  inspection : IntegrityInspection
  receipt : IntegrityValidationReceipt
  manifestEntry : ArchiveEntry
  manifestSha256 : Sha256Hash
  payloadEntry : ArchiveEntry

/-- `open_integrity_validated` up to the access receipt. -/
def collectIntegrityEvidence (decoder : CartridgeDecoder) (file : ByteStream)
    (limits : ValidationLimits) : Except CartridgeError IntegrityEvidence := do
  let inspection ← inspectIntegrityFile decoder file.bytes limits
  checkEach (verifyEntry decoder.checksum file) inspection.archive.entries
  let payload ← onlyPayload inspection.manifest
  let payloadEntry ← findEntry inspection.archive payload.path
  scanSafetensorsFinite file.bytes payloadEntry.range payload.path inspection.safetensors
  let measuredPayload ← verifyPayloadHash decoder file.bytes payloadEntry payload payload.path
    "payload bytes do not match the manifest"
  validatePreviewHash decoder file.bytes inspection.archive inspection.manifest
  let archiveHash := hashReader decoder.sha256 file.bytes
  let tensorStorageBytes ← orError
    (checkedSum (inspection.safetensors.tensors.values.map (·.byteLength)))
    (sizeOverflowAt payload.path "tensor storage byte count overflows u64")
  let manifestEntry ← findEntry inspection.archive manifestName
  let manifestBytes ← canonicalManifestBytes decoder.toManifestDecoder inspection.manifest
  return {
    inspection
    receipt := {
      validationLevel := .full
      archiveBytes := archiveHash.byteLength
      archiveSha256 := archiveHash.sha256
      payloadPath := payload.path
      payloadBytes := measuredPayload.byteLength
      payloadSha256 := measuredPayload.sha256
      tensorStorageBytes }
    manifestEntry
    manifestSha256 := (hashReader decoder.sha256 manifestBytes).sha256
    payloadEntry }

/-- The access receipt of the collected evidence. -/
def IntegrityEvidence.accessReceipt (evidence : IntegrityEvidence) :
    Except CartridgeError IntegrityAccessReceipt :=
  fromValidatedParts evidence.receipt evidence.manifestEntry evidence.manifestSha256
    evidence.payloadEntry evidence.inspection.safetensors

structure IntegrityValidatedCartridge where
  file : List UInt8
  archive : ArchiveIndex
  manifest : ManifestV0_1
  safetensors : SafetensorsPreflight
  receipt : IntegrityValidationReceipt
  accessReceipt : IntegrityAccessReceipt

def openIntegrityValidated (decoder : CartridgeDecoder) (file : ByteStream)
    (limits : ValidationLimits) : Except CartridgeError IntegrityValidatedCartridge := do
  let evidence ← collectIntegrityEvidence decoder file limits
  let accessReceipt ← evidence.accessReceipt
  return {
    file := file.bytes
    archive := evidence.inspection.archive
    manifest := evidence.inspection.manifest
    safetensors := evidence.inspection.safetensors
    receipt := evidence.receipt
    accessReceipt }

structure ValidationReceipt where
  validationLevel : ValidationLevel
  archiveBytes : Nat
  archiveSha256 : Sha256Hash
  payloadBytes : Nat
  payloadSha256 : Sha256Hash
  visualRuntimeBytes : Nat

structure ValidatedCartridge where
  file : List UInt8
  archive : ArchiveIndex
  manifest : ManifestV0_1
  h3Profile : ValidatedH3Profile
  safetensors : H3SafetensorsPreflight
  receipt : ValidationReceipt

def openValidated (decoder : CartridgeDecoder) (file : ByteStream) (limits : ValidationLimits) :
    Except CartridgeError ValidatedCartridge := do
  let inspection ← inspectFile decoder file.bytes limits
  checkEach (verifyEntry decoder.checksum file) inspection.archive.entries
  let payloadEntry ← findEntry inspection.archive h3EntryName
  scanH3SafetensorsFinite file.bytes payloadEntry.range inspection.safetensors
  let payload ← onlyPayload inspection.manifest
  let measuredPayload ← verifyPayloadHash decoder file.bytes payloadEntry payload h3EntryName
    "H3 payload bytes do not match the manifest"
  validatePreviewHash decoder file.bytes inspection.archive inspection.manifest
  let archiveHash := hashReader decoder.sha256 file.bytes
  let runtimeElements ← orError (checkedProduct inspection.safetensors.video.shape)
    (tensorError .tensorSizeOverflow "visual runtime element count overflows u64" "video")
  let visualRuntimeBytes ← orError (checkedMul runtimeElements 2)
    (tensorError .tensorSizeOverflow "visual runtime byte estimate overflows u64" "video")
  return {
    file := file.bytes
    archive := inspection.archive
    manifest := inspection.manifest
    h3Profile := inspection.h3Profile
    safetensors := inspection.safetensors
    receipt := {
      validationLevel := .full
      archiveBytes := archiveHash.byteLength
      archiveSha256 := archiveHash.sha256
      payloadBytes := measuredPayload.byteLength
      payloadSha256 := measuredPayload.sha256
      visualRuntimeBytes } }

end LatentDeck.Archive
