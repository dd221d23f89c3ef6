import LatentDeck.Control.Messages

/-!
# Codec SDK contracts

The values that a codec adapter and the worker exchange, and the checks that the Codec SDK makes on
them. A check raises a stable code. What the platform decides about a text (an absolute path, a
Python identifier, canonical JSON) and which Torch build is installed is a parameter.
-/

namespace LatentDeck.CodecHost

open Text Fallible
open Control (Uuid Capability ErrorCode Float64Bits)

/-- `WorkerRuntimeError` — a bounded, stable Protocol 2 runtime failure. -/
structure WorkerRuntimeError where
  code : ErrorCode
  detail : String
  retryable : Bool
  fatal : Bool
  details : List (String × String)
  deriving DecidableEq

/-- An exception that a command may end with. -/
inductive Raised where
  /-- A `WorkerRuntimeError`. -/
  | runtime (error : WorkerRuntimeError)
  /-- A `CodecSdkError` with its code. -/
  | sdk (code : String)
  /-- A `DeckContractError` with its code. -/
  | deckContract (code : String)
  /-- Any other `Exception`. -/
  | other
  deriving DecidableEq

/-- The longest prefix of whole characters within a number of UTF-8 bytes:
`encoded[:limit].decode(errors="ignore")`. -/
def takeUtf8 (limit : Nat) : List Char → List Char
  | [] => []
  | character :: characters =>
      if character.utf8Size ≤ limit then
        character :: takeUtf8 (limit - character.utf8Size) characters
      else []

def maxErrorMessageBytes : Nat := 4096

def boundedErrorText (value : String) : String :=
  if value.isEmpty then "runtime operation failed"
  else
    let text := String.ofList (value.toList.filter (· ≠ '\x00'))
    if text.utf8ByteSize ≤ maxErrorMessageBytes then text
    else
      let kept := String.ofList (takeUtf8 maxErrorMessageBytes text.toList)
      if kept.isEmpty then "runtime operation failed" else kept

/-- `_identifier` — between 1 and 128 bytes of identifier characters. -/
def isIdentifier (value : String) : Bool :=
  !value.isEmpty && value.utf8ByteSize ≤ Control.maxIdentifierBytes &&
    (utf8Bytes value).all Control.identifierByte

/-- `_version` — between 1 and 64 bytes of version characters. -/
def isVersion (value : String) : Bool :=
  !value.isEmpty && value.utf8ByteSize ≤ Control.maxVersionBytes &&
    (utf8Bytes value).all Control.versionByte

/-- `_sha256` — 64 lowercase hexadecimal digits. -/
def isSha256 (value : String) : Bool :=
  value.utf8ByteSize == 64 && (utf8Bytes value).all isLowerHex

def boundedDetails (values : List (String × String)) : List (String × String) :=
  ((values.take Control.maxErrorDetails).filter fun entry => isIdentifier entry.1).map
    fun entry => (entry.1, boundedErrorText entry.2)

/-- `WorkerRuntimeError(code, detail)`. -/
def runtimeError (code : ErrorCode) (detail : String) : Raised :=
  .runtime ⟨code, boundedErrorText detail, false, false, []⟩

/-- `WorkerRuntimeError(code, detail, details={"extension_code": …})`. -/
def extensionError (code : ErrorCode) (detail extensionCode : String) : WorkerRuntimeError :=
  ⟨code, boundedErrorText detail, false, false, boundedDetails [("extension_code", extensionCode)]⟩

/-- What the interpreter and its platform decide. -/
structure Platform where
  /-- `os.path.isabs`. -/
  isAbsolute : String → Bool
  /-- `str.isidentifier`. -/
  isPythonIdentifier : String → Bool
  /-- The text is what `json.dumps` makes, with sorted keys, of the object it parses to. -/
  isCanonicalJsonObject : String → Bool
  /-- `torch.__version__`, when the module can be imported. -/
  torch : Option String

abbrev SdkChecked := Except Raised Unit

def sdkRefuse (condition : Prop) [Decidable condition] (code : String) : SdkChecked :=
  if condition then .error (.sdk code) else .ok ()

/-- `_uuid`. -/
def sdkUuid (value : Uuid) : SdkChecked := sdkRefuse value.isNil "identity.invalid"

/-- `_identifier`. -/
def sdkIdentifier (value : String) : SdkChecked :=
  sdkRefuse (¬ isIdentifier value) "identity.invalid"

/-- `_version`. -/
def sdkVersion (value : String) : SdkChecked := sdkRefuse (¬ isVersion value) "version.invalid"

/-- `_sha256`. -/
def sdkSha256 (value : String) : SdkChecked := sdkRefuse (¬ isSha256 value) "hash.invalid"

/-- `_positive` without a maximum. -/
def sdkPositive (value : Int) : SdkChecked := sdkRefuse (value ≤ 0) "value.invalid"

/-- `_positive` with a maximum. -/
def sdkPositiveUpTo (value maximum : Int) : SdkChecked := do
  sdkPositive value
  sdkRefuse (maximum < value) "value.out_of_range"

/-- `_absolute_path`. -/
def sdkAbsolutePath (platform : Platform) (value field : String) : SdkChecked :=
  sdkRefuse (value.isEmpty ∨ Control.maxPathBytes < value.utf8ByteSize ∨
      value.toList.contains '\x00' ∨ ¬ platform.isAbsolute value) field

/-- A relative archive entry without empty, current or parent components. -/
def isArchiveEntry (value : String) : Bool :=
  let characters := value.toList
  !value.isEmpty && value.utf8ByteSize ≤ 512 && !characters.contains '\\' &&
    characters.head? != some '/' && characters.getLast? != some '/' &&
    !(characters.splitOn '/').any
      (fun part => part.isEmpty || part == ['.'] || part == ['.', '.']) &&
    !characters.contains ':'

structure ProfileKey where
  codecFamily : String
  profile : String
  profileVersion : String
  deriving DecidableEq

def ProfileKey.validate (key : ProfileKey) : SdkChecked := do
  sdkIdentifier key.codecFamily
  sdkIdentifier key.profile
  sdkVersion key.profileVersion

structure SignalGeometry where
  channels : Int
  latentHeight : Int
  latentWidth : Int
  decodedHeight : Int
  decodedWidth : Int
  frameRateNumerator : Int
  frameRateDenominator : Int
  timingContract : String
  timingContractVersion : String
  deriving DecidableEq

def SignalGeometry.validate (geometry : SignalGeometry) : SdkChecked := do
  checkEach sdkPositive [geometry.channels, geometry.latentHeight, geometry.latentWidth,
    geometry.decodedHeight, geometry.decodedWidth, geometry.frameRateNumerator,
    geometry.frameRateDenominator]
  sdkIdentifier geometry.timingContract
  sdkVersion geometry.timingContractVersion

structure TensorAbi where
  pythonVersion : String
  torchVersion : String
  dtype : String
  shape : List Int
  device : String
  contiguous : Bool
  deriving DecidableEq

/-- A tensor shape `[1, C, 1, H, W]` with positive dimensions. -/
def isLatentShape (shape : List Int) : Bool :=
  shape.length == 5 && shape[0]? == some 1 && shape[2]? == some 1 && shape.all (0 < ·)

def TensorAbi.validate (abi : TensorAbi) : SdkChecked := do
  sdkRefuse (abi.pythonVersion ≠ "3.13") "tensor.python_abi"
  sdkVersion abi.torchVersion
  sdkRefuse (abi.dtype ∉ ["float16", "bfloat16", "float32"]) "tensor.dtype"
  sdkRefuse (¬ isLatentShape abi.shape) "tensor.shape"
  sdkRefuse (abi.device ∉ ["cpu", "cuda"]) "tensor.device"
  sdkRefuse (¬ abi.contiguous) "tensor.contiguous"

structure DecodedAbi where
  pixelFormat : String
  maximumBatch : Int

def DecodedAbi.validate (abi : DecodedAbi) : SdkChecked := do
  sdkRefuse (abi.pixelFormat ≠ "rgba8") "decoded.pixel_format"
  sdkPositiveUpTo abi.maximumBatch 24

structure CodecDescriptor where
  packId : String
  packVersion : String
  adapterId : String
  adapterVersion : String
  hostApiVersion : String
  capabilities : List Capability
  profiles : List ProfileKey

/-- The profile loop of `CodecDescriptor.validate`. -/
def validateProfiles : List ProfileKey → List ProfileKey → SdkChecked
  | _, [] => .ok ()
  | seen, profile :: profiles => do
      profile.validate
      sdkRefuse (profile ∈ seen) "codec.profile_duplicate"
      validateProfiles (profile :: seen) profiles

def CodecDescriptor.validate (descriptor : CodecDescriptor) : SdkChecked := do
  sdkIdentifier descriptor.packId
  sdkVersion descriptor.packVersion
  sdkIdentifier descriptor.adapterId
  sdkVersion descriptor.adapterVersion
  sdkRefuse (descriptor.hostApiVersion ≠ "2.0") "codec.host_api"
  sdkRefuse (¬ descriptor.capabilities.Nodup) "codec.capability_duplicate"
  sdkRefuse (¬ Capability.requiredCodecV2.all (descriptor.capabilities.contains ·))
    "codec.capability_missing"
  sdkRefuse (descriptor.profiles.isEmpty ∨ 64 < descriptor.profiles.length) "codec.profiles"
  validateProfiles [] descriptor.profiles

structure ProfileInspection where
  cartridgeId : Uuid
  archiveSha256 : String
  payloadSha256 : String
  profileKey : ProfileKey
  signalGeometry : SignalGeometry

def ProfileInspection.validate (inspection : ProfileInspection) : SdkChecked := do
  sdkUuid inspection.cartridgeId
  sdkSha256 inspection.archiveSha256
  sdkSha256 inspection.payloadSha256
  inspection.profileKey.validate
  inspection.signalGeometry.validate

structure ProfileReceipt where
  receiptId : Uuid
  cartridgeId : Uuid
  archiveSha256 : String
  payloadSha256 : String
  packId : String
  packVersion : String
  adapterId : String
  adapterVersion : String
  profileKey : ProfileKey
  signalGeometry : SignalGeometry
  tensorAbi : TensorAbi
  decodedAbi : DecodedAbi
  capabilities : List Capability
  estimatedHostBytes : Int
  estimatedDeviceBytes : Int

def ProfileReceipt.validate (receipt : ProfileReceipt) : SdkChecked := do
  sdkUuid receipt.receiptId
  sdkUuid receipt.cartridgeId
  sdkSha256 receipt.archiveSha256
  sdkSha256 receipt.payloadSha256
  sdkIdentifier receipt.packId
  sdkVersion receipt.packVersion
  sdkIdentifier receipt.adapterId
  sdkVersion receipt.adapterVersion
  receipt.profileKey.validate
  receipt.signalGeometry.validate
  receipt.tensorAbi.validate
  receipt.decodedAbi.validate
  sdkRefuse (receipt.tensorAbi.shape.drop 1 ≠ [receipt.signalGeometry.channels, 1,
      receipt.signalGeometry.latentHeight, receipt.signalGeometry.latentWidth])
    "profile.tensor_geometry"
  sdkRefuse (receipt.capabilities.isEmpty ∨ ¬ receipt.capabilities.Nodup) "profile.capabilities"
  sdkRefuse (receipt.estimatedHostBytes < 0) "profile.memory"
  sdkRefuse (receipt.estimatedDeviceBytes < 0) "profile.memory"

/-- `validate_profile_receipt` with a descriptor. -/
def validateProfileReceipt (receipt : ProfileReceipt) (descriptor : CodecDescriptor) :
    SdkChecked := do
  receipt.validate
  descriptor.validate
  sdkRefuse ((receipt.packId, receipt.packVersion, receipt.adapterId, receipt.adapterVersion) ≠
      (descriptor.packId, descriptor.packVersion, descriptor.adapterId,
        descriptor.adapterVersion))
    "profile.identity_mismatch"
  sdkRefuse (receipt.profileKey ∉ descriptor.profiles) "profile.unsupported"
  sdkRefuse (¬ receipt.capabilities ⊆ descriptor.capabilities) "profile.capability_mismatch"

structure ExternalAsset where
  assetId : String
  path : String
  sha256 : String
  byteLength : Int

def ExternalAsset.validate (asset : ExternalAsset) : SdkChecked := do
  sdkIdentifier asset.assetId
  sdkRefuse (asset.path.isEmpty ∨ Control.maxPathBytes < asset.path.utf8ByteSize) "asset.path"
  sdkSha256 asset.sha256
  sdkPositive asset.byteLength

structure CodecLoadRequest where
  descriptor : CodecDescriptor
  assets : List ExternalAsset
  device : String
  deviceOrdinal : Int

/-- The asset loop of `CodecLoadRequest.validate`. -/
def validateAssets : List String → List ExternalAsset → SdkChecked
  | _, [] => .ok ()
  | seen, asset :: assets => do
      asset.validate
      sdkRefuse (asset.assetId ∈ seen) "asset.duplicate"
      validateAssets (asset.assetId :: seen) assets

def CodecLoadRequest.validate (request : CodecLoadRequest) : SdkChecked := do
  request.descriptor.validate
  sdkRefuse (16 < request.assets.length) "asset.count"
  validateAssets [] request.assets
  sdkRefuse (request.device ∉ ["cpu", "cuda"]) "tensor.device"
  sdkRefuse (¬ (0 ≤ request.deviceOrdinal ∧ request.deviceOrdinal ≤ 255)) "tensor.device"

structure CaptureRequest where
  captureId : Uuid
  mode : String
  stagingRoot : String
  maximumLatentSlots : Int
  maximumVisualBytes : Int
  maximumResetEvents : Int

def CaptureRequest.validate (platform : Platform) (request : CaptureRequest) : SdkChecked := do
  sdkUuid request.captureId
  sdkRefuse (request.mode ∉ ["snapshot", "live_capture"]) "capture.mode"
  sdkAbsolutePath platform request.stagingRoot "capture.staging_root"
  sdkPositiveUpTo request.maximumLatentSlots 1048576
  sdkPositiveUpTo request.maximumVisualBytes (15 * 1024 ^ 3)
  sdkPositiveUpTo request.maximumResetEvents 32

structure CapturePayload where
  captureId : Uuid
  payloadPath : String
  payloadSha256 : String
  payloadByteLength : Int
  latentSlots : Int
  decodedFrameCount : Int

def CapturePayload.validate (platform : Platform) (payload : CapturePayload) : SdkChecked := do
  sdkUuid payload.captureId
  sdkAbsolutePath platform payload.payloadPath "capture.path"
  sdkSha256 payload.payloadSha256
  sdkPositive payload.payloadByteLength
  sdkPositive payload.latentSlots
  sdkPositive payload.decodedFrameCount

def maxRawImportSourceBytes : Int := 64 * 1024 ^ 3

structure RawImportTensor where
  stream : String
  name : String
  storageDtype : String
  runtimeDtype : String
  shape : List Int

def RawImportTensor.validate (tensor : RawImportTensor) : SdkChecked := do
  sdkRefuse (tensor.stream ∉ ["visual", "audio"]) "raw_import.tensor_stream"
  sdkIdentifier tensor.name
  sdkRefuse (tensor.storageDtype ∉ ["F16", "F32"] ∨ tensor.runtimeDtype ∉ ["F16", "F32"])
    "raw_import.tensor_dtype"
  sdkRefuse (¬ (1 ≤ tensor.shape.length ∧ tensor.shape.length ≤ 8) ∨
      ¬ tensor.shape.all (0 < ·)) "raw_import.tensor_shape"
  sdkRefuse (maxRawImportSourceBytes < tensor.shape.prod) "raw_import.tensor_shape"

structure RawImportMetadata where
  profileKey : ProfileKey
  payloadEntry : String
  payloadMediaType : String
  tensors : List RawImportTensor
  timingContract : String
  timingContractVersion : String
  decodedWidth : Int
  decodedHeight : Int
  decodedFrameCount : Int
  frameRateNumerator : Int
  frameRateDenominator : Int
  durationNumerator : Int
  durationDenominator : Int
  audioPolicy : String

/-- The tensor loop of `RawImportMetadata.validate`. -/
def validateRawTensors : List String → List RawImportTensor → SdkChecked
  | _, [] => .ok ()
  | names, tensor :: tensors => do
      tensor.validate
      sdkRefuse (tensor.name ∈ names) "raw_import.tensor_duplicate"
      validateRawTensors (tensor.name :: names) tensors

def RawImportMetadata.validate (metadata : RawImportMetadata) : SdkChecked := do
  metadata.profileKey.validate
  sdkRefuse (¬ isArchiveEntry metadata.payloadEntry) "raw_import.payload_entry"
  sdkRefuse (metadata.payloadMediaType ≠ "application/vnd.safetensors")
    "raw_import.payload_media_type"
  sdkRefuse (¬ (1 ≤ metadata.tensors.length ∧ metadata.tensors.length ≤ 64))
    "raw_import.tensor_count"
  validateRawTensors [] metadata.tensors
  let visualCount := metadata.tensors.countP (·.stream == "visual")
  let audioCount := metadata.tensors.countP (·.stream == "audio")
  sdkRefuse (visualCount ≠ 1 ∨ 1 < audioCount) "raw_import.tensor_streams"
  sdkIdentifier metadata.timingContract
  sdkVersion metadata.timingContractVersion
  checkEach sdkPositive [metadata.decodedWidth, metadata.decodedHeight,
    metadata.decodedFrameCount, metadata.frameRateNumerator, metadata.frameRateDenominator,
    metadata.durationNumerator, metadata.durationDenominator]
  sdkRefuse (metadata.audioPolicy ∉ ["source_absent", "preserved_source"])
    "raw_import.audio_policy"
  sdkRefuse (¬ (audioCount = 1 ↔ metadata.audioPolicy = "preserved_source"))
    "raw_import.audio_policy"

structure RawImportPreflightRequest where
  importId : Uuid
  sourcePath : String
  maximumSourceBytes : Int

def RawImportPreflightRequest.validate (platform : Platform)
    (request : RawImportPreflightRequest) : SdkChecked := do
  sdkUuid request.importId
  sdkAbsolutePath platform request.sourcePath "raw_import.source_path"
  sdkPositiveUpTo request.maximumSourceBytes maxRawImportSourceBytes

structure RawImportPreflight where
  receiptId : Uuid
  importId : Uuid
  packId : String
  packVersion : String
  adapterId : String
  adapterVersion : String
  sourceSha256 : String
  sourceByteLength : Int
  metadata : RawImportMetadata

def RawImportPreflight.validate (preflight : RawImportPreflight) : SdkChecked := do
  sdkUuid preflight.receiptId
  sdkUuid preflight.importId
  sdkIdentifier preflight.packId
  sdkVersion preflight.packVersion
  sdkIdentifier preflight.adapterId
  sdkVersion preflight.adapterVersion
  sdkSha256 preflight.sourceSha256
  sdkPositiveUpTo preflight.sourceByteLength maxRawImportSourceBytes
  preflight.metadata.validate

structure RawImportStageRequest where
  preflight : RawImportPreflight
  stagingRoot : String

def RawImportStageRequest.validate (platform : Platform) (request : RawImportStageRequest) :
    SdkChecked := do
  request.preflight.validate
  sdkAbsolutePath platform request.stagingRoot "raw_import.staging_root"

structure RawImportArtifact where
  receiptId : Uuid
  importId : Uuid
  stagedPayloadPath : String
  payloadSha256 : String
  payloadByteLength : Int

def RawImportArtifact.validate (platform : Platform) (artifact : RawImportArtifact) :
    SdkChecked := do
  sdkUuid artifact.receiptId
  sdkUuid artifact.importId
  sdkAbsolutePath platform artifact.stagedPayloadPath "raw_import.staged_payload_path"
  sdkSha256 artifact.payloadSha256
  sdkPositiveUpTo artifact.payloadByteLength maxRawImportSourceBytes

/-- A value that an adapter or an operator hands over as a latent tensor. -/
structure Tensor where
  /-- `torch.is_tensor`. -/
  isTensor : Bool
  shape : List Int
  /-- The dtype without its `torch.` prefix. -/
  dtype : String
  /-- `device.type` and `device.index`. -/
  device : String × Option Int
  contiguous : Bool
  /-- `torch.isfinite(…).all()`. -/
  finite : Bool
  data : List UInt8

structure DecodedBatch where
  /-- The bytes behind the memory view; `pixels.nbytes` is their number. -/
  pixels : List UInt8
  /-- The pixels are a `memoryview`. -/
  isMemoryview : Bool
  isContiguousBytes : Bool
  batch : Int
  height : Int
  width : Int

def DecodedBatch.validate (decoded : DecodedBatch) : SdkChecked := do
  sdkRefuse (¬ decoded.isMemoryview) "decoded.type"
  sdkRefuse (¬ decoded.isContiguousBytes) "decoded.layout"
  sdkPositiveUpTo decoded.batch 24
  sdkPositive decoded.height
  sdkPositive decoded.width
  sdkRefuse (decoded.pixels.length ≠ decoded.batch * decoded.height * decoded.width * 4)
    "decoded.byte_length"

end LatentDeck.CodecHost
