import LatentDeck.Control.Vocabulary

/-!
# Protocol 2 payloads

The records that commands, replies and events carry, each followed by its own check. A check
stops at the first violation and names the field it looked at.
-/

namespace LatentDeck.Control

open Fallible

/-- `ProfileKey` — the codec family and profile of a signal. -/
structure ProfileKey where
  codecFamily : String
  profile : String
  profileVersion : String
  deriving DecidableEq

/-- The names and the version are bounded. -/
def ProfileKey.validate (key : ProfileKey) : Checked := do
  identifier key.codecFamily "profile_key.codec_family"
  identifier key.profile "profile_key.profile"
  version key.profileVersion "profile_key.profile_version"

/-- `SignalGeometry` — grid, raster, rate and timing of a signal. -/
structure SignalGeometry where
  channels : UInt32
  latentHeight : UInt32
  latentWidth : UInt32
  decodedHeight : UInt32
  decodedWidth : UInt32
  frameRateNumerator : UInt32
  frameRateDenominator : UInt32
  timingContract : String
  timingContractVersion : String
  deriving DecidableEq

/-- No extent and no rate is zero. -/
def SignalGeometry.validate (geometry : SignalGeometry) : Checked := do
  refuseIf (geometry.channels = 0 ∨ geometry.latentHeight = 0 ∨ geometry.latentWidth = 0 ∨
      geometry.decodedHeight = 0 ∨ geometry.decodedWidth = 0 ∨
      geometry.frameRateNumerator = 0 ∨ geometry.frameRateDenominator = 0)
    (.invalidField "signal_geometry")
  identifier geometry.timingContract "signal_geometry.timing_contract"
  version geometry.timingContractVersion "signal_geometry.timing_contract_version"

/-- `TensorAbi` — the tensors an adapter exchanges. -/
structure TensorAbi where
  pythonMajor : UInt8
  pythonMinor : UInt8
  torchVersion : String
  dtype : TensorDtype
  shape : Vector UInt32 5
  contiguous : Bool
  device : DeviceKind
  deriving DecidableEq

/-- One contiguous slot for the Python of the host. -/
def TensorAbi.validate (abi : TensorAbi) : Checked := do
  refuseIf (abi.pythonMajor ≠ 3 ∨ abi.pythonMinor ≠ 13 ∨ abi.shape[0] ≠ 1 ∨
      abi.shape[2] ≠ 1 ∨ 0 ∈ abi.shape.toList ∨ ¬ abi.contiguous)
    (.invalidField "tensor_abi")
  version abi.torchVersion "tensor_abi.torch_version"

/-- `DecodedAbi` — the frames an adapter decodes. -/
structure DecodedAbi where
  pixelFormat : String
  maximumBatch : UInt8
  deriving DecidableEq

/-- RGBA in bounded batches. -/
def DecodedAbi.validate (abi : DecodedAbi) : Checked :=
  refuseIf (abi.pixelFormat ≠ "rgba8" ∨
      ¬ (1 ≤ abi.maximumBatch ∧ abi.maximumBatch ≤ maxDecodeBatch))
    (.invalidField "decoded_abi")

/-- `ProfileReceipt` — the immutable codec and cartridge identities of a validated source. -/
structure ProfileReceipt where
  receiptId : Uuid
  cartridgeId : Uuid
  archiveSha256 : String
  payloadSha256 : String
  packId : String
  packVersion : String
  adapterId : String
  adapterVersion : String
  profileKey : ProfileKey
  signalGeometry : SignalGeometry
  tensorAbi : TensorAbi
  decodedAbi : DecodedAbi
  capabilities : LimitedVec Capability maxCapabilities
  estimatedHostBytes : UInt64
  estimatedDeviceBytes : UInt64

/-- Each part is checked, and the tensor is that of the signal. -/
def ProfileReceipt.validate (receipt : ProfileReceipt) : Checked := do
  nonNil receipt.receiptId "profile_receipt.receipt_id"
  nonNil receipt.cartridgeId "profile_receipt.cartridge_id"
  sha256 receipt.archiveSha256 "profile_receipt.archive_sha256"
  sha256 receipt.payloadSha256 "profile_receipt.payload_sha256"
  identifier receipt.packId "profile_receipt.pack_id"
  version receipt.packVersion "profile_receipt.pack_version"
  identifier receipt.adapterId "profile_receipt.adapter_id"
  version receipt.adapterVersion "profile_receipt.adapter_version"
  receipt.profileKey.validate
  receipt.signalGeometry.validate
  receipt.tensorAbi.validate
  receipt.decodedAbi.validate
  refuseIf (receipt.tensorAbi.shape[1] ≠ receipt.signalGeometry.channels ∨
      receipt.tensorAbi.shape[3] ≠ receipt.signalGeometry.latentHeight ∨
      receipt.tensorAbi.shape[4] ≠ receipt.signalGeometry.latentWidth)
    (.invalidField "profile_receipt.tensor_geometry")
  refuseIf receipt.capabilities.asSlice.isEmpty (.invalidField "profile_receipt.capabilities")
  uniqueCapabilities receipt.capabilities

/-- `RawImportTensor` — one tensor of a raw import. -/
structure RawImportTensor where
  stream : RawImportTensorStream
  name : String
  storageDtype : RawImportStorageDtype
  runtimeDtype : RawImportStorageDtype
  shape : LimitedVec UInt64 maxRawImportTensorAxes

/-- The axis loop of `RawImportTensor::validate` with the values counted so far. -/
def validateAxes : List UInt64 → Nat → Checked
  | [], _ => .ok ()
  | axis :: axes, values => do
      -- `checked_mul` fails on the product alone, before the axis is looked at.
      refuseIf (2 ^ 64 ≤ values * axis.toNat) (.invalidField "raw_import.tensor.shape")
      refuseIf (axis = 0 ∨ maxRawImportSourceBytes.toNat < values * axis.toNat)
        (.invalidField "raw_import.tensor.shape")
      validateAxes axes (values * axis.toNat)

/-- The product of the axes is bounded. -/
def RawImportTensor.validate (tensor : RawImportTensor) : Checked := do
  identifier tensor.name "raw_import.tensor.name"
  refuseIf tensor.shape.asSlice.isEmpty (.invalidField "raw_import.tensor.shape")
  validateAxes tensor.shape.asSlice 1

/-- `RawImportMetadata` — bounded adapter metadata of a raw import. -/
structure RawImportMetadata where
  profileKey : ProfileKey
  payloadEntry : String
  payloadMediaType : String
  tensors : LimitedVec RawImportTensor maxRawImportTensors
  timingContract : String
  timingContractVersion : String
  decodedWidth : UInt32
  decodedHeight : UInt32
  decodedFrameCount : UInt64
  frameRateNumerator : UInt64
  frameRateDenominator : UInt64
  durationNumerator : UInt64
  durationDenominator : UInt64
  audioPolicy : RawImportAudioPolicy

/-- One visual tensor, and audio as the policy says. -/
def RawImportMetadata.validate (metadata : RawImportMetadata) : Checked := do
  metadata.profileKey.validate
  archiveEntry metadata.payloadEntry "raw_import.payload_entry"
  refuseIf (metadata.payloadMediaType ≠ "application/vnd.safetensors" ∨
      metadata.tensors.asSlice.isEmpty)
    (.invalidField "raw_import.payload")
  checkEach RawImportTensor.validate metadata.tensors.asSlice
  uniqueBy metadata.tensors.asSlice (·.name) "raw_import.tensors"
  let visualCount := metadata.tensors.asSlice.countP (·.stream == .visual)
  let audioCount := metadata.tensors.asSlice.countP (·.stream == .audio)
  refuseIf (visualCount ≠ 1 ∨ audioCount > 1 ∨
      ¬ (audioCount = 1 ↔ metadata.audioPolicy = .preservedSource))
    (.invalidField "raw_import.audio_policy")
  identifier metadata.timingContract "raw_import.timing_contract"
  version metadata.timingContractVersion "raw_import.timing_contract_version"
  refuseIf (metadata.decodedWidth = 0 ∨ metadata.decodedHeight = 0 ∨
      metadata.decodedFrameCount = 0 ∨ metadata.frameRateNumerator = 0 ∨
      metadata.frameRateDenominator = 0 ∨ metadata.durationNumerator = 0 ∨
      metadata.durationDenominator = 0)
    (.invalidField "raw_import.timing")

/-- `raw_import.preflight`. -/
structure RawImportPreflightRequest where
  importId : Uuid
  sourcePath : String
  maximumSourceBytes : UInt64

/-- The size of the source is bounded. -/
def RawImportPreflightRequest.validate (isAbsolute : String → Bool)
    (request : RawImportPreflightRequest) : Checked := do
  nonNil request.importId "raw_import.import_id"
  absolutePath isAbsolute request.sourcePath "raw_import.source_path"
  refuseIf (¬ (1 ≤ request.maximumSourceBytes ∧
      request.maximumSourceBytes ≤ maxRawImportSourceBytes))
    (.invalidField "raw_import.maximum_source_bytes")

/-- `raw_import.stage`. -/
structure RawImportStage where
  importId : Uuid
  receiptId : Uuid
  stagingRoot : String

/-- The staging root is absolute. -/
def RawImportStage.validate (isAbsolute : String → Bool) (stage : RawImportStage) : Checked := do
  nonNil stage.importId "raw_import.import_id"
  nonNil stage.receiptId "raw_import.receipt_id"
  absolutePath isAbsolute stage.stagingRoot "raw_import.staging_root"

/-- `raw_import.abort`. -/
structure RawImportAbort where
  importId : Uuid
  receiptId : Uuid

/-- Both identifiers are set. -/
def RawImportAbort.validate (abort : RawImportAbort) : Checked := do
  nonNil abort.importId "raw_import.import_id"
  nonNil abort.receiptId "raw_import.receipt_id"

/-- `RawImportPreflight` — codec and source identity with typed metadata. -/
structure RawImportPreflight where
  receiptId : Uuid
  importId : Uuid
  packId : String
  packVersion : String
  adapterId : String
  adapterVersion : String
  sourceSha256 : String
  sourceByteLength : UInt64
  metadata : RawImportMetadata

/-- The identities and the metadata are checked. -/
def RawImportPreflight.validate (preflight : RawImportPreflight) : Checked := do
  nonNil preflight.receiptId "raw_import.receipt_id"
  nonNil preflight.importId "raw_import.import_id"
  identifier preflight.packId "raw_import.pack_id"
  version preflight.packVersion "raw_import.pack_version"
  identifier preflight.adapterId "raw_import.adapter_id"
  version preflight.adapterVersion "raw_import.adapter_version"
  sha256 preflight.sourceSha256 "raw_import.source_sha256"
  refuseIf (¬ (1 ≤ preflight.sourceByteLength ∧
      preflight.sourceByteLength ≤ maxRawImportSourceBytes))
    (.invalidField "raw_import.source_byte_length")
  preflight.metadata.validate

/-- `RawImportArtifact` — an adapter's staged payload. -/
structure RawImportArtifact where
  receiptId : Uuid
  importId : Uuid
  stagedPayloadPath : String
  payloadSha256 : String
  payloadByteLength : UInt64

/-- The payload is absolute and bounded. -/
def RawImportArtifact.validate (isAbsolute : String → Bool)
    (artifact : RawImportArtifact) : Checked := do
  nonNil artifact.receiptId "raw_import.receipt_id"
  nonNil artifact.importId "raw_import.import_id"
  absolutePath isAbsolute artifact.stagedPayloadPath "raw_import.staged_payload_path"
  sha256 artifact.payloadSha256 "raw_import.payload_sha256"
  refuseIf (¬ (1 ≤ artifact.payloadByteLength ∧
      artifact.payloadByteLength ≤ maxRawImportSourceBytes))
    (.invalidField "raw_import.payload_byte_length")

/-- The import that was aborted. -/
structure RawImportAborted where
  importId : Uuid
  receiptId : Uuid

/-- Both identifiers are set. -/
def RawImportAborted.validate (aborted : RawImportAborted) : Checked := do
  nonNil aborted.importId "raw_import.import_id"
  nonNil aborted.receiptId "raw_import.receipt_id"

/-- A file outside of a pack. -/
structure ExternalAssetBinding where
  assetId : String
  path : String
  sha256 : String
  byteLength : UInt64

/-- The file is named and not empty. -/
def ExternalAssetBinding.validate (asset : ExternalAssetBinding) : Checked := do
  identifier asset.assetId "external_asset.asset_id"
  boundedText asset.path "external_asset.path" maxPathBytes
  Control.sha256 asset.sha256 "external_asset.sha256"
  refuseIf (asset.byteLength = 0) (.invalidField "external_asset.byte_length")

/-- `ControlValue` — a value of a control or of a provenance entry. -/
inductive ControlValue where
  | boolean (value : Bool)
  | integer (value : Int64)
  | number (value : Float64Bits)
  | text (value : String)

/-- Numbers are finite and texts bounded. -/
def ControlValue.validate : ControlValue → Checked
  | .number value => refuseIf (¬ value.isFinite) (.invalidField "control.value")
  | .text value => boundedText value "control.value" maxTextBytes
  | .boolean _ | .integer _ => .ok ()

/-- `ControlBinding` — a named control value. -/
structure ControlBinding where
  name : String
  value : ControlValue

/-- The name is bounded. -/
def ControlBinding.validate (control : ControlBinding) : Checked := do
  identifier control.name "control.name"
  control.value.validate

/-- `RoleBinding` — a role played by a physical slot. -/
structure RoleBinding where
  role : String
  physicalSlot : UInt8
  deriving DecidableEq

/-- The slot is one of the deck. -/
def RoleBinding.validate (role : RoleBinding) : Checked := do
  identifier role.role "role.role"
  refuseIf (slotOutside role.physicalSlot) (.invalidField "role.physical_slot")

/-- `SourceBinding` — a source in a physical slot. -/
structure SourceBinding where
  physicalSlot : UInt8
  sourceId : Uuid
  cartridgeId : Uuid
  archiveSha256 : String
  profileReceiptId : Uuid
  loopEnabled : Bool

/-- The slot is one of the deck. -/
def SourceBinding.validate (source : SourceBinding) : Checked := do
  refuseIf (slotOutside source.physicalSlot) (.invalidField "source.physical_slot")
  nonNil source.sourceId "source.source_id"
  nonNil source.cartridgeId "source.cartridge_id"
  nonNil source.profileReceiptId "source.profile_receipt_id"
  sha256 source.archiveSha256 "source.archive_sha256"

/-- `SourceTransportBinding` — play, pause and looping of one physical slot. -/
structure SourceTransportBinding where
  physicalSlot : UInt8
  playing : Bool
  loopEnabled : Bool
  deriving DecidableEq

/-- The slot is one of the deck. -/
def SourceTransportBinding.validate (source : SourceTransportBinding) : Checked :=
  refuseIf (slotOutside source.physicalSlot) (.invalidField "deck.transport.physical_slot")

/-- A body without fields. -/
structure EmptyPayload

/-- `session.configure`. -/
structure SessionConfigure where
  selectedProtocolVersion : UInt16
  appVersion : String
  heartbeatIntervalMs : UInt32
  heartbeatHardTimeoutMs : UInt32
  maxFrameBytes : UInt32
  maxInflightBatches : UInt8
  requestedCapabilities : LimitedVec Capability maxCapabilities

/-- A timeout spans three heartbeats. -/
def SessionConfigure.validate (configure : SessionConfigure) : Checked := do
  refuseIf (configure.selectedProtocolVersion ≠ protocolVersion ∨
      ¬ (250 ≤ configure.heartbeatIntervalMs ∧ configure.heartbeatIntervalMs ≤ 60000) ∨
      -- `saturating_mul(3)` on 32 bits.
      configure.heartbeatHardTimeoutMs.toNat <
        min (configure.heartbeatIntervalMs.toNat * 3) (2 ^ 32 - 1) ∨
      configure.maxFrameBytes.toNat ≠ Control.maxFrameBytes ∨
      ¬ (1 ≤ configure.maxInflightBatches ∧ configure.maxInflightBatches ≤ 24))
    (.invalidField "session.configure")
  version configure.appVersion "session.app_version"
  uniqueCapabilities configure.requestedCapabilities

/-- `session.shutdown`. -/
structure SessionShutdown where
  reason : ShutdownReason

/-- `codec.descriptor`. -/
structure CodecDescriptorRequest where
  packId : String
  packVersion : String
  adapterId : String

/-- The names are bounded. -/
def CodecDescriptorRequest.validate (request : CodecDescriptorRequest) : Checked := do
  identifier request.packId "codec.pack_id"
  version request.packVersion "codec.pack_version"
  identifier request.adapterId "codec.adapter_id"

/-- `codec.load`. -/
structure CodecLoad where
  packId : String
  packVersion : String
  adapterId : String
  adapterVersion : String
  device : DeviceKind
  deviceOrdinal : UInt8
  externalAssets : LimitedVec ExternalAssetBinding maxExternalAssets

/-- No asset is bound twice. -/
def CodecLoad.validate (load : CodecLoad) : Checked := do
  identifier load.packId "codec.pack_id"
  version load.packVersion "codec.pack_version"
  identifier load.adapterId "codec.adapter_id"
  version load.adapterVersion "codec.adapter_version"
  checkEach ExternalAssetBinding.validate load.externalAssets.asSlice
  uniqueBy load.externalAssets.asSlice (·.assetId) "codec.external_assets"

/-- `codec.unload`. -/
structure CodecUnload where
  packId : String
  packVersion : String

/-- The names are bounded. -/
def CodecUnload.validate (unload : CodecUnload) : Checked := do
  identifier unload.packId "codec.pack_id"
  version unload.packVersion "codec.pack_version"

/-- `SourceOpen` — a duplicated native handle with its integrity receipt. -/
structure SourceOpen where
  sourceId : Uuid
  cartridgeId : Uuid
  archiveSha256 : String
  archiveBytes : UInt64
  retainedNativeHandle : UInt64
  integrityAccessReceipt : String

/-- The handle and the size are positive. -/
def SourceOpen.validate (source : SourceOpen) : Checked := do
  nonNil source.sourceId "source.source_id"
  nonNil source.cartridgeId "source.cartridge_id"
  sha256 source.archiveSha256 "source.archive_sha256"
  positive source.archiveBytes "source.archive_bytes"
  positive source.retainedNativeHandle "source.retained_native_handle"
  boundedText source.integrityAccessReceipt "source.integrity_access_receipt"
    maxIntegrityAccessReceiptBytes

/-- `source.close`. -/
structure SourceClose where
  sourceId : Uuid

/-- The source is named. -/
def SourceClose.validate (source : SourceClose) : Checked :=
  nonNil source.sourceId "source.source_id"

/-- `RingConfigure` — a shared ring by duplicated handles. -/
structure RingConfigure where
  ringId : Uuid
  kind : RingKind
  mappingHandle : UInt64
  readyEventHandle : UInt64
  consumedEventHandle : UInt64
  slotCount : UInt8
  slotBytes : UInt64

/-- The handles are positive and the slots bounded. -/
def RingConfigure.validate (ring : RingConfigure) : Checked := do
  nonNil ring.ringId "ring.ring_id"
  positive ring.mappingHandle "ring.mapping_handle"
  positive ring.readyEventHandle "ring.ready_event_handle"
  positive ring.consumedEventHandle "ring.consumed_event_handle"
  refuseIf (¬ (2 ≤ ring.slotCount ∧ ring.slotCount ≤ maxDecodeBatch) ∨ ring.slotBytes = 0)
    (.invalidField "ring.geometry")

/-- `ring.release`. -/
structure RingRelease where
  ringId : Uuid

/-- The ring is named. -/
def RingRelease.validate (ring : RingRelease) : Checked :=
  nonNil ring.ringId "ring.ring_id"

/-- `profile.inspect`. -/
structure ProfileInspect where
  sourceId : Uuid
  cartridgeId : Uuid
  archiveSha256 : String

/-- The source is identified. -/
def ProfileInspect.validate (inspect : ProfileInspect) : Checked := do
  nonNil inspect.sourceId "profile.source_id"
  nonNil inspect.cartridgeId "profile.cartridge_id"
  sha256 inspect.archiveSha256 "profile.archive_sha256"

/-- `profile.validate`. -/
structure ProfileValidate where
  sourceId : Uuid
  expectedProfile : ProfileKey
  requiredCapabilities : LimitedVec Capability maxCapabilities

/-- No capability is asked for twice. -/
def ProfileValidate.validate (request : ProfileValidate) : Checked := do
  nonNil request.sourceId "profile.source_id"
  request.expectedProfile.validate
  uniqueCapabilities request.requiredCapabilities

/-- `player.open`. -/
structure PlayerOpen where
  playerSessionId : Uuid
  source : SourceBinding
  streamGeneration : UInt64

/-- The generation is positive. -/
def PlayerOpen.validate (player : PlayerOpen) : Checked := do
  nonNil player.playerSessionId "player.session_id"
  player.source.validate
  positive player.streamGeneration "player.stream_generation"

/-- `player.step`. -/
structure PlayerStep where
  playerSessionId : Uuid
  streamGeneration : UInt64
  maximumDecodedFrames : UInt8

/-- The frames of a step are bounded. -/
def PlayerStep.validate (step : PlayerStep) : Checked := do
  nonNil step.playerSessionId "player.session_id"
  positive step.streamGeneration "player.stream_generation"
  refuseIf (¬ (1 ≤ step.maximumDecodedFrames ∧ step.maximumDecodedFrames ≤ maxDecodeBatch))
    (.invalidField "player.maximum_decoded_frames")

/-- `player.reset`. -/
structure PlayerReset where
  playerSessionId : Uuid
  newStreamGeneration : UInt64

/-- The generation is positive. -/
def PlayerReset.validate (reset : PlayerReset) : Checked := do
  nonNil reset.playerSessionId "player.session_id"
  positive reset.newStreamGeneration "player.new_stream_generation"

/-- `DeckRuntimeBinding` — the verified package runtime of a deck. -/
structure DeckRuntimeBinding where
  deckId : String
  deckVersion : String
  operatorId : String
  operatorVersion : String
  pythonRoot : String
  entrypoint : String
  packageManifestSha256 : String
  integrityCatalogSha256 : String

/-- The root is absolute. -/
def DeckRuntimeBinding.validate (isAbsolute : String → Bool)
    (runtime : DeckRuntimeBinding) : Checked := do
  identifier runtime.deckId "deck.runtime.deck_id"
  version runtime.deckVersion "deck.runtime.deck_version"
  identifier runtime.operatorId "deck.runtime.operator_id"
  version runtime.operatorVersion "deck.runtime.operator_version"
  boundedText runtime.pythonRoot "deck.runtime.python_root" maxPathBytes
  refuseIf (¬ isAbsolute runtime.pythonRoot) (.invalidField "deck.runtime.python_root")
  pythonEntrypoint runtime.entrypoint "deck.runtime.entrypoint"
  sha256 runtime.packageManifestSha256 "deck.runtime.package_manifest_sha256"
  sha256 runtime.integrityCatalogSha256 "deck.runtime.integrity_catalog_sha256"

/-- `deck.load`. -/
structure DeckLoad where
  deckSessionId : Uuid
  deckId : String
  deckVersion : String
  operatorId : String
  operatorVersion : String
  runtime : Option DeckRuntimeBinding
  sources : LimitedVec SourceBinding maxSources
  roles : LimitedVec RoleBinding maxRoles
  controls : LimitedVec ControlBinding maxControls
  seed : UInt64
  streamGeneration : UInt64

/-- The runtime is that of the deck, and roles name bound slots. -/
def DeckLoad.validate (isAbsolute : String → Bool) (deck : DeckLoad) : Checked := do
  nonNil deck.deckSessionId "deck.session_id"
  identifier deck.deckId "deck.deck_id"
  version deck.deckVersion "deck.deck_version"
  identifier deck.operatorId "deck.operator_id"
  version deck.operatorVersion "deck.operator_version"
  match deck.runtime with
  | none => .ok ()
  | some runtime => do
      runtime.validate isAbsolute
      refuseIf (runtime.deckId ≠ deck.deckId ∨ runtime.deckVersion ≠ deck.deckVersion ∨
          runtime.operatorId ≠ deck.operatorId ∨ runtime.operatorVersion ≠ deck.operatorVersion)
        (.invalidField "deck.runtime.identity")
  refuseIf deck.sources.asSlice.isEmpty (.invalidField "deck.sources")
  checkEach SourceBinding.validate deck.sources.asSlice
  uniqueBy deck.sources.asSlice (·.physicalSlot) "deck.sources"
  checkEach (fun role : RoleBinding => do
      role.validate
      refuseIf (¬ deck.sources.asSlice.any (·.physicalSlot == role.physicalSlot))
        (.invalidField "deck.roles"))
    deck.roles.asSlice
  uniqueBy deck.roles.asSlice (·.role) "deck.roles"
  checkEach ControlBinding.validate deck.controls.asSlice
  uniqueBy deck.controls.asSlice (·.name) "deck.controls"
  positive deck.streamGeneration "deck.stream_generation"

/-- `deck.restart`. -/
structure DeckIdentity where
  deckSessionId : Uuid
  deckRevision : UInt64

/-- The revision is positive. -/
def DeckIdentity.validate (deck : DeckIdentity) : Checked := do
  nonNil deck.deckSessionId "deck.session_id"
  positive deck.deckRevision "deck.revision"

/-- `deck.process`. -/
structure DeckProcess where
  deckSessionId : Uuid
  deckRevision : UInt64
  streamGeneration : UInt64

/-- The generation is positive. -/
def DeckProcess.validate (deck : DeckProcess) : Checked := do
  nonNil deck.deckSessionId "deck.session_id"
  positive deck.deckRevision "deck.revision"
  positive deck.streamGeneration "deck.stream_generation"

/-- `deck.controls.set`. -/
structure DeckControlsSet where
  deckSessionId : Uuid
  deckRevision : UInt64
  controls : LimitedVec ControlBinding maxControls

/-- No control is set twice. -/
def DeckControlsSet.validate (deck : DeckControlsSet) : Checked := do
  nonNil deck.deckSessionId "deck.session_id"
  positive deck.deckRevision "deck.revision"
  checkEach ControlBinding.validate deck.controls.asSlice
  uniqueBy deck.controls.asSlice (·.name) "deck.controls"

/-- `deck.roles.set`. -/
structure DeckRolesSet where
  deckSessionId : Uuid
  deckRevision : UInt64
  roles : LimitedVec RoleBinding maxRoles

/-- No role is set twice. -/
def DeckRolesSet.validate (deck : DeckRolesSet) : Checked := do
  nonNil deck.deckSessionId "deck.session_id"
  positive deck.deckRevision "deck.revision"
  checkEach RoleBinding.validate deck.roles.asSlice
  uniqueBy deck.roles.asSlice (·.role) "deck.roles"

/-- `deck.transport.set`. -/
structure DeckTransportSet where
  deckSessionId : Uuid
  deckRevision : UInt64
  sources : LimitedVec SourceTransportBinding maxSources

/-- No source is set twice. -/
def DeckTransportSet.validate (deck : DeckTransportSet) : Checked := do
  nonNil deck.deckSessionId "deck.session_id"
  positive deck.deckRevision "deck.revision"
  refuseIf deck.sources.asSlice.isEmpty (.invalidField "deck.transport.sources")
  checkEach SourceTransportBinding.validate deck.sources.asSlice
  uniqueBy deck.sources.asSlice (·.physicalSlot) "deck.transport.sources"

/-- `deck.seed.set`. -/
structure DeckSeedSet where
  deckSessionId : Uuid
  deckRevision : UInt64
  seed : UInt64

/-- Every seed is allowed. -/
def DeckSeedSet.validate (deck : DeckSeedSet) : Checked := do
  nonNil deck.deckSessionId "deck.session_id"
  positive deck.deckRevision "deck.revision"

/-- `deck.reset`. -/
structure DeckReset where
  deckSessionId : Uuid
  deckRevision : UInt64
  newStreamGeneration : UInt64
  preservePlayheads : Bool

/-- The generation is positive. -/
def DeckReset.validate (deck : DeckReset) : Checked := do
  nonNil deck.deckSessionId "deck.session_id"
  positive deck.deckRevision "deck.revision"
  positive deck.newStreamGeneration "deck.new_stream_generation"

/-- `capture.start`. -/
structure CaptureStart where
  deckSessionId : Uuid
  deckRevision : UInt64
  captureId : Uuid
  mode : CaptureMode
  stagingRoot : String
  maximumLatentSlots : UInt64
  maximumVisualBytes : UInt64
  maximumResetEvents : UInt32

/-- The bounds are positive and limited. -/
def CaptureStart.validate (isAbsolute : String → Bool) (capture : CaptureStart) : Checked := do
  nonNil capture.deckSessionId "capture.deck_session_id"
  nonNil capture.captureId "capture.capture_id"
  positive capture.deckRevision "capture.deck_revision"
  absolutePath isAbsolute capture.stagingRoot "capture.staging_root"
  refuseIf (¬ (1 ≤ capture.maximumLatentSlots ∧
        capture.maximumLatentSlots ≤ maxCaptureLatentSlots) ∨
      ¬ (1 ≤ capture.maximumVisualBytes ∧ capture.maximumVisualBytes ≤ maxCaptureVisualBytes) ∨
      ¬ (1 ≤ capture.maximumResetEvents ∧ capture.maximumResetEvents ≤ maxCaptureEvents))
    (.invalidField "capture.bounds")

/-- `capture.stop` and `capture.status`. -/
structure CaptureIdentity where
  deckSessionId : Uuid
  deckRevision : UInt64
  captureId : Uuid

/-- The capture is named. -/
def CaptureIdentity.validate (capture : CaptureIdentity) : Checked := do
  nonNil capture.deckSessionId "capture.deck_session_id"
  nonNil capture.captureId "capture.capture_id"
  positive capture.deckRevision "capture.deck_revision"

/-- `StatusSnapshot` — the status in every reply. -/
structure StatusSnapshot where
  session : SessionState
  codec : CodecState
  player : PlayerState
  deck : DeckState
  capture : CaptureState
  openSessionCount : UInt8
  foregroundOutputSession : Option Uuid
  outputLeasePinned : Bool

/-- A lease is pinned only with a session. -/
def StatusSnapshot.validate (status : StatusSnapshot) : Checked := do
  refuseIf (status.openSessionCount > maxWarmSessions)
    (.boundExceeded "status.open_session_count")
  refuseIf (status.outputLeasePinned ∧ status.foregroundOutputSession.isNone)
    (.invalidField "status.output_lease_pinned")
  refuseIf (status.foregroundOutputSession.any Uuid.isNil)
    (.nilIdentifier "status.foreground_output_session")

/-- What a session settled on. -/
structure SessionConfigured where
  selectedProtocolVersion : UInt16
  maximumFrameBytes : UInt32
  acceptedCapabilities : LimitedVec Capability maxCapabilities

/-- Version and frame bound are those of the host. -/
def SessionConfigured.validate (configured : SessionConfigured) : Checked := do
  refuseIf (configured.selectedProtocolVersion ≠ protocolVersion ∨
      configured.maximumFrameBytes.toNat ≠ maxFrameBytes ∨
      configured.acceptedCapabilities.asSlice.isEmpty)
    (.invalidField "session.configured")
  uniqueCapabilities configured.acceptedCapabilities

/-- What an adapter says of itself. -/
structure CodecDescriptor where
  packId : String
  packVersion : String
  adapterId : String
  adapterVersion : String
  hostApiVersion : String
  capabilities : LimitedVec Capability maxCapabilities
  profiles : LimitedVec ProfileKey maxProfiles

/-- The required capabilities are there. -/
def CodecDescriptor.validate (codec : CodecDescriptor) : Checked := do
  identifier codec.packId "codec.pack_id"
  version codec.packVersion "codec.pack_version"
  identifier codec.adapterId "codec.adapter_id"
  version codec.adapterVersion "codec.adapter_version"
  refuseIf (codec.hostApiVersion ≠ "2.0" ∨ codec.capabilities.asSlice.isEmpty ∨
      codec.profiles.asSlice.isEmpty)
    (.invalidField "codec.descriptor")
  uniqueCapabilities codec.capabilities
  refuseIf (¬ Capability.requiredCodecV2.all (codec.capabilities.asSlice.contains ·))
    (.invalidField "codec.capabilities")
  checkEach ProfileKey.validate codec.profiles.asSlice
  uniqueBy codec.profiles.asSlice
    (fun profile => (profile.codecFamily, profile.profile, profile.profileVersion))
    "codec.profiles"

/-- The adapter of a loaded codec. -/
structure CodecLoaded where
  packId : String
  packVersion : String
  adapterId : String
  adapterVersion : String
  device : DeviceKind
  deviceOrdinal : UInt8

/-- The names are bounded. -/
def CodecLoaded.validate (codec : CodecLoaded) : Checked := do
  identifier codec.packId "codec.pack_id"
  version codec.packVersion "codec.pack_version"
  identifier codec.adapterId "codec.adapter_id"
  version codec.adapterVersion "codec.adapter_version"

/-- The pack that was unloaded. -/
structure CodecUnloaded where
  packId : String
  packVersion : String

/-- The names are bounded. -/
def CodecUnloaded.validate (codec : CodecUnloaded) : Checked := do
  identifier codec.packId "codec.pack_id"
  version codec.packVersion "codec.pack_version"

/-- The source that was opened. -/
structure SourceOpened where
  sourceId : Uuid
  cartridgeId : Uuid
  archiveSha256 : String

/-- The source is identified. -/
def SourceOpened.validate (source : SourceOpened) : Checked := do
  nonNil source.sourceId "source.source_id"
  nonNil source.cartridgeId "source.cartridge_id"
  sha256 source.archiveSha256 "source.archive_sha256"

/-- The source that was closed. -/
structure SourceClosed where
  sourceId : Uuid

/-- The source is named. -/
def SourceClosed.validate (source : SourceClosed) : Checked :=
  nonNil source.sourceId "source.source_id"

/-- The ring that was attached. -/
structure RingConfigured where
  ringId : Uuid
  kind : RingKind
  slotCount : UInt8
  slotBytes : UInt64

/-- The slots are bounded. -/
def RingConfigured.validate (ring : RingConfigured) : Checked := do
  nonNil ring.ringId "ring.ring_id"
  refuseIf (¬ (2 ≤ ring.slotCount ∧ ring.slotCount ≤ maxDecodeBatch) ∨ ring.slotBytes = 0)
    (.invalidField "ring.geometry")

/-- The ring that was released. -/
structure RingReleased where
  ringId : Uuid

/-- The ring is named. -/
def RingReleased.validate (ring : RingReleased) : Checked :=
  nonNil ring.ringId "ring.ring_id"

/-- The profile found in a source. -/
structure ProfileInspection where
  sourceId : Uuid
  cartridgeId : Uuid
  archiveSha256 : String
  payloadSha256 : String
  profileKey : ProfileKey
  signalGeometry : SignalGeometry

/-- The signal is checked. -/
def ProfileInspection.validate (inspection : ProfileInspection) : Checked := do
  nonNil inspection.sourceId "profile.source_id"
  nonNil inspection.cartridgeId "profile.cartridge_id"
  sha256 inspection.archiveSha256 "profile.archive_sha256"
  sha256 inspection.payloadSha256 "profile.payload_sha256"
  inspection.profileKey.validate
  inspection.signalGeometry.validate

/-- Where a player is. -/
structure PlayerStatusSnapshot where
  playerSessionId : Uuid
  state : PlayerState
  streamGeneration : UInt64
  streamSequence : UInt64
  playheadSlot : UInt64
  endOfStream : Bool
  decodedRingId : Option Uuid

/-- A player that is open has a generation. -/
def PlayerStatusSnapshot.validate (player : PlayerStatusSnapshot) : Checked := do
  nonNil player.playerSessionId "player.session_id"
  refuseIf (player.state ≠ .empty ∧ player.streamGeneration = 0)
    (.invalidField "player.stream_generation")
  refuseIf (player.decodedRingId.any Uuid.isNil) (.nilIdentifier "player.decoded_ring_id")

/-- A step of a player, with its output. -/
structure PlayerStepAck where
  status : PlayerStatusSnapshot
  outputRingId : Option Uuid
  outputSlotSequence : UInt64
  decodedFrames : UInt8

/-- Frames come with their ring. -/
def PlayerStepAck.validate (step : PlayerStepAck) : Checked := do
  step.status.validate
  refuseIf (step.decodedFrames > maxDecodeBatch ∨ step.outputRingId.any Uuid.isNil ∨
      (step.decodedFrames > 0 ∧ step.outputRingId.isNone))
    (.invalidField "player.step")

/-- Where a source is. -/
structure PlayheadSnapshot where
  physicalSlot : UInt8
  latentSlot : UInt64
  loopEnabled : Bool
  endOfStream : Bool
  deriving DecidableEq

/-- The slot is one of the deck. -/
def PlayheadSnapshot.validate (playhead : PlayheadSnapshot) : Checked :=
  refuseIf (slotOutside playhead.physicalSlot) (.invalidField "deck.playhead.physical_slot")

/-- A fact about an output. -/
structure ProvenanceEntry where
  key : String
  value : ControlValue

/-- The key is bounded. -/
def ProvenanceEntry.validate (entry : ProvenanceEntry) : Checked := do
  identifier entry.key "deck.provenance.key"
  entry.value.validate

/-- Where a deck is and how it is set. -/
structure DeckStatusSnapshot where
  deckSessionId : Uuid
  state : DeckState
  deckRevision : UInt64
  streamGeneration : UInt64
  streamSequence : UInt64
  playheads : LimitedVec PlayheadSnapshot maxSources
  roles : LimitedVec RoleBinding maxRoles
  controls : LimitedVec ControlBinding maxControls
  sourceTransport : LimitedVec SourceTransportBinding maxSources
  seed : UInt64
  captureState : CaptureState

/-- Each source has its playhead. -/
def DeckStatusSnapshot.validate (deck : DeckStatusSnapshot) : Checked := do
  nonNil deck.deckSessionId "deck.session_id"
  refuseIf (deck.state ≠ .empty ∧ (deck.deckRevision = 0 ∨ deck.streamGeneration = 0))
    (.invalidField "deck.status_identity")
  checkEach PlayheadSnapshot.validate deck.playheads.asSlice
  uniqueBy deck.playheads.asSlice (·.physicalSlot) "deck.playheads"
  refuseIf (deck.sourceTransport.asSlice.length ≠ deck.playheads.asSlice.length)
    (.invalidField "deck.source_transport")
  checkEach (fun source : SourceTransportBinding => do
      source.validate
      refuseIf (¬ deck.playheads.asSlice.any (·.physicalSlot == source.physicalSlot))
        (.invalidField "deck.source_transport"))
    deck.sourceTransport.asSlice
  uniqueBy deck.sourceTransport.asSlice (·.physicalSlot) "deck.source_transport"
  checkEach RoleBinding.validate deck.roles.asSlice
  uniqueBy deck.roles.asSlice (·.role) "deck.roles"
  checkEach ControlBinding.validate deck.controls.asSlice
  uniqueBy deck.controls.asSlice (·.name) "deck.controls"

/-- A step of a deck, with its output. -/
structure DeckProcessAck where
  status : DeckStatusSnapshot
  outputRingId : Uuid
  outputSlotSequence : UInt64
  provenance : LimitedVec ProvenanceEntry maxControls

/-- The output is named. -/
def DeckProcessAck.validate (deck : DeckProcessAck) : Checked := do
  deck.status.validate
  nonNil deck.outputRingId "deck.output_ring_id"
  positive deck.outputSlotSequence "deck.output_slot_sequence"
  checkEach ProvenanceEntry.validate deck.provenance.asSlice
  uniqueBy deck.provenance.asSlice (·.key) "deck.provenance"

/-- The payload of a capture. -/
structure CaptureArtifact where
  stagedPayloadPath : String
  payloadSha256 : String
  payloadByteLength : UInt64
  latentSlots : UInt64
  decodedFrameCount : UInt64

/-- The payload is absolute and bounded. -/
def CaptureArtifact.validate (isAbsolute : String → Bool)
    (artifact : CaptureArtifact) : Checked := do
  absolutePath isAbsolute artifact.stagedPayloadPath "capture.staged_payload_path"
  sha256 artifact.payloadSha256 "capture.payload_sha256"
  positive artifact.payloadByteLength "capture.payload_byte_length"
  refuseIf (¬ (1 ≤ artifact.latentSlots ∧ artifact.latentSlots ≤ maxCaptureLatentSlots))
    (.invalidField "capture.latent_slots")
  positive artifact.decodedFrameCount "capture.decoded_frame_count"

/-- Where a capture is. -/
structure CaptureStatusSnapshot where
  deckSessionId : Uuid
  deckRevision : UInt64
  captureId : Uuid
  state : CaptureState
  mode : CaptureMode
  latentSlots : UInt64
  resetEvents : UInt32
  artifact : Option CaptureArtifact

/-- An artifact comes with completion only. -/
def CaptureStatusSnapshot.validate (isAbsolute : String → Bool)
    (capture : CaptureStatusSnapshot) : Checked := do
  nonNil capture.deckSessionId "capture.deck_session_id"
  nonNil capture.captureId "capture.capture_id"
  positive capture.deckRevision "capture.deck_revision"
  refuseIf (capture.latentSlots > maxCaptureLatentSlots ∨ capture.resetEvents > maxCaptureEvents)
    (.invalidField "capture.bounds")
  refuseIf (capture.state = .idle) (.invalidField "capture.state")
  match capture.state, capture.artifact with
  | .completed, some artifact => do
      artifact.validate isAbsolute
      refuseIf (artifact.latentSlots ≠ capture.latentSlots) (.invalidField "capture.artifact")
  | .completed, none => .error (.invalidField "capture.artifact")
  | _, some _ => .error (.invalidField "capture.artifact")
  | _, none => .ok ()

/-- The counters of a worker. -/
structure MetricsSnapshot where
  workerUptimeNs : UInt64
  commandsTotal : UInt64
  commandsFailedTotal : UInt64
  playerStepsTotal : UInt64
  deckProcessTotal : UInt64
  captureSlotsTotal : UInt64
  decodedFramesTotal : UInt64

/-- Why a session ended. -/
structure ShutdownAck where
  reason : ShutdownReason

/-- A named text of an error. -/
structure ErrorDetail where
  key : String
  value : String

/-- The texts are bounded. -/
def ErrorDetail.validate (detail : ErrorDetail) : Checked := do
  identifier detail.key "error.detail.key"
  boundedText detail.value "error.detail.value" maxTextBytes

/-- An error reply. -/
structure ErrorPayload where
  code : ErrorCode
  message : String
  retryable : Bool
  fatal : Bool
  status : StatusSnapshot
  diagnosticId : Uuid
  details : LimitedVec ErrorDetail maxErrorDetails

/-- No detail is given twice. -/
def ErrorPayload.validate (error : ErrorPayload) : Checked := do
  boundedText error.message "error.message" maxTextBytes
  error.status.validate
  nonNil error.diagnosticId "error.diagnostic_id"
  checkEach ErrorDetail.validate error.details.asSlice
  uniqueBy error.details.asSlice (·.key) "error.details"

/-- `WorkerHello` — authentication and runtime identity, only ever the first frame. -/
structure WorkerHello where
  authToken : WorkerHelloAuthToken
  workerPid : UInt32
  workerIdentity : String
  runtimeIdentity : String
  protocolMin : UInt16
  protocolMax : UInt16

/-- The worker speaks this version only. -/
def WorkerHello.validate (hello : WorkerHello) : Checked := do
  refuseIf (hello.workerPid = 0) (.invalidField "worker_hello.worker_pid")
  boundedText hello.workerIdentity "worker_hello.worker_identity" maxIdentifierBytes
  boundedText hello.runtimeIdentity "worker_hello.runtime_identity" maxTextBytes
  refuseIf (hello.protocolMin ≠ protocolVersion ∨ hello.protocolMax ≠ protocolVersion)
    (.unsupportedVersion (min hello.protocolMin hello.protocolMax))

end LatentDeck.Control
