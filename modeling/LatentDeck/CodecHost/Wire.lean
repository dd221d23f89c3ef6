import LatentDeck.CodecHost.Operator

/-!
# Messages as the worker checks them

The commands that the worker accepts and the replies that it builds, with the checks of the Python
mirror of Worker Protocol 2. Payloads without Python freedom are those of the Rust contract; numbers
that the worker computes are unbounded until a check bounds them. A failed check is a
`ProtocolError` whose text nobody reads, so a check is a Boolean.
-/

namespace LatentDeck.CodecHost

open Text
open Control (Uuid Capability CommandName ErrorCode)

/-- `_text`. -/
def isText (value : String) (maximum : Nat) : Bool :=
  !value.isEmpty && value.utf8ByteSize ≤ maximum && !value.toList.contains '\x00'

/-- `_integer` up to the largest unsigned 64-bit integer. -/
def fits (value : Int) (minimum : Int) : Bool := minimum ≤ value && value ≤ 2 ^ 64 - 1

/-- `_integer` up to the largest unsigned 32-bit integer, from one. -/
def fits32 (value : Int) : Bool := 1 ≤ value && value ≤ 2 ^ 32 - 1

/-- `_absolute_path`. -/
def isAbsolutePath (platform : Platform) (value : String) : Bool :=
  isText value Control.maxPathBytes && platform.isAbsolute value

/-- The parts of an entrypoint are Python identifiers. -/
def isEntrypoint (platform : Platform) (value : String) : Bool :=
  isText value 512 &&
    match value.toList.splitOn ':' with
    | [modulePath, attributeName] => (modulePath.splitOn '.' ++ [attributeName]).all
        fun part => platform.isPythonIdentifier (String.ofList part)
    | _ => false

inductive ControlKind where
  | boolean
  | integer
  | number
  | text

/-- A control or a provenance entry: a name and a value of a declared kind. -/
structure ControlWire where
  name : String
  kind : ControlKind
  value : Scalar

/-- The value check of `_validate_controls`; a number may be written as an integer. -/
def ControlWire.admissibleValue (control : ControlWire) : Bool :=
  match control.kind, control.value with
  | .boolean, .boolean _ => true
  | .integer, .integer value => -(2 ^ 63) ≤ value && value ≤ 2 ^ 63 - 1
  | .number, .integer value => -(2 ^ 63) ≤ value && value ≤ 2 ^ 64 - 1
  | .number, .float value => value.isFinite
  | .text, .text value => isText value 4096
  | _, _ => false

/-- `_validate_controls`. -/
def admissibleControls (controls : List ControlWire) : Bool :=
  controls.length ≤ 64 &&
    controls.all (fun control => isIdentifier control.name && control.admissibleValue) &&
    decide (controls.map (·.name)).Nodup

/-- `_validate_roles`. -/
def admissibleRoles (roles : List RoleBinding) : Bool :=
  roles.length ≤ 16 &&
    roles.all (fun binding =>
      isIdentifier binding.role && 1 ≤ binding.physicalSlot && binding.physicalSlot ≤ 16) &&
    decide (roles.map (·.role)).Nodup

/-- `_SourceTransport` — play, pause and looping of one physical slot. -/
structure SourceTransport where
  physicalSlot : Nat
  playing : Bool
  loopEnabled : Bool
  deriving DecidableEq

/-- `_validate_source_transport`. -/
def admissibleTransport (transport : List SourceTransport) (allowEmpty : Bool) : Bool :=
  transport.length ≤ 16 && (allowEmpty || !transport.isEmpty) &&
    transport.all (fun source => 1 ≤ source.physicalSlot && source.physicalSlot ≤ 16) &&
    decide (transport.map (·.physicalSlot)).Nodup

/-- `_validate_profile_key`. -/
def ProfileKey.admissible (key : ProfileKey) : Bool :=
  isIdentifier key.codecFamily && isIdentifier key.profile && isVersion key.profileVersion

/-- `_validate_capabilities`. -/
def admissibleCapabilities (capabilities : List Capability) : Bool :=
  capabilities.length ≤ 16 && decide capabilities.Nodup

/-- The payload of `deck.load`. -/
structure DeckLoad where
  deckSessionId : Uuid
  deckId : String
  deckVersion : String
  operatorId : String
  operatorVersion : String
  runtime : Option Control.DeckRuntimeBinding
  sources : List Control.SourceBinding
  roles : List RoleBinding
  controls : List ControlWire
  seed : UInt64
  streamGeneration : UInt64

/-- The payload of `deck.controls.set`. -/
structure DeckControlsSet where
  deckSessionId : Uuid
  deckRevision : UInt64
  controls : List ControlWire

inductive Command where
  | sessionConfigure (value : Control.SessionConfigure)
  | sessionStatus
  | sessionShutdown (value : Control.SessionShutdown)
  | codecDescriptor (value : Control.CodecDescriptorRequest)
  | codecLoad (value : Control.CodecLoad)
  | codecUnload (value : Control.CodecUnload)
  | sourceOpen (value : Control.SourceOpen)
  | sourceClose (value : Control.SourceClose)
  | ringConfigure (value : Control.RingConfigure)
  | ringRelease (value : Control.RingRelease)
  | profileInspect (value : Control.ProfileInspect)
  | profileValidate (value : Control.ProfileValidate)
  | rawImportPreflight (value : Control.RawImportPreflightRequest)
  | rawImportStage (value : Control.RawImportStage)
  | rawImportAbort (value : Control.RawImportAbort)
  | playerOpen (value : Control.PlayerOpen)
  | playerStep (value : Control.PlayerStep)
  | playerReset (value : Control.PlayerReset)
  | playerStatus
  | deckLoad (value : DeckLoad)
  | deckProcess (value : Control.DeckProcess)
  | deckControlsSet (value : DeckControlsSet)
  | deckRolesSet (value : Control.DeckRolesSet)
  | deckTransportSet (value : Control.DeckTransportSet)
  | deckSeedSet (value : Control.DeckSeedSet)
  | deckReset (value : Control.DeckReset)
  | deckRestart (value : Control.DeckIdentity)
  | deckStatus
  | captureStart (value : Control.CaptureStart)
  | captureStop (value : Control.CaptureIdentity)
  | captureStatus (value : Control.CaptureIdentity)
  | metricsGet

def Command.name : Command → CommandName
  | .sessionConfigure _ => .sessionConfigure
  | .sessionStatus => .sessionStatus
  | .sessionShutdown _ => .sessionShutdown
  | .codecDescriptor _ => .codecDescriptor
  | .codecLoad _ => .codecLoad
  | .codecUnload _ => .codecUnload
  | .sourceOpen _ => .sourceOpen
  | .sourceClose _ => .sourceClose
  | .ringConfigure _ => .ringConfigure
  | .ringRelease _ => .ringRelease
  | .profileInspect _ => .profileInspect
  | .profileValidate _ => .profileValidate
  | .rawImportPreflight _ => .rawImportPreflight
  | .rawImportStage _ => .rawImportStage
  | .rawImportAbort _ => .rawImportAbort
  | .playerOpen _ => .playerOpen
  | .playerStep _ => .playerStep
  | .playerReset _ => .playerReset
  | .playerStatus => .playerStatus
  | .deckLoad _ => .deckLoad
  | .deckProcess _ => .deckProcess
  | .deckControlsSet _ => .deckControlsSet
  | .deckRolesSet _ => .deckRolesSet
  | .deckTransportSet _ => .deckTransportSet
  | .deckSeedSet _ => .deckSeedSet
  | .deckReset _ => .deckReset
  | .deckRestart _ => .deckRestart
  | .deckStatus => .deckStatus
  | .captureStart _ => .captureStart
  | .captureStop _ => .captureStop
  | .captureStatus _ => .captureStatus
  | .metricsGet => .metricsGet

/-- `_validate_source`. -/
def admissibleSource (source : Control.SourceBinding) : Bool :=
  1 ≤ source.physicalSlot && source.physicalSlot ≤ 16 && !source.sourceId.isNil &&
    !source.cartridgeId.isNil && !source.profileReceiptId.isNil && isSha256 source.archiveSha256

/-- `_validate_assets`. -/
def admissibleAssets (assets : List Control.ExternalAssetBinding) : Bool :=
  assets.length ≤ 16 &&
    assets.all (fun asset => isIdentifier asset.assetId && isText asset.path 65536 &&
      isSha256 asset.sha256 && asset.byteLength != 0) &&
    decide (assets.map (·.assetId)).Nodup

/-- `_validate_deck_runtime_binding`. -/
def admissibleRuntime (platform : Platform) (runtime : Control.DeckRuntimeBinding)
    (load : DeckLoad) : Bool :=
  isIdentifier runtime.deckId && isVersion runtime.deckVersion &&
    isIdentifier runtime.operatorId && isVersion runtime.operatorVersion &&
    isAbsolutePath platform runtime.pythonRoot && isEntrypoint platform runtime.entrypoint &&
    isSha256 runtime.packageManifestSha256 && isSha256 runtime.integrityCatalogSha256 &&
    runtime.deckId == load.deckId && runtime.deckVersion == load.deckVersion &&
    runtime.operatorId == load.operatorId && runtime.operatorVersion == load.operatorVersion

/-- The `deck.load` case of `_validate_command`. -/
def DeckLoad.admissible (platform : Platform) (load : DeckLoad) : Bool :=
  !load.deckSessionId.isNil && isIdentifier load.deckId && isVersion load.deckVersion &&
    isIdentifier load.operatorId && isVersion load.operatorVersion &&
    load.runtime.all (admissibleRuntime platform · load) &&
    1 ≤ load.sources.length && load.sources.length ≤ 16 && load.sources.all admissibleSource &&
    decide (load.sources.map (·.physicalSlot)).Nodup && admissibleRoles load.roles &&
    load.roles.all (fun binding =>
      load.sources.any fun source => (source.physicalSlot.toNat : Int) == binding.physicalSlot) &&
    admissibleControls load.controls && load.streamGeneration != 0

/-- `_validate_deck_identity`. -/
def admissibleDeckIdentity (sessionId : Uuid) (revision : UInt64) : Bool :=
  !sessionId.isNil && revision != 0

def roleBindings (roles : List Control.RoleBinding) : List RoleBinding :=
  roles.map fun binding => ⟨binding.role, binding.physicalSlot.toNat⟩

def sourceTransport (sources : List Control.SourceTransportBinding) : List SourceTransport :=
  sources.map fun source => ⟨source.physicalSlot.toNat, source.playing, source.loopEnabled⟩

def profileKey (key : Control.ProfileKey) : ProfileKey :=
  ⟨key.codecFamily, key.profile, key.profileVersion⟩

/-- `_validate_command`. -/
def Command.admissible (platform : Platform) : Command → Bool
  | .sessionConfigure value =>
      value.selectedProtocolVersion == Control.protocolVersion && isVersion value.appVersion &&
        250 ≤ value.heartbeatIntervalMs && value.heartbeatIntervalMs ≤ 60000 &&
        value.heartbeatIntervalMs.toNat * 3 ≤ value.heartbeatHardTimeoutMs.toNat &&
        value.maxFrameBytes.toNat == Control.maxFrameBytes && 1 ≤ value.maxInflightBatches &&
        value.maxInflightBatches ≤ 24 &&
        admissibleCapabilities value.requestedCapabilities.asSlice
  | .sessionStatus | .sessionShutdown _ | .playerStatus | .deckStatus | .metricsGet => true
  | .codecDescriptor value =>
      isIdentifier value.packId && isVersion value.packVersion && isIdentifier value.adapterId
  | .codecLoad value =>
      isIdentifier value.packId && isVersion value.packVersion && isIdentifier value.adapterId &&
        isVersion value.adapterVersion && admissibleAssets value.externalAssets.asSlice
  | .codecUnload value => isIdentifier value.packId && isVersion value.packVersion
  | .sourceOpen value =>
      !value.sourceId.isNil && !value.cartridgeId.isNil && isSha256 value.archiveSha256 &&
        value.archiveBytes != 0 && value.retainedNativeHandle != 0 &&
        isText value.integrityAccessReceipt 65536 &&
        platform.isCanonicalJsonObject value.integrityAccessReceipt
  | .sourceClose value => !value.sourceId.isNil
  | .ringConfigure value =>
      !value.ringId.isNil && value.mappingHandle != 0 && value.readyEventHandle != 0 &&
        value.consumedEventHandle != 0 && 2 ≤ value.slotCount && value.slotCount ≤ 24 &&
        value.slotBytes != 0
  | .ringRelease value => !value.ringId.isNil
  | .profileInspect value =>
      !value.sourceId.isNil && !value.cartridgeId.isNil && isSha256 value.archiveSha256
  | .profileValidate value =>
      !value.sourceId.isNil && (profileKey value.expectedProfile).admissible &&
        admissibleCapabilities value.requiredCapabilities.asSlice
  | .rawImportPreflight value =>
      !value.importId.isNil && isAbsolutePath platform value.sourcePath &&
        value.maximumSourceBytes != 0 &&
        value.maximumSourceBytes ≤ Control.maxRawImportSourceBytes
  | .rawImportStage value =>
      !value.importId.isNil && !value.receiptId.isNil && isAbsolutePath platform value.stagingRoot
  | .rawImportAbort value => !value.importId.isNil && !value.receiptId.isNil
  | .playerOpen value =>
      !value.playerSessionId.isNil && admissibleSource value.source && value.streamGeneration != 0
  | .playerStep value =>
      !value.playerSessionId.isNil && value.streamGeneration != 0 &&
        1 ≤ value.maximumDecodedFrames && value.maximumDecodedFrames ≤ 24
  | .playerReset value => !value.playerSessionId.isNil && value.newStreamGeneration != 0
  | .deckLoad value => value.admissible platform
  | .deckProcess value =>
      admissibleDeckIdentity value.deckSessionId value.deckRevision && value.streamGeneration != 0
  | .deckControlsSet value =>
      admissibleDeckIdentity value.deckSessionId value.deckRevision &&
        admissibleControls value.controls
  | .deckRolesSet value =>
      admissibleDeckIdentity value.deckSessionId value.deckRevision &&
        admissibleRoles (roleBindings value.roles.asSlice)
  | .deckTransportSet value =>
      admissibleDeckIdentity value.deckSessionId value.deckRevision &&
        admissibleTransport (sourceTransport value.sources.asSlice) false
  | .deckSeedSet value => admissibleDeckIdentity value.deckSessionId value.deckRevision
  | .deckReset value =>
      admissibleDeckIdentity value.deckSessionId value.deckRevision &&
        value.newStreamGeneration != 0
  | .deckRestart value => admissibleDeckIdentity value.deckSessionId value.deckRevision
  | .captureStart value =>
      admissibleDeckIdentity value.deckSessionId value.deckRevision && !value.captureId.isNil &&
        isAbsolutePath platform value.stagingRoot && 1 ≤ value.maximumLatentSlots &&
        value.maximumLatentSlots ≤ Control.maxCaptureLatentSlots &&
        1 ≤ value.maximumVisualBytes &&
        value.maximumVisualBytes ≤ Control.maxCaptureVisualBytes &&
        1 ≤ value.maximumResetEvents && value.maximumResetEvents ≤ Control.maxCaptureEvents
  | .captureStop value | .captureStatus value =>
      admissibleDeckIdentity value.deckSessionId value.deckRevision && !value.captureId.isNil

/-- The message of an envelope that reaches the worker. -/
inductive Incoming where
  | command (value : Command)
  | other

structure Envelope where
  sessionId : Uuid
  sequence : UInt64
  messageId : Uuid
  senderUptimeNs : UInt64
  message : Incoming

/-- `validate_envelope` of what reaches the worker. -/
def Envelope.admissible (platform : Platform) (envelope : Envelope) : Bool :=
  !envelope.sessionId.isNil && envelope.sequence != 0 && !envelope.messageId.isNil &&
    match envelope.message with
    | .command value => value.admissible platform
    | .other => true

structure Status where
  session : Control.SessionState
  codec : Control.CodecState
  player : Control.PlayerState
  deck : Control.DeckState
  capture : Control.CaptureState
  openSessionCount : Nat
  foregroundOutputSession : Option Uuid
  outputLeasePinned : Bool

/-- `_validate_status`. -/
def Status.admissible (status : Status) : Bool :=
  status.openSessionCount ≤ 4 && status.foregroundOutputSession.all (!·.isNil) &&
    !(status.outputLeasePinned && status.foregroundOutputSession.isNone)

structure RingBinding where
  ringId : Uuid
  kind : Control.RingKind
  slotCount : Nat
  slotBytes : Nat

/-- `_receipt_wire` — a receipt with its interpreter version split into numbers. -/
structure ReceiptWire where
  receipt : ProfileReceipt
  pythonMajor : Nat
  pythonMinor : Nat

/-- `_player_status_wire`. -/
structure PlayerStatus where
  playerSessionId : Uuid
  state : Control.PlayerState
  streamGeneration : Nat
  streamSequence : Nat
  playheadSlot : Nat
  endOfStream : Bool
  decodedRingId : Option Uuid

/-- `_validate_player_status`. -/
def PlayerStatus.admissible (status : PlayerStatus) : Bool :=
  !status.playerSessionId.isNil && fits status.streamGeneration 0 &&
    (status.state == .empty || status.streamGeneration != 0) && fits status.streamSequence 0 &&
    fits status.playheadSlot 0 && status.decodedRingId.all (!·.isNil)

/-- A playhead of `_deck_status_wire`. -/
structure Playhead where
  physicalSlot : Nat
  latentSlot : Nat
  loopEnabled : Bool
  endOfStream : Bool

/-- `_deck_status_wire`. -/
structure DeckStatus where
  deckSessionId : Uuid
  state : Control.DeckState
  deckRevision : Nat
  streamGeneration : Nat
  streamSequence : Nat
  playheads : List Playhead
  roles : List RoleBinding
  controls : List ControlWire
  sourceTransport : List SourceTransport
  seed : Nat
  captureState : Control.CaptureState

/-- `_validate_deck_status`. -/
def DeckStatus.admissible (status : DeckStatus) : Bool :=
  !status.deckSessionId.isNil && fits status.deckRevision 0 && fits status.streamGeneration 0 &&
    (status.state == .empty || (status.deckRevision != 0 && status.streamGeneration != 0)) &&
    fits status.streamSequence 0 && status.playheads.length ≤ 16 &&
    status.playheads.all (fun playhead => 1 ≤ playhead.physicalSlot &&
      playhead.physicalSlot ≤ 16 && fits playhead.latentSlot 0) &&
    decide (status.playheads.map (·.physicalSlot)).Nodup &&
    admissibleTransport status.sourceTransport (status.state == .empty) &&
    -- The two sets of physical slots are equal.
    (status.sourceTransport.map (·.physicalSlot)).all
      (status.playheads.map (·.physicalSlot)).contains &&
    (status.playheads.map (·.physicalSlot)).all
      (status.sourceTransport.map (·.physicalSlot)).contains &&
    admissibleRoles status.roles && admissibleControls status.controls && fits status.seed 0

structure CaptureArtifact where
  stagedPayloadPath : String
  payloadSha256 : String
  payloadByteLength : Int
  latentSlots : Int
  decodedFrameCount : Int

/-- `_capture_status_wire`. -/
structure CaptureStatus where
  deckSessionId : Uuid
  deckRevision : Nat
  captureId : Uuid
  state : Control.CaptureState
  mode : Control.CaptureMode
  latentSlots : Nat
  resetEvents : Nat
  artifact : Option CaptureArtifact

/-- `_validate_capture_status`. -/
def CaptureStatus.admissible (platform : Platform) (status : CaptureStatus) : Bool :=
  !status.deckSessionId.isNil && fits status.deckRevision 1 && !status.captureId.isNil &&
    status.state != .idle && status.latentSlots ≤ 1048576 && status.resetEvents ≤ 32 &&
    (decide (status.state = .completed) == status.artifact.isSome) &&
    status.artifact.all fun artifact =>
      isAbsolutePath platform artifact.stagedPayloadPath && isSha256 artifact.payloadSha256 &&
        fits artifact.payloadByteLength 1 && 1 ≤ artifact.latentSlots &&
        artifact.latentSlots ≤ 1048576 && fits artifact.decodedFrameCount 1 &&
        artifact.latentSlots == (status.latentSlots : Int)

/-- `_metrics` — the counters of a worker. -/
structure Metrics where
  commandsTotal : Nat
  commandsFailedTotal : Nat
  playerStepsTotal : Nat
  deckProcessTotal : Nat
  captureSlotsTotal : Nat
  decodedFramesTotal : Int

inductive Ack where
  | sessionConfigure (capabilities : List Capability)
  | sessionStatus (status : Status)
  | sessionShutdown (reason : Control.ShutdownReason)
  | codecDescriptor (descriptor : CodecDescriptor)
  | codecLoad (packId packVersion adapterId adapterVersion : String)
      (device : Control.DeviceKind) (deviceOrdinal : Nat)
  | codecUnload (packId packVersion : String)
  | sourceOpen (sourceId cartridgeId : Uuid) (archiveSha256 : String)
  | sourceClose (sourceId : Uuid)
  | ringConfigure (ring : RingBinding)
  | ringRelease (ringId : Uuid)
  | profileInspect (sourceId : Uuid) (inspection : ProfileInspection)
  | profileValidate (receipt : ReceiptWire)
  | rawImportPreflight (preflight : RawImportPreflight)
  | rawImportStage (artifact : RawImportArtifact)
  | rawImportAbort (importId receiptId : Uuid)
  /-- `player.open`, `player.reset` and `player.status`. -/
  | playerStatus (status : PlayerStatus)
  | playerStep (status : PlayerStatus) (outputRingId : Uuid) (outputSlotSequence : Int)
      (decodedFrames : Int)
  /-- Every deck command but `deck.process`. -/
  | deckStatus (status : DeckStatus)
  | deckProcess (status : DeckStatus) (outputRingId : Uuid) (outputSlotSequence : Int)
      (provenance : List ControlWire)
  | captureStatus (status : CaptureStatus)
  | metricsGet (workerUptimeNs : Nat) (metrics : Metrics)

/-- `_validate_signal_geometry`. -/
def SignalGeometry.admissible (geometry : SignalGeometry) : Bool :=
  [geometry.channels, geometry.latentHeight, geometry.latentWidth, geometry.decodedHeight,
    geometry.decodedWidth, geometry.frameRateNumerator, geometry.frameRateDenominator].all fits32 &&
    isIdentifier geometry.timingContract && isVersion geometry.timingContractVersion

/-- `_validate_profile_receipt`. -/
def ReceiptWire.admissible (wire : ReceiptWire) : Bool :=
  let receipt := wire.receipt
  let abi := receipt.tensorAbi
  !receipt.receiptId.isNil && !receipt.cartridgeId.isNil && isSha256 receipt.archiveSha256 &&
    isSha256 receipt.payloadSha256 && isIdentifier receipt.packId &&
    isIdentifier receipt.adapterId && isVersion receipt.packVersion &&
    isVersion receipt.adapterVersion && receipt.profileKey.admissible &&
    receipt.signalGeometry.admissible && wire.pythonMajor == 3 && wire.pythonMinor == 13 &&
    isVersion abi.torchVersion && ["float16", "bfloat16", "float32"].contains abi.dtype &&
    abi.shape.length == 5 && abi.shape.all fits32 && abi.shape[0]? == some 1 &&
    abi.shape[2]? == some 1 && abi.contiguous && ["cpu", "cuda"].contains abi.device &&
    receipt.decodedAbi.pixelFormat == "rgba8" && 1 ≤ receipt.decodedAbi.maximumBatch &&
    receipt.decodedAbi.maximumBatch ≤ 24 &&
    [abi.shape[1]?, abi.shape[3]?, abi.shape[4]?] == [some receipt.signalGeometry.channels,
      some receipt.signalGeometry.latentHeight, some receipt.signalGeometry.latentWidth] &&
    admissibleCapabilities receipt.capabilities && !receipt.capabilities.isEmpty &&
    fits receipt.estimatedHostBytes 0 && fits receipt.estimatedDeviceBytes 0

/-- The tensor check of `_validate_raw_import_metadata`. -/
def RawImportTensor.admissible (tensor : RawImportTensor) : Bool :=
  ["visual", "audio"].contains tensor.stream && isIdentifier tensor.name &&
    ["F16", "F32"].contains tensor.storageDtype && ["F16", "F32"].contains tensor.runtimeDtype &&
    1 ≤ tensor.shape.length && tensor.shape.length ≤ 8 && tensor.shape.all fits32 &&
    -- Positive axes: no partial product exceeds the whole one.
    tensor.shape.prod ≤ maxRawImportSourceBytes

/-- `_validate_raw_import_metadata`. -/
def RawImportMetadata.admissible (metadata : RawImportMetadata) : Bool :=
  let visualCount := metadata.tensors.countP (·.stream == "visual")
  let audioCount := metadata.tensors.countP (·.stream == "audio")
  metadata.profileKey.admissible && isText metadata.payloadEntry 512 &&
    isArchiveEntry metadata.payloadEntry &&
    metadata.payloadMediaType == "application/vnd.safetensors" &&
    1 ≤ metadata.tensors.length && metadata.tensors.length ≤ 64 &&
    metadata.tensors.all RawImportTensor.admissible &&
    decide (metadata.tensors.map (·.name)).Nodup && visualCount == 1 && audioCount ≤ 1 &&
    isIdentifier metadata.timingContract && isVersion metadata.timingContractVersion &&
    [metadata.decodedWidth, metadata.decodedHeight, metadata.decodedFrameCount,
      metadata.frameRateNumerator, metadata.frameRateDenominator, metadata.durationNumerator,
      metadata.durationDenominator].all (fits · 1) &&
    ["source_absent", "preserved_source"].contains metadata.audioPolicy &&
    (audioCount == 1) == (metadata.audioPolicy == "preserved_source")

/-- `_validate_ack`. -/
def Ack.admissible (platform : Platform) : Ack → Bool
  | .sessionConfigure capabilities =>
      admissibleCapabilities capabilities && !capabilities.isEmpty
  | .sessionStatus status => status.admissible
  | .sessionShutdown _ => true
  | .codecDescriptor descriptor =>
      isIdentifier descriptor.packId && isIdentifier descriptor.adapterId &&
        isVersion descriptor.packVersion && isVersion descriptor.adapterVersion &&
        descriptor.hostApiVersion == "2.0" && admissibleCapabilities descriptor.capabilities &&
        Capability.requiredCodecV2.all (descriptor.capabilities.contains ·) &&
        1 ≤ descriptor.profiles.length && descriptor.profiles.length ≤ 64 &&
        descriptor.profiles.all ProfileKey.admissible && decide descriptor.profiles.Nodup
  | .codecLoad packId packVersion adapterId adapterVersion _ deviceOrdinal =>
      isIdentifier packId && isIdentifier adapterId && isVersion packVersion &&
        isVersion adapterVersion && deviceOrdinal ≤ 255
  | .codecUnload packId packVersion => isIdentifier packId && isVersion packVersion
  | .sourceOpen sourceId cartridgeId archiveSha256 =>
      !sourceId.isNil && !cartridgeId.isNil && isSha256 archiveSha256
  | .sourceClose sourceId => !sourceId.isNil
  | .ringConfigure ring =>
      !ring.ringId.isNil && 2 ≤ ring.slotCount && ring.slotCount ≤ 24 && fits ring.slotBytes 1
  | .ringRelease ringId => !ringId.isNil
  | .profileInspect sourceId inspection =>
      !sourceId.isNil && !inspection.cartridgeId.isNil && isSha256 inspection.archiveSha256 &&
        isSha256 inspection.payloadSha256 && inspection.profileKey.admissible &&
        inspection.signalGeometry.admissible
  | .profileValidate receipt => receipt.admissible
  | .rawImportPreflight preflight =>
      !preflight.receiptId.isNil && !preflight.importId.isNil && isIdentifier preflight.packId &&
        isIdentifier preflight.adapterId && isVersion preflight.packVersion &&
        isVersion preflight.adapterVersion && isSha256 preflight.sourceSha256 &&
        1 ≤ preflight.sourceByteLength && preflight.sourceByteLength ≤ maxRawImportSourceBytes &&
        preflight.metadata.admissible
  | .rawImportStage artifact =>
      !artifact.receiptId.isNil && !artifact.importId.isNil &&
        isAbsolutePath platform artifact.stagedPayloadPath && isSha256 artifact.payloadSha256 &&
        1 ≤ artifact.payloadByteLength && artifact.payloadByteLength ≤ maxRawImportSourceBytes
  | .rawImportAbort importId receiptId => !importId.isNil && !receiptId.isNil
  | .playerStatus status => status.admissible
  | .playerStep status outputRingId outputSlotSequence decodedFrames =>
      status.admissible && !outputRingId.isNil && fits outputSlotSequence 0 &&
        0 ≤ decodedFrames && decodedFrames ≤ 24
  | .deckStatus status => status.admissible
  | .deckProcess status outputRingId outputSlotSequence provenance =>
      status.admissible && !outputRingId.isNil && fits outputSlotSequence 1 &&
        admissibleControls provenance
  | .captureStatus status => status.admissible platform
  | .metricsGet workerUptimeNs metrics =>
      fits workerUptimeNs 0 && fits metrics.commandsTotal 0 && fits metrics.commandsFailedTotal 0 &&
        fits metrics.playerStepsTotal 0 && fits metrics.deckProcessTotal 0 &&
        fits metrics.captureSlotsTotal 0 && fits metrics.decodedFramesTotal 0

structure ErrorPayload where
  error : WorkerRuntimeError
  status : Status
  diagnosticId : Uuid

/-- `_validate_error_payload`. -/
def ErrorPayload.admissible (payload : ErrorPayload) : Bool :=
  isText payload.error.detail 4096 && !payload.diagnosticId.isNil && payload.status.admissible &&
    payload.error.details.length ≤ 16 &&
    payload.error.details.all (fun detail => isIdentifier detail.1 && isText detail.2 4096) &&
    decide (payload.error.details.map Prod.fst).Nodup

inductive ReplyMessage where
  | ack (replyTo : Uuid) (name : CommandName) (payload : Ack) (status : Status)
  | error (replyTo : Uuid) (name : CommandName) (payload : ErrorPayload)

/-- The check of the message in `validate_envelope`. -/
def ReplyMessage.admissible (platform : Platform) : ReplyMessage → Bool
  | .ack replyTo _ payload status =>
      !replyTo.isNil && payload.admissible platform && status.admissible
  | .error replyTo _ payload => !replyTo.isNil && payload.admissible

structure Reply where
  sessionId : Uuid
  sequence : Nat
  messageId : Uuid
  senderUptimeNs : Nat
  message : ReplyMessage

/-- `validate_envelope` of a reply. -/
def Reply.admissible (platform : Platform) (reply : Reply) : Bool :=
  !reply.sessionId.isNil && fits reply.sequence 1 && !reply.messageId.isNil &&
    fits reply.senderUptimeNs 0 && reply.message.admissible platform

def Reply.isAck (reply : Reply) : Bool :=
  match reply.message with
  | .ack .. => true
  | .error .. => false

end LatentDeck.CodecHost
