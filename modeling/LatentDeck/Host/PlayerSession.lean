import LatentDeck.Control.Messages
import LatentDeck.Library.Dialogue
import LatentDeck.Ring.Abi

/-!
# The startup of a player session

The host negotiates with a worker that may answer anything: eight commands, each sent after the
answer to the one before was compared with what had been asked for. The source is opened before the
codec is loaded, because the codec is loaded only for a cartridge whose profile receipt has been
checked.
-/

namespace LatentDeck.Host

open Fallible
open Control (Ack Capability CodecDescriptor CodecLoaded Command CommandName DecodedAbi DeviceKind
  ExternalAssetBinding LimitedVec PlayerStatusSnapshot ProfileInspection ProfileKey ProfileReceipt
  RingConfigured RingKind SessionConfigured SignalGeometry SourceOpened TensorAbi Uuid)
open LatentDeck.Ring (RingError RingV2Descriptor)

/-- `PlayerCodecSelectionV2`. -/
structure PlayerCodecSelection where
  packId : String
  packVersion : String
  adapterId : String
  adapterVersion : String

/-- `PlayerSessionV2SourceIdentity`. -/
structure SourceIdentity where
  sourceId : Uuid
  cartridgeId : Uuid
  archiveSha256 : String
  archiveBytes : UInt64
  payloadSha256 : String

/-- `PlayerSessionV2HostContract`. -/
structure HostContract where
  appVersion : String
  playerSessionId : Uuid
  ringId : Uuid
  profileKey : ProfileKey
  signalGeometry : SignalGeometry
  tensorAbi : TensorAbi
  decodedAbi : DecodedAbi
  maximumEstimatedHostBytes : UInt64
  maximumEstimatedDeviceBytes : UInt64
  deviceOrdinal : UInt8
  ringSlotCount : UInt8
  streamGeneration : UInt64
  heartbeatIntervalMs : UInt32
  heartbeatHardTimeoutMs : UInt32
  /-- `command_timeout` in nanoseconds. -/
  commandTimeout : Nat

/-- `PlayerSessionV2Error`. -/
inductive PlayerSessionError where
  | invalidHostContract (part : String)
  | incompatiblePackage (part : String)
  | unexpectedAck (expected actual : CommandName)
  | packageMismatch
  | profileMismatch
  | signalMismatch
  | tensorAbiMismatch
  | capabilityMismatch
  | invalidNativeTransfer
  | transport
  | ring (error : RingError)

/-- `PlayerSessionV2PreparedRing`. -/
structure PreparedRing (Owner Consumer : Type) where
  command : Command
  owner : Owner
  consumer : Consumer

/-- The local part of `PlayerSessionV2StartupIo`: retained handles and the anonymous ring. -/
structure StartupIo (Owner Consumer : Type) where
  prepareSourceOpen : SourceIdentity → Except PlayerSessionError Command
  prepareDecodedRing : RingV2Descriptor → Uuid →
    Except PlayerSessionError (PreparedRing Owner Consumer)

/-- `NegotiatedPlayerSessionV2`. -/
structure NegotiatedPlayerSession (Owner Consumer : Type) where
  profileReceipt : ProfileReceipt
  ringOwner : Owner
  ringConsumer : Consumer

abbrev StartupCheck : Type := Except PlayerSessionError Unit

def hostApiVersion : String := "2.0"
def maxInflightBatches : UInt8 := 1

def requireCapabilities (actual required : List Capability) : StartupCheck :=
  refuseWhen (¬ actual.Nodup ∨ ¬ ∀ capability ∈ required, capability ∈ actual) .capabilityMismatch

/-- `validate_host_contract`, given whether a text is a semantic version. -/
def validateHostContract (isVersion : String → Bool) (host : HostContract) : StartupCheck := do
  refuseWhen (¬ isVersion host.appVersion) (.invalidHostContract "app version")
  refuseWhen (host.playerSessionId.isNil ∨ host.ringId.isNil ∨ host.maximumEstimatedHostBytes = 0 ∨
      host.tensorAbi.device = .cuda ∧ host.maximumEstimatedDeviceBytes = 0 ∨
      host.streamGeneration = 0 ∨ host.commandTimeout = 0)
    (.invalidHostContract "identity, memory, generation, or timeout")
  refuseWhen (¬ (2 ≤ host.ringSlotCount ∧ host.ringSlotCount ≤ Control.maxDecodeBatch) ∨
      ¬ (1 ≤ host.decodedAbi.maximumBatch ∧ host.decodedAbi.maximumBatch ≤ Control.maxDecodeBatch) ∨
      host.decodedAbi.pixelFormat ≠ "rgba8")
    (.invalidHostContract "decoded ring ABI")
  refuseWhen (host.heartbeatIntervalMs < 250 ∨ 60000 < host.heartbeatIntervalMs ∨
      -- `saturating_mul(3)` on 32 bits.
      host.heartbeatHardTimeoutMs.toNat < min (host.heartbeatIntervalMs.toNat * 3) (2 ^ 32 - 1))
    (.invalidHostContract "heartbeat")
  let tensor := host.tensorAbi
  let signal := host.signalGeometry
  refuseWhen (tensor.pythonMajor ≠ 3 ∨ tensor.pythonMinor ≠ 13 ∨ tensor.torchVersion = "" ∨
      tensor.shape.get 0 ≠ 1 ∨ tensor.shape.get 2 ≠ 1 ∨ 0 ∈ tensor.shape.toList ∨
      ¬ tensor.contiguous ∨ tensor.shape.get 1 ≠ signal.channels ∨
      tensor.shape.get 3 ≠ signal.latentHeight ∨ tensor.shape.get 4 ≠ signal.latentWidth)
    (.invalidHostContract "tensor ABI")
  refuseWhen (signal.channels = 0 ∨ signal.latentHeight = 0 ∨ signal.latentWidth = 0 ∨
      signal.decodedHeight = 0 ∨ signal.decodedWidth = 0 ∨ signal.frameRateNumerator = 0 ∨
      signal.frameRateDenominator = 0 ∨ signal.timingContract = "" ∨
      signal.timingContractVersion = "")
    (.invalidHostContract "signal geometry")

/-- `is_sha256`. -/
def isDigest (value : String) : Bool :=
  value.utf8ByteSize == 64 && (Text.utf8Bytes value).all Text.isLowerHex

def validateSourceIdentity (source : SourceIdentity) : StartupCheck :=
  refuseWhen (source.sourceId.isNil ∨ source.cartridgeId.isNil ∨ source.archiveBytes = 0 ∨
    ¬ isDigest source.archiveSha256 ∨ ¬ isDigest source.payloadSha256) .invalidNativeTransfer

def validateSourceOpenTransfer (command : Command) (source : SourceIdentity) : StartupCheck :=
  match command with
  | .sourceOpen transfer =>
      refuseWhen (transfer.sourceId ≠ source.sourceId ∨ transfer.cartridgeId ≠ source.cartridgeId ∨
        transfer.archiveSha256 ≠ source.archiveSha256 ∨
        transfer.archiveBytes ≠ source.archiveBytes ∨ transfer.retainedNativeHandle = 0 ∨
        transfer.integrityAccessReceipt = "") .invalidNativeTransfer
  | _ => .error .invalidNativeTransfer

def validateRingTransfer (command : Command) (descriptor : RingV2Descriptor) (ringId : Uuid) :
    StartupCheck :=
  match command with
  | .ringConfigure configure =>
      refuseWhen (configure.ringId ≠ ringId ∨ configure.kind ≠ .decodedRgba ∨
        configure.mappingHandle = 0 ∨ configure.readyEventHandle = 0 ∨
        configure.consumedEventHandle = 0 ∨
        configure.slotCount.toNat ≠ descriptor.layout.slotCount ∨
        configure.slotBytes.toNat ≠ descriptor.layout.slotBytes) .invalidNativeTransfer
  | _ => .error .invalidNativeTransfer

section Negotiation

variable (selection : PlayerCodecSelection) (source : SourceIdentity) (host : HostContract)

def validateProfileReceipt (receipt : ProfileReceipt) : StartupCheck := do
  receipt.validate.mapError fun _ => .packageMismatch
  refuseWhen (receipt.cartridgeId ≠ source.cartridgeId ∨
    receipt.archiveSha256 ≠ source.archiveSha256 ∨ receipt.payloadSha256 ≠ source.payloadSha256 ∨
    receipt.packId ≠ selection.packId ∨ receipt.packVersion ≠ selection.packVersion ∨
    receipt.adapterId ≠ selection.adapterId ∨ receipt.adapterVersion ≠ selection.adapterVersion)
    .packageMismatch
  refuseWhen (receipt.profileKey ≠ host.profileKey) .profileMismatch
  refuseWhen (receipt.signalGeometry ≠ host.signalGeometry ∨
    host.maximumEstimatedHostBytes < receipt.estimatedHostBytes ∨
    host.maximumEstimatedDeviceBytes < receipt.estimatedDeviceBytes ∨
    host.tensorAbi.device = .cpu ∧ receipt.estimatedDeviceBytes ≠ 0 ∨
    host.tensorAbi.device = .cuda ∧ receipt.estimatedDeviceBytes = 0) .signalMismatch
  refuseWhen (receipt.tensorAbi ≠ host.tensorAbi ∨ receipt.decodedAbi ≠ host.decodedAbi)
    .tensorAbiMismatch
  requireCapabilities receipt.capabilities.asSlice [.player]

/-- The check of the answer to `session.configure`. -/
def checkConfigured (configured : SessionConfigured) : StartupCheck := do
  refuseWhen (configured.selectedProtocolVersion ≠ Control.protocolVersion ∨
      configured.maximumFrameBytes.toNat ≠ Control.maxFrameBytes)
    (.incompatiblePackage "worker protocol or control frame bound")
  requireCapabilities configured.acceptedCapabilities.asSlice [.player]

/-- The check of the answer to `codec.descriptor`. -/
def checkDescriptor (descriptor : CodecDescriptor) : StartupCheck := do
  refuseWhen (descriptor.packId ≠ selection.packId ∨
    descriptor.packVersion ≠ selection.packVersion ∨ descriptor.adapterId ≠ selection.adapterId ∨
    descriptor.adapterVersion ≠ selection.adapterVersion) .packageMismatch
  refuseWhen (descriptor.hostApiVersion ≠ hostApiVersion) (.incompatiblePackage "host API")
  requireCapabilities descriptor.capabilities.asSlice Capability.requiredCodecV2
  refuseWhen (host.profileKey ∉ descriptor.profiles.asSlice) .profileMismatch

/-- The check of the answer to `source.open`. -/
def checkOpened (opened : SourceOpened) : StartupCheck :=
  refuseWhen (opened.sourceId ≠ source.sourceId ∨ opened.cartridgeId ≠ source.cartridgeId ∨
    opened.archiveSha256 ≠ source.archiveSha256) .packageMismatch

/-- The check of the answer to `profile.inspect`. -/
def checkInspection (inspection : ProfileInspection) : StartupCheck := do
  refuseWhen (inspection.sourceId ≠ source.sourceId ∨
    inspection.cartridgeId ≠ source.cartridgeId ∨
    inspection.archiveSha256 ≠ source.archiveSha256 ∨
    inspection.payloadSha256 ≠ source.payloadSha256) .packageMismatch
  refuseWhen (inspection.profileKey ≠ host.profileKey) .profileMismatch
  refuseWhen (inspection.signalGeometry ≠ host.signalGeometry) .signalMismatch

/-- The check of the answer to `codec.load`. -/
def checkLoaded (loaded : CodecLoaded) : StartupCheck :=
  refuseWhen (loaded.packId ≠ selection.packId ∨ loaded.packVersion ≠ selection.packVersion ∨
    loaded.adapterId ≠ selection.adapterId ∨ loaded.adapterVersion ≠ selection.adapterVersion ∨
    loaded.device ≠ host.tensorAbi.device ∨ loaded.deviceOrdinal ≠ host.deviceOrdinal)
    .packageMismatch

/-- The check of the answer to `ring.configure`. -/
def checkRing (descriptor : RingV2Descriptor) (configured : RingConfigured) : StartupCheck :=
  refuseWhen (configured.ringId ≠ host.ringId ∨ configured.kind ≠ .decodedRgba ∨
    configured.slotCount.toNat ≠ descriptor.layout.slotCount ∨
    configured.slotBytes.toNat ≠ descriptor.layout.slotBytes) .packageMismatch

/-- The check of the answer to `player.open`. -/
def checkPlayer (status : PlayerStatusSnapshot) : StartupCheck :=
  refuseWhen (status.playerSessionId ≠ host.playerSessionId ∨
    status.streamGeneration ≠ host.streamGeneration ∨ status.streamSequence ≠ 0 ∨
    status.playheadSlot ≠ 0 ∨ status.endOfStream ∨ status.decodedRingId ≠ some host.ringId ∨
    ¬ (status.state = .ready ∨ status.state = .paused)) .packageMismatch

/-- `session.configure` as the startup sends it. -/
def configureCommand (capabilities : LimitedVec Capability Control.maxCapabilities) : Command :=
  .sessionConfigure {
    selectedProtocolVersion := Control.protocolVersion
    appVersion := host.appVersion
    heartbeatIntervalMs := host.heartbeatIntervalMs
    heartbeatHardTimeoutMs := host.heartbeatHardTimeoutMs
    maxFrameBytes := UInt32.ofNat Control.maxFrameBytes
    maxInflightBatches := maxInflightBatches
    requestedCapabilities := capabilities }

/-- `codec.descriptor` as the startup sends it. -/
def descriptorCommand : Command :=
  .codecDescriptor {
    packId := selection.packId
    packVersion := selection.packVersion
    adapterId := selection.adapterId }

/-- `profile.inspect` as the startup sends it. -/
def inspectCommand : Command :=
  .profileInspect {
    sourceId := source.sourceId
    cartridgeId := source.cartridgeId
    archiveSha256 := source.archiveSha256 }

/-- `profile.validate` as the startup sends it. -/
def validateCommand (capabilities : LimitedVec Capability Control.maxCapabilities) : Command :=
  .profileValidate {
    sourceId := source.sourceId
    expectedProfile := host.profileKey
    requiredCapabilities := capabilities }

/-- `codec.load` as the startup sends it. -/
def loadCommand (assets : LimitedVec ExternalAssetBinding Control.maxExternalAssets) : Command :=
  .codecLoad {
    packId := selection.packId
    packVersion := selection.packVersion
    adapterId := selection.adapterId
    adapterVersion := selection.adapterVersion
    device := host.tensorAbi.device
    deviceOrdinal := host.deviceOrdinal
    externalAssets := assets }

/-- `player.open` as the startup sends it: the worker never loops a player. -/
def openCommand (receipt : ProfileReceipt) : Command :=
  .playerOpen {
    playerSessionId := host.playerSessionId
    source := {
      physicalSlot := 1
      sourceId := source.sourceId
      cartridgeId := source.cartridgeId
      archiveSha256 := source.archiveSha256
      profileReceiptId := receipt.receiptId
      loopEnabled := false }
    streamGeneration := host.streamGeneration }

def limitedCapabilities (values : List Capability) :
    Except PlayerSessionError (LimitedVec Capability Control.maxCapabilities) :=
  orError (LimitedVec.tryFromVec values Control.maxCapabilities) (.invalidHostContract "capability bound")

def unexpected (expected : CommandName) (actual : Ack) : PlayerSessionError :=
  .unexpectedAck expected actual.name

/-! The payload of each acknowledgement that the startup expects. -/

/-- The payload of an `Ack` of `sessionConfigure`. -/
def configuredOf : Ack → Option SessionConfigured
  | .sessionConfigure value => some value
  | _ => none

variable {ack : Ack}

/-- Only an `Ack` of `sessionConfigure` has such a payload. -/
theorem configuredOf_eq_some {value : SessionConfigured} (read : configuredOf ack = some value) :
    ack = .sessionConfigure value := by
  cases ack with
  | sessionConfigure payload => exact congrArg Ack.sessionConfigure (Option.some.inj read)
  | _ => exact nomatch read

/-- The payload of an `Ack` of `codecDescriptor`. -/
def descriptorPayload : Ack → Option CodecDescriptor
  | .codecDescriptor value => some value
  | _ => none

/-- Only an `Ack` of `codecDescriptor` has such a payload. -/
theorem descriptorPayload_eq_some {value : CodecDescriptor}
    (read : descriptorPayload ack = some value) : ack = .codecDescriptor value := by
  cases ack with
  | codecDescriptor payload => exact congrArg Ack.codecDescriptor (Option.some.inj read)
  | _ => exact nomatch read

/-- The payload of an `Ack` of `sourceOpen`. -/
def openedOf : Ack → Option SourceOpened
  | .sourceOpen value => some value
  | _ => none

/-- Only an `Ack` of `sourceOpen` has such a payload. -/
theorem openedOf_eq_some {value : SourceOpened} (read : openedOf ack = some value) :
    ack = .sourceOpen value := by
  cases ack with
  | sourceOpen payload => exact congrArg Ack.sourceOpen (Option.some.inj read)
  | _ => exact nomatch read

/-- The payload of an `Ack` of `profileInspect`. -/
def inspectionOf : Ack → Option ProfileInspection
  | .profileInspect value => some value
  | _ => none

/-- Only an `Ack` of `profileInspect` has such a payload. -/
theorem inspectionOf_eq_some {value : ProfileInspection} (read : inspectionOf ack = some value) :
    ack = .profileInspect value := by
  cases ack with
  | profileInspect payload => exact congrArg Ack.profileInspect (Option.some.inj read)
  | _ => exact nomatch read

/-- The payload of an `Ack` of `profileValidate`. -/
def receiptOf : Ack → Option ProfileReceipt
  | .profileValidate value => some value
  | _ => none

/-- Only an `Ack` of `profileValidate` has such a payload. -/
theorem receiptOf_eq_some {value : ProfileReceipt} (read : receiptOf ack = some value) :
    ack = .profileValidate value := by
  cases ack with
  | profileValidate payload => exact congrArg Ack.profileValidate (Option.some.inj read)
  | _ => exact nomatch read

/-- The payload of an `Ack` of `codecLoad`. -/
def loadedOf : Ack → Option CodecLoaded
  | .codecLoad value => some value
  | _ => none

/-- Only an `Ack` of `codecLoad` has such a payload. -/
theorem loadedOf_eq_some {value : CodecLoaded} (read : loadedOf ack = some value) :
    ack = .codecLoad value := by
  cases ack with
  | codecLoad payload => exact congrArg Ack.codecLoad (Option.some.inj read)
  | _ => exact nomatch read

/-- The payload of an `Ack` of `ringConfigure`. -/
def ringOf : Ack → Option RingConfigured
  | .ringConfigure value => some value
  | _ => none

/-- Only an `Ack` of `ringConfigure` has such a payload. -/
theorem ringOf_eq_some {value : RingConfigured} (read : ringOf ack = some value) :
    ack = .ringConfigure value := by
  cases ack with
  | ringConfigure payload => exact congrArg Ack.ringConfigure (Option.some.inj read)
  | _ => exact nomatch read

/-- The payload of an `Ack` of `playerOpen`. -/
def playerOf : Ack → Option PlayerStatusSnapshot
  | .playerOpen value => some value
  | _ => none

/-- Only an `Ack` of `playerOpen` has such a payload. -/
theorem playerOf_eq_some {value : PlayerStatusSnapshot} (read : playerOf ack = some value) :
    ack = .playerOpen value := by
  cases ack with
  | playerOpen payload => exact congrArg Ack.playerOpen (Option.some.inj read)
  | _ => exact nomatch read

/-- The payload of the acknowledgement that a command expects. -/
def expect {α : Type} (expected : CommandName) (payload : Ack → Option α) (ack : Ack) :
    Except PlayerSessionError α :=
  orError (payload ack) (unexpected expected ack)

abbrev Startup (α : Type) : Type := Dialogue Command Ack PlayerSessionError α

/-- `orchestrate_player_session_v2_startup`. -/
def orchestratePlayerSessionStartup {Owner Consumer : Type} (isVersion : String → Bool)
    (seam : StartupIo Owner Consumer) (externalAssets : List ExternalAssetBinding) :
    Startup (NegotiatedPlayerSession Owner Consumer) := do
  .lift (validateHostContract isVersion host)
  .lift (validateSourceIdentity source)
  let requested ← .lift (limitedCapabilities [.player])
  let ack ← .call (configureCommand host requested)
  let configured ← .lift (expect .sessionConfigure configuredOf ack)
  .lift (checkConfigured configured)
  let ack ← .call (descriptorCommand selection)
  let descriptor ← .lift (expect .codecDescriptor descriptorPayload ack)
  .lift (checkDescriptor selection host descriptor)
  let transfer ← .lift (seam.prepareSourceOpen source)
  .lift (validateSourceOpenTransfer transfer source)
  let ack ← .call transfer
  let opened ← .lift (expect .sourceOpen openedOf ack)
  .lift (checkOpened source opened)
  let ack ← .call (inspectCommand source)
  let inspection ← .lift (expect .profileInspect inspectionOf ack)
  .lift (checkInspection source host inspection)
  let required ← .lift (limitedCapabilities [.player])
  let ack ← .call (validateCommand source host required)
  let receipt ← .lift (expect .profileValidate receiptOf ack)
  .lift (validateProfileReceipt selection source host receipt)
  let assets ← .lift (orError (LimitedVec.tryFromVec externalAssets Control.maxExternalAssets)
    (.invalidHostContract "external asset bound"))
  let ack ← .call (loadCommand selection host assets)
  let loaded ← .lift (expect .codecLoad loadedOf ack)
  .lift (checkLoaded selection host loaded)
  let descriptor ← .lift ((RingV2Descriptor.new host.signalGeometry.decodedWidth
    host.signalGeometry.decodedHeight host.decodedAbi.maximumBatch.toUInt32
    host.ringSlotCount.toUInt32 host.streamGeneration).mapError .ring)
  let prepared ← .lift (seam.prepareDecodedRing descriptor host.ringId)
  .lift (validateRingTransfer prepared.command descriptor host.ringId)
  let ack ← .call prepared.command
  let ring ← .lift (expect .ringConfigure ringOf ack)
  .lift (checkRing host descriptor ring)
  let ack ← .call (openCommand source host receipt)
  let status ← .lift (expect .playerOpen playerOf ack)
  .lift (checkPlayer host status)
  return {
    profileReceipt := receipt
    ringOwner := prepared.owner
    ringConsumer := prepared.consumer }

end Negotiation

def startupOrder : List CommandName :=
  [.sessionConfigure, .codecDescriptor, .sourceOpen, .profileInspect, .profileValidate, .codecLoad,
    .ringConfigure, .playerOpen]

abbrev StartupExchange : Type := Exchange Command Ack PlayerSessionError

section Expected

variable (selection : PlayerCodecSelection) (source : SourceIdentity) (host : HostContract)
  (externalAssets : List ExternalAssetBinding)

/-- A command carries the identities that were asked for, and the player is opened with a profile
receipt that was received. -/
def Requests (log : List StartupExchange) : Command → Prop
  | .sessionConfigure value =>
      value.selectedProtocolVersion = Control.protocolVersion ∧
        value.appVersion = host.appVersion ∧ value.requestedCapabilities.asSlice = [.player]
  | .codecDescriptor value =>
      value.packId = selection.packId ∧ value.packVersion = selection.packVersion ∧
        value.adapterId = selection.adapterId
  | .sourceOpen value =>
      value.sourceId = source.sourceId ∧ value.cartridgeId = source.cartridgeId ∧
        value.archiveSha256 = source.archiveSha256 ∧ value.archiveBytes = source.archiveBytes ∧
        value.retainedNativeHandle ≠ 0 ∧ value.integrityAccessReceipt ≠ ""
  | .profileInspect value =>
      value.sourceId = source.sourceId ∧ value.cartridgeId = source.cartridgeId ∧
        value.archiveSha256 = source.archiveSha256
  | .profileValidate value =>
      value.sourceId = source.sourceId ∧ value.expectedProfile = host.profileKey ∧
        value.requiredCapabilities.asSlice = [.player]
  | .codecLoad value =>
      value.packId = selection.packId ∧ value.packVersion = selection.packVersion ∧
        value.adapterId = selection.adapterId ∧ value.adapterVersion = selection.adapterVersion ∧
        value.device = host.tensorAbi.device ∧ value.deviceOrdinal = host.deviceOrdinal ∧
        value.externalAssets.asSlice = externalAssets
  | .ringConfigure value =>
      value.ringId = host.ringId ∧ value.kind = .decodedRgba ∧ value.mappingHandle ≠ 0 ∧
        value.readyEventHandle ≠ 0 ∧ value.consumedEventHandle ≠ 0 ∧
        ∃ descriptor, RingV2Descriptor.new host.signalGeometry.decodedWidth
            host.signalGeometry.decodedHeight host.decodedAbi.maximumBatch.toUInt32
            host.ringSlotCount.toUInt32 host.streamGeneration = .ok descriptor ∧
          value.slotCount.toNat = descriptor.layout.slotCount ∧
          value.slotBytes.toNat = descriptor.layout.slotBytes
  | .playerOpen value =>
      value.playerSessionId = host.playerSessionId ∧
        value.streamGeneration = host.streamGeneration ∧ value.source.physicalSlot = 1 ∧
        value.source.sourceId = source.sourceId ∧
        value.source.cartridgeId = source.cartridgeId ∧
        value.source.archiveSha256 = source.archiveSha256 ∧ value.source.loopEnabled = false ∧
        ∃ asked receipt, Exchange.answered (asked, Ack.profileValidate receipt) ∈ log ∧
          value.source.profileReceiptId = receipt.receiptId
  | _ => False

/-- An acknowledgement repeats the identities of the command that it answers. -/
def Acknowledges : Command → Ack → Prop
  | .sessionConfigure asked, .sessionConfigure configured =>
      configured.selectedProtocolVersion = asked.selectedProtocolVersion ∧
        configured.maximumFrameBytes = asked.maxFrameBytes ∧
        configured.acceptedCapabilities.asSlice.Nodup ∧
        ∀ capability ∈ asked.requestedCapabilities.asSlice,
          capability ∈ configured.acceptedCapabilities.asSlice
  | .codecDescriptor asked, .codecDescriptor descriptor =>
      descriptor.packId = asked.packId ∧ descriptor.packVersion = asked.packVersion ∧
        descriptor.adapterId = asked.adapterId ∧
        descriptor.adapterVersion = selection.adapterVersion ∧
        descriptor.hostApiVersion = hostApiVersion ∧ descriptor.capabilities.asSlice.Nodup ∧
        (∀ capability ∈ Capability.requiredCodecV2,
          capability ∈ descriptor.capabilities.asSlice) ∧
        host.profileKey ∈ descriptor.profiles.asSlice
  | .sourceOpen asked, .sourceOpen opened =>
      opened.sourceId = asked.sourceId ∧ opened.cartridgeId = asked.cartridgeId ∧
        opened.archiveSha256 = asked.archiveSha256
  | .profileInspect asked, .profileInspect inspection =>
      inspection.sourceId = asked.sourceId ∧ inspection.cartridgeId = asked.cartridgeId ∧
        inspection.archiveSha256 = asked.archiveSha256 ∧
        inspection.payloadSha256 = source.payloadSha256 ∧
        inspection.profileKey = host.profileKey ∧
        inspection.signalGeometry = host.signalGeometry
  | .profileValidate asked, .profileValidate receipt =>
      receipt.validate = .ok () ∧ receipt.profileKey = asked.expectedProfile ∧
        receipt.cartridgeId = source.cartridgeId ∧
        receipt.archiveSha256 = source.archiveSha256 ∧
        receipt.payloadSha256 = source.payloadSha256 ∧ receipt.packId = selection.packId ∧
        receipt.packVersion = selection.packVersion ∧ receipt.adapterId = selection.adapterId ∧
        receipt.adapterVersion = selection.adapterVersion ∧
        receipt.signalGeometry = host.signalGeometry ∧ receipt.tensorAbi = host.tensorAbi ∧
        receipt.decodedAbi = host.decodedAbi ∧
        receipt.estimatedHostBytes ≤ host.maximumEstimatedHostBytes ∧
        receipt.estimatedDeviceBytes ≤ host.maximumEstimatedDeviceBytes ∧
        ¬ (host.tensorAbi.device = .cpu ∧ receipt.estimatedDeviceBytes ≠ 0) ∧
        ¬ (host.tensorAbi.device = .cuda ∧ receipt.estimatedDeviceBytes = 0) ∧
        receipt.capabilities.asSlice.Nodup ∧
        ∀ capability ∈ asked.requiredCapabilities.asSlice,
          capability ∈ receipt.capabilities.asSlice
  | .codecLoad asked, .codecLoad loaded =>
      loaded.packId = asked.packId ∧ loaded.packVersion = asked.packVersion ∧
        loaded.adapterId = asked.adapterId ∧ loaded.adapterVersion = asked.adapterVersion ∧
        loaded.device = asked.device ∧ loaded.deviceOrdinal = asked.deviceOrdinal
  | .ringConfigure asked, .ringConfigure configured =>
      configured.ringId = asked.ringId ∧ configured.kind = asked.kind ∧
        configured.slotCount = asked.slotCount ∧ configured.slotBytes = asked.slotBytes
  | .playerOpen asked, .playerOpen status =>
      status.playerSessionId = asked.playerSessionId ∧
        status.streamGeneration = asked.streamGeneration ∧ status.streamSequence = 0 ∧
        status.playheadSlot = 0 ∧ status.endOfStream = false ∧
        status.decodedRingId = some host.ringId ∧
        (status.state = .ready ∨ status.state = .paused)
  | _, _ => False

/-- The answer of an exchange is an acknowledgement of its command. -/
def Acknowledged (exchange : StartupExchange) : Prop :=
  ∃ ack, exchange.answer = .ok ack ∧
    Acknowledges selection source host exchange.question ack

def startupStages : List (Stage Command Ack) :=
  startupOrder.map fun name past command => command.name = name ∧
    Requests selection source host externalAssets (past.map Exchange.answered) command

def startupScript (Owner Consumer : Type) :
    Script Command Ack (NegotiatedPlayerSession Owner Consumer) where
  takes := Acknowledges selection source host
  returns past session := ∃ asked, (asked, Ack.profileValidate session.profileReceipt) ∈ past

theorem Requests.mono {log longer : List StartupExchange} {command : Command}
    (within : ∀ exchange ∈ log, exchange ∈ longer)
    (requests : Requests selection source host externalAssets log command) :
    Requests selection source host externalAssets longer command := by
  cases command with
  | playerOpen value =>
    obtain ⟨session, generation, slot, sourceId, cartridge, archive, loops, asked, receipt, among,
      same⟩ := requests
    exact ⟨session, generation, slot, sourceId, cartridge, archive, loops, asked, receipt,
      within _ among, same⟩
  | _ => exact requests

end Expected

section Answers

variable {selection : PlayerCodecSelection} {source : SourceIdentity} {host : HostContract}
  {ack : Ack}

theorem expect_eq_ok {α : Type} {expected : CommandName} {payload : Ack → Option α} {value : α}
    (read : expect expected payload ack = .ok value) : payload ack = some value := by
  unfold expect at read
  rw [orError_eq_ok] at read
  exact read

theorem requireCapabilities_eq_ok {actual required : List Capability} :
    requireCapabilities actual required = .ok () ↔
      actual.Nodup ∧ ∀ capability ∈ required, capability ∈ actual := by
  unfold requireCapabilities
  rw [refuseWhen_eq_ok, not_or, not_not, not_not]

variable {capabilities : LimitedVec Capability Control.maxCapabilities}

theorem limitedCapabilities_eq_ok {values : List Capability}
    (made : limitedCapabilities values = .ok capabilities) : capabilities.asSlice = values := by
  unfold limitedCapabilities at made
  rw [orError_eq_ok, LimitedVec.tryFromVec_eq_some] at made
  exact made

theorem checkConfigured_acknowledges {configured : SessionConfigured}
    (read : expect .sessionConfigure configuredOf ack = .ok configured)
    (made : limitedCapabilities [.player] = .ok capabilities)
    (passed : checkConfigured configured = .ok ()) :
    Acknowledges selection source host (configureCommand host capabilities) ack := by
  rw [configuredOf_eq_some (expect_eq_ok read)]
  unfold checkConfigured at passed
  rw [check_eq_ok, refuseWhen_eq_ok, requireCapabilities_eq_ok] at passed
  simp only [ne_eq, not_or, not_not] at passed
  obtain ⟨⟨version, frame⟩, distinct, among⟩ := passed
  have bytes : configured.maximumFrameBytes = UInt32.ofNat Control.maxFrameBytes := by
    rw [← frame, UInt32.ofNat_toNat]
  refine ⟨version, bytes, distinct, fun capability asked => among capability ?_⟩
  exact limitedCapabilities_eq_ok made ▸ asked

theorem checkDescriptor_acknowledges {descriptor : CodecDescriptor}
    (read : expect .codecDescriptor descriptorPayload ack = .ok descriptor)
    (passed : checkDescriptor selection host descriptor = .ok ()) :
    Acknowledges selection source host (descriptorCommand selection) ack := by
  rw [descriptorPayload_eq_some (expect_eq_ok read)]
  unfold checkDescriptor at passed
  rw [check_eq_ok, check_eq_ok, check_eq_ok, refuseWhen_eq_ok, refuseWhen_eq_ok, refuseWhen_eq_ok,
    requireCapabilities_eq_ok] at passed
  simp only [ne_eq, not_or, not_not] at passed
  obtain ⟨⟨pack, version, adapter, adapterVersion⟩, api, ⟨distinct, among⟩, profile⟩ := passed
  exact ⟨pack, version, adapter, adapterVersion, api, distinct, among, profile⟩

variable {transfer : Command}

theorem checkOpened_acknowledges {opened : SourceOpened}
    (read : expect .sourceOpen openedOf ack = .ok opened)
    (validated : validateSourceOpenTransfer transfer source = .ok ())
    (passed : checkOpened source opened = .ok ()) :
    Acknowledges selection source host transfer ack := by
  rw [openedOf_eq_some (expect_eq_ok read)]
  unfold checkOpened at passed
  rw [refuseWhen_eq_ok] at passed
  simp only [ne_eq, not_or, not_not] at passed
  unfold validateSourceOpenTransfer at validated
  cases transfer with
  | sourceOpen value =>
    dsimp only at validated
    rw [refuseWhen_eq_ok] at validated
    simp only [ne_eq, not_or, not_not] at validated
    exact ⟨passed.1.trans validated.1.symm, passed.2.1.trans validated.2.1.symm,
      passed.2.2.trans validated.2.2.1.symm⟩
  | _ => exact nomatch validated

theorem checkInspection_acknowledges {inspection : ProfileInspection}
    (read : expect .profileInspect inspectionOf ack = .ok inspection)
    (passed : checkInspection source host inspection = .ok ()) :
    Acknowledges selection source host (inspectCommand source) ack := by
  rw [inspectionOf_eq_some (expect_eq_ok read)]
  unfold checkInspection at passed
  rw [check_eq_ok, check_eq_ok, refuseWhen_eq_ok, refuseWhen_eq_ok, refuseWhen_eq_ok] at passed
  simp only [ne_eq, not_or, not_not] at passed
  obtain ⟨⟨sourceId, cartridge, archive, payload⟩, profile, geometry⟩ := passed
  exact ⟨sourceId, cartridge, archive, payload, profile, geometry⟩

variable {receipt : ProfileReceipt}

theorem validateProfileReceipt_acknowledges
    (read : expect .profileValidate receiptOf ack = .ok receipt)
    (made : limitedCapabilities [.player] = .ok capabilities)
    (passed : validateProfileReceipt selection source host receipt = .ok ()) :
    Acknowledges selection source host (validateCommand source host capabilities) ack := by
  rw [receiptOf_eq_some (expect_eq_ok read)]
  unfold validateProfileReceipt at passed
  iterate 5 rw [check_eq_ok] at passed
  rw [mapError_eq_ok, refuseWhen_eq_ok, refuseWhen_eq_ok, refuseWhen_eq_ok, refuseWhen_eq_ok,
    requireCapabilities_eq_ok] at passed
  simp only [ne_eq, not_or, not_not, UInt64.not_lt] at passed
  obtain ⟨valid, ⟨cartridge, archive, payload, pack, packVersion, adapter, adapterVersion⟩, profile,
    ⟨geometry, hostBytes, deviceBytes, cpu, cuda⟩, ⟨tensor, decoded⟩, distinct, among⟩ := passed
  refine ⟨valid, profile, cartridge, archive, payload, pack, packVersion, adapter, adapterVersion,
    geometry, tensor, decoded, hostBytes, deviceBytes, cpu, cuda, distinct,
    fun capability asked => among capability ?_⟩
  exact limitedCapabilities_eq_ok made ▸ asked

theorem checkLoaded_acknowledges {loaded : CodecLoaded}
    {assets : LimitedVec ExternalAssetBinding Control.maxExternalAssets}
    (read : expect .codecLoad loadedOf ack = .ok loaded)
    (passed : checkLoaded selection host loaded = .ok ()) :
    Acknowledges selection source host (loadCommand selection host assets) ack := by
  rw [loadedOf_eq_some (expect_eq_ok read)]
  unfold checkLoaded at passed
  rw [refuseWhen_eq_ok] at passed
  simp only [ne_eq, not_or, not_not] at passed
  exact passed

theorem checkRing_acknowledges {descriptor : RingV2Descriptor}
    {configured : RingConfigured} (read : expect .ringConfigure ringOf ack = .ok configured)
    (validated : validateRingTransfer transfer descriptor host.ringId = .ok ())
    (passed : checkRing host descriptor configured = .ok ()) :
    Acknowledges selection source host transfer ack := by
  rw [ringOf_eq_some (expect_eq_ok read)]
  unfold checkRing at passed
  rw [refuseWhen_eq_ok] at passed
  simp only [ne_eq, not_or, not_not] at passed
  obtain ⟨ring, kind, count, bytes⟩ := passed
  unfold validateRingTransfer at validated
  cases transfer with
  | ringConfigure value =>
    dsimp only at validated
    rw [refuseWhen_eq_ok] at validated
    simp only [ne_eq, not_or, not_not] at validated
    obtain ⟨sameRing, sameKind, -, -, -, sameCount, sameBytes⟩ := validated
    exact ⟨ring.trans sameRing.symm, kind.trans sameKind.symm,
      UInt8.toNat_inj.mp (count.trans sameCount.symm),
      UInt64.toNat_inj.mp (bytes.trans sameBytes.symm)⟩
  | _ => exact nomatch validated

theorem checkPlayer_acknowledges {status : PlayerStatusSnapshot}
    (read : expect .playerOpen playerOf ack = .ok status)
    (passed : checkPlayer host status = .ok ()) :
    Acknowledges selection source host (openCommand source host receipt) ack := by
  rw [playerOf_eq_some (expect_eq_ok read)]
  unfold checkPlayer at passed
  rw [refuseWhen_eq_ok] at passed
  simp only [ne_eq, not_or, not_not, Bool.not_eq_true] at passed
  obtain ⟨session, generation, sequence, playhead, ended, ring, state⟩ := passed
  exact ⟨session, generation, sequence, playhead, ended, ring, or_iff_not_and_not.mpr state⟩

end Answers

section Runs

variable {Owner Consumer : Type} (isVersion : String → Bool) (seam : StartupIo Owner Consumer)
  (selection : PlayerCodecSelection) (source : SourceIdentity) (host : HostContract)
  (externalAssets : List ExternalAssetBinding)

theorem validateSourceOpenTransfer_requests (log : List StartupExchange)
    (validated : validateSourceOpenTransfer transfer source = .ok ()) :
    transfer.name = .sourceOpen ∧
      Requests selection source host externalAssets log transfer := by
  unfold validateSourceOpenTransfer at validated
  cases transfer with
  | sourceOpen value =>
    dsimp only at validated
    rw [refuseWhen_eq_ok] at validated
    simp only [ne_eq, not_or, not_not] at validated
    exact ⟨rfl, validated⟩
  | _ => exact nomatch validated

/-- A validated transfer attaches the ring that was asked for. -/
theorem validateRingTransfer_requests {descriptor : RingV2Descriptor}
    (log : List StartupExchange) (described : RingV2Descriptor.new host.signalGeometry.decodedWidth
      host.signalGeometry.decodedHeight host.decodedAbi.maximumBatch.toUInt32
      host.ringSlotCount.toUInt32 host.streamGeneration = .ok descriptor)
    (validated : validateRingTransfer transfer descriptor host.ringId = .ok ()) :
    transfer.name = .ringConfigure ∧
      Requests selection source host externalAssets log transfer := by
  unfold validateRingTransfer at validated
  cases transfer with
  | ringConfigure value =>
    dsimp only at validated
    rw [refuseWhen_eq_ok] at validated
    simp only [ne_eq, not_or, not_not] at validated
    obtain ⟨ring, kind, mapping, ready, consumed, count, bytes⟩ := validated
    exact ⟨rfl, ring, kind, mapping, ready, consumed, descriptor, described, count, bytes⟩
  | _ => exact nomatch validated

theorem orchestrate_follows :
    (orchestratePlayerSessionStartup selection source host isVersion seam externalAssets).Follows
      (startupScript selection source host Owner Consumer)
      (startupStages selection source host externalAssets) [] := by
  refine Dialogue.Goes.follows (?_ : Dialogue.Goes _ True _ _ _)
  unfold orchestratePlayerSessionStartup
  apply Dialogue.Goes.lift
  intro _ _
  apply Dialogue.Goes.lift
  intro _ _
  apply Dialogue.Goes.lift
  intro requested made
  apply Dialogue.Goes.call trivial ⟨rfl, rfl, rfl, limitedCapabilities_eq_ok made⟩
  intro ack
  apply Dialogue.Goes.lift
  intro configured read
  apply Dialogue.Goes.lift
  intro _ passed
  apply Dialogue.Goes.call (checkConfigured_acknowledges read made passed) ⟨rfl, rfl, rfl, rfl⟩
  intro ack
  apply Dialogue.Goes.lift
  intro descriptor read
  apply Dialogue.Goes.lift
  intro _ passed
  apply Dialogue.Goes.lift
  intro transfer _
  apply Dialogue.Goes.lift
  intro _ validated
  apply Dialogue.Goes.call (checkDescriptor_acknowledges read passed)
    (validateSourceOpenTransfer_requests selection source host externalAssets _ validated)
  intro ack
  apply Dialogue.Goes.lift
  intro opened read
  apply Dialogue.Goes.lift
  intro _ passed
  apply Dialogue.Goes.call (checkOpened_acknowledges read validated passed) ⟨rfl, rfl, rfl, rfl⟩
  intro ack
  apply Dialogue.Goes.lift
  intro inspection read
  apply Dialogue.Goes.lift
  intro _ passed
  apply Dialogue.Goes.lift
  intro required made
  apply Dialogue.Goes.call (checkInspection_acknowledges read passed)
    ⟨rfl, rfl, rfl, limitedCapabilities_eq_ok made⟩
  intro answer
  apply Dialogue.Goes.lift
  intro receipt received
  have same := receiptOf_eq_some (expect_eq_ok received)
  apply Dialogue.Goes.lift
  intro _ passed
  apply Dialogue.Goes.lift
  intro assets limited
  rw [orError_eq_ok, LimitedVec.tryFromVec_eq_some] at limited
  apply Dialogue.Goes.call (validateProfileReceipt_acknowledges received made passed)
    ⟨rfl, rfl, rfl, rfl, rfl, rfl, rfl, limited⟩
  intro ack
  apply Dialogue.Goes.lift
  intro loaded read
  apply Dialogue.Goes.lift
  intro _ passed
  apply Dialogue.Goes.lift
  intro descriptor described
  rw [mapError_eq_ok] at described
  apply Dialogue.Goes.lift
  intro prepared _
  apply Dialogue.Goes.lift
  intro _ validated
  apply Dialogue.Goes.call (checkLoaded_acknowledges read passed)
    (validateRingTransfer_requests selection source host externalAssets _ described validated)
  intro ack
  apply Dialogue.Goes.lift
  intro ring read
  apply Dialogue.Goes.lift
  intro _ passed
  apply Dialogue.Goes.call (checkRing_acknowledges read validated passed)
  · refine ⟨rfl, rfl, rfl, rfl, rfl, rfl, rfl, rfl, validateCommand source host required, receipt, ?_,
      rfl⟩
    rw [← same]
    exact List.mem_map_of_mem (by simp)
  intro ack
  apply Dialogue.Goes.lift
  intro status read
  apply Dialogue.Goes.lift
  intro _ passed
  apply Dialogue.Goes.pure (checkPlayer_acknowledges read passed)
  refine ⟨validateCommand source host required, ?_⟩
  rw [← same]
  simp

/-- The run of a startup against a peer, whose answers may depend on everything exchanged before. -/
def startupRun (peer : List StartupExchange → Command → Except PlayerSessionError Ack) :
    List StartupExchange × Except PlayerSessionError (NegotiatedPlayerSession Owner Consumer) :=
  (orchestratePlayerSessionStartup selection source host isVersion seam externalAssets).run peer []

section

variable (peer : List StartupExchange → Command → Except PlayerSessionError Ack)

include peer

/-- Nothing is sent for a contract or a source that is refused. -/
theorem startupRun_contracted
    (sent : (startupRun isVersion seam selection source host externalAssets peer).1 ≠ []) :
    validateHostContract isVersion host = .ok () ∧ validateSourceIdentity source = .ok () := by
  unfold startupRun orchestratePlayerSessionStartup at sent
  cases contract : validateHostContract isVersion host with
  | error error =>
    rw [contract] at sent
    exact absurd rfl sent
  | ok _ =>
    rw [contract] at sent
    cases identity : validateSourceIdentity source with
    | error error =>
      rw [identity] at sent
      exact absurd rfl sent
    | ok _ => exact ⟨rfl, rfl⟩

/-- Whatever the worker answers, a startup sends its commands in one order, each with the identities
that were asked for and only after the one before was acknowledged, and returns a session only when
all eight were, with the profile receipt that was received. -/
theorem startup_gated :
    let (log, result) := startupRun isVersion seam selection source host externalAssets peer
    log.map (fun exchange => exchange.question.name) <+: startupOrder ∧
      (log ≠ [] → validateHostContract isVersion host = .ok () ∧
        validateSourceIdentity source = .ok ()) ∧
      (∀ exchange ∈ log, Requests selection source host externalAssets log exchange.question) ∧
      (∀ exchange ∈ log.dropLast, Acknowledged selection source host exchange) ∧
      ∀ session, result = .ok session →
        log.map (fun exchange => exchange.question.name) = startupOrder ∧
          (∀ exchange ∈ log, Acknowledged selection source host exchange) ∧
          ∃ asked, Exchange.answered (asked, Ack.profileValidate session.profileReceipt) ∈ log := by
  have conforms := (orchestrate_follows isVersion seam selection source host
    externalAssets).conforms peer []
  have contracted := startupRun_contracted isVersion seam selection source host externalAssets peer
  unfold startupRun at contracted ⊢
  dsimp only
  generalize ((orchestratePlayerSessionStartup selection source host isVersion seam
    externalAssets).run peer []) = run at conforms contracted
  obtain ⟨log, result⟩ := run
  dsimp only at conforms contracted ⊢
  have ordered : log.map (fun exchange => exchange.question.name) <+: startupOrder := by
    apply conforms.labels_prefix
    unfold startupStages
    rw [List.forall₂_map_left_iff]
    exact List.forall₂_same.mpr fun name _ past question asked => asked.1
  refine ⟨ordered, contracted, ?_, conforms.accepted_before, ?_⟩
  · intro exchange within
    obtain ⟨stage, among, before, allowed, known⟩ := conforms.asked exchange within
    obtain ⟨name, -, same⟩ := List.mem_map.mp among
    rw [← same] at allowed
    apply allowed.2.mono
    intro earlier inside
    obtain ⟨pair, isBefore, answered⟩ := List.mem_map.mp inside
    rw [← answered]
    exact (known pair isBefore).resolve_left List.not_mem_nil
  · intro session returned
    rw [returned] at conforms
    obtain ⟨pairs, shape, count, each, asked, received⟩ := conforms.accepted_of_ok
    refine ⟨?_, ?_, asked, ?_⟩
    · apply ordered.eq_of_length
      rw [List.length_map, shape, List.length_map, count]
      exact List.length_map _
    · intro exchange within
      rw [shape] at within
      obtain ⟨pair, isPair, same⟩ := List.mem_map.mp within
      rw [← same]
      exact ⟨pair.2, rfl, each pair isPair⟩
    · rw [shape]
      exact List.mem_map_of_mem received

end

end Runs

def blankDigest : String := "0000000000000000000000000000000000000000000000000000000000000000"

def startupSelection : PlayerCodecSelection where
  packId := "com.example.codec"
  packVersion := "1.0.0"
  adapterId := "com.example.adapter"
  adapterVersion := "1.0.0"

def startupSource : SourceIdentity where
  sourceId := 1
  cartridgeId := 2
  archiveSha256 := blankDigest
  archiveBytes := 1
  payloadSha256 := blankDigest

/-- A contract for rasters of eight by eight pixels. -/
def startupHost : HostContract where
  appVersion := "0.1.0"
  playerSessionId := 3
  ringId := 4
  profileKey := ⟨"example", "main", "1.0.0"⟩
  signalGeometry := ⟨16, 1, 1, 8, 8, 24, 1, "example", "1.0.0"⟩
  tensorAbi := ⟨3, 13, "2.9.0+cpu", .float16, #v[1, 16, 1, 1, 1], true, .cpu⟩
  decodedAbi := ⟨"rgba8", 4⟩
  maximumEstimatedHostBytes := 1
  maximumEstimatedDeviceBytes := 0
  deviceOrdinal := 0
  ringSlotCount := 2
  streamGeneration := 1
  heartbeatIntervalMs := 1000
  heartbeatHardTimeoutMs := 3000
  commandTimeout := 1

def startupSeam : StartupIo Unit Unit where
  prepareSourceOpen source := .ok (.sourceOpen
    ⟨source.sourceId, source.cartridgeId, source.archiveSha256, source.archiveBytes, 1, "receipt"⟩)
  prepareDecodedRing descriptor ringId := .ok {
    command := .ringConfigure ⟨ringId, .decodedRgba, 1, 2, 3,
      UInt8.ofNat descriptor.layout.slotCount, UInt64.ofNat descriptor.layout.slotBytes⟩
    owner := ()
    consumer := () }

/-- A worker that acknowledges every command of a startup. -/
def startupPeer (_ : List StartupExchange) : Command → Except PlayerSessionError Ack
  | .sessionConfigure asked => .ok (.sessionConfigure
      ⟨asked.selectedProtocolVersion, asked.maxFrameBytes, asked.requestedCapabilities⟩)
  | .codecDescriptor asked => .ok (.codecDescriptor {
      packId := asked.packId
      packVersion := asked.packVersion
      adapterId := asked.adapterId
      adapterVersion := "1.0.0"
      hostApiVersion := hostApiVersion
      capabilities := ⟨Capability.requiredCodecV2, by decide⟩
      profiles := ⟨[startupHost.profileKey], by decide⟩ })
  | .sourceOpen asked => .ok (.sourceOpen ⟨asked.sourceId, asked.cartridgeId, asked.archiveSha256⟩)
  | .profileInspect asked => .ok (.profileInspect {
      sourceId := asked.sourceId
      cartridgeId := asked.cartridgeId
      archiveSha256 := asked.archiveSha256
      payloadSha256 := blankDigest
      profileKey := startupHost.profileKey
      signalGeometry := startupHost.signalGeometry })
  | .profileValidate asked => .ok (.profileValidate {
      receiptId := 5
      cartridgeId := 2
      archiveSha256 := blankDigest
      payloadSha256 := blankDigest
      packId := "com.example.codec"
      packVersion := "1.0.0"
      adapterId := "com.example.adapter"
      adapterVersion := "1.0.0"
      profileKey := asked.expectedProfile
      signalGeometry := startupHost.signalGeometry
      tensorAbi := startupHost.tensorAbi
      decodedAbi := startupHost.decodedAbi
      capabilities := asked.requiredCapabilities
      estimatedHostBytes := 1
      estimatedDeviceBytes := 0 })
  | .codecLoad asked => .ok (.codecLoad ⟨asked.packId, asked.packVersion, asked.adapterId,
      asked.adapterVersion, asked.device, asked.deviceOrdinal⟩)
  | .ringConfigure asked => .ok (.ringConfigure
      ⟨asked.ringId, asked.kind, asked.slotCount, asked.slotBytes⟩)
  | .playerOpen asked => .ok (.playerOpen
      ⟨asked.playerSessionId, .ready, asked.streamGeneration, 0, 0, false, some 4⟩)
  | _ => .error .transport

/-- With a worker that acknowledges every command the source is opened before the codec is
loaded. -/
theorem source_opened_before_codec_loaded :
    (startupRun (fun _ => true) startupSeam startupSelection startupSource startupHost []
        startupPeer).1.map (fun exchange => exchange.question.name) =
      [.sessionConfigure, .codecDescriptor, .sourceOpen, .profileInspect, .profileValidate,
        .codecLoad, .ringConfigure, .playerOpen] ∧
    (startupRun (fun _ => true) startupSeam startupSelection startupSource startupHost []
        startupPeer).2.toOption.isSome = true := by
  constructor <;> decide +kernel

end LatentDeck.Host
