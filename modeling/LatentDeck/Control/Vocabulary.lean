import LatentDeck.Library.Text
import LatentDeck.Library.Fallible
import Mathlib.Data.List.Dedup

/-!
# Protocol 2 vocabulary

Bounds, enumerations and the checks on single fields of the Worker Protocol 2 contract. A bounded
array carries its bound, an authentication token its length. The only part of the platform that a
check consults is what an absolute path is, which is a parameter wherever it matters.
-/

namespace LatentDeck.Control

open Text Fallible

def protocolVersion : UInt16 := 2
def maxFrameBytes : Nat := 262144
def maxIntegrityAccessReceiptBytes : Nat := 64 * 1024
def maxCapabilities : Nat := 16
def maxExternalAssets : Nat := 16
def maxProfiles : Nat := 64
def maxSources : Nat := 16
def maxControls : Nat := 64
def maxRoles : Nat := 16
def maxErrorDetails : Nat := 16
def maxCaptureEvents : UInt32 := 32
def maxWarmSessions : UInt8 := 4
def maxDecodeBatch : UInt8 := 24
def maxCaptureLatentSlots : UInt64 := 1048576
def maxCaptureVisualBytes : UInt64 := 15 * 1024 * 1024 * 1024
def maxMessagesPerSession : Nat := 65536
def maxPendingCommands : Nat := 256
def maxRawImportSourceBytes : UInt64 := 64 * 1024 * 1024 * 1024
def maxRawImportTensors : Nat := 64
def maxRawImportTensorAxes : Nat := 8
def maxIdentifierBytes : Nat := 128
def maxVersionBytes : Nat := 64
def maxTextBytes : Nat := 4096
def maxPathBytes : Nat := 32768

/-- `Uuid` — a 128-bit identifier. -/
abbrev Uuid := BitVec 128

def Uuid.isNil (value : Uuid) : Bool := value == 0

/-- The bits of an `f64`. -/
abbrev Float64Bits := UInt64

/-- `f64::is_finite` — the exponent field is not all ones. -/
def Float64Bits.isFinite (value : Float64Bits) : Bool := (value >>> 52) &&& 0x7ff != 0x7ff

/-- `LimitedVec` — an array of at most `max` values. -/
structure LimitedVec (α : Type) (max : Nat) where
  asSlice : List α
  bounded : asSlice.length ≤ max

def LimitedVec.tryFromVec {α : Type} (values : List α) (max : Nat) : Option (LimitedVec α max) :=
  if bounded : values.length ≤ max then some ⟨values, bounded⟩ else none

/-- A limited vector is made of the values that it holds. -/
theorem LimitedVec.tryFromVec_eq_some {α : Type} {values : List α} {max : Nat}
    {limited : LimitedVec α max} :
    LimitedVec.tryFromVec values max = some limited ↔ limited.asSlice = values := by
  unfold LimitedVec.tryFromVec
  constructor
  · intro made
    by_cases bounded : values.length ≤ max
    · rw [dif_pos bounded, Option.some.injEq] at made
      rw [← made]
    · rw [dif_neg bounded] at made
      exact nomatch made
  · intro same
    have bounded := limited.bounded
    rw [same] at bounded
    rw [dif_pos bounded]
    cases limited
    exact congrArg some (by cases same; rfl)

/-- `WorkerHelloAuthToken` — 32 secret bytes. -/
structure WorkerHelloAuthToken where
  bytes : List UInt8
  length : bytes.length = 32

inductive ProtocolMarker where
  | latentDeckWorker

/-- `Capability` — what a codec pack offers. -/
inductive Capability where
  | player
  | realtime
  | resample
  | snapshotCapture
  | liveCapture
  | rawImport
  deriving DecidableEq

/-- `ErrorCode` — the stable codes of error replies. -/
inductive ErrorCode where
  | protocolInvalidMessage
  | protocolUnsupportedVersion
  | protocolBoundExceeded
  | sessionNotConfigured
  | sessionCapacityExceeded
  | sessionOutputLeaseBusy
  | sessionOutputLeasePinned
  | codecNotLoaded
  | codecUntrusted
  | codecCapabilityUnsupported
  | profileInvalid
  | profileIncompatible
  | sourceInvalid
  | sourceNotLoaded
  | deckInvalid
  | deckIncompatible
  | captureInvalidState
  | captureNotReady
  | captureLimitExceeded
  | stateBusy
  | workerInternal
  deriving DecidableEq

inductive SessionState where
  | unconfigured
  | ready
  | busy
  | faulted
  | stopping
  | stopped
  deriving DecidableEq

inductive CodecState where
  | unloaded
  | loading
  | ready
  | faulted
  deriving DecidableEq

inductive PlayerState where
  | empty
  | loading
  | ready
  | playing
  | paused
  | endOfStream
  | faulted
  deriving DecidableEq

inductive DeckState where
  | empty
  | loading
  | ready
  | playing
  | paused
  | capturing
  | faulted
  deriving DecidableEq

inductive CaptureState where
  | idle
  | starting
  | capturing
  | finalizing
  | completed
  | aborted
  | faulted
  deriving DecidableEq

inductive CaptureMode where
  | snapshot
  | liveCapture
  deriving DecidableEq

inductive DeviceKind where
  | cpu
  | cuda
  deriving DecidableEq

inductive TensorDtype where
  | float16
  | bfloat16
  | float32
  deriving DecidableEq

inductive ShutdownReason where
  | userRequest
  | hostExit
  | protocolFault

inductive RingKind where
  | latentTensor
  | decodedRgba
  deriving DecidableEq

inductive RawImportTensorStream where
  | visual
  | audio
  deriving DecidableEq

inductive RawImportStorageDtype where
  | f16
  | f32

inductive RawImportAudioPolicy where
  | sourceAbsent
  | preservedSource
  deriving DecidableEq

/-- `CommandName` — the names of commands and of their replies. -/
inductive CommandName where
  | sessionConfigure
  | sessionStatus
  | sessionShutdown
  | codecDescriptor
  | codecLoad
  | codecUnload
  | sourceOpen
  | sourceClose
  | ringConfigure
  | ringRelease
  | profileInspect
  | profileValidate
  | rawImportPreflight
  | rawImportStage
  | rawImportAbort
  | playerOpen
  | playerStep
  | playerReset
  | playerStatus
  | deckLoad
  | deckProcess
  | deckControlsSet
  | deckRolesSet
  | deckTransportSet
  | deckSeedSet
  | deckReset
  | deckRestart
  | deckStatus
  | captureStart
  | captureStop
  | captureStatus
  | metricsGet
  deriving DecidableEq

def Capability.requiredCodecV2 : List Capability :=
  [.player, .realtime, .resample, .snapshotCapture, .liveCapture]

/-- `ValidationError` — the first violation a check finds. -/
inductive ValidationError where
  /-- `Protocol 2 does not accept version {0}`. -/
  | unsupportedVersion (version : UInt16)
  /-- `{0} is invalid`. -/
  | invalidField (field : String)
  /-- `{0} exceeds its bound`. -/
  | boundExceeded (field : String)
  /-- `{0} must not be nil`. -/
  | nilIdentifier (field : String)
  /-- `{0} contains duplicate values`. -/
  | duplicateValue (field : String)
  /-- `envelope belongs to a different Protocol 2 session`. -/
  | sessionMismatch
  /-- `Protocol 2 sequence mismatch: expected {expected}, received {actual}`. -/
  | sequenceMismatch (expected actual : UInt64)
  /-- `Protocol 2 inbound message identifier was reused`. -/
  | duplicateMessageId
  /-- `Protocol 2 outbound command identifier was reused`. -/
  | duplicateCommandId
  /-- `Protocol 2 expected an outbound command envelope`. -/
  | expectedCommand
  /-- `Protocol 2 session message budget is exhausted`. -/
  | sessionMessageLimit
  /-- `Protocol 2 pending command budget is exhausted`. -/
  | pendingCommandLimit
  /-- `Protocol 2 requires worker.hello as the first worker frame`. -/
  | workerHelloRequired
  /-- `Protocol 2 worker.hello is allowed exactly once as the first worker frame`. -/
  | unexpectedWorkerHello
  /-- `Protocol 2 reply does not reference a pending command`. -/
  | unknownReply
  /-- `Protocol 2 reply name mismatch: expected {expected:?}, received {actual:?}`. -/
  | replyNameMismatch (expected actual : CommandName)
  /-- `Protocol 2 event references an unknown command`. -/
  | unknownCause
  /-- `Protocol 2 message direction is invalid`. -/
  | unexpectedMessageKind
  deriving DecidableEq

abbrev Checked := Except ValidationError Unit

def refuseIf (condition : Prop) [Decidable condition] (error : ValidationError) : Checked :=
  if condition then .error error else .ok ()

def nonNil (value : Uuid) (field : String) : Checked :=
  refuseIf value.isNil (.nilIdentifier field)

def positive (value : UInt64) (field : String) : Checked :=
  refuseIf (value = 0) (.invalidField field)

def boundedText (value field : String) (maximum : Nat) : Checked :=
  refuseIf (value.isEmpty ∨ value.utf8ByteSize > maximum ∨ value.toList.contains '\x00')
    (.boundExceeded field)

def identifierByte (byte : UInt8) : Bool :=
  isAsciiAlphanumeric byte || byte == 0x2E || byte == 0x5F || byte == 0x3A || byte == 0x2D

def identifier (value field : String) : Checked := do
  boundedText value field maxIdentifierBytes
  refuseIf (¬ (utf8Bytes value).all identifierByte) (.invalidField field)

def versionByte (byte : UInt8) : Bool :=
  isAsciiAlphanumeric byte || byte == 0x2E || byte == 0x2B || byte == 0x2D || byte == 0x5F

def version (value field : String) : Checked := do
  boundedText value field maxVersionBytes
  refuseIf (¬ (utf8Bytes value).all versionByte) (.invalidField field)

def archiveEntry (value field : String) : Checked := do
  boundedText value field 512
  let characters := value.toList
  refuseIf (characters.head? = some '/' ∨ characters.getLast? = some '/' ∨
      characters.contains '\\' ∨ characters.contains ':' ∨
      (characters.splitOn '/').any
        (fun component => component.isEmpty || component == ['.'] || component == ['.', '.']))
    (.invalidField field)

/-- `absolute_path` — `Path::is_absolute` is the platform's. -/
def absolutePath (isAbsolute : String → Bool) (value field : String) : Checked := do
  boundedText value field maxPathBytes
  refuseIf (¬ isAbsolute value) (.invalidField field)

/-- `sha256` — 64 lowercase hexadecimal digits. -/
def sha256 (value field : String) : Checked :=
  refuseIf (value.utf8ByteSize ≠ 64 ∨ ¬ (utf8Bytes value).all isLowerHex) (.invalidField field)

def pythonIdentifier (value : List UInt8) : Bool :=
  match value with
  | [] => false
  | first :: bytes =>
      (isAsciiAlphabetic first || first == 0x5F) &&
        bytes.all (fun byte => isAsciiAlphanumeric byte || byte == 0x5F)

/-- `python_entrypoint` — `module.path:attribute`. -/
def pythonEntrypoint (value field : String) : Checked := do
  boundedText value field 512
  -- The first colon separates the module from the attribute.
  let bytes := utf8Bytes value
  let modulePath := bytes.takeWhile (· != 0x3A)
  let attributeName := (bytes.dropWhile (· != 0x3A)).drop 1
  refuseIf (¬ bytes.contains 0x3A) (.invalidField field)
  refuseIf (attributeName.contains 0x3A ∨ modulePath.isEmpty ∨ attributeName.isEmpty ∨
      ¬ (modulePath.splitOn 0x2E).all pythonIdentifier ∨ ¬ pythonIdentifier attributeName)
    (.invalidField field)

/-- `unique_by` — the keys of an array are pairwise distinct. -/
def uniqueBy {α β : Type} [DecidableEq β] (values : List α) (key : α → β) (field : String) :
    Checked :=
  refuseIf ((values.map key).dedup.length ≠ values.length) (.duplicateValue field)

def uniqueCapabilities (capabilities : LimitedVec Capability maxCapabilities) : Checked :=
  uniqueBy capabilities.asSlice id "capabilities"

def slotOutside (physicalSlot : UInt8) : Bool :=
  physicalSlot == 0 || maxSources < physicalSlot.toNat

@[simp]
theorem refuseIf_eq_ok (condition : Prop) [Decidable condition] (error : ValidationError) :
    refuseIf condition error = .ok () ↔ ¬ condition := by
  rw [refuseIf, guarded_eq_ok]
  exact and_iff_left rfl

@[simp]
theorem uniqueBy_eq_ok {α β : Type} [DecidableEq β] (values : List α) (key : α → β)
    (field : String) : uniqueBy values key field = .ok () ↔ (values.map key).Nodup := by
  rw [uniqueBy, refuseIf_eq_ok, not_not, ← List.length_map (f := key)]
  constructor
  · intro same
    have unchanged := (List.dedup_sublist (values.map key)).eq_of_length same
    rw [← unchanged]
    exact List.nodup_dedup _
  · intro distinct
    rw [distinct.dedup]

end LatentDeck.Control
