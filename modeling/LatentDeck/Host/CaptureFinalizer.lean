import LatentDeck.Archive.Resample
import LatentDeck.Control.Messages

/-!
# Capture finalization

How a finished capture becomes a cartridge: the staged payload is measured again, a manifest is
written from what the session knows of its sources, roles, controls and seed, and the packed archive
is imported. The file system, the packer and the library are not part of the model; the manifest is.
-/

namespace LatentDeck.Host

open Archive hiding CaptureMode
open Fallible Json
open Control (Uuid CaptureMode ControlBinding ControlValue RoleBinding)

structure CaptureFinalizerError where
  code : String
  message : String

namespace CaptureFinalizerError

def isWorkerTrustBoundary (error : CaptureFinalizerError) : Bool :=
  error.code != "capture.import_failed"

def invalidRoot : CaptureFinalizerError :=
  ⟨"capture.staging_root_invalid", "The host-owned capture staging root is unavailable."⟩

def artifactMismatch : CaptureFinalizerError :=
  ⟨"capture.staged_payload_mismatch",
    "The staged capture payload does not match its exact measured receipt."⟩

def rootEscape : CaptureFinalizerError :=
  ⟨"capture.staging_root_escape",
    "The host-owned capture staging root escaped its app-local container."⟩

def pathUntrusted : CaptureFinalizerError :=
  ⟨"capture.staged_path_untrusted",
    "The adapter returned a path outside the exact host-owned capture root."⟩

/-- The error of `reject_reparse` for a link. -/
def reparseForbidden : CaptureFinalizerError :=
  ⟨"capture.staging_reparse_forbidden",
    "Capture staging cannot contain a symbolic link or reparse point."⟩

def contextError : CaptureFinalizerError :=
  ⟨"capture.finalization_context_invalid",
    "The host capture genealogy or profile context is invalid."⟩

def finalizeError : CaptureFinalizerError :=
  ⟨"capture.finalize_failed",
    "The captured payload could not be packed and reopened as a valid cartridge."⟩

def importError : CaptureFinalizerError :=
  ⟨"capture.import_failed",
    "The validated captured cartridge could not be imported into the Library."⟩

end CaptureFinalizerError

/-- What the checks of a staging root and of the paths below it may refuse. -/
inductive StagingError where
  | invalidRoot
  | rootEscape
  | pathUntrusted
  | artifactMismatch
  | reparseForbidden

def StagingError.finalizer : StagingError → CaptureFinalizerError
  | .invalidRoot => .invalidRoot
  | .rootEscape => .rootEscape
  | .pathUntrusted => .pathUntrusted
  | .artifactMismatch => .artifactMismatch
  | .reparseForbidden => .reparseForbidden

open CaptureFinalizerError (artifactMismatch contextError finalizeError importError)

structure BoundCapturePayload where
  path : String
  sha256 : String
  byteLength : UInt64

structure CaptureSourceEvidence where
  physicalSlot : UInt8
  archiveSha256 : String
  manifest : ManifestV0_1

structure CaptureFinalizationContext where
  sources : List CaptureSourceEvidence
  roles : List RoleBinding
  controls : List ControlBinding
  operatorId : String
  operatorVersion : String
  seed : UInt64

structure CaptureArtifactEvidence where
  captureId : Uuid
  stagedPayloadPath : String
  payloadSha256 : String
  payloadByteLength : UInt64
  latentSlots : UInt64
  decodedFrameCount : UInt64

structure FinalizedCapture where
  cartridgeId : String
  archiveSha256 : String

structure ProfileResampleRequest where
  manifest : ManifestV0_1
  expectedPayload : PayloadExpectation

/-- `json!` of an `i64`. -/
def jsonInteger (value : Int64) : Value :=
  .number (if value.toInt < 0 then .negInt value.toInt else .posInt (.ofNat value.toInt.toNat))

/-- The value of a control in an operation record. -/
def jsonControl : ControlValue → Except CaptureFinalizerError Value
  | .boolean value => .ok (.bool value)
  | .integer value => .ok (jsonInteger value)
  | .number value => if value.isFinite then .ok (.number (.float value)) else .error contextError
  | .text value => .ok (.string value)

/-- The loop of `control_values`. -/
def insertControls : List ControlBinding → SortedMap String Value →
    Except CaptureFinalizerError (SortedMap String Value)
  | [], controls => .ok controls
  | binding :: bindings, controls => do
      let value ← jsonControl binding.value
      refuseWhen (binding.name = "" ∨ (controls.lookup binding.name).isSome) contextError
      insertControls bindings (controls.insert binding.name value)

def controlValues (values : List ControlBinding) :
    Except CaptureFinalizerError (SortedMap String Value) := insertControls values .empty

/-- The controls that the host adds to an operation record. -/
def reservedControls : List String :=
  ["capture_mode", "capture_reset_events", "capture_role_bindings"]

/-- The text of a capture mode in an operation record. -/
def captureModeText : CaptureMode → String
  | .snapshot => "snapshot"
  | .liveCapture => "live_capture"

def jsonRole (role : RoleBinding) : Value :=
  .object [("physical_slot", .number (.posInt role.physicalSlot.toUInt64)),
    ("role", .string role.role)]

/-- The controls of the operation record of a capture. -/
def captureControls (context : CaptureFinalizationContext) (mode : CaptureMode)
    (resetEvents : UInt32) : Except CaptureFinalizerError (SortedMap String Value) := do
  let controls ← controlValues context.controls
  refuseWhen (∃ reserved ∈ reservedControls, (controls.lookup reserved).isSome) contextError
  .ok (((controls.insert "capture_mode" (.string (captureModeText mode))).insert
    "capture_reset_events" (.number (.posInt resetEvents.toUInt64))).insert
      "capture_role_bindings" (.array (context.roles.map jsonRole)))

/-- The loop of `build_manifest_request` over the sources. -/
def checkSources (decoder : ManifestDecoder) : List UInt8 → List CaptureSourceEvidence →
    Except CaptureFinalizerError Unit
  | _, [] => .ok ()
  | slots, source :: sources => do
      refuseWhen (source.physicalSlot = 0 ∨ source.physicalSlot ∈ slots ∨
        (Sha256Hash.parse source.archiveSha256).isOk = false ∨
        (source.manifest.validateCommon decoder .specification).isOk = false) contextError
      checkSources decoder (source.physicalSlot :: slots) sources

/-- `role_by_slot` at a slot: of several roles the last one. -/
def roleOfSlot (roles : List RoleBinding) (physicalSlot : UInt8) : Option String :=
  (roles.reverse.find? fun role => role.physicalSlot == physicalSlot).map RoleBinding.role

/-- The source that plays the structural carrier role, where each source has a role. -/
def carrierOf (context : CaptureFinalizationContext) (structuralCarrierRole : String) :
    Except CaptureFinalizerError CaptureSourceEvidence := do
  refuseWhen (structuralCarrierRole = "") contextError
  let carrierRole ← orError (context.roles.find? fun role => role.role == structuralCarrierRole)
    contextError
  let carrier ← orError (context.sources.find? fun source =>
    source.physicalSlot == carrierRole.physicalSlot) contextError
  refuseWhen ((context.roles.map RoleBinding.physicalSlot).dedup.length ≠ context.sources.length ∨
    ∃ source ∈ context.sources, (roleOfSlot context.roles source.physicalSlot).isNone) contextError
  .ok carrier

/-- Whether a tensor descriptor is that of a visual stream. -/
def isVisual (tensor : TensorDescriptor) : Bool := tensor.stream = .visual

/-- The visual tensor of a carrier with the length and the storage of a capture. -/
def capturedVisual (carrier : ManifestV0_1) (latentSlots : UInt64) :
    Except CaptureFinalizerError TensorDescriptor := do
  let visual ← orError (carrier.tensors.find? isVisual) contextError
  refuseWhen ((carrier.tensors.filter isVisual).length ≠ 1 ∨ visual.shape.length ≠ 5 ∨
    visual.shape[0]? ≠ some 1 ∨ visual.shape[2]? = some 0 ∨ ¬ visual.runtimeDtype.isSupported)
    contextError
  .ok { visual with
    shape := visual.shape.set 2 latentSlots.toNat
    storageDtype := visual.runtimeDtype }

/-- The duration of a capture at the frame rate of its carrier. -/
def capturedDuration (frameRate : Rational) (decodedFrameCount : UInt64) :
    Except CaptureFinalizerError Rational := do
  let numerator ← orError (Checked.checkedMul decodedFrameCount.toNat frameRate.denominator)
    contextError
  orError (Rational.reduced numerator frameRate.numerator) contextError

/-- The audio disposition of a capture: audio is never carried over. -/
def capturedAudio (carrier : CaptureSourceEvidence) (duration : Rational) : AudioDisposition :=
  if carrier.manifest.tensors.any fun tensor => tensor.stream = .audio then
    .omittedTimingMismatch ⟨carrier.manifest.cartridgeId, carrier.archiveSha256⟩
      (if duration = carrier.manifest.timing.decodedVideo.duration then .temporalMappingMismatch
        else .durationAndMappingMismatch)
  else .sourceAbsent

/-- The parents of a capture, one for each source. -/
def capturedParents (context : CaptureFinalizationContext) : List ParentCartridge :=
  context.sources.map fun source =>
    ⟨source.manifest.cartridgeId, source.archiveSha256,
      (roleOfSlot context.roles source.physicalSlot).getD ""⟩

def capturedTiming (carrier : ManifestV0_1) (decodedFrameCount : UInt64) (duration : Rational) :
    TimingDescriptor where
  contract := carrier.timing.contract
  contractVersion := carrier.timing.contractVersion
  decodedVideo := { carrier.timing.decodedVideo with
    frameCount := decodedFrameCount.toNat
    duration := duration }

def carrierPayload (carrier : ManifestV0_1) : Except CaptureFinalizerError PayloadDescriptor :=
  match carrier.payloads with
  | [descriptor] => .ok descriptor
  | _ => .error contextError

/-- What `build_manifest_request` makes the manifest of. -/
structure CaptureParts where
  carrier : CaptureSourceEvidence
  descriptor : PayloadDescriptor
  visual : TensorDescriptor
  duration : Rational
  controls : SortedMap String Value

/-- The part of `build_manifest_request` before the manifest is assembled. -/
def captureParts (decoder : ManifestDecoder) (context : CaptureFinalizationContext)
    (artifact : CaptureArtifactEvidence) (mode : CaptureMode) (resetEvents : UInt32)
    (structuralCarrierRole : String) : Except CaptureFinalizerError CaptureParts := do
  refuseWhen (context.sources = [] ∨ 16 < context.sources.length ∨
    9007199254740991 < context.seed) contextError
  checkSources decoder [] context.sources
  let carrier ← carrierOf context structuralCarrierRole
  let descriptor ← carrierPayload carrier.manifest
  let visual ← capturedVisual carrier.manifest artifact.latentSlots
  let duration ← capturedDuration carrier.manifest.timing.decodedVideo.frameRate
    artifact.decodedFrameCount
  let controls ← captureControls context mode resetEvents
  .ok ⟨carrier, descriptor, visual, duration, controls⟩

def captureManifest (decoder : ManifestDecoder) (context : CaptureFinalizationContext)
    (artifact : CaptureArtifactEvidence) (cartridgeId : Uuid) (payload : BoundCapturePayload)
    (parts : CaptureParts) : ManifestV0_1 where
  specVersion := lcSpecVersion
  cartridgeId := decoder.hyphenated cartridgeId
  codec := parts.carrier.manifest.codec
  payloads := [{ parts.descriptor with
    byteLength := payload.byteLength.toNat
    sha256 := payload.sha256 }]
  tensors := [parts.visual]
  timing := capturedTiming parts.carrier.manifest artifact.decodedFrameCount parts.duration
  audio := capturedAudio parts.carrier parts.duration
  preview := none
  provenance := ⟨⟨"latentdeck-resample", "0.2.0"⟩, none, []⟩
  parentCartridges := capturedParents context
  operationHistory := [⟨context.operatorId, context.operatorVersion, context.seed.toNat,
    parts.controls⟩]

def buildManifestRequest (decoder : ManifestDecoder) (context : CaptureFinalizationContext)
    (artifact : CaptureArtifactEvidence) (mode : CaptureMode) (resetEvents : UInt32)
    (cartridgeId : Uuid) (payload : BoundCapturePayload) (structuralCarrierRole : String) :
    Except CaptureFinalizerError ProfileResampleRequest := do
  let parts ← captureParts decoder context artifact mode resetEvents structuralCarrierRole
  let manifest := captureManifest decoder context artifact cartridgeId payload parts
  (manifest.validateCommon decoder .specification).mapError fun _ => contextError
  .ok ⟨manifest, ⟨payload.byteLength.toNat, payload.sha256⟩⟩

/-- What the staging root, the packer and the library answer. -/
structure FinalizerAnswers where
  /-- `bind_artifact` with the largest length. -/
  bindArtifact : CaptureArtifactEvidence → UInt64 → Except StagingError BoundCapturePayload
  /-- `Uuid::new_v4`. -/
  cartridgeId : Uuid
  /-- `pack_profile_resample_atomic`: the digest of the archive. -/
  pack : ProfileResampleRequest → BoundCapturePayload → Option String
  /-- `import_generated`: the digest of what was imported. -/
  importGenerated : Option String

/-- The bounds of an artifact that finalization checks. -/
def checkArtifact (captureId : Uuid) (artifact : CaptureArtifactEvidence) (resetEvents : UInt32)
    (maximumLatentSlots maximumVisualBytes maximumDecodedFramesPerSlot : UInt64) :
    Except CaptureFinalizerError Unit := do
  let maximumDecodedFrames ← orError
    (Checked.checkedMul artifact.latentSlots.toNat maximumDecodedFramesPerSlot.toNat)
    artifactMismatch
  refuseWhen (artifact.captureId ≠ captureId ∨ artifact.latentSlots = 0 ∨
    maximumLatentSlots < artifact.latentSlots ∨ artifact.decodedFrameCount = 0 ∨
    artifact.decodedFrameCount < artifact.latentSlots ∨
    maximumDecodedFrames < artifact.decodedFrameCount.toNat ∨
    maximumVisualBytes < artifact.payloadByteLength ∨ 32 < resetEvents) artifactMismatch

def finalizeCaptureWithCarrier (decoder : ManifestDecoder) (answers : FinalizerAnswers)
    (captureId : Uuid) (artifact : CaptureArtifactEvidence) (mode : CaptureMode)
    (resetEvents : UInt32) (context : CaptureFinalizationContext) (structuralCarrierRole : String)
    (maximumLatentSlots maximumVisualBytes maximumDecodedFramesPerSlot : UInt64) :
    Except CaptureFinalizerError FinalizedCapture := do
  checkArtifact captureId artifact resetEvents maximumLatentSlots maximumVisualBytes
    maximumDecodedFramesPerSlot
  let bound ← (answers.bindArtifact artifact maximumVisualBytes).mapError StagingError.finalizer
  let request ← buildManifestRequest decoder context artifact mode resetEvents answers.cartridgeId
    bound structuralCarrierRole
  let archiveSha256 ← orError (answers.pack request bound) finalizeError
  let imported ← orError answers.importGenerated importError
  refuseWhen (imported ≠ archiveSha256) importError
  .ok ⟨decoder.hyphenated answers.cartridgeId, archiveSha256⟩

end LatentDeck.Host
