import LatentDeck.Host.CaptureFinalizer
import LatentDeck.Host.Clock
import LatentDeck.Host.DeckRuntime
import LatentDeck.Host.DeckStatus
import LatentDeck.Output.Recorder

/-!
# The deck runtime actor

The actor of one deck session: it owns the session with the worker, the frames that wait to be
presented, and the capture that runs. Each handler is an action on its state; what the worker, the
ring, the native output, the recorder and the file system answer is given from outside. The commands
sent to the worker are recorded in order.
-/

namespace LatentDeck.Host

open Effect Fallible
open Control (Uuid Ack CaptureIdentity CaptureMode CaptureStart CaptureState CaptureStatusSnapshot
  Command ControlBinding DeckProcessAck DeckState DeckStatusSnapshot ErrorCode ErrorPayload
  LimitedVec RoleBinding ShutdownReason SourceBinding SourceTransportBinding)
open Output (RecorderError RecorderStatus)

inductive WorkerClientV2Error where
  | supervisor
  | commandTimeout
  | heartbeatTimeout
  | unexpectedReply
  | unexpectedAck
  | remote (error : ErrorPayload)

def mapClientError : WorkerClientV2Error → GenericDeckRuntimeError
  | .commandTimeout | .heartbeatTimeout => .timeout
  | .remote error => .remote "deck.worker_rejected"
      "The Protocol 2 worker rejected the requested Deck command." error.fatal
  | .supervisor | .unexpectedReply | .unexpectedAck => .worker

def captureRejectionCode : ErrorCode → String
  | .captureInvalidState => "capture.invalid_state"
  | .captureNotReady => "capture.not_ready"
  | .captureLimitExceeded => "capture.limit_exceeded"
  | .sessionOutputLeasePinned => "session.output_lease_pinned"
  | .sessionOutputLeaseBusy => "session.output_lease_busy"
  | _ => "capture.worker_rejected"

def mapCaptureClientError : WorkerClientV2Error → GenericDeckRuntimeError
  | .remote error => .remote (captureRejectionCode error.code)
      "The codec worker rejected the latent capture command." error.fatal
  | other => mapClientError other

def mapCaptureFinalizerError (error : CaptureFinalizerError) : GenericDeckRuntimeError :=
  ⟨error.code, error.message, error.isWorkerTrustBoundary⟩

inductive DecodedRecordingError where
  | active
  | recorder (error : RecorderError)
  | state

def DecodedRecordingError.code : DecodedRecordingError → String
  | .active => "recording.already_active"
  | .recorder error => error.code
  | .state => "recording.state_unavailable"

def DecodedRecordingError.message : DecodedRecordingError → String
  | .active =>
      "A decoded MP4 recording is already active; stop it before choosing another output."
  | .recorder .invalidDestination => "Choose a writable local file name ending in .mp4."
  | .recorder .outputExists =>
      "The selected MP4 already exists and was not overwritten; choose a new file name."
  | .recorder .invalidFrame => "Decoded output changed or violated the recording frame contract."
  | .recorder .queueOverflow =>
      "MP4 encoding could not keep up; recording stopped without slowing Deck playback."
  | .recorder .unsupportedPlatform => "Decoded MP4 recording requires the Windows release build."
  | .recorder .encoderUnavailable => "Windows Media Foundation could not start an H.264 encoder."
  | .recorder .encodeFailed => "Windows Media Foundation rejected a decoded recording frame."
  | .recorder .finalizeFailed =>
      "The MP4 could not be finalized; no partial final file was exposed."
  | .recorder .workerStopped | .state => "The decoded recording worker is unavailable."

def mapRecordingError (error : DecodedRecordingError) : GenericDeckRuntimeError :=
  .capture error.code error.message

/-- `RgbaBatchV2` with its metadata. -/
structure RgbaBatch where
  sessionId : Uuid
  generation : UInt64
  logicalSequence : UInt64
  slotSequence : UInt64
  batch : UInt32
  width : UInt32
  height : UInt32
  pixels : List UInt8

/-- `ReadV2Status`. -/
inductive ReadStatus where
  | batch (batch : RgbaBatch)
  | empty

def validateBatch (batch : RgbaBatch) (status : DeckStatusSnapshot) (slotSequence : UInt64)
    (dimensions : UInt32 × UInt32) : Except GenericDeckRuntimeError Unit :=
  refuseWhen (batch.sessionId ≠ status.deckSessionId ∨
    batch.generation ≠ status.streamGeneration ∨
    batch.logicalSequence ≠ status.streamSequence ∨ batch.slotSequence ≠ slotSequence ∨
    batch.batch = 0 ∨ 24 < batch.batch ∨ (batch.width, batch.height) ≠ dimensions) .ring

/-- The frames of a batch, one after the other. -/
def chunks (size : Nat) : Nat → List UInt8 → List (List UInt8)
  | 0, _ => []
  | count + 1, bytes => bytes.take size :: chunks size count (bytes.drop size)

def splitBatch (batch : RgbaBatch) : Except GenericDeckRuntimeError (List (List UInt8)) := do
  let frameBytes := batch.width.toNat * batch.height.toNat * 4
  refuseWhen (frameBytes = 0 ∨ batch.pixels.length ≠ frameBytes * batch.batch.toNat) .ring
  .ok (chunks frameBytes batch.batch.toNat batch.pixels)

/-- `RingLayout::new`: the row stride of the layout. -/
def ringRowStride (width height : UInt32) : Option Nat :=
  let rowStride := (width.toNat * 4 + 255) / 256 * 256
  let slotStride := (rowStride * height.toNat + 128 + 4095) / 4096 * 4096
  if width = 0 ∨ height = 0 ∨ 2 ^ 32 ≤ width.toNat * 4 + 255 ∨
      256 * 1024 * 1024 < 24 * slotStride + 4096 then none
  else some rowStride

def padTightRgba (bytes : List UInt8) (width height : UInt32) (rowStride : Nat) :
    Except GenericDeckRuntimeError (List UInt8) := do
  let tightStride := width.toNat * 4
  refuseWhen (2 ^ 32 ≤ tightStride ∨ bytes.length ≠ tightStride * height.toNat ∨
    rowStride < tightStride) .ring
  .ok ((chunks tightStride height.toNat bytes).flatMap fun row =>
    row ++ List.replicate (rowStride - tightStride) 0)

structure NativeOutputBounds where
  x : Int32
  y : Int32
  width : UInt32
  height : UInt32

structure EmbeddedViewport where
  revision : UInt64
  bounds : Option NativeOutputBounds
  visible : Bool

inductive ResizeOutcome where
  | configured
  | unchanged
  | suspended

/-- `NativeSpoutStatus`, as far as the actor looks at it. -/
structure NativeSpoutStatus where
  ready : Bool
  enabled : Bool

inductive RecordingShutdownPolicy where
  | stop
  | preserve

/-- `ActiveCapture`; whether its staging root is still bound to it. -/
structure ActiveCapture where
  captureId : Uuid
  mode : CaptureMode
  state : CaptureState
  bound : Bool
  output : String

/-- `RuntimeActor`, with the commands that it sent. -/
structure RuntimeActor where
  status : DeckStatusSnapshot
  statusView : DeckStatusSnapshot
  faultCode : Option String
  outputVisible : Bool
  ringId : Uuid
  dimensions : UInt32 × UInt32
  slotCounts : List (UInt8 × UInt64)
  frameClock : FrameClock
  captureStatus : GenericCaptureView
  captureSources : List CaptureSourceEvidence
  operatorId : String
  operatorVersion : String
  structuralCarrierRole : String
  /-- `session.deck_runtime()`. -/
  deckRuntime : ActiveDeckRuntime
  /-- The parsed identifiers and the digests of `session.cartridges()`. -/
  cartridges : List (Option Uuid × String)
  activeCapture : Option ActiveCapture
  pendingFrames : List (List UInt8)
  viewport : EmbeddedViewport
  foreground : Bool
  spoutRequestedEnabled : Bool
  workerStopped : Bool
  sent : List Command

structure GenericDeckRuntimeView where
  status : DeckStatusSnapshot
  outputVisible : Bool
  faultCode : Option String

/-- What the world around the actor answers while it handles one event. -/
structure Outside where
  /-- `WorkerClientV2::call`. -/
  call : Command → Except WorkerClientV2Error Ack
  /-- `WorkerClientV2::request_shutdown`. -/
  requestShutdown : ShutdownReason → Except WorkerClientV2Error Unit
  /-- `RingConsumerV2::try_read`. -/
  tryRead : Option ReadStatus
  adoptRingGeneration : UInt64 → Bool
  /-- `Instant::now`. -/
  now : Nat
  latest : Nat
  /-- `Uuid::new_v4`. -/
  newId : Uuid
  /-- `CaptureStagingRoot::create`: the root as a text, where it is one. -/
  createStagingRoot : Except StagingError (Option String)
  decoder : Archive.ManifestDecoder
  finalizer : FinalizerAnswers
  /-- `present_padded_rgba`. -/
  present : List UInt8 → Bool
  setSpoutEnabled : Bool → Bool
  setSpoutName : String → Bool
  /-- `show` or `hide`. -/
  setVisible : Bool → Bool
  /-- `set_embedded_bounds`, or `resize` to nothing. -/
  setBounds : Option NativeOutputBounds → Option ResizeOutcome
  spoutStatus : NativeSpoutStatus
  /-- `DecodedRecordingController::is_active`. -/
  recordingActive : Bool
  /-- `DecodedRecordingController::arm`. -/
  arm : String → Except DecodedRecordingError RecorderStatus
  diagnosed : Ack → Bool

abbrev Act := EStateM GenericDeckRuntimeError RuntimeActor

def check {α : Type} (result : Except GenericDeckRuntimeError α) : Act α := reading fun _ => result

def current : Act RuntimeActor := reading .ok

/-- `let Ack::DeckProcess(processed) = ack`. -/
def processed : Ack → Option DeckProcessAck
  | .deckProcess value => some value
  | _ => none

/-- `let Ack::DeckControlsSet(status) = ack`. -/
def controlsChanged : Ack → Option DeckStatusSnapshot
  | .deckControlsSet value => some value
  | _ => none

/-- `let Ack::DeckRolesSet(status) = ack`. -/
def rolesChanged : Ack → Option DeckStatusSnapshot
  | .deckRolesSet value => some value
  | _ => none

/-- `let Ack::DeckTransportSet(status) = ack`. -/
def transportChanged : Ack → Option DeckStatusSnapshot
  | .deckTransportSet value => some value
  | _ => none

/-- `let Ack::DeckSeedSet(status) = ack`. -/
def seedChanged : Ack → Option DeckStatusSnapshot
  | .deckSeedSet value => some value
  | _ => none

/-- `let Ack::DeckReset(status) = ack`. -/
def deckWasReset : Ack → Option DeckStatusSnapshot
  | .deckReset value => some value
  | _ => none

/-- `let Ack::CaptureStart(status) = ack`. -/
def captureStarted : Ack → Option CaptureStatusSnapshot
  | .captureStart value => some value
  | _ => none

/-- `let Ack::CaptureStop(status) = ack`. -/
def captureStopped : Ack → Option CaptureStatusSnapshot
  | .captureStop value => some value
  | _ => none

/-- `let Ack::CaptureStatus(status) = ack`. -/
def captureTold : Ack → Option CaptureStatusSnapshot
  | .captureStatus value => some value
  | _ => none

def RuntimeActor.restarted (actor : RuntimeActor) (now : Nat) : RuntimeActor :=
  { actor with frameClock := actor.frameClock.restart now }

def RuntimeActor.adoptCaptureDeckState (actor : RuntimeActor) (state : CaptureState) :
    RuntimeActor :=
  { actor with status := { actor.status with
      captureState := state
      state := if state = .capturing ∨ state = .finalizing then .capturing
        else if transportActive actor.status then .playing else .paused } }

def RuntimeActor.captureDrivesProcessing (actor : RuntimeActor) : Bool :=
  actor.activeCapture.any fun capture =>
    (capture.mode == .snapshot && capture.state == .capturing) || capture.state == .finalizing

def RuntimeActor.processingActive (actor : RuntimeActor) : Bool :=
  transportActive actor.status || actor.captureDrivesProcessing

def publishStatus : Act Unit :=
  modify fun actor => { actor with statusView := actor.status }

def publishCapture (view : GenericCaptureView) : Act Unit :=
  modify fun actor => { actor with captureStatus := view }

def view : Act GenericDeckRuntimeView :=
  reading fun actor => .ok ⟨actor.status, actor.outputVisible, actor.faultCode⟩

/-- The snapshot of a capture that the host gives up. -/
def abandonedCapture (actor : RuntimeActor) (capture : ActiveCapture) (state : CaptureState) :
    CaptureStatusSnapshot where
  deckSessionId := actor.status.deckSessionId
  deckRevision := actor.status.deckRevision
  captureId := capture.captureId
  state := state
  mode := capture.mode
  latentSlots := 0
  resetEvents := 0
  artifact := none

def RuntimeActor.abandoned (actor : RuntimeActor) (state : CaptureState) (text detail : String) :
    RuntimeActor :=
  match actor.activeCapture with
  | none => actor
  | some capture =>
      let told := { actor with
        activeCapture := none
        captureStatus := captureView (abandonedCapture actor capture state) (some text) none
          (some detail) }
      let adopted := told.adoptCaptureDeckState state
      { adopted with statusView := adopted.status }

def failActiveCapture (detail : String) : Act Unit :=
  modify fun actor => actor.abandoned .faulted "error" detail

def RuntimeActor.settleCaptureOnShutdown (actor : RuntimeActor) : RuntimeActor :=
  actor.abandoned .aborted "aborted" "Capture ended because the Deck runtime stopped."

/-- The text of a staging root, which is not empty. -/
def stagingText (text : Option String) : Except GenericDeckRuntimeError String :=
  orError (text.filter fun value => value != "") (.capture "capture.staging_root_invalid"
    "The host-owned capture staging root cannot be represented safely.")

def captureArtifactEvidence (captureId : Uuid) (artifact : Control.CaptureArtifact) :
    CaptureArtifactEvidence where
  captureId := captureId
  stagedPayloadPath := artifact.stagedPayloadPath
  payloadSha256 := artifact.payloadSha256
  payloadByteLength := artifact.payloadByteLength
  latentSlots := artifact.latentSlots
  decodedFrameCount := artifact.decodedFrameCount

def validateCaptureStartAvailability (activeCapture recordingActive : Bool) :
    Except GenericDeckRuntimeError Unit := do
  refuseWhen (activeCapture = true) (.capture "capture.already_active"
    "Only one latent capture may be active in this Deck session.")
  refuseWhen (recordingActive = true) (.capture "capture.recording_conflict"
    "Stop decoded MP4 recording before starting latent capture.")

/-- The source that `prevalidate_dynamic_state` names for a cartridge. -/
def sourceOf (fresh : Uuid) (entry : (Option Uuid × String) × Nat) :
    Except GenericDeckRuntimeError SourceBinding := do
  refuseWhen (255 < entry.2 + 1) .input
  let cartridgeId ← orError entry.1.1 .input
  .ok ⟨.ofNat (entry.2 + 1), fresh, cartridgeId, entry.1.2, fresh, false⟩

def prevalidateDynamicState (fresh : Uuid) (actor : RuntimeActor) (roles : List RoleBinding)
    (controls : List ControlBinding) : Except GenericDeckRuntimeError Unit := do
  refuseWhen (controls.length ≠ actor.deckRuntime.operator.controls.length) .input
  let sources ← actor.cartridges.zipIdx.mapM (sourceOf fresh)
  let request : DeckLoadRequest := ⟨fresh, sources, roles, controls, 0, 1⟩
  let _ ← (actor.deckRuntime.buildLoadCommand request).mapError fun _ =>
    GenericDeckRuntimeError.input
  .ok ()

variable (outside : Outside)

/-- `client_mut().call`, with the error that the caller makes of a failure. -/
def call (command : Command) (mapError : WorkerClientV2Error → GenericDeckRuntimeError) :
    Act Ack := do
  modify fun actor => { actor with sent := actor.sent ++ [command] }
  check ((outside.call command).mapError mapError)

def RuntimeActor.finalizationContext (actor : RuntimeActor) : CaptureFinalizationContext where
  sources := actor.captureSources
  roles := actor.status.roles.asSlice
  controls := actor.status.controls.asSlice
  operatorId := actor.operatorId
  operatorVersion := actor.operatorVersion
  seed := actor.status.seed

/-- The end of `finalize_completed_capture`, by what finalization came to. -/
def settleFinalized (status : CaptureStatusSnapshot) :
    Except CaptureFinalizerError FinalizedCapture → Act GenericCaptureView
  | .ok finalized => do
      let view := captureView status (some "finished")
        (some (finalized.cartridgeId, finalized.archiveSha256))
        (some "Validated cartridge saved and imported into the Library.")
      publishCapture view
      publishStatus
      pure view
  | .error error => do
      publishCapture (captureView status (some "error") none (some error.message))
      throw (mapCaptureFinalizerError error)

def finalizeCompletedCapture (status : CaptureStatusSnapshot) : Act GenericCaptureView := do
  let artifact ← check (orError status.artifact .protocol)
  check (validateCaptureArtifactBounds artifact)
  demand (artifact.latentSlots = status.latentSlots) .protocol
  let actor ← current
  let active ← check (orError actor.activeCapture .protocol)
  modify fun actor => { actor with activeCapture := none }
  demand (active.bound = true) .protocol
  publishCapture (captureView status (some "finalizing") none
    (some "Validating and importing the codec-staged cartridge."))
  settleFinalized status (finalizeCaptureWithCarrier outside.decoder outside.finalizer
    active.captureId (captureArtifactEvidence active.captureId artifact) active.mode
    status.resetEvents actor.finalizationContext actor.structuralCarrierRole maxCaptureLatentSlots
    maxCaptureVisualBytes maxDecodeBatch)

def tellCapture (view : GenericCaptureView) : Act GenericCaptureView := do
  publishCapture view
  publishStatus
  pure view

/-- The part of `apply_capture_status` after the state was adopted. -/
def settleCaptureState (status : CaptureStatusSnapshot) : Act GenericCaptureView :=
  match status.state with
  | .completed => finalizeCompletedCapture outside status
  | .aborted => do
      modify fun actor => { actor with activeCapture := none }
      tellCapture (captureView status (some "aborted") none
        (some "The worker aborted latent capture safely."))
  | .faulted => do
      modify fun actor => { actor with activeCapture := none }
      tellCapture (captureView status (some "error") none
        (some "The worker capture writer failed and its staging was cleaned."))
  | .capturing | .finalizing => tellCapture (captureView status none none none)
  | .idle | .starting => throw .protocol

def applyCaptureStatus (status : CaptureStatusSnapshot) : Act GenericCaptureView := do
  let actor ← current
  let active ← check (orError actor.activeCapture .protocol)
  whenever (validCaptureStatusTransition active.state status.state active.mode = false) do
    failActiveCapture "The worker returned an invalid capture state transition."
    throw .protocol
  modify fun actor => { actor with
    activeCapture := actor.activeCapture.map fun active => { active with state := status.state } }
  modify fun actor => actor.adoptCaptureDeckState status.state
  settleCaptureState outside status

/-- The capture status in an acknowledgement; the capture fails where there is none. -/
def expectCapture (detail : String) : Option CaptureStatusSnapshot → Act CaptureStatusSnapshot
  | some status => pure status
  | none => do
      failActiveCapture detail
      throw .protocol

def refreshCaptureStatus : Act GenericCaptureView := do
  let actor ← current
  let active ← check (orError actor.activeCapture .protocol)
  let ack ← call outside (.captureStatus ⟨actor.status.deckSessionId, actor.status.deckRevision,
    active.captureId⟩) mapCaptureClientError
  let status ← expectCapture "The worker returned an invalid capture status." (captureTold ack)
  check (validateCaptureStatus status actor.status active.captureId active.mode
    [.capturing, .finalizing, .completed, .aborted, .faulted])
  applyCaptureStatus outside status

def captureStatus : Act GenericCaptureView := do
  let actor ← current
  if actor.activeCapture.isSome then refreshCaptureStatus outside
  else pure actor.captureStatus

def captureStart (mode : CaptureMode) (output : String) : Act GenericCaptureView := do
  let actor ← current
  check (validateCaptureStartAvailability actor.activeCapture.isSome outside.recordingActive)
  let binding ← check (outside.createStagingRoot.mapError fun error =>
    mapCaptureFinalizerError error.finalizer)
  let stagingRoot ← check (stagingText binding)
  let captureId := outside.newId
  let ack ← call outside (.captureStart ⟨actor.status.deckSessionId, actor.status.deckRevision,
    captureId, mode, stagingRoot, maxCaptureLatentSlots, maxCaptureVisualBytes, 32⟩)
    mapCaptureClientError
  let status ← check (orError (captureStarted ack) .protocol)
  check (validateCaptureStatus status actor.status captureId mode [.capturing])
  demand (status.latentSlots = 0 ∧ status.resetEvents = 0) .protocol
  modify fun actor => { actor with
    activeCapture := some ⟨captureId, mode, status.state, true, output⟩ }
  modify fun actor => actor.adoptCaptureDeckState status.state
  tellCapture (captureView status none none none)

def captureStop : Act GenericCaptureView := do
  let actor ← current
  let active ← check (orError actor.activeCapture (.capture "capture.not_active"
    "No latent capture is active in this Deck session."))
  demand (active.mode = .liveCapture) (.capture "capture.stop_invalid"
    "Snapshot capture finishes automatically at its first codec-valid boundary.")
  let ack ← call outside (.captureStop ⟨actor.status.deckSessionId, actor.status.deckRevision,
    active.captureId⟩) mapCaptureClientError
  let status ← expectCapture "The worker returned an invalid capture acknowledgement."
    (captureStopped ack)
  check (validateCaptureStatus status actor.status active.captureId active.mode
    [.finalizing, .completed])
  applyCaptureStatus outside status

def causalLoopReset : Act Unit := do
  let before ← reading fun actor => .ok actor.status
  let (generation, reset) ← check (causalLoopResetRequest before)
  let ack ← call outside (.deckReset reset) mapClientError
  let status ← check (orError (deckWasReset ack) .protocol)
  let slotCounts ← reading fun actor => .ok actor.slotCounts
  check (validateResetStatus before status generation true slotCounts)
  demand (outside.adoptRingGeneration generation = true) .ring
  modify fun actor => { actor.restarted outside.now with status := status }

/-- The batch that `process_once` reads from the ring. -/
def readBatch : Except GenericDeckRuntimeError RgbaBatch :=
  match outside.tryRead with
  | some (.batch batch) => .ok batch
  | some .empty | none => .error .ring

def processOnce : Act Unit := do
  let actor ← current
  let previous := actor.status
  let ack ← call outside (.deckProcess ⟨previous.deckSessionId, previous.deckRevision,
    previous.streamGeneration⟩) mapClientError
  let answer ← check (orError (processed ack) .protocol)
  check (validateProcessStatus previous answer.status actor.slotCounts)
  demand (answer.outputRingId = actor.ringId ∧ answer.outputSlotSequence ≠ 0) .protocol
  let batch ← check (readBatch outside)
  check (validateBatch batch answer.status answer.outputSlotSequence actor.dimensions)
  let frames ← check (splitBatch batch)
  modify fun actor => { actor with pendingFrames := frames }
  let looped ← check (loopedPhysicalSlots previous answer.status actor.slotCounts)
  modify fun actor => { actor with status := answer.status }
  whenever (actor.activeCapture.isSome = true) do
    let _ ← refreshCaptureStatus outside
    pure ()
  whenever (looped ≠ []) (causalLoopReset outside)
  publishStatus

def presentOnce : Act Unit := do
  let actor ← current
  let frame ← check (orError actor.pendingFrames.head? .ring)
  modify fun actor => { actor with pendingFrames := actor.pendingFrames.tail }
  let rowStride ← check (orError (ringRowStride actor.dimensions.1 actor.dimensions.2) .ring)
  let padded ← check (padTightRgba frame actor.dimensions.1 actor.dimensions.2 rowStride)
  demand (outside.present padded = true) .output

def tick : Act Unit := do
  let actor ← current
  whenever (actor.pendingFrames = []) (processOnce outside)
  presentOnce outside

/-- The rest of a mutation: the command is sent, the status that the worker answers is checked and
adopted, and frames decoded before are dropped. -/
def mutate (command : Command) (changed : Ack → Option DeckStatusSnapshot)
    (validate : DeckStatusSnapshot → Except GenericDeckRuntimeError Unit) :
    Act GenericDeckRuntimeView := do
  let ack ← call outside command mapClientError
  let status ← check (orError (changed ack) .protocol)
  check (validate status)
  modify fun actor => { actor with pendingFrames := [], status := status }
  publishStatus
  view

def controlsSet (controls : List ControlBinding) : Act GenericDeckRuntimeView := do
  let actor ← current
  check (prevalidateDynamicState outside.newId actor actor.status.roles.asSlice controls)
  let controls ← check (orError (LimitedVec.tryFromVec controls Control.maxControls) .input)
  mutate outside (.deckControlsSet ⟨actor.status.deckSessionId, actor.status.deckRevision,
    controls⟩) controlsChanged fun status =>
      validateExactMutationStatus { actor.status with controls := controls } status actor.slotCounts

def rolesSet (roles : List RoleBinding) : Act GenericDeckRuntimeView := do
  let actor ← current
  check (prevalidateDynamicState outside.newId actor roles actor.status.controls.asSlice)
  let roles ← check (orError (LimitedVec.tryFromVec roles Control.maxRoles) .input)
  mutate outside (.deckRolesSet ⟨actor.status.deckSessionId, actor.status.deckRevision, roles⟩)
    rolesChanged fun status =>
      validateExactMutationStatus { actor.status with roles := roles } status actor.slotCounts

def transportSet (sources : List SourceTransportBinding) : Act GenericDeckRuntimeView := do
  let actor ← current
  check (validateTransport sources actor.status.playheads.asSlice.length)
  let bound ← check (orError (LimitedVec.tryFromVec sources Control.maxSources) .input)
  mutate outside (.deckTransportSet ⟨actor.status.deckSessionId, actor.status.deckRevision, bound⟩)
    transportChanged fun status =>
      validateTransportMutationStatus actor.status status sources actor.slotCounts

def seedSet (seed : UInt64) : Act GenericDeckRuntimeView := do
  let actor ← current
  demand (seed ≤ maxJsonSafeInteger) .input
  mutate outside (.deckSeedSet ⟨actor.status.deckSessionId, actor.status.deckRevision, seed⟩)
    seedChanged fun status =>
      validateExactMutationStatus { actor.status with seed := seed } status actor.slotCounts

def reset (preservePlayheads : Bool) : Act GenericDeckRuntimeView := do
  let actor ← current
  let before := actor.status
  demand (manualResetAllowed before.captureState = true) .input
  let generation ← check (orError (checkedSucc before.streamGeneration) .protocol)
  let ack ← call outside (.deckReset ⟨before.deckSessionId, before.deckRevision, generation,
    preservePlayheads⟩) mapClientError
  let status ← check (orError (deckWasReset ack) .protocol)
  check (validateResetStatus before status generation preservePlayheads actor.slotCounts)
  demand (outside.adoptRingGeneration generation = true) .ring
  modify fun actor => { actor.restarted outside.now with pendingFrames := [], status := status }
  publishStatus
  view

def showOutput (visible : Bool) : Act Unit := do
  demand (outside.setVisible visible = true) .output
  modify fun actor => { actor with outputVisible := visible }

/-- `set_foreground`; the foreground is kept once the output followed it. -/
def setForeground (foreground : Bool) : Act Unit := do
  let actor ← current
  demand (outside.setSpoutEnabled (foreground && actor.spoutRequestedEnabled) = true) .output
  demand (outside.setVisible (foreground && actor.viewport.visible) = true) .output
  modify fun actor => { actor with
    foreground := foreground
    outputVisible := foreground && actor.viewport.visible }

def setViewport (viewport : EmbeddedViewport) : Act ResizeOutcome := do
  let actor ← current
  if viewport.revision ≤ actor.viewport.revision then pure .unchanged
  else do
    let outcome ← check (orError (outside.setBounds viewport.bounds) .output)
    modify fun actor => { actor with viewport := viewport }
    showOutput outside (actor.foreground && viewport.visible)
    pure outcome

/-- The part of `configure_spout` that enables or disables it. -/
def configureSpoutEnabled (enabled : Bool) : Act Unit := do
  let actor ← current
  demand (¬ (enabled = true ∧ actor.foreground = false))
    (.remote "session.output_lease_not_owned"
      "Only the exact foreground Deck session may enable Spout publication." false)
  demand (outside.setSpoutEnabled enabled = true) .output
  modify fun actor => { actor with spoutRequestedEnabled := enabled }

def configureSpout (name : Option String) (enabled : Option Bool) : Act NativeSpoutStatus := do
  whenSome name fun name => demand (outside.setSpoutName name = true) .output
  whenSome enabled (configureSpoutEnabled outside)
  pure outside.spoutStatus

/-- `restore_replacement_output`; what the output answers is ignored. -/
def restoreReplacementOutput (spoutRequestedEnabled : Bool) : Act NativeSpoutStatus := do
  modify fun actor => { actor with spoutRequestedEnabled := spoutRequestedEnabled }
  pure outside.spoutStatus

def recordingStart (output : String) : Act RecorderStatus := do
  let actor ← current
  demand (actor.activeCapture = none) (.capture "recording.capture_conflict"
    "Finish latent Snapshot or Live Capture before recording decoded MP4.")
  check ((outside.arm output).mapError mapRecordingError)

def diagnostics : Act Unit := do
  let ack ← call outside (.metricsGet ⟨⟩) mapClientError
  demand (outside.diagnosed ack = true) .diagnostics

def stop (reason : ShutdownReason) : Act Unit := do
  let actor ← current
  whenever (actor.workerStopped = false) do
    modify fun actor => { actor with workerStopped := true }
    check ((outside.requestShutdown reason).mapError mapClientError)

end LatentDeck.Host
