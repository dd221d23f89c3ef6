import LatentDeck.CodecHost.Sources

/-!
# Player, deck and capture commands

A worker warms one session: a player that steps through one source, or a deck that processes all of
its sources with an operator. A deck can record what its operator puts out with a capture writer.
-/

namespace LatentDeck.CodecHost

open Effect Fallible
open Control (Uuid Capability ErrorCode CaptureState DeckState)

def deviceMatchesCodecLoad (device : String × Option Int) (expectedDevice : String)
    (expectedOrdinal : Int) : Bool :=
  if device.1 ≠ expectedDevice then false
  else if expectedDevice = "cpu" then
    expectedOrdinal == 0 && (device.2 == none || device.2 == some 0)
  else expectedDevice == "cuda" && device.2 == some expectedOrdinal

def validateTensor (platform : Platform) (tensor : Tensor) (receipt : ProfileReceipt)
    (loadRequest : CodecLoadRequest) (checkFinite : Bool) : Except Raised Unit :=
  match platform.torch with
  | none => .error (runtimeError .profileInvalid "declared Torch runtime is missing")
  | some version =>
      if version ≠ receipt.tensorAbi.torchVersion then
        .error (runtimeError .profileInvalid "Torch build does not match receipt")
      else if ¬ tensor.isTensor then
        .error (runtimeError .sourceInvalid "adapter returned a non-tensor slot")
      else if tensor.shape ≠ receipt.tensorAbi.shape ∨ tensor.dtype ≠ receipt.tensorAbi.dtype ∨
          receipt.tensorAbi.device ≠ loadRequest.device ∨
          ¬ deviceMatchesCodecLoad tensor.device loadRequest.device loadRequest.deviceOrdinal ∨
          ¬ tensor.contiguous ∨ (checkFinite ∧ ¬ tensor.finite) then
        .error (runtimeError .sourceInvalid
          "adapter tensor violates exact shape, dtype, device, contiguity, or finite ABI")
      else .ok ()

structure ProcessReceipt where
  sessionId : Uuid
  streamGeneration : Nat
  sequence : Nat
  outputRingId : Uuid
  outputSlotSequence : Int
  latentShape : List Int
  latentDtype : String
  latentDevice : String × Option Int
  decodedShape : List Int
  provenance : List (String × Provenance)

def processReceipt (sessionId : Uuid) (generation sequence : Nat) (published : Uuid × Int)
    (tensor : Tensor) (batch : DecodedBatch) (provenance : List (String × Provenance)) :
    ProcessReceipt where
  sessionId := sessionId
  streamGeneration := generation
  sequence := sequence
  outputRingId := published.1
  outputSlotSequence := published.2
  latentShape := tensor.shape
  latentDtype := tensor.dtype
  latentDevice := tensor.device
  decodedShape := [batch.batch, batch.height, batch.width, 4]
  provenance := provenance

def Provenance.fields : Provenance → List (String × Provenance)
  | .object fields => fields
  | _ => []

variable (outside : Outside)

/-- `_publish` — the ring and the slot sequence of the published batch. -/
def publish (sessionId : Uuid) (streamGeneration sequence : Nat) (batch : DecodedBatch) :
    Act (Uuid × Int) := do
  let ring ← reading (·.requireDecodedRing)
  demand (batch.pixels.length ≤ ring.slotBytes)
    (runtimeError .protocolBoundExceeded "decoded output exceeds the shared ring slot")
  let answer ← perform outside (.publish ring.ringId sessionId streamGeneration sequence batch)
  let slotSequence ← check ((answer.filter (0 < ·)).elim
    (.error (runtimeError .workerInternal "shared ring returned an invalid slot sequence")) .ok)
  pure (ring.ringId, slotSequence)

def sourceBinding (payload : Control.SourceBinding) : Except Raised SourceBinding :=
  if isSha256 payload.archiveSha256 then
    .ok ⟨payload.physicalSlot.toNat, payload.sourceId, payload.cartridgeId, payload.archiveSha256,
      payload.profileReceiptId, payload.loopEnabled⟩
  else .error .other

def validateSourceHandle (handle : Option SourceHandle) (sourceId : Uuid) : Except Raised Unit :=
  match handle.bind (·.attributes) with
  | some (owner, slotCount) =>
      if owner ≠ sourceId ∨ slotCount ≤ 0 then
        .error (runtimeError .sourceInvalid "source handle identity is invalid")
      else .ok ()
  | none => .error (runtimeError .sourceInvalid "adapter returned an invalid handle")

/-- The receipt of a source, when a binding describes the source exactly. -/
def BoundCartridge.exactReceipt (bound : BoundCartridge) (source : SourceBinding)
    (capability : Capability) : Except Raised ProfileReceipt :=
  match bound.receipt with
  | some receipt =>
      if bound.access.cartridgeId ≠ source.cartridgeId ∨
          bound.access.archiveSha256 ≠ source.archiveSha256 ∨
          receipt.receiptId ≠ source.profileReceiptId ∨ capability ∉ receipt.capabilities then
        .error (runtimeError .sourceInvalid "source binding is not exact")
      else .ok receipt
  | none => .error (runtimeError .sourceInvalid "source binding is not exact")

/-- Opens the handle of a source; it is kept even when it turns out to be invalid. -/
def openHandle (access : CartridgeAccess) (receipt : ProfileReceipt) (sourceId : Uuid) :
    Act Unit := do
  let handle ← perform outside (.openSource access receipt sourceId)
  changeBound sourceId fun bound => { bound with handle := handle }
  check (validateSourceHandle handle sourceId)

def openSource (source : SourceBinding) (capability : Capability) : Act ProfileReceipt := do
  let _ ← reading (·.readyCodec)
  let bound ← reading (·.requireBound source.sourceId)
  let receipt ← check (bound.exactReceipt source capability)
  whenever (bound.handle.isNone = true) (openHandle outside bound.access receipt source.sourceId)
  pure receipt

def playerOpen (payload : Control.PlayerOpen) : Act PlayerSession := do
  let _ ← reading (·.readyCodec)
  reading (·.admitWorkerSession payload.playerSessionId)
  let source ← check (sourceBinding payload.source)
  let _ ← openSource outside source .player
  let player : PlayerSession :=
    ⟨payload.playerSessionId, source, payload.streamGeneration.toNat, 0, 0, .ready⟩
  modify fun worker => { worker with player := some player }
  pure player

/-- The player at the slot it reads next: it wraps or ends where its source ends. -/
def playerAtSlot (player : PlayerSession) (slotCount : Int) : Act PlayerSession :=
  if (player.playhead : Int) < slotCount then pure player
  else if player.source.loopEnabled then changePlayer fun player => { player with playhead := 0 }
  else do
    let _ ← changePlayer fun player => { player with state := .endOfStream }
    throw (runtimeError .sourceNotLoaded "player reached end of stream")

def playerStep (payload : Control.PlayerStep) : Act ProcessReceipt := do
  let _ ← reading (·.readyCodec)
  let player ← reading (·.requirePlayer payload.playerSessionId payload.streamGeneration.toNat)
  let held ← reading (·.sessionSource player.source)
  let slotCount ← check held.1.slotCount
  let player ← playerAtSlot player slotCount
  let tensor ← perform outside (.readSlot player.source.physicalSlot held.1 player.playhead)
  let loadRequest ← reading (·.loadedCodecRequest)
  check (validateTensor outside.platform tensor held.2 loadRequest true)
  let batch ← perform outside (.decodeSlot tensor payload.maximumDecodedFrames.toNat)
  check batch.validate
  let player ← changePlayer fun player => { player with sequence := player.sequence + 1 }
  let published ← publish outside player.sessionId player.streamGeneration player.sequence batch
  let player ← changePlayer fun player =>
    { player with playhead := player.playhead + 1, state := .playing }
  modify fun worker => { worker with metrics := { worker.metrics with
    playerStepsTotal := worker.metrics.playerStepsTotal + 1
    decodedFramesTotal := worker.metrics.decodedFramesTotal + batch.batch } }
  pure (processReceipt player.sessionId player.streamGeneration player.sequence published tensor
    batch [])

def playerReset (payload : Control.PlayerReset) : Act PlayerSession := do
  let _ ← reading (·.readyCodec)
  let player ← reading (·.requirePlayer payload.playerSessionId none)
  let generation := payload.newStreamGeneration.toNat
  demand (player.streamGeneration < generation)
    (runtimeError .protocolInvalidMessage "stream generation must increase")
  let ring ← reading (·.requireDecodedRing)
  perform outside (.resetDecoder generation)
  perform outside (.setGeneration ring.ringId generation)
  changePlayer fun player =>
    { player with streamGeneration := generation, playhead := 0, sequence := 0, state := .ready }

/-- The states in which a capture records: `{CAPTURING, FINALIZING}`. -/
def isRecording (state : CaptureState) : Bool := state == .capturing || state == .finalizing

def DeckSession.recording (deck : DeckSession) : Option CaptureSession :=
  deck.capture.filter fun capture => isRecording capture.state

/-- `PLAYING` when a source plays, else `PAUSED`. -/
def transportState (transport : List SourceTransport) : DeckState :=
  if transport.any (·.playing) then .playing else .paused

/-- The capture of the deck, changed in place. -/
def changeCapture (change : CaptureSession → CaptureSession) : Act CaptureSession := do
  let deck ← changeDeck (·.changeCapture change)
  check (deck.capture.elim (.error .other) .ok)

def captureFault (capture : CaptureSession) : Act Unit := do
  suppressing (perform outside (.abortCapture capture.writer))
  let _ ← changeCapture fun capture =>
    { capture with payload := none, pendingResetEvent := none, state := .faulted }
  modify fun worker => { worker with captureState := .faulted }
  let _ ← changeDeck fun deck => { deck with state := transportState deck.sourceTransport }
  pure ()

def faultAndRaise {α : Type} (capture : CaptureSession) (raised : Raised) : Act α := do
  captureFault outside capture
  throw raised

def validateCapturePayload (capture : CaptureSession) (payload : CapturePayload) :
    Except Raised Unit :=
  if payload.captureId ≠ capture.captureId ∨ payload.latentSlots ≠ capture.latentSlots ∨
      (capture.maximumLatentSlots : Int) < payload.latentSlots ∨
      (capture.maximumVisualBytes : Int) < payload.payloadByteLength then
    .error (runtimeError .captureLimitExceeded
      "capture artifact identity or declared bounds are invalid")
  else .ok ()

/-- The payload that `_capture_try_finish` accepts from the writer. -/
def finishedPayload (capture : CaptureSession) : Act CapturePayload := do
  let answer ← perform outside (.finishCapture capture.writer)
  let completed ← check (answer.elim (.error (.sdk "capture.payload")) .ok)
  check (completed.validate outside.platform)
  check (validateCapturePayload capture completed)
  pure completed

/-- The error that `_capture_try_finish` raises for an exception of the writer. -/
def finishError : Raised → Raised
  | .sdk code => .runtime (extensionError .captureInvalidState
      "capture writer failed while finalizing its staged payload" code)
  | .runtime error => .runtime error
  | _ => runtimeError .captureInvalidState
      "capture writer failed while finalizing its staged payload"

def completeCapture (payload : CapturePayload) : Act Unit := do
  let _ ← changeCapture fun capture =>
    { capture with payload := some payload, state := .completed }
  modify fun worker => { worker with captureState := .completed }
  let _ ← changeDeck fun deck => { deck with state := transportState deck.sourceTransport }
  pure ()

/-- `_capture_try_finish` — a writer that is not ready yet leaves the capture as it is. -/
def captureTryFinish (capture : CaptureSession) : Act Unit := do
  let completed ← catching (some <$> finishedPayload outside capture) fun raised =>
    if raised = .sdk "capture.not_ready" then pure none
    else faultAndRaise outside capture (finishError raised)
  whenSome completed completeCapture

/-- The error that `_capture_append` raises for an exception of the writer. -/
def appendError : Raised → Raised
  | .sdk code => .runtime (extensionError .captureInvalidState
      "capture writer rejected the post-operator latent slot" code)
  | _ => runtimeError .captureInvalidState "capture writer rejected the post-operator latent slot"

/-- `_capture_append` for a capture that records. -/
def appendRecorded (tensor : Tensor) (capture : CaptureSession) : Act Unit := do
  whenever (capture.maximumLatentSlots ≤ capture.latentSlots)
    (faultAndRaise outside capture
      (runtimeError .captureLimitExceeded "capture latent-slot bound was reached"))
  catching (perform outside (.appendSlot capture.writer tensor capture.pendingResetEvent))
    fun raised => faultAndRaise outside capture (appendError raised)
  let capture ← changeCapture fun capture =>
    { capture with latentSlots := capture.latentSlots + 1, pendingResetEvent := none }
  modify fun worker => { worker with metrics := { worker.metrics with
    captureSlotsTotal := worker.metrics.captureSlotsTotal + 1 } }
  whenever (capture.mode = .snapshot ∨ capture.state = .finalizing)
    (captureTryFinish outside capture)

def captureAppend (tensor : Tensor) : Act Unit := do
  let deck ← reading fun worker => worker.deck.elim (.error .other) .ok
  whenSome deck.recording (appendRecorded outside tensor)

def modeText : Control.CaptureMode → String
  | .snapshot => "snapshot"
  | .liveCapture => "live_capture"

def captureStart (payload : Control.CaptureStart) : Act CaptureSession := do
  let _ ← reading (·.readyCodec)
  let deck ← reading (·.requireDeck payload.deckSessionId payload.deckRevision none)
  demand (¬ deck.capture.any fun capture =>
      capture.state == .starting || isRecording capture.state)
    (runtimeError .captureInvalidState "capture is already active")
  let request : CaptureRequest := ⟨payload.captureId, modeText payload.mode, payload.stagingRoot,
    payload.maximumLatentSlots.toNat, payload.maximumVisualBytes.toNat,
    payload.maximumResetEvents.toNat⟩
  check (request.validate outside.platform)
  let writer ← perform outside (.createCaptureWriter request)
  let capture : CaptureSession := ⟨payload.captureId, payload.mode,
    payload.maximumLatentSlots.toNat, payload.maximumVisualBytes.toNat,
    payload.maximumResetEvents.toNat, writer, .capturing, 0, 0, none, none⟩
  let _ ← changeDeck fun deck => { deck with capture := some capture, state := .capturing }
  modify fun worker => { worker with captureState := .capturing }
  pure capture

/-- The part of `_capture_stop` for a capture without a payload. -/
def stopRecording (capture : CaptureSession) : Act Unit := do
  demand (capture.mode = .liveCapture)
    (runtimeError .captureInvalidState
      "snapshot capture completes automatically at its first valid boundary")
  demand (isRecording capture.state = true)
    (runtimeError .captureInvalidState "capture cannot be stopped from this state")
  let capture ← changeCapture fun capture => { capture with state := .finalizing }
  modify fun worker => { worker with captureState := .finalizing }
  whenever (0 < capture.latentSlots) (captureTryFinish outside capture)

def captureStop (payload : Control.CaptureIdentity) : Act Unit := do
  let found ← reading (·.requireCapture payload)
  whenever (found.2.payload = none) (stopRecording outside found.2)

/-- `_controls`. -/
def controlDict : List ControlWire → Dict String Scalar → Except Raised (Dict String Scalar)
  | [], controls => .ok controls
  | control :: rest, controls =>
      if ¬ isIdentifier control.name then .error .other
      else
        match control.value with
        | .float value =>
            if value.isFinite then controlDict rest (controls.insert control.name control.value)
            else .error (runtimeError .deckInvalid "control must be finite")
        | _ => controlDict rest (controls.insert control.name control.value)

/-- `_controls` with its bound. -/
def controlsOf (controls : List ControlWire) : Except Raised (Dict String Scalar) :=
  if Control.maxControls < controls.length then
    .error (runtimeError .deckInvalid "control bound was exceeded")
  else controlDict controls .empty

def PythonObject.requireCallable (value : PythonObject) (operator : Operator) :
    Except Raised Operator :=
  if value = .callable then .ok operator
  else .error (runtimeError .deckInvalid "Deck entrypoint is not callable")

def loadOperator (entry : TrustedDeckEntrypoint) : Act Operator := do
  let value ← loadEntrypoint outside entry.entrypoint .deckInvalid
  check (value.requireCallable ⟨none, entry.entrypoint⟩)

/-- The checks of `_load_bound_operator` before it looks at the file system. -/
def validateRuntime (runtime : Control.DeckRuntimeBinding)
    (identity : String × String × String × String) : Except Raised Unit := do
  if (runtime.deckId, runtime.deckVersion, runtime.operatorId, runtime.operatorVersion) ≠
      identity then
    .error (runtimeError .deckInvalid "Deck runtime identity does not match deck.load")
  else if ¬ isSha256 runtime.packageManifestSha256 ∨
      ¬ isSha256 runtime.integrityCatalogSha256 ∨
      ¬ isEntrypoint outside.platform runtime.entrypoint then .error .other
  else if runtime.pythonRoot.isEmpty ∨ Control.maxPathBytes < runtime.pythonRoot.utf8ByteSize ∨
      ¬ outside.platform.isAbsolute runtime.pythonRoot then
    .error (runtimeError .deckInvalid "Deck Python root is not absolute")
  else .ok ()

/-- The Python root as the file system resolves it. -/
def RootFacts.requirePythonRoot (root : RootFacts) : Except Raised String :=
  match root.resolved with
  | some resolved =>
      if root.isDirectory then .ok resolved
      else .error (runtimeError .deckInvalid "Deck Python root is not a directory")
  | none => .error (runtimeError .deckInvalid "Deck Python root cannot be resolved")

def loadBoundOperator (runtime : Control.DeckRuntimeBinding)
    (identity : String × String × String × String) : Act Operator := do
  check (validateRuntime outside runtime identity)
  let root ← perform outside (.resolveRuntimeRoot runtime.pythonRoot)
  let pythonRoot ← check root.requirePythonRoot
  let value ← perform outside (.importFromRoot pythonRoot runtime.entrypoint)
  check (value.requireCallable ⟨some pythonRoot, runtime.entrypoint⟩)

/-- `_load_operator` for the trusted entrypoint of a deck. -/
def loadTrustedOperator (identity : String × String × String × String) : Act Operator := do
  let trusted ← reading fun worker => (worker.deckRegistry.lookup identity).elim
    (.error (runtimeError .deckInvalid "deck entrypoint is not trusted")) .ok
  loadOperator outside trusted

/-- The operator that `_deck_load` loads. -/
def loadDeckOperator (payload : DeckLoad) : Act Operator :=
  let identity := (payload.deckId, payload.deckVersion, payload.operatorId,
    payload.operatorVersion)
  payload.runtime.elim (loadTrustedOperator outside identity)
    (loadBoundOperator outside · identity)

/-- The sources of a deck in the order of their physical slots, which are `1..N`. -/
def deckSources (payloads : List Control.SourceBinding) : Except Raised (List SourceBinding) := do
  let bindings ← payloads.mapM sourceBinding
  let sources := bindings.insertionSort (·.physicalSlot ≤ ·.physicalSlot)
  if sources.map (·.physicalSlot) = List.range' 1 sources.length then .ok sources
  else .error (runtimeError .deckInvalid "physical slots must be the exact range 1..N")

def compatibleReceipts : List ProfileReceipt → Except Raised Unit
  | [] => .error .other
  | reference :: receipts =>
      if receipts.all fun receipt => receipt.profileKey == reference.profileKey &&
          receipt.signalGeometry == reference.signalGeometry &&
          receipt.tensorAbi == reference.tensorAbi then .ok ()
      else .error (runtimeError .deckIncompatible
        "Deck sources have incompatible profile, signal, timing, or tensor ABI")

/-- The session that `_deck_load` starts. -/
def freshDeck (payload : DeckLoad) (operator : Operator) (sources : List SourceBinding)
    (controls : Dict String Scalar) : DeckSession where
  sessionId := payload.deckSessionId
  deckId := payload.deckId
  deckVersion := payload.deckVersion
  operatorId := payload.operatorId
  operatorVersion := payload.operatorVersion
  operator := operator
  sources := sources
  roles := payload.roles
  controls := controls
  seed := payload.seed.toNat
  streamGeneration := payload.streamGeneration.toNat
  deckRevision := 1
  sequence := 0
  playheads := sources.map fun _ => 0
  previousSources := sources.map fun _ => none
  sourceTransport := sources.map fun source => ⟨source.physicalSlot, true, source.loopEnabled⟩
  state := .ready
  capture := none

def deckLoad (payload : DeckLoad) : Act DeckSession := do
  let _ ← reading (·.readyCodec)
  reading (·.admitWorkerSession payload.deckSessionId)
  let operator ← loadDeckOperator outside payload
  let sources ← check (deckSources payload.sources)
  let receipts ← each (openSource outside · .realtime) sources
  check (compatibleReceipts receipts)
  check (checkEach (·.validate sources.length) payload.roles)
  let controls ← check (controlsOf payload.controls)
  let deck := freshDeck payload operator sources controls
  modify fun worker => { worker with deck := some deck }
  pure deck

/-- The read of one source in `_deck_process`. -/
def readSource (deck : DeckSession) (source : SourceBinding) (index : Nat) :
    Act (Tensor × ProfileReceipt) := do
  let held ← reading (·.sessionSource source)
  let slotCount ← check held.1.slotCount
  let playhead ← check (deck.playheads[index]?.elim (.error .other) .ok)
  demand ((playhead : Int) < slotCount)
    (runtimeError .sourceNotLoaded "a Deck source playhead is outside its handle")
  let tensor ← perform outside (.readSlot source.physicalSlot held.1 playhead)
  let loadRequest ← reading (·.loadedCodecRequest)
  check (validateTensor outside.platform tensor held.2 loadRequest false)
  pure (tensor, held.2)

def operatorContext (deck : DeckSession) (receipt : ProfileReceipt) : DeckOperatorContext where
  codecFamily := receipt.profileKey.codecFamily
  profile := receipt.profileKey.profile
  profileVersion := receipt.profileKey.profileVersion
  timingContract := receipt.signalGeometry.timingContract
  timingContractVersion := receipt.signalGeometry.timingContractVersion
  frameRateNumerator := receipt.signalGeometry.frameRateNumerator
  frameRateDenominator := receipt.signalGeometry.frameRateDenominator
  generation := deck.streamGeneration
  sequence := deck.sequence
  seed := deck.seed
  playheads := deck.playheads
  physicalSlots := deck.sources.map (·.physicalSlot)
  roles := deck.roles
  previousSources := deck.previousSources

def processSourcesChecked (operator : Operator) (sources : List Tensor)
    (controls : Dict String Scalar) (context : DeckOperatorContext) : Act DeckOperatorResult := do
  check (validateProcessCall outside.platform sources controls context)
  let answer ← perform outside (.operate operator sources controls context)
  check (validateProcessResult outside.platform answer sources)

/-- A deck whose source at a position, which plays, moves to its next slot. -/
def DeckSession.advanced (deck : DeckSession) (index : Nat) (transport : SourceTransport)
    (slotCount : Int) : DeckSession :=
  let nextPlayhead := deck.playheads.getD index 0 + 1
  if (nextPlayhead : Int) < slotCount then
    { deck with playheads := deck.playheads.set index nextPlayhead }
  else if transport.loopEnabled then { deck with playheads := deck.playheads.set index 0 }
  else { deck with
    sourceTransport := deck.sourceTransport.set index { transport with playing := false } }

/-- The move of one source in `_deck_process`. -/
def advanceSource (source : SourceBinding) (index : Nat) : Act Unit := do
  let transport ← reading fun worker =>
    (worker.deck.bind (·.sourceTransport[index]?)).elim (.error .other) .ok
  whenever (transport.playing = true) do
    let held ← reading (·.sessionSource source)
    let slotCount ← check held.1.slotCount
    let _ ← changeDeck (·.advanced index transport slotCount)
    pure ()

/-- The deck state after `_deck_process`. -/
def DeckSession.afterProcess (deck : DeckSession) : DeckSession :=
  if deck.capture.all (·.state == .completed) then
    { deck with state := transportState deck.sourceTransport }
  else deck

/-- The part of `_deck_process` after the batch was published. -/
def advanceDeck (deck : DeckSession) (tensors : List Tensor) : Act Unit := do
  let _ ← changeDeck fun deck => { deck with previousSources := tensors.map some }
  let _ ← each (fun entry : SourceBinding × Nat => advanceSource entry.1 entry.2)
    deck.sources.zipIdx
  let _ ← changeDeck (·.afterProcess)
  pure ()

def deckProcess (payload : Control.DeckProcess) : Act ProcessReceipt := do
  let _ ← reading (·.readyCodec)
  let deck ← reading (·.requireDeck payload.deckSessionId payload.deckRevision
    (some payload.streamGeneration.toNat))
  let read ← each (fun entry : SourceBinding × Nat => readSource outside deck entry.1 entry.2)
    deck.sources.zipIdx
  let tensors := read.map Prod.fst
  let receipt ← check ((read.map Prod.snd).getLast?.elim (.error .other) .ok)
  let deck ← changeDeck fun deck => { deck with sequence := deck.sequence + 1 }
  let result ← processSourcesChecked outside deck.operator tensors deck.controls
    (operatorContext deck receipt)
  let loadRequest ← reading (·.loadedCodecRequest)
  check (validateTensor outside.platform result.output receipt loadRequest false)
  -- Capture comes before decode: the adapter gets the exact post-operator tensor.
  captureAppend outside result.output
  let batch ← perform outside (.decodeSlot result.output receipt.decodedAbi.maximumBatch)
  check batch.validate
  let published ← publish outside deck.sessionId deck.streamGeneration deck.sequence batch
  advanceDeck deck tensors
  modify fun worker => { worker with metrics := { worker.metrics with
    deckProcessTotal := worker.metrics.deckProcessTotal + 1
    decodedFramesTotal := worker.metrics.decodedFramesTotal + batch.batch } }
  pure (processReceipt deck.sessionId deck.streamGeneration deck.sequence published result.output
    batch result.provenance.fields)

def deckControlsSet (payload : DeckControlsSet) : Act DeckSession := do
  let _ ← reading (·.requireDeck payload.deckSessionId payload.deckRevision none)
  let controls ← check (controlsOf payload.controls)
  changeDeck fun deck => { deck with controls := controls }

def deckRolesSet (payload : Control.DeckRolesSet) : Act DeckSession := do
  let deck ← reading (·.requireDeck payload.deckSessionId payload.deckRevision none)
  let roles := roleBindings payload.roles.asSlice
  check (checkEach (·.validate deck.sources.length) roles)
  changeDeck fun deck => { deck with roles := roles }

/-- `_source_transport_binding`. -/
def validateTransportBinding (source : SourceTransport) : Except Raised Unit :=
  if 1 ≤ source.physicalSlot ∧ source.physicalSlot ≤ Control.maxSources then .ok ()
  else .error (runtimeError .deckInvalid "source transport binding is invalid")

def deckTransportSet (payload : Control.DeckTransportSet) : Act DeckSession := do
  let deck ← reading (·.requireDeck payload.deckSessionId payload.deckRevision none)
  let bindings := sourceTransport payload.sources.asSlice
  check (checkEach validateTransportBinding bindings)
  let sources := bindings.insertionSort (·.physicalSlot ≤ ·.physicalSlot)
  demand (sources.map (·.physicalSlot) = deck.sources.map (·.physicalSlot))
    (runtimeError .deckInvalid
      "source transport must bind every loaded physical slot exactly once")
  changeDeck fun deck => { deck with sourceTransport := sources, state := transportState sources }

def deckSeedSet (payload : Control.DeckSeedSet) : Act DeckSession := do
  let _ ← reading (·.requireDeck payload.deckSessionId payload.deckRevision none)
  changeDeck fun deck => { deck with seed := payload.seed.toNat }

/-- The capture bookkeeping of `_deck_reset`. -/
def resetCapture (deck : DeckSession) (generation : Nat) (capture : CaptureSession) :
    Act Unit := do
  if isRecording capture.state then do
    demand (capture.resetEvents < capture.maximumResetEvents)
      (runtimeError .captureLimitExceeded "capture reset-event bound was reached")
    let _ ← changeCapture fun capture => { capture with
      resetEvents := capture.resetEvents + 1
      pendingResetEvent := some ⟨generation, deck.sequence⟩ }
    pure ()
  else if capture.state ∈ [.completed, .aborted, .faulted] then
    modify fun worker => { worker with
      deck := worker.deck.map fun deck => { deck with capture := none }
      captureState := .idle }
  else throw (runtimeError .captureInvalidState
    "Deck reset cannot clear a nonterminal capture state")

/-- The deck after `_deck_reset`. -/
def DeckSession.afterReset (deck : DeckSession) (generation : Nat) (preservePlayheads : Bool) :
    DeckSession :=
  { deck with
    streamGeneration := generation
    sequence := 0
    playheads := if preservePlayheads then deck.playheads else deck.sources.map fun _ => 0
    previousSources := deck.sources.map fun _ => none
    state := if deck.recording.isSome then .capturing else .ready }

def deckReset (payload : Control.DeckReset) : Act DeckSession := do
  let _ ← reading (·.readyCodec)
  let deck ← reading (·.requireDeck payload.deckSessionId payload.deckRevision none)
  let generation := payload.newStreamGeneration.toNat
  demand (deck.streamGeneration < generation)
    (runtimeError .protocolInvalidMessage "stream generation must increase")
  whenSome deck.capture (resetCapture deck generation)
  let ring ← reading (·.requireDecodedRing)
  perform outside (.resetDecoder generation)
  perform outside (.setGeneration ring.ringId generation)
  changeDeck (·.afterReset generation payload.preservePlayheads)

def deckRestart (payload : Control.DeckIdentity) : Act DeckSession := do
  let deck ← reading (·.requireDeck payload.deckSessionId payload.deckRevision none)
  demand (deck.recording = none)
    (runtimeError .stateBusy "capture prevents Deck restart")
  let _ ← reading (·.readyCodec)
  let deck ← changeDeck fun deck => { deck with
    deckRevision := deck.deckRevision + 1
    streamGeneration := deck.streamGeneration + 1 }
  let ring ← reading (·.requireDecodedRing)
  perform outside (.resetDecoder deck.streamGeneration)
  perform outside (.setGeneration ring.ringId deck.streamGeneration)
  changeDeck fun deck => { deck with
    sequence := 0
    playheads := deck.sources.map fun _ => 0
    previousSources := deck.sources.map fun _ => none
    state := .ready }

end LatentDeck.CodecHost
