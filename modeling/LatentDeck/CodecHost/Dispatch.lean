import LatentDeck.CodecHost.Decks
import LatentDeck.Library.Run

/-!
# Dispatch and replies

The outer loop of a worker: it admits an envelope, carries its command out and answers with an
acknowledgement or an error. The acknowledgement is built from the state that the command left, so
building it can fail after the command succeeded.
-/

namespace LatentDeck.CodecHost

open Effect Run
open Control (Uuid Capability CommandName ErrorCode)

def Protocol2Worker.playerStatusWire (worker : Protocol2Worker) (player : PlayerSession) :
    Except Raised PlayerStatus := do
  let held ← worker.sessionSource player.source
  let slotCount ← held.1.slotCount
  .ok {
    playerSessionId := player.sessionId
    state := player.state
    streamGeneration := player.streamGeneration
    streamSequence := player.sequence
    playheadSlot := player.playhead
    endOfStream := slotCount ≤ (player.playhead : Int) && !player.source.loopEnabled
    decodedRingId := worker.decodedRing.map (·.ringId) }

/-- Whether a source of a deck is at its end; a source that plays or loops is not asked for its
length. -/
def atEnd (handle : SourceHandle) (transport : SourceTransport) (playhead : Nat) :
    Except Raised Bool :=
  if transport.playing || transport.loopEnabled then .ok false
  else do
    let slotCount ← handle.slotCount
    .ok (slotCount ≤ (playhead : Int) + 1)

/-- A playhead of `_deck_status_wire`. -/
def Protocol2Worker.playheadWire (worker : Protocol2Worker) (deck : DeckSession)
    (entry : SourceBinding × Nat) : Except Raised Playhead := do
  let held ← worker.sessionSource entry.1
  let playhead ← deck.playheads[entry.2]?.elim (.error .other) .ok
  let transport ← deck.sourceTransport[entry.2]?.elim (.error .other) .ok
  let ended ← atEnd held.1 transport playhead
  .ok ⟨entry.1.physicalSlot, playhead, transport.loopEnabled, ended⟩

/-- `_control_value_wire` with the name of the control. -/
def controlWire (name : String) : Scalar → ControlWire
  | .boolean value => ⟨name, .boolean, .boolean value⟩
  | .integer value => ⟨name, .integer, .integer value⟩
  | .float value => ⟨name, .number, .float value⟩
  | .text value => ⟨name, .text, .text value⟩

def Protocol2Worker.deckStatusWire (worker : Protocol2Worker) (deck : DeckSession) :
    Except Raised DeckStatus := do
  let playheads ← deck.sources.zipIdx.mapM (worker.playheadWire deck)
  .ok {
    deckSessionId := deck.sessionId
    state := deck.state
    deckRevision := deck.deckRevision
    streamGeneration := deck.streamGeneration
    streamSequence := deck.sequence
    playheads
    roles := deck.roles
    controls := deck.controls.entries.map fun entry => controlWire entry.1 entry.2
    sourceTransport := deck.sourceTransport
    seed := deck.seed
    captureState := deck.capture.elim .idle (·.state) }

def captureStatusWire (deck : DeckSession) (capture : CaptureSession) : CaptureStatus where
  deckSessionId := deck.sessionId
  deckRevision := deck.deckRevision
  captureId := capture.captureId
  state := capture.state
  mode := capture.mode
  latentSlots := capture.latentSlots
  resetEvents := capture.resetEvents
  artifact := capture.payload.map fun payload => ⟨payload.payloadPath, payload.payloadSha256,
    payload.payloadByteLength, payload.latentSlots, payload.decodedFrameCount⟩

/-- `_receipt_wire`, with the interpreter version that every validated receipt declares. -/
def receiptWire (receipt : ProfileReceipt) : Except Raised ReceiptWire :=
  if receipt.tensorAbi.pythonVersion = "3.13" then .ok ⟨receipt, 3, 13⟩ else .error .other

def Provenance.scalar? : Provenance → Option Scalar
  | .scalar value => some value
  | _ => none

/-- An entry of `_provenance_wire`. -/
def provenanceEntry (entry : String × Scalar) : Except Raised ControlWire :=
  if isIdentifier entry.1 then .ok (controlWire entry.1 entry.2) else .error .other

/-- `_provenance_wire` — the first scalars by their keys, at most as many as there are controls. -/
def provenanceWire (fields : List (String × Provenance)) : Except Raised (List ControlWire) :=
  let sorted := fields.insertionSort fun first second => first.1 ≤ second.1
  let scalars := sorted.filterMap fun entry => entry.2.scalar?.map (entry.1, ·)
  (scalars.take Control.maxControls).mapM provenanceEntry

/-- What a command returns; a `None` of `player.status` or `deck.status` is an absent session. -/
inductive CommandValue where
  /-- `None`. -/
  | nothing
  /-- The answer of `session.configure`, which no acknowledgement reads. -/
  | configured
  /-- The answer of `session.status`, which no acknowledgement reads. -/
  | status
  | descriptor (value : CodecDescriptor)
  | bound (value : BoundCartridge)
  | identity (value : Uuid)
  | ring (value : RingBinding)
  | inspection (value : ProfileInspection)
  | receipt (value : ProfileReceipt)
  | preflight (value : RawImportPreflight)
  | artifact (value : RawImportArtifact)
  | aborted (importId receiptId : Uuid)
  | player (value : PlayerSession)
  | deck (value : DeckSession)
  | process (value : ProcessReceipt)
  | capture
  | metrics (workerUptimeNs : Nat) (value : Metrics)

def Protocol2Worker.playerAck (worker : Protocol2Worker) : CommandValue → Except Raised Ack
  | .player value => .playerStatus <$> worker.playerStatusWire value
  | _ => .error .other

def Protocol2Worker.deckAck (worker : Protocol2Worker) : CommandValue → Except Raised Ack
  | .deck value => .deckStatus <$> worker.deckStatusWire value
  | _ => .error .other

/-- The acknowledgement of `player.step`, from the player as it is now. -/
def Protocol2Worker.stepAck (worker : Protocol2Worker) : CommandValue → Except Raised Ack
  | .process receipt => do
      let player ← worker.player.elim (.error .other) .ok
      let status ← worker.playerStatusWire player
      .ok (.playerStep status receipt.outputRingId receipt.outputSlotSequence
        (receipt.decodedShape.headD 0))
  | _ => .error .other

/-- The acknowledgement of `deck.process`, from the deck as it is now. -/
def Protocol2Worker.processAck (worker : Protocol2Worker) : CommandValue → Except Raised Ack
  | .process receipt => do
      let deck ← worker.deck.elim (.error .other) .ok
      let status ← worker.deckStatusWire deck
      let provenance ← provenanceWire receipt.provenance
      .ok (.deckProcess status receipt.outputRingId receipt.outputSlotSequence provenance)
  | _ => .error .other

/-- The acknowledgement of a capture, from the deck as it is now. -/
def Protocol2Worker.captureAck (worker : Protocol2Worker) : CommandValue → Except Raised Ack
  | .capture => do
      let deck ← worker.deck.elim (.error .other) .ok
      let capture ← deck.capture.elim (.error .other) .ok
      .ok (.captureStatus (captureStatusWire deck capture))
  | _ => .error .other

def Protocol2Worker.ackPayload (worker : Protocol2Worker) (value : CommandValue) :
    Command → Except Raised Ack
  | .sessionConfigure request => .ok (.sessionConfigure request.requestedCapabilities.asSlice)
  | .sessionStatus => .ok (.sessionStatus worker.status)
  | .sessionShutdown request => .ok (.sessionShutdown request.reason)
  | .codecDescriptor _ =>
      match value with
      | .descriptor descriptor => .ok (.codecDescriptor descriptor)
      | _ => .error .other
  | .codecLoad request =>
      match value with
      | .descriptor descriptor => .ok (.codecLoad descriptor.packId descriptor.packVersion
          descriptor.adapterId descriptor.adapterVersion request.device
          request.deviceOrdinal.toNat)
      | _ => .error .other
  | .codecUnload request => .ok (.codecUnload request.packId request.packVersion)
  | .sourceOpen _ =>
      match value with
      | .bound bound =>
          .ok (.sourceOpen bound.sourceId bound.access.cartridgeId bound.access.archiveSha256)
      | _ => .error .other
  | .sourceClose _ =>
      match value with
      | .identity sourceId => .ok (.sourceClose sourceId)
      | _ => .error .other
  | .ringConfigure _ =>
      match value with
      | .ring ring => .ok (.ringConfigure ring)
      | _ => .error .other
  | .ringRelease _ =>
      match value with
      | .identity ringId => .ok (.ringRelease ringId)
      | _ => .error .other
  | .profileInspect request =>
      match value with
      | .inspection inspection => .ok (.profileInspect request.sourceId inspection)
      | _ => .error .other
  | .profileValidate _ =>
      match value with
      | .receipt receipt => .profileValidate <$> receiptWire receipt
      | _ => .error .other
  | .rawImportPreflight _ =>
      match value with
      | .preflight preflight => .ok (.rawImportPreflight preflight)
      | _ => .error .other
  | .rawImportStage _ =>
      match value with
      | .artifact artifact => .ok (.rawImportStage artifact)
      | _ => .error .other
  | .rawImportAbort _ =>
      match value with
      | .aborted importId receiptId => .ok (.rawImportAbort importId receiptId)
      | _ => .error .other
  | .playerOpen _ | .playerReset _ | .playerStatus => worker.playerAck value
  | .playerStep _ => worker.stepAck value
  | .deckLoad _ | .deckControlsSet _ | .deckRolesSet _ | .deckTransportSet _ | .deckSeedSet _
  | .deckReset _ | .deckRestart _ | .deckStatus => worker.deckAck value
  | .deckProcess _ => worker.processAck value
  | .captureStart _ | .captureStop _ | .captureStatus _ => worker.captureAck value
  | .metricsGet =>
      match value with
      | .metrics workerUptimeNs metrics => .ok (.metricsGet workerUptimeNs metrics)
      | _ => .error .other

variable (outside : Outside)

def captureStatus (payload : Control.CaptureIdentity) : Act Unit := do
  let _ ← reading (·.requireCapture payload)
  pure ()

/-- The operation of a command: the table of `_dispatch`. -/
def operation : Command → Act CommandValue
  | .sessionConfigure request => do configure request; pure .configured
  | .sessionStatus => pure .status
  | .sessionShutdown _ => do shutdownWorker outside; pure .nothing
  | .codecDescriptor request => .descriptor <$> codecDescriptor outside request
  | .codecLoad request => .descriptor <$> codecLoad outside request
  | .codecUnload request => do codecUnload outside request; pure .nothing
  | .sourceOpen request => .bound <$> sourceOpen outside request
  | .sourceClose request => .identity <$> sourceClose outside request
  | .ringConfigure request => .ring <$> ringConfigure outside request
  | .ringRelease request => .identity <$> ringRelease outside request
  | .profileInspect request => .inspection <$> profileInspect outside request
  | .profileValidate request => .receipt <$> profileValidate outside request
  | .rawImportPreflight request => .preflight <$> rawImportPreflight outside request
  | .rawImportStage request => .artifact <$> rawImportStage outside request
  | .rawImportAbort request =>
      (fun ids => .aborted ids.1 ids.2) <$> rawImportAbort outside request
  | .playerOpen request => .player <$> playerOpen outside request
  | .playerStep request => .process <$> playerStep outside request
  | .playerReset request => .player <$> playerReset outside request
  | .playerStatus => reading fun worker => .ok (worker.player.elim .nothing .player)
  | .deckLoad request => .deck <$> deckLoad outside request
  | .deckProcess request => .process <$> deckProcess outside request
  | .deckControlsSet request => .deck <$> deckControlsSet request
  | .deckRolesSet request => .deck <$> deckRolesSet request
  | .deckTransportSet request => .deck <$> deckTransportSet request
  | .deckSeedSet request => .deck <$> deckSeedSet request
  | .deckReset request => .deck <$> deckReset outside request
  | .deckRestart request => .deck <$> deckRestart outside request
  | .deckStatus => reading fun worker => .ok (worker.deck.elim .nothing .deck)
  | .captureStart request => do let _ ← captureStart outside request; pure .capture
  | .captureStop request => do captureStop outside request; pure .capture
  | .captureStatus request => do captureStatus request; pure .capture
  | .metricsGet => reading fun worker => .ok (.metrics outside.uptimeNs.toNat worker.metrics)

def dispatch (command : Command) : Act CommandValue := do
  require (!·.shutdown) (runtimeError .stateBusy "worker is stopped")
  require (fun worker => command.name == .sessionConfigure || worker.sessionState != .unconfigured)
    (runtimeError .sessionNotConfigured "session.configure must run first")
  operation outside command

def maxResultRecords : Nat := 256

/-- `_remember_result` — a result that is there is kept, at most a bounded number of them. -/
def Protocol2Worker.remember (worker : Protocol2Worker) (messageId : Uuid) (name : CommandName)
    (value : CommandValue) : Protocol2Worker :=
  match value with
  | .nothing => worker
  | _ =>
      let results := worker.commandResults
      let kept :=
        if maxResultRecords ≤ results.entries.length then
          match results.keys with
          | [] => results
          | oldest :: _ => results.erase oldest
        else results
      { worker with commandResults := kept.insert messageId name }

/-- `_reply` — the reply takes a sequence number even when it is not valid. -/
def reply (replyId : FreshId) (message : ReplyMessage) : Act Reply := do
  let made ← reading fun worker =>
    .ok ⟨worker.sessionId, worker.outgoingSequence, replyId.val, outside.uptimeNs.toNat, message⟩
  modify fun worker => { worker with outgoingSequence := worker.outgoingSequence + 1 }
  demand (Reply.admissible outside.platform made = true) .other
  pure made

def errorReply (replyTo : Uuid) (name : CommandName) (error : WorkerRuntimeError) :
    Act Reply := do
  let status ← reading fun worker => .ok worker.status
  reply outside outside.errorReplyId
    (.error replyTo name ⟨error, status, outside.diagnosticId.val⟩)

def sdkErrorCode : CommandName → ErrorCode
  | .profileInspect | .profileValidate => .profileInvalid
  | .deckLoad | .deckProcess | .deckControlsSet | .deckRolesSet | .deckTransportSet | .deckSeedSet
  | .deckReset | .deckRestart | .deckStatus => .deckInvalid
  | .captureStart | .captureStop | .captureStatus => .captureInvalidState
  | .rawImportPreflight | .rawImportStage | .rawImportAbort
  | .playerOpen | .playerStep | .playerReset | .playerStatus => .sourceInvalid
  | _ => .codecNotLoaded

/-- The error that answers an exception of a command. -/
def answeredError (name : CommandName) : Raised → WorkerRuntimeError
  | .runtime error => error
  | .sdk code | .deckContract code => extensionError (sdkErrorCode name)
      "trusted extension rejected the requested operation" code
  | .other => ⟨.workerInternal, boundedErrorText "trusted runtime operation failed", false, true,
      []⟩

/-- Whether an exception faults the session: only a `WorkerRuntimeError` that is marked fatal. -/
def Raised.faults : Raised → Bool
  | .runtime error => error.fatal
  | _ => false

/-- The `except` clauses of `handle_envelope`. -/
def answerFailure (replyTo : Uuid) (name : CommandName) (raised : Raised) : Act Reply := do
  modify fun worker => { worker with metrics := { worker.metrics with
    commandsFailedTotal := worker.metrics.commandsFailedTotal + 1 } }
  whenever (raised.faults = true)
    (modify fun worker => { worker with sessionState := .faulted })
  errorReply outside replyTo name (answeredError name raised)

def validateIncoming (envelope : Envelope) : Act Unit := do
  require (envelope.sessionId == ·.sessionId)
    (runtimeError .protocolInvalidMessage "command belongs to another session")
  require (envelope.sequence.toNat == ·.incomingSequence)
    (runtimeError .protocolInvalidMessage "command sequence is not contiguous")
  require (!·.seenMessageIds.contains envelope.messageId)
    (runtimeError .protocolInvalidMessage "message ID was already consumed")
  modify fun worker => { worker with
    seenMessageIds := envelope.messageId :: worker.seenMessageIds
    incomingSequence := worker.incomingSequence + 1 }

def Incoming.requireCommand : Incoming → Except Raised Command
  | .command value => .ok value
  | .other => .error (runtimeError .protocolInvalidMessage "worker accepts command envelopes only")

/-- The command that an envelope brings, or why it is not carried out. -/
def admitCommand (envelope : Envelope) : Act (Except Raised Command) :=
  catching (do
      validateIncoming envelope
      let command ← check envelope.message.requireCommand
      pure (.ok command))
    fun raised => pure (.error raised)

def acknowledge (messageId : Uuid) (command : Command) : Act Reply := do
  modify fun worker => { worker with metrics := { worker.metrics with
    commandsTotal := worker.metrics.commandsTotal + 1 } }
  let value ← dispatch outside command
  modify fun worker => worker.remember messageId command.name value
  let payload ← reading fun worker => worker.ackPayload value command
  let status ← reading fun worker => .ok worker.status
  reply outside outside.replyId (.ack messageId command.name payload status)

def answerCommand (messageId : Uuid) : Except Raised Command → Act Reply
  | .error raised => answerFailure outside messageId .sessionStatus raised
  | .ok command => catching (acknowledge outside messageId command)
      (answerFailure outside messageId command.name)

def handleEnvelope (envelope : Envelope) : Act Reply := do
  demand (envelope.admissible outside.platform = true) .other
  let admitted ← admitCommand envelope
  answerCommand outside envelope.messageId admitted

/-- The last act for a source: neither closing its handle nor its access can fail it. -/
def abandonSource (source : Uuid × BoundCartridge) : Act Unit := do
  whenSome source.2.handle fun handle => do
    suppressing (perform outside (.closeHandle source.1 handle))
    changeBound source.1 fun bound => { bound with handle := none }
  suppressing (perform outside (.closeCartridge (some source.2.access)))

/-- The part of `abort_transport` for a worker that has not shut down. -/
def abandon : Act Unit := do
  let deck ← reading fun worker => .ok worker.deck
  whenSome (deck.bind (·.capture)) fun capture =>
    whenever (capture.state ∉ [.completed, .aborted]) do
      suppressing (perform outside (.abortCapture capture.writer))
      modify fun worker => { worker with
        deck := worker.deck.map (·.changeCapture fun capture => { capture with state := .aborted })
        captureState := .aborted }
  abortAllRawImports outside
  let sources ← reading fun worker => .ok worker.bound.entries
  let _ ← each (abandonSource outside) sources
  modify fun worker => { worker with bound := .empty }
  let rings ← reading fun worker => .ok worker.rings.keys
  let _ ← each (fun ringId => suppressing (perform outside (.releaseRing ringId))) rings
  modify fun worker => { worker with
    rings := .empty
    shutdown := true
    sessionState := .stopped }

def abortTransport : Act Unit := do
  let stopped ← reading fun worker => .ok worker.shutdown
  whenever (stopped = false) (abandon outside)

end LatentDeck.CodecHost
