import LatentDeck.Control.Payloads

/-!
# Protocol 2 messages

Commands, acknowledgements, errors and events, the envelope around them, and the check of a whole
envelope. A command and its acknowledgement carry the same name.
-/

namespace LatentDeck.Control

inductive Command where
  | sessionConfigure (value : SessionConfigure)
  | sessionStatus (value : EmptyPayload)
  | sessionShutdown (value : SessionShutdown)
  | codecDescriptor (value : CodecDescriptorRequest)
  | codecLoad (value : CodecLoad)
  | codecUnload (value : CodecUnload)
  | sourceOpen (value : SourceOpen)
  | sourceClose (value : SourceClose)
  | ringConfigure (value : RingConfigure)
  | ringRelease (value : RingRelease)
  | profileInspect (value : ProfileInspect)
  | profileValidate (value : ProfileValidate)
  | rawImportPreflight (value : RawImportPreflightRequest)
  | rawImportStage (value : RawImportStage)
  | rawImportAbort (value : RawImportAbort)
  | playerOpen (value : PlayerOpen)
  | playerStep (value : PlayerStep)
  | playerReset (value : PlayerReset)
  | playerStatus (value : EmptyPayload)
  | deckLoad (value : DeckLoad)
  | deckProcess (value : DeckProcess)
  | deckControlsSet (value : DeckControlsSet)
  | deckRolesSet (value : DeckRolesSet)
  | deckTransportSet (value : DeckTransportSet)
  | deckSeedSet (value : DeckSeedSet)
  | deckReset (value : DeckReset)
  | deckRestart (value : DeckIdentity)
  | deckStatus (value : EmptyPayload)
  | captureStart (value : CaptureStart)
  | captureStop (value : CaptureIdentity)
  | captureStatus (value : CaptureIdentity)
  | metricsGet (value : EmptyPayload)

def Command.name : Command → CommandName
  | .sessionConfigure _ => .sessionConfigure
  | .sessionStatus _ => .sessionStatus
  | .sessionShutdown _ => .sessionShutdown
  | .codecDescriptor _ => .codecDescriptor
  | .codecLoad _ => .codecLoad
  | .codecUnload _ => .codecUnload
  | .sourceOpen _ => .sourceOpen
  | .sourceClose _ => .sourceClose
  | .ringConfigure _ => .ringConfigure
  | .ringRelease _ => .ringRelease
  | .profileInspect _ => .profileInspect
  | .profileValidate _ => .profileValidate
  | .rawImportPreflight _ => .rawImportPreflight
  | .rawImportStage _ => .rawImportStage
  | .rawImportAbort _ => .rawImportAbort
  | .playerOpen _ => .playerOpen
  | .playerStep _ => .playerStep
  | .playerReset _ => .playerReset
  | .playerStatus _ => .playerStatus
  | .deckLoad _ => .deckLoad
  | .deckProcess _ => .deckProcess
  | .deckControlsSet _ => .deckControlsSet
  | .deckRolesSet _ => .deckRolesSet
  | .deckTransportSet _ => .deckTransportSet
  | .deckSeedSet _ => .deckSeedSet
  | .deckReset _ => .deckReset
  | .deckRestart _ => .deckRestart
  | .deckStatus _ => .deckStatus
  | .captureStart _ => .captureStart
  | .captureStop _ => .captureStop
  | .captureStatus _ => .captureStatus
  | .metricsGet _ => .metricsGet

def Command.validate (isAbsolute : String → Bool) : Command → Checked
  | .sessionStatus _ | .sessionShutdown _ | .playerStatus _
  | .deckStatus _ | .metricsGet _ => .ok ()
  | .sessionConfigure value => value.validate
  | .codecDescriptor value => value.validate
  | .codecLoad value => value.validate
  | .codecUnload value => value.validate
  | .sourceOpen value => value.validate
  | .sourceClose value => value.validate
  | .ringConfigure value => value.validate
  | .ringRelease value => value.validate
  | .profileInspect value => value.validate
  | .profileValidate value => value.validate
  | .rawImportPreflight value => value.validate isAbsolute
  | .rawImportStage value => value.validate isAbsolute
  | .rawImportAbort value => value.validate
  | .playerOpen value => value.validate
  | .playerStep value => value.validate
  | .playerReset value => value.validate
  | .deckLoad value => value.validate isAbsolute
  | .deckProcess value => value.validate
  | .deckControlsSet value => value.validate
  | .deckRolesSet value => value.validate
  | .deckTransportSet value => value.validate
  | .deckSeedSet value => value.validate
  | .deckReset value => value.validate
  | .deckRestart value => value.validate
  | .captureStart value => value.validate isAbsolute
  | .captureStop value => value.validate
  | .captureStatus value => value.validate

inductive Ack where
  | sessionConfigure (value : SessionConfigured)
  | sessionStatus (value : StatusSnapshot)
  | sessionShutdown (value : ShutdownAck)
  | codecDescriptor (value : CodecDescriptor)
  | codecLoad (value : CodecLoaded)
  | codecUnload (value : CodecUnloaded)
  | sourceOpen (value : SourceOpened)
  | sourceClose (value : SourceClosed)
  | ringConfigure (value : RingConfigured)
  | ringRelease (value : RingReleased)
  | profileInspect (value : ProfileInspection)
  | profileValidate (value : ProfileReceipt)
  | rawImportPreflight (value : RawImportPreflight)
  | rawImportStage (value : RawImportArtifact)
  | rawImportAbort (value : RawImportAborted)
  | playerOpen (value : PlayerStatusSnapshot)
  | playerStep (value : PlayerStepAck)
  | playerReset (value : PlayerStatusSnapshot)
  | playerStatus (value : PlayerStatusSnapshot)
  | deckLoad (value : DeckStatusSnapshot)
  | deckProcess (value : DeckProcessAck)
  | deckControlsSet (value : DeckStatusSnapshot)
  | deckRolesSet (value : DeckStatusSnapshot)
  | deckTransportSet (value : DeckStatusSnapshot)
  | deckSeedSet (value : DeckStatusSnapshot)
  | deckReset (value : DeckStatusSnapshot)
  | deckRestart (value : DeckStatusSnapshot)
  | deckStatus (value : DeckStatusSnapshot)
  | captureStart (value : CaptureStatusSnapshot)
  | captureStop (value : CaptureStatusSnapshot)
  | captureStatus (value : CaptureStatusSnapshot)
  | metricsGet (value : MetricsSnapshot)

def Ack.name : Ack → CommandName
  | .sessionConfigure _ => .sessionConfigure
  | .sessionStatus _ => .sessionStatus
  | .sessionShutdown _ => .sessionShutdown
  | .codecDescriptor _ => .codecDescriptor
  | .codecLoad _ => .codecLoad
  | .codecUnload _ => .codecUnload
  | .sourceOpen _ => .sourceOpen
  | .sourceClose _ => .sourceClose
  | .ringConfigure _ => .ringConfigure
  | .ringRelease _ => .ringRelease
  | .profileInspect _ => .profileInspect
  | .profileValidate _ => .profileValidate
  | .rawImportPreflight _ => .rawImportPreflight
  | .rawImportStage _ => .rawImportStage
  | .rawImportAbort _ => .rawImportAbort
  | .playerOpen _ => .playerOpen
  | .playerStep _ => .playerStep
  | .playerReset _ => .playerReset
  | .playerStatus _ => .playerStatus
  | .deckLoad _ => .deckLoad
  | .deckProcess _ => .deckProcess
  | .deckControlsSet _ => .deckControlsSet
  | .deckRolesSet _ => .deckRolesSet
  | .deckTransportSet _ => .deckTransportSet
  | .deckSeedSet _ => .deckSeedSet
  | .deckReset _ => .deckReset
  | .deckRestart _ => .deckRestart
  | .deckStatus _ => .deckStatus
  | .captureStart _ => .captureStart
  | .captureStop _ => .captureStop
  | .captureStatus _ => .captureStatus
  | .metricsGet _ => .metricsGet

def Ack.validate (isAbsolute : String → Bool) : Ack → Checked
  | .sessionShutdown _ | .metricsGet _ => .ok ()
  | .sessionConfigure value => value.validate
  | .sessionStatus value => value.validate
  | .codecDescriptor value => value.validate
  | .codecLoad value => value.validate
  | .codecUnload value => value.validate
  | .sourceOpen value => value.validate
  | .sourceClose value => value.validate
  | .ringConfigure value => value.validate
  | .ringRelease value => value.validate
  | .profileInspect value => value.validate
  | .profileValidate value => value.validate
  | .rawImportPreflight value => value.validate
  | .rawImportStage value => value.validate isAbsolute
  | .rawImportAbort value => value.validate
  | .playerOpen value => value.validate
  | .playerStep value => value.validate
  | .playerReset value => value.validate
  | .playerStatus value => value.validate
  | .deckLoad value => value.validate
  | .deckProcess value => value.validate
  | .deckControlsSet value => value.validate
  | .deckRolesSet value => value.validate
  | .deckTransportSet value => value.validate
  | .deckSeedSet value => value.validate
  | .deckReset value => value.validate
  | .deckRestart value => value.validate
  | .deckStatus value => value.validate
  | .captureStart value => value.validate isAbsolute
  | .captureStop value => value.validate isAbsolute
  | .captureStatus value => value.validate isAbsolute

/-- `AckReply` — the final answer of an accepted command. -/
structure AckReply where
  replyTo : Uuid
  ack : Ack
  status : StatusSnapshot

/-- `ErrorReply` — the final answer of a refused command. -/
structure ErrorReply where
  replyTo : Uuid
  name : CommandName
  error : ErrorPayload

inductive Event where
  | workerHello (value : WorkerHello)
  | statusChanged (value : StatusSnapshot)
  | workerHeartbeat (value : StatusSnapshot)
  | workerFault (value : ErrorPayload)

/-- The check of the event in `Message::validate`. -/
def Event.validate : Event → Checked
  | .workerHello hello => hello.validate
  | .statusChanged status | .workerHeartbeat status => status.validate
  | .workerFault error => error.validate

/-- `EventMessage` — an event and the command that caused it. -/
structure EventMessage where
  causedBy : Option Uuid
  event : Event

inductive Message where
  | command (value : Command)
  | ack (value : AckReply)
  | error (value : ErrorReply)
  | event (value : EventMessage)

def Message.validate (isAbsolute : String → Bool) : Message → Checked
  | .command value => value.validate isAbsolute
  | .ack reply => do
      nonNil reply.replyTo "ack.reply_to"
      reply.ack.validate isAbsolute
      reply.status.validate
  | .error reply => do
      nonNil reply.replyTo "error.reply_to"
      reply.error.validate
  | .event value => do
      refuseIf (value.causedBy.any Uuid.isNil) (.nilIdentifier "event.caused_by")
      value.event.validate

/-- `Envelope` — one frame of a session. -/
structure Envelope where
  protocol : ProtocolMarker
  protocolVersion : UInt16
  sessionId : Uuid
  sequence : UInt64
  messageId : Uuid
  senderUptimeNs : UInt64
  message : Message

def Envelope.new (sessionId : Uuid) (sequence : UInt64) (messageId : Uuid)
    (senderUptimeNs : UInt64) (message : Message) : Envelope where
  protocol := .latentDeckWorker
  protocolVersion := Control.protocolVersion
  sessionId := sessionId
  sequence := sequence
  messageId := messageId
  senderUptimeNs := senderUptimeNs
  message := message

def Envelope.validate (isAbsolute : String → Bool) (envelope : Envelope) : Checked := do
  refuseIf (envelope.protocolVersion ≠ Control.protocolVersion)
    (.unsupportedVersion envelope.protocolVersion)
  nonNil envelope.sessionId "envelope.session_id"
  nonNil envelope.messageId "envelope.message_id"
  refuseIf (envelope.sequence = 0) (.invalidField "envelope.sequence")
  envelope.message.validate isAbsolute

def sampleSession : Uuid := 1

def sampleMessage : Uuid := 2

/-- A `session.status` request with a sequence number. -/
def statusRequest (sequence : UInt64) : Envelope :=
  .new sampleSession sequence sampleMessage 0 (.command (.sessionStatus ⟨⟩))

def rooted (path : String) : Bool := path.toList.head? == some '/'

end LatentDeck.Control
