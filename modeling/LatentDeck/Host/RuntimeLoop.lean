import LatentDeck.Host.RuntimeActor

/-!
# The run loop of the deck runtime

The loop of an actor takes turns: a turn serves a command, processes the next batch, presents the
next frame, or ends the loop. What is waiting for the loop when it looks is an input of the turn, and
so is everything that the world around answers during the turn.
-/

namespace LatentDeck.Host

open Effect Run
open Control (CaptureMode ControlBinding RoleBinding ShutdownReason SourceTransportBinding)

/-- `RuntimeCommand`, without its reply channel. -/
inductive RuntimeCommand where
  | processOnce
  | controlsSet (controls : List ControlBinding)
  | rolesSet (roles : List RoleBinding)
  | transportSet (sources : List SourceTransportBinding)
  | seedSet (seed : UInt64)
  | reset (preservePlayheads : Bool)
  | setForeground (foreground : Bool)
  | setViewport (viewport : EmbeddedViewport)
  | spoutStatus
  | replacementOutputState
  | configureSpout (name : Option String) (enabled : Option Bool)
  | restoreReplacementOutput (name : String) (spoutRequestedEnabled : Bool)
  | captureStart (mode : CaptureMode) (output : String)
  | captureStop
  | captureStatus
  | recordingStart (output : String)
  | diagnostics
  | shutdown (recordingPolicy : RecordingShutdownPolicy)

inductive RuntimeReply where
  | view (value : GenericDeckRuntimeView)
  | capture (value : GenericCaptureView)
  | resized (outcome : ResizeOutcome)
  | spout (status : NativeSpoutStatus)
  | replacement (status : NativeSpoutStatus) (spoutRequestedEnabled : Bool)
  | recording (status : Output.RecorderStatus)
  | done

variable (outside : Outside)

/-- The result that the match of `handle` computes for a command. -/
def answer : RuntimeCommand → Act RuntimeReply
  | .processOnce => do
      tick outside
      .view <$> view
  | .controlsSet controls => .view <$> controlsSet outside controls
  | .rolesSet roles => .view <$> rolesSet outside roles
  | .transportSet sources => .view <$> transportSet outside sources
  | .seedSet seed => .view <$> seedSet outside seed
  | .reset preservePlayheads => .view <$> reset outside preservePlayheads
  | .setForeground foreground => do
      setForeground outside foreground
      .view <$> view
  | .setViewport viewport => .resized <$> setViewport outside viewport
  | .spoutStatus => pure (.spout outside.spoutStatus)
  | .replacementOutputState =>
      reading fun actor => .ok (.replacement outside.spoutStatus actor.spoutRequestedEnabled)
  | .configureSpout name enabled => .spout <$> configureSpout outside name enabled
  | .restoreReplacementOutput _ spoutRequestedEnabled =>
      .spout <$> restoreReplacementOutput outside spoutRequestedEnabled
  | .captureStart mode output => .capture <$> captureStart outside mode output
  | .captureStop => .capture <$> captureStop outside
  | .captureStatus => .capture <$> captureStatus outside
  | .recordingStart output => .recording <$> recordingStart outside output
  | .diagnostics => do
      diagnostics outside
      pure .done
  | .shutdown _ => do
      stop outside .hostExit
      pure .done

def RuntimeCommand.isShutdown : RuntimeCommand → Bool
  | .shutdown _ => true
  | _ => false

/-- What the loop finds when it looks at its command channel. -/
inductive Arrival where
  | command (command : RuntimeCommand) (heard : Bool)
  | disconnected
  | quiet

structure Turn where
  breaks : Bool
  reply : Option (Except GenericDeckRuntimeError RuntimeReply)
  /-- The error that `fail` takes. -/
  fault : Option GenericDeckRuntimeError

def Turn.idle : Turn := ⟨false, none, none⟩

/-- `finish`: whether the loop ends behind a reply. -/
def finish (result : Except GenericDeckRuntimeError RuntimeReply) (heard : Bool) : Bool :=
  (match result with
    | .error error => error.fatal
    | .ok _ => false) || !heard

def RuntimeActor.restartClockOnResume (actor : RuntimeActor) (wasProcessing : Bool) (now : Nat) :
    RuntimeActor :=
  if wasProcessing = false ∧ actor.processingActive = true then actor.restarted now else actor

def serve (command : RuntimeCommand) (heard : Bool) (actor : RuntimeActor) :
    Turn × RuntimeActor :=
  let (result, after) := ending (answer outside command) actor
  if command.isShutdown || finish result heard then (⟨true, some result, none⟩, after)
  else (⟨false, some result, none⟩,
    after.restartClockOnResume actor.processingActive outside.now)

/-- `fail`, with the end of the loop. -/
def failed (error : GenericDeckRuntimeError) (actor : RuntimeActor) : Turn × RuntimeActor :=
  (⟨true, none, some error⟩, { actor with faultCode := some error.code })

/-- A turn in which the loop works on its own. -/
def work (action : Act Unit) (actor : RuntimeActor) : Turn × RuntimeActor :=
  match ending action actor with
  | (.ok _, after) => (.idle, after)
  | (.error error, after) => failed error after

/-- The end of the loop when every sender is gone. -/
def leave (actor : RuntimeActor) : Turn × RuntimeActor :=
  (⟨true, none, none⟩, (ending (stop outside .hostExit) actor).2)

/-- The work of the loop when the deadline of a frame passes. -/
def frameDue : Act Unit := do
  let actor ← current
  let clock ← check (actor.frameClock.advancePast outside.now)
  modify fun actor => { actor with frameClock := clock }
  presentOnce outside

/-- A turn of `run`. -/
def turn (arrival : Arrival) (actor : RuntimeActor) : Turn × RuntimeActor :=
  if actor.processingActive = true ∧ actor.pendingFrames = [] then
    match arrival with
    | .command command heard => serve outside command heard actor
    | .disconnected => leave outside actor
    | .quiet => work (processOnce outside) actor
  else if actor.processingActive = true then
    match actor.frameClock.nextDeadline outside.latest, arrival with
    | .error error, _ => failed error actor
    | .ok _, .command command heard => serve outside command heard actor
    | .ok _, .disconnected => leave outside actor
    | .ok _, .quiet => work (frameDue outside) actor
  else
    match arrival with
    | .command command heard => serve outside command heard actor
    | .disconnected => leave outside actor
    | .quiet => (.idle, actor)

/-- What `run` does behind its loop. -/
def cleanUp (actor : RuntimeActor) : RuntimeActor :=
  let stopped := (ending (stop outside .protocolFault) actor).2
  { stopped.settleCaptureOnShutdown with outputVisible := false }

/-- The task of an actor: whether its loop still runs. -/
structure RuntimeTask where
  actor : RuntimeActor
  running : Bool

/-- One turn of a task; nothing happens once its loop ended. -/
def RuntimeTask.next (task : RuntimeTask) (input : Outside × Arrival) : Turn × RuntimeTask :=
  if task.running then
    let (told, after) := turn input.1 input.2 task.actor
    if told.breaks then (told, ⟨cleanUp input.1 after, false⟩) else (told, ⟨after, true⟩)
  else (.idle, task)

/-- An actor that `GenericDeckRuntime::start` spawns, as far as its loop depends on it. -/
structure RuntimeActor.Started (actor : RuntimeActor) : Prop where
  clocked : ∃ numerator denominator now,
    FrameClock.new numerator denominator now = .ok actor.frameClock
  uncaptured : actor.activeCapture = none
  waiting : actor.pendingFrames = []
  serving : actor.workerStopped = false

/-- The task that `GenericDeckRuntime::start` spawns. -/
def RuntimeActor.spawn (actor : RuntimeActor) : RuntimeTask := ⟨actor, true⟩

end LatentDeck.Host
