import LatentDeck.Library.Checked
import LatentDeck.Library.Fallible
import LatentDeck.Library.Run

/-!
# The MP4 recorder

A caller submits decoded frames over a bounded channel to a worker that encodes them. Both update
one status and one terminal error in lock sections; every section and every operation on the channel
or a file is one step of one party. The encoder and the publication succeed or fail as they like,
and another program may write to the destination.
-/

namespace LatentDeck.Output

open Checked Fallible

def frameQueueCapacity : Nat := 16
def maxFrameDimension : Nat := 16384
def maxFrameBytes : Nat := 16 * 1024 * 1024

inductive RecorderState where
  | idle
  | armed
  | recording
  | finalizing
  | finished
  | cancelled
  | failed
  deriving DecidableEq

inductive RecorderError where
  | invalidDestination
  | outputExists
  | invalidFrame
  | queueOverflow
  | unsupportedPlatform
  | encoderUnavailable
  | encodeFailed
  | finalizeFailed
  | workerStopped
  deriving DecidableEq

def RecorderError.code : RecorderError → String
  | .invalidDestination => "recording.destination_invalid"
  | .outputExists => "recording.output_exists"
  | .invalidFrame => "recording.frame_invalid"
  | .queueOverflow => "recording.queue_overflow"
  | .unsupportedPlatform => "recording.platform_unsupported"
  | .encoderUnavailable => "recording.encoder_unavailable"
  | .encodeFailed => "recording.encode_failed"
  | .finalizeFailed => "recording.finalize_failed"
  | .workerStopped => "recording.worker_stopped"

structure RecorderStatus where
  state : RecorderState
  framesAccepted : Nat
  framesWritten : Nat
  width : Option UInt32
  height : Option UInt32
  errorCode : Option String
  deriving DecidableEq

/-- `RecorderStatus::default`, with a state. -/
def RecorderStatus.fresh (state : RecorderState) : RecorderStatus where
  state
  framesAccepted := 0
  framesWritten := 0
  width := none
  height := none
  errorCode := none

structure DecodedFrame where
  width : UInt32
  height : UInt32
  rowStride : UInt32
  paddedRgba : List UInt8
  deriving DecidableEq

/-- Multiplication that refuses a 32-bit overflow. -/
def checkedMul32 (left right : UInt32) : Option Nat :=
  (checkedMul left.toNat right.toNat).filter fun product => product < 2 ^ 32

def validateFrame (frame : DecodedFrame) : Except RecorderError Unit := do
  let packedStride ← orError (checkedMul32 frame.width 4) .invalidFrame
  let expectedLength ← orError (checkedMul32 frame.rowStride frame.height) .invalidFrame
  refuseWhen (frame.width = 0 ∨ frame.height = 0 ∨ frame.width.toNat > maxFrameDimension ∨
      frame.height.toNat > maxFrameDimension ∨ frame.width.toNat % 2 ≠ 0 ∨
      frame.height.toNat % 2 ≠ 0 ∨ frame.rowStride.toNat < packedStride ∨
      expectedLength > maxFrameBytes ∨ frame.paddedRgba.length ≠ expectedLength)
    .invalidFrame

/-- What the file system says about a destination. -/
structure Destination where
  isAbsolute : Bool
  fileName : Option String
  unicode : Bool
  extension : Option String
  parentIsDir : Bool
  present : Bool

def validateDestination (destination : Destination) : Except RecorderError Unit := do
  refuseWhen (¬ destination.isAbsolute ∨ destination.fileName = none ∨
      ¬ destination.extension.any (fun extension => extension.toLower == "mp4") ∨
      ¬ destination.parentIsDir)
    .invalidDestination
  refuseWhen destination.present .outputExists

/-- `temporary_path` — the number of the first of 32 candidates that is not in use. -/
def temporaryPath (destination : Destination) (sequence : Nat) (candidateExists : Nat → Bool) :
    Except RecorderError Nat := do
  refuseWhen (¬ destination.parentIsDir) .invalidDestination
  refuseWhen (destination.fileName = none ∨ ¬ destination.unicode) .invalidDestination
  orError ((List.range' sequence 32).find? fun candidate => ¬ candidateExists candidate)
    .invalidDestination

/-- How far a party has come in recording a failure: it raises the flag, then stores the terminal
error, then the state. -/
inductive FailPhase where
  | cancelling
  | recording
  | reporting
  deriving DecidableEq

inductive CallerAt where
  | idle
  /-- `submit_padded_rgba` before `current_error`. -/
  | readingError (frame : DecodedFrame)
  | readingStatus (frame : DecodedFrame)
  /-- Before `try_send`. -/
  | sending (frame : DecodedFrame)
  | counting (frame : DecodedFrame)
  /-- Before `current_error`, when the channel was disconnected. -/
  | readingDisconnection
  /-- In `fail`. -/
  | failing (phase : FailPhase) (error : RecorderError)
  /-- At the end of `fail`, before the sender is dropped. -/
  | releasing (error : RecorderError)
  /-- `stop` before the sender is dropped. -/
  | stopping
  /-- `join_worker` of `stop`. -/
  | joining
  | readingFinalError
  | readingFinalStatus
  | stopped
  /-- `drop` before the flag is raised. -/
  | dropCancelling
  | dropReleasing
  | dropJoining
  | dropped
  deriving DecidableEq

inductive WorkerAt where
  /-- `recv`. -/
  | receiving
  | checking (frame : DecodedFrame)
  /-- `VideoSink::open`. -/
  | opening (frame : DecodedFrame)
  /-- Before the section that stores `Recording`. -/
  | starting (frame : DecodedFrame)
  /-- `write_rgba`. -/
  | writing (frame : DecodedFrame)
  | counting
  /-- In `set_worker_failure`; after the loop the temporary file is still to be removed. -/
  | failing (phase : FailPhase) (error : RecorderError) (closing : Bool)
  | leaving
  /-- Before the section that stores `Cancelled`. -/
  | cancelling
  /-- Before the section that stores `Finalizing`. -/
  | finalizing
  /-- `finish`. -/
  | finishing
  /-- `publish_no_clobber`. -/
  | publishing
  /-- Before the section that stores `Finished`. -/
  | finished
  /-- `cleanup_temporary`. -/
  | cleaning
  | returning
  | ended
  deriving DecidableEq

inductive OutputFile where
  | foreign
  | recording (frames : List DecodedFrame)
  deriving DecidableEq

/-- A recorder with both of its parties, the channel between them and the files. -/
structure Recorder where
  status : RecorderStatus
  terminalError : Option RecorderError
  cancelled : Bool
  queue : List DecodedFrame
  sender : Bool
  receiver : Bool
  temporary : Bool
  destination : Option OutputFile
  caller : CallerAt
  worker : WorkerAt
  sink : Bool
  /-- The frames whose `submit` has returned `Ok`, in order. -/
  accepted : List DecodedFrame
  passed : List DecodedFrame
  created : List (List DecodedFrame)
  deriving DecidableEq

/-- The recorder that `start` returns, with its worker. -/
def Recorder.armed : Recorder where
  status := .fresh .armed
  terminalError := none
  cancelled := false
  queue := []
  sender := true
  receiver := true
  temporary := false
  destination := none
  caller := .idle
  worker := .receiving
  sink := false
  accepted := []
  passed := []
  created := []

/-- `Mp4Recorder::start`. -/
def Recorder.start (destination : Destination) (sequence : Nat) (candidateExists : Nat → Bool) :
    Except RecorderError Recorder := do
  validateDestination destination
  let _ ← temporaryPath destination sequence candidateExists
  return .armed

inductive Answer where
  /-- `submit` has accepted a frame. -/
  | accepted (frame : DecodedFrame) (status : RecorderStatus)
  /-- `submit` has refused one. -/
  | refused (error : RecorderError)
  /-- What `stop` returns. -/
  | stopped (result : Except RecorderError RecorderStatus)
  /-- `drop` is over. -/
  | dropped

/-- Whether a frame's geometry differs from the one that the first frame fixed. -/
def RecorderStatus.differs (status : RecorderStatus) (frame : DecodedFrame) : Bool :=
  match status.width, status.height with
  | some width, some height => (width, height) != (frame.width, frame.height)
  | _, _ => false

def Recorder.call (recorder : Recorder) : Option Answer × Recorder :=
  match recorder.caller with
  | .idle | .stopped | .dropped => (none, recorder)
  | .readingError frame =>
      match recorder.terminalError with
      | some error => (some (.refused error), { recorder with caller := .idle })
      | none => (none, { recorder with caller := .readingStatus frame })
  | .readingStatus frame =>
      if recorder.status.state ≠ .armed ∧ recorder.status.state ≠ .recording then
        (some (.refused .workerStopped), { recorder with caller := .idle })
      else if recorder.status.differs frame then
        (none, { recorder with caller := .failing .cancelling .invalidFrame })
      else (none, { recorder with caller := .sending frame })
  | .sending frame =>
      if ¬ recorder.sender then
        (some (.refused .workerStopped), { recorder with caller := .idle })
      else if ¬ recorder.receiver then
        (none, { recorder with caller := .readingDisconnection })
      else if recorder.queue.length ≥ frameQueueCapacity then
        (none, { recorder with caller := .failing .cancelling .queueOverflow })
      else
        (none, { recorder with queue := recorder.queue ++ [frame], caller := .counting frame })
  | .counting frame =>
      match checkedAdd recorder.status.framesAccepted 1 with
      | none => (some (.refused .invalidFrame), { recorder with caller := .idle })
      | some framesAccepted =>
          let status := { recorder.status with
            framesAccepted
            width := some frame.width
            height := some frame.height }
          (some (.accepted frame status),
            { recorder with status, accepted := recorder.accepted ++ [frame], caller := .idle })
  | .readingDisconnection =>
      (none, { recorder with
        caller := .failing .cancelling (recorder.terminalError.getD .workerStopped) })
  | .failing .cancelling error =>
      (none, { recorder with cancelled := true, caller := .failing .recording error })
  | .failing .recording error =>
      (none, { recorder with terminalError := some error, caller := .failing .reporting error })
  | .failing .reporting error =>
      (none, { recorder with
        status := { recorder.status with state := .failed, errorCode := some error.code }
        caller := .releasing error })
  | .releasing error =>
      (some (.refused error), { recorder with sender := false, caller := .idle })
  | .stopping => (none, { recorder with sender := false, caller := .joining })
  | .joining =>
      if recorder.worker = .ended then (none, { recorder with caller := .readingFinalError })
      else (none, recorder)
  | .readingFinalError =>
      match recorder.terminalError with
      | some error => (some (.stopped (.error error)), { recorder with caller := .stopped })
      | none => (none, { recorder with caller := .readingFinalStatus })
  | .readingFinalStatus =>
      if recorder.status.state = .finished ∨ recorder.status.state = .cancelled then
        (some (.stopped (.ok recorder.status)), { recorder with caller := .stopped })
      else (some (.stopped (.error .workerStopped)), { recorder with caller := .stopped })
  | .dropCancelling => (none, { recorder with cancelled := true, caller := .dropReleasing })
  | .dropReleasing => (none, { recorder with sender := false, caller := .dropJoining })
  | .dropJoining =>
      if recorder.worker = .ended then (some .dropped, { recorder with caller := .dropped })
      else (none, recorder)

/-- The worker's next section. The outcome is that of an operation on a file; an `open` that fails
may leave a file behind. -/
def Recorder.work (recorder : Recorder) (outcome : Option RecorderError) (leftover : Bool) :
    Recorder :=
  match recorder.worker with
  | .receiving =>
      match recorder.queue with
      | frame :: queue => { recorder with queue, worker := .checking frame }
      | [] => if recorder.sender then recorder else { recorder with worker := .leaving }
  | .checking frame =>
      if recorder.cancelled then { recorder with worker := .leaving }
      else if recorder.sink then { recorder with worker := .writing frame }
      else { recorder with worker := .opening frame }
  | .opening frame =>
      match outcome with
      | none => { recorder with sink := true, temporary := true, worker := .starting frame }
      | some error => { recorder with
          temporary := recorder.temporary || leftover
          worker := .failing .cancelling error false }
  | .starting frame => { recorder with
      status := { recorder.status with state := .recording }
      worker := .writing frame }
  | .writing frame =>
      match outcome with
      | none => { recorder with passed := recorder.passed ++ [frame], worker := .counting }
      | some error => { recorder with
          passed := recorder.passed ++ [frame]
          worker := .failing .cancelling error false }
  | .counting => { recorder with
      status := { recorder.status with
        framesWritten := min (recorder.status.framesWritten + 1) (2 ^ 64 - 1) }
      worker := .receiving }
  | .failing .cancelling error closing =>
      { recorder with cancelled := true, worker := .failing .recording error closing }
  | .failing .recording error closing =>
      { recorder with terminalError := some error, worker := .failing .reporting error closing }
  | .failing .reporting error closing => { recorder with
      status := { recorder.status with state := .failed, errorCode := some error.code }
      worker := if closing then .cleaning else .leaving }
  | .leaving =>
      if recorder.cancelled then { recorder with worker := .cleaning }
      else if recorder.sink then { recorder with worker := .finalizing }
      else { recorder with worker := .cancelling }
  | .cancelling => { recorder with
      status := { recorder.status with state := .cancelled }
      worker := .returning }
  | .finalizing => { recorder with
      status := { recorder.status with state := .finalizing }
      worker := .finishing }
  | .finishing =>
      match outcome with
      | none => { recorder with worker := .publishing }
      | some _ => { recorder with worker := .failing .cancelling .finalizeFailed true }
  | .publishing =>
      match outcome, recorder.destination with
      | none, none => { recorder with
          temporary := false
          destination := some (.recording recorder.passed)
          created := recorder.created ++ [recorder.passed]
          worker := .finished }
      -- The publication never replaces a file.
      | none, some _ => { recorder with worker := .failing .cancelling .outputExists true }
      | some error, _ => { recorder with worker := .failing .cancelling error true }
  | .finished => { recorder with
      status := { recorder.status with state := .finished, errorCode := none }
      worker := .returning }
  | .cleaning => { recorder with temporary := false, worker := .returning }
  | .returning => { recorder with receiver := false, queue := [], worker := .ended }
  | .ended => recorder

inductive Choice where
  /-- The owner calls `submit_padded_rgba`. -/
  | submit (frame : DecodedFrame)
  | stop
  | drop
  | caller
  | worker (outcome : Option RecorderError) (leftover : Bool)
  | foreign
  deriving DecidableEq

/-- One step; a party that cannot make it waits. -/
def Recorder.step (recorder : Recorder) (choice : Choice) : Option Answer × Recorder :=
  match choice with
  | .submit frame =>
      if recorder.caller = .idle then
        match validateFrame frame with
        | .error error => (none, { recorder with caller := .failing .cancelling error })
        | .ok () => (none, { recorder with caller := .readingError frame })
      else (none, recorder)
  | .stop =>
      if recorder.caller = .idle then (none, { recorder with caller := .stopping })
      else (none, recorder)
  | .drop =>
      if recorder.caller = .idle then (none, { recorder with caller := .dropCancelling })
      else (none, recorder)
  | .caller => recorder.call
  | .worker outcome leftover => (none, recorder.work outcome leftover)
  | .foreign =>
      (none, { recorder with destination := recorder.destination.or (some .foreign) })

end LatentDeck.Output
