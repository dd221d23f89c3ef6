import LatentDeck.Host.RuntimeActor

/-!
# The controller of decoded recordings

Any number of callers arm a recorder, submit frames to it, ask for its status and stop it. A
recorder is in the slot of the controller, or in the hands of the arm that started it or of the stop
that finalizes it; other stops wait for the outcome. Every lock section is one step, and so is every
start and stop of a recorder, which is answered from outside.
-/

namespace LatentDeck.Recording

open Checked Fallible Host Output

structure CompletedFinalization where
  epoch : Nat
  status : RecorderStatus
  error : Option RecorderError
  deriving DecidableEq

abbrev StopResult : Type := Except DecodedRecordingError RecorderStatus

def CompletedFinalization.outcome (completed : CompletedFinalization) : StopResult :=
  match completed.error with
  | none => .ok completed.status
  | some error => .error (.recorder error)

/-- `ControllerInner`; a recorder is its number in the order in which recorders were started. -/
structure ControllerInner where
  recorder : Option Nat
  lastStatus : RecorderStatus
  finalizingEpoch : Option Nat
  completedFinalization : Option CompletedFinalization
  finalizationWaiters : Nat
  nextFinalizationEpoch : Nat
  deriving DecidableEq

/-- `matches!(state, Armed | Recording | Finalizing)`. -/
def isActiveState : RecorderState → Bool
  | .armed | .recording | .finalizing => true
  | .idle | .finished | .cancelled | .failed => false

inductive Stopping where
  | answered (result : StopResult)
  | waits (epoch : Nat)
  | takes (epoch recorder : Nat)

namespace ControllerInner

/-- `ControllerInner::default`. -/
def default : ControllerInner where
  recorder := none
  lastStatus := .fresh .idle
  finalizingEpoch := none
  completedFinalization := none
  finalizationWaiters := 0
  nextFinalizationEpoch := 0

variable (inner : ControllerInner)

/-- The first lock section of `arm`: the recorder in the slot, whose status is observed, is retired
unless it is active. -/
def armRetire (observed : RecorderStatus) :
    Except DecodedRecordingError (Option Nat × ControllerInner) :=
  if inner.finalizingEpoch.isSome ∨ 0 < inner.finalizationWaiters ∨
      (inner.recorder.isSome ∧ isActiveState observed.state = true) then .error .active
  else .ok (inner.recorder, { inner with recorder := none })

/-- The second lock section of `arm`. -/
def armInstall (recorder : Nat) (status : RecorderStatus) :
    Except DecodedRecordingError ControllerInner :=
  if inner.finalizingEpoch.isSome ∨ 0 < inner.finalizationWaiters ∨ inner.recorder.isSome then
    .error .active
  else .ok
    { inner with
      completedFinalization := none
      lastStatus := status
      recorder := some recorder }

/-- `submit_if_active`, with the answer of the recorder and its status afterwards. -/
def submitIfActive (answer : Except RecorderError RecorderStatus) (observed : RecorderStatus) :
    Option RecorderStatus × ControllerInner :=
  match inner.recorder with
  | none => (none, inner)
  | some _ =>
      let status : RecorderStatus :=
        match answer with
        | .ok status => status
        | .error error => { observed with state := .failed, errorCode := some error.code }
      (some status, { inner with lastStatus := status })

/-- `status`, with the status of the recorder. -/
def status (observed : RecorderStatus) : RecorderStatus × ControllerInner :=
  match inner.recorder with
  | none => (inner.lastStatus, inner)
  | some _ => (observed, { inner with lastStatus := observed })

/-- One look at the completed finalization in the loop of `stop`. -/
def stopLook (epoch : Nat) : Stopping × ControllerInner :=
  match inner.completedFinalization.filter fun completed => completed.epoch = epoch with
  | some completed => (.answered completed.outcome,
      { inner with finalizationWaiters := inner.finalizationWaiters - 1 })
  | none => (.waits epoch, inner)

/-- The first lock section of `stop`, up to the first wait. -/
def stopEnter : Stopping × ControllerInner :=
  match inner.finalizingEpoch with
  | some epoch =>
      match checkedAdd inner.finalizationWaiters 1 with
      | none => (.answered (.error .state), inner)
      | some finalizationWaiters => { inner with finalizationWaiters }.stopLook epoch
  | none =>
      match inner.recorder with
      | none =>
          match inner.completedFinalization with
          | some completed => (.answered completed.outcome, inner)
          | none => (.answered (.ok inner.lastStatus), inner)
      | some recorder =>
          match checkedAdd inner.nextFinalizationEpoch 1 with
          | none => (.answered (.error .state), { inner with recorder := none })
          | some epoch => (.takes epoch recorder,
              { inner with
                recorder := none
                nextFinalizationEpoch := epoch
                finalizingEpoch := some epoch
                completedFinalization := none
                lastStatus := { inner.lastStatus with state := .finalizing } })

/-- The second lock section of `stop`. -/
def stopComplete (epoch : Nat) (completed : CompletedFinalization) :
    StopResult × ControllerInner :=
  if inner.finalizingEpoch ≠ some epoch then (.error .state, inner)
  else (completed.outcome,
    { inner with
      lastStatus := completed.status
      completedFinalization := some completed
      finalizingEpoch := none })

end ControllerInner

/-- The outcome of a finalization: the status before `Mp4Recorder::stop`, and its answer. A panic
of the recorder is the answer `WorkerStopped`. -/
def finalization (epoch : Nat) (before : RecorderStatus)
    (answer : Except RecorderError RecorderStatus) : CompletedFinalization :=
  match answer with
  | .ok status => ⟨epoch, status, none⟩
  | .error error =>
      ⟨epoch, { before with state := .failed, errorCode := some error.code }, some error⟩

inductive Phase where
  | idle
  /-- In `arm`, after the first lock section, with the recorder that it has retired. -/
  | arming (retired : Option Nat)
  /-- In `arm`, with the recorder that it has started. -/
  | armed (retired : Option Nat) (recorder : Nat) (status : RecorderStatus)
  /-- In `stop`, with the recorder that it finalizes. -/
  | finalizing (epoch recorder : Nat)
  /-- In `stop`, with the outcome of the finalization. -/
  | finalized (recorder : Nat) (completed : CompletedFinalization)
  /-- In `stop`, about to wake those who wait. -/
  | notifying (epoch : Nat)
  /-- In `stop`, waiting for the outcome of an epoch. -/
  | waiting (epoch : Nat) (awake : Bool)

structure System where
  inner : ControllerInner
  callers : Nat → Phase
  started : Nat
  latest : Option Nat
  history : List (Nat × CompletedFinalization)

def System.new : System := ⟨.default, fun _ => .idle, 0, none, []⟩

inductive Event where
  /-- A caller makes the first lock section of `arm`. -/
  | arms (caller : Nat) (observed : RecorderStatus)
  /-- `Mp4Recorder::start` answers, after the retired recorder was dropped. -/
  | starts (caller : Nat) (answer : Except RecorderError RecorderStatus)
  /-- A caller makes the second lock section of `arm`. -/
  | installs (caller : Nat)
  | submits (answer : Except RecorderError RecorderStatus) (observed : RecorderStatus)
  | asks (observed : RecorderStatus)
  /-- A caller makes the first lock section of `stop`. -/
  | stops (caller : Nat)
  /-- `Mp4Recorder::stop` answers. -/
  | finalizes (caller : Nat) (before : RecorderStatus)
      (answer : Except RecorderError RecorderStatus)
  /-- A caller makes the second lock section of `stop`. -/
  | completes (caller : Nat)
  /-- `notify_all`. -/
  | notifies (caller : Nat)
  | stirs (caller : Nat)
  | looks (caller : Nat)

inductive Reply where
  | ignored
  | quiet
  /-- `arm` returns. -/
  | armed (result : Except DecodedRecordingError RecorderStatus)
  /-- `submit_if_active` returns. -/
  | submitted (status : Option RecorderStatus)
  /-- `status` returns. -/
  | told (status : RecorderStatus)
  /-- The outcome of `stop` is settled. -/
  | stopped (result : StopResult)

/-- `notify_all` wakes those who wait. -/
def Phase.woken : Phase → Phase
  | .waiting epoch _ => .waiting epoch true
  | phase => phase

namespace System

variable (system : System)

def advance (caller : Nat) (inner : ControllerInner) (phase : Phase) : System :=
  { system with
    inner
    callers := Function.update system.callers caller phase }

/-- A caller in `stop` comes further. -/
def stopping (caller : Nat) : Stopping × ControllerInner → Reply × System
  | (.answered result, inner) => (.stopped result, system.advance caller inner .idle)
  | (.waits epoch, inner) => (.quiet, system.advance caller inner (.waiting epoch false))
  | (.takes epoch recorder, inner) =>
      (.quiet, system.advance caller inner (.finalizing epoch recorder))

def step : Event → Reply × System
  | .arms caller observed =>
      match system.callers caller with
      | .idle =>
          match system.inner.armRetire observed with
          | .error error => (.armed (.error error), system)
          | .ok (retired, inner) => (.quiet, system.advance caller inner (.arming retired))
      | _ => (.ignored, system)
  | .starts caller answer =>
      match system.callers caller with
      | .arming retired =>
          match answer with
          | .error error => (.armed (.error (.recorder error)),
              system.advance caller system.inner .idle)
          | .ok status => (.quiet,
              { system.advance caller system.inner (.armed retired system.started status) with
                started := system.started + 1 })
      | _ => (.ignored, system)
  | .installs caller =>
      match system.callers caller with
      | .armed _ recorder status =>
          match system.inner.armInstall recorder status with
          | .error error => (.armed (.error error), system.advance caller system.inner .idle)
          | .ok inner => (.armed (.ok status),
              { system.advance caller inner .idle with latest := some recorder })
      | _ => (.ignored, system)
  | .submits answer observed =>
      let (status, inner) := system.inner.submitIfActive answer observed
      (.submitted status, { system with inner })
  | .asks observed =>
      let (status, inner) := system.inner.status observed
      (.told status, { system with inner })
  | .stops caller =>
      match system.callers caller with
      | .idle => system.stopping caller system.inner.stopEnter
      | _ => (.ignored, system)
  | .finalizes caller before answer =>
      match system.callers caller with
      | .finalizing epoch recorder => (.quiet,
          system.advance caller system.inner
            (.finalized recorder (finalization epoch before answer)))
      | _ => (.ignored, system)
  | .completes caller =>
      match system.callers caller with
      | .finalized recorder completed =>
          let (result, inner) := system.inner.stopComplete completed.epoch completed
          (.stopped result,
            { system.advance caller inner (.notifying completed.epoch) with
              history :=
                if system.inner.finalizingEpoch = some completed.epoch then
                  system.history ++ [(recorder, completed)]
                else system.history })
      | _ => (.ignored, system)
  | .notifies caller =>
      match system.callers caller with
      | .notifying _ => (.quiet,
          { system with
            callers := fun other =>
              if other = caller then .idle else (system.callers other).woken })
      | _ => (.ignored, system)
  | .stirs caller =>
      match system.callers caller with
      | .waiting epoch _ => (.quiet, system.advance caller system.inner (.waiting epoch true))
      | _ => (.ignored, system)
  | .looks caller =>
      match system.callers caller with
      | .waiting epoch true => system.stopping caller (system.inner.stopLook epoch)
      | _ => (.ignored, system)

end System

end LatentDeck.Recording
