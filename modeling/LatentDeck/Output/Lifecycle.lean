import LatentDeck.Output.Recorder

/-!
# Stored states

The state, the terminal error, the flag and the sender say between them how far both parties have
come. What they say is kept by every section of either party, as long as the worker does not store
`Recording` over a failure.
-/

namespace LatentDeck.Output

open Checked Fallible

/-- Whether the call in progress has raised the flag. -/
def CallerAt.raised : CallerAt → Bool
  | .failing .recording _ | .failing .reporting _ | .releasing _ => true
  | .dropReleasing | .dropJoining | .dropped => true
  | _ => false

/-- Whether the owner has stored a terminal error and not yet the state. -/
def CallerAt.reporting : CallerAt → Bool
  | .failing .reporting _ => true
  | _ => false

/-- Whether `stop` has dropped the sender. -/
def CallerAt.halting : CallerAt → Bool
  | .joining | .readingFinalError | .readingFinalStatus | .stopped => true
  | _ => false

/-- The frame that was sent and not yet counted. -/
def CallerAt.inflight : CallerAt → List DecodedFrame
  | .counting frame => [frame]
  | _ => []

/-- Whether the worker has raised the flag for an error it has not yet stored. -/
def WorkerAt.raised : WorkerAt → Bool
  | .failing .recording _ _ | .failing .reporting _ _ => true
  | _ => false

/-- Whether the worker has stored a terminal error and not yet the state. -/
def WorkerAt.reporting : WorkerAt → Bool
  | .failing .reporting _ _ => true
  | _ => false

/-- Whether the worker has seen the end of the channel with the flag down. -/
def WorkerAt.closing : WorkerAt → Bool
  | .cancelling | .finalizing | .finishing | .publishing | .finished => true
  | _ => false

/-- Whether the worker has nothing left to do. -/
def WorkerAt.over : WorkerAt → Bool
  | .returning | .ended => true
  | _ => false

/-- What the two parties tell each other, besides frames, and where they are. -/
structure Control where
  state : RecorderState
  terminalError : Option RecorderError
  cancelled : Bool
  sender : Bool
  caller : CallerAt
  worker : WorkerAt

def Recorder.control (recorder : Recorder) : Control where
  state := recorder.status.state
  terminalError := recorder.terminalError
  cancelled := recorder.cancelled
  sender := recorder.sender
  caller := recorder.caller
  worker := recorder.worker

/-- What is stored agrees with how far the parties have come. -/
structure Control.Coherent (control : Control) : Prop where
  failed : control.state = .failed → control.terminalError ≠ none
  terminal : control.terminalError ≠ none → control.cancelled = true
  stored : control.terminalError ≠ none →
    control.state = .failed ∨ control.caller.reporting = true ∨ control.worker.reporting = true
  raised : control.caller.raised = true ∨ control.worker.raised = true → control.cancelled = true
  erring : control.caller.reporting = true ∨ control.worker.reporting = true →
    control.terminalError ≠ none
  halting : control.caller.halting = true → control.sender = false
  /-- A sender is dropped by `stop`, or after the flag was raised. -/
  released : control.sender = false → control.cancelled = true ∨ control.caller.halting = true
  leaving : control.worker = .leaving → control.cancelled = true ∨ control.sender = false
  closing : control.worker.closing = true → control.cancelled = false ∧ control.sender = false
  finished : control.state = .finished →
    control.worker.over = true ∧ control.cancelled = false ∧ control.sender = false

theorem WorkerAt.silent {worker : WorkerAt} (raised : worker.raised = false) :
    worker.reporting = false := by
  cases worker with
  | failing phase error after => cases phase <;> first | rfl | exact nomatch raised
  | _ => rfl

namespace Control.Coherent

variable {control : Control}

section

variable (coherent : control.Coherent)

include coherent

/-- A flag that is down at the end of the channel was lowered by nobody: the owner is in `stop`. -/
theorem stops (down : control.cancelled = false)
    (dropped : control.sender = false) : control.caller.halting = true := by
  rcases coherent.released dropped with up | halting
  · rw [down] at up
    exact nomatch up
  · exact halting

theorem unharmed (down : control.cancelled = false) : control.terminalError = none := by
  by_contra some
  have up := coherent.terminal some
  rw [down] at up
  exact nomatch up

theorem worker_moves (next : WorkerAt)
    (calm : control.worker.reporting = false) (raised : next.raised = false)
    (leaving : next = .leaving → control.cancelled = true ∨ control.sender = false)
    (closing : next.closing = true → control.cancelled = false ∧ control.sender = false)
    (ended : control.worker.over = true → next.over = true) :
    { control with worker := next }.Coherent where
  failed := coherent.failed
  terminal := coherent.terminal
  stored some := by
    have before := coherent.stored some
    rw [calm] at before
    exact before.imp_right fun either => either.imp_right nofun
  raised either := by
    rw [raised] at either
    exact coherent.raised (either.imp_right nofun)
  erring either := by
    rw [WorkerAt.silent raised] at either
    exact coherent.erring (either.imp_right nofun)
  halting := coherent.halting
  released := coherent.released
  leaving := leaving
  closing := closing
  finished done := (coherent.finished done).imp_left ended

theorem caller_moves (next : CallerAt)
    (calm : control.caller.reporting = false) (reporting : next.reporting = false)
    (raised : next.raised = true → control.cancelled = true)
    (halting : next.halting = control.caller.halting) :
    { control with caller := next }.Coherent where
  failed := coherent.failed
  terminal := coherent.terminal
  stored some := by
    have before := coherent.stored some
    rw [calm] at before
    exact before.imp_right fun either => either.elim nofun Or.inr
  raised either := either.elim raised fun worker => coherent.raised (Or.inr worker)
  erring either := by
    rw [reporting] at either
    exact coherent.erring (either.imp_left nofun)
  halting now := coherent.halting (halting ▸ now)
  released dropped := by
    rw [halting]
    exact coherent.released dropped
  leaving := coherent.leaving
  closing := coherent.closing
  finished := coherent.finished

/-- The worker stores a state other than `Failed`, while the recorder has not failed. -/
theorem worker_stores (state : RecorderState) (next : WorkerAt)
    (healthy : control.state ≠ .failed) (other : state ≠ .failed)
    (calm : control.worker.reporting = false) (raised : next.raised = false)
    (leaving : next ≠ .leaving)
    (closing : next.closing = true → control.cancelled = false ∧ control.sender = false)
    (finished : state = .finished →
      next.over = true ∧ control.cancelled = false ∧ control.sender = false) :
    { control with state, worker := next }.Coherent where
  failed failed := absurd failed other
  terminal := coherent.terminal
  stored some := by
    have before := coherent.stored some
    rw [calm] at before
    exact Or.inr (Or.inl ((before.resolve_left healthy).resolve_right nofun))
  raised either := by
    rw [raised] at either
    exact coherent.raised (either.imp_right nofun)
  erring either := by
    rw [WorkerAt.silent raised] at either
    exact coherent.erring (either.imp_right nofun)
  halting := coherent.halting
  released := coherent.released
  leaving now := absurd now leaving
  closing := closing
  finished := finished

/-- A party raises the flag, which the worker has not seen down at the end of the channel. -/
theorem raises (caller : CallerAt) (worker : WorkerAt)
    (callerCalm : caller.reporting = control.caller.reporting)
    (workerCalm : worker.reporting = control.worker.reporting)
    (halting : caller.halting = control.caller.halting)
    (closing : worker.closing = false) (unfinished : control.state ≠ .finished) :
    { control with cancelled := true, caller, worker }.Coherent where
  failed := coherent.failed
  terminal _ := rfl
  stored some := by
    rw [callerCalm, workerCalm]
    exact coherent.stored some
  raised _ := rfl
  erring either := by
    rw [callerCalm, workerCalm] at either
    exact coherent.erring either
  halting now := coherent.halting (halting ▸ now)
  released _ := Or.inl rfl
  leaving _ := Or.inl rfl
  closing now := by
    rw [closing] at now
    exact nomatch now
  finished done := absurd done unfinished

/-- A party that has raised the flag stores its error. -/
theorem errs (error : RecorderError) (caller : CallerAt)
    (worker : WorkerAt) (up : control.cancelled = true)
    (reporting : caller.reporting = true ∨ worker.reporting = true)
    (halting : caller.halting = control.caller.halting) (closing : worker.closing = false) :
    { control with terminalError := some error, caller, worker }.Coherent where
  failed _ := Option.some_ne_none _
  terminal _ := up
  stored _ := Or.inr reporting
  raised _ := up
  erring _ := Option.some_ne_none _
  halting now := coherent.halting (halting ▸ now)
  released _ := Or.inl up
  leaving _ := Or.inl up
  closing now := by
    rw [closing] at now
    exact nomatch now
  finished done := by
    have down := (coherent.finished done).2.1
    rw [up] at down
    exact nomatch down

/-- A party that has stored its error stores the failure. -/
theorem fails (caller : CallerAt) (worker : WorkerAt) (harmed : control.terminalError ≠ none)
    (halting : caller.halting = control.caller.halting) (closing : worker.closing = false) :
    { control with state := .failed, caller, worker }.Coherent where
  failed _ := harmed
  terminal := coherent.terminal
  stored _ := Or.inl rfl
  raised _ := coherent.terminal harmed
  erring _ := harmed
  halting now := coherent.halting (halting ▸ now)
  released _ := Or.inl (coherent.terminal harmed)
  leaving _ := Or.inl (coherent.terminal harmed)
  closing now := by
    rw [closing] at now
    exact nomatch now
  finished never := nomatch never

/-- The owner drops its sender, in `stop` or with the flag raised. -/
theorem releases (next : CallerAt)
    (calm : control.caller.reporting = false) (reporting : next.reporting = false)
    (raised : next.raised = true → control.cancelled = true)
    (reason : control.cancelled = true ∨ next.halting = true) :
    { control with sender := false, caller := next }.Coherent where
  failed := coherent.failed
  terminal := coherent.terminal
  stored some := by
    have before := coherent.stored some
    rw [calm] at before
    exact before.imp_right fun either => either.elim nofun Or.inr
  raised either := either.elim raised fun worker => coherent.raised (Or.inr worker)
  erring either := by
    rw [reporting] at either
    exact coherent.erring (either.imp_left nofun)
  halting _ := rfl
  released _ := reason
  leaving _ := Or.inr rfl
  closing now := ⟨(coherent.closing now).1, rfl⟩
  finished done := ⟨(coherent.finished done).1, (coherent.finished done).2.1, rfl⟩

end

end Control.Coherent

/-- Whether the worker is about to store `Recording`. -/
def WorkerAt.starts : WorkerAt → Bool
  | .starting _ => true
  | _ => false

/-- The worker stores `Recording` only while the recorder has not failed. -/
def Recorder.Startable (recorder : Recorder) : Prop :=
  recorder.worker.starts = true → recorder.status.state ≠ .failed

/-- A section of the worker keeps what is stored coherent. -/
theorem Control.Coherent.work {recorder : Recorder} (coherent : recorder.control.Coherent)
    (startable : recorder.Startable) (outcome : Option RecorderError) (leftover : Bool) :
    (recorder.work outcome leftover).control.Coherent := by
  have unfinished : recorder.worker.over = false → recorder.status.state ≠ .finished := by
    intro busy done
    have ended : recorder.worker.over = true := (coherent.finished done).1
    rw [busy] at ended
    exact nomatch ended
  have healthy : recorder.worker.closing = true → recorder.status.state ≠ .failed :=
    fun closing failed => coherent.failed failed (coherent.unharmed (coherent.closing closing).1)
  have closes : recorder.worker.closing = true →
      recorder.cancelled = false ∧ recorder.sender = false := coherent.closing
  have harmed : recorder.worker.reporting = true → recorder.terminalError ≠ none :=
    fun reporting => coherent.erring (Or.inr reporting)
  have up : recorder.worker.raised = true → recorder.cancelled = true :=
    fun raised => coherent.raised (Or.inr raised)
  -- Most sections store nothing.
  have moves : recorder.worker.reporting = false → ∀ next : WorkerAt, next.raised = false →
      (next = .leaving → recorder.cancelled = true ∨ recorder.sender = false) →
      (next.closing = true → recorder.cancelled = false ∧ recorder.sender = false) →
      (recorder.worker.over = true → next.over = true) →
      { recorder.control with worker := next }.Coherent :=
    fun calm next => coherent.worker_moves next calm
  cases position : recorder.worker with
  | receiving =>
    rw [position] at moves
    simp only [Recorder.work, position]
    cases recorder.queue with
    | cons frame queue => exact moves rfl (.checking frame) rfl nofun nofun nofun
    | nil =>
      by_cases held : recorder.sender = true
      · rw [if_pos held]
        exact coherent
      · have dropped := Bool.not_eq_true _ ▸ held
        rw [if_neg held]
        exact moves rfl .leaving rfl (fun _ => Or.inr dropped) nofun nofun
  | checking frame =>
    rw [position] at moves
    simp only [Recorder.work, position]
    split
    · exact moves rfl .leaving rfl (fun _ => Or.inl ‹_›) nofun nofun
    · split
      · exact moves rfl (.writing frame) rfl nofun nofun nofun
      · exact moves rfl (.opening frame) rfl nofun nofun nofun
  | opening frame =>
    rw [position] at moves
    simp only [Recorder.work, position]
    cases outcome with
    | none => exact moves rfl (.starting frame) rfl nofun nofun nofun
    | some error => exact moves rfl (.failing .cancelling error false) rfl nofun nofun nofun
  | starting frame =>
    have running := startable (congrArg WorkerAt.starts position)
    simp only [Recorder.work, position]
    exact coherent.worker_stores .recording (.writing frame) running nofun
      (congrArg WorkerAt.reporting position) rfl nofun nofun nofun
  | writing frame =>
    rw [position] at moves
    simp only [Recorder.work, position]
    cases outcome with
    | none => exact moves rfl .counting rfl nofun nofun nofun
    | some error => exact moves rfl (.failing .cancelling error false) rfl nofun nofun nofun
  | counting =>
    rw [position] at moves
    simp only [Recorder.work, position]
    exact moves rfl .receiving rfl nofun nofun nofun
  | failing phase error closing =>
    rw [position] at unfinished harmed up
    cases phase with
    | cancelling =>
      simp only [Recorder.work, position]
      exact coherent.raises recorder.caller (.failing .recording error closing) rfl
        (congrArg WorkerAt.reporting position).symm rfl rfl (unfinished rfl)
    | recording =>
      simp only [Recorder.work, position]
      exact coherent.errs error recorder.caller (.failing .reporting error closing) (up rfl)
        (Or.inr rfl) rfl rfl
    | reporting =>
      simp only [Recorder.work, position]
      exact coherent.fails recorder.caller _ (harmed rfl) rfl (by cases closing <;> rfl)
  | leaving =>
    have reason : recorder.cancelled = true ∨ recorder.sender = false := coherent.leaving position
    rw [position] at moves
    simp only [Recorder.work, position]
    split
    · exact moves rfl .cleaning rfl nofun nofun nofun
    · rename_i lowered
      have down := Bool.not_eq_true _ ▸ lowered
      have dropped := reason.resolve_left lowered
      split
      · exact moves rfl .finalizing rfl nofun (fun _ => ⟨down, dropped⟩) nofun
      · exact moves rfl .cancelling rfl nofun (fun _ => ⟨down, dropped⟩) nofun
  | cancelling =>
    rw [position] at healthy
    simp only [Recorder.work, position]
    exact coherent.worker_stores .cancelled .returning (healthy rfl) nofun
      (congrArg WorkerAt.reporting position) rfl nofun nofun nofun
  | finalizing =>
    rw [position] at healthy closes
    simp only [Recorder.work, position]
    exact coherent.worker_stores .finalizing .finishing (healthy rfl) nofun
      (congrArg WorkerAt.reporting position) rfl nofun (fun _ => closes rfl) nofun
  | finishing =>
    rw [position] at moves closes
    simp only [Recorder.work, position]
    cases outcome with
    | none => exact moves rfl .publishing rfl nofun (fun _ => closes rfl) nofun
    | some error =>
      exact moves rfl (.failing .cancelling .finalizeFailed true) rfl nofun nofun nofun
  | publishing =>
    rw [position] at moves closes
    simp only [Recorder.work, position]
    split
    · exact moves rfl .finished rfl nofun (fun _ => closes rfl) nofun
    · exact moves rfl (.failing .cancelling .outputExists true) rfl nofun nofun nofun
    · exact moves rfl (.failing .cancelling _ true) rfl nofun nofun nofun
  | finished =>
    rw [position] at healthy closes
    simp only [Recorder.work, position]
    exact coherent.worker_stores .finished .returning (healthy rfl) nofun
      (congrArg WorkerAt.reporting position) rfl nofun nofun fun _ => ⟨rfl, closes rfl⟩
  | cleaning =>
    rw [position] at moves
    simp only [Recorder.work, position]
    exact moves rfl .returning rfl nofun nofun nofun
  | returning =>
    rw [position] at moves
    simp only [Recorder.work, position]
    exact moves rfl .ended rfl nofun nofun fun _ => rfl
  | ended =>
    simp only [Recorder.work, position]
    exact coherent

/-- What a section of the owner changes. -/
inductive Called (recorder : Recorder) : Recorder → Prop where
  | rests : Called recorder recorder
  | moves (next : CallerAt) (calm : recorder.caller.reporting = false)
      (reporting : next.reporting = false)
      (raised : next.raised = true → recorder.caller.raised = true)
      (halting : next.halting = recorder.caller.halting)
      (inflight : next.inflight = recorder.caller.inflight) :
      Called recorder { recorder with caller := next }
  | sends (frame : DecodedFrame) (position : recorder.caller = .sending frame) :
      Called recorder
        { recorder with queue := recorder.queue ++ [frame], caller := .counting frame }
  /-- The counter is full. -/
  | overflows (frame : DecodedFrame) (position : recorder.caller = .counting frame)
      (full : checkedAdd recorder.status.framesAccepted 1 = none) :
      Called recorder { recorder with caller := .idle }
  | counts (frame : DecodedFrame) (position : recorder.caller = .counting frame)
      {framesAccepted : Nat}
      (added : checkedAdd recorder.status.framesAccepted 1 = some framesAccepted) :
      Called recorder { recorder with
        status := { recorder.status with
          framesAccepted
          width := some frame.width
          height := some frame.height }
        accepted := recorder.accepted ++ [frame]
        caller := .idle }
  | raises (next : CallerAt) (reporting : next.reporting = recorder.caller.reporting)
      (busy : recorder.caller.halting = false) (halting : next.halting = false)
      (inflight : next.inflight = recorder.caller.inflight) :
      Called recorder { recorder with cancelled := true, caller := next }
  | errs (error : RecorderError) (position : recorder.caller = .failing .recording error) :
      Called recorder
        { recorder with terminalError := some error, caller := .failing .reporting error }
  | fails (error : RecorderError) (position : recorder.caller = .failing .reporting error) :
      Called recorder { recorder with
        status := { recorder.status with state := .failed, errorCode := some error.code }
        caller := .releasing error }
  | releases (next : CallerAt) (calm : recorder.caller.reporting = false)
      (reporting : next.reporting = false)
      (raised : next.raised = true → recorder.caller.raised = true)
      (reason : recorder.caller.raised = true ∨ next.halting = true)
      (inflight : next.inflight = recorder.caller.inflight) :
      Called recorder { recorder with sender := false, caller := next }

/-- A flag that is down is not up. -/
theorem flag_down {goal : Prop} (up : false = true) : goal := absurd up Bool.false_ne_true

/-- Every section of the owner is of one of these kinds. -/
theorem called (recorder : Recorder) : Called recorder recorder.call.2 := by
  have moves := @Called.moves recorder
  have raises := @Called.raises recorder
  have releases := @Called.releases recorder
  cases position : recorder.caller with
  | idle | stopped | dropped =>
    simp only [Recorder.call, position]
    exact .rests
  | readingError frame =>
    rw [position] at moves
    simp only [Recorder.call, position]
    split
    · exact moves .idle rfl rfl flag_down rfl rfl
    · exact moves (.readingStatus frame) rfl rfl flag_down rfl rfl
  | readingStatus frame =>
    rw [position] at moves
    simp only [Recorder.call, position]
    split
    · exact moves .idle rfl rfl flag_down rfl rfl
    · split
      · exact moves (.failing .cancelling .invalidFrame) rfl rfl flag_down rfl rfl
      · exact moves (.sending frame) rfl rfl flag_down rfl rfl
  | sending frame =>
    rw [position] at moves
    simp only [Recorder.call, position]
    split
    · exact moves .idle rfl rfl flag_down rfl rfl
    · split
      · exact moves .readingDisconnection rfl rfl flag_down rfl rfl
      · split
        · exact moves (.failing .cancelling .queueOverflow) rfl rfl flag_down rfl rfl
        · exact .sends frame position
  | counting frame =>
    simp only [Recorder.call, position]
    split
    · exact .overflows frame position ‹_›
    · exact .counts frame position ‹_›
  | readingDisconnection =>
    rw [position] at moves
    simp only [Recorder.call, position]
    exact moves (.failing .cancelling _) rfl rfl flag_down rfl rfl
  | failing phase error =>
    rw [position] at raises
    cases phase with
    | cancelling =>
      simp only [Recorder.call, position]
      exact raises (.failing .recording error) rfl rfl rfl rfl
    | recording =>
      simp only [Recorder.call, position]
      exact .errs error position
    | reporting =>
      simp only [Recorder.call, position]
      exact .fails error position
  | releasing error =>
    rw [position] at releases
    simp only [Recorder.call, position]
    exact releases .idle rfl rfl flag_down (Or.inl rfl) rfl
  | stopping =>
    rw [position] at releases
    simp only [Recorder.call, position]
    exact releases .joining rfl rfl flag_down (Or.inr rfl) rfl
  | joining =>
    rw [position] at moves
    simp only [Recorder.call, position]
    split
    · exact moves .readingFinalError rfl rfl flag_down rfl rfl
    · exact .rests
  | readingFinalError =>
    rw [position] at moves
    simp only [Recorder.call, position]
    split
    · exact moves .stopped rfl rfl flag_down rfl rfl
    · exact moves .readingFinalStatus rfl rfl flag_down rfl rfl
  | readingFinalStatus =>
    rw [position] at moves
    simp only [Recorder.call, position]
    split
    · exact moves .stopped rfl rfl flag_down rfl rfl
    · exact moves .stopped rfl rfl flag_down rfl rfl
  | dropCancelling =>
    rw [position] at raises
    simp only [Recorder.call, position]
    exact raises .dropReleasing rfl rfl rfl rfl
  | dropReleasing =>
    rw [position] at releases
    simp only [Recorder.call, position]
    exact releases .dropJoining rfl rfl (fun _ => rfl) (Or.inl rfl) rfl
  | dropJoining =>
    rw [position] at moves
    simp only [Recorder.call, position]
    split
    · exact moves .dropped rfl rfl (fun _ => rfl) rfl rfl
    · exact .rests

/-- The worker sees the flag down at the end of the channel only once the owner is in `stop`. -/
theorem Control.Coherent.unclosed {control : Control} (coherent : control.Coherent)
    (busy : control.caller.halting = false) :
    control.worker.closing = false ∧ control.state ≠ .finished := by
  have never : ¬ (control.cancelled = false ∧ control.sender = false) := by
    rintro ⟨down, dropped⟩
    have halting := coherent.stops down dropped
    rw [busy] at halting
    cases halting
  constructor
  · by_contra closing
    exact never (coherent.closing (Bool.not_eq_false _ ▸ closing))
  · exact fun done => never (coherent.finished done).2

theorem Control.Coherent.call {recorder : Recorder} (coherent : recorder.control.Coherent) :
    recorder.call.2.control.Coherent := by
  have up : recorder.caller.raised = true → recorder.cancelled = true :=
    fun raised => coherent.raised (Or.inl raised)
  have calls : ∀ {after}, Called recorder after → after.control.Coherent := by
    intro after called
    cases called with
    | rests => exact coherent
    | moves next calm reporting raised halting inflight =>
      exact coherent.caller_moves next calm reporting (up ∘ raised) halting
    | sends frame position =>
      exact coherent.caller_moves _ (congrArg CallerAt.reporting position) rfl nofun
        (congrArg CallerAt.halting position).symm
    | overflows frame position | counts frame position =>
      exact coherent.caller_moves .idle (congrArg CallerAt.reporting position) rfl nofun
        (congrArg CallerAt.halting position).symm
    | raises next reporting busy halting inflight =>
      obtain ⟨closing, unfinished⟩ := coherent.unclosed busy
      exact coherent.raises next recorder.worker reporting rfl (halting.trans busy.symm) closing
        unfinished
    | errs error position =>
      have busy := congrArg CallerAt.halting position
      exact coherent.errs error (.failing .reporting error) recorder.worker
        (up (congrArg CallerAt.raised position)) (Or.inl rfl) busy.symm (coherent.unclosed busy).1
    | fails error position =>
      have busy := congrArg CallerAt.halting position
      exact coherent.fails (.releasing error) recorder.worker
        (coherent.erring (Or.inl (congrArg CallerAt.reporting position))) busy.symm
        (coherent.unclosed busy).1
    | releases next calm reporting raised reason inflight =>
      exact coherent.releases next calm reporting (up ∘ raised) (reason.imp_left up)
  exact calls (called recorder)

def Choice.isWorker : Choice → Bool
  | .worker _ _ => true
  | _ => false

theorem Control.Coherent.step {recorder : Recorder} (coherent : recorder.control.Coherent)
    (choice : Choice) (startable : choice.isWorker = true → recorder.Startable) :
    (recorder.step choice).2.control.Coherent := by
  have calls : recorder.caller = .idle → ∀ next : CallerAt, next.reporting = false →
      (next.raised = true → recorder.cancelled = true) → next.halting = false →
      { recorder.control with caller := next }.Coherent :=
    fun idle next reporting raised halting => coherent.caller_moves next
      (congrArg CallerAt.reporting idle) reporting raised
      (halting.trans (congrArg CallerAt.halting idle).symm)
  cases choice with
  | submit frame =>
    rw [Recorder.step]
    split
    · cases validateFrame frame with
      | error error => exact calls ‹_› (.failing .cancelling error) rfl nofun rfl
      | ok done => exact calls ‹_› (.readingError frame) rfl nofun rfl
    · exact coherent
  | stop =>
    rw [Recorder.step]
    split
    · exact calls ‹_› .stopping rfl nofun rfl
    · exact coherent
  | drop =>
    rw [Recorder.step]
    split
    · exact calls ‹_› .dropCancelling rfl nofun rfl
    · exact coherent
  | caller => exact coherent.call
  | worker outcome leftover => exact coherent.work (startable rfl) outcome leftover
  | foreign => exact coherent

end LatentDeck.Output
