import LatentDeck.CodecHost.Checks
import LatentDeck.CodecHost.Decks

/-!
# What a capture does

The steps of a capture from a worker whose deck is there, with the states that they end in. A
capture that faults or completes settles: the capture, the published capture state and the state of
the deck change together.
-/

namespace LatentDeck.CodecHost

open Effect Fallible
open Control (CaptureState)

/-- A capture without its payload, which faulted. -/
def CaptureSession.faulted (capture : CaptureSession) : CaptureSession :=
  { capture with payload := none, pendingResetEvent := none, state := .faulted }

def CaptureSession.completed (payload : CapturePayload) (capture : CaptureSession) :
    CaptureSession :=
  { capture with payload := some payload, state := .completed }

def CaptureSession.appended (capture : CaptureSession) : CaptureSession :=
  { capture with latentSlots := capture.latentSlots + 1, pendingResetEvent := none }

/-- A capture takes its last slot: a snapshot has one slot, and a stopped capture ends with its
first slot. -/
def CaptureSession.closes (capture : CaptureSession) : Prop :=
  capture.mode = .snapshot ∨ capture.state = .finalizing

def Protocol2Worker.settled (worker : Protocol2Worker) (deck : DeckSession)
    (change : CaptureSession → CaptureSession) (state : CaptureState) : Protocol2Worker :=
  { worker with
    deck := some { deck.changeCapture change with state := transportState deck.sourceTransport }
    captureState := state }

/-- The worker after its capture was aborted and faulted. -/
def Protocol2Worker.captureFaulted (worker : Protocol2Worker) (outside : Outside)
    (deck : DeckSession) (capture : CaptureSession) : Protocol2Worker :=
  (worker.record (.abortCapture capture.writer)
    (outside.answer (.abortCapture capture.writer))).settled deck .faulted .faulted

/-- The worker after a slot was appended to its capture. -/
def Protocol2Worker.slotAppended (worker : Protocol2Worker) (deck : DeckSession)
    (capture : CaptureSession) (tensor : Tensor) : Protocol2Worker :=
  { worker.record (.appendSlot capture.writer tensor capture.pendingResetEvent) (.ok ()) with
    deck := some (deck.changeCapture .appended)
    metrics := { worker.metrics with captureSlotsTotal := worker.metrics.captureSlotsTotal + 1 } }

variable {deck : DeckSession}

theorem DeckSession.capture_of_recording {capture : CaptureSession}
    (recording : deck.recording = some capture) :
    deck.capture = some capture ∧ isRecording capture.state = true := by
  unfold DeckSession.recording at recording
  rwa [Option.filter_eq_some_iff] at recording

section Rules

variable {outside : Outside} {start : Protocol2Worker} {raised : Raised → Protocol2Worker → Prop}
  {returned : Unit → Protocol2Worker → Prop}

theorem leads_suppressed_call (call : Call) :
    Leads (suppressing (perform outside call)) start returned raised ↔
      returned () (start.record call (outside.answer call)) := by
  rw [leads_suppressing, leads_perform]
  cases outside.answer call <;> simp

variable {deck : DeckSession} (loaded : start.deck = some deck)
include loaded

theorem leads_changeCapture (change : CaptureSession → CaptureSession) {capture : CaptureSession}
    (held : deck.capture = some capture) {returned : CaptureSession → Protocol2Worker → Prop} :
    Leads (changeCapture change) start returned raised ↔
      returned (change capture) { start with deck := some (deck.changeCapture change) } := by
  rw [changeCapture, leads_bind, leads_changeDeck _ loaded, leads_check]
  simp [DeckSession.changeCapture, held]

variable {capture : CaptureSession} (held : deck.capture = some capture)
include held

theorem leads_captureFault :
    Leads (captureFault outside capture) start returned raised ↔
      returned () (start.captureFaulted outside deck capture) := by
  rw [captureFault, leads_bind, leads_suppressed_call, leads_bind,
    leads_changeCapture (by exact loaded) _ held, leads_bind, leads_modify, leads_bind,
    leads_changeDeck _ rfl, leads_pure]
  rfl

theorem leads_faultAndRaise {α : Type} (error : Raised) {returned : α → Protocol2Worker → Prop} :
    Leads (faultAndRaise outside capture error : Act α) start returned raised ↔
      raised error (start.captureFaulted outside deck capture) := by
  rw [faultAndRaise, leads_bind, leads_captureFault loaded held, leads_throw]

theorem leads_completeCapture (payload : CapturePayload) :
    Leads (completeCapture payload) start returned raised ↔
      returned () (start.settled deck (.completed payload) .completed) := by
  rw [completeCapture, leads_bind, leads_changeCapture loaded _ held, leads_bind, leads_modify,
    leads_bind, leads_changeDeck _ rfl, leads_pure]
  rfl

/-- What the worker takes from a writer that finishes. -/
def finishedBy (outside : Outside) (capture : CaptureSession) : Except Raised CapturePayload := do
  let answer ← outside.answer (.finishCapture capture.writer)
  let completed ← answer.elim (.error (.sdk "capture.payload")) .ok
  completed.validate outside.platform
  validateCapturePayload capture completed
  .ok completed

omit loaded held in
/-- The payload of a capture is what its writer finishes. -/
theorem leads_finishedPayload {returned : CapturePayload → Protocol2Worker → Prop} :
    Leads (finishedPayload outside capture) start returned raised ↔
      (∀ payload, finishedBy outside capture = .ok payload →
        returned payload (start.record (.finishCapture capture.writer)
          (outside.answer (.finishCapture capture.writer)))) ∧
      ∀ error, finishedBy outside capture = .error error →
        raised error (start.record (.finishCapture capture.writer)
          (outside.answer (.finishCapture capture.writer))) := by
  rw [finishedPayload, leads_bind, leads_perform, finishedBy]
  cases outside.answer (.finishCapture capture.writer) with
  | error error => simp [bind, Except.bind]
  | ok answer =>
    simp only [leads_bind, leads_check, leads_pure]
    cases answer with
    | none => simp [bind, Except.bind]
    | some completed =>
      cases valid : completed.validate outside.platform with
      | error error => simp [bind, Except.bind, valid]
      | ok _ =>
        cases fits : validateCapturePayload capture completed with
        | error error => simp [bind, Except.bind, valid, fits]
        | ok _ => simp [bind, Except.bind, valid, fits]

/-- The worker after the writer of a capture was asked to finish. -/
def Protocol2Worker.askedToFinish (worker : Protocol2Worker) (outside : Outside)
    (capture : CaptureSession) : Protocol2Worker :=
  worker.record (.finishCapture capture.writer) (outside.answer (.finishCapture capture.writer))

/-- A capture that may finish completes, goes on, or faults and raises. -/
theorem leads_captureTryFinish :
    Leads (captureTryFinish outside capture) start returned raised ↔
      (∀ payload, finishedBy outside capture = .ok payload →
        returned () ((start.askedToFinish outside capture).settled deck (.completed payload)
          .completed)) ∧
      (finishedBy outside capture = .error (.sdk "capture.not_ready") →
        returned () (start.askedToFinish outside capture)) ∧
      ∀ error, finishedBy outside capture = .error error → error ≠ .sdk "capture.not_ready" →
        raised (finishError error)
          ((start.askedToFinish outside capture).captureFaulted outside deck capture) := by
  rw [captureTryFinish, leads_bind, leads_catching, leads_map, leads_finishedPayload]
  cases finished : finishedBy outside capture with
  | ok payload =>
    simp only [Except.ok.injEq, forall_eq', reduceCtorEq, false_imp_iff, implies_true, and_true]
    rw [leads_whenSome]
    simp only [reduceCtorEq, false_imp_iff, Option.some.injEq, forall_eq', true_and]
    exact leads_completeCapture (by exact loaded) held payload
  | error error =>
    simp only [reduceCtorEq, false_imp_iff, implies_true, true_and, Except.error.injEq, forall_eq']
    by_cases waiting : error = .sdk "capture.not_ready"
    · simp only [waiting, if_true, leads_pure, leads_whenSome, reduceCtorEq, false_imp_iff,
        implies_true, and_true, forall_true_left, ne_eq, not_true_eq_false]
      rfl
    · simp only [waiting, if_false, ne_eq, not_false_eq_true, forall_true_left, false_imp_iff,
        true_and]
      exact leads_faultAndRaise (by exact loaded) held (finishError error)

end Rules

def slotBoundReached : Raised :=
  runtimeError .captureLimitExceeded "capture latent-slot bound was reached"

theorem leads_captureAppend_idle {outside : Outside} {start : Protocol2Worker}
    {raised : Raised → Protocol2Worker → Prop} (loaded : start.deck = some deck)
    (idle : deck.recording = none) (tensor : Tensor) :
    Leads (captureAppend outside tensor) start returned raised ↔ returned () start := by
  rw [captureAppend, leads_bind, leads_reading, loaded]
  simp only [Option.elim_some, Except.ok.injEq, forall_eq', reduceCtorEq, false_imp_iff,
    implies_true, and_true, leads_whenSome, idle, forall_true_left]

/-- What a deck that records appends: one slot with the output of its operator, after which a
capture that takes its last slot may finish. -/
theorem leads_captureAppend {outside : Outside} {start : Protocol2Worker}
    {raised : Raised → Protocol2Worker → Prop} {capture : CaptureSession}
    (loaded : start.deck = some deck) (recording : deck.recording = some capture) (tensor : Tensor) :
    Leads (captureAppend outside tensor) start returned raised ↔
      (capture.maximumLatentSlots ≤ capture.latentSlots →
        raised slotBoundReached (start.captureFaulted outside deck capture)) ∧
      (capture.latentSlots < capture.maximumLatentSlots →
        (∀ error, outside.answer (.appendSlot capture.writer tensor capture.pendingResetEvent) =
            .error error →
          raised (appendError error)
            ((start.record (.appendSlot capture.writer tensor capture.pendingResetEvent)
              (.error error)).captureFaulted outside deck capture)) ∧
        (outside.answer (.appendSlot capture.writer tensor capture.pendingResetEvent) = .ok () →
          (¬ capture.closes → returned () (start.slotAppended deck capture tensor)) ∧
          (capture.closes → Leads (captureTryFinish outside capture.appended)
            (start.slotAppended deck capture tensor) returned raised))) := by
  have held := DeckSession.capture_of_recording recording
  rw [captureAppend, leads_bind, leads_reading, loaded]
  simp only [Option.elim_some, Except.ok.injEq, forall_eq', reduceCtorEq, false_imp_iff,
    implies_true, and_true, leads_whenSome, recording, true_and, Option.some.injEq]
  rw [appendRecorded, leads_bind, leads_whenever, leads_faultAndRaise loaded held.1]
  refine and_congr Iff.rfl ?_
  rw [Nat.not_le, leads_bind, leads_catching, leads_perform]
  refine imp_congr_right fun _ => ?_
  rw [and_comm]
  refine and_congr (forall_congr' fun error => imp_congr_right fun _ => ?_) ?_
  · exact leads_faultAndRaise (by exact loaded) held.1 (appendError error)
  · refine Iff.trans ⟨fun all => all (), fun one _ => one⟩ (imp_congr_right fun _ => ?_)
    rw [leads_bind, leads_changeCapture (by exact loaded) _ held.1, leads_bind, leads_modify,
      leads_whenever]
    exact and_comm

end LatentDeck.CodecHost
