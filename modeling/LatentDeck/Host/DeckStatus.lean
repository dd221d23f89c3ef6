import LatentDeck.Control.Messages
import LatentDeck.Host.RuntimeError
import LatentDeck.Library.Binary64
import Mathlib.Data.List.Sort

/-!
# Deck and capture status

What the host checks of a status that the worker of a deck reports: each command allows the status
to change in its own way, and every playhead stays in bounds. A playhead that wraps around is not
reported; the host infers it from two snapshots.
-/

namespace LatentDeck.Host

open Fallible
open Control (Uuid CaptureState CaptureMode DeckState DeckStatusSnapshot PlayheadSnapshot
  SourceTransportBinding ControlValue ControlBinding RoleBinding CaptureStatusSnapshot
  CaptureArtifact DeckReset)

def maxDecodeBatch : UInt64 := 24
def maxCaptureLatentSlots : UInt64 := 16382
def maxCaptureVisualBytes : UInt64 := 1024 * 1024 * 1024
def maxJsonSafeInteger : UInt64 := 9007199254740991

/-- `left == right` for two control values: numbers are compared as numbers. -/
def sameValue : ControlValue → ControlValue → Bool
  | .boolean left, .boolean right => left == right
  | .integer left, .integer right => left == right
  | .number left, .number right => Binary64.isEqual left right
  | .text left, .text right => left == right
  | _, _ => false

/-- `left == right` for two lists of controls. -/
def sameControls : List ControlBinding → List ControlBinding → Bool
  | [], [] => true
  | left :: lefts, right :: rights =>
      left.name == right.name && sameValue left.value right.value && sameControls lefts rights
  | _, _ => false

/-- `left == right` for two deck snapshots. -/
def sameStatus (left right : DeckStatusSnapshot) : Bool :=
  left.deckSessionId == right.deckSessionId && left.state == right.state &&
    left.deckRevision == right.deckRevision && left.streamGeneration == right.streamGeneration &&
    left.streamSequence == right.streamSequence &&
    left.playheads.asSlice == right.playheads.asSlice &&
    left.roles.asSlice == right.roles.asSlice &&
    sameControls left.controls.asSlice right.controls.asSlice &&
    left.sourceTransport.asSlice == right.sourceTransport.asSlice && left.seed == right.seed &&
    left.captureState == right.captureState

def slotCountOf (slotCounts : List (UInt8 × UInt64)) (physicalSlot : UInt8) : Option UInt64 :=
  slotCounts.findSome? fun entry => if entry.1 = physicalSlot then some entry.2 else none

def playheadOf (status : DeckStatusSnapshot) (physicalSlot : UInt8) : Option PlayheadSnapshot :=
  status.playheads.asSlice.find? fun playhead => playhead.physicalSlot == physicalSlot

def transportOf (status : DeckStatusSnapshot) (physicalSlot : UInt8) :
    Option SourceTransportBinding :=
  status.sourceTransport.asSlice.find? fun transport => transport.physicalSlot == physicalSlot

def transportActive (status : DeckStatusSnapshot) : Bool :=
  status.sourceTransport.asSlice.any (·.playing)

/-- The states in which no deck runs: `Empty | Loading | Faulted`. -/
def isStopped (state : DeckState) : Bool :=
  state == .empty || state == .loading || state == .faulted

/-- `u64::saturating_add` of one. -/
def saturatingSucc (value : UInt64) : UInt64 := if value.toNat + 1 < 2 ^ 64 then value + 1 else value

/-- `u64::checked_add` of one. -/
def checkedSucc (value : UInt64) : Option UInt64 :=
  if value.toNat + 1 < 2 ^ 64 then some (value + 1) else none

def validateTransport (transport : List SourceTransportBinding) (sourceCount : Nat) :
    Except GenericDeckRuntimeError Unit := do
  refuseWhen (sourceCount = 0 ∨ Control.maxSources < sourceCount ∨ transport.length ≠ sourceCount)
    .input
  let slots := (transport.map fun source => source.physicalSlot.toNat).insertionSort (· ≤ ·)
  refuseWhen (slots ≠ List.range' 1 sourceCount) .input

/-- Whether an end of stream is where a source that neither plays nor loops ends. -/
def endsWrongly (playhead : PlayheadSnapshot) (transport : SourceTransportBinding)
    (count : UInt64) : Bool :=
  playhead.endOfStream && (transport.playing || transport.loopEnabled ||
    saturatingSucc playhead.latentSlot < count)

/-- The loop body of `validate_playhead_bounds`. -/
def validatePlayheadBound (status : DeckStatusSnapshot) (entry : UInt8 × UInt64) :
    Except GenericDeckRuntimeError Unit := do
  refuseWhen (entry.2 = 0 ∨ maxJsonSafeInteger < entry.2) .protocol
  let playhead ← orError (playheadOf status entry.1) .protocol
  let transport ← orError (transportOf status entry.1) .protocol
  let exactEndSentinel := playhead.latentSlot = entry.2 ∧ playhead.endOfStream = true ∧
    transport.playing = false ∧ transport.loopEnabled = false
  refuseWhen (entry.2 < playhead.latentSlot ∨
      (playhead.latentSlot = entry.2 ∧ ¬ exactEndSentinel) ∨
      maxJsonSafeInteger < playhead.latentSlot ∨
      playhead.loopEnabled ≠ transport.loopEnabled ∨
      endsWrongly playhead transport entry.2 = true) .protocol

def validatePlayheadBounds (status : DeckStatusSnapshot) (slotCounts : List (UInt8 × UInt64)) :
    Except GenericDeckRuntimeError Unit := do
  refuseWhen (status.playheads.asSlice.length ≠ slotCounts.length ∨
    status.sourceTransport.asSlice.length ≠ slotCounts.length) .protocol
  checkEach (validatePlayheadBound status) slotCounts

/-- The part of `valid_process_transport_transition` for a source that stopped. -/
def stoppedAtEnd (previous current : DeckStatusSnapshot) (slotCounts : List (UInt8 × UInt64))
    (physicalSlot : UInt8) : Bool :=
  match slotCountOf slotCounts physicalSlot, playheadOf previous physicalSlot,
      playheadOf current physicalSlot with
  | some slotCount, some before, some after =>
      0 < slotCount && checkedSucc before.latentSlot == some slotCount && !before.endOfStream &&
        after.latentSlot == before.latentSlot && after.endOfStream
  | _, _, _ => false

/-- The closure of `valid_process_transport_transition`: a source goes on as it is, or one that does
not loop stops where it ends. -/
def validTransportStep (previous current : DeckStatusSnapshot)
    (slotCounts : List (UInt8 × UInt64)) (before after : SourceTransportBinding) : Bool :=
  if before.physicalSlot ≠ after.physicalSlot ∨ before.loopEnabled ≠ after.loopEnabled then false
  else if before.playing = after.playing then true
  else if before.playing = false ∨ after.playing = true ∨ before.loopEnabled = true then false
  else stoppedAtEnd previous current slotCounts before.physicalSlot

def validProcessTransportTransition (previous current : DeckStatusSnapshot)
    (slotCounts : List (UInt8 × UInt64)) : Bool :=
  previous.sourceTransport.asSlice.length == current.sourceTransport.asSlice.length &&
    (previous.sourceTransport.asSlice.zip current.sourceTransport.asSlice).all
      fun pair => validTransportStep previous current slotCounts pair.1 pair.2

def validProcessCaptureTransition : CaptureState → CaptureState → Bool
  | .idle, .idle => true
  | .capturing, .capturing | .capturing, .finalizing | .capturing, .completed => true
  | .finalizing, .finalizing | .finalizing, .completed => true
  | .completed, .completed => true
  | .aborted, .aborted => true
  | .faulted, .faulted => true
  | _, _ => false

def validateProcessStatus (previous current : DeckStatusSnapshot)
    (slotCounts : List (UInt8 × UInt64)) : Except GenericDeckRuntimeError Unit := do
  refuseWhen (current.deckSessionId ≠ previous.deckSessionId ∨
    current.deckRevision ≠ previous.deckRevision ∨
    current.streamGeneration ≠ previous.streamGeneration ∨
    checkedSucc previous.streamSequence ≠ some current.streamSequence ∨
    current.roles.asSlice ≠ previous.roles.asSlice ∨
    sameControls current.controls.asSlice previous.controls.asSlice = false ∨
    validProcessTransportTransition previous current slotCounts = false ∨
    current.seed ≠ previous.seed ∨
    validProcessCaptureTransition previous.captureState current.captureState = false ∨
    isStopped current.state = true) .protocol
  validatePlayheadBounds current slotCounts

def validateExactMutationStatus (expected current : DeckStatusSnapshot)
    (slotCounts : List (UInt8 × UInt64)) : Except GenericDeckRuntimeError Unit := do
  refuseWhen (sameStatus current expected = false) .protocol
  validatePlayheadBounds current slotCounts

/-- The loop body of `validate_transport_mutation_status`. -/
def validateTransportMutation (previous current : DeckStatusSnapshot)
    (slotCounts : List (UInt8 × UInt64)) (transport : SourceTransportBinding) :
    Except GenericDeckRuntimeError Unit := do
  let before ← orError (playheadOf previous transport.physicalSlot) .protocol
  let after ← orError (playheadOf current transport.physicalSlot) .protocol
  let slotCount ← orError (slotCountOf slotCounts transport.physicalSlot) .protocol
  let expectedEndOfStream := !transport.playing && !transport.loopEnabled &&
    decide (slotCount ≤ saturatingSucc before.latentSlot)
  refuseWhen (after.latentSlot ≠ before.latentSlot ∨ after.loopEnabled ≠ transport.loopEnabled ∨
    after.endOfStream ≠ expectedEndOfStream) .protocol

def validateTransportMutationStatus (previous current : DeckStatusSnapshot)
    (expected : List SourceTransportBinding) (slotCounts : List (UInt8 × UInt64)) :
    Except GenericDeckRuntimeError Unit := do
  let expectedState : DeckState := if expected.any (·.playing) then .playing else .paused
  refuseWhen (current.deckSessionId ≠ previous.deckSessionId ∨
    current.deckRevision ≠ previous.deckRevision ∨
    current.streamGeneration ≠ previous.streamGeneration ∨
    current.streamSequence ≠ previous.streamSequence ∨
    current.captureState ≠ previous.captureState ∨
    current.roles.asSlice ≠ previous.roles.asSlice ∨
    sameControls current.controls.asSlice previous.controls.asSlice = false ∨
    current.seed ≠ previous.seed ∨ current.sourceTransport.asSlice ≠ expected ∨
    current.state ≠ expectedState ∨
    current.playheads.asSlice.length ≠ previous.playheads.asSlice.length) .protocol
  checkEach (validateTransportMutation previous current slotCounts) expected
  validatePlayheadBounds current slotCounts

def manualResetAllowed : CaptureState → Bool
  | .idle | .completed | .aborted | .faulted => true
  | .starting | .capturing | .finalizing => false

def resetCaptureState : CaptureState → Except GenericDeckRuntimeError CaptureState
  | .idle => .ok .idle
  | .capturing => .ok .capturing
  | .finalizing => .ok .finalizing
  | .completed | .aborted | .faulted => .ok .idle
  | .starting => .error .protocol

def resetPlayheads (previous current : DeckStatusSnapshot) (preservePlayheads : Bool) : Bool :=
  if preservePlayheads then current.playheads.asSlice == previous.playheads.asSlice
  else current.playheads.asSlice.all fun playhead =>
    playhead.latentSlot == 0 && !playhead.endOfStream

def validateResetStatus (previous current : DeckStatusSnapshot) (generation : UInt64)
    (preservePlayheads : Bool) (slotCounts : List (UInt8 × UInt64)) :
    Except GenericDeckRuntimeError Unit := do
  let expectedCaptureState ← resetCaptureState previous.captureState
  refuseWhen (current.deckSessionId ≠ previous.deckSessionId ∨
    current.deckRevision ≠ previous.deckRevision ∨ current.streamGeneration ≠ generation ∨
    current.streamSequence ≠ 0 ∨ resetPlayheads previous current preservePlayheads = false ∨
    current.roles.asSlice ≠ previous.roles.asSlice ∨
    sameControls current.controls.asSlice previous.controls.asSlice = false ∨
    current.sourceTransport.asSlice ≠ previous.sourceTransport.asSlice ∨
    current.seed ≠ previous.seed ∨ current.captureState ≠ expectedCaptureState ∨
    isStopped current.state = true) .protocol
  validatePlayheadBounds current slotCounts

/-- The loop body of `looped_physical_slots`: the slot, when its playhead went back. -/
def loopedSlot (previous current : DeckStatusSnapshot) (slotCounts : List (UInt8 × UInt64))
    (transport : SourceTransportBinding) : Except GenericDeckRuntimeError (Option UInt8) :=
  if transport.playing = false ∨ transport.loopEnabled = false then .ok none
  else do
    let before ← orError (playheadOf previous transport.physicalSlot) .protocol
    let after ← orError (playheadOf current transport.physicalSlot) .protocol
    let count ← orError (slotCountOf slotCounts transport.physicalSlot) .protocol
    refuseWhen (count = 0 ∨ count ≤ before.latentSlot ∨ count ≤ after.latentSlot) .protocol
    .ok (if after.latentSlot < before.latentSlot then some transport.physicalSlot else none)

def loopedPhysicalSlots (previous current : DeckStatusSnapshot)
    (slotCounts : List (UInt8 × UInt64)) : Except GenericDeckRuntimeError (List UInt8) := do
  let looped ← previous.sourceTransport.asSlice.mapM (loopedSlot previous current slotCounts)
  .ok looped.reduceOption

def causalLoopResetRequest (status : DeckStatusSnapshot) :
    Except GenericDeckRuntimeError (UInt64 × DeckReset) := do
  let generation ← orError (checkedSucc status.streamGeneration) .protocol
  .ok (generation, ⟨status.deckSessionId, status.deckRevision, generation, true⟩)

def validateCaptureStatus (status : CaptureStatusSnapshot) (deck : DeckStatusSnapshot)
    (captureId : Uuid) (mode : CaptureMode) (allowedStates : List CaptureState) :
    Except GenericDeckRuntimeError Unit :=
  refuseWhen (status.deckSessionId ≠ deck.deckSessionId ∨
    status.deckRevision ≠ deck.deckRevision ∨ status.captureId ≠ captureId ∨ status.mode ≠ mode ∨
    status.state ∉ allowedStates ∨ 32 < status.resetEvents ∨
    status.artifact.isSome ≠ (status.state == .completed)) .protocol

def validCaptureStatusTransition (previous current : CaptureState) (mode : CaptureMode) : Bool :=
  match previous, current with
  | .capturing, .capturing | .capturing, .completed => true
  | .capturing, .aborted | .capturing, .faulted => true
  | .finalizing, .aborted | .finalizing, .faulted => true
  | .finalizing, .finalizing | .finalizing, .completed => true
  | .capturing, .finalizing => mode == .liveCapture
  | _, _ => false

/-- `validate_capture_artifact_bounds`; the product does not overflow where it is compared. -/
def validateCaptureArtifactBounds (artifact : CaptureArtifact) :
    Except GenericDeckRuntimeError Unit := do
  refuseWhen (2 ^ 64 ≤ artifact.latentSlots.toNat * maxDecodeBatch.toNat) .protocol
  refuseWhen (artifact.latentSlots = 0 ∨ maxCaptureLatentSlots < artifact.latentSlots ∨
    artifact.payloadByteLength = 0 ∨ maxCaptureVisualBytes < artifact.payloadByteLength ∨
    artifact.decodedFrameCount < artifact.latentSlots ∨
    artifact.latentSlots.toNat * maxDecodeBatch.toNat < artifact.decodedFrameCount.toNat) .protocol

structure GenericCaptureView where
  captureId : Option Uuid
  mode : Option CaptureMode
  state : String
  latentSlots : String
  resetEvents : UInt32
  cartridgeId : Option String
  archiveSha256 : Option String
  detail : Option String

def GenericCaptureView.default : GenericCaptureView where
  captureId := none
  mode := none
  state := "idle"
  latentSlots := "0"
  resetEvents := 0
  cartridgeId := none
  archiveSha256 := none
  detail := none

def captureStateText : CaptureState → String
  | .idle => "idle"
  | .starting => "starting"
  | .capturing => "capturing"
  | .finalizing | .completed => "finalizing"
  | .aborted => "aborted"
  | .faulted => "error"

def captureView (status : CaptureStatusSnapshot) (stateOverride : Option String)
    (finalized : Option (String × String)) (detail : Option String) : GenericCaptureView where
  captureId := some status.captureId
  mode := some status.mode
  state := stateOverride.getD (captureStateText status.state)
  latentSlots := toString status.latentSlots.toNat
  resetEvents := status.resetEvents
  cartridgeId := finalized.map Prod.fst
  archiveSha256 := finalized.map Prod.snd
  detail := detail

end LatentDeck.Host
