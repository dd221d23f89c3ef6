import LatentDeck.Library.Checked
import LatentDeck.Library.Fallible
import LatentDeck.Library.Text

/-!
# Protocol 1 slots

The timing a worker declares for a loaded slot, and the messages that move the slot's decode
cursor. A clip is decoded in cycles: the initial pattern and the steady pattern say which latent
slots a cycle reads and which frames it produces.
-/

namespace LatentDeck.Playback

open Text Fallible

/-- `ValidationError` — the variants these checks raise. -/
inductive ValidationError where
  | invalidField (field reason : String)
  deriving DecidableEq

/-- `invalid`, raised when a condition holds. -/
def invalidIf (condition : Prop) [Decidable condition] (field reason : String) :
    Except ValidationError Unit :=
  if condition then .error (.invalidField field reason) else .ok ()

@[simp]
theorem invalidIf_eq_ok (condition : Prop) [Decidable condition] (field reason : String) :
    invalidIf condition field reason = .ok () ↔ ¬ condition := by
  rw [invalidIf, guarded_eq_ok]
  exact and_iff_left rfl

/-- `CyclePattern` — a run of cycles that advance by equal strides. -/
structure CyclePattern where
  firstCycleIndex : UInt64
  cycleCount : UInt64
  latentBase : UInt64
  latentStride : UInt32
  latentCount : UInt32
  decodedBase : UInt64
  decodedStride : UInt32
  decodedCount : UInt32
  deriving DecidableEq

def CyclePattern.validate (pattern : CyclePattern) : Except ValidationError Unit :=
  invalidIf (pattern.latentCount = 0 ∨ pattern.decodedCount = 0) "cycle_pattern"
    "per-cycle counts must be nonzero"

/-- `TimingDescriptor` — the clock, the extent and the cycle patterns of a clip. -/
structure TimingDescriptor where
  frameRateNumerator : UInt32
  frameRateDenominator : UInt32
  latentSlotCount : UInt64
  decodedFrameCount : UInt64
  cycleCount : UInt64
  initial : CyclePattern
  steady : CyclePattern
  resetRequiredOnWrap : Bool
  arbitrarySeek : Bool
  maxFramesPerCycle : UInt32

def TimingDescriptor.validate (timing : TimingDescriptor) : Except ValidationError Unit := do
  invalidIf (timing.frameRateNumerator = 0 ∨ timing.frameRateDenominator = 0) "frame_rate"
    "numerator and denominator must be nonzero"
  invalidIf (timing.latentSlotCount = 0 ∨ timing.decodedFrameCount = 0 ∨ timing.cycleCount = 0)
    "timing" "slot, frame, and cycle counts must be nonzero"
  invalidIf (¬ timing.resetRequiredOnWrap ∨ timing.arbitrarySeek) "timing.transport"
    "v1 requires reset-on-wrap and forbids arbitrary seek"
  invalidIf (timing.maxFramesPerCycle = 0) "max_frames_per_cycle" "must be nonzero"
  timing.initial.validate
  timing.steady.validate

theorem TimingDescriptor.validate_eq_ok {timing : TimingDescriptor}
    (valid : timing.validate = .ok ()) :
    timing.cycleCount ≠ 0 ∧ timing.initial.latentCount ≠ 0 ∧ timing.initial.decodedCount ≠ 0 ∧
      timing.steady.latentCount ≠ 0 ∧ timing.steady.decodedCount ≠ 0 := by
  simp only [validate, CyclePattern.validate, check_eq_ok, invalidIf_eq_ok, not_or] at valid
  exact ⟨valid.2.1.2.2, valid.2.2.2.2.1.1, valid.2.2.2.2.1.2, valid.2.2.2.2.2⟩

/-- `SlotLoaded` — the slot a worker holds and its timing. -/
structure SlotLoaded where
  slotId : String
  slotRevision : UInt64
  timing : TimingDescriptor

inductive ResetReason where
  | load
  | loop
  | restart
  | recovery
  deriving DecidableEq

/-- `SlotReset` — the command that starts a newer stream generation. -/
structure SlotReset where
  slotId : String
  slotRevision : UInt64
  newStreamGeneration : UInt64
  reason : ResetReason
  deriving DecidableEq

/-- `SlotResetAck` — the state a worker reset to. -/
structure SlotResetAck where
  slotId : String
  slotRevision : UInt64
  streamGeneration : UInt64
  nextCycleIndex : UInt64
  ringWriteSequence : UInt64

/-- `SlotDecodeCycle` — the command that decodes one cycle. -/
structure SlotDecodeCycle where
  slotId : String
  slotRevision : UInt64
  streamGeneration : UInt64
  cycleIndex : UInt64
  deriving DecidableEq

/-- `DecodeCycleAck` — the ranges a worker decoded in one cycle. -/
structure DecodeCycleAck where
  slotId : String
  slotRevision : UInt64
  streamGeneration : UInt64
  cycleIndex : UInt64
  latentStart : UInt64
  latentCount : UInt32
  decodedStartFrame : UInt64
  decodedFrameCount : UInt32
  ringFirstSequence : UInt64
  ringLastSequenceExclusive : UInt64
  endOfStream : Bool
  deriving DecidableEq

end LatentDeck.Playback
