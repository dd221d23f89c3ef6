import LatentDeck.Archive.Cadence
import LatentDeck.Playback.Coverage
import Mathlib.Algebra.BigOperators.Group.List.Lemmas
import Mathlib.Algebra.Order.BigOperators.GroupWithZero.List

/-!
# The Protocol 1 worker

The worker of the H3 pack plays one source, cycle by cycle, for a host that follows a playback
schedule. Whatever the decoder and the ring answer, the worker announces a timing that the host
admits, the schedule accepts what the worker acknowledges, and their cursors stay the same.
-/

namespace LatentDeck.CodecH3

open Effect Fallible Playback Run
open Archive (cycleCount h3Cycle H3Cycle)
open Tiling (Tiles)

/-- What `load_video_source` finds in an archive whose entries and descriptors agree. -/
structure CartridgeReading where
  cartridgeId : String
  archive : List UInt8
  shape : List Int
  isF32 : Bool
  /-- Where the bytes of the video tensor stand in the archive. -/
  videoOffset : Nat
  width : Int
  height : Int
  frameCount : Int
  frameRateNumerator : Int
  frameRateDenominator : Int
  audioSlots : Option Nat

structure H3VideoSource where
  cartridgeId : String
  shape : List Nat
  videoBytes : List UInt8
  width : Nat
  height : Nat
  frameCount : Nat
  frameRateNumerator : Nat
  frameRateDenominator : Nat
  audioSlots : Option Nat

def H3VideoSource.latentSlotCount (source : H3VideoSource) : Nat := source.shape.getD 2 0

/-- `_positive_int`. -/
def wholeNumber (value : Int) : Except String Nat :=
  if 0 < value then .ok value.toNat else .error "must be a positive integer"

/-- `_validate_h3_source`. -/
def H3VideoSource.validate (source : H3VideoSource) : Except String Unit := do
  refuseWhen (source.frameCount ≠ 5 + 17 * ((source.latentSlotCount - 2) / 5))
    "manifest decoded frame count disagrees with H3 cadence"
  refuseWhen (source.width ≠ source.shape.getD 4 0 * 16 ∨
      source.height ≠ source.shape.getD 3 0 * 16)
    "manifest decoded geometry disagrees with H3 spatial cadence"
  refuseWhen (source.frameRateNumerator ≠ 24 ∨ source.frameRateDenominator ≠ 1)
    "LatentDeck H3 playback requires the 24 fps profile"
  refuseWhen (source.audioSlots.any (· ≠ (source.frameCount * 5 + 1) / 3))
    "audio latent length disagrees with H3 cadence"

/-- The part of `load_video_source` behind the readers of archives and of JSON. -/
def loadVideoSource (found : CartridgeReading) : Except String H3VideoSource := do
  refuseWhen (¬ (1 ≤ found.archive.length ∧ found.archive.length ≤ 16123953152))
    "cartridge archive is outside the LC 0.1 byte limit"
  let shape ← found.shape.mapM wholeNumber
  refuseWhen (shape.length ≠ 5 ∨ shape.getD 0 0 ≠ 1 ∨ shape.getD 1 0 ≠ 24 ∨ shape.getD 2 0 < 2 ∨
    (shape.getD 2 0 - 2) % 5 ≠ 0) "H3 video shape must be [1,24,2+5n,H,W]"
  let expectedBytes := shape.prod * if found.isF32 then 4 else 2
  let videoBytes := (found.archive.drop found.videoOffset).take expectedBytes
  refuseWhen (videoBytes.length ≠ expectedBytes)
    "cartridge entry ended before its declared byte range"
  let width ← wholeNumber found.width
  let height ← wholeNumber found.height
  let frameCount ← wholeNumber found.frameCount
  let numerator ← wholeNumber found.frameRateNumerator
  let denominator ← wholeNumber found.frameRateDenominator
  let source : H3VideoSource := ⟨found.cartridgeId, shape, videoBytes, width, height, frameCount,
    numerator, denominator, found.audioSlots⟩
  source.validate
  return source

/-- A clip of complete cycles, whose frames can be counted in 64 bits. -/
structure H3VideoSource.Plays (source : H3VideoSource) (cycles : Nat) : Prop where
  slots : source.latentSlotCount = 2 + 5 * cycles
  frames : source.frameCount = 5 + 17 * cycles
  rate : source.frameRateNumerator = 24 ∧ source.frameRateDenominator = 1
  bound : cycles < 2 ^ 40

theorem loadVideoSource_plays {found : CartridgeReading} {source : H3VideoSource}
    (loaded : loadVideoSource found = .ok source) : ∃ cycles, source.Plays cycles := by
  unfold loadVideoSource at loaded
  simp only [↓check_eq_ok, bind_eq_ok, refuseWhen_eq_ok, not_or, not_not] at loaded
  obtain ⟨small, shape, axes, ⟨rank, -, -, two, complete⟩, read, width, -, height, -, frames, -,
    numerator, -, denominator, -, valid, same⟩ := loaded
  cases same
  unfold H3VideoSource.validate at valid
  simp only [↓check_eq_ok, refuseWhen_eq_ok, not_or, not_not] at valid
  obtain ⟨counted, -, rate, -⟩ := valid
  have positive : ∀ axis ∈ shape, 0 < axis := by
    intro axis member
    obtain ⟨value, -, made⟩ := exists_of_forall₂ (mapM_eq_ok.mp axes).flip axis member
    unfold wholeNumber at made
    split at made
    · cases made
      omega
    · exact nomatch made
  have inside : 2 < shape.length := by omega
  have slots : shape.getD 2 0 ≤ shape.prod := by
    refine Nat.le_of_dvd (List.prod_pos positive) (List.dvd_prod ?_)
    rw [List.getD_eq_getElem _ _ inside]
    exact List.getElem_mem inside
  have bytes : shape.prod ≤ found.archive.length := by
    rw [List.length_take, List.length_drop] at read
    split at read <;> omega
  refine ⟨(shape.getD 2 0 - 2) / 5, ?_, counted, rate, ?_⟩
  · show shape.getD 2 0 = _
    omega
  · omega

/-- An integer of a payload where the host reads a 64-bit number. -/
def u64 (value : Nat) : Option UInt64 := if value < 2 ^ 64 then some (.ofNat value) else none

def u32 (value : Nat) : Option UInt32 := if value < 2 ^ 32 then some (.ofNat value) else none

structure SlotLoad where
  slotId : String
  cartridgePath : String
  expectedArchiveSha256 : String
  cartridgeId : String
  streamGeneration : UInt64

/-- `_timing`, as the host reads it. -/
def H3VideoSource.timing (source : H3VideoSource) : Option TimingDescriptor := do
  let frameRateNumerator ← u32 source.frameRateNumerator
  let frameRateDenominator ← u32 source.frameRateDenominator
  let latentSlotCount ← u64 source.latentSlotCount
  let decodedFrameCount ← u64 source.frameCount
  let cycleCount ← u64 (cycleCount source.latentSlotCount).toNat
  let steadyCycles ← u64 (Archive.cycleCount source.latentSlotCount - 1).toNat
  return {
    frameRateNumerator, frameRateDenominator, latentSlotCount, decodedFrameCount, cycleCount
    initial := { firstCycleIndex := 0, cycleCount := 1, latentBase := 0, latentStride := 0,
                 latentCount := 2, decodedBase := 0, decodedStride := 0, decodedCount := 5 }
    steady := { firstCycleIndex := 1, cycleCount := steadyCycles, latentBase := 2,
                latentStride := 5, latentCount := 5, decodedBase := 5, decodedStride := 17,
                decodedCount := 17 }
    resetRequiredOnWrap := true, arbitrarySeek := false, maxFramesPerCycle := 17 }

/-- The acknowledgement of a decoded cycle, as the host reads it. -/
def decodeCycleAck (slotId : String) (slotRevision generation cycleIndex : Nat) (cycle : H3Cycle)
    (published : UInt64 × UInt64) : Option DecodeCycleAck := do
  let slotRevision ← u64 slotRevision
  let streamGeneration ← u64 generation
  let cycleIndex ← u64 cycleIndex
  let latentStart ← u64 cycle.latentStart
  let latentCount ← u32 cycle.latentCount
  let decodedStartFrame ← u64 cycle.decodedStartFrame
  let decodedFrameCount ← u32 cycle.decodedFrameCount
  return {
    slotId, slotRevision, streamGeneration, cycleIndex, latentStart, latentCount, decodedStartFrame
    decodedFrameCount, ringFirstSequence := published.1, ringLastSequenceExclusive := published.2
    endOfStream := cycle.endOfStream }

structure WorkerCommandError where
  code : String
  message : String
  retryable : Bool
  fatal : Bool
  deriving DecidableEq

/-- What a handler raises. -/
inductive Failure where
  | command (error : WorkerCommandError)
  | other
  deriving DecidableEq

/-- The worker does not go on. -/
def Failure.Fatal : Failure → Prop
  | .command error => error.fatal = true
  | .other => True

def commandError (code message : String) : Failure := .command ⟨code, message, false, false⟩

inductive SlotState where
  | empty
  | loading
  | ready
  | decoding
  | endOfStream
  | faulted

inductive RingState where
  | unbound
  | binding
  | ready
  | faulted
  deriving DecidableEq

/-- `WindowsRingProducer`. -/
structure RingProducer where
  writeSequence : Nat

structure SlotCursor where
  source : Option H3VideoSource
  slotId : Option String
  slotRevision : Nat
  streamGeneration : Option Nat
  nextCycleIndex : Nat
  slotState : SlotState

/-- `H3WorkerState`, once it is configured. -/
structure H3WorkerState extends SlotCursor where
  /-- A decoder is there and the codec is ready. -/
  decoderReady : Bool
  ring : Option RingProducer
  ringState : RingState

/-- What the decoder and the ring answer while a command is carried out. -/
structure Calls where
  bindSource : Bool
  bindRing : Bool
  canPublish : Nat → Option Bool
  decodeCycle : Bool
  publishCycle : Option (UInt64 × UInt64)
  setGeneration : Bool
  resetDecoder : Bool
  writeSequence : Bool

/-- Nothing goes wrong in a decode. -/
structure Calls.Willing (calls : Calls) : Prop where
  room : ∀ frames, calls.canPublish frames = some true
  decodes : calls.decodeCycle = true
  publishes : calls.publishCycle.isSome = true

abbrev Act := EStateM Failure H3WorkerState

namespace H3WorkerState

def checkSlot (state : H3WorkerState) (slotId : String) (slotRevision : UInt64) :
    Except Failure Unit :=
  refuseWhen (some slotId ≠ state.slotId ∨ slotRevision.toNat ≠ state.slotRevision)
    (commandError "state.stale_slot_revision" "slot revision is stale")

def requireDecoder (state : H3WorkerState) : Except Failure Unit :=
  refuseWhen (state.decoderReady = false)
    (commandError "state.invalid_transition" "H3 codec is not ready")

def requireSource (state : H3WorkerState) : Except Failure H3VideoSource := do
  refuseWhen (state.slotId = none)
    (commandError "state.invalid_transition" "cartridge slot is empty")
  orError state.source (commandError "state.invalid_transition" "cartridge slot is empty")

def requireRing (state : H3WorkerState) : Except Failure RingProducer := do
  refuseWhen (state.ringState ≠ .ready) (commandError "ring.unbound" "RGB ring is not ready")
  orError state.ring (commandError "ring.unbound" "RGB ring is not ready")

def requireGeneration (state : H3WorkerState) : Except Failure Nat :=
  orError state.streamGeneration
    (commandError "state.invalid_transition" "stream generation is absent")

end H3WorkerState

def raiseUnless (returns : Bool) : Act Unit := demand (returns = true) .other

variable (readCartridge : String → String → Except String CartridgeReading) (calls : Calls)

def slotLoad (payload : SlotLoad) : Act (Option SlotLoaded) := do
  reading (·.requireDecoder)
  reading fun state => refuseWhen (state.slotId ≠ none ∨ state.ring.isSome = true)
    (commandError "state.invalid_transition" "a cartridge slot is already active")
  modify ({ · with slotState := .loading })
  let source ← catching (reading fun _ => ((do
      let found ← readCartridge payload.cartridgePath payload.expectedArchiveSha256
      loadVideoSource found).mapError fun _ => Failure.other)) fun _ => do
    modify ({ · with slotState := .faulted })
    throw (commandError "slot.cartridge_invalid" "cartridge validation changed")
  whenever (source.cartridgeId ≠ payload.cartridgeId) do
    modify ({ · with slotState := .faulted })
    throw (commandError "slot.cartridge_hash_mismatch" "cartridge identity changed")
  raiseUnless calls.bindSource
  modify fun state => { state with
    source := some source
    slotId := some payload.slotId
    slotRevision := state.slotRevision + 1
    streamGeneration := some payload.streamGeneration.toNat
    nextCycleIndex := 0
    slotState := .ready }
  reading fun state => .ok (do
    let slotRevision ← u64 state.slotRevision
    let timing ← source.timing
    return { slotId := payload.slotId, slotRevision, timing })

def ringBind : Act (Option Unit) := do
  let _ ← reading (·.requireSource)
  reading fun state => refuseWhen (state.ring.isSome = true)
    (commandError "state.invalid_transition" "RGB ring is already bound")
  modify ({ · with ringState := .binding })
  let _ ← reading (·.requireGeneration)
  whenever (calls.bindRing = false) do
    modify ({ · with ringState := .faulted })
    throw (commandError "ring.layout_incompatible" "RGB ring binding failed")
  modify ({ · with ring := some ⟨0⟩, ringState := .ready })
  pure (some ())

def slotReset (payload : SlotReset) : Act (Option SlotResetAck) := do
  reading (·.checkSlot payload.slotId payload.slotRevision)
  let generation ← reading (·.requireGeneration)
  let newGeneration := payload.newStreamGeneration.toNat
  demand (generation < newGeneration)
    (commandError "state.stale_generation" "reset generation is not newer")
  reading (·.requireDecoder)
  let _ ← reading (·.requireRing)
  raiseUnless calls.setGeneration
  -- A new generation of the mapping starts with nothing written.
  let ring : RingProducer := ⟨0⟩
  modify ({ · with ring := some ring })
  raiseUnless calls.resetDecoder
  modify ({ · with
    streamGeneration := some newGeneration, nextCycleIndex := 0, slotState := .ready })
  raiseUnless calls.writeSequence
  reading fun state => .ok (do
    let slotRevision ← u64 state.slotRevision
    let streamGeneration ← u64 newGeneration
    let ringWriteSequence ← u64 ring.writeSequence
    return { slotId := payload.slotId, slotRevision, streamGeneration, nextCycleIndex := 0
             ringWriteSequence })

/-- What `_decode_cycle` does when the decoder or the publication raised. -/
def decodeFailed (failure : Failure) : Act (UInt64 × UInt64) :=
  if failure = .other then do
    modify ({ · with slotState := .faulted })
    throw (.command ⟨"decode.failed",
      "TAEH3 decode or RGB publish failed; restart the worker session", false, true⟩)
  else throw failure

def decodeCycle (payload : SlotDecodeCycle) : Act (Option DecodeCycleAck) := do
  reading (·.checkSlot payload.slotId payload.slotRevision)
  let generation ← reading (·.requireGeneration)
  demand (payload.streamGeneration.toNat = generation)
    (commandError "state.stale_generation" "decode generation is stale")
  let cycleIndex := payload.cycleIndex.toNat
  reading fun state => refuseWhen (cycleIndex ≠ state.nextCycleIndex)
    (commandError "decode.cycle_out_of_order" "decode cycle is out of order")
  let source ← reading (·.requireSource)
  let timing ← reading fun _ => orError (h3Cycle source.latentSlotCount cycleIndex) .other
  let _ ← reading (·.requireRing)
  let room ← reading fun _ => orError (calls.canPublish timing.decodedFrameCount) .other
  demand (room = true) (.command ⟨"ring.backpressure",
    "RGB ring has insufficient capacity for the complete H3 cycle", true, false⟩)
  modify ({ · with slotState := .decoding })
  let published ← catching (do
      reading (·.requireDecoder)
      raiseUnless calls.decodeCycle
      reading fun _ => orError calls.publishCycle .other) decodeFailed
  modify fun state => { state with
    ring := some ⟨published.2.toNat - 1⟩
    nextCycleIndex := state.nextCycleIndex + 1
    slotState := if timing.endOfStream then .endOfStream else .ready }
  reading fun state => .ok
    (decodeCycleAck payload.slotId state.slotRevision generation cycleIndex timing published)

theorem u64_toNat (word : UInt64) : u64 word.toNat = some word := by
  rw [u64, if_pos word.toNat_lt, UInt64.ofNat_toNat]

theorem u64_small {value : Nat} (small : value < 2 ^ 64) : u64 value = some (.ofNat value) :=
  if_pos small

/-- The timing of a clip of complete cycles. -/
def h3Timing (cycles : Nat) : TimingDescriptor where
  frameRateNumerator := 24
  frameRateDenominator := 1
  latentSlotCount := .ofNat (2 + 5 * cycles)
  decodedFrameCount := .ofNat (5 + 17 * cycles)
  cycleCount := .ofNat (1 + cycles)
  initial := ⟨0, 1, 0, 0, 2, 0, 0, 5⟩
  steady := ⟨1, .ofNat cycles, 2, 5, 5, 5, 17, 17⟩
  resetRequiredOnWrap := true
  arbitrarySeek := false
  maxFramesPerCycle := 17

theorem H3VideoSource.Plays.timing {source : H3VideoSource} {cycles : Nat}
    (plays : source.Plays cycles) : source.timing = some (h3Timing cycles) := by
  have small := plays.bound
  have count : (1 + (cycles : Int)).toNat = 1 + cycles := by omega
  have steady : (1 + (cycles : Int) - 1).toNat = cycles := by omega
  rw [H3VideoSource.timing, plays.slots, plays.frames, plays.rate.1, plays.rate.2,
    Archive.cycleCount_of_slots, count, steady, u64_small (by omega), u64_small (by omega),
    u64_small (by omega), u64_small (by omega)]
  rfl

theorem h3Timing_valid {cycles : Nat} (small : cycles < 2 ^ 40) :
    (h3Timing cycles).validate = .ok () := by
  have word : ∀ value, 0 < value → value < 2 ^ 64 → UInt64.ofNat value ≠ 0 := by
    intro value positive bound zero
    have same := congrArg UInt64.toNat zero
    rw [Checked.word_toNat bound, UInt64.toNat_zero] at same
    omega
  unfold h3Timing
  simp only [TimingDescriptor.validate, check_eq_ok, invalidIf_eq_ok, not_or]
  exact ⟨by decide, ⟨word _ (by omega) (by omega), word _ (by omega) (by omega),
    word _ (by omega) (by omega)⟩, by decide, by decide, rfl, rfl⟩

/-- The timing declares each cycle as the source computes it. -/
theorem h3Timing_declares {cycles index : Nat} (small : cycles < 2 ^ 40) {cycle : H3Cycle}
    (there : h3Cycle (2 + 5 * cycles) index = some cycle) :
    index < 1 + cycles ∧ cycle.endOfStream = decide (index + 1 = 1 + cycles) ∧
      cycle.latentStart < 2 ^ 64 ∧ cycle.latentCount < 2 ^ 32 ∧
      cycle.decodedStartFrame < 2 ^ 64 ∧ cycle.decodedFrameCount < 2 ^ 32 ∧
      (h3Timing cycles).expectedCycle (.ofNat index) = .ok
        ⟨.ofNat cycle.latentStart, .ofNat cycle.latentCount, .ofNat cycle.decodedStartFrame,
          .ofNat cycle.decodedFrameCount⟩ := by
  rw [h3Cycle, Archive.cycleCount_of_slots] at there
  split at there
  swap
  · cases there
  cases there
  have inside : index < 1 + cycles := by omega
  have value : (UInt64.ofNat index).toNat = index := Checked.word_toNat (by omega)
  have count : (h3Timing cycles).cycleCount.toNat = 1 + cycles := Checked.word_toNat (by omega)
  have steady : (h3Timing cycles).steady.cycleCount.toNat = cycles := Checked.word_toNat (by omega)
  have initial : (h3Timing cycles).initial.firstCycleIndex.toNat +
    (h3Timing cycles).initial.cycleCount.toNat = 1 := rfl
  have begins : (h3Timing cycles).steady.firstCycleIndex.toNat = 1 := rfl
  dsimp only
  refine ⟨inside, decide_eq_decide.mpr (by omega), by split <;> omega,
    by split <;> omega, by split <;> omega, by split <;> omega, ?_⟩
  rw [TimingDescriptor.expectedCycle, check_eq_ok, failIf_eq_ok, UInt64.le_iff_toNat_le, value,
    count, bind_eq_ok]
  simp only [TimingDescriptor.patternOf_eq_ok, CyclePattern.serves_eq_true,
    CyclePattern.serves_eq_false, CyclePattern.cycle_eq_ok, value]
  refine ⟨by omega, ?_⟩
  rw [initial, begins, steady]
  by_cases first : index = 0
  · rw [if_pos first, if_pos first, if_pos first, if_pos first]
    exact ⟨_, .inl ⟨⟨Nat.zero_le _, by omega, by omega⟩, rfl⟩, 0, first, rfl, rfl, rfl, rfl⟩
  · rw [if_neg first, if_neg first, if_neg first, if_neg first]
    refine ⟨_, .inr ⟨.inr (by omega), ⟨by omega, by omega, by omega⟩, rfl⟩, index - 1, by omega, ?_,
      ?_, rfl, rfl⟩
    · rw [Checked.word_toNat (by omega), Nat.mul_comm]
      rfl
    · rw [Checked.word_toNat (by omega), Nat.mul_comm]
      rfl

theorem h3Timing_contiguous {cycles : Nat} (small : cycles < 2 ^ 40) :
    (h3Timing cycles).Contiguous := by
  have count : (h3Timing cycles).cycleCount.toNat = 1 + cycles := Checked.word_toNat (by omega)
  have steady : (h3Timing cycles).steady.cycleCount.toNat = cycles := Checked.word_toNat (by omega)
  have segments : (h3Timing cycles).segments = [⟨(h3Timing cycles).steady, 0, 0⟩,
      ⟨(h3Timing cycles).initial, 0, 1⟩, ⟨(h3Timing cycles).steady, 1, cycles⟩] := by
    have begins : min (h3Timing cycles).initial.firstCycleIndex.toNat (1 + cycles) = 0 :=
      Nat.zero_min _
    have ends : min ((h3Timing cycles).initial.firstCycleIndex.toNat +
        (h3Timing cycles).initial.cycleCount.toNat) (1 + cycles) = 1 :=
      Nat.min_eq_left (Nat.le_add_right 1 cycles)
    unfold TimingDescriptor.segments
    dsimp only
    rw [count, begins, ends, Nat.add_sub_cancel_left]
  refine ⟨?_, ?_, ?_⟩ <;> rw [segments]
  · intro segment member
    simp only [List.mem_cons, List.not_mem_nil, or_false] at member
    rcases member with rfl | rfl | rfl
    · exact fun some => absurd some (Nat.lt_irrefl 0)
    · exact fun _ => ⟨le_refl 0, le_refl 1, show 1 < 2 ^ 64 by decide⟩
    · refine fun _ => ?_
      rw [steady]
      exact ⟨le_refl 1, le_refl _, by show 1 + cycles < _; omega⟩
  · have total : (h3Timing cycles).latentSlotCount.toNat = 2 + 5 * cycles :=
      Checked.word_toNat (by omega)
    rw [total]
    refine ⟨fun some => absurd some (Nat.lt_irrefl 0), fun some => absurd some (Nat.not_lt_zero 1),
      fun _ => rfl, fun some => absurd some (Nat.lt_irrefl 1), fun _ => rfl, fun _ => rfl, ?_⟩
    show 2 + 5 * cycles = 2 + cycles * 5
    omega
  · have total : (h3Timing cycles).decodedFrameCount.toNat = 5 + 17 * cycles :=
      Checked.word_toNat (by omega)
    rw [total]
    refine ⟨fun some => absurd some (Nat.lt_irrefl 0), fun some => absurd some (Nat.not_lt_zero 1),
      fun _ => rfl, fun some => absurd some (Nat.lt_irrefl 1), fun _ => rfl, fun _ => rfl, ?_⟩
    show 5 + 17 * cycles = 5 + cycles * 17
    omega

/-- Every clip that the worker loads is announced with a timing that the host admits, whose cycles
tile the latent slots and the frames of the clip, and which the worker then decodes. -/
theorem announced_timing_tiles_clip {found : CartridgeReading} {source : H3VideoSource}
    (loaded : loadVideoSource found = .ok source) :
    ∃ timing, source.timing = some timing ∧ timing.validate = .ok () ∧
      Tiles 0 ((List.range timing.cycleCount.toNat).map timing.latentRange)
        source.latentSlotCount ∧
      Tiles 0 ((List.range timing.cycleCount.toNat).map timing.frameRange) source.frameCount ∧
      ∀ index < timing.cycleCount.toNat,
        ∃ cycle, h3Cycle source.latentSlotCount index = some cycle ∧
          timing.latentRange index = (cycle.latentStart, cycle.latentCount) ∧
          timing.frameRange index = (cycle.decodedStartFrame, cycle.decodedFrameCount) := by
  obtain ⟨cycles, plays⟩ := loadVideoSource_plays loaded
  have small := plays.bound
  have tiles := (h3Timing_contiguous small).tiles
  have slots : (h3Timing cycles).latentSlotCount.toNat = 2 + 5 * cycles :=
    Checked.word_toNat (by omega)
  have frames : (h3Timing cycles).decodedFrameCount.toNat = 5 + 17 * cycles :=
    Checked.word_toNat (by omega)
  rw [slots, frames, ← plays.slots, ← plays.frames] at tiles
  refine ⟨_, plays.timing, h3Timing_valid small, tiles.1, tiles.2, fun index inside => ?_⟩
  have count : (h3Timing cycles).cycleCount.toNat = 1 + cycles := Checked.word_toNat (by omega)
  obtain ⟨cycle, there⟩ : ∃ cycle, h3Cycle (2 + 5 * cycles) index = some cycle := by
    rw [h3Cycle, Archive.cycleCount_of_slots, if_pos (by omega)]
    exact ⟨_, rfl⟩
  rw [plays.slots]
  refine ⟨cycle, there, ?_⟩
  obtain ⟨-, -, start, count, first, frames, declared⟩ := h3Timing_declares small there
  rw [TimingDescriptor.latentRange, TimingDescriptor.frameRange, declared]
  dsimp only
  rw [Checked.word_toNat start, Checked.word_toNat first, UInt32.toNat_ofNat_of_lt' count,
    UInt32.toNat_ofNat_of_lt' frames]
  exact ⟨rfl, rfl⟩

/-- A clip of three cycles, of one element a slot. -/
def sampleReading : CartridgeReading where
  cartridgeId := "sample"
  archive := List.replicate 576 0
  shape := [1, 24, 12, 1, 1]
  isF32 := false
  videoOffset := 0
  width := 16
  height := 16
  frameCount := 39
  frameRateNumerator := 24
  frameRateDenominator := 1
  audioSlots := none

set_option maxRecDepth 4000 in
theorem announced_timing_tiles_sample :
    ∃ source timing, loadVideoSource sampleReading = .ok source ∧ source.timing = some timing ∧
      Tiles 0 ((List.range timing.cycleCount.toNat).map timing.frameRange) 39 := by
  have loaded : loadVideoSource sampleReading = .ok ⟨"sample", [1, 24, 12, 1, 1],
      List.replicate 576 0, 16, 16, 39, 24, 1, none⟩ := by rfl
  obtain ⟨timing, announced, -, -, frames, -⟩ := announced_timing_tiles_clip loaded
  exact ⟨_, timing, loaded, announced, frames⟩

theorem slotLoad_leads (payload : SlotLoad) (worker : H3WorkerState) :
    Leads (slotLoad readCartridge calls payload) worker
      (fun ack after => ∃ source cycles, source.Plays cycles ∧ worker.slotId = none ∧
        ack = (u64 (worker.slotRevision + 1)).map (⟨payload.slotId, ·, h3Timing cycles⟩) ∧
        after = { worker with
          source := some source, slotId := some payload.slotId
          slotRevision := worker.slotRevision + 1
          streamGeneration := some payload.streamGeneration.toNat
          nextCycleIndex := 0, slotState := .ready })
      (fun _ after => after = worker ∨
        worker.slotId = none ∧ ∃ slotState, after = { worker with slotState }) := by
  rw [slotLoad]
  refine leads_read (fun _ _ => ?_) fun _ _ => .inl rfl
  refine leads_read (fun _ free => ?_) fun _ _ => .inl rfl
  rw [refuseWhen_eq_ok, not_or, not_not] at free
  rw [leads_bind, leads_modify, leads_bind, leads_catching, leads_reading]
  refine ⟨fun source read => ?_, fun _ _ => .inr ⟨free.1, _, rfl⟩⟩
  obtain ⟨found, -, loaded⟩ := ok_of_bind ((mapError_eq_ok _ _ _).mp read)
  obtain ⟨cycles, plays⟩ := loadVideoSource_plays loaded
  rw [leads_bind, leads_whenever]
  refine ⟨fun _ => .inr ⟨free.1, _, rfl⟩, fun _ => ?_⟩
  rw [leads_bind, raiseUnless, leads_demand]
  refine ⟨fun _ => ?_, fun _ => .inr ⟨free.1, _, rfl⟩⟩
  rw [leads_bind, leads_modify, leads_reading]
  refine ⟨fun ack answered => ⟨source, cycles, plays, free.1, ?_, rfl⟩, nofun⟩
  rw [← Except.ok.inj answered, plays.timing]
  cases u64 (worker.slotRevision + 1) <;> rfl

/-- A bound ring leaves the slot alone, as does one that could not be bound. -/
theorem ringBind_leads (worker : H3WorkerState) :
    Leads (ringBind calls) worker
      (fun ack after => ack.isSome = true ∧ after.toSlotCursor = worker.toSlotCursor ∧
        after.decoderReady = worker.decoderReady)
      (fun _ after => after.toSlotCursor = worker.toSlotCursor ∧
        after.decoderReady = worker.decoderReady) := by
  simp only [ringBind, leads_bind, leads_reading, leads_modify, leads_whenever, leads_throw,
    leads_pure, Option.isSome_some, and_self, implies_true]

theorem slotReset_leads (payload : SlotReset) (worker : H3WorkerState) :
    Leads (slotReset calls payload) worker
      (fun ack after =>
        ack = some ⟨payload.slotId, payload.slotRevision, payload.newStreamGeneration, 0, 0⟩ ∧
        after.toSlotCursor = { worker.toSlotCursor with
          streamGeneration := some payload.newStreamGeneration.toNat
          nextCycleIndex := 0, slotState := .ready } ∧
        after.decoderReady = worker.decoderReady)
      (fun failure after => failure.Fatal ∨ after = worker) := by
  rw [slotReset]
  refine leads_read (fun _ checked => ?_) fun _ _ => .inr rfl
  rw [H3WorkerState.checkSlot, refuseWhen_eq_ok, not_or, not_not, not_not] at checked
  refine leads_read (fun generation _ => ?_) fun _ _ => .inr rfl
  refine leads_demanded (fun _ => ?_) fun _ => .inr rfl
  refine leads_read (fun _ _ => ?_) fun _ _ => .inr rfl
  refine leads_read (fun _ _ => ?_) fun _ _ => .inr rfl
  refine leads_demanded (fun _ => ?_) fun _ => .inl trivial
  rw [leads_bind, leads_modify]
  refine leads_demanded (fun _ => ?_) fun _ => .inl trivial
  rw [leads_bind, leads_modify]
  refine leads_demanded (fun _ => ?_) fun _ => .inl trivial
  rw [leads_reading]
  refine ⟨fun ack answered => ⟨?_, rfl, rfl⟩, nofun⟩
  rw [← Except.ok.inj answered, ← checked.2, u64_toNat, u64_toNat]
  rfl

theorem decodeCycle_leads (payload : SlotDecodeCycle) {worker : H3WorkerState}
    (ready : worker.decoderReady = true) :
    Leads (decodeCycle calls payload) worker
      (fun ack after => ∃ source cycle published, worker.source = some source ∧
        h3Cycle source.latentSlotCount worker.nextCycleIndex = some cycle ∧
        ack = decodeCycleAck payload.slotId payload.slotRevision.toNat
          payload.streamGeneration.toNat payload.cycleIndex.toNat cycle published ∧
        after.toSlotCursor = { worker.toSlotCursor with
          nextCycleIndex := worker.nextCycleIndex + 1
          slotState := if cycle.endOfStream then .endOfStream else .ready } ∧
        after.decoderReady = true ∧ after.ringState = worker.ringState ∧ after.ring.isSome = true)
      (fun failure after => failure.Fatal ∨ after = worker) := by
  rw [decodeCycle]
  refine leads_read (fun _ checked => ?_) fun _ _ => .inr rfl
  rw [H3WorkerState.checkSlot, refuseWhen_eq_ok, not_or, not_not, not_not] at checked
  refine leads_read (fun generation _ => ?_) fun _ _ => .inr rfl
  refine leads_demanded (fun current => ?_) fun _ => .inr rfl
  refine leads_read (fun _ ordered => ?_) fun _ _ => .inr rfl
  rw [refuseWhen_eq_ok, not_not] at ordered
  refine leads_read (fun source there => ?_) fun _ _ => .inr rfl
  rw [H3WorkerState.requireSource, check_eq_ok, orError_eq_ok] at there
  refine leads_read (fun cycle timed => ?_) fun _ _ => .inr rfl
  rw [orError_eq_ok, ordered] at timed
  refine leads_read (fun _ _ => ?_) fun _ _ => .inr rfl
  refine leads_read (fun room _ => ?_) fun _ _ => .inr rfl
  refine leads_demanded (fun _ => ?_) fun _ => .inr rfl
  have decoder : H3WorkerState.requireDecoder { worker with slotState := .decoding } = .ok () := by
    rw [H3WorkerState.requireDecoder, refuseWhen_eq_ok, ready]
    exact Bool.noConfusion
  rw [leads_bind, leads_modify, leads_bind, leads_catching, leads_bind, leads_reading, decoder]
  refine ⟨fun _ _ => ?_, nofun⟩
  refine leads_demanded (fun _ => ?_) fun _ => .inl rfl
  rw [leads_reading]
  refine ⟨fun published _ => ?_, fun failure other => ?_⟩
  swap
  · rw [← raises_orError rfl failure other]
    exact .inl rfl
  rw [leads_bind, leads_modify, leads_reading]
  refine ⟨fun ack answered => ⟨source, cycle, published, there.2, timed, ?_, rfl, ready, rfl, rfl⟩,
    nofun⟩
  rw [← Except.ok.inj answered, checked.2, current]

/-- What the worker says of a cycle is what a schedule with its timing awaits. -/
theorem decodeCycleAck_awaited {schedule : PlaybackSchedule} {cycles : Nat} {cycle : H3Cycle}
    (timing : schedule.slot.timing = h3Timing cycles) (small : cycles < 2 ^ 40)
    (timed : h3Cycle (2 + 5 * cycles) schedule.nextCycleIndex.toNat = some cycle)
    (published : UInt64 × UInt64) :
    ∃ ack declared, decodeCycleAck schedule.slot.slotId schedule.slot.slotRevision.toNat
        schedule.generation.toNat schedule.nextCycleIndex.toNat cycle published = some ack ∧
      schedule.Awaits ack declared := by
  obtain ⟨inside, last, latent, latents, decoded, frames, declared⟩ :=
    h3Timing_declares small timed
  rw [UInt64.ofNat_toNat, ← timing] at declared
  rw [decodeCycleAck, u64_toNat, u64_toNat, u64_toNat, u64_small latent, u64_small decoded, u32,
    u32, if_pos latents, if_pos frames]
  refine ⟨_, _, rfl, ⟨rfl, rfl⟩, rfl, rfl, declared, ⟨rfl, rfl⟩, ⟨rfl, rfl⟩, ?_⟩
  have count : schedule.slot.timing.cycleCount.toNat = 1 + cycles := by
    rw [timing]
    exact Checked.word_toNat (by omega)
  rw [← count] at inside last
  refine last.trans (decide_eq_decide.mpr ?_)
  rw [← UInt64.toNat_inj, PlaybackSchedule.succ_toNat inside]

/-- The worker and what the host keeps about its slot. -/
structure Session where
  worker : H3WorkerState
  schedule : Option PlaybackSchedule
  /-- The host has ended the session. -/
  isOver : Bool

/-- A worker whose codec has just been loaded. -/
def Session.start : Session where
  worker := {
    source := none, slotId := none, slotRevision := 0, streamGeneration := none
    nextCycleIndex := 0, slotState := .empty, decoderReady := true, ring := none
    ringState := .unbound }
  schedule := none
  isOver := false

inductive Move where
  | load (payload : SlotLoad)
  | bindRing
  | decode
  | reset (reason : ResetReason)
  /-- Sends the pending reset once more. -/
  | retryReset (reason : ResetReason)

/-- What became of a move. -/
inductive Outcome where
  /-- The host had nothing to send. -/
  | idle
  | loaded (slot : SlotLoaded)
  | bound
  | decoded (ack : DecodeCycleAck) (reply : Reply)
  | wasReset (ack : SlotResetAck) (reply : Reply)
  | refused (error : WorkerCommandError)
  | fatal
  /-- The host could not read the acknowledgement. -/
  | unread

/-- The schedule takes a confirmation of its pending reset. -/
theorem perform_confirmed {schedule : PlaybackSchedule} {ack : SlotResetAck}
    (slot : ack.slotId = schedule.slot.slotId ∧ ack.slotRevision = schedule.slot.slotRevision)
    (pending : schedule.pendingResetGeneration = some ack.streamGeneration)
    (next : ack.nextCycleIndex = 0) (ring : ack.ringWriteSequence = 0) :
    schedule.perform (.acceptReset ack) =
      (.resetAccepted, schedule.restarted ack.streamGeneration) := by
  have verified := (PlaybackSchedule.verifyReset_eq_ok ack ack.streamGeneration).mpr
    ⟨slot, pending, rfl, next, ring⟩
  show Reply.settle _ ((reading (·.verifyReset ack) >>= _) schedule) = _
  simp only [bind, EStateM.bind, reading, verified]
  rfl

namespace Session

/-- Sends a command and takes its answer. -/
def sent {α : Type} (session : Session) (command : Act (Option α))
    (take : α → Session → Outcome × Session) : Outcome × Session :=
  match command session.worker with
  | .ok (some ack) worker => take ack { session with worker }
  | .ok none worker => (.unread, { session with worker, isOver := true })
  | .error (.command error) worker =>
      if error.fatal then (.fatal, { session with worker, isOver := true })
      else (.refused error, { session with worker })
  | .error .other worker => (.fatal, { session with worker, isOver := true })

def sendReset (session : Session) (schedule : PlaybackSchedule) (command : SlotReset) :
    Outcome × Session :=
  sent { session with schedule := some schedule } (slotReset calls command) fun ack session =>
    let answered := schedule.perform (.acceptReset ack)
    (.wasReset ack answered.1, { session with schedule := some answered.2 })

/-- One move of the host, with what the calls of the worker answer. -/
def turn (session : Session) (input : Move × Calls) : Outcome × Session :=
  if session.isOver then (.idle, session) else
  match input.1, session.schedule with
  | .load payload, _ => session.sent (slotLoad readCartridge input.2 payload) fun slot session =>
      match PlaybackSchedule.new slot payload.streamGeneration with
      | .ok schedule => (.loaded slot, { session with schedule := some schedule })
      | .error _ => (.loaded slot, { session with isOver := true })
  | .bindRing, _ => session.sent (ringBind input.2) fun _ session => (.bound, session)
  | _, none => (.idle, session)
  | .decode, some schedule =>
      match schedule.nextDecodeCommand with
      | none => (.idle, session)
      | some command => session.sent (decodeCycle input.2 command) fun ack session =>
          let answered := schedule.perform (.acceptDecode ack)
          (.decoded ack answered.1, { session with schedule := some answered.2 })
  | .reset reason, some schedule =>
      match schedule.perform (.beginReset reason) with
      | (.resetCommand command, schedule) => session.sendReset input.2 schedule command
      | _ => (.idle, session)
  | .retryReset reason, some schedule =>
      match schedule.pendingResetGeneration with
      | none => (.idle, session)
      | some newStreamGeneration => session.sendReset input.2 schedule
          { slotId := schedule.slot.slotId, slotRevision := schedule.slot.slotRevision
            newStreamGeneration, reason }

/-- Both sides hold one generation and one next cycle. -/
def Agrees (session : Session) : Prop :=
  ∃ schedule, session.schedule = some schedule ∧
    session.worker.streamGeneration = some schedule.generation.toNat ∧
    session.worker.nextCycleIndex = schedule.nextCycleIndex.toNat

/-- What the host may rely on when a move ends. -/
def Conforms (before : Session) (outcome : Outcome) (after : Session) : Prop :=
  match outcome with
  | .idle | .bound | .fatal => True
  | .unread => False
  | .loaded slot => slot.timing.validate = .ok ()
  | .decoded ack reply => reply = .decodeAccepted ∧ after.Agrees ∧
      ∃ schedule, before.schedule = some schedule ∧ schedule.endOfStream = false ∧
        ack.cycleIndex = schedule.nextCycleIndex ∧
        (ack.endOfStream = true ↔
          ack.cycleIndex.toNat + 1 = schedule.slot.timing.cycleCount.toNat)
  | .wasReset _ reply => reply = .resetAccepted ∧ after.Agrees
  | .refused _ => before.schedule.isSome →
      after.worker.toSlotCursor = before.worker.toSlotCursor

structure Lockstep (cursor : SlotCursor) (schedule : PlaybackSchedule) : Prop where
  plays : ∃ source cycles, cursor.source = some source ∧ source.Plays cycles ∧
    schedule.slot.timing = h3Timing cycles
  slotId : cursor.slotId = some schedule.slot.slotId
  slotRevision : cursor.slotRevision = schedule.slot.slotRevision.toNat
  generation : cursor.streamGeneration = some schedule.generation.toNat
  next : cursor.nextCycleIndex = schedule.nextCycleIndex.toNat

/-- The worker of a session that goes on is where the schedule of the host is. -/
def Sound (session : Session) : Prop :=
  session.isOver = false → session.worker.decoderReady = true ∧
    match session.schedule with
    | none => session.worker.slotId = none ∧ session.worker.slotRevision = 0
    | some schedule => Lockstep session.worker.toSlotCursor schedule

variable {session before : Session} {schedule : PlaybackSchedule}

/-- A move ends in an outcome that conforms, and both sides are where they should be. -/
def Ends (before : Session) (result : Outcome × Session) : Prop :=
  before.Conforms result.1 result.2 ∧ result.2.Sound

theorem ends_sent {α : Type} {command : Act (Option α)} {take : α → Session → Outcome × Session}
    (leads : Leads command session.worker
      (fun ack worker => ∃ value, ack = some value ∧
        before.Ends (take value { session with worker }))
      (fun failure worker => failure.Fatal ∨
        ∀ error, before.Ends (.refused error, { session with worker }))) :
    before.Ends (session.sent command take) := by
  have fatal : ∀ worker, before.Ends (.fatal, { session with worker, isOver := true }) :=
    fun _ => ⟨trivial, Bool.noConfusion⟩
  unfold Leads at leads
  unfold sent
  cases ended : command session.worker with
  | ok ack worker =>
    rw [ended] at leads
    obtain ⟨value, rfl, ends⟩ := leads
    exact ends
  | error failure worker =>
    rw [ended] at leads
    cases failure with
    | other => exact fatal worker
    | command error =>
      dsimp only
      split
      · exact fatal worker
      · rename_i mild
        exact leads.resolve_left mild error

theorem ends_sendReset {command : SlotReset} (ready : before.worker.decoderReady = true)
    (lockstep : Lockstep before.worker.toSlotCursor schedule)
    (slot : command.slotId = schedule.slot.slotId ∧
      command.slotRevision = schedule.slot.slotRevision)
    (pending : schedule.pendingResetGeneration = some command.newStreamGeneration) :
    before.Ends (before.sendReset calls schedule command) := by
  refine ends_sent ((slotReset_leads calls command _).mono (fun ack worker did => ?_)
    (fun failure worker kept => kept.imp_right ?_))
  · obtain ⟨answered, cursor, still⟩ := did
    have after : Lockstep worker.toSlotCursor
        (schedule.restarted command.newStreamGeneration) := by
      rw [cursor]
      exact ⟨lockstep.plays, lockstep.slotId, lockstep.slotRevision, rfl, rfl⟩
    refine ⟨_, answered, ?_⟩
    rw [perform_confirmed slot pending rfl rfl]
    exact ⟨⟨rfl, _, rfl, after.generation, after.next⟩, fun _ => ⟨still.trans ready, after⟩⟩
  · rintro rfl error
    exact ⟨fun _ => rfl, fun _ => ⟨ready, lockstep⟩⟩

/-- The acknowledgement of the cycle that is next is the one the schedule awaits. -/
theorem ends_decode (sound : before.Sound) (there : before.schedule = some schedule)
    (ready : before.worker.decoderReady = true)
    (lockstep : Lockstep before.worker.toSlotCursor schedule) {command : SlotDecodeCycle}
    (next : schedule.nextDecodeCommand = some command) :
    before.Ends (before.sent (decodeCycle calls command) fun ack session =>
      let answered := schedule.perform (.acceptDecode ack)
      (.decoded ack answered.1, { session with schedule := some answered.2 })) := by
  unfold PlaybackSchedule.nextDecodeCommand at next
  split at next
  · exact nomatch next
  rename_i goesOn
  cases next
  refine ends_sent ((decodeCycle_leads calls _ ready).mono (fun ack worker did => ?_)
    (fun failure worker kept => kept.imp_right ?_))
  · obtain ⟨source, cycle, published, found, timed, answered, cursor, still, -⟩ := did
    obtain ⟨_, cycles, same, plays, timing⟩ := lockstep.plays
    cases same.symm.trans found
    rw [lockstep.next, plays.slots] at timed
    obtain ⟨ack, declared, read, awaited⟩ :=
      decodeCycleAck_awaited timing plays.bound timed published
    have inside := PlaybackSchedule.lt_of_expectedCycle awaited.declared
    have after : Lockstep worker.toSlotCursor schedule.advanced := by
      rw [cursor]
      refine ⟨lockstep.plays, lockstep.slotId, lockstep.slotRevision, lockstep.generation, ?_⟩
      exact (congrArg (· + 1) lockstep.next).trans (PlaybackSchedule.succ_toNat inside).symm
    refine ⟨ack, answered.trans read, ?_⟩
    rw [perform_awaited awaited]
    refine ⟨⟨rfl, ⟨_, rfl, after.generation, after.next⟩, schedule, there, ?_, awaited.index, ?_⟩,
      fun _ => ⟨still, after⟩⟩
    · exact Bool.eq_false_of_not_eq_true fun ended => goesOn (.inl ended)
    · rw [awaited.endOfStream, awaited.index, decide_eq_true_iff, ← UInt64.toNat_inj,
        PlaybackSchedule.succ_toNat inside]
  · rintro rfl error
    exact ⟨fun _ => rfl, sound⟩

/-- A session whose slot is empty has no schedule yet. -/
theorem Sound.empty (sound : session.Sound) (running : session.isOver = false)
    (empty : session.worker.slotId = none) :
    session.schedule = none ∧ session.worker.slotRevision = 0 := by
  have cursor := (sound running).2
  cases there : session.schedule with
  | none =>
    rw [there] at cursor
    exact ⟨rfl, cursor.2⟩
  | some schedule =>
    rw [there] at cursor
    exact nomatch cursor.slotId.symm.trans empty

theorem ends_load (sound : session.Sound) (running : session.isOver = false) (payload : SlotLoad) :
    session.Ends (session.sent (slotLoad readCartridge calls payload) fun slot session =>
      match PlaybackSchedule.new slot payload.streamGeneration with
      | .ok schedule => (.loaded slot, { session with schedule := some schedule })
      | .error _ => (.loaded slot, { session with isOver := true })) := by
  have ready := (sound running).1
  refine ends_sent ((slotLoad_leads readCartridge calls payload _).mono
    (fun ack worker did => ?_) (fun failure worker did => .inr fun error => ?_))
  · obtain ⟨source, cycles, plays, empty, rfl, rfl⟩ := did
    rw [(sound.empty running empty).2, u64_small (by decide)]
    refine ⟨_, rfl, ?_⟩
    split
    · rename_i schedule made
      rw [PlaybackSchedule.new, check_eq_ok] at made
      cases made.2
      exact ⟨h3Timing_valid plays.bound, fun _ => ⟨ready, ⟨source, cycles, rfl, plays, rfl⟩, rfl,
        rfl, rfl, rfl⟩⟩
    · exact ⟨h3Timing_valid plays.bound, Bool.noConfusion⟩
  · obtain rfl | ⟨empty, slotState, rfl⟩ := did
    · exact ⟨fun _ => rfl, sound⟩
    · have idle := sound.empty running empty
      refine ⟨fun there => ?_, fun _ => ⟨ready, ?_⟩⟩
      · rw [idle.1] at there
        cases there
      · rw [idle.1]
        exact ⟨empty, idle.2⟩

theorem ends_bind (sound : session.Sound) :
    session.Ends (session.sent (ringBind calls) fun _ session => (.bound, session)) := by
  have kept : ∀ worker, worker.toSlotCursor = session.worker.toSlotCursor →
      worker.decoderReady = session.worker.decoderReady → Sound { session with worker } := by
    intro worker same still running
    refine ⟨still.trans (sound running).1, ?_⟩
    rw [same]
    exact (sound running).2
  refine ends_sent ((ringBind_leads calls _).mono (fun ack worker did => ?_)
    (fun _ worker did => .inr fun _ => ⟨fun _ => did.1, kept worker did.1 did.2⟩))
  obtain ⟨value, rfl⟩ := Option.isSome_iff_exists.mp did.1
  exact ⟨value, rfl, trivial, kept worker did.2.1 did.2.2⟩

theorem ends_turn (sound : session.Sound) (input : Move × Calls) :
    session.Ends (session.turn readCartridge input) := by
  obtain ⟨move, calls⟩ := input
  have idle : session.Ends (.idle, session) := ⟨trivial, sound⟩
  unfold turn
  split
  · exact idle
  rename_i running
  have running := Bool.eq_false_of_not_eq_true running
  obtain ⟨ready, cursor⟩ := sound running
  split
  · exact ends_load readCartridge calls sound running _
  · exact ends_bind calls sound
  · exact idle
  all_goals
    rename_i schedule _ there
    rw [there] at cursor
    split
  · exact idle
  · rename_i next
    exact ends_decode calls sound there ready cursor next
  · rename_i command pending begun
    obtain ⟨other, after, ended, -, -, same, rfl⟩ | ⟨_, _, ended, -⟩ :=
      (PlaybackSchedule.beginReset_leads schedule _).ends
    all_goals
      rw [PlaybackSchedule.perform, ended] at begun
      cases begun
    exact ends_sendReset calls ready
      ⟨cursor.plays, cursor.slotId, cursor.slotRevision, cursor.generation, cursor.next⟩
      ⟨congrArg SlotReset.slotId same, congrArg SlotReset.slotRevision same⟩ rfl
  · exact idle
  · exact idle
  · rename_i generation pending
    exact ends_sendReset calls ready cursor ⟨rfl, rfl⟩ pending

/-- A worker in step with its schedule decodes the next cycle when nothing goes wrong. -/
theorem decodeCycle_answers {worker : H3WorkerState} {source : H3VideoSource} {cycle : H3Cycle}
    (willing : calls.Willing) (ready : worker.decoderReady = true)
    (bound : worker.ringState = .ready ∧ worker.ring.isSome = true)
    (lockstep : Lockstep worker.toSlotCursor schedule) (there : worker.source = some source)
    (timed : h3Cycle source.latentSlotCount schedule.nextCycleIndex.toNat = some cycle) :
    Leads (decodeCycle calls ⟨schedule.slot.slotId, schedule.slot.slotRevision,
      schedule.generation, schedule.nextCycleIndex⟩) worker (fun _ _ => True)
      (fun _ _ => False) := by
  obtain ⟨ring, held⟩ := Option.isSome_iff_exists.mp bound.2
  obtain ⟨published, publishes⟩ := Option.isSome_iff_exists.mp willing.publishes
  have slot : worker.checkSlot schedule.slot.slotId schedule.slot.slotRevision = .ok () := by
    rw [H3WorkerState.checkSlot, refuseWhen_eq_ok, lockstep.slotId, lockstep.slotRevision]
    simp
  have generation : worker.requireGeneration = .ok schedule.generation.toNat := by
    rw [H3WorkerState.requireGeneration, lockstep.generation]
    rfl
  have next : refuseWhen (schedule.nextCycleIndex.toNat ≠ worker.nextCycleIndex)
      (commandError "decode.cycle_out_of_order" "decode cycle is out of order") = .ok () := by
    rw [refuseWhen_eq_ok, not_not]
    exact lockstep.next.symm
  have loaded : worker.requireSource = .ok source := by
    rw [H3WorkerState.requireSource, check_eq_ok, refuseWhen_eq_ok, there, lockstep.slotId]
    exact ⟨nofun, rfl⟩
  have ringed : worker.requireRing = .ok ring := by
    rw [H3WorkerState.requireRing, check_eq_ok, refuseWhen_eq_ok, held]
    exact ⟨not_not.mpr bound.1, rfl⟩
  have decoder : H3WorkerState.requireDecoder { worker with slotState := .decoding } = .ok () := by
    rw [H3WorkerState.requireDecoder, refuseWhen_eq_ok, ready]
    exact Bool.noConfusion
  rw [decodeCycle]
  refine leads_passed slot (leads_passed generation (leads_demanded (fun _ => ?_) (absurd rfl)))
  refine leads_passed next (leads_passed loaded
    (leads_passed ((orError_eq_ok _ _ _).mpr timed) ?_))
  refine leads_passed ringed (leads_passed ((orError_eq_ok _ _ _).mpr (willing.room _)) ?_)
  refine leads_demanded (fun _ => ?_) (absurd rfl)
  rw [leads_bind, leads_modify, leads_bind, leads_catching]
  refine leads_passed decoder (leads_demanded (fun _ => ?_) (absurd willing.decodes))
  rw [publishes]
  simp [orError]

/-- A session that plays: both sides are at a cycle of the clip, and the ring is bound. -/
structure Plays (session : Session) (schedule : PlaybackSchedule) (index : Nat) : Prop where
  sound : session.Sound
  running : session.isOver = false
  there : session.schedule = some schedule
  bound : session.worker.ringState = .ready ∧ session.worker.ring.isSome = true
  atCycle : schedule.AtCycle schedule.slot.timing index

/-- A cycle before the end is decoded when nothing goes wrong. -/
theorem Plays.decodes {index : Nat} (plays : session.Plays schedule index)
    (inside : index < schedule.slot.timing.cycleCount.toNat) (willing : calls.Willing) :
    ∃ ack, (session.turn readCartridge (.decode, calls)).1 = .decoded ack .decodeAccepted ∧
      (session.turn readCartridge (.decode, calls)).2.Plays schedule.advanced (index + 1) := by
  obtain ⟨ready, lockstep⟩ := plays.sound plays.running
  rw [plays.there] at lockstep
  obtain ⟨source, cycles, there, whole, timing⟩ := lockstep.plays
  have next : schedule.nextDecodeCommand = some ⟨schedule.slot.slotId, schedule.slot.slotRevision,
      schedule.generation, schedule.nextCycleIndex⟩ := by
    rw [PlaybackSchedule.nextDecodeCommand, plays.atCycle.ended, plays.atCycle.idle]
    exact if_neg (by simp [Nat.ne_of_lt inside])
  have count : schedule.slot.timing.cycleCount.toNat = 1 + cycles := by
    rw [timing]
    exact Checked.word_toNat (by have := whole.bound; omega)
  obtain ⟨cycle, here⟩ : ∃ cycle, h3Cycle source.latentSlotCount schedule.nextCycleIndex.toNat =
      some cycle := by
    rw [whole.slots, h3Cycle, Archive.cycleCount_of_slots, plays.atCycle.next, if_pos (by omega)]
    exact ⟨_, rfl⟩
  rcases ((decodeCycle_answers calls willing ready plays.bound lockstep there here).and
    (decodeCycle_leads calls _ ready)).ends with ⟨_, worker, ended, -, did⟩ | ⟨_, _, _, never, -⟩
  · obtain ⟨_, other, published, found, again, rfl, cursor, still, kept, held⟩ := did
    cases there.symm.trans found
    rw [lockstep.next, whole.slots] at again
    obtain ⟨ack, declared, read, awaited⟩ :=
      decodeCycleAck_awaited timing whole.bound again published
    have turned : session.turn readCartridge (.decode, calls) = (.decoded ack .decodeAccepted,
        ⟨worker, some schedule.advanced, false⟩) := by
      simp [turn, sent, plays.running, plays.there, next, ended, read, perform_awaited awaited]
    rw [turned]
    refine ⟨ack, rfl, ?_, rfl, rfl, ⟨kept.trans plays.bound.1, held⟩,
      plays.atCycle.advanced awaited⟩
    have sound := (ends_turn readCartridge plays.sound (.decode, calls)).2
    rw [turned] at sound
    exact sound
  · exact never.elim

/-- A session that plays reaches the end of its stream when nothing goes wrong. -/
theorem Plays.finishes {index : Nat} (plays : session.Plays schedule index)
    (inputs : List (Move × Calls)) (willing : ∀ input ∈ inputs, input.1 = .decode ∧ input.2.Willing)
    (rest : index + inputs.length = schedule.slot.timing.cycleCount.toNat) :
    ∃ last, (Run.final (Session.turn readCartridge) session inputs).schedule = some last ∧
      last.endOfStream = true := by
  induction inputs generalizing session schedule index with
  | nil => exact ⟨schedule, plays.there, plays.atCycle.ended.trans (decide_eq_true rest)⟩
  | cons input inputs ih =>
    obtain ⟨move, calls⟩ := input
    rw [List.forall_mem_cons] at willing
    obtain ⟨⟨rfl, answers⟩, later⟩ := willing
    rw [List.length_cons] at rest
    obtain ⟨ack, -, after⟩ := plays.decodes readCartridge calls (by omega) answers
    exact ih after later (show index + 1 + inputs.length = schedule.slot.timing.cycleCount.toNat by omega)

end Session

/-- Whatever the decoder and the ring answer, the worker conforms to the schedule of its host, and
as long as the session goes on both are at the same cycle. -/
theorem worker_conforms (inputs : List (Move × Calls)) :
    (Run.final (Session.turn readCartridge) .start inputs).Sound ∧
      ∀ step ∈ Run.steps (Session.turn readCartridge) .start inputs,
        step.before.Conforms step.output step.after := by
  have begins : Session.start.Sound := fun _ => ⟨rfl, rfl, rfl⟩
  have kept : ∀ (session : Session) input, session.Sound →
      (session.turn readCartridge input).2.Sound :=
    fun _ input sound => (Session.ends_turn readCartridge sound input).2
  exact ⟨(Run.invariant_always Session.Sound kept inputs _ begins).1,
    Run.forall_steps Session.Sound _ kept
      (fun _ input sound => (Session.ends_turn readCartridge sound input).1) inputs _ begins⟩

end LatentDeck.CodecH3
