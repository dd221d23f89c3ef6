import LatentDeck.Library.Effect
import LatentDeck.Library.Run
import LatentDeck.Playback.Timing

/-!
# The playback schedule

One slot's decode and reset cursor. The schedule owns no clock: it says which cycle is decoded next,
and commits an acknowledgement only when it is the one that cycle or the pending reset calls for.
Each operation has one inversion lemma that says everything a successful call checked and changed.
-/

namespace LatentDeck.Playback

open Effect Checked Fallible

inductive ScheduleError where
  | generationZero
  | generationExhausted
  | cycleExhausted
  | resetPending
  | resetNotPending
  | staleSlot
  | staleGeneration (expected actual : UInt64)
  | cycleOutOfOrder (expected actual : UInt64)
  | cycleOutOfRange
  | cadenceMismatch
  | endOfStreamMismatch
  | resetDidNotClearState
  deriving DecidableEq

/-- `Option::ok_or`. -/
def okOr {α : Type} (value : Option α) (error : ScheduleError) : Except ScheduleError α :=
  match value with
  | some value => .ok value
  | none => .error error

@[simp]
theorem okOr_eq_ok {α : Type} (value : Option α) (error : ScheduleError) (result : α) :
    okOr value error = .ok result ↔ value = some result := by
  cases value <;> simp [okOr]

def failIf (condition : Prop) [Decidable condition] (error : ScheduleError) :
    Except ScheduleError Unit :=
  if condition then .error error else .ok ()

@[simp]
theorem failIf_eq_ok (condition : Prop) [Decidable condition] (error : ScheduleError) :
    failIf condition error = .ok () ↔ ¬ condition := by
  rw [failIf, guarded_eq_ok]
  exact and_iff_left rfl

/-- `ExpectedCycle` — the ranges the timing declares for a cycle. -/
structure ExpectedCycle where
  latentStart : UInt64
  latentCount : UInt32
  decodedStart : UInt64
  decodedCount : UInt32

/-- Whether a pattern serves a cycle. The end of the pattern is computed only for a cycle at or
after its beginning. -/
def CyclePattern.serves (pattern : CyclePattern) (cycleIndex : UInt64) :
    Except ScheduleError Bool :=
  if pattern.firstCycleIndex ≤ cycleIndex then do
    let last ← okOr (addWord pattern.firstCycleIndex pattern.cycleCount) .cadenceMismatch
    return decide (cycleIndex < last)
  else .ok false

/-- The ranges of a cycle that a pattern serves. -/
def CyclePattern.cycle (pattern : CyclePattern) (cycleIndex : UInt64) :
    Except ScheduleError ExpectedCycle := do
  let offset ← okOr (subWord cycleIndex pattern.firstCycleIndex) .cadenceMismatch
  let latentOffset ← okOr (mulWord offset pattern.latentStride.toUInt64) .cadenceMismatch
  let latentStart ← okOr (addWord pattern.latentBase latentOffset) .cadenceMismatch
  let decodedOffset ← okOr (mulWord offset pattern.decodedStride.toUInt64) .cadenceMismatch
  let decodedStart ← okOr (addWord pattern.decodedBase decodedOffset) .cadenceMismatch
  return { latentStart, latentCount := pattern.latentCount,
           decodedStart, decodedCount := pattern.decodedCount }

/-- The pattern of a cycle; the initial pattern is looked at first. -/
def TimingDescriptor.patternOf (timing : TimingDescriptor) (cycleIndex : UInt64) :
    Except ScheduleError CyclePattern := do
  let initial ← timing.initial.serves cycleIndex
  if initial then return timing.initial
  let steady ← timing.steady.serves cycleIndex
  if steady then return timing.steady
  .error .cadenceMismatch

/-- `PlaybackSchedule::expected_cycle`, which reads the timing only. -/
def TimingDescriptor.expectedCycle (timing : TimingDescriptor) (cycleIndex : UInt64) :
    Except ScheduleError ExpectedCycle := do
  failIf (timing.cycleCount ≤ cycleIndex) .cycleOutOfRange
  let pattern ← timing.patternOf cycleIndex
  pattern.cycle cycleIndex

structure PlaybackSchedule where
  slot : SlotLoaded
  generation : UInt64
  nextCycleIndex : UInt64
  endOfStream : Bool
  pendingResetGeneration : Option UInt64

/-- A method of the schedule: what it did before it returned an error stays done. -/
abbrev Act := EStateM ScheduleError PlaybackSchedule

namespace PlaybackSchedule

/-- `PlaybackSchedule::new`. -/
def new (slot : SlotLoaded) (generation : UInt64) : Except ScheduleError PlaybackSchedule := do
  failIf (generation = 0) .generationZero
  return { slot, generation, nextCycleIndex := 0, endOfStream := false,
           pendingResetGeneration := none }

/-- `PlaybackSchedule::next_decode_command`. -/
def nextDecodeCommand (schedule : PlaybackSchedule) : Option SlotDecodeCycle :=
  if schedule.endOfStream ∨ schedule.pendingResetGeneration.isSome then none
  else some { slotId := schedule.slot.slotId, slotRevision := schedule.slot.slotRevision,
              streamGeneration := schedule.generation, cycleIndex := schedule.nextCycleIndex }

/-- `PlaybackSchedule::ensure_slot`. -/
def ensureSlot (schedule : PlaybackSchedule) (slotId : String) (slotRevision : UInt64) :
    Except ScheduleError Unit :=
  failIf (slotId ≠ schedule.slot.slotId ∨ slotRevision ≠ schedule.slot.slotRevision) .staleSlot

/-- The checks of `accept_decode`; returns whether the acknowledged cycle is the last. -/
def verifyDecode (schedule : PlaybackSchedule) (ack : DecodeCycleAck) :
    Except ScheduleError Bool := do
  schedule.ensureSlot ack.slotId ack.slotRevision
  failIf (ack.streamGeneration ≠ schedule.generation)
    (.staleGeneration schedule.generation ack.streamGeneration)
  failIf (ack.cycleIndex ≠ schedule.nextCycleIndex)
    (.cycleOutOfOrder schedule.nextCycleIndex ack.cycleIndex)
  let expected ← schedule.slot.timing.expectedCycle ack.cycleIndex
  failIf (ack.latentStart ≠ expected.latentStart ∨ ack.latentCount ≠ expected.latentCount ∨
      ack.decodedStartFrame ≠ expected.decodedStart ∨
      ack.decodedFrameCount ≠ expected.decodedCount)
    .cadenceMismatch
  let expectedEos := decide (ack.cycleIndex + 1 = schedule.slot.timing.cycleCount)
  failIf (ack.endOfStream ≠ expectedEos) .endOfStreamMismatch
  return expectedEos

/-- `PlaybackSchedule::accept_decode`. -/
def acceptDecode (ack : DecodeCycleAck) : Act Unit := do
  let expectedEos ← reading (·.verifyDecode ack)
  let nextCycleIndex ← reading fun schedule =>
    okOr (addWord schedule.nextCycleIndex 1) .cycleExhausted
  modify ({ · with nextCycleIndex })
  modify ({ · with endOfStream := expectedEos })

/-- `PlaybackSchedule::begin_reset`. -/
def beginReset (reason : ResetReason) : Act SlotReset := do
  reading fun schedule => failIf schedule.pendingResetGeneration.isSome .resetPending
  let newGeneration ← reading fun schedule =>
    okOr (addWord schedule.generation 1) .generationExhausted
  modify ({ · with pendingResetGeneration := some newGeneration })
  reading fun schedule => .ok
    { slotId := schedule.slot.slotId, slotRevision := schedule.slot.slotRevision,
      newStreamGeneration := newGeneration, reason }

/-- The checks of `accept_reset`; returns the pending generation. -/
def verifyReset (schedule : PlaybackSchedule) (ack : SlotResetAck) :
    Except ScheduleError UInt64 := do
  schedule.ensureSlot ack.slotId ack.slotRevision
  let expectedGeneration ← okOr schedule.pendingResetGeneration .resetNotPending
  failIf (ack.streamGeneration ≠ expectedGeneration)
    (.staleGeneration expectedGeneration ack.streamGeneration)
  failIf (ack.nextCycleIndex ≠ 0 ∨ ack.ringWriteSequence ≠ 0) .resetDidNotClearState
  return expectedGeneration

/-- `PlaybackSchedule::accept_reset`. -/
def acceptReset (ack : SlotResetAck) : Act Unit := do
  let expectedGeneration ← reading (·.verifyReset ack)
  modify ({ · with generation := expectedGeneration })
  modify ({ · with nextCycleIndex := 0 })
  modify ({ · with endOfStream := false })
  modify ({ · with pendingResetGeneration := none })

end PlaybackSchedule

inductive Call where
  | nextDecodeCommand
  | acceptDecode (ack : DecodeCycleAck)
  | beginReset (reason : ResetReason)
  | acceptReset (ack : SlotResetAck)

inductive Reply where
  | decodeCommand (command : Option SlotDecodeCycle)
  | decodeAccepted
  | resetCommand (command : SlotReset)
  | resetAccepted
  | refused (error : ScheduleError)
  deriving DecidableEq

/-- The reply to a method that ended, and the schedule it left. -/
def Reply.settle {α : Type} (answer : α → Reply) :
    EStateM.Result ScheduleError PlaybackSchedule α → Reply × PlaybackSchedule
  | .ok value schedule => (answer value, schedule)
  | .error error schedule => (.refused error, schedule)

def PlaybackSchedule.perform (schedule : PlaybackSchedule) : Call → Reply × PlaybackSchedule
  | .nextDecodeCommand => (.decodeCommand schedule.nextDecodeCommand, schedule)
  | .acceptDecode ack => Reply.settle (fun _ => .decodeAccepted) (acceptDecode ack schedule)
  | .beginReset reason => Reply.settle .resetCommand (beginReset reason schedule)
  | .acceptReset ack => Reply.settle (fun _ => .resetAccepted) (acceptReset ack schedule)

/-- What an accepted decode acknowledgement agrees with. -/
structure PlaybackSchedule.Awaits (schedule : PlaybackSchedule) (ack : DecodeCycleAck)
    (cycle : ExpectedCycle) : Prop where
  slot : ack.slotId = schedule.slot.slotId ∧ ack.slotRevision = schedule.slot.slotRevision
  generation : ack.streamGeneration = schedule.generation
  index : ack.cycleIndex = schedule.nextCycleIndex
  declared : schedule.slot.timing.expectedCycle schedule.nextCycleIndex = .ok cycle
  latent : ack.latentStart = cycle.latentStart ∧ ack.latentCount = cycle.latentCount
  decoded : ack.decodedStartFrame = cycle.decodedStart ∧
    ack.decodedFrameCount = cycle.decodedCount
  endOfStream :
    ack.endOfStream = decide (schedule.nextCycleIndex + 1 = schedule.slot.timing.cycleCount)

/-- The schedule after an accepted decode acknowledgement. -/
def PlaybackSchedule.advanced (schedule : PlaybackSchedule) : PlaybackSchedule :=
  { schedule with
    nextCycleIndex := schedule.nextCycleIndex + 1
    endOfStream := decide (schedule.nextCycleIndex + 1 = schedule.slot.timing.cycleCount) }

/-- The schedule after an accepted reset acknowledgement. -/
def PlaybackSchedule.restarted (schedule : PlaybackSchedule) (generation : UInt64) :
    PlaybackSchedule :=
  { schedule with generation, nextCycleIndex := 0, endOfStream := false,
                  pendingResetGeneration := none }

namespace PlaybackSchedule

variable {schedule : PlaybackSchedule}

theorem lt_of_expectedCycle {timing : TimingDescriptor} {cycleIndex : UInt64}
    {cycle : ExpectedCycle} (declared : timing.expectedCycle cycleIndex = .ok cycle) :
    cycleIndex.toNat < timing.cycleCount.toNat := by
  rw [TimingDescriptor.expectedCycle, check_eq_ok, failIf_eq_ok,
    UInt64.le_iff_toNat_le] at declared
  omega

theorem succ_toNat {index count : UInt64} (inside : index.toNat < count.toNat) :
    (index + 1).toNat = index.toNat + 1 := by
  have bound := count.toNat_lt
  rw [UInt64.toNat_add, UInt64.toNat_one, Nat.mod_eq_of_lt (by omega)]

/-- The checks of `accept_decode` pass on exactly the awaited acknowledgements. -/
theorem verifyDecode_eq_ok (ack : DecodeCycleAck) (last : Bool) :
    schedule.verifyDecode ack = .ok last ↔
      (∃ cycle, schedule.Awaits ack cycle) ∧
        last = decide (schedule.nextCycleIndex + 1 = schedule.slot.timing.cycleCount) := by
  rw [verifyDecode, ensureSlot, check_eq_ok, check_eq_ok, check_eq_ok, bind_eq_ok]
  simp only [check_eq_ok, failIf_eq_ok, not_or, not_not]
  constructor
  · rintro ⟨slot, generation, index, cycle, declared, ranges, eos, same⟩
    rw [index] at declared eos same
    exact ⟨⟨cycle, slot, generation, index, declared, ⟨ranges.1, ranges.2.1⟩, ranges.2.2, eos⟩,
      (Except.ok.inj same).symm⟩
  · rintro ⟨⟨cycle, awaited⟩, rfl⟩
    rw [awaited.index]
    exact ⟨awaited.slot, awaited.generation, rfl, cycle, awaited.declared,
      ⟨awaited.latent.1, awaited.latent.2, awaited.decoded⟩, awaited.endOfStream, rfl⟩

/-- `accept_decode` commits an awaited acknowledgement, and refuses any other without touching the
schedule. -/
theorem acceptDecode_leads (schedule : PlaybackSchedule) (ack : DecodeCycleAck) :
    Leads (acceptDecode ack) schedule
      (fun _ after => (∃ cycle, schedule.Awaits ack cycle) ∧ after = schedule.advanced)
      (fun _ after => (¬ ∃ cycle, schedule.Awaits ack cycle) ∧ after = schedule) := by
  simp only [acceptDecode, leads_bind, leads_reading, leads_modify, okOr_eq_ok]
  constructor
  · intro last verified
    obtain ⟨⟨cycle, awaited⟩, flagged⟩ := (verifyDecode_eq_ok ack last).mp verified
    have next : addWord schedule.nextCycleIndex 1 = some (schedule.nextCycleIndex + 1) := by
      rw [addWord_eq_some, succ_toNat (lt_of_expectedCycle awaited.declared), UInt64.toNat_one]
    rw [next]
    constructor
    · intro index same
      cases same
      exact ⟨⟨cycle, awaited⟩, by rw [advanced, flagged]⟩
    · exact fun error refused => by cases refused
  · intro error refused
    refine ⟨fun awaited => ?_, trivial⟩
    have passed := (verifyDecode_eq_ok ack _).mpr ⟨awaited, rfl⟩
    rw [refused] at passed
    cases passed

/-- `begin_reset` makes the successor generation pending when none is, and refuses otherwise
without touching the schedule. -/
theorem beginReset_leads (schedule : PlaybackSchedule) (reason : ResetReason) :
    Leads (beginReset reason) schedule
      (fun command after => schedule.pendingResetGeneration = none ∧
        command.newStreamGeneration.toNat = schedule.generation.toNat + 1 ∧
        command = { slotId := schedule.slot.slotId, slotRevision := schedule.slot.slotRevision,
                    newStreamGeneration := command.newStreamGeneration, reason } ∧
        after = { schedule with pendingResetGeneration := some command.newStreamGeneration })
      (fun _ after => after = schedule) := by
  simp only [beginReset, leads_bind, leads_reading, leads_modify, okOr_eq_ok]
  constructor
  · intro _ passed
    have idle := Option.not_isSome_iff_eq_none.mp ((failIf_eq_ok _ _).mp passed)
    constructor
    · intro generation next
      have successor := (addWord_eq_some _ _ _).mp next
      constructor
      · intro command same
        cases same
        exact ⟨idle, successor, rfl, rfl⟩
      · exact fun error refused => by cases refused
    · exact fun _ _ => trivial
  · exact fun _ _ => trivial

/-- The checks of `accept_reset` pass on exactly the acknowledgements of the pending reset. -/
theorem verifyReset_eq_ok (ack : SlotResetAck) (generation : UInt64) :
    schedule.verifyReset ack = .ok generation ↔
      (ack.slotId = schedule.slot.slotId ∧ ack.slotRevision = schedule.slot.slotRevision) ∧
        schedule.pendingResetGeneration = some generation ∧ ack.streamGeneration = generation ∧
        ack.nextCycleIndex = 0 ∧ ack.ringWriteSequence = 0 := by
  rw [verifyReset, ensureSlot, check_eq_ok, bind_eq_ok]
  simp only [check_eq_ok, failIf_eq_ok, okOr_eq_ok, not_or, not_not]
  constructor
  · rintro ⟨slot, expected, pending, same, cleared, returned⟩
    cases returned
    exact ⟨slot, pending, same, cleared⟩
  · rintro ⟨slot, pending, same, cleared⟩
    exact ⟨slot, generation, pending, same, cleared, rfl⟩

/-- `accept_reset` restarts the schedule in the pending generation that the acknowledgement
confirms, and refuses any other without touching the schedule. -/
theorem acceptReset_leads (schedule : PlaybackSchedule) (ack : SlotResetAck) :
    Leads (acceptReset ack) schedule
      (fun _ after => schedule.pendingResetGeneration = some ack.streamGeneration ∧
        ack.slotId = schedule.slot.slotId ∧ ack.slotRevision = schedule.slot.slotRevision ∧
        ack.nextCycleIndex = 0 ∧ ack.ringWriteSequence = 0 ∧
        after = schedule.restarted ack.streamGeneration)
      (fun _ after => after = schedule) := by
  simp only [acceptReset, leads_bind, leads_reading, leads_modify]
  constructor
  · intro generation verified
    obtain ⟨slot, pending, rfl, next, ring⟩ := (verifyReset_eq_ok ack generation).mp verified
    exact ⟨pending, slot.1, slot.2, next, ring, rfl⟩
  · exact fun _ _ => trivial

end PlaybackSchedule

end LatentDeck.Playback
