import LatentDeck.Library.Tiling
import LatentDeck.Playback.Schedule

/-!
# One pass over a clip

The cycles a schedule expects from the first one to the end of the stream. The timing declares each
cycle from two patterns, in exact arithmetic a list of segments of equally spaced ranges; whether
these ranges tile the clip is a condition on the fields of the timing, which the pass meets or
misses with them.
-/

namespace LatentDeck.Playback

open Effect Checked Fallible Tiling

variable (pattern : CyclePattern) (cycleIndex : UInt64)

/-- A pattern serves the cycles from its first one up to an end that fits a word. -/
theorem CyclePattern.serves_eq_true :
    pattern.serves cycleIndex = .ok true ↔
      pattern.firstCycleIndex.toNat ≤ cycleIndex.toNat ∧
        cycleIndex.toNat < pattern.firstCycleIndex.toNat + pattern.cycleCount.toNat ∧
        pattern.firstCycleIndex.toNat + pattern.cycleCount.toNat < 2 ^ 64 := by
  rw [serves]
  split
  · rename_i begun
    rw [UInt64.le_iff_toNat_le] at begun
    rw [bind_eq_ok]
    simp only [okOr_eq_ok, addWord_eq_some]
    constructor
    · rintro ⟨last, sum, inside⟩
      have below : cycleIndex < last := of_decide_eq_true (Except.ok.inj inside)
      rw [UInt64.lt_iff_toNat_lt] at below
      have bound := last.toNat_lt
      omega
    · rintro ⟨-, inside, fits⟩
      refine ⟨pattern.firstCycleIndex + pattern.cycleCount, ?_, ?_⟩
      · rw [UInt64.toNat_add, Nat.mod_eq_of_lt fits]
      · congr 1
        apply decide_eq_true
        rw [UInt64.lt_iff_toNat_lt, UInt64.toNat_add, Nat.mod_eq_of_lt fits]
        exact inside
  · rename_i early
    rw [UInt64.le_iff_toNat_le] at early
    simp only [Except.ok.injEq, Bool.false_eq_true, false_iff]
    omega

/-- A pattern leaves a cycle to others before its first one, and from its end on. -/
theorem CyclePattern.serves_eq_false :
    pattern.serves cycleIndex = .ok false ↔
      cycleIndex.toNat < pattern.firstCycleIndex.toNat ∨
        pattern.firstCycleIndex.toNat + pattern.cycleCount.toNat ≤ cycleIndex.toNat := by
  rw [serves]
  split
  · rename_i begun
    rw [UInt64.le_iff_toNat_le] at begun
    rw [bind_eq_ok]
    simp only [okOr_eq_ok, addWord_eq_some]
    constructor
    · rintro ⟨last, sum, outside⟩
      have above : ¬ cycleIndex < last := of_decide_eq_false (Except.ok.inj outside)
      rw [UInt64.lt_iff_toNat_lt] at above
      omega
    · intro outside
      have fits : pattern.firstCycleIndex.toNat + pattern.cycleCount.toNat < 2 ^ 64 := by
        have bound := cycleIndex.toNat_lt
        omega
      refine ⟨pattern.firstCycleIndex + pattern.cycleCount, ?_, ?_⟩
      · rw [UInt64.toNat_add, Nat.mod_eq_of_lt fits]
      · congr 1
        apply decide_eq_false
        rw [UInt64.lt_iff_toNat_lt, UInt64.toNat_add, Nat.mod_eq_of_lt fits]
        omega
  · rename_i early
    rw [UInt64.le_iff_toNat_le] at early
    simp only [true_iff]
    omega

/-- The initial pattern is taken where it serves, and the steady one where only it does. -/
theorem TimingDescriptor.patternOf_eq_ok (timing : TimingDescriptor) (cycleIndex : UInt64)
    (pattern : CyclePattern) :
    timing.patternOf cycleIndex = .ok pattern ↔
      (timing.initial.serves cycleIndex = .ok true ∧ pattern = timing.initial) ∨
        (timing.initial.serves cycleIndex = .ok false ∧
          timing.steady.serves cycleIndex = .ok true ∧ pattern = timing.steady) := by
  unfold patternOf
  cases timing.initial.serves cycleIndex with
  | error error => simp [bind, Except.bind]
  | ok initial =>
    cases initial with
    | true => simp [bind, Except.bind, pure, Except.pure, eq_comm]
    | false =>
      cases timing.steady.serves cycleIndex with
      | error error => simp [bind, Except.bind]
      | ok steady => cases steady <;> simp [bind, Except.bind, pure, Except.pure, eq_comm]

structure Lane where
  base : Nat
  stride : Nat
  length : Nat

def CyclePattern.latentLane (pattern : CyclePattern) : Lane where
  base := pattern.latentBase.toNat
  stride := pattern.latentStride.toNat
  length := pattern.latentCount.toNat

def CyclePattern.decodedLane (pattern : CyclePattern) : Lane where
  base := pattern.decodedBase.toNat
  stride := pattern.decodedStride.toNat
  length := pattern.decodedCount.toNat

/-- Where a lane starts after a number of strides. -/
def Lane.start (lane : Lane) (strides : Nat) : Nat := lane.base + strides * lane.stride

/-- A pattern gives a cycle the exact ranges of its two lanes, when their starts fit a word. -/
theorem CyclePattern.cycle_eq_ok (cycle : ExpectedCycle) :
    pattern.cycle cycleIndex = .ok cycle ↔
      ∃ strides, cycleIndex.toNat = pattern.firstCycleIndex.toNat + strides ∧
        cycle.latentStart.toNat = pattern.latentLane.start strides ∧
        cycle.decodedStart.toNat = pattern.decodedLane.start strides ∧
        cycle.latentCount = pattern.latentCount ∧ cycle.decodedCount = pattern.decodedCount := by
  unfold CyclePattern.cycle
  simp only [bind_eq_ok, okOr_eq_ok, subWord_eq_some, mulWord_eq_some, addWord_eq_some,
    UInt32.toNat_toUInt64, Lane.start, latentLane, decodedLane]
  constructor
  · rintro ⟨offset, sum, latentOffset, latent, latentStart, latentSum, decodedOffset, decoded,
      decodedStart, decodedSum, same⟩
    cases same
    exact ⟨offset.toNat, sum, by rw [latentSum, latent], by rw [decodedSum, decoded], rfl, rfl⟩
  · rintro ⟨strides, sum, latent, decoded, latentCount, decodedCount⟩
    have latentBound := cycle.latentStart.toNat_lt
    have decodedBound := cycle.decodedStart.toNat_lt
    have indexBound := cycleIndex.toNat_lt
    refine ⟨.ofNat strides, ?_, .ofNat (strides * pattern.latentStride.toNat), ?_,
      cycle.latentStart, ?_, .ofNat (strides * pattern.decodedStride.toNat), ?_,
      cycle.decodedStart, ?_, ?_⟩
    · rw [word_toNat (by omega)]
      exact sum
    · rw [word_toNat (by omega), word_toNat (by omega)]
    · rw [word_toNat (by omega)]
      exact latent
    · rw [word_toNat (by omega), word_toNat (by omega)]
    · rw [word_toNat (by omega)]
      exact decoded
    · rw [← latentCount, ← decodedCount]
      rfl

/-- A run of consecutive cycles of one pattern. -/
structure Segment where
  pattern : CyclePattern
  first : Nat
  count : Nat

/-- The segments of a timing: the steady pattern has the cycles before and after those of the
initial one. -/
def TimingDescriptor.segments (timing : TimingDescriptor) : List Segment :=
  let cycles := timing.cycleCount.toNat
  let begins := min timing.initial.firstCycleIndex.toNat cycles
  let ends := min (timing.initial.firstCycleIndex.toNat + timing.initial.cycleCount.toNat) cycles
  [⟨timing.steady, 0, begins⟩, ⟨timing.initial, begins, ends - begins⟩,
    ⟨timing.steady, ends, cycles - ends⟩]

/-- The pattern of a segment declares all its cycles. -/
def Segment.Served (segment : Segment) : Prop :=
  0 < segment.count →
    segment.pattern.firstCycleIndex.toNat ≤ segment.first ∧
      segment.first + segment.count ≤
        segment.pattern.firstCycleIndex.toNat + segment.pattern.cycleCount.toNat ∧
      segment.pattern.firstCycleIndex.toNat + segment.pattern.cycleCount.toNat < 2 ^ 64

/-- Where the ranges of a segment start in a lane. -/
def Segment.start (segment : Segment) (lane : CyclePattern → Lane) : Nat :=
  (lane segment.pattern).start (segment.first - segment.pattern.firstCycleIndex.toNat)

def Segment.ranges (lane : CyclePattern → Lane) (segment : Segment) : List (Nat × Nat) :=
  (List.range segment.count).map fun index =>
    (segment.start lane + index * (lane segment.pattern).stride, (lane segment.pattern).length)

/-- Each segment starts where the one before it ended, its ranges adjoin if it has several, and the
last one ends at the total. -/
def Adjoining (lane : CyclePattern → Lane) : Nat → List Segment → Nat → Prop
  | position, [], total => total = position
  | position, segment :: segments, total =>
      (0 < segment.count → segment.start lane = position) ∧
        (1 < segment.count → (lane segment.pattern).stride = (lane segment.pattern).length) ∧
        Adjoining lane (position + segment.count * (lane segment.pattern).length) segments total

instance (segment : Segment) : Decidable segment.Served :=
  inferInstanceAs (Decidable (_ → _))

instance (lane : CyclePattern → Lane) (position : Nat) (segments : List Segment) (total : Nat) :
    Decidable (Adjoining lane position segments total) := by
  induction segments generalizing position with
  | nil => exact inferInstanceAs (Decidable (total = position))
  | cons segment segments ih =>
    have := ih (position + segment.count * (lane segment.pattern).length)
    exact inferInstanceAs (Decidable (_ ∧ _))

/-- The patterns of a timing fit together and with the extent of its clip: every cycle is declared,
and in both lanes the segments adjoin from zero up to the clip's total. -/
structure TimingDescriptor.Contiguous (timing : TimingDescriptor) : Prop where
  served : ∀ segment ∈ timing.segments, segment.Served
  latent : Adjoining CyclePattern.latentLane 0 timing.segments timing.latentSlotCount.toNat
  decoded : Adjoining CyclePattern.decodedLane 0 timing.segments timing.decodedFrameCount.toNat

/-- The ranges of segments tile an interval exactly when the segments adjoin. -/
theorem tiles_segments (lane : CyclePattern → Lane) (segments : List Segment)
    (position total : Nat) :
    Tiles position (segments.flatMap (Segment.ranges lane)) total ↔
      Adjoining lane position segments total := by
  induction segments generalizing position with
  | nil => exact eq_comm
  | cons segment segments ih =>
    rw [List.flatMap_cons, tiles_append, Adjoining]
    unfold Segment.ranges
    simp only [tiles_progression]
    constructor
    · rintro ⟨middle, ⟨starts, strides, rfl⟩, rest⟩
      exact ⟨starts, strides, (ih _).mp rest⟩
    · rintro ⟨starts, strides, rest⟩
      exact ⟨_, ⟨starts, strides, rfl⟩, (ih _).mpr rest⟩

section Segments

variable {timing : TimingDescriptor}

/-- The cycles of a timing are those of its segments, in order. -/
theorem map_range_segments {α : Type} (timing : TimingDescriptor) (value : Nat → α) :
    (List.range timing.cycleCount.toNat).map value =
      timing.segments.flatMap fun segment =>
        (List.range segment.count).map fun index => value (segment.first + index) := by
  have split (first second third : Nat) :
      (List.range (first + second + third)).map value =
        (List.range first).map (fun index => value (0 + index)) ++
          ((List.range second).map (fun index => value (first + index)) ++
            (List.range third).map fun index => value (first + second + index)) := by
    simp only [List.range_add, List.map_append, List.map_map, List.append_assoc, Nat.zero_add]
    rfl
  unfold TimingDescriptor.segments
  simp only [List.flatMap_cons, List.flatMap_nil, List.append_nil]
  generalize timing.cycleCount.toNat = cycles
  generalize timing.initial.firstCycleIndex.toNat = first
  generalize timing.initial.cycleCount.toNat = count
  have parts := split (min first cycles) (min (first + count) cycles - min first cycles)
    (cycles - min (first + count) cycles)
  rw [show min first cycles + (min (first + count) cycles - min first cycles) =
    min (first + count) cycles by omega,
    show min (first + count) cycles + (cycles - min (first + count) cycles) = cycles by omega]
    at parts
  exact parts

theorem exists_segment {cycle : Nat} (inside : cycle < timing.cycleCount.toNat) :
    ∃ segment ∈ timing.segments, ∃ index < segment.count, cycle = segment.first + index := by
  have member : cycle ∈ (List.range timing.cycleCount.toNat).map id := by
    rw [List.map_id, List.mem_range]
    exact inside
  rw [map_range_segments, List.mem_flatMap] at member
  obtain ⟨segment, among, found⟩ := member
  obtain ⟨index, below, same⟩ := List.mem_map.mp found
  exact ⟨segment, among, index, List.mem_range.mp below, same.symm⟩

variable {segment : Segment}

theorem segment_inside (among : segment ∈ timing.segments) {index : Nat}
    (below : index < segment.count) : segment.first + index < timing.cycleCount.toNat := by
  have member : segment.first + index ∈ timing.segments.flatMap fun segment =>
      (List.range segment.count).map fun index => id (segment.first + index) :=
    List.mem_flatMap.mpr ⟨segment, among,
      List.mem_map.mpr ⟨index, List.mem_range.mpr below, rfl⟩⟩
  rw [← map_range_segments, List.map_id, List.mem_range] at member
  exact member

/-- A cycle of a segment is declared by the pattern of the segment, or not at all. -/
theorem patternOf_segment (among : segment ∈ timing.segments) (cycleIndex : UInt64)
    (begun : segment.first ≤ cycleIndex.toNat)
    (inside : cycleIndex.toNat < segment.first + segment.count) (pattern : CyclePattern) :
    timing.patternOf cycleIndex = .ok pattern ↔
      segment.pattern.serves cycleIndex = .ok true ∧ pattern = segment.pattern := by
  simp only [TimingDescriptor.patternOf_eq_ok, CyclePattern.serves_eq_true,
    CyclePattern.serves_eq_false]
  simp only [TimingDescriptor.segments, List.mem_cons, List.not_mem_nil, or_false] at among
  rcases among with rfl | rfl | rfl
  · simp only at begun inside ⊢
    have before : cycleIndex.toNat < timing.initial.firstCycleIndex.toNat := by omega
    simp only [before, true_or, true_and, Nat.not_le.mpr before, false_and, false_or]
  · simp only at begun inside ⊢
    constructor
    · rintro (initial | steady)
      · exact initial
      · omega
    · exact Or.inl
  · simp only at begun inside ⊢
    have past : timing.initial.firstCycleIndex.toNat + timing.initial.cycleCount.toNat ≤
        cycleIndex.toNat := by omega
    simp only [past, or_true, true_and, Nat.not_lt.mpr past, false_and, and_false, false_or]

/-- A segment declares its cycles with its own ranges: the converse of what the timing says. -/
theorem expectedCycle_segment (among : segment ∈ timing.segments) (served : segment.Served)
    {index : Nat} (below : index < segment.count) (cycle : ExpectedCycle) :
    timing.expectedCycle (.ofNat (segment.first + index)) = .ok cycle ↔
      (cycle.latentStart.toNat = segment.start CyclePattern.latentLane +
          index * segment.pattern.latentStride.toNat ∧
        cycle.decodedStart.toNat = segment.start CyclePattern.decodedLane +
          index * segment.pattern.decodedStride.toNat) ∧
        cycle.latentCount = segment.pattern.latentCount ∧
        cycle.decodedCount = segment.pattern.decodedCount := by
  have inside := segment_inside among below
  have bound := timing.cycleCount.toNat_lt
  have value : (UInt64.ofNat (segment.first + index)).toNat = segment.first + index :=
    word_toNat (by omega)
  have facts := served (by omega)
  have pattern_iff :=
    patternOf_segment among (.ofNat (segment.first + index)) (by omega) (by omega)
  rw [TimingDescriptor.expectedCycle, check_eq_ok, failIf_eq_ok, UInt64.le_iff_toNat_le, value,
    bind_eq_ok]
  simp only [pattern_iff, CyclePattern.serves_eq_true, value, CyclePattern.cycle_eq_ok]
  have strides : segment.first + index - segment.pattern.firstCycleIndex.toNat =
      segment.first - segment.pattern.firstCycleIndex.toNat + index := by omega
  unfold Segment.start Lane.start
  constructor
  · rintro ⟨-, pattern, ⟨-, rfl⟩, count, sum, latent, decoded, counts⟩
    have same : count = segment.first - segment.pattern.firstCycleIndex.toNat + index := by omega
    rw [latent, decoded, same]
    exact ⟨⟨by rw [Nat.add_mul, Nat.add_assoc]; rfl,
      by rw [Nat.add_mul, Nat.add_assoc]; rfl⟩, counts⟩
  · rintro ⟨⟨latent, decoded⟩, counts⟩
    refine ⟨by omega, segment.pattern, ⟨by omega, rfl⟩,
      segment.first - segment.pattern.firstCycleIndex.toNat + index, by omega, ?_, ?_, counts⟩
    · rw [latent, Nat.add_mul, Nat.add_assoc]
      rfl
    · rw [decoded, Nat.add_mul, Nat.add_assoc]
      rfl

/-- A timing that declares every cycle declares them in segments that are served. -/
theorem served_of_declared (declared : ∀ index < timing.cycleCount.toNat,
      ∃ cycle, timing.expectedCycle (.ofNat index) = .ok cycle) :
    ∀ segment ∈ timing.segments, segment.Served := by
  intro segment among some_cycle
  have serves (index : Nat) (below : index < segment.count) :
      segment.pattern.firstCycleIndex.toNat ≤ segment.first + index ∧
        segment.first + index <
          segment.pattern.firstCycleIndex.toNat + segment.pattern.cycleCount.toNat ∧
        segment.pattern.firstCycleIndex.toNat + segment.pattern.cycleCount.toNat < 2 ^ 64 := by
    have inside := segment_inside among below
    have bound := timing.cycleCount.toNat_lt
    have value : (UInt64.ofNat (segment.first + index)).toNat = segment.first + index :=
      word_toNat (by omega)
    obtain ⟨cycle, found⟩ := declared _ inside
    rw [TimingDescriptor.expectedCycle, check_eq_ok, bind_eq_ok] at found
    obtain ⟨-, pattern, taken, -⟩ := found
    have serving := ((patternOf_segment among _ (by omega) (by omega) pattern).mp taken).1
    rw [CyclePattern.serves_eq_true, value] at serving
    exact serving
  have first := serves 0 some_cycle
  have last := serves (segment.count - 1) (by omega)
  omega

theorem TimingDescriptor.Contiguous.declared (contiguous : timing.Contiguous) {index : Nat}
    (inside : index < timing.cycleCount.toNat) :
    ∃ cycle, timing.expectedCycle (.ofNat index) = .ok cycle := by
  obtain ⟨segment, among, offset, below, rfl⟩ := exists_segment inside
  have ranged (lane : CyclePattern → Lane) {total : UInt64}
      (adjoining : Adjoining lane 0 timing.segments total.toNat) :
      segment.start lane + offset * (lane segment.pattern).stride < 2 ^ 64 := by
    have tiles := (tiles_segments lane timing.segments 0 total.toNat).mpr adjoining
    have member : (segment.start lane + offset * (lane segment.pattern).stride,
        (lane segment.pattern).length) ∈ timing.segments.flatMap (Segment.ranges lane) :=
      List.mem_flatMap.mpr ⟨segment, among,
        List.mem_map.mpr ⟨offset, List.mem_range.mpr below, rfl⟩⟩
    have bounded := (tiles_bound tiles).2 _ member
    have fits := total.toNat_lt
    simp only at bounded
    omega
  have latent := ranged _ contiguous.latent
  have decoded := ranged _ contiguous.decoded
  exact ⟨⟨.ofNat _, segment.pattern.latentCount, .ofNat _, segment.pattern.decodedCount⟩,
    (expectedCycle_segment among (contiguous.served segment among) below _).mpr
      ⟨⟨word_toNat latent, word_toNat decoded⟩, rfl, rfl⟩⟩

/-- The latent slots the timing declares for a cycle. -/
def TimingDescriptor.latentRange (timing : TimingDescriptor) (index : Nat) : Nat × Nat :=
  match timing.expectedCycle (.ofNat index) with
  | .ok cycle => (cycle.latentStart.toNat, cycle.latentCount.toNat)
  | .error _ => (0, 0)

/-- The frames the timing declares for a cycle. -/
def TimingDescriptor.frameRange (timing : TimingDescriptor) (index : Nat) : Nat × Nat :=
  match timing.expectedCycle (.ofNat index) with
  | .ok cycle => (cycle.decodedStart.toNat, cycle.decodedCount.toNat)
  | .error _ => (0, 0)

/-- The ranges of all cycles are, in order, those of the segments. -/
theorem declared_ranges (declared : ∀ index < timing.cycleCount.toNat,
      ∃ cycle, timing.expectedCycle (.ofNat index) = .ok cycle) :
    (List.range timing.cycleCount.toNat).map timing.latentRange =
        timing.segments.flatMap (Segment.ranges CyclePattern.latentLane) ∧
      (List.range timing.cycleCount.toNat).map timing.frameRange =
        timing.segments.flatMap (Segment.ranges CyclePattern.decodedLane) := by
  have served := served_of_declared declared
  have agree (value : Nat → Nat × Nat) (lane : CyclePattern → Lane)
      (same : ∀ segment ∈ timing.segments, ∀ index < segment.count,
        value (segment.first + index) =
          (segment.start lane + index * (lane segment.pattern).stride,
            (lane segment.pattern).length)) :
      (List.range timing.cycleCount.toNat).map value =
        timing.segments.flatMap (Segment.ranges lane) := by
    rw [map_range_segments]
    apply List.flatMap_congr
    intro segment among
    apply List.map_congr_left
    intro index member
    exact same segment among index (List.mem_range.mp member)
  constructor
  · apply agree
    intro segment among index below
    obtain ⟨cycle, found⟩ := declared _ (segment_inside among below)
    have exact_ranges := (expectedCycle_segment among (served segment among) below cycle).mp found
    rw [TimingDescriptor.latentRange, found]
    exact Prod.ext exact_ranges.1.1 (congrArg UInt32.toNat exact_ranges.2.1)
  · apply agree
    intro segment among index below
    obtain ⟨cycle, found⟩ := declared _ (segment_inside among below)
    have exact_ranges := (expectedCycle_segment among (served segment among) below cycle).mp found
    rw [TimingDescriptor.frameRange, found]
    exact Prod.ext exact_ranges.1.2 (congrArg UInt32.toNat exact_ranges.2.2)

theorem TimingDescriptor.Contiguous.tiles (contiguous : timing.Contiguous) :
    Tiles 0 ((List.range timing.cycleCount.toNat).map timing.latentRange)
        timing.latentSlotCount.toNat ∧
      Tiles 0 ((List.range timing.cycleCount.toNat).map timing.frameRange)
        timing.decodedFrameCount.toNat := by
  have ranges := declared_ranges fun _ inside => contiguous.declared inside
  rw [ranges.1, ranges.2]
  exact ⟨(tiles_segments _ _ _ _).mpr contiguous.latent,
    (tiles_segments _ _ _ _).mpr contiguous.decoded⟩

end Segments

/-- The acknowledgement of a decode command whose cycle was decoded as declared. Frames are numbered
in the ring as in the clip. -/
def SlotDecodeCycle.acknowledged (command : SlotDecodeCycle) (cycle : ExpectedCycle)
    (cycleCount : UInt64) : DecodeCycleAck where
  slotId := command.slotId
  slotRevision := command.slotRevision
  streamGeneration := command.streamGeneration
  cycleIndex := command.cycleIndex
  latentStart := cycle.latentStart
  latentCount := cycle.latentCount
  decodedStartFrame := cycle.decodedStart
  decodedFrameCount := cycle.decodedCount
  ringFirstSequence := cycle.decodedStart
  ringLastSequenceExclusive := cycle.decodedStart + cycle.decodedCount.toUInt64
  endOfStream := decide (command.cycleIndex + 1 = cycleCount)

/-- The acknowledgement a schedule expects next. -/
def PlaybackSchedule.expectedAck (schedule : PlaybackSchedule) : Option DecodeCycleAck :=
  match schedule.nextDecodeCommand with
  | none => none
  | some command =>
      match schedule.slot.timing.expectedCycle command.cycleIndex with
      | .error _ => none
      | .ok cycle => some (command.acknowledged cycle schedule.slot.timing.cycleCount)

/-- Decodes cycle after cycle while the schedule expects one, and says where it is left. -/
def PlaybackSchedule.pass : Nat → PlaybackSchedule → List DecodeCycleAck × PlaybackSchedule
  | 0, schedule => ([], schedule)
  | fuel + 1, schedule =>
      match schedule.expectedAck with
      | none => ([], schedule)
      | some ack =>
          let rest := pass fuel (schedule.perform (.acceptDecode ack)).2
          (ack :: rest.1, rest.2)

/-- The latent slots an acknowledged cycle read. -/
def DecodeCycleAck.latentRange (ack : DecodeCycleAck) : Nat × Nat :=
  (ack.latentStart.toNat, ack.latentCount.toNat)

/-- The frames an acknowledged cycle produced. -/
def DecodeCycleAck.frameRange (ack : DecodeCycleAck) : Nat × Nat :=
  (ack.decodedStartFrame.toNat, ack.decodedFrameCount.toNat)

/-- A schedule of a slot with a number of cycles behind it and no reset pending. -/
structure PlaybackSchedule.AtCycle (schedule : PlaybackSchedule) (timing : TimingDescriptor)
    (index : Nat) : Prop where
  timing_eq : schedule.slot.timing = timing
  idle : schedule.pendingResetGeneration = none
  next : schedule.nextCycleIndex.toNat = index
  inside : index ≤ timing.cycleCount.toNat
  ended : schedule.endOfStream = decide (index = timing.cycleCount.toNat)

section Pass

variable {schedule : PlaybackSchedule} {timing : TimingDescriptor} {index : Nat}

theorem atCycle_new {slot : SlotLoaded} {generation : UInt64} (valid : slot.timing.validate = .ok ())
    (started : PlaybackSchedule.new slot generation = .ok schedule) :
    schedule.AtCycle slot.timing 0 := by
  rw [PlaybackSchedule.new, check_eq_ok] at started
  cases started.2
  have cycles := (TimingDescriptor.validate_eq_ok valid).1
  have positive : slot.timing.cycleCount.toNat ≠ 0 := fun zero =>
    cycles (UInt64.toNat_inj.mp zero)
  exact ⟨rfl, rfl, rfl, Nat.zero_le _, (decide_eq_false positive.symm).symm⟩

/-- A schedule expects the acknowledgement of its next cycle when the timing declares it, and
nothing after the last cycle or at a cycle that is not declared. -/
theorem expectedAck_cases (before : schedule.AtCycle timing index) :
    (∃ ack cycle, schedule.expectedAck = some ack ∧
        timing.expectedCycle (.ofNat index) = .ok cycle ∧ schedule.Awaits ack cycle) ∨
      (schedule.expectedAck = none ∧
        (index < timing.cycleCount.toNat →
          ∃ error, timing.expectedCycle (.ofNat index) = .error error)) := by
  have next : UInt64.ofNat index = schedule.nextCycleIndex := by
    rw [← before.next, UInt64.ofNat_toNat]
  have same := before.timing_eq
  subst same
  rw [next, PlaybackSchedule.expectedAck, PlaybackSchedule.nextDecodeCommand, before.ended,
    before.idle]
  by_cases done : index = schedule.slot.timing.cycleCount.toNat
  · right
    rw [if_pos (Or.inl (decide_eq_true done))]
    exact ⟨rfl, fun below => absurd done (Nat.ne_of_lt below)⟩
  · rw [if_neg (by simp [done])]
    simp only
    cases declared : schedule.slot.timing.expectedCycle schedule.nextCycleIndex with
    | error error => exact Or.inr ⟨rfl, fun _ => ⟨error, rfl⟩⟩
    | ok cycle =>
      exact Or.inl ⟨_, cycle, rfl, rfl, ⟨rfl, rfl⟩, rfl, rfl, declared, ⟨rfl, rfl⟩, ⟨rfl, rfl⟩, rfl⟩

variable {ack : DecodeCycleAck}

theorem perform_awaited {cycle : ExpectedCycle} (awaited : schedule.Awaits ack cycle) :
    schedule.perform (.acceptDecode ack) = (.decodeAccepted, schedule.advanced) := by
  rcases (PlaybackSchedule.acceptDecode_leads schedule ack).ends with
    ⟨_, after, ended, accepted⟩ | ⟨_, _, _, refused⟩
  · simp only [PlaybackSchedule.perform, ended, accepted.2, Reply.settle]
  · exact absurd ⟨cycle, awaited⟩ refused.1

theorem PlaybackSchedule.AtCycle.advanced (before : schedule.AtCycle timing index)
    {cycle : ExpectedCycle} (awaited : schedule.Awaits ack cycle) :
    schedule.advanced.AtCycle timing (index + 1) := by
  have below := PlaybackSchedule.lt_of_expectedCycle awaited.declared
  have next := PlaybackSchedule.succ_toNat below
  have same := before.timing_eq
  subst same
  rw [before.next] at below next
  refine ⟨rfl, before.idle, next, below, ?_⟩
  apply decide_eq_decide.mpr
  rw [← UInt64.toNat_inj, next]

/-- What the acknowledgement of a cycle says when the cycle was decoded as declared. -/
structure DecodeCycleAck.Declared (ack : DecodeCycleAck) (timing : TimingDescriptor) (index : Nat) :
    Prop where
  index_eq : ack.cycleIndex.toNat = index
  ranges : timing.expectedCycle (.ofNat index) =
    .ok ⟨ack.latentStart, ack.latentCount, ack.decodedStartFrame, ack.decodedFrameCount⟩
  endOfStream : ack.endOfStream = true ↔ index + 1 = timing.cycleCount.toNat

/-- An awaited acknowledgement says what the timing declares. -/
theorem PlaybackSchedule.AtCycle.declared (before : schedule.AtCycle timing index)
    {cycle : ExpectedCycle} (awaited : schedule.Awaits ack cycle) : ack.Declared timing index := by
  have next : UInt64.ofNat index = schedule.nextCycleIndex := by
    rw [← before.next, UInt64.ofNat_toNat]
  have below := PlaybackSchedule.lt_of_expectedCycle awaited.declared
  have successor := PlaybackSchedule.succ_toNat below
  have same := before.timing_eq
  subst same
  refine ⟨by rw [awaited.index, before.next], ?_, ?_⟩
  · rw [next, awaited.declared, awaited.latent.1, awaited.latent.2, awaited.decoded.1,
      awaited.decoded.2]
  · rw [awaited.endOfStream, decide_eq_true_iff, ← UInt64.toNat_inj, successor, before.next]

/-- A pass acknowledges consecutive declared cycles, and stops early only where nothing more is
expected. The induction is on the fuel. -/
theorem pass_spec (fuel : Nat) :
    ∀ (schedule : PlaybackSchedule) (index : Nat), schedule.AtCycle timing index →
      let acks := (schedule.pass fuel).1
      let final := (schedule.pass fuel).2
      final.AtCycle timing (index + acks.length) ∧
        (acks.length < fuel → final.expectedAck = none) ∧
        ∀ offset (inside : offset < acks.length), acks[offset].Declared timing (index + offset) := by
  induction fuel with
  | zero =>
    intro schedule index before
    exact ⟨before, fun impossible => absurd impossible (Nat.not_lt_zero _),
      fun _ inside => absurd inside (Nat.not_lt_zero _)⟩
  | succ fuel ih =>
    intro schedule index before
    rw [PlaybackSchedule.pass]
    rcases expectedAck_cases before with ⟨ack, cycle, expected, -, awaited⟩ | ⟨expected, -⟩
    · have rest := ih schedule.advanced (index + 1) (before.advanced awaited)
      simp only [expected, perform_awaited awaited, List.length_cons]
      refine ⟨?_, fun early => rest.2.1 (by omega), ?_⟩
      · rw [show index + ((schedule.advanced.pass fuel).1.length + 1) =
          index + 1 + (schedule.advanced.pass fuel).1.length by omega]
        exact rest.1
      · intro offset inside
        cases offset with
        | zero => exact before.declared awaited
        | succ offset =>
          rw [show index + (offset + 1) = index + 1 + offset by omega]
          exact rest.2.2 offset (by omega)
    · simp only [expected]
      exact ⟨before, fun _ => trivial, fun _ inside => absurd inside (Nat.not_lt_zero _)⟩

theorem pass_stable (extra : Nat) :
    ∀ (fuel : Nat) (schedule : PlaybackSchedule), (schedule.pass fuel).2.expectedAck = none →
      schedule.pass (fuel + extra) = schedule.pass fuel := by
  intro fuel
  induction fuel with
  | zero =>
    intro schedule stopped
    cases extra with
    | zero => rfl
    | succ extra =>
      have idle : schedule.expectedAck = none := stopped
      rw [Nat.zero_add]
      unfold PlaybackSchedule.pass
      rw [idle]
  | succ fuel ih =>
    intro schedule stopped
    rw [Nat.succ_add, PlaybackSchedule.pass, PlaybackSchedule.pass]
    rw [PlaybackSchedule.pass] at stopped
    cases expected : schedule.expectedAck with
    | none => rfl
    | some ack =>
      simp only [expected] at stopped ⊢
      rw [ih _ stopped]

variable {acks : List DecodeCycleAck}

/-- A pass that reaches the end of the stream acknowledges the ranges of the segments. -/
theorem pass_ranges (complete : acks.length = timing.cycleCount.toNat)
    (declared : ∀ index (inside : index < acks.length), acks[index].Declared timing index) :
    (∀ segment ∈ timing.segments, segment.Served) ∧
      acks.map DecodeCycleAck.latentRange =
        timing.segments.flatMap (Segment.ranges CyclePattern.latentLane) ∧
      acks.map DecodeCycleAck.frameRange =
        timing.segments.flatMap (Segment.ranges CyclePattern.decodedLane) := by
  have every : ∀ index < timing.cycleCount.toNat,
      ∃ cycle, timing.expectedCycle (.ofNat index) = .ok cycle := fun index inside =>
    ⟨_, (declared index (by omega)).ranges⟩
  have listed (range : DecodeCycleAck → Nat × Nat) (value : Nat → Nat × Nat)
      (agree : ∀ ack index, ack.Declared timing index → range ack = value index) :
      acks.map range = (List.range timing.cycleCount.toNat).map value := by
    apply List.ext_getElem
    · rw [List.length_map, List.length_map, List.length_range, complete]
    · intro index inside _
      rw [List.length_map] at inside
      rw [List.getElem_map, List.getElem_map, List.getElem_range]
      exact agree _ _ (declared index inside)
  have latent := listed DecodeCycleAck.latentRange timing.latentRange fun ack index said => by
    rw [TimingDescriptor.latentRange, said.ranges]
    rfl
  have frames := listed DecodeCycleAck.frameRange timing.frameRange fun ack index said => by
    rw [TimingDescriptor.frameRange, said.ranges]
    rfl
  rw [latent, frames]
  exact ⟨served_of_declared every, declared_ranges every⟩

/-- A pass whose timing declares every cycle reaches the end of the stream. -/
theorem pass_complete {final : PlaybackSchedule} (left : final.AtCycle timing acks.length)
    (stopped : final.expectedAck = none) (declared : ∀ index < timing.cycleCount.toNat,
      ∃ cycle, timing.expectedCycle (.ofNat index) = .ok cycle) :
    acks.length = timing.cycleCount.toNat := by
  rcases expectedAck_cases left with ⟨_, _, expected, -⟩ | ⟨-, undeclared⟩
  · rw [stopped] at expected
    exact nomatch expected
  · by_contra short
    have below : acks.length < timing.cycleCount.toNat := by
      have inside := left.inside
      omega
    obtain ⟨error, refused⟩ := undeclared below
    obtain ⟨cycle, found⟩ := declared _ below
    rw [refused] at found
    exact nomatch found

/-- A pass over a validated clip ends within its cycle count, numbers its acknowledgements from zero
and flags the last only, and reaches the end with ranges that tile the clip exactly when the timing
is contiguous. -/
theorem pass_covers_iff_contiguous (slot : SlotLoaded) (generation : UInt64)
    (schedule : PlaybackSchedule) (valid : slot.timing.validate = .ok ())
    (started : PlaybackSchedule.new slot generation = .ok schedule) :
    let cycles := slot.timing.cycleCount.toNat
    let acks := (schedule.pass cycles).1
    let final := (schedule.pass cycles).2
    final.expectedAck = none ∧ (∀ extra, schedule.pass (cycles + extra) = schedule.pass cycles) ∧
      (∀ index (inside : index < acks.length), acks[index].Declared slot.timing index) ∧
      (slot.timing.Contiguous ↔
        final.endOfStream = true ∧ acks.length = cycles ∧
          Tiles 0 (acks.map DecodeCycleAck.latentRange) slot.timing.latentSlotCount.toNat ∧
          Tiles 0 (acks.map DecodeCycleAck.frameRange) slot.timing.decodedFrameCount.toNat) := by
  intro cycles acks final
  have spec := pass_spec cycles schedule 0 (atCycle_new valid started)
  have left : final.AtCycle slot.timing acks.length := by
    have reached := spec.1
    rwa [Nat.zero_add] at reached
  have declared : ∀ index (inside : index < acks.length),
      acks[index].Declared slot.timing index := by
    intro index inside
    have said := spec.2.2 index inside
    rwa [Nat.zero_add] at said
  have stopped : final.expectedAck = none := by
    by_cases early : acks.length < cycles
    · exact spec.2.1 early
    · have all : acks.length = slot.timing.cycleCount.toNat := by
        have inside := left.inside
        omega
      rcases expectedAck_cases left with ⟨_, _, expected, found, -⟩ | ⟨nothing, -⟩
      · have below := PlaybackSchedule.lt_of_expectedCycle found
        rw [all, UInt64.ofNat_toNat] at below
        exact absurd below (Nat.lt_irrefl _)
      · exact nothing
  refine ⟨stopped, fun extra => pass_stable extra cycles schedule stopped, declared, ?_⟩
  constructor
  · intro contiguous
    have complete := pass_complete left stopped fun _ inside => contiguous.declared inside
    have ranges := pass_ranges complete declared
    refine ⟨?_, complete, ?_, ?_⟩
    · rw [left.ended]
      exact decide_eq_true complete
    · rw [ranges.2.1]
      exact (tiles_segments _ _ _ _).mpr contiguous.latent
    · rw [ranges.2.2]
      exact (tiles_segments _ _ _ _).mpr contiguous.decoded
  · rintro ⟨-, complete, latent, decoded⟩
    have ranges := pass_ranges complete declared
    rw [ranges.2.1] at latent
    rw [ranges.2.2] at decoded
    exact ⟨ranges.1, (tiles_segments _ _ _ _).mp latent, (tiles_segments _ _ _ _).mp decoded⟩

/-- A clip of 32 latent slots and 107 frames: one short initial cycle and six steady ones. -/
def longClip : SlotLoaded where
  slotId := "player-a"
  slotRevision := 9
  timing := {
    frameRateNumerator := 24, frameRateDenominator := 1
    latentSlotCount := 32, decodedFrameCount := 107, cycleCount := 7
    initial := { firstCycleIndex := 0, cycleCount := 1, latentBase := 0, latentStride := 0,
                 latentCount := 2, decodedBase := 0, decodedStride := 0, decodedCount := 5 }
    steady := { firstCycleIndex := 1, cycleCount := 6, latentBase := 2, latentStride := 5,
                latentCount := 5, decodedBase := 5, decodedStride := 17, decodedCount := 17 }
    resetRequiredOnWrap := true, arbitrarySeek := false, maxFramesPerCycle := 17 }

/-- A clip of 33 latent slots under the same patterns, whose last slot no cycle reads. -/
def missedSlotClip : SlotLoaded :=
  { longClip with timing := { longClip.timing with latentSlotCount := 33 } }

def freshSchedule (slot : SlotLoaded) : PlaybackSchedule where
  slot
  generation := 1
  nextCycleIndex := 0
  endOfStream := false
  pendingResetGeneration := none

/-- The pass over the 32-slot clip ends with both extents covered. -/
theorem pass_covers_longClip :
    longClip.timing.Contiguous ∧
      ((freshSchedule longClip).pass 7).2.endOfStream = true ∧
      Tiles 0 (((freshSchedule longClip).pass 7).1.map DecodeCycleAck.latentRange) 32 := by
  have contiguous : longClip.timing.Contiguous := ⟨by decide, by decide, by decide⟩
  have covers := pass_covers_iff_contiguous longClip 1 (freshSchedule longClip) (by decide) rfl
  have covered := covers.2.2.2.mp contiguous
  exact ⟨contiguous, covered.1, covered.2.2.1⟩

/-- A validated timing need not cover its clip: the pass over the 33-slot clip ends one slot
early. -/
theorem validated_pass_misses_slot :
    ¬ ∀ (slot : SlotLoaded) (generation : UInt64) (schedule : PlaybackSchedule),
      slot.timing.validate = .ok () → PlaybackSchedule.new slot generation = .ok schedule →
        let pass := schedule.pass slot.timing.cycleCount.toNat
        pass.2.endOfStream = true ∧
          Tiles 0 (pass.1.map DecodeCycleAck.latentRange) slot.timing.latentSlotCount.toNat ∧
          Tiles 0 (pass.1.map DecodeCycleAck.frameRange) slot.timing.decodedFrameCount.toNat := by
  intro covers
  have covered := covers missedSlotClip 1 (freshSchedule missedSlotClip) (by decide) rfl
  exact absurd covered.2.1 (by decide +kernel)

end Pass

end LatentDeck.Playback
