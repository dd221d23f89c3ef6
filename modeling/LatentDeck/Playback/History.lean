import LatentDeck.Playback.Coverage

/-!
# Runs of the schedule

What holds of a schedule under any interleaving of its methods with any acknowledgements: which
generations and cycle indices are accepted, what their ranges are, and that a refused call changes
nothing.
-/

namespace LatentDeck.Playback

open Effect Checked Run Tiling

/-- Everything a call may answer, with the schedule it leaves. -/
inductive PlaybackSchedule.Effect (schedule : PlaybackSchedule) :
    Call → Reply → PlaybackSchedule → Prop where
  | asked : Effect schedule .nextDecodeCommand (.decodeCommand schedule.nextDecodeCommand) schedule
  | decoded (ack : DecodeCycleAck) (cycle : ExpectedCycle) (awaited : schedule.Awaits ack cycle) :
      Effect schedule (.acceptDecode ack) .decodeAccepted schedule.advanced
  | resetBegun (reason : ResetReason) (command : SlotReset)
      (idle : schedule.pendingResetGeneration = none)
      (successor : command.newStreamGeneration.toNat = schedule.generation.toNat + 1) :
      Effect schedule (.beginReset reason) (.resetCommand command)
        { schedule with pendingResetGeneration := some command.newStreamGeneration }
  | resetDone (ack : SlotResetAck)
      (pending : schedule.pendingResetGeneration = some ack.streamGeneration) :
      Effect schedule (.acceptReset ack) .resetAccepted (schedule.restarted ack.streamGeneration)
  | refused (call : Call) (error : ScheduleError) : Effect schedule call (.refused error) schedule

theorem perform_effect (schedule : PlaybackSchedule) (call : Call) :
    schedule.Effect call (schedule.perform call).1 (schedule.perform call).2 := by
  cases call with
  | nextDecodeCommand => exact .asked
  | acceptDecode ack =>
    rcases (PlaybackSchedule.acceptDecode_leads schedule ack).ends with
      ⟨_, after, ended, ⟨cycle, awaited⟩, rfl⟩ | ⟨error, after, ended, -, rfl⟩
    · simp only [PlaybackSchedule.perform, ended, Reply.settle]
      exact .decoded ack cycle awaited
    · simp only [PlaybackSchedule.perform, ended, Reply.settle]
      exact .refused _ error
  | beginReset reason =>
    rcases (PlaybackSchedule.beginReset_leads schedule reason).ends with
      ⟨command, after, ended, idle, successor, -, rfl⟩ | ⟨error, after, ended, rfl⟩
    · simp only [PlaybackSchedule.perform, ended, Reply.settle]
      exact .resetBegun reason command idle successor
    · simp only [PlaybackSchedule.perform, ended, Reply.settle]
      exact .refused _ error
  | acceptReset ack =>
    rcases (PlaybackSchedule.acceptReset_leads schedule ack).ends with
      ⟨_, after, ended, pending, -, -, -, -, rfl⟩ | ⟨error, after, ended, rfl⟩
    · simp only [PlaybackSchedule.perform, ended, Reply.settle]
      exact .resetDone ack pending
    · simp only [PlaybackSchedule.perform, ended, Reply.settle]
      exact .refused _ error

/-- What every reachable schedule of a slot satisfies. -/
structure PlaybackSchedule.Coherent (slot : SlotLoaded) (schedule : PlaybackSchedule) : Prop where
  slot_eq : schedule.slot = slot
  pending : ∀ generation, schedule.pendingResetGeneration = some generation →
    generation.toNat = schedule.generation.toNat + 1
  ended : schedule.endOfStream = true → schedule.nextCycleIndex = slot.timing.cycleCount

variable {slot : SlotLoaded} {schedule : PlaybackSchedule} {generation : UInt64}

theorem coherent_new (started : PlaybackSchedule.new slot generation = .ok schedule) :
    schedule.Coherent slot := by
  rw [PlaybackSchedule.new, Fallible.check_eq_ok] at started
  cases started.2
  exact ⟨rfl, by rintro _ ⟨⟩, by rintro ⟨⟩⟩

theorem PlaybackSchedule.Coherent.preserved (coherent : schedule.Coherent slot) {call : Call}
    {reply : Reply} {after : PlaybackSchedule} (effect : schedule.Effect call reply after) :
    after.Coherent slot := by
  cases effect with
  | asked => exact coherent
  | decoded ack cycle awaited =>
    refine ⟨coherent.slot_eq, coherent.pending, fun ended => ?_⟩
    have last := of_decide_eq_true ended
    rwa [coherent.slot_eq] at last
  | resetBegun reason command idle successor =>
    refine ⟨coherent.slot_eq, fun generation pending => ?_, coherent.ended⟩
    cases pending
    exact successor
  | resetDone ack pending =>
    exact ⟨coherent.slot_eq, nofun, nofun⟩
  | refused call error => exact coherent

/-- What holds of one call on a coherent schedule: the generation moves only to the pending one and
upwards, what is issued or accepted comes before the end of the stream and as declared, and a
refusal changes nothing. -/
structure Orderly (slot : SlotLoaded) (step : Step PlaybackSchedule Call Reply) : Prop where
  generation_le : step.before.generation ≤ step.after.generation
  generation_change : step.after.generation ≠ step.before.generation →
    ∃ ack, step.input = .acceptReset ack ∧ step.output = .resetAccepted ∧
      step.before.pendingResetGeneration = some ack.streamGeneration ∧
      step.after.generation = ack.streamGeneration
  reset : ∀ ack, step.input = .acceptReset ack → step.output = .resetAccepted →
    step.before.generation < ack.streamGeneration ∧ step.after.generation = ack.streamGeneration ∧
      step.after.nextCycleIndex = 0
  command : ∀ command, step.output = .decodeCommand (some command) →
    step.before.endOfStream = false ∧ step.before.pendingResetGeneration = none ∧
      command.streamGeneration = step.before.generation ∧
      command.cycleIndex = step.before.nextCycleIndex
  /-- An acknowledgement is accepted before the end of the stream, in the active generation, for the
  next cycle, with the ranges the timing declares. -/
  accepted : ∀ ack, step.input = .acceptDecode ack → step.output = .decodeAccepted →
    step.before.endOfStream = false ∧ ack.streamGeneration = step.before.generation ∧
      ack.cycleIndex = step.before.nextCycleIndex ∧
      slot.timing.expectedCycle ack.cycleIndex =
        .ok ⟨ack.latentStart, ack.latentCount, ack.decodedStartFrame, ack.decodedFrameCount⟩
  /-- The stream ends when an acknowledgement says so, which the last cycle has to. -/
  ended : ∀ ack, step.input = .acceptDecode ack → step.output = .decodeAccepted →
    step.after.endOfStream = ack.endOfStream ∧
      (ack.endOfStream = true ↔ ack.cycleIndex + 1 = slot.timing.cycleCount)
  refused : ∀ error, step.output = .refused error → step.after = step.before

/-- Every call on a coherent schedule is orderly. The cases are the effects a call may have. -/
theorem orderly_step (coherent : schedule.Coherent slot) (call : Call) :
    Orderly slot (stepOf PlaybackSchedule.perform schedule call) := by
  have effect := perform_effect schedule call
  unfold stepOf
  generalize (schedule.perform call).1 = reply at effect
  generalize (schedule.perform call).2 = after at effect
  cases effect with
  | asked =>
    refine ⟨UInt64.le_refl _, fun changed => absurd rfl changed, nofun, ?_, nofun, nofun, nofun⟩
    intro command issued
    have asked := Reply.decodeCommand.inj issued
    unfold PlaybackSchedule.nextDecodeCommand at asked
    split at asked
    · exact nomatch asked
    · rename_i open_stream
      cases asked
      rw [not_or] at open_stream
      exact ⟨Bool.eq_false_iff.mpr open_stream.1,
        Option.not_isSome_iff_eq_none.mp open_stream.2, rfl, rfl⟩
  | decoded ack cycle awaited =>
    refine ⟨UInt64.le_refl _, fun changed => absurd rfl changed, nofun, nofun, ?_, ?_, nofun⟩
    · intro accepted same _
      cases same
      have declared := awaited.declared
      have below := PlaybackSchedule.lt_of_expectedCycle declared
      refine ⟨?_, awaited.generation, awaited.index, ?_⟩
      · rw [Bool.eq_false_iff]
        intro spent
        rw [coherent.slot_eq, coherent.ended spent] at below
        exact Nat.lt_irrefl _ below
      · rw [awaited.index, ← coherent.slot_eq, declared, awaited.latent.1, awaited.latent.2,
          awaited.decoded.1, awaited.decoded.2]
    · intro accepted same _
      cases same
      rw [awaited.endOfStream, awaited.index, ← coherent.slot_eq, decide_eq_true_eq]
      exact ⟨rfl, Iff.rfl⟩
  | resetBegun reason command idle successor =>
    exact ⟨UInt64.le_refl _, fun changed => absurd rfl changed, nofun, nofun, nofun, nofun, nofun⟩
  | resetDone ack pending =>
    have newer := coherent.pending _ pending
    have above : schedule.generation < ack.streamGeneration := by
      rw [UInt64.lt_iff_toNat_lt]
      omega
    refine ⟨UInt64.le_of_lt above, fun _ => ⟨ack, rfl, rfl, pending, rfl⟩, ?_, nofun, nofun, nofun,
      nofun⟩
    intro confirmed same _
    cases same
    exact ⟨above, rfl, rfl⟩
  | refused call error =>
    exact ⟨UInt64.le_refl _, fun changed => absurd rfl changed, nofun, nofun, nofun, nofun,
      fun _ _ => rfl⟩

/-- The acknowledgement a step accepted, when its schedule was in a generation. -/
def acceptedIn (generation : UInt64) (step : Step PlaybackSchedule Call Reply) :
    Option DecodeCycleAck :=
  match step.input, step.output with
  | .acceptDecode ack, .decodeAccepted =>
      if step.before.generation = generation then some ack else none
  | _, _ => none

/-- The acknowledgements a run accepted in a generation, in order. -/
def acceptedAcks (generation : UInt64) (run : List (Step PlaybackSchedule Call Reply)) :
    List DecodeCycleAck :=
  run.filterMap (acceptedIn generation)

/-- Where the accepted cycles of a generation begin when a schedule starts a run. -/
def PlaybackSchedule.firstCycle (schedule : PlaybackSchedule) (generation : UInt64) : Nat :=
  if schedule.generation = generation then schedule.nextCycleIndex.toNat else 0

theorem firstCycle_active (active : schedule.generation = generation) :
    schedule.firstCycle generation = schedule.nextCycleIndex.toNat := if_pos active

theorem firstCycle_other (other : schedule.generation ≠ generation) :
    schedule.firstCycle generation = 0 := if_neg other

/-- A run accepts consecutive cycles in each generation from the active one on, and none in an
earlier one. The induction is on the calls: an accepted cycle is the next one, and a confirmed reset
moves to a newer generation that starts at zero. -/
theorem acceptedAcks_consecutive (generation : UInt64) (calls : List Call) :
    ∀ schedule : PlaybackSchedule, schedule.Coherent slot →
      let acks := acceptedAcks generation (steps PlaybackSchedule.perform schedule calls)
      (generation < schedule.generation → acks = []) ∧
        acks.map (·.cycleIndex.toNat) =
          List.range' (schedule.firstCycle generation) acks.length := by
  induction calls with
  | nil => exact fun schedule _ => ⟨fun _ => rfl, rfl⟩
  | cons call calls ih =>
    intro schedule coherent
    have effect := perform_effect schedule call
    have next := ih _ (coherent.preserved effect)
    rw [steps, acceptedAcks, List.filterMap_cons]
    unfold stepOf
    generalize (schedule.perform call).1 = reply at effect next
    generalize (schedule.perform call).2 = after at effect next
    cases effect with
    | asked => exact next
    | decoded ack cycle awaited =>
      have below := PlaybackSchedule.lt_of_expectedCycle awaited.declared
      have successor : schedule.advanced.nextCycleIndex.toNat =
          schedule.nextCycleIndex.toNat + 1 := PlaybackSchedule.succ_toNat below
      by_cases active : schedule.generation = generation
      · have found : acceptedIn generation ⟨schedule, .acceptDecode ack, .decodeAccepted,
            schedule.advanced⟩ = some ack := if_pos active
        have rest := next.2
        rw [firstCycle_active (show schedule.advanced.generation = generation from active),
          successor] at rest
        simp only [found, firstCycle_active active, List.map_cons, List.length_cons,
          List.range'_succ, awaited.index]
        exact ⟨fun earlier => absurd earlier (active ▸ UInt64.lt_irrefl _), congrArg _ rest⟩
      · have skipped : acceptedIn generation ⟨schedule, .acceptDecode ack, .decodeAccepted,
            schedule.advanced⟩ = none := if_neg active
        have rest := next
        rw [firstCycle_other (show schedule.advanced.generation ≠ generation from active)] at rest
        rw [skipped, firstCycle_other active]
        exact rest
    | resetBegun reason command idle successor => exact next
    | resetDone ack pending =>
      have newer := coherent.pending _ pending
      have above : schedule.generation < ack.streamGeneration := by
        rw [UInt64.lt_iff_toNat_lt]
        omega
      have earlier : generation < ack.streamGeneration → acceptedAcks generation
          (steps PlaybackSchedule.perform (schedule.restarted ack.streamGeneration) calls) = [] :=
        next.1
      refine ⟨fun before => earlier (UInt64.lt_trans before above), ?_⟩
      by_cases active : schedule.generation = generation
      · rw [active] at above
        have empty := earlier above
        unfold acceptedAcks at empty
        simp only [acceptedIn]
        rw [empty]
        rfl
      · have rest := next.2
        have restarts : (schedule.restarted ack.streamGeneration).firstCycle generation = 0 := by
          by_cases renewed : ack.streamGeneration = generation
          · exact firstCycle_active renewed
          · exact firstCycle_other renewed
        rw [restarts] at rest
        rw [firstCycle_other active]
        exact rest
    | refused call error =>
      have unaccepted : acceptedIn generation
          { before := schedule, input := call, output := .refused error, after := schedule } =
            none := by
        cases call <;> rfl
      rw [unaccepted]
      exact next

theorem mem_acceptedAcks {run : List (Step PlaybackSchedule Call Reply)} {ack : DecodeCycleAck}
    (member : ack ∈ acceptedAcks generation run) :
    ∃ step ∈ run, step.input = .acceptDecode ack ∧ step.output = .decodeAccepted := by
  obtain ⟨step, among, found⟩ := List.mem_filterMap.mp member
  unfold acceptedIn at found
  split at found
  · rename_i accepted input output
    split at found
    · cases found
      exact ⟨step, among, input, output⟩
    · exact nomatch found
  · exact nomatch found

theorem TimingDescriptor.Contiguous.adjoin {timing : TimingDescriptor}
    (contiguous : timing.Contiguous) (index : Nat) (inside : index + 1 < timing.cycleCount.toNat) :
    (timing.latentRange (index + 1)).1 =
        (timing.latentRange index).1 + (timing.latentRange index).2 ∧
      (timing.frameRange (index + 1)).1 =
        (timing.frameRange index).1 + (timing.frameRange index).2 := by
  have latent := tiles_adjoin contiguous.tiles.1 index
  have frames := tiles_adjoin contiguous.tiles.2 index
  simp only [List.length_map, List.length_range, List.getElem_map, List.getElem_range]
    at latent frames
  exact ⟨latent inside, frames inside⟩

/-- Under any calls and acknowledgements every step is orderly, the accepted cycles of a generation
are numbered from zero without gap or repeat, and with a contiguous timing each accepted range
starts where the one before it ended. -/
theorem schedule_runs_orderly (slot : SlotLoaded) (generation : UInt64)
    (schedule : PlaybackSchedule) (started : PlaybackSchedule.new slot generation = .ok schedule)
    (calls : List Call) :
    let run := steps PlaybackSchedule.perform schedule calls
    (∀ step ∈ run, Orderly slot step) ∧
      ∀ generation,
        let acks := acceptedAcks generation run
        acks.map (·.cycleIndex.toNat) = List.range acks.length ∧
          (slot.timing.Contiguous → ∀ index (inside : index + 1 < acks.length),
            acks[index + 1].latentRange.1 =
                acks[index].latentRange.1 + acks[index].latentRange.2 ∧
              acks[index + 1].frameRange.1 =
                acks[index].frameRange.1 + acks[index].frameRange.2) := by
  intro run
  have coherent := coherent_new started
  have orderly : ∀ step ∈ run, Orderly slot step :=
    forall_steps (PlaybackSchedule.Coherent slot) (Orderly slot)
      (fun _ call held => held.preserved (perform_effect _ call))
      (fun _ call held => orderly_step held call) calls schedule coherent
  refine ⟨orderly, fun active => ?_⟩
  intro acks
  have numbered : acks.map (·.cycleIndex.toNat) = List.range acks.length := by
    have consecutive := (acceptedAcks_consecutive active calls schedule coherent).2
    have first : schedule.firstCycle active = 0 := by
      rw [PlaybackSchedule.new, Fallible.check_eq_ok] at started
      cases started.2
      exact ite_self 0
    rw [first, ← List.range_eq_range'] at consecutive
    exact consecutive
  refine ⟨numbered, fun contiguous index inside => ?_⟩
  have declared (position : Nat) (within : position < acks.length) :
      position < slot.timing.cycleCount.toNat ∧
        acks[position].latentRange = slot.timing.latentRange position ∧
        acks[position].frameRange = slot.timing.frameRange position := by
    have same : acks[position].cycleIndex.toNat = position := by
      have entry := congrArg (fun values => values[position]?) numbered
      simpa [within] using entry
    obtain ⟨step, among, input, output⟩ :=
      mem_acceptedAcks (List.getElem_mem within : acks[position] ∈ acks)
    have ranges := ((orderly step among).accepted _ input output).2.2.2
    have word : UInt64.ofNat position = acks[position].cycleIndex :=
      (congrArg UInt64.ofNat same).symm.trans UInt64.ofNat_toNat
    have below := PlaybackSchedule.lt_of_expectedCycle ranges
    refine ⟨by omega, ?_, ?_⟩
    · rw [TimingDescriptor.latentRange, word, ranges]
      rfl
    · rw [TimingDescriptor.frameRange, word, ranges]
      rfl
  have here := declared index (by omega)
  have next := declared (index + 1) inside
  rw [here.2.1, here.2.2, next.2.1, next.2.2]
  exact contiguous.adjoin index next.1

/-- The acknowledgement of a cycle of a clip in generation one, with the declared ranges. -/
def declaredAck (slot : SlotLoaded) (index : UInt64) : DecodeCycleAck where
  slotId := slot.slotId
  slotRevision := slot.slotRevision
  streamGeneration := 1
  cycleIndex := index
  latentStart := .ofNat (slot.timing.latentRange index.toNat).1
  latentCount := .ofNat (slot.timing.latentRange index.toNat).2
  decodedStartFrame := .ofNat (slot.timing.frameRange index.toNat).1
  decodedFrameCount := .ofNat (slot.timing.frameRange index.toNat).2
  ringFirstSequence := 0
  ringLastSequenceExclusive := 5
  endOfStream := decide (index + 1 = slot.timing.cycleCount)

/-- The runs of the 32-slot clip are orderly, here one that decodes a cycle. -/
theorem longClip_run_orderly :
    PlaybackSchedule.new longClip 1 = .ok (freshSchedule longClip) ∧
      ∀ step ∈ steps PlaybackSchedule.perform (freshSchedule longClip)
          [.nextDecodeCommand, .acceptDecode (declaredAck longClip 0), .beginReset .restart],
        Orderly longClip step :=
  ⟨rfl, (schedule_runs_orderly longClip 1 (freshSchedule longClip) rfl _).1⟩

/-- A clip whose steady cycles leave a latent slot out after the initial one. -/
def gapClip : SlotLoaded :=
  { longClip with timing := { longClip.timing with
      steady := { longClip.timing.steady with latentBase := 3 } } }

/-- An acknowledgement of the active generation is accepted while a reset is pending, and two
accepted cycles need not adjoin. -/
theorem accepted_while_pending_or_apart :
    (¬ ∀ (slot : SlotLoaded) (generation : UInt64) (schedule : PlaybackSchedule)
        (calls : List Call), PlaybackSchedule.new slot generation = .ok schedule →
          ∀ step ∈ steps PlaybackSchedule.perform schedule calls,
            step.output = .decodeAccepted → step.before.pendingResetGeneration = none) ∧
      ¬ ∀ (slot : SlotLoaded) (generation : UInt64) (schedule : PlaybackSchedule)
        (first second : DecodeCycleAck), PlaybackSchedule.new slot generation = .ok schedule →
          acceptedAcks generation (steps PlaybackSchedule.perform schedule
              [.acceptDecode first, .acceptDecode second]) = [first, second] →
            second.latentRange.1 = first.latentRange.1 + first.latentRange.2 := by
  constructor
  · intro refused
    have pending := refused longClip 1 (freshSchedule longClip)
      [.beginReset .restart, .acceptDecode (declaredAck longClip 0)] rfl
    simp only [steps, List.forall_mem_cons] at pending
    exact absurd (pending.2.1 (by decide +kernel)) (by decide +kernel)
  · intro adjoin
    exact absurd (adjoin gapClip 1 (freshSchedule gapClip) (declaredAck gapClip 0)
      (declaredAck gapClip 1) rfl (by decide +kernel)) (by decide +kernel)

end LatentDeck.Playback
