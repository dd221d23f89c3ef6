import LatentDeck.Archive.Cadence

/-!
# Presentation of H3 slots

The cadence adapter feeds H3 slots to a causal decoder, whose raw outputs it takes one by one, and
drops the outputs that are not for presentation. A clip that is decoded cycle by cycle shows what
its cycle table says.
-/

namespace LatentDeck.Playback

open Archive

variable {Slot Frame : Type}

/-- A streaming decoder: the slots since its reset, and the raw outputs that are not taken. -/
structure StreamingDecoder (Slot Frame : Type) where
  fed : List Slot
  queue : List Frame

/-- `reset` of the decoder. -/
def StreamingDecoder.reset : StreamingDecoder Slot Frame := ⟨[], []⟩

/-- The outputs of a causal decoder for a slot after those before it. -/
abbrev RawOutputs (Slot Frame : Type) : Type := List Slot → Slot → List Frame

/-- One raw output for the first slot, and four for every later one. -/
structure RawOutputs.Streams (raw : RawOutputs Slot Frame) : Prop where
  first : ∀ slot, (raw [] slot).length = 1
  later : ∀ fed slot, fed ≠ [] → (raw fed slot).length = 4

/-- `decode` — feed one slot, or take one output that waits. -/
def StreamingDecoder.decode (raw : RawOutputs Slot Frame) (decoder : StreamingDecoder Slot Frame)
    (slot : Option Slot) : Option Frame × StreamingDecoder Slot Frame :=
  let fed := decoder.fed ++ slot.toList
  let queue := decoder.queue ++ slot.toList.flatMap (raw decoder.fed)
  (queue.head?, ⟨fed, queue.tail⟩)

inductive H3CadenceError where
  | pendingOutputs
  | noFrame

def slotsPerGroup : Nat := 5
def rawOutputsPerSlot : Nat := 4
def suppressedOutputsPerGroup : Nat := 3

structure H3PresentationCadence (Slot Frame : Type) where
  decoder : StreamingDecoder Slot Frame
  slotsSeen : Nat
  pendingOutputs : Nat

namespace H3PresentationCadence

variable (raw : RawOutputs Slot Frame) (cadence : H3PresentationCadence Slot Frame)

def requiredDecode (slot : Option Slot) :
    Except H3CadenceError Frame × H3PresentationCadence Slot Frame :=
  let (frame, decoder) := cadence.decoder.decode raw slot
  match frame with
  | none => (.error .noFrame, { cadence with decoder })
  | some frame => (.ok frame, { cadence with decoder })

/-- The loop of `feed_slot` over outputs that are not presented. -/
def suppress : Nat → Frame → H3PresentationCadence Slot Frame →
    Except H3CadenceError Frame × H3PresentationCadence Slot Frame
  | 0, frame, cadence => (.ok frame, cadence)
  | outputs + 1, _, cadence =>
      match cadence.requiredDecode raw none with
      | (.error error, after) => (.error error, after)
      | (.ok frame, after) => suppress outputs frame after

def feedSlot (slot : Slot) : Except H3CadenceError Frame × H3PresentationCadence Slot Frame :=
  if cadence.pendingOutputs ≠ 0 then (.error .pendingOutputs, cadence)
  else
    match cadence.requiredDecode raw (some slot) with
    | (.error error, after) => (.error error, after)
    | (.ok frame, after) =>
        if 0 < after.slotsSeen ∧ after.slotsSeen % slotsPerGroup = 0 then
          match suppress raw suppressedOutputsPerGroup frame after with
          | (.error error, after) => (.error error, after)
          | (.ok frame, after) => (.ok frame, { after with slotsSeen := after.slotsSeen + 1 })
        else if 0 < after.slotsSeen then
          (.ok frame,
            { after with
              pendingOutputs := rawOutputsPerSlot - 1
              slotsSeen := after.slotsSeen + 1 })
        else (.ok frame, { after with slotsSeen := after.slotsSeen + 1 })

def popPending : Except H3CadenceError (Option Frame) × H3PresentationCadence Slot Frame :=
  if cadence.pendingOutputs = 0 then (.ok none, cadence)
  else
    match cadence.requiredDecode raw none with
    | (.error error, after) => (.error error, after)
    | (.ok frame, after) =>
        (.ok (some frame), { after with pendingOutputs := after.pendingOutputs - 1 })

/-- `reset` and `restart`. -/
def reset (_ : H3PresentationCadence Slot Frame) : H3PresentationCadence Slot Frame :=
  ⟨.reset, 0, 0⟩

/-- Every output that is popped is one less that is pending. -/
theorem popPending_less {cadence after : H3PresentationCadence Slot Frame} {frame : Frame}
    (popped : cadence.popPending raw = (.ok (some frame), after)) :
    after.pendingOutputs < cadence.pendingOutputs := by
  unfold popPending requiredDecode at popped
  split at popped
  · exact nomatch popped
  · rename_i some
    cases head : (cadence.decoder.decode raw none).1 with
    | none =>
      simp [head] at popped
    | some found =>
      simp only [head, Prod.mk.injEq, Except.ok.injEq, Option.some.injEq] at popped
      rw [← popped.2]
      show cadence.pendingOutputs - 1 < cadence.pendingOutputs
      omega

/-- `while (frame := pop_pending()) is not None`. -/
def drain (frames : List Frame) (cadence : H3PresentationCadence Slot Frame) :
    Except H3CadenceError (List Frame) × H3PresentationCadence Slot Frame :=
  match _ : cadence.popPending raw with
  | (.error error, after) => (.error error, after)
  | (.ok none, after) => (.ok frames, after)
  | (.ok (some frame), after) => drain (frames ++ [frame]) after
termination_by cadence.pendingOutputs
decreasing_by
  rename_i popped
  exact popPending_less raw popped

/-- The frames of one slot, as `decode_slot` of the decoder takes them. -/
def decodeSlot (slot : Slot) :
    Except H3CadenceError (List Frame) × H3PresentationCadence Slot Frame :=
  match cadence.feedSlot raw slot with
  | (.error error, after) => (.error error, after)
  | (.ok frame, after) => drain raw [frame] after

/-- The frames of slots in order, slot by slot. -/
def decodeSlots : List Slot → H3PresentationCadence Slot Frame →
    Except H3CadenceError (List (List Frame)) × H3PresentationCadence Slot Frame
  | [], cadence => (.ok [], cadence)
  | slot :: slots, cadence =>
      match cadence.decodeSlot raw slot with
      | (.error error, after) => (.error error, after)
      | (.ok frames, after) =>
          match decodeSlots slots after with
          | (.error error, after) => (.error error, after)
          | (.ok rest, after) => (.ok (frames :: rest), after)

end H3PresentationCadence

/-- The frames to present of a slot: all raw outputs, or those after the first three when the slot
begins a later group of five. -/
def presented (raw : RawOutputs Slot Frame) (fed : List Slot) (slot : Slot) : List Frame :=
  if 0 < fed.length ∧ fed.length % slotsPerGroup = 0 then
    (raw fed slot).drop suppressedOutputsPerGroup
  else raw fed slot

/-- The frames to present of slots after others. -/
def presentedAfter (raw : RawOutputs Slot Frame) : List Slot → List Slot → List (List Frame)
  | _, [] => []
  | fed, slot :: slots => presented raw fed slot :: presentedAfter raw (fed ++ [slot]) slots

/-- The cadence when every output of the slots so far is taken. -/
def drained (fed : List Slot) : H3PresentationCadence Slot Frame := ⟨⟨fed, []⟩, fed.length, 0⟩

namespace H3PresentationCadence

theorem drain_eq (raw : RawOutputs Slot Frame) (fed : List Slot) (seen : Nat) (queue : List Frame) :
    ∀ frames, drain raw frames ⟨⟨fed, queue⟩, seen, queue.length⟩ =
      (.ok (frames ++ queue), ⟨⟨fed, []⟩, seen, 0⟩) := by
  induction queue with
  | nil =>
    intro frames
    rw [drain, List.append_nil]
    rfl
  | cons frame queue ih =>
    intro frames
    rw [drain]
    have popped : popPending raw (⟨⟨fed, frame :: queue⟩, seen, (frame :: queue).length⟩ :
        H3PresentationCadence Slot Frame) =
        (.ok (some frame), ⟨⟨fed, queue⟩, seen, queue.length⟩) := by
      simp [popPending, requiredDecode, StreamingDecoder.decode]
    split
    · rename_i other
      rw [popped] at other
      exact nomatch other
    · rename_i other
      rw [popped] at other
      exact nomatch other
    · rename_i other
      rw [popped] at other
      cases other
      rw [ih, List.append_assoc]
      rfl

variable {raw : RawOutputs Slot Frame}

/-- A slot gives the frames to present of it, and leaves no output behind. -/
theorem decodeSlot_eq (streams : raw.Streams) (fed : List Slot) (slot : Slot) :
    (drained fed).decodeSlot raw slot =
      (.ok (presented raw fed slot), drained (fed ++ [slot])) := by
  have later : (fed ++ [slot]).length = fed.length + 1 := List.length_append
  by_cases start : fed = []
  · obtain ⟨frame, only⟩ := List.length_eq_one_iff.mp (streams.first slot)
    have fed_one : (drained fed).feedSlot raw slot =
        (.ok frame, ⟨⟨[slot], []⟩, 1, 0⟩) := by
      simp [start, drained, feedSlot, requiredDecode, StreamingDecoder.decode, only]
    rw [decodeSlot, fed_one, presented, start, if_neg (by simp), only]
    exact drain_eq raw [slot] 1 [] [frame]
  · have some : 0 < fed.length := List.length_pos_iff.mpr start
    obtain ⟨first, second, third, fourth, outputs⟩ :=
      List.length_eq_four.mp (streams.later fed slot start)
    by_cases boundary : fed.length % slotsPerGroup = 0
    · have fed_last : (drained fed).feedSlot raw slot =
          (.ok fourth, ⟨⟨fed ++ [slot], []⟩, fed.length + 1, 0⟩) := by
        simp [drained, feedSlot, requiredDecode, StreamingDecoder.decode, outputs, some, boundary,
          suppress, suppressedOutputsPerGroup]
      rw [decodeSlot, fed_last, presented, if_pos ⟨some, boundary⟩, outputs, drained, later]
      exact drain_eq raw (fed ++ [slot]) (fed.length + 1) [] [fourth]
    · have fed_first : (drained fed).feedSlot raw slot =
          (.ok first, ⟨⟨fed ++ [slot], [second, third, fourth]⟩, fed.length + 1, 3⟩) := by
        simp [drained, feedSlot, requiredDecode, StreamingDecoder.decode, outputs, start, boundary,
          rawOutputsPerSlot]
      rw [decodeSlot, fed_first, presented, if_neg (fun both => boundary both.2), outputs, drained,
        later]
      exact drain_eq raw (fed ++ [slot]) (fed.length + 1) [second, third, fourth] [first]

/-- Slots give the frames to present of them, and leave no output behind. -/
theorem decodeSlots_eq (streams : raw.Streams) (slots : List Slot) :
    ∀ fed, decodeSlots raw slots (drained fed) =
      (.ok (presentedAfter raw fed slots), drained (fed ++ slots)) := by
  induction slots with
  | nil =>
    intro fed
    rw [List.append_nil]
    rfl
  | cons slot slots ih =>
    intro fed
    rw [decodeSlots, decodeSlot_eq streams]
    dsimp only
    rw [ih, List.append_assoc]
    rfl

end H3PresentationCadence

/-- `CodecRuntimeError` of `decode_cycle`, with the errors that it passes on. -/
inductive CodecRuntimeError where
  | outOfOrder
  | outsideClip
  | cadence (error : H3CadenceError)
  | cadenceContract

/-- The decoder runtime: its cadence, and the cycle that is next. -/
structure H3DecoderRuntime (Slot Frame : Type) where
  cadence : H3PresentationCadence Slot Frame
  nextCycleIndex : Nat

namespace H3DecoderRuntime

/-- `reset` of the runtime. -/
def reset (runtime : H3DecoderRuntime Slot Frame) : H3DecoderRuntime Slot Frame :=
  ⟨runtime.cadence.reset, 0⟩

/-- `decode_cycle`, with the frames of its slots. -/
def decodeCycle (raw : RawOutputs Slot Frame) (video : List Slot) (cycleIndex : Nat)
    (runtime : H3DecoderRuntime Slot Frame) :
    Except CodecRuntimeError (List Frame) × H3DecoderRuntime Slot Frame :=
  if cycleIndex ≠ runtime.nextCycleIndex then (.error .outOfOrder, runtime)
  else
    match h3Cycle video.length cycleIndex with
    | none => (.error .outsideClip, runtime)
    | some timing =>
        match runtime.cadence.decodeSlots raw
          ((video.drop timing.latentStart).take timing.latentCount) with
        | (.error error, cadence) => (.error (.cadence error), { runtime with cadence })
        | (.ok frames, cadence) =>
            if frames.flatten.length ≠ timing.decodedFrameCount then
              (.error .cadenceContract, { runtime with cadence })
            else (.ok frames.flatten, ⟨cadence, runtime.nextCycleIndex + 1⟩)

/-- The cycles of given indices, one after the other. -/
def decodeCycles (raw : RawOutputs Slot Frame) (video : List Slot) :
    List Nat → H3DecoderRuntime Slot Frame →
      Except CodecRuntimeError (List (List Frame)) × H3DecoderRuntime Slot Frame
  | [], runtime => (.ok [], runtime)
  | cycleIndex :: indices, runtime =>
      match runtime.decodeCycle raw video cycleIndex with
      | (.error error, after) => (.error error, after)
      | (.ok frames, after) =>
          match decodeCycles raw video indices after with
          | (.error error, after) => (.error error, after)
          | (.ok rest, after) => (.ok (frames :: rest), after)

end H3DecoderRuntime

def frameCount (index : Nat) : Nat := if index % slotsPerGroup = 0 then 1 else 4

variable {raw : RawOutputs Slot Frame}

theorem presented_length (streams : raw.Streams) (fed : List Slot) (slot : Slot) :
    (presented raw fed slot).length = frameCount fed.length := by
  unfold presented frameCount
  by_cases start : fed = []
  · rw [start, if_neg (by simp)]
    exact streams.first slot
  · have four := streams.later fed slot start
    by_cases boundary : fed.length % slotsPerGroup = 0
    · rw [if_pos ⟨List.length_pos_iff.mpr start, boundary⟩, if_pos boundary, List.length_drop, four]
      rfl
    · rw [if_neg (fun both => boundary both.2), if_neg boundary, four]

theorem presentedAfter_length (streams : raw.Streams) (slots : List Slot) :
    ∀ fed, (presentedAfter raw fed slots).flatten.length =
      ((List.range' fed.length slots.length).map frameCount).sum := by
  induction slots with
  | nil => exact fun _ => rfl
  | cons slot slots ih =>
    intro fed
    have next := ih (fed ++ [slot])
    rw [List.length_append] at next
    rw [presentedAfter, List.flatten_cons, List.length_append, presented_length streams, next]
    rfl

theorem frameCount_period (index offset : Nat) :
    frameCount (2 + 5 * index + offset) = frameCount (2 + offset) := by
  have same : (2 + 5 * index + offset) % slotsPerGroup = (2 + offset) % slotsPerGroup := by
    show (2 + 5 * index + offset) % 5 = (2 + offset) % 5
    omega
  rw [frameCount, frameCount, same]

def cycleStart : Nat → Nat
  | 0 => 0
  | cycles + 1 => 2 + 5 * cycles

def cycleSlots (video : List Slot) (index : Nat) : List Slot :=
  (video.drop (cycleStart index)).take (if index = 0 then 2 else 5)

def cycleFrames (raw : RawOutputs Slot Frame) (video : List Slot) (index : Nat) : List Frame :=
  (presentedAfter raw (video.take (cycleStart index)) (cycleSlots video index)).flatten

theorem take_cycle (video : List Slot) (index : Nat) :
    video.take (cycleStart index) ++ cycleSlots video index =
      video.take (cycleStart (index + 1)) := by
  rw [cycleSlots, ← List.take_add]
  cases index with
  | zero => rfl
  | succ index => rfl

variable {video : List Slot}

/-- A cycle of a clip presents as many frames as its table says. -/
theorem cycleFrames_length (streams : raw.Streams) {index : Nat}
    (inside : cycleStart (index + 1) ≤ video.length) :
    (cycleFrames raw video index).length = if index = 0 then 5 else 17 := by
  have upper : cycleStart (index + 1) = 2 + 5 * index := rfl
  rw [cycleFrames, presentedAfter_length streams, cycleSlots]
  cases index with
  | zero =>
    have two : ((video.drop 0).take 2).length = 2 := by
      rw [List.drop_zero, List.length_take]
      omega
    rw [if_pos rfl, if_pos rfl, cycleStart, two]
    rfl
  | succ index =>
    have start : cycleStart (index + 1) = 2 + 5 * index := rfl
    have five : ((video.drop (2 + 5 * index)).take 5).length = 5 := by
      rw [List.length_take, List.length_drop]
      omega
    have before : (video.take (2 + 5 * index)).length = 2 + 5 * index := by
      rw [List.length_take]
      omega
    rw [if_neg (Nat.succ_ne_zero index), if_neg (Nat.succ_ne_zero index), start, five, before,
      List.range'_eq_map_range, List.map_map]
    have counts : frameCount ∘ (fun offset => 2 + 5 * index + offset) =
        fun offset => frameCount (2 + offset) := funext (frameCount_period index)
    rw [counts]
    rfl

theorem decodeCycle_eq (streams : raw.Streams) {cycles index : Nat}
    (whole : video.length = 2 + 5 * cycles) (inside : index ≤ cycles) :
    H3DecoderRuntime.decodeCycle raw video index ⟨drained (video.take (cycleStart index)), index⟩ =
      (.ok (cycleFrames raw video index),
        ⟨drained (video.take (cycleStart (index + 1))), index + 1⟩) := by
  have next : cycleStart (index + 1) ≤ video.length := by
    show 2 + 5 * index ≤ video.length
    omega
  have timing : ∃ declared, h3Cycle video.length index = some declared ∧
      declared.latentStart = cycleStart index ∧
      declared.latentCount = (if index = 0 then 2 else 5) ∧
      declared.decodedFrameCount = (if index = 0 then 5 else 17) := by
    rw [whole, h3Cycle, cycleCount_of_slots, if_pos (by omega)]
    refine ⟨_, rfl, ?_, rfl, rfl⟩
    cases index with
    | zero => rfl
    | succ index => rfl
  obtain ⟨declared, found, start, count, frames⟩ := timing
  have slots : (video.drop declared.latentStart).take declared.latentCount =
      cycleSlots video index := by
    rw [start, count, cycleSlots]
  have length := cycleFrames_length streams next
  unfold H3DecoderRuntime.decodeCycle
  rw [if_neg (not_not.mpr rfl), found]
  dsimp only
  rw [slots, H3PresentationCadence.decodeSlots_eq streams, take_cycle]
  dsimp only
  rw [if_neg (by rw [frames]; exact not_not.mpr length)]
  rfl

theorem decodeCycles_eq (streams : raw.Streams) {cycles : Nat}
    (whole : video.length = 2 + 5 * cycles) (count : Nat) :
    ∀ index, index + count ≤ cycles + 1 →
      H3DecoderRuntime.decodeCycles raw video (List.range' index count)
          ⟨drained (video.take (cycleStart index)), index⟩ =
        (.ok ((List.range' index count).map (cycleFrames raw video)),
          ⟨drained (video.take (cycleStart (index + count))), index + count⟩) := by
  induction count with
  | zero => exact fun _ _ => rfl
  | succ count ih =>
    intro index inside
    rw [List.range'_succ, H3DecoderRuntime.decodeCycles,
      decodeCycle_eq streams whole (by omega : index ≤ cycles)]
    dsimp only
    rw [ih (index + 1) (by omega), Nat.add_right_comm, Nat.add_assoc index count 1]
    rfl

theorem presentedAfter_append (raw : RawOutputs Slot Frame) (slots more : List Slot) :
    ∀ fed, presentedAfter raw fed (slots ++ more) =
      presentedAfter raw fed slots ++ presentedAfter raw (fed ++ slots) more := by
  induction slots with
  | nil =>
    intro fed
    rw [List.append_nil]
    rfl
  | cons slot slots ih =>
    intro fed
    rw [List.cons_append, presentedAfter, ih, List.append_assoc]
    rfl

theorem cycles_flatten (raw : RawOutputs Slot Frame) (video : List Slot) (count : Nat) :
    ((List.range count).map (cycleFrames raw video)).flatten =
      (presentedAfter raw [] (video.take (cycleStart count))).flatten := by
  induction count with
  | zero => rfl
  | succ count ih =>
    rw [List.range_succ, List.map_append, List.flatten_append, ih, ← take_cycle,
      presentedAfter_append, List.flatten_append, List.nil_append]
    rw [List.map_singleton, List.flatten_singleton]
    rfl

theorem presentedAfter_getElem (raw : RawOutputs Slot Frame) (slots : List Slot) :
    ∀ fed index, (presentedAfter raw fed slots)[index]? =
      slots[index]?.map (presented raw (fed ++ slots.take index)) := by
  induction slots with
  | nil => exact fun _ _ => rfl
  | cons slot slots ih =>
    intro fed index
    cases index with
    | zero =>
      rw [List.take_zero, List.append_nil]
      rfl
    | succ index =>
      have next := ih (fed ++ [slot]) index
      rw [List.append_assoc] at next
      exact next

/-- After a reset of any runtime, the slots of a clip are decoded without an error and leave no
output behind; the frames of a slot are its raw outputs, less three where it begins a later group of
five, and those of a cycle are as many as the cycle table says. -/
theorem presentation_follows_cycles {raw : RawOutputs Slot Frame} (streams : raw.Streams)
    (cycles : Nat) (video : List Slot) (whole : video.length = 2 + 5 * cycles)
    (runtime : H3DecoderRuntime Slot Frame) :
    (∀ slots, slots <+: video →
      ∃ frames, H3PresentationCadence.decodeSlots raw slots runtime.reset.cadence =
          (.ok frames, drained slots) ∧
        ∀ index, frames[index]? = slots[index]?.map (presented raw (slots.take index))) ∧
    ∃ slotFrames cycleFrames,
      H3PresentationCadence.decodeSlots raw video runtime.reset.cadence =
        (.ok slotFrames, drained video) ∧
      H3DecoderRuntime.decodeCycles raw video (List.range (cycles + 1)) runtime.reset =
        (.ok cycleFrames, ⟨drained video, cycles + 1⟩) ∧
      cycleFrames.flatten = slotFrames.flatten ∧
      cycleFrames.map List.length =
        (declaredCycles video.length).map H3Cycle.decodedFrameCount ∧
      cycleFrames.map List.length = 5 :: List.replicate cycles 17 ∧
      cycleFrames.flatten.length = 5 + 17 * cycles ∧
      (5 + 17 * cycles < 2 ^ 64 →
        decodedFrameCount video.length = .ok cycleFrames.flatten.length ∧
        (0 < cycles → streamingUsableFrames (5 * cycles) = .ok (cycles * 17))) := by
  have slotwise : ∀ slots : List Slot, H3PresentationCadence.decodeSlots raw slots
      runtime.reset.cadence = (.ok (presentedAfter raw [] slots), drained slots) :=
    fun slots => H3PresentationCadence.decodeSlots_eq streams slots []
  have all : video.take (cycleStart (cycles + 1)) = video := by
    apply List.take_of_length_le
    show video.length ≤ 2 + 5 * cycles
    omega
  have decoded := decodeCycles_eq streams whole (cycles + 1) 0 (by omega)
  rw [← List.range_eq_range', Nat.zero_add, all] at decoded
  have flat := cycles_flatten raw video (cycles + 1)
  rw [all] at flat
  have counts : ((List.range (cycles + 1)).map (cycleFrames raw video)).map List.length =
      5 :: List.replicate cycles 17 := by
    have each : ∀ index ∈ List.range (cycles + 1),
        (List.length ∘ cycleFrames raw video) index = if index = 0 then 5 else 17 := by
      intro index member
      apply cycleFrames_length streams
      have inside := List.mem_range.mp member
      show 2 + 5 * index ≤ video.length
      omega
    have steady : (fun index => if index = 0 then 5 else 17) ∘ Nat.succ = fun _ => 17 := rfl
    rw [List.map_map, List.map_congr_left each, List.range_succ_eq_map, List.map_cons,
      List.map_map, steady, List.map_const', List.length_range]
    rfl
  have total : ((List.range (cycles + 1)).map (cycleFrames raw video)).flatten.length =
      5 + 17 * cycles := by
    rw [List.length_flatten, counts, List.sum_cons, List.sum_replicate]
    show 5 + cycles * 17 = 5 + 17 * cycles
    omega
  constructor
  · intro slots _
    exact ⟨_, slotwise slots, presentedAfter_getElem raw slots []⟩
  · refine ⟨_, _, slotwise video, decoded, flat, ?_, counts, total, fun bound => ⟨?_, ?_⟩⟩
    · rw [counts, whole, declaredCycles_eq, List.map_cons, List.map_map]
      have steady : (H3Cycle.decodedFrameCount ∘ steadyCycle cycles) = fun _ => 17 := rfl
      rw [steady, List.map_const', List.length_range]
    · rw [total, decodedFrameCount_eq_ok]
      exact ⟨cycles, whole, rfl, bound⟩
    · intro some
      rw [streamingUsableFrames_eq_ok]
      exact ⟨cycles, some, rfl, Nat.mul_comm cycles 17, by omega⟩

def sampleRaw : RawOutputs Nat (Nat × Nat) := fun fed slot =>
  if fed = [] then [(slot, 0)] else [(slot, 0), (slot, 1), (slot, 2), (slot, 3)]

/-- A clip of two cycles after another clip was left in the middle. -/
theorem sample_presentation : ∃ slotFrames,
    H3PresentationCadence.decodeSlots sampleRaw [0, 1, 2, 3, 4, 5, 6] (drained []) =
      (.ok slotFrames, drained [0, 1, 2, 3, 4, 5, 6]) ∧
    slotFrames.flatten.length = 22 := by
  have streams : sampleRaw.Streams := by
    refine ⟨fun _ => rfl, fun fed slot some => ?_⟩
    rw [sampleRaw, if_neg some]
    rfl
  obtain ⟨-, slotFrames, cycleFrames, decoded, -, same, -, -, total, -⟩ :=
    presentation_follows_cycles streams 1 [0, 1, 2, 3, 4, 5, 6] rfl
      ⟨⟨⟨[7, 8], [(8, 1), (8, 2), (8, 3)]⟩, 2, 3⟩, 0⟩
  exact ⟨slotFrames, decoded, (congrArg List.length same).symm.trans total⟩

end LatentDeck.Playback
