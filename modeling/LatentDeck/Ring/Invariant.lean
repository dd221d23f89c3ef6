import LatentDeck.Library.RelyGuarantee
import LatentDeck.Ring.Mapping

/-!
# The queue a mapping represents

`slotImage` is the content of a published slot. `RingInvariant` relates the counters and the
outstanding slots of a mapping to the requests published in the live generation, the auxiliary state
of the proofs. A contract only has to respect that queue (`Observes`), so the same specifications
serve concurrent and whole operations.
-/

namespace LatentDeck.Ring

open LittleEndian Checked

/-- The requests published in the live generation, oldest first. -/
abbrev Published := List WriteRequest

def produced (memory : Memory) : Nat := memory.word headerProducerSequenceOffset

def consumed (memory : Memory) : Nat := memory.word headerConsumerSequenceOffset

def payloadBytes (layout : RingV2Layout) (request : WriteRequest) : Nat :=
  layout.frameStrideBytes * request.batch.toNat

/-- What the checks of `write_mapping_batch` establish about its arguments. -/
structure Accepted (layout : RingV2Layout) (request : WriteRequest) : Prop where
  session : request.sessionId.bytes.all (· == 0) = false
  logical : request.logicalSequence ≠ 0
  batch : 1 ≤ request.batch.toNat ∧ request.batch.toNat ≤ layout.maximumBatch
  dimensions : request.width.toNat = layout.width ∧ request.height.toNat = layout.height
  pixels : request.pixels.length = payloadBytes layout request

/-- The fields of a published slot in mapping order, with its alignment gap and padding. -/
def slotFields (descriptor : RingV2Descriptor) (sequence : Nat) (request : WriteRequest) :
    List (List UInt8) :=
  [leBytes 8 sequence, leBytes 8 descriptor.generation,
    leBytes 8 request.logicalSequence.toNat, request.sessionId.bytes,
    leBytes 4 request.batch.toNat, leBytes 4 request.width.toNat,
    leBytes 4 request.height.toNat, List.replicate 4 0,
    leBytes 8 descriptor.layout.frameStrideBytes,
    leBytes 8 (payloadBytes descriptor.layout request), List.replicate 56 0, request.pixels,
    List.replicate (descriptor.layout.slotStrideBytes - slotHeaderBytes -
      request.pixels.length) 0]

/-- The complete content of a published slot. -/
def slotImage (descriptor : RingV2Descriptor) (sequence : Nat) (request : WriteRequest) :
    List UInt8 :=
  (slotFields descriptor sequence request).flatten

/-- The content of the slot a sequence occupies. -/
def slotContent (layout : RingV2Layout) (memory : Memory) (sequence : Nat) : List UInt8 :=
  memory.load (slotAddress layout (slotIndex layout sequence)) layout.slotStrideBytes

/-- A mapping in a live generation whose counters and outstanding slots represent a queue. -/
structure RingInvariant (descriptor : RingV2Descriptor) (world : World Published) : Prop where
  ready : world.memory.word headerStateOffset = stateReady
  live : world.memory.word headerGenerationOffset = descriptor.generation
  produced : produced world.memory = world.history.length
  ordered : consumed world.memory ≤ world.history.length
  capacity : world.history.length ≤ consumed world.memory + descriptor.layout.slotCount
  accepted : ∀ request ∈ world.history, Accepted descriptor.layout request
  slots : ∀ index request, world.history[index]? = some request →
    consumed world.memory ≤ index →
    slotContent descriptor.layout world.memory (index + 1) =
      slotImage descriptor (index + 1) request

/-- The metadata of the batch a request publishes under a ring sequence. -/
def publishedMetadata (descriptor : RingV2Descriptor) (sequence : Nat) (request : WriteRequest) :
    BatchV2Metadata where
  generation := descriptor.generation
  slotSequence := sequence
  logicalSequence := request.logicalSequence.toNat
  sessionId := request.sessionId.bytes
  batch := request.batch.toNat

/-- The batch a request publishes under a ring sequence. -/
def publishedBatch (descriptor : RingV2Descriptor) (sequence : Nat) (request : WriteRequest) :
    RgbaBatchV2 where
  metadata := publishedMetadata descriptor sequence request
  width := request.width.toNat
  height := request.height.toNat
  pixels := request.pixels

/-- Errors that do not report a corrupt queue. -/
def Benign : RingError → Prop
  | .corruptSequences _ _ => False
  | .corruptSlot _ => False
  | _ => True

/-- The queue only grows and is only consumed forwards. -/
structure Progress (world next : World Published) : Prop where
  history : world.history <+: next.history
  consumed : consumed world.memory ≤ consumed next.memory

/-- A contract whose invariant is the queue's and whose other endpoint makes progress only. -/
structure Observes (descriptor : RingV2Descriptor) (contract : Contract Published) : Prop where
  invariant : ∀ world, contract.invariant world ↔ RingInvariant descriptor world
  progress : ∀ world next, contract.rely world next → Progress world next

section Snapshots

variable {descriptor : RingV2Descriptor} {contract : Contract Published}
variable {assertion : World Published → Prop} {failed : RingError → World Published → Prop}

theorem requireReady_triple (observes : Observes descriptor contract)
    (stable : contract.Stable assertion)
    (pending : ∀ world, assertion world → contract.pending world) :
    Triple contract assertion requireReady (fun _ => assertion) failed := by
  refine Triple.via (fun value world => value = stateReady ∧ assertion world) ?_ ?_
  · refine Triple.atomicLoad _ stable ?_ pending ?_
    · exact fun value world next invariant rely holds =>
        ⟨holds.1, stable world next invariant rely holds.2⟩
    · exact fun world invariant holds => ⟨((observes.invariant world).mp invariant).ready, holds⟩
  · intro value
    have stableValue : contract.Stable fun world => value = stateReady ∧ assertion world :=
      fun world next invariant rely holds => ⟨holds.1, stable world next invariant rely holds.2⟩
    exact (Triple.check _ _ stableValue fun absent _ _ holds => absurd holds.1 absent).weaken
      (fun _ holds => holds) fun _ _ holds => holds.2.2

theorem ensureLive_triple (observes : Observes descriptor contract)
    (stable : contract.Stable assertion)
    (pending : ∀ world, assertion world → contract.pending world) :
    Triple contract assertion (ensureLive descriptor.generation) (fun _ => assertion) failed := by
  refine Triple.bind (requireReady_triple observes stable pending) fun _ => ?_
  refine Triple.via
    (fun value world => value = descriptor.generation ∧ assertion world) ?_ ?_
  · refine Triple.atomicLoad _ stable ?_ pending ?_
    · exact fun value world next invariant rely holds =>
        ⟨holds.1, stable world next invariant rely holds.2⟩
    · exact fun world invariant holds => ⟨((observes.invariant world).mp invariant).live, holds⟩
  · intro value
    have stableValue : contract.Stable
        fun world => value = descriptor.generation ∧ assertion world :=
      fun world next invariant rely holds => ⟨holds.1, stable world next invariant rely holds.2⟩
    exact (Triple.check _ _ stableValue fun absent _ _ holds => absurd holds.1 absent).weaken
      (fun _ holds => holds) fun _ _ holds => holds.2.2

/-- The two counters of a snapshot were the counters of one world of the call. -/
def Snapshot (descriptor : RingV2Descriptor) (contract : Contract Published)
    (assertion : World Published → Prop) (producerSequence consumerSequence : Nat)
    (world : World Published) : Prop :=
  ∃ seen, assertion seen ∧ RingInvariant descriptor seen ∧ contract.rely seen world ∧
    producerSequence = seen.history.length ∧ consumerSequence = consumed seen.memory

theorem Snapshot.later (producerSequence consumerSequence : Nat) (world next : World Published)
    (rely : contract.rely world next)
    (snapshot : Snapshot descriptor contract assertion producerSequence consumerSequence world) :
    Snapshot descriptor contract assertion producerSequence consumerSequence next := by
  obtain ⟨seen, held, invariant, moved, counters⟩ := snapshot
  exact ⟨seen, held, invariant, contract.rely_trans _ _ _ moved rely, counters⟩

/-- The snapshot loop returns counters that one world had, or gives up without an accusation. -/
theorem loadConsistentSequencesWithin_triple (observes : Observes descriptor contract)
    (stable : contract.Stable assertion)
    (pending : ∀ world, assertion world → contract.pending world)
    (gaveUp : ∀ world, assertion world → failed (.corruptHeader "sequence_snapshot") world)
    (attempts : Nat) :
    Triple contract assertion (loadConsistentSequencesWithin attempts)
      (fun counters world => assertion world ∧ counters.1 = counters.2.1 + counters.2.2 ∧
        Snapshot descriptor contract assertion counters.1 counters.2.1 world) failed := by
  induction attempts with
  | zero => exact Triple.fail _ stable fun world _ holds => gaveUp world holds
  | succ attempts ih =>
    -- The first load bounds the consumed counter from below until the second one.
    let first (before : Nat) (world : World Published) : Prop :=
      assertion world ∧ before ≤ consumed world.memory
    let second (before count : Nat) (world : World Published) : Prop :=
      assertion world ∧ ∃ seen, assertion seen ∧ RingInvariant descriptor seen ∧
        contract.rely seen world ∧ count = seen.history.length ∧ before ≤ consumed seen.memory
    let third (before count after : Nat) (world : World Published) : Prop :=
      assertion world ∧ ∃ seen, assertion seen ∧ RingInvariant descriptor seen ∧
        contract.rely seen world ∧ count = seen.history.length ∧ before ≤ consumed seen.memory ∧
          consumed seen.memory ≤ after
    have firstStable (before : Nat) : contract.Stable (first before) :=
      fun world next invariant rely holds => ⟨stable world next invariant rely holds.1,
        Nat.le_trans holds.2 (observes.progress _ _ rely).consumed⟩
    have secondStable (before count : Nat) : contract.Stable (second before count) := by
      rintro world next invariant rely ⟨holds, seen, held, kept, moved, counters⟩
      exact ⟨stable world next invariant rely holds, seen, held, kept,
        contract.rely_trans _ _ _ moved rely, counters⟩
    have thirdStable (before count after : Nat) : contract.Stable (third before count after) := by
      rintro world next invariant rely ⟨holds, seen, held, kept, moved, counters⟩
      exact ⟨stable world next invariant rely holds, seen, held, kept,
        contract.rely_trans _ _ _ moved rely, counters⟩
    refine Triple.via first ?_ fun before => ?_
    · exact Triple.atomicLoad _ stable firstStable pending
        fun world _ holds => ⟨holds, Nat.le_refl _⟩
    refine Triple.via (second before) ?_ fun count => ?_
    · refine Triple.atomicLoad _ (firstStable before) (secondStable before)
        (fun world holds => pending world holds.1) ?_
      intro world invariant holds
      have ring := (observes.invariant world).mp invariant
      exact ⟨holds.1, world, holds.1, ring, contract.rely_refl world, ring.produced, holds.2⟩
    refine Triple.via (third before count) ?_ fun after => ?_
    · refine Triple.atomicLoad _ (secondStable before count) (thirdStable before count)
        (fun world holds => pending world holds.1) ?_
      rintro world invariant ⟨holds, seen, held, kept, moved, counters, lower⟩
      exact ⟨holds, seen, held, kept, moved, counters, lower,
        (observes.progress _ _ moved).consumed⟩
    split
    · rename_i equal
      let found (world : World Published) : Prop :=
        assertion world ∧ Snapshot descriptor contract assertion count after world
      have foundStable : contract.Stable found :=
        fun world next invariant rely holds =>
          ⟨stable world next invariant rely holds.1, holds.2.later _ _ world next rely⟩
      have isFound (world : World Published) (holds : third before count after world) :
          found world := by
        obtain ⟨holds, seen, held, kept, moved, counters, lower, upper⟩ := holds
        exact ⟨holds, seen, held, kept, moved, counters, by omega⟩
      have checks : Triple contract found
          (Program.orFail (checkedSub count after) (.corruptSequences count after) >>= fun depth =>
            pure (count, after, depth))
          (fun counters world => assertion world ∧ counters.1 = counters.2.1 + counters.2.2 ∧
            Snapshot descriptor contract assertion counters.1 counters.2.1 world) failed := ?_
      · exact fun world holds => checks world (isFound world holds)
      refine Triple.orFail _ _ foundStable ?_ ?_
      · rintro none world - ⟨-, seen, -, kept, -, counters, exact⟩
        have ordered := kept.ordered
        rw [checkedSub_eq_none] at none
        omega
      · intro depth difference
        rw [checkedSub_eq_some] at difference
        exact Triple.done _ foundStable fun _ _ met => ⟨met.1, difference, met.2⟩
    · exact ih.weaken (fun _ holds => holds.1) fun _ _ met => met

/-- The state of a live mapping is the queue of one world. -/
theorem mappingState_triple (observes : Observes descriptor contract)
    (stable : contract.Stable assertion)
    (pending : ∀ world, assertion world → contract.pending world)
    (gaveUp : ∀ world, assertion world → failed (.corruptHeader "sequence_snapshot") world) :
    Triple contract assertion (mappingState descriptor)
      (fun state world => assertion world ∧
        state.producerSequence = state.consumerSequence + state.occupancy ∧
        Snapshot descriptor contract assertion state.producerSequence state.consumerSequence world)
      failed := by
  refine Triple.bind (ensureLive_triple observes stable pending) fun _ => ?_
  refine Triple.bind
    (loadConsistentSequencesWithin_triple observes stable pending gaveUp 8) fun counters => ?_
  obtain ⟨producerSequence, consumerSequence, depth⟩ := counters
  let taken (world : World Published) : Prop :=
    assertion world ∧ producerSequence = consumerSequence + depth ∧
      Snapshot descriptor contract assertion producerSequence consumerSequence world
  have takenStable : contract.Stable taken :=
    fun world next invariant rely holds => ⟨stable world next invariant rely holds.1,
      holds.2.1, holds.2.2.later _ _ world next rely⟩
  have depthBound (world : World Published) (holds : taken world) :
      depth ≤ descriptor.layout.slotCount := by
    obtain ⟨-, sum, seen, -, ring, -, producerExact, consumerExact⟩ := holds
    have capacity := ring.capacity
    omega
  refine Triple.via (fun _ => taken)
    (ensureLive_triple observes takenStable fun world holds => pending world holds.1) fun _ => ?_
  refine Triple.ensure _ _ takenStable
    (fun absent world _ holds => absurd (depthBound world holds) absent) fun bound => ?_
  refine Triple.orFail _ _ takenStable ?_ fun occupancy fits => ?_
  · intro none
    have slots := descriptor.layout.slot_bound
    simp only [tryU32, maxSlotCount] at none slots
    rw [if_pos (by omega)] at none
    cases none
  · refine Triple.done _ takenStable ?_
    rintro world - ⟨holds, sum, snapshot⟩
    have exact : occupancy = depth := by
      simp only [tryU32] at fits
      split at fits
      · exact (Option.some.inj fits).symm
      · cases fits
    exact ⟨holds, by rw [exact]; exact sum, snapshot⟩

end Snapshots
end LatentDeck.Ring
