import LatentDeck.Ring.Invariant

/-!
# Publishing a batch

The specification of `write_mapping_batch` under any contract whose other endpoint only consumes.
The slot that follows the last published one is never outstanding while the queue has room, so
the producer owns it (`slot_owned`); its stores build the slot image field by field, and the store
of the producer sequence publishes the request.
-/

namespace LatentDeck.Ring

open LittleEndian Checked

/-- What the consumer may do while the producer works: it advances its own counter only. -/
structure ConsumerMoves (world next : World Published) : Prop where
  history : next.history = world.history
  bytes : ∀ address, address < headerConsumerSequenceOffset ∨
    headerConsumerSequenceOffset + 8 ≤ address → next.memory address = world.memory address
  consumed : consumed world.memory ≤ consumed next.memory

/-- What the producer may do while the consumer works: it publishes and never consumes. -/
structure ProducerMoves (world next : World Published) : Prop where
  history : world.history <+: next.history
  consumed : consumed next.memory = consumed world.memory

/-- A contract under which an endpoint may publish. -/
structure Produces (descriptor : RingV2Descriptor) (contract : Contract Published) : Prop
    extends Observes descriptor contract where
  others : ∀ world next, contract.rely world next → ConsumerMoves world next
  publishes : ∀ world next, ProducerMoves world next → contract.guarantee world next
  pending_rely : ∀ world next, contract.rely world next →
    contract.pending world → contract.pending next
  /-- What holds inside a call depends on the published requests and the consumed counter. -/
  pending_store : ∀ world next, next.history = world.history →
    consumed next.memory = consumed world.memory → contract.pending world → contract.pending next

section Slot

variable (layout : RingV2Layout) (index : Nat)

theorem slotAddress_header : mappingHeaderBytes ≤ slotAddress layout index :=
  Nat.le_add_right _ _

theorem header_word_slot_store (memory : Memory) (offset address : Nat) (bytes : List UInt8)
    (inHeader : offset + 8 ≤ mappingHeaderBytes) (lower : slotAddress layout index ≤ address) :
    (memory.store address bytes).word offset = memory.word offset := by
  apply Memory.word_store_disjoint
  have start := slotAddress_header layout index
  omega

theorem slotContent_other_store (memory : Memory) (sequence address : Nat) (bytes : List UInt8)
    (different : index ≠ slotIndex layout sequence) (lower : slotAddress layout index ≤ address)
    (upper : address + bytes.length ≤ slotAddress layout index + layout.slotStrideBytes) :
    slotContent layout (memory.store address bytes) sequence =
      slotContent layout memory sequence := by
  apply Memory.load_store_disjoint
  obtain before | after := slots_disjoint layout _ _ different
  · exact Or.inr (by omega)
  · exact Or.inl (by omega)

end Slot

variable {descriptor : RingV2Descriptor} {contract : Contract Published}

/-- A store into the slot after the last published one keeps the queue. -/
theorem RingInvariant.store_next_slot (world : World Published) (address : Nat)
    (bytes : List UInt8) (invariant : RingInvariant descriptor world)
    (room : world.history.length < consumed world.memory + descriptor.layout.slotCount)
    (lower : slotAddress descriptor.layout
      (slotIndex descriptor.layout (world.history.length + 1)) ≤ address)
    (upper : address + bytes.length ≤ slotAddress descriptor.layout
      (slotIndex descriptor.layout (world.history.length + 1)) +
        descriptor.layout.slotStrideBytes) :
    RingInvariant descriptor
      { memory := world.memory.store address bytes, history := world.history } ∧
    consumed (world.memory.store address bytes) = consumed world.memory := by
  have header := fun offset inHeader => header_word_slot_store descriptor.layout _ world.memory
    offset address bytes inHeader lower
  have same : consumed (world.memory.store address bytes) = consumed world.memory :=
    header headerConsumerSequenceOffset (by decide)
  refine ⟨?_, same⟩
  constructor
  · exact (header headerStateOffset (by decide)).trans invariant.ready
  · exact (header headerGenerationOffset (by decide)).trans invariant.live
  · exact (header headerProducerSequenceOffset (by decide)).trans invariant.produced
  · simp only [same]
    exact invariant.ordered
  · simp only [same]
    exact invariant.capacity
  · exact invariant.accepted
  · intro index request found outstanding
    simp only [same] at outstanding
    have inside : index < world.history.length := (List.getElem?_eq_some_iff.mp found).1
    rw [slotContent_other_store descriptor.layout _ world.memory (index + 1) address bytes ?_
      lower upper]
    · exact invariant.slots index request found outstanding
    · exact (slotIndex_different _ _ _ (by omega) (by omega) (by omega)).symm

/-- The producer has decided to publish a request after those already published. -/
def Room (descriptor : RingV2Descriptor) (contract : Contract Published) (history : Published)
    (world : World Published) : Prop :=
  world.history = history ∧
    history.length < consumed world.memory + descriptor.layout.slotCount ∧
    contract.pending world

theorem room_stable (produces : Produces descriptor contract) (history : Published) :
    contract.Stable (Room descriptor contract history) := by
  rintro world next - rely ⟨same, room, pending⟩
  have moves := produces.others world next rely
  have forwards := moves.consumed
  exact ⟨moves.history.trans same, by omega, produces.pending_rely _ _ rely pending⟩

/-- The producer owns the slot it is about to publish. -/
theorem slot_owned (produces : Produces descriptor contract) (history : Published) :
    Triple.Owned contract (Room descriptor contract history)
      (slotAddress descriptor.layout (slotIndex descriptor.layout (history.length + 1)))
      descriptor.layout.slotStrideBytes where
  fixed := by
    intro world next rely
    apply Memory.load_congr
    intro index _
    apply (produces.others world next rely).bytes
    have start := slotAddress_header descriptor.layout
      (slotIndex descriptor.layout (history.length + 1))
    simp only [mappingHeaderBytes, headerConsumerSequenceOffset] at start ⊢
    omega
  commits := by
    rintro world address bytes invariant ⟨rfl, room, pending⟩ lower upper
    have ring := (produces.invariant world).mp invariant
    obtain ⟨kept, same⟩ := ring.store_next_slot world address bytes room lower upper
    refine ⟨world.history, (produces.invariant _).mpr kept, ?_, rfl, ?_, ?_⟩
    · exact produces.publishes _ _ ⟨List.prefix_refl _, same⟩
    · simp only [same]
      exact room
    · exact produces.pending_store world _ rfl same pending

theorem cleared_fields (descriptor : RingV2Descriptor) (pixels : Nat)
    (fits : slotHeaderBytes + pixels ≤ descriptor.layout.slotStrideBytes) :
    leBytes 8 0 ++ List.replicate (descriptor.layout.slotStrideBytes - 8) (0 : UInt8) =
      leBytes 8 0 ++ (List.replicate 8 0 ++ (List.replicate 8 0 ++ (List.replicate 16 0 ++
        (List.replicate 4 0 ++ (List.replicate 4 0 ++ (List.replicate 4 0 ++
        (List.replicate 4 0 ++ (List.replicate 8 0 ++ (List.replicate 8 0 ++
        (List.replicate 56 0 ++ (List.replicate pixels 0 ++
        List.replicate (descriptor.layout.slotStrideBytes - slotHeaderBytes - pixels)
          0))))))))))) := by
  simp only [List.replicate_append_replicate, slotHeaderBytes] at fits ⊢
  congr 2
  omega

theorem Accepted.fits {layout : RingV2Layout} {request : WriteRequest}
    (accepted : Accepted layout request) :
    slotHeaderBytes + request.pixels.length ≤ layout.slotStrideBytes := by
  have payload : payloadBytes layout request ≤ layout.slotBytes := by
    rw [layout.slot_exact]
    exact Nat.mul_le_mul_left _ accepted.batch.2
  have stride := layout.stride_fits
  rw [accepted.pixels]
  omega

/-- The stores into the slot build the image of the request under the new sequence. -/
theorem buildSlot_triple (produces : Produces descriptor contract) (history : Published)
    (request : WriteRequest) (accepted : Accepted descriptor.layout request)
    {next : Program RingError Unit} {after : Unit → World Published → Prop}
    {failed : RingError → World Published → Prop} (base : Nat) (address : base =
      slotAddress descriptor.layout (slotIndex descriptor.layout (history.length + 1)))
    (rest : Triple contract (fun world => Room descriptor contract history world ∧
      world.memory.load base descriptor.layout.slotStrideBytes =
        slotImage descriptor (history.length + 1) request) next after failed) :
    Triple contract (Room descriptor contract history)
      (do
        Program.atomicStore (base + slotSequenceOffset) 0
        fillZero (base + 8) (descriptor.layout.slotStrideBytes - 8)
        putU64 (base + slotGenerationOffset) descriptor.generation
        putU64 (base + slotLogicalSequenceOffset) request.logicalSequence.toNat
        Program.storeBytes (base + slotSessionIdOffset) request.sessionId.bytes
        putU32 (base + slotBatchOffset) request.batch.toNat
        putU32 (base + slotWidthOffset) request.width.toNat
        putU32 (base + slotHeightOffset) request.height.toNat
        putU64 (base + slotFrameStrideOffset) descriptor.layout.frameStrideBytes
        putU64 (base + slotPayloadBytesOffset) (payloadBytes descriptor.layout request)
        Program.storeBytes (base + slotHeaderBytes) request.pixels
        Program.atomicStore (base + slotSequenceOffset) (history.length + 1)
        next) after failed := by
  subst address
  have owned := slot_owned produces history
  have stable := room_stable produces history
  have pending (world : World Published) (room : Room descriptor contract history world) :
      contract.pending world := room.2.2
  have session := request.sessionId.length
  have fits := accepted.fits
  intro world room
  -- The slot still holds whatever the previous lap left in it.
  obtain ⟨old, oldExact⟩ : ∃ old, world.memory.load (slotAddress descriptor.layout
      (slotIndex descriptor.layout (history.length + 1)))
        descriptor.layout.slotStrideBytes = old := ⟨_, rfl⟩
  have oldLength : old.length = descriptor.layout.slotStrideBytes := by
    rw [← oldExact, Memory.load_length]
  simp only [slotHeaderBytes] at fits
  refine Triple.bind (Triple.atomicStore_owned owned stable pending [] (old.take 8)
    (old.drop 8 ++ []) 0 rfl (by simp; omega)) (fun _ => ?_) world
      ⟨room, by rw [List.append_nil, List.nil_append, List.take_append_drop, oldExact]⟩
  refine Triple.bind (Triple.storeBytes_owned _ owned stable pending _ _ _ _ (by simp)
    (by simp; omega)) fun _ => ?_
  rw [List.nil_append, List.append_nil,
    cleared_fields descriptor request.pixels.length accepted.fits]
  refine .bind (.storeBytes_owned _ owned stable pending _ _ _ _
    (by simp [slotGenerationOffset]) (by simp)) fun _ => ?_
  refine .bind (.storeBytes_owned _ owned stable pending _ _ _ _
    (by simp [slotLogicalSequenceOffset]) (by simp)) fun _ => ?_
  refine .bind (.storeBytes_owned _ owned stable pending _ _ _ _
    (by simp [slotSessionIdOffset]) (by simp [session])) fun _ => ?_
  refine .bind (.storeBytes_owned _ owned stable pending _ _ _ _
    (by simp [slotBatchOffset, session]) (by simp)) fun _ => ?_
  refine .bind (.storeBytes_owned _ owned stable pending _ _ _ _
    (by simp [slotWidthOffset, session]) (by simp)) fun _ => ?_
  refine .bind (.storeBytes_owned _ owned stable pending _ _ _ _
    (by simp [slotHeightOffset, session]) (by simp)) fun _ => ?_
  apply Triple.skip_owned
  refine Triple.bind (Triple.storeBytes_owned _ owned stable pending _ _ _ _
    (by simp [slotFrameStrideOffset, session]) (by simp)) fun _ => ?_
  refine .bind (.storeBytes_owned _ owned stable pending _ _ _ _
    (by simp [slotPayloadBytesOffset, session]) (by simp)) fun _ => ?_
  apply Triple.skip_owned
  refine Triple.bind (Triple.storeBytes_owned _ owned stable pending _ _ _ _
    (by simp [slotHeaderBytes, session]) (by simp)) fun _ => ?_
  simp only [List.append_assoc]
  refine .bind (.atomicStore_owned owned stable pending [] (leBytes 8 0) _ _ rfl
    (by simp)) fun _ => ?_
  simpa only [slotImage, slotFields, List.flatten_cons, List.flatten_nil, List.append_nil,
    List.nil_append] using rest

/-- The store of the producer sequence publishes the image built in the next slot. -/
theorem RingInvariant.publish (world : World Published) (request : WriteRequest)
    (invariant : RingInvariant descriptor world) (accepted : Accepted descriptor.layout request)
    (room : world.history.length < consumed world.memory + descriptor.layout.slotCount)
    (fits : world.history.length + 1 < 2 ^ 64)
    (image : slotContent descriptor.layout world.memory (world.history.length + 1) =
      slotImage descriptor (world.history.length + 1) request) :
    RingInvariant descriptor {
      memory := world.memory.storeWord headerProducerSequenceOffset (world.history.length + 1)
      history := world.history ++ [request] } ∧
    consumed (world.memory.storeWord headerProducerSequenceOffset (world.history.length + 1)) =
      consumed world.memory := by
  have other (offset : Nat) (disjoint : offset + 8 ≤ headerProducerSequenceOffset ∨
      headerProducerSequenceOffset + 8 ≤ offset) :
      (world.memory.storeWord headerProducerSequenceOffset (world.history.length + 1)).word offset =
        world.memory.word offset :=
    Memory.word_store_disjoint _ _ _ _ (by rwa [leBytes_length])
  have content (sequence : Nat) : slotContent descriptor.layout
      (world.memory.storeWord headerProducerSequenceOffset (world.history.length + 1)) sequence =
        slotContent descriptor.layout world.memory sequence := by
    apply Memory.load_store_disjoint
    have start := slotAddress_header descriptor.layout (slotIndex descriptor.layout sequence)
    rw [leBytes_length]
    simp only [mappingHeaderBytes, headerProducerSequenceOffset] at start ⊢
    omega
  have same := other headerConsumerSequenceOffset (by decide)
  change consumed _ = consumed world.memory at same
  refine ⟨?_, same⟩
  constructor
  · exact (other headerStateOffset (by decide)).trans invariant.ready
  · exact (other headerGenerationOffset (by decide)).trans invariant.live
  · simp only [List.length_append, List.length_singleton]
    exact Memory.word_storeWord_same _ _ _ fits
  · have ordered := invariant.ordered
    simp only [same, List.length_append, List.length_singleton]
    omega
  · simp only [same, List.length_append, List.length_singleton]
    omega
  · intro other member
    obtain member | member := List.mem_append.mp member
    · exact invariant.accepted other member
    · rw [List.mem_singleton.mp member]
      exact accepted
  · intro index other found outstanding
    simp only [same] at outstanding
    simp only [content]
    obtain last | earlier := Nat.lt_or_ge index world.history.length |>.symm
    · have isLast : index = world.history.length := by
        have inside := (List.getElem?_eq_some_iff.mp found).1
        simp only [List.length_append, List.length_singleton] at inside
        omega
      subst isLast
      rw [List.getElem?_append_right (Nat.le_refl _), Nat.sub_self] at found
      rw [← Option.some.inj found]
      exact image
    · rw [List.getElem?_append_left earlier] at found
      exact invariant.slots index other found outstanding

/-- A world reached by one publication, before which the call had not published. -/
def PublishedOnce (contract : Contract Published) (history : Published) (request : WriteRequest)
    (world : World Published) : Prop :=
  ∃ before after, contract.pending before ∧ ProducerMoves before after ∧
    after.history = history ++ [request] ∧ contract.rely after world

theorem publishedOnce_stable (contract : Contract Published) (history : Published)
    (request : WriteRequest) : contract.Stable (PublishedOnce contract history request) := by
  rintro world next - rely ⟨before, after, pending, moves, appended, later⟩
  exact ⟨before, after, pending, moves, appended, contract.rely_trans _ _ _ later rely⟩

section

variable (produces : Produces descriptor contract)

include produces

/-- A publication appends its request to the published ones. -/
theorem publishBatch_triple (history : Published)
    (request : WriteRequest) (accepted : Accepted descriptor.layout request)
    (fits : history.length + 1 < 2 ^ 64) {failed : RingError → World Published → Prop} :
    Triple contract (Room descriptor contract history)
      (publishBatch descriptor request (history.length + 1)
        (slotAddress descriptor.layout (slotIndex descriptor.layout (history.length + 1)))
        (payloadBytes descriptor.layout request))
      (fun _ => PublishedOnce contract history request) failed := by
  apply buildSlot_triple produces history request accepted _ rfl
  have owned := slot_owned produces history
  refine .atomicStore _ _ (owned.stable (room_stable produces history) _)
    (publishedOnce_stable contract history request) ?_ ?_
  · exact fun world holds => holds.1.2.2
  · rintro world invariant ⟨⟨rfl, room, pending⟩, image⟩
    obtain ⟨kept, same⟩ := ((produces.invariant world).mp invariant).publish world request
      accepted room fits image
    have moves : ProducerMoves world {
        memory := world.memory.storeWord headerProducerSequenceOffset (world.history.length + 1)
        history := world.history ++ [request] } := ⟨List.prefix_append _ _, same⟩
    exact ⟨_, (produces.invariant _).mpr kept, produces.publishes _ _ moves, world, _, pending,
      moves, rfl, contract.rely_refl _⟩

/-- The world of a call that has not published anything. -/
def Unpublished (contract : Contract Published) (start world : World Published) : Prop :=
  contract.rely start world ∧ contract.pending world

theorem unpublished_stable (start : World Published) :
    contract.Stable (Unpublished contract start) := by
  rintro world next - rely ⟨moved, pending⟩
  exact ⟨contract.rely_trans _ _ _ moved rely, produces.pending_rely _ _ rely pending⟩

/-- What a completed write says: its request was appended under the next ring sequence, or nothing
was published because the queue was full when the call began. -/
def Wrote (descriptor : RingV2Descriptor) (contract : Contract Published)
    (start : World Published) (request : WriteRequest) (status : WriteV2Status)
    (world : World Published) : Prop :=
  match status with
  | .written metadata => PublishedOnce contract start.history request world ∧
      metadata = publishedMetadata descriptor (start.history.length + 1) request
  | .backpressure queued capacity => contract.rely start world ∧
      queued = descriptor.layout.slotCount ∧ capacity = descriptor.layout.slotCount ∧
        consumed start.memory + descriptor.layout.slotCount ≤ start.history.length

/-- Under a contract whose other endpoint only consumes, a write publishes exactly its request
or nothing, and never reports a corrupt queue. -/
theorem writeMappingBatch_triple (start : World Published) (request : WriteRequest) :
    Triple contract (Unpublished contract start) (writeMappingBatch descriptor request)
      (Wrote descriptor contract start request)
      (fun error world => contract.rely start world ∧ Benign error) := by
  have stable := unpublished_stable produces start
  have observes := produces.toObserves
  have pending (world : World Published) (holds : Unpublished contract start world) :
      contract.pending world := holds.2
  refine .bind (ensureLive_triple observes stable pending) fun _ => ?_
  refine .ensure _ _ stable (fun _ _ _ holds => ⟨holds.1, trivial⟩) fun session => ?_
  refine .ensure _ _ stable (fun _ _ _ holds => ⟨holds.1, trivial⟩) fun logical => ?_
  refine .ensure _ _ stable (fun _ _ _ holds => ⟨holds.1, trivial⟩) fun batch => ?_
  refine .ensure _ _ stable (fun _ _ _ holds => ⟨holds.1, trivial⟩) fun dimensions => ?_
  refine .orFail _ _ stable (fun _ _ _ holds => ⟨holds.1, trivial⟩) fun expected size => ?_
  rw [checkedMul_eq_some] at size
  obtain ⟨rfl, -⟩ := size
  refine .ensure _ _ stable (fun _ _ _ holds => ⟨holds.1, trivial⟩) fun pixels => ?_
  have accepted : Accepted descriptor.layout request :=
    ⟨by simpa using session, logical, batch, dimensions, pixels⟩
  refine .bind (mappingState_triple observes stable pending
    fun world holds => ⟨holds.1, trivial⟩) fun state => ?_
  -- From here on the produced counter is known and the consumed one is a lower bound.
  let known (world : World Published) : Prop :=
    Unpublished contract start world ∧
      state.producerSequence = state.consumerSequence + state.occupancy ∧
      Snapshot descriptor contract (Unpublished contract start) state.producerSequence
        state.consumerSequence world
  have knownStable : contract.Stable known :=
    fun world next invariant rely holds => ⟨stable world next invariant rely holds.1,
      holds.2.1, holds.2.2.later _ _ world next rely⟩
  have counters (world : World Published) (holds : known world) :
      state.producerSequence = start.history.length ∧ world.history = start.history ∧
        state.consumerSequence ≤ consumed world.memory ∧
        state.occupancy ≤ descriptor.layout.slotCount := by
    obtain ⟨⟨moved, -⟩, sum, seen, -, ring, later, producerExact, consumerExact⟩ := holds
    have moves := produces.others _ _ later
    have fromStart := (produces.others _ _ moved).history
    have capacity := ring.capacity
    have forwards := moves.consumed
    refine ⟨?_, fromStart, by omega, by omega⟩
    rw [producerExact, ← moves.history, fromStart]
  split
  · rename_i full
    refine .done _ knownStable fun world _ holds => ⟨holds.1.1, full, rfl, ?_⟩
    obtain ⟨-, sum, seen, ⟨early, -⟩, -, -, producerExact, consumerExact⟩ := holds
    have moves := produces.others _ _ early
    have forwards := moves.consumed
    rw [← moves.history]
    omega
  · rename_i notFull
    refine .orFail _ _ knownStable (fun _ _ _ holds => ⟨holds.1.1, trivial⟩)
      fun slotSequence next => ?_
    rw [checkedAdd_eq_some] at next
    refine .orFail _ _ knownStable (fun _ _ _ holds => ⟨holds.1.1, trivial⟩)
      fun base address => ?_
    rw [slotBase_eq, Option.some.injEq] at address
    obtain ⟨rfl, fits⟩ := next
    subst address
    intro world holds
    obtain ⟨producerExact, same, lower, bound⟩ := counters world holds
    have room : Room descriptor contract start.history world := by
      refine ⟨same, ?_, holds.1.2⟩
      have sum := holds.2.1
      omega
    rw [producerExact] at fits ⊢
    refine Triple.bind (publishBatch_triple produces start.history request accepted fits)
      (fun _ => ?_) world room
    exact Triple.done _ (publishedOnce_stable contract start.history request)
      fun world _ published => ⟨published, rfl⟩

end

end LatentDeck.Ring
