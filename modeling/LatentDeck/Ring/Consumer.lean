import LatentDeck.Ring.Producer

/-!
# Consuming a batch

The specification of `read_mapping_batch` under any contract whose other endpoint only publishes.
While a batch is outstanding the producer leaves its slot alone, so every field the reader loads
is the field of the slot image, whatever the producer does between two loads.
-/

namespace LatentDeck.Ring

open LittleEndian Checked

/-- A contract under which an endpoint may consume. -/
structure Consumes (descriptor : RingV2Descriptor) (contract : Contract Published) : Prop
    extends Observes descriptor contract where
  others : ∀ world next, contract.rely world next → ProducerMoves world next
  consumes : ∀ world next, ConsumerMoves world next → contract.guarantee world next
  pending_moves : ∀ world next, ProducerMoves world next →
    contract.pending world → contract.pending next

variable {descriptor : RingV2Descriptor} {contract : Contract Published}

/-- The world of a call that has not consumed anything. -/
def Unread (contract : Contract Published) (start world : World Published) : Prop :=
  contract.rely start world ∧ contract.pending world

theorem unread_stable (consumes : Consumes descriptor contract) (start : World Published) :
    contract.Stable (Unread contract start) := by
  rintro world next - rely ⟨moved, pending⟩
  exact ⟨contract.rely_trans _ _ _ moved rely,
    consumes.pending_moves _ _ (consumes.others _ _ rely) pending⟩

/-- A call that has found the oldest outstanding batch and not consumed it. -/
def Found (contract : Contract Published) (start : World Published) (request : WriteRequest)
    (world : World Published) : Prop :=
  Unread contract start world ∧ world.history[consumed start.memory]? = some request

theorem found_stable (consumes : Consumes descriptor contract) (start : World Published)
    (request : WriteRequest) : contract.Stable (Found contract start request) := by
  intro world next invariant rely ⟨unread, found⟩
  obtain ⟨more, grown⟩ := (consumes.others _ _ rely).history
  refine ⟨unread_stable consumes start world next invariant rely unread, ?_⟩
  rw [← grown, List.getElem?_append_left (List.getElem?_eq_some_iff.mp found).1, found]

/-- The address of the oldest outstanding slot. -/
abbrev nextSlot (descriptor : RingV2Descriptor) (start : World Published) : Nat :=
  slotAddress descriptor.layout (slotIndex descriptor.layout (consumed start.memory + 1))

section Fields

variable {start : World Published} {request : WriteRequest}
variable {failed : RingError → World Published → Prop}
variable (consumes : Consumes descriptor contract)

include consumes

theorem found_slot (world : World Published)
    (invariant : contract.invariant world) (found : Found contract start request world) :
    Accepted descriptor.layout request ∧
      slotContent descriptor.layout world.memory (consumed start.memory + 1) =
        slotImage descriptor (consumed start.memory + 1) request := by
  have ring := (consumes.invariant world).mp invariant
  have same := (consumes.others _ _ found.1.1).consumed
  refine ⟨ring.accepted request (List.mem_of_getElem? found.2), ?_⟩
  exact ring.slots _ request found.2 (by omega)

theorem found_field (index : Nat) (field : List UInt8) (offset : Nat)
    (known : (slotFields descriptor (consumed start.memory + 1) request)[index]? = some field)
    (position : offset = ((slotFields descriptor (consumed start.memory + 1) request).take
      index).flatten.length) (world : World Published) (invariant : contract.invariant world)
    (found : Found contract start request world) :
    world.memory.load (nextSlot descriptor start + offset) field.length = field := by
  subst position
  exact Memory.load_flatten_field world.memory _ _ index _ field
    (found_slot consumes world invariant found).2 known

/-- Plain loads of a field of the oldest outstanding slot return it. -/
theorem loadField_triple (index : Nat) (field : List UInt8) (offset count : Nat)
    (known : (slotFields descriptor (consumed start.memory + 1) request)[index]? = some field)
    (position : offset = ((slotFields descriptor (consumed start.memory + 1) request).take
      index).flatten.length) (width : count = field.length) :
    Triple contract (Found contract start request)
      (Program.loadBytes (nextSlot descriptor start + offset) count)
      (fun bytes world => bytes = field ∧ Found contract start request world) failed := by
  subst width
  exact Triple.loadBytes _ _ field (found_stable consumes start request)
    (fun world found => found.1.2)
    (found_field consumes index field offset known position)

/-- A plain 32-bit field of the oldest outstanding slot is read exactly. -/
theorem getU32_triple (index value : Nat) (offset : Nat)
    (known : (slotFields descriptor (consumed start.memory + 1) request)[index]? =
      some (leBytes 4 value))
    (position : offset = ((slotFields descriptor (consumed start.memory + 1) request).take
      index).flatten.length) (fits : value < 2 ^ 32) :
    Triple contract (Found contract start request)
      (getU32 (nextSlot descriptor start + offset))
      (fun read world => read = value ∧ Found contract start request world) failed := by
  refine Triple.bind (loadField_triple consumes index _ offset 4 known position (by simp))
    fun bytes => Triple.known fun same => ?_
  refine Triple.done _ (found_stable consumes start request) fun _ _ found => ⟨?_, found⟩
  rw [same, leValue_leBytes_of_lt _ _ (by norm_num; omega)]

/-- A plain 64-bit field of the oldest outstanding slot is read exactly. -/
theorem getU64_triple (index value : Nat) (offset : Nat)
    (known : (slotFields descriptor (consumed start.memory + 1) request)[index]? =
      some (leBytes 8 value))
    (position : offset = ((slotFields descriptor (consumed start.memory + 1) request).take
      index).flatten.length) (fits : value < 2 ^ 64) :
    Triple contract (Found contract start request)
      (getU64 (nextSlot descriptor start + offset))
      (fun read world => read = value ∧ Found contract start request world) failed := by
  refine Triple.bind (loadField_triple consumes index _ offset 8 known position (by simp))
    fun bytes => Triple.known fun same => ?_
  refine Triple.done _ (found_stable consumes start request) fun _ _ found => ⟨?_, found⟩
  rw [same, leValue_leBytes_of_lt _ _ (by norm_num; omega)]

/-- A cleared field of the oldest outstanding slot has no nonzero byte. -/
theorem clearField_triple (index offset count : Nat)
    (known : (slotFields descriptor (consumed start.memory + 1) request)[index]? =
      some (List.replicate count 0))
    (position : offset = ((slotFields descriptor (consumed start.memory + 1) request).take
      index).flatten.length) :
    Triple contract (Found contract start request)
      (Program.anyNonzero (nextSlot descriptor start + offset) count)
      (fun found world => found = false ∧ Found contract start request world) failed := by
  refine Triple.anyNonzero _ _ (found_stable consumes start request)
    (fun world found => found.1.2) ?_
  intro world invariant found
  have loaded := found_field consumes index _ offset known position world invariant found
  rwa [List.length_replicate] at loaded

theorem fieldCheck_triple (value : Nat) (field : Program RingError Nat) (decided : Nat → Bool)
    (loads : Triple contract (Found contract start request) field
      (fun read world => read = value ∧ Found contract start request world) failed)
    (holds : decided value = true) :
    Triple contract (Found contract start request)
      (do return decided (← field))
      (fun valid world => valid = true ∧ Found contract start request world) failed := by
  refine Triple.bind loads fun read => Triple.known fun same => ?_
  exact Triple.done _ (found_stable consumes start request)
    fun _ _ found => ⟨by rw [same, holds], found⟩

end Fields

theorem Accepted.payload {layout : RingV2Layout} {request : WriteRequest}
    (accepted : Accepted layout request) :
    payloadBytes layout request ≤ layout.slotBytes ∧
      slotHeaderBytes + layout.slotBytes ≤ layout.slotStrideBytes ∧
      layout.slotStrideBytes < 2 ^ 32 := by
  have stride := layout.stride_fits
  have slot := slotAddress_end layout 0 (slotCount_positive layout)
  have cap := layout.mapping_cap
  simp only [maxMappingBytes] at cap
  refine ⟨?_, stride, by omega⟩
  rw [layout.slot_exact]
  exact Nat.mul_le_mul_left _ accepted.batch.2

/-- The header of the oldest outstanding slot passes the reader's checks. -/
theorem slotHeaderValid_triple (consumes : Consumes descriptor contract) (start : World Published)
    (request : WriteRequest) (accepted : Accepted descriptor.layout request)
    {failed : RingError → World Published → Prop} :
    Triple contract (Found contract start request)
      (slotHeaderValid descriptor (nextSlot descriptor start) request.batch.toNat
        request.logicalSequence.toNat (payloadBytes descriptor.layout request)
        (payloadBytes descriptor.layout request) request.sessionId.bytes)
      (fun valid world => valid = true ∧ Found contract start request world) failed := by
  have stable := found_stable consumes start request
  have session := request.sessionId.length
  obtain ⟨payload, stride, small⟩ := accepted.payload
  have widthBound := descriptor.layout.width_bound
  have heightBound := descriptor.layout.height_bound
  have frame : descriptor.layout.frameStrideBytes ≤ descriptor.layout.slotBytes := by
    rw [descriptor.layout.slot_exact]
    exact Nat.le_mul_of_pos_right _ descriptor.layout.batch_bound.1
  have logical : request.logicalSequence.toNat ≠ 0 :=
    fun zero => accepted.logical (UInt64.toNat_inj.mp zero)
  apply Triple.allOf _ stable
  intro check member
  simp only [List.mem_cons, List.not_mem_nil, or_false] at member
  obtain rfl | rfl | rfl | rfl | rfl | rfl | rfl | rfl | rfl | rfl := member
  · exact fieldCheck_triple consumes descriptor.generation _
      (fun read => decide (read = descriptor.generation))
      (getU64_triple consumes 1 _ _ rfl (by simp [slotFields, slotGenerationOffset])
        descriptor.generation_bound.2) (by simp)
  · exact Triple.done _ stable fun _ _ found => ⟨by simp [logical], found⟩
  · refine Triple.done _ stable fun _ _ found => ⟨?_, found⟩
    have notAll := accepted.session
    rw [List.all_eq_not_any_not] at notAll
    simpa using notAll
  · exact Triple.done _ stable fun _ _ found => ⟨by simpa using accepted.batch, found⟩
  · exact fieldCheck_triple consumes request.width.toNat _
      (fun read => decide (read = descriptor.layout.width))
      (getU32_triple consumes 5 _ _ rfl (by simp [slotFields, slotWidthOffset, session])
        request.width.toNat_lt) (by simp [accepted.dimensions.1])
  · exact fieldCheck_triple consumes request.height.toNat _
      (fun read => decide (read = descriptor.layout.height))
      (getU32_triple consumes 6 _ _ rfl (by simp [slotFields, slotHeightOffset, session])
        request.height.toNat_lt) (by simp [accepted.dimensions.2])
  · exact fieldCheck_triple consumes descriptor.layout.frameStrideBytes _
      (fun read => decide (read = descriptor.layout.frameStrideBytes))
      (getU64_triple consumes 8 _ _ rfl (by simp [slotFields, slotFrameStrideOffset, session])
        (by omega)) (by simp)
  · exact Triple.done _ stable fun _ _ found => ⟨by simp, found⟩
  · exact Triple.done _ stable fun _ _ found => ⟨by simpa using payload, found⟩
  · refine Triple.bind (clearField_triple consumes 10 _ _ rfl
      (by simp [slotFields, slotReservedOffset, session])) fun nonzero => Triple.known fun zero => ?_
    exact Triple.done _ stable fun _ _ found => ⟨by rw [zero]; rfl, found⟩

/-- The store of the consumer sequence removes the oldest outstanding batch. -/
theorem RingInvariant.consume (world : World Published) (request : WriteRequest)
    (invariant : RingInvariant descriptor world)
    (found : world.history[consumed world.memory]? = some request) :
    let memory := world.memory.storeWord headerConsumerSequenceOffset (consumed world.memory + 1)
    RingInvariant descriptor { memory, history := world.history } ∧
      consumed memory = consumed world.memory + 1 ∧
      ConsumerMoves world { memory, history := world.history } := by
  have outstanding := (List.getElem?_eq_some_iff.mp found).1
  have bound : consumed world.memory + 1 < 2 ^ 64 := by
    have counter := invariant.produced
    have word := world.memory.word_bound headerProducerSequenceOffset
    change LatentDeck.Ring.produced world.memory < 2 ^ 64 at word
    omega
  have other (offset : Nat) (disjoint : offset + 8 ≤ headerConsumerSequenceOffset ∨
      headerConsumerSequenceOffset + 8 ≤ offset) :
      (world.memory.storeWord headerConsumerSequenceOffset
        (consumed world.memory + 1)).word offset = world.memory.word offset :=
    Memory.word_store_disjoint _ _ _ _ (by rwa [leBytes_length])
  have content (sequence : Nat) : slotContent descriptor.layout
      (world.memory.storeWord headerConsumerSequenceOffset (consumed world.memory + 1)) sequence =
        slotContent descriptor.layout world.memory sequence := by
    apply Memory.load_store_disjoint
    have start := slotAddress_header descriptor.layout (slotIndex descriptor.layout sequence)
    rw [leBytes_length]
    simp only [mappingHeaderBytes, headerConsumerSequenceOffset] at start ⊢
    omega
  have advanced : consumed (world.memory.storeWord headerConsumerSequenceOffset
      (consumed world.memory + 1)) = consumed world.memory + 1 :=
    Memory.word_storeWord_same _ _ _ bound
  refine ⟨?_, advanced, rfl, ?_, by simp only [advanced]; omega⟩
  · constructor
    · exact (other headerStateOffset (by decide)).trans invariant.ready
    · exact (other headerGenerationOffset (by decide)).trans invariant.live
    · exact (other headerProducerSequenceOffset (by decide)).trans invariant.produced
    · simp only [advanced]
      exact outstanding
    · have capacity := invariant.capacity
      simp only [advanced]
      omega
    · exact invariant.accepted
    · intro index other found later
      simp only [advanced] at later
      simp only [content]
      exact invariant.slots index other found (by omega)
  · intro address outside
    apply Memory.store_outside
    rwa [leBytes_length]

/-- A world reached by one consumption among the moves of the other endpoint. -/
def ConsumedOnce (contract : Contract Published) (start world : World Published) : Prop :=
  ∃ before after, contract.rely start before ∧ ConsumerMoves before after ∧
    contract.rely after world

/-- What a completed read says: the oldest outstanding batch was returned and consumed, or nothing
was because nothing was outstanding when the call began. -/
def ReadResult (descriptor : RingV2Descriptor) (contract : Contract Published)
    (start : World Published) (status : ReadV2Status) (world : World Published) : Prop :=
  match status with
  | .batch batch => ConsumedOnce contract start world ∧
      consumed world.memory = consumed start.memory + 1 ∧
      ∃ request, world.history[consumed start.memory]? = some request ∧
        batch = publishedBatch descriptor (consumed start.memory + 1) request
  | .empty => contract.rely start world ∧ start.history.length ≤ consumed start.memory

/-- The oldest outstanding slot passes every check, is copied whole and is consumed. -/
theorem consumeSlot_triple (consumes : Consumes descriptor contract) (start : World Published)
    (request : WriteRequest) (accepted : Accepted descriptor.layout request)
    {failed : RingError → World Published → Prop} :
    Triple contract (Found contract start request)
      (consumeSlot descriptor (consumed start.memory + 1) (nextSlot descriptor start))
      (ReadResult descriptor contract start) failed := by
  have stable := found_stable consumes start request
  have observes := consumes.toObserves
  have pending (world : World Published) (found : Found contract start request world) :
      contract.pending world := found.1.2
  have session := request.sessionId.length
  have pixels := accepted.pixels
  obtain ⟨payload, stride, small⟩ := accepted.payload
  have address : nextSlot descriptor start + descriptor.layout.slotStrideBytes ≤
      descriptor.layout.mappingBytes := slotAddress_end _ _ (slotIndex_lt _ _)
  have cap := descriptor.layout.mapping_cap
  simp only [maxMappingBytes] at cap
  refine Triple.via (fun committed world => committed = consumed start.memory + 1 ∧
    Found contract start request world) ?_ fun committed => Triple.known fun same => ?_
  · refine Triple.atomicLoad _ stable ?_ pending ?_
    · exact fun value world next invariant rely found =>
        ⟨found.1, stable world next invariant rely found.2⟩
    · intro world invariant found
      refine ⟨?_, found⟩
      have word := found_field consumes 0 (leBytes 8 (consumed start.memory + 1))
        slotSequenceOffset rfl rfl world invariant found
      have bound : consumed start.memory + 1 < 2 ^ 64 := by
        have ring := (consumes.invariant world).mp invariant
        have counter := ring.produced
        have limit := world.memory.word_bound headerProducerSequenceOffset
        have inside := (List.getElem?_eq_some_iff.mp found.2).1
        simp only [produced] at counter
        omega
      rw [leBytes_length] at word
      rw [Memory.word, word, leValue_leBytes_of_lt _ _ (by norm_num; omega)]
  rw [if_neg (by simp [same])]
  refine Triple.bind (getU32_triple consumes 4 request.batch.toNat _ rfl
    (by simp [slotFields, slotBatchOffset, session]) request.batch.toNat_lt)
    fun batch => Triple.known fun batchExact => ?_
  refine Triple.bind (getU64_triple consumes 2 request.logicalSequence.toNat _ rfl
    (by simp [slotFields, slotLogicalSequenceOffset]) request.logicalSequence.toNat_lt)
    fun logical => Triple.known fun logicalExact => ?_
  refine Triple.bind (getU64_triple consumes 9 (payloadBytes descriptor.layout request) _ rfl
    (by simp [slotFields, slotPayloadBytesOffset, session]) (by omega))
    fun length => Triple.known fun lengthExact => ?_
  subst batchExact logicalExact lengthExact
  refine Triple.orFail _ _ stable ?_ fun expected size => ?_
  · intro overflow
    simp only [checkedMul, ite_eq_right_iff, reduceCtorEq, imp_false] at overflow
    simp only [payloadBytes] at payload
    omega
  rw [checkedMul_eq_some] at size
  obtain ⟨rfl, -⟩ := size
  refine Triple.bind (loadField_triple consumes 3 request.sessionId.bytes _ 16 rfl
    (by simp [slotFields, slotSessionIdOffset]) session.symm)
    fun sessionId => Triple.known fun sessionExact => ?_
  subst sessionExact
  refine Triple.bind (slotHeaderValid_triple consumes start request accepted)
    fun valid => Triple.known fun isValid => ?_
  refine Triple.ensure _ _ stable (fun invalid => absurd isValid invalid) fun _ => ?_
  refine Triple.orFail _ _ stable ?_ fun payloadEnd finish => ?_
  · intro overflow
    simp only [checkedAdd, ite_eq_right_iff, reduceCtorEq, imp_false] at overflow
    omega
  rw [checkedAdd_eq_some] at finish
  obtain ⟨rfl, -⟩ := finish
  refine Triple.ensure _ _ stable (fun outside => absurd (by omega) outside) fun inside => ?_
  refine Triple.via (fun padded world =>
    padded = false ∧ Found contract start request world) ?_
    fun padded => Triple.known fun clear => ?_
  · have position : nextSlot descriptor start + slotHeaderBytes +
        payloadBytes descriptor.layout request =
          nextSlot descriptor start + (slotHeaderBytes + payloadBytes descriptor.layout request) :=
      Nat.add_assoc _ _ _
    have count : nextSlot descriptor start + descriptor.layout.slotStrideBytes -
          (nextSlot descriptor start + (slotHeaderBytes + payloadBytes descriptor.layout request)) =
        descriptor.layout.slotStrideBytes - slotHeaderBytes - request.pixels.length := by
      omega
    rw [position, count]
    exact clearField_triple consumes 12 _ _ rfl
      (by simp [slotFields, slotHeaderBytes, session, pixels]; omega)
  refine Triple.ensure _ _ stable (fun nonzero => absurd clear nonzero) fun _ => ?_
  refine Triple.bind (loadField_triple consumes 11 request.pixels _ _ rfl
    (by simp [slotFields, slotHeaderBytes, session]) pixels.symm)
    fun loaded => Triple.known fun exact => ?_
  subst exact
  refine Triple.bind (ensureLive_triple observes stable pending) fun _ => ?_
  let finished (world : World Published) : Prop :=
    ConsumedOnce contract start world ∧ consumed world.memory = consumed start.memory + 1 ∧
      world.history[consumed start.memory]? = some request
  have finishedStable : contract.Stable finished := by
    rintro world next - rely ⟨⟨before, after, first, once, second⟩, advanced, found⟩
    have moves := consumes.others _ _ rely
    refine ⟨⟨before, after, first, once, contract.rely_trans _ _ _ second rely⟩,
      moves.consumed.trans advanced, ?_⟩
    obtain ⟨more, grown⟩ := moves.history
    rw [← grown, List.getElem?_append_left (List.getElem?_eq_some_iff.mp found).1, found]
  refine Triple.via (fun _ => finished) ?_ fun _ => ?_
  · refine Triple.atomicStore _ _ stable finishedStable pending ?_
    intro world invariant found
    have ring := (consumes.invariant world).mp invariant
    have unmoved := (consumes.others _ _ found.1.1).consumed
    have oldest := found.2
    rw [← unmoved] at oldest
    obtain ⟨kept, advanced, moves⟩ := ring.consume world request oldest
    rw [unmoved] at kept advanced moves
    exact ⟨world.history, (consumes.invariant _).mpr kept, consumes.consumes _ _ moves,
      ⟨world, _, found.1.1, moves, contract.rely_refl _⟩, advanced, found.2⟩
  · refine Triple.done _ finishedStable
      fun world _ done => ⟨done.1, done.2.1, request, done.2.2, ?_⟩
    rw [publishedBatch, accepted.dimensions.1, accepted.dimensions.2]
    rfl

/-- Under a contract whose other endpoint only publishes, a read returns exactly the oldest
outstanding batch or nothing, and never reports a corrupt queue. -/
theorem readMappingBatch_triple (consumes : Consumes descriptor contract)
    (start : World Published) :
    Triple contract (Unread contract start) (readMappingBatch descriptor)
      (ReadResult descriptor contract start)
      (fun error world => contract.rely start world ∧ Benign error) := by
  have stable := unread_stable consumes start
  have observes := consumes.toObserves
  have pending (world : World Published) (holds : Unread contract start world) :
      contract.pending world := holds.2
  refine Triple.bind (mappingState_triple observes stable pending
    fun world holds => ⟨holds.1, trivial⟩) fun state => ?_
  -- From here on the consumed counter is known and the produced one is a lower bound.
  let known (world : World Published) : Prop :=
    Unread contract start world ∧
      state.producerSequence = state.consumerSequence + state.occupancy ∧
      Snapshot descriptor contract (Unread contract start) state.producerSequence
        state.consumerSequence world
  have counters (world : World Published) (holds : known world) :
      state.consumerSequence = consumed start.memory ∧
        state.producerSequence ≤ world.history.length := by
    obtain ⟨⟨moved, -⟩, -, seen, -, ring, later, producerExact, consumerExact⟩ := holds
    have moves := consumes.others _ _ later
    have fromStart := (consumes.others _ _ moved).consumed
    exact ⟨by rw [consumerExact, ← moves.consumed, fromStart],
      by rw [producerExact]; exact moves.history.length_le⟩
  have knownStable : contract.Stable known :=
    fun world next invariant rely holds => ⟨stable world next invariant rely holds.1,
      holds.2.1, holds.2.2.later _ _ world next rely⟩
  split
  · refine Triple.done _ knownStable fun world _ holds => ⟨holds.1.1, ?_⟩
    obtain ⟨-, sum, seen, ⟨early, -⟩, -, -, producerExact, consumerExact⟩ := holds
    have moves := consumes.others _ _ early
    have grown := moves.history.length_le
    rw [← moves.consumed]
    omega
  rename_i nonempty
  refine Triple.orFail _ _ knownStable (fun _ _ _ holds => ⟨holds.1.1, trivial⟩)
    fun slotSequence next => ?_
  rw [checkedAdd_eq_some] at next
  refine Triple.orFail _ _ knownStable (fun _ _ _ holds => ⟨holds.1.1, trivial⟩)
    fun base address => ?_
  rw [slotBase_eq, Option.some.injEq] at address
  obtain ⟨rfl, -⟩ := next
  subst address
  apply Triple.at_invariant knownStable
  intro world invariant holds
  obtain ⟨consumerExact, published⟩ := counters world holds
  obtain ⟨-, sum, -⟩ := id holds
  -- The oldest outstanding request, which the producer can no longer touch.
  obtain ⟨request, oldest⟩ : ∃ request, world.history[consumed start.memory]? = some request :=
    ⟨_, List.getElem?_eq_getElem (by omega)⟩
  have found : Found contract start request world := ⟨holds.1, oldest⟩
  obtain ⟨accepted, -⟩ := found_slot consumes world invariant found
  rw [consumerExact]
  exact consumeSlot_triple consumes start request accepted world found

end LatentDeck.Ring
