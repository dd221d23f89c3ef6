import LatentDeck.Ring.Consumer

/-!
# One producer and one consumer on one mapping

The two endpoints of a freshly initialised mapping, interleaved access by access under an
arbitrary schedule. Their logs are related to the mapping by the roles below; the library's
interleaving theorem then gives the correctness of every reachable state.
-/

namespace LatentDeck.Ring

open LittleEndian Checked Program

abbrev WriteLog := List (WriteRequest × Except RingError WriteV2Status)

abbrev ReadLog := List (Unit × Except RingError ReadV2Status)

/-- The metadata a write reported, if it published. -/
def writtenMetadata : Except RingError WriteV2Status → Option BatchV2Metadata
  | .ok (.written metadata) => some metadata
  | _ => none

/-- The batch a read returned, if there was one. -/
def returnedBatch : Except RingError ReadV2Status → Option RgbaBatchV2
  | .ok (.batch batch) => some batch
  | _ => none

/-- The requests whose write reported a publication, oldest first. -/
def committedRequests (log : WriteLog) : List WriteRequest :=
  log.filterMap fun entry => (writtenMetadata entry.2).map fun _ => entry.1

/-- The metadata the successful writes reported, oldest first. -/
def reportedMetadata (log : WriteLog) : List BatchV2Metadata :=
  log.filterMap fun entry => writtenMetadata entry.2

/-- The batches the reads returned, oldest first. -/
def returnedBatches (log : ReadLog) : List RgbaBatchV2 :=
  log.filterMap fun entry => returnedBatch entry.2

/-- The batches of published requests, under ring sequences from one. -/
def publishedBatches (descriptor : RingV2Descriptor) (history : Published) : List RgbaBatchV2 :=
  history.mapIdx fun index request => publishedBatch descriptor (index + 1) request

/-- The batches the successful writes committed, oldest first. -/
def committedBatches (descriptor : RingV2Descriptor) (log : WriteLog) : List RgbaBatchV2 :=
  publishedBatches descriptor (committedRequests log)

/-- A call did not accuse the mapping of corrupt counters or a corrupt slot. -/
def NoCorruption {α : Type} : Except RingError α → Prop
  | .ok _ => True
  | .error error => Benign error

theorem publishedBatches_concat (descriptor : RingV2Descriptor) (history : Published)
    (request : WriteRequest) :
    publishedBatches descriptor (history ++ [request]) =
      publishedBatches descriptor history ++
        [publishedBatch descriptor (history.length + 1) request] := by
  simp only [publishedBatches, List.mapIdx_append, List.mapIdx_cons, List.mapIdx_nil, Nat.zero_add]

@[simp]
theorem publishedBatches_length (descriptor : RingV2Descriptor) (history : Published) :
    (publishedBatches descriptor history).length = history.length :=
  List.length_mapIdx

theorem publishedBatches_getElem (descriptor : RingV2Descriptor) (history : Published)
    (index : Nat) : (publishedBatches descriptor history)[index]? =
      history[index]?.map (publishedBatch descriptor (index + 1)) :=
  List.getElem?_mapIdx

theorem publishedBatches_prefix (descriptor : RingV2Descriptor) (earlier later : Published)
    (grown : earlier <+: later) :
    publishedBatches descriptor earlier <+: publishedBatches descriptor later := by
  obtain ⟨more, rfl⟩ := grown
  simp only [publishedBatches, List.mapIdx_append]
  exact List.prefix_append _ _

theorem publishedBatches_sequences (descriptor : RingV2Descriptor) (history : Published) :
    (publishedBatches descriptor history).map (·.metadata.slotSequence) =
      List.range' 1 history.length := by
  apply List.ext_getElem?
  intro index
  rw [List.getElem?_map, publishedBatches_getElem]
  by_cases inside : index < history.length
  · rw [List.getElem?_eq_getElem inside, List.getElem?_range' inside]
    simp only [Option.map_some, publishedBatch, publishedMetadata, Option.some.injEq]
    omega
  · rw [List.getElem?_eq_none (by omega), List.getElem?_eq_none (by simp; omega)]
    rfl

/-- The producer relies on the consumer only consuming. -/
def producerContract (descriptor : RingV2Descriptor) : Contract Published where
  invariant := RingInvariant descriptor
  rely := ConsumerMoves
  guarantee := ProducerMoves
  pending := fun _ => True
  rely_refl := fun _ => ⟨rfl, fun _ _ => rfl, Nat.le_refl _⟩
  rely_trans := fun _ _ _ first second => ⟨second.history.trans first.history,
    fun address outside => (second.bytes address outside).trans (first.bytes address outside),
    Nat.le_trans first.consumed second.consumed⟩

/-- The consumer relies on the producer only publishing. -/
def consumerContract (descriptor : RingV2Descriptor) : Contract Published where
  invariant := RingInvariant descriptor
  rely := ProducerMoves
  guarantee := ConsumerMoves
  pending := fun _ => True
  rely_refl := fun _ => ⟨List.prefix_refl _, rfl⟩
  rely_trans := fun _ _ _ first second => ⟨first.history.trans second.history,
    second.consumed.trans first.consumed⟩

/-- What the completed writes say: they committed the published requests in order. -/
structure WritesLogged (descriptor : RingV2Descriptor) (log : WriteLog)
    (world : World Published) : Prop where
  committed : committedRequests log = world.history
  reported : reportedMetadata log = (committedBatches descriptor log).map (·.metadata)
  clean : ∀ entry ∈ log, NoCorruption entry.2

/-- What the completed reads say: they returned the published batches in order. -/
structure ReadsLogged (descriptor : RingV2Descriptor) (log : ReadLog)
    (world : World Published) : Prop where
  returned : returnedBatches log =
    (publishedBatches descriptor world.history).take (consumed world.memory)
  ordered : consumed world.memory ≤ world.history.length
  clean : ∀ entry ∈ log, NoCorruption entry.2

theorem clean_concat {ρ α : Type} (log : List (ρ × Except RingError α)) (request : ρ)
    (result : Except RingError α) (clean : ∀ entry ∈ log, NoCorruption entry.2)
    (last : NoCorruption result) : ∀ entry ∈ log ++ [(request, result)], NoCorruption entry.2 := by
  intro entry member
  obtain member | member := List.mem_append.mp member
  · exact clean entry member
  · rw [List.mem_singleton.mp member]
    exact last

variable {descriptor : RingV2Descriptor} {world : World Published} {start : World Published}

/-- A write that published nothing leaves the log's account as it was. -/
theorem WritesLogged.unpublished {log : WriteLog}
    (logged : WritesLogged descriptor log start) (same : world.history = start.history)
    (request : WriteRequest) (result : Except RingError WriteV2Status)
    (nothing : writtenMetadata result = none) (last : NoCorruption result) :
    WritesLogged descriptor (log ++ [(request, result)]) world := by
  have requests : committedRequests (log ++ [(request, result)]) = committedRequests log := by
    simp [committedRequests, nothing]
  have metadata : reportedMetadata (log ++ [(request, result)]) = reportedMetadata log := by
    simp [reportedMetadata, nothing]
  refine ⟨?_, ?_, clean_concat log request result logged.clean last⟩
  · rw [requests, logged.committed, same]
  · rw [metadata, logged.reported, committedBatches, committedBatches, requests]

/-- A write that published appends its request and its metadata. -/
theorem WritesLogged.published {log : WriteLog}
    (logged : WritesLogged descriptor log start) (request : WriteRequest)
    (appended : world.history = start.history ++ [request]) :
    WritesLogged descriptor (log ++ [(request, .ok (.written
      (publishedMetadata descriptor (start.history.length + 1) request)))]) world := by
  have requests : committedRequests (log ++ [(request, .ok (.written
      (publishedMetadata descriptor (start.history.length + 1) request)))]) =
        start.history ++ [request] := by
    rw [← logged.committed]
    simp [committedRequests, writtenMetadata]
  refine ⟨requests.trans appended.symm, ?_, clean_concat log request _ logged.clean trivial⟩
  rw [committedBatches, requests, publishedBatches_concat, List.map_append, ← logged.committed]
  change _ = (committedBatches descriptor log).map _ ++ _
  rw [← logged.reported, logged.committed]
  simp [reportedMetadata, writtenMetadata, publishedBatch]

variable {log : ReadLog}

section

variable (logged : ReadsLogged descriptor log start)

include logged

theorem ReadsLogged.later
    (moved : ProducerMoves start world) : ReadsLogged descriptor log world := by
  obtain ⟨more, grown⟩ := publishedBatches_prefix descriptor _ _ moved.history
  have longer := moved.history.length_le
  refine ⟨?_, ?_, logged.clean⟩
  · rw [logged.returned, moved.consumed, ← grown,
      List.take_append_of_le_length (by simpa using logged.ordered)]
  · rw [moved.consumed]
    exact Nat.le_trans logged.ordered longer

theorem ReadsLogged.unread
    (moved : ProducerMoves start world) (result : Except RingError ReadV2Status)
    (nothing : returnedBatch result = none) (last : NoCorruption result) :
    ReadsLogged descriptor (log ++ [((), result)]) world := by
  have batches : returnedBatches (log ++ [((), result)]) = returnedBatches log := by
    simp [returnedBatches, nothing]
  have kept := logged.later moved
  exact ⟨batches.trans kept.returned, kept.ordered,
    clean_concat log () result logged.clean last⟩

theorem ReadsLogged.read (grown : start.history <+: world.history) (request : WriteRequest)
    (advanced : consumed world.memory = consumed start.memory + 1)
    (oldest : world.history[consumed start.memory]? = some request) :
    ReadsLogged descriptor (log ++ [((), .ok (.batch
      (publishedBatch descriptor (consumed start.memory + 1) request)))]) world := by
  have found : (publishedBatches descriptor world.history)[consumed start.memory]? =
      some (publishedBatch descriptor (consumed start.memory + 1) request) := by
    rw [publishedBatches_getElem, oldest]
    rfl
  obtain ⟨more, extended⟩ := publishedBatches_prefix descriptor _ _ grown
  have earlier : returnedBatches log =
      (publishedBatches descriptor world.history).take (consumed start.memory) := by
    rw [logged.returned, ← extended,
      List.take_append_of_le_length (by simpa using logged.ordered)]
  refine ⟨?_, ?_, clean_concat log () _ logged.clean trivial⟩
  · rw [advanced, List.take_add_one, found, ← earlier]
    simp [returnedBatches, returnedBatch]
  · rw [advanced]
    exact (List.getElem?_eq_some_iff.mp oldest).1

end

/-- The producer's part: its writes commit the published requests in order. -/
def producerRole (descriptor : RingV2Descriptor) :
    Role Published WriteRequest RingError WriteV2Status where
  contract := producerContract descriptor
  logged := WritesLogged descriptor
  call := writeMappingBatch descriptor
  logged_stable := fun _ _ _ _ moves logged =>
    ⟨logged.committed.trans moves.history.symm, logged.reported, logged.clean⟩
  secure := by
    intro log request world logged
    have produces : Produces descriptor
        { producerContract descriptor with pending := WritesLogged descriptor log } :=
      { invariant := fun _ => Iff.rfl
        progress := fun _ _ moves => ⟨moves.history ▸ List.prefix_refl _, moves.consumed⟩
        others := fun _ _ moves => moves
        publishes := fun _ _ moves => moves
        pending_rely := fun _ _ moves logged =>
          ⟨logged.committed.trans moves.history.symm, logged.reported, logged.clean⟩
        pending_store := fun _ _ same _ logged =>
          ⟨logged.committed.trans same.symm, logged.reported, logged.clean⟩ }
    apply Contract.secure_weaken _ _ _ _ _ (writeMappingBatch_triple produces world request world
      ⟨(producerContract descriptor).rely_refl world, logged⟩)
    rintro (error | (metadata | ⟨queued, capacity⟩)) next wrote
    · exact logged.unpublished wrote.1.history request _ rfl wrote.2
    · obtain ⟨⟨before, after, -, -, appended, later⟩, rfl⟩ := wrote
      exact logged.published request (later.history.trans appended)
    · exact logged.unpublished wrote.1.history request _ rfl trivial

/-- The consumer's part: its reads return the published batches in order. -/
def consumerRole (descriptor : RingV2Descriptor) : Role Published Unit RingError ReadV2Status where
  contract := consumerContract descriptor
  logged := ReadsLogged descriptor
  call := fun _ => readMappingBatch descriptor
  logged_stable := fun _ _ _ _ moves logged => logged.later moves
  secure := by
    intro log request world logged
    have consumes : Consumes descriptor
        { consumerContract descriptor with pending := ReadsLogged descriptor log } :=
      { invariant := fun _ => Iff.rfl
        progress := fun _ _ moves => ⟨moves.history, moves.consumed.ge⟩
        others := fun _ _ moves => moves
        consumes := fun _ _ moves => moves
        pending_moves := fun _ _ moves logged => logged.later moves }
    apply Contract.secure_weaken _ _ _ _ _ (readMappingBatch_triple consumes world world
      ⟨(consumerContract descriptor).rely_refl world, logged⟩)
    rintro (error | (batch | _)) next result
    · exact logged.unread result.1 _ rfl result.2
    · obtain ⟨⟨before, after, first, once, second⟩, advanced, oldest, found, rfl⟩ := result
      have grown : world.history <+: next.history :=
        first.history.trans (once.history ▸ second.history)
      exact logged.read grown oldest advanced found
    · exact logged.unread result.1 _ rfl trivial

theorem roles_compatible (descriptor : RingV2Descriptor) :
    (producerRole descriptor).Compatible (consumerRole descriptor) where
  invariant := fun _ => Iff.rfl
  left_right := fun _ _ _ _ moves => moves
  right_left := fun _ _ _ _ moves => moves

/-- Initialising a mapping of the layout's length leaves an empty queue. -/
theorem initializeMapping_empty (descriptor : RingV2Descriptor) (memory : Memory) :
    ∃ after, (initializeMapping descriptor.layout.mappingBytes descriptor).run memory =
        (.ok (), after) ∧
      RingInvariant descriptor { memory := after, history := [] } ∧ consumed after = 0 := by
  have length : mappingHeaderBytes ≤ descriptor.layout.mappingBytes := by
    rw [descriptor.layout.mapping_exact]
    exact Nat.le_add_right _ _
  simp only [mappingHeaderBytes] at length
  have generation : descriptor.generation < 256 ^ 8 := by
    have bound := descriptor.generation_bound.2
    norm_num
    omega
  simp only [initializeMapping, fillZero, putU32, putU64, headerMagicOffset, headerAbiOffset,
    headerBytesOffset, headerGenerationOffset, headerStateOffset, headerSlotCountOffset,
    headerSlotHeaderBytesOffset, headerWidthOffset, headerHeightOffset, headerFrameStrideOffset,
    headerSlotBytesOffset, headerSlotStrideOffset, headerMappingBytesOffset, headerMaxBatchOffset,
    headerPixelFormatOffset, run_bind, run_ensure_pos, run_storeBytes]
  -- Each header word keeps its last store; the counters keep the cleared mapping's zero.
  have cleared (other : Nat) (inHeader : other + 8 ≤ 4096) :
      (memory.store 0 (List.replicate descriptor.layout.mappingBytes 0)).word other = 0 :=
    Memory.word_store_zero _ _ _ _ ⟨Nat.zero_le _, by omega⟩
  refine ⟨_, rfl, ?_, ?_⟩
  · constructor
    · simp (disch := simp) only [headerStateOffset, Memory.word_store_disjoint]
      exact Memory.word_storeWord_same _ 24 stateReady (by decide)
    · simp (disch := simp) only [headerGenerationOffset, Memory.word_store_disjoint]
      exact Memory.word_storeWord_same _ 16 _ descriptor.generation_bound.2
    · simp (disch := simp [magic]) only [produced, headerProducerSequenceOffset,
        Memory.word_store_disjoint]
      exact cleared 88 (by omega)
    · simp (disch := simp [magic]) only [consumed, headerConsumerSequenceOffset,
        Memory.word_store_disjoint]
      exact (cleared 96 (by omega)).le
    · exact Nat.zero_le _
    · simp
    · simp
  · simp (disch := simp [magic]) only [consumed, headerConsumerSequenceOffset,
      Memory.word_store_disjoint]
    exact cleared 96 (by omega)

/-- The memory `initialize_mapping` leaves, whatever it held before. -/
def initialMemory (descriptor : RingV2Descriptor) (memory : Memory) : Memory :=
  ((initializeMapping descriptor.layout.mappingBytes descriptor).run memory).2

/-- A producer and a consumer on a freshly initialised mapping, after a schedule of accesses. -/
def concurrentRing (descriptor : RingV2Descriptor) (memory : Memory)
    (schedule : List (Turn WriteRequest Unit)) :
    System WriteRequest Unit RingError WriteV2Status ReadV2Status :=
  System.run (writeMappingBatch descriptor) (fun _ => readMappingBatch descriptor)
    { memory := initialMemory descriptor memory, left := Endpoint.idle, right := Endpoint.idle }
    schedule

/-- Every reachable state of the two endpoints is sound. -/
theorem concurrentRing_sound (descriptor : RingV2Descriptor) (memory : Memory)
    (schedule : List (Turn WriteRequest Unit)) :
    (concurrentRing descriptor memory schedule).Sound (producerRole descriptor)
      (consumerRole descriptor) := by
  apply System.run_sound _ _ (roles_compatible descriptor)
  obtain ⟨after, ran, invariant, nothing⟩ := initializeMapping_empty descriptor memory
  have initial : initialMemory descriptor memory = after := by rw [initialMemory, ran]
  refine ⟨[], ?_, ⟨⟨rfl, rfl, by simp [Endpoint.idle]⟩, by simp [Endpoint.idle]⟩,
    ⟨⟨?_, ?_, by simp [Endpoint.idle]⟩, by simp [Endpoint.idle]⟩⟩
  · rw [initial]
    exact invariant
  · simp [returnedBatches, publishedBatches, Endpoint.idle]
  · simp only [initial, nothing]
    exact Nat.zero_le _

/-- In every interleaving of the accesses of a producer and a consumer, the reads return exactly the
committed batches in ring order, the counters stay a bounded queue, and neither endpoint accuses the
mapping of corruption. -/
theorem interleaved_batches_exact (descriptor : RingV2Descriptor) (memory : Memory)
    (schedule : List (Turn WriteRequest Unit)) :
    let system := concurrentRing descriptor memory schedule
    let committed := committedBatches descriptor system.left.log
    let returned := returnedBatches system.right.log
    returned <+: committed ∧
    reportedMetadata system.left.log = committed.map (·.metadata) ∧
    returned.map (·.metadata.slotSequence) = List.range' 1 returned.length ∧
    (∀ batch ∈ returned, batch.metadata.generation = descriptor.generation ∧
      batch.pixels.length = batch.width * batch.height * bytesPerPixel * batch.metadata.batch) ∧
    consumed system.memory = returned.length ∧
    produced system.memory = committed.length ∧
    consumed system.memory ≤ produced system.memory ∧
    produced system.memory ≤ consumed system.memory + descriptor.layout.slotCount ∧
    (∀ entry ∈ system.left.log, NoCorruption entry.2) ∧
    (∀ entry ∈ system.right.log, NoCorruption entry.2) := by
  intro system committed returned
  obtain ⟨history, ring, ⟨writes, -⟩, ⟨reads, -⟩⟩ :=
    concurrentRing_sound descriptor memory schedule
  change RingInvariant descriptor { memory := system.memory, history } at ring
  have committedExact : committed = publishedBatches descriptor history := by
    exact congrArg (publishedBatches descriptor) writes.committed
  have returnedExact : returned = committed.take (consumed system.memory) := by
    rw [committedExact]
    exact reads.returned
  have counted : consumed system.memory = returned.length := by
    rw [returnedExact, committedExact, List.length_take, publishedBatches_length]
    exact (Nat.min_eq_left ring.ordered).symm
  have total : produced system.memory = committed.length := by
    rw [committedExact, publishedBatches_length]
    exact ring.produced
  have started : returned <+: committed := by
    rw [returnedExact]
    exact List.take_prefix _ _
  refine ⟨started, writes.reported, ?_, ?_, counted, total, ?_, ?_, writes.clean, reads.clean⟩
  · rw [returnedExact, List.map_take, committedExact, publishedBatches_sequences,
      List.take_range'_of_length_ge ring.ordered, List.length_take, publishedBatches_length,
      Nat.min_eq_left ring.ordered]
  · intro batch member
    have among : batch ∈ publishedBatches descriptor history := by
      rw [← committedExact]
      exact started.subset member
    obtain ⟨index, found⟩ := List.mem_iff_getElem?.mp among
    rw [publishedBatches_getElem, Option.map_eq_some_iff] at found
    obtain ⟨request, present, rfl⟩ := found
    have accepted := ring.accepted request (List.mem_of_getElem? present)
    refine ⟨rfl, ?_⟩
    simp only [publishedBatch, publishedMetadata]
    rw [accepted.pixels, payloadBytes, descriptor.layout.frame_exact, accepted.dimensions.1,
      accepted.dimensions.2]
  · rw [ring.produced]
    exact ring.ordered
  · rw [ring.produced]
    exact ring.capacity

end LatentDeck.Ring
