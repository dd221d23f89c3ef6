import LatentDeck.Ring.Interleaving

/-!
# Whole operations across generations

A run of whole writes, reads, resets and adoptions by two endpoints that each hold their own
descriptor. One operation on a live mapping is the concurrent specification with an environment
that does nothing; an endpoint outside the live generation is stopped by its first check. The
queue of a run is described by its events since the last successful reset.
-/

namespace LatentDeck.Ring

open LittleEndian Checked Program

/-- The contract of an operation that is alone on the mapping and starts with some number of
consumed batches. -/
def aloneContract (descriptor : RingV2Descriptor) (count : Nat) : Contract Published where
  invariant := RingInvariant descriptor
  rely := fun world next => next = world
  guarantee := fun _ _ => True
  pending := fun world => consumed world.memory = count
  rely_refl := fun _ => rfl
  rely_trans := fun _ _ _ first second => second.trans first

variable (descriptor : RingV2Descriptor)

theorem alone_produces (count : Nat) :
    Produces descriptor (aloneContract descriptor count) where
  invariant := fun _ => Iff.rfl
  progress := fun _ _ same => same ▸ ⟨List.prefix_refl _, Nat.le_refl _⟩
  others := fun _ _ same => same ▸ ⟨rfl, fun _ _ => rfl, Nat.le_refl _⟩
  publishes := fun _ _ _ => trivial
  pending_rely := fun _ _ same pending => same ▸ pending
  pending_store := fun _ _ _ same pending => same.trans pending

theorem alone_consumes (count : Nat) :
    Consumes descriptor (aloneContract descriptor count) where
  invariant := fun _ => Iff.rfl
  progress := fun _ _ same => same ▸ ⟨List.prefix_refl _, Nat.le_refl _⟩
  others := fun _ _ same => same ▸ ⟨List.prefix_refl _, rfl⟩
  consumes := fun _ _ _ => trivial
  pending_moves := fun _ _ moves pending => moves.consumed.trans pending

/-- A whole write by a live endpoint publishes its request or leaves the mapping unchanged. -/
theorem writeMappingBatch_run (request : WriteRequest)
    (memory after : Memory) (history : Published) (result : Except RingError WriteV2Status)
    (ring : RingInvariant descriptor { memory, history })
    (ran : (writeMappingBatch descriptor request).run memory = (result, after)) :
    (result = .ok (.written (publishedMetadata descriptor (history.length + 1) request)) ∧
        consumed after = consumed memory ∧
        RingInvariant descriptor { memory := after, history := history ++ [request] }) ∨
      (writtenMetadata result = none ∧ after = memory) := by
  obtain ⟨published, kept, met⟩ := (writeMappingBatch_triple
    (alone_produces descriptor (consumed memory)) { memory, history } request).run
      { memory, history } ring ⟨rfl, rfl⟩ result after ran
  match result with
  | .error _ => exact Or.inr ⟨rfl, congrArg World.memory met.1⟩
  | .ok (.backpressure _ _) => exact Or.inr ⟨rfl, congrArg World.memory met.1⟩
  | .ok (.written metadata) =>
    obtain ⟨⟨before, -, pending, moves, appended, rfl⟩, exact⟩ := met
    change published = history ++ [request] at appended
    subst appended
    exact Or.inl ⟨by rw [exact], moves.consumed.trans pending, kept⟩

/-- A whole read by a live endpoint consumes the oldest batch or leaves the mapping unchanged. -/
theorem readMappingBatch_run (memory after : Memory)
    (history : Published) (result : Except RingError ReadV2Status)
    (ring : RingInvariant descriptor { memory, history })
    (ran : (readMappingBatch descriptor).run memory = (result, after)) :
    (∃ request, history[consumed memory]? = some request ∧
        result = .ok (.batch (publishedBatch descriptor (consumed memory + 1) request)) ∧
        consumed after = consumed memory + 1 ∧
        RingInvariant descriptor { memory := after, history }) ∨
      (returnedBatch result = none ∧ after = memory) := by
  obtain ⟨published, kept, met⟩ := (readMappingBatch_triple
    (alone_consumes descriptor (consumed memory)) { memory, history }).run
      { memory, history } ring ⟨rfl, rfl⟩ result after ran
  match result with
  | .error _ => exact Or.inr ⟨rfl, congrArg World.memory met.1⟩
  | .ok .empty => exact Or.inr ⟨rfl, congrArg World.memory met.1⟩
  | .ok (.batch batch) =>
    obtain ⟨⟨-, -, rfl, once, rfl⟩, advanced, request, oldest, exact⟩ := met
    have same : published = history := once.history
    subst same
    exact Or.inl ⟨request, oldest, by rw [exact], advanced, kept⟩

theorem requireReady_run (memory : Memory) (ready : memory.word headerStateOffset = stateReady) :
    requireReady.run memory = (.ok (), memory) := by
  rw [requireReady, run_bind_ok _ _ _ _ _ (run_atomicLoad _ _), ready]
  exact run_ensure_pos _ _ _ rfl

theorem ensureLive_run (memory : Memory) (generation : Nat)
    (ready : memory.word headerStateOffset = stateReady)
    (live : memory.word headerGenerationOffset = generation) :
    (ensureLive generation).run memory = (.ok (), memory) := by
  rw [ensureLive, run_bind_ok _ _ _ _ _ (requireReady_run memory ready),
    run_bind_ok _ _ _ _ _ (run_atomicLoad _ _), live]
  exact run_ensure_pos _ _ _ rfl

theorem ensureLive_stale (memory : Memory) (generation : Nat)
    (ready : memory.word headerStateOffset = stateReady)
    (stale : memory.word headerGenerationOffset ≠ generation) :
    (ensureLive generation).run memory =
      (.error (.generationChanged generation (memory.word headerGenerationOffset)), memory) := by
  rw [ensureLive, run_bind_ok _ _ _ _ _ (requireReady_run memory ready),
    run_bind_ok _ _ _ _ _ (run_atomicLoad _ _)]
  exact run_ensure_neg _ _ _ stale

section Stale

variable (descriptor : RingV2Descriptor) (memory : Memory)
variable (ready : memory.word headerStateOffset = stateReady)
variable (stale : memory.word headerGenerationOffset ≠ descriptor.generation)

include ready stale

theorem writeMappingBatch_stale (request : WriteRequest) :
    (writeMappingBatch descriptor request).run memory =
      (.error (.generationChanged descriptor.generation (memory.word headerGenerationOffset)),
        memory) :=
  run_bind_error _ _ _ _ _ (ensureLive_stale memory _ ready stale)

theorem readMappingBatch_stale :
    (readMappingBatch descriptor).run memory =
      (.error (.generationChanged descriptor.generation (memory.word headerGenerationOffset)),
        memory) :=
  run_bind_error _ _ _ _ _ (run_bind_error _ _ _ _ _ (ensureLive_stale memory _ ready stale))

theorem resetMappingGeneration_stale (newGeneration : UInt64) :
    (resetMappingGeneration descriptor newGeneration).run memory =
      (.error (.generationChanged descriptor.generation (memory.word headerGenerationOffset)),
        memory) :=
  run_bind_error _ _ _ _ _ (ensureLive_stale memory _ ready stale)

end Stale

theorem loadConsistentSequencesWithin_readOnly (attempts : Nat) :
    (loadConsistentSequencesWithin attempts).ReadOnly := by
  induction attempts with
  | zero => exact trivial
  | succ attempts ih =>
    refine readOnly_bind _ _ (readOnly_atomicLoad _) fun _ =>
      readOnly_bind _ _ (readOnly_atomicLoad _) fun _ =>
        readOnly_bind _ _ (readOnly_atomicLoad _) fun _ => ?_
    split
    · exact readOnly_bind _ _ (readOnly_orFail _ _) fun _ => trivial
    · exact ih

theorem adoptMappingGeneration_readOnly (newGeneration : UInt64) :
    (adoptMappingGeneration descriptor newGeneration).ReadOnly := by
  rw [adoptMappingGeneration]
  split
  · exact trivial
  · refine readOnly_bind _ _ ?_ fun _ => readOnly_bind _ _ (readOnly_atomicLoad _) fun _ =>
      readOnly_bind _ _ (readOnly_ensure _ _) fun _ =>
        readOnly_bind _ _ (loadConsistentSequencesWithin_readOnly 8) fun _ =>
          readOnly_bind _ _ (readOnly_ensure _ _) fun _ => readOnly_bind _ _ ?_ fun _ => trivial
    · exact readOnly_bind _ _ (readOnly_atomicLoad _) fun _ => readOnly_ensure _ _
    · exact readOnly_forEach _ _ fun _ => readOnly_bind _ _ (readOnly_orFail _ _) fun _ =>
        readOnly_bind _ _ (readOnly_atomicLoad _) fun _ => readOnly_ensure _ _

/-- A successful adoption joins the generation of the mapping. -/
theorem adoptMappingGeneration_run (descriptor renewed : RingV2Descriptor)
    (newGeneration : UInt64) (memory after : Memory)
    (ran : (adoptMappingGeneration descriptor newGeneration).run memory = (.ok renewed, after)) :
    renewed.layout = descriptor.layout ∧
      renewed.generation = memory.word headerGenerationOffset := by
  rw [adoptMappingGeneration] at ran
  split at ran
  · cases ran
  obtain ⟨_, first, ready, ran⟩ := run_bind_returned _ _ _ _ _ ran
  obtain ⟨actual, second, loaded, ran⟩ := run_bind_returned _ _ _ _ _ ran
  obtain ⟨_, third, matched, ran⟩ := run_bind_returned _ _ _ _ _ ran
  obtain ⟨counters, fourth, -, ran⟩ := run_bind_returned _ _ _ _ _ ran
  obtain ⟨_, fifth, -, ran⟩ := run_bind_returned _ _ _ _ _ ran
  obtain ⟨_, sixth, -, ran⟩ := run_bind_returned _ _ _ _ _ ran
  have unchanged : first = memory := by
    have kept := run_readOnly requireReady memory
      (readOnly_bind _ _ (readOnly_atomicLoad _) fun _ => readOnly_ensure _ _)
    rwa [ready] at kept
  rw [run_atomicLoad] at loaded
  obtain ⟨exact, -⟩ := Prod.mk.inj loaded
  obtain ⟨generation, -⟩ := run_ensure_returned _ _ _ _ _ matched
  obtain ⟨result, -⟩ := Prod.mk.inj ran
  obtain rfl := Except.ok.inj result
  refine ⟨rfl, ?_⟩
  change newGeneration.toNat = _
  rw [← generation, ← Except.ok.inj exact, unchanged]

theorem clearSlot_run (layout : RingV2Layout) (index : Nat) (inside : index < layout.slotCount)
    (memory : Memory) : ∃ after, (clearSlot layout index).run memory = (.ok (), after) := by
  rw [clearSlot, slotBaseForIndex_eq layout index inside]
  simp only [orFail, done_bind, run_bind, run_atomicStore, fillZero, run_storeBytes]
  exact ⟨_, rfl⟩

/-- A reset by a live endpoint to a greater generation leaves an empty queue in it. -/
theorem resetMappingGeneration_run (newGeneration : UInt64)
    (memory : Memory) (ready : memory.word headerStateOffset = stateReady)
    (live : memory.word headerGenerationOffset = descriptor.generation)
    (newer : ¬ newGeneration.toNat ≤ descriptor.generation) :
    ∃ renewed after, (resetMappingGeneration descriptor newGeneration).run memory =
        (.ok renewed, after) ∧
      renewed.layout = descriptor.layout ∧ renewed.generation = newGeneration.toNat ∧
      RingInvariant renewed { memory := after, history := [] } ∧ consumed after = 0 := by
  rw [resetMappingGeneration, run_bind_ok _ _ _ _ _ (ensureLive_run memory _ ready live),
    dif_neg newer,
    run_bind_ok _ _ _ _ _ (run_compareExchange _ _ _ _ (by decide) ready),
    run_bind_ok _ _ _ _ _ (run_ensure_pos _ _ _ rfl),
    run_bind_ok _ _ _ _ _ (run_atomicStore _ _ _)]
  obtain ⟨cleared, ran, -⟩ := run_forEach (List.range descriptor.layout.slotCount)
    (clearSlot descriptor.layout) (fun _ => True)
    (fun index member memory _ => (clearSlot_run descriptor.layout index
      (List.mem_range.mp member) memory).imp fun _ ran => ⟨ran, trivial⟩)
    ((memory.storeWord headerStateOffset stateResetting).storeWord headerGenerationOffset 0)
    trivial
  rw [run_bind_ok _ _ _ _ _ ran, run_bind_ok _ _ _ _ _ (run_atomicStore _ _ _),
    run_bind_ok _ _ _ _ _ (run_atomicStore _ _ _), run_bind_ok _ _ _ _ _ (run_atomicStore _ _ _),
    run_bind_ok _ _ _ _ _ (run_atomicStore _ _ _)]
  -- The four header words are stored after the slots, so the slots' content does not matter.
  have other (memory : Memory) (stored value word : Nat)
      (disjoint : word + 8 ≤ stored ∨ stored + 8 ≤ word) :
      (memory.storeWord stored value).word word = memory.word word :=
    Memory.word_store_disjoint _ _ _ _ (by rwa [leBytes_length])
  have nothing : consumed ((((cleared.storeWord headerProducerSequenceOffset 0).storeWord
      headerConsumerSequenceOffset 0).storeWord headerGenerationOffset
        newGeneration.toNat).storeWord headerStateOffset stateReady) = 0 := by
    rw [consumed, other _ _ _ _ (by decide), other _ _ _ _ (by decide)]
    exact Memory.word_storeWord_same _ _ _ (by decide)
  refine ⟨_, _, rfl, rfl, rfl, ?_, nothing⟩
  constructor
  · exact Memory.word_storeWord_same _ _ _ (by decide)
  · simp only [other _ headerStateOffset _ headerGenerationOffset (by decide)]
    exact Memory.word_storeWord_same _ _ _ newGeneration.toNat_lt
  · simp only [produced]
    rw [other _ _ _ _ (by decide), other _ _ _ _ (by decide), other _ _ _ _ (by decide)]
    exact Memory.word_storeWord_same _ _ _ (by decide)
  · exact nothing.le
  · exact Nat.zero_le _
  · simp
  · simp

theorem resetMappingGeneration_refused (newGeneration : UInt64)
    (memory : Memory) (ready : memory.word headerStateOffset = stateReady)
    (live : memory.word headerGenerationOffset = descriptor.generation)
    (older : newGeneration.toNat ≤ descriptor.generation) :
    (resetMappingGeneration descriptor newGeneration).run memory =
      (.error (.generationNotIncreasing descriptor.generation newGeneration.toNat), memory) := by
  rw [resetMappingGeneration, run_bind_ok _ _ _ _ _ (ensureLive_run memory _ ready live),
    dif_pos older, run_fail]

inductive Side where
  | producer
  | consumer
  deriving DecidableEq

inductive Operation where
  | write (request : WriteRequest)
  | read
  | reset (newGeneration : UInt64)
  | adopt (newGeneration : UInt64)

inductive Event where
  | wrote (side : Side) (request : WriteRequest) (result : Except RingError WriteV2Status)
  | read (side : Side) (result : Except RingError ReadV2Status)
  | reset (side : Side) (newGeneration : UInt64) (result : Except RingError RingV2Descriptor)
  | adopted (side : Side) (newGeneration : UInt64) (result : Except RingError RingV2Descriptor)

/-- A mapping, the descriptor each endpoint holds, and the operations completed so far. -/
structure Endpoints where
  memory : Memory
  descriptor : Side → RingV2Descriptor
  events : List Event

namespace Endpoints

/-- The descriptor an endpoint holds after a reset or an adoption. -/
def hold (endpoints : Endpoints) (side : Side) (result : Except RingError RingV2Descriptor) :
    Side → RingV2Descriptor :=
  match result with
  | .ok renewed => Function.update endpoints.descriptor side renewed
  | .error _ => endpoints.descriptor

def perform (endpoints : Endpoints) (side : Side) : Operation → Endpoints
  | .write request =>
      let ran := (writeMappingBatch (endpoints.descriptor side) request).run endpoints.memory
      { endpoints with
        memory := ran.2
        events := endpoints.events ++ [.wrote side request ran.1] }
  | .read =>
      let ran := (readMappingBatch (endpoints.descriptor side)).run endpoints.memory
      { endpoints with
        memory := ran.2
        events := endpoints.events ++ [.read side ran.1] }
  | .reset newGeneration =>
      let ran := (resetMappingGeneration (endpoints.descriptor side) newGeneration).run
        endpoints.memory
      { memory := ran.2
        descriptor := endpoints.hold side ran.1
        events := endpoints.events ++ [.reset side newGeneration ran.1] }
  | .adopt newGeneration =>
      let ran := (adoptMappingGeneration (endpoints.descriptor side) newGeneration).run
        endpoints.memory
      { memory := ran.2
        descriptor := endpoints.hold side ran.1
        events := endpoints.events ++ [.adopted side newGeneration ran.1] }

def runOperations (endpoints : Endpoints) (operations : List (Side × Operation)) : Endpoints :=
  operations.foldl (fun endpoints operation => endpoints.perform operation.1 operation.2) endpoints

/-- Two endpoints that opened a freshly initialised mapping. -/
def opened (descriptor : RingV2Descriptor) (memory : Memory) : Endpoints where
  memory := initialMemory descriptor memory
  descriptor := fun _ => descriptor
  events := []

end Endpoints

def Event.startsGeneration : Event → Bool
  | .reset _ _ (.ok _) => true
  | _ => false

/-- The batch a completed operation committed, with the metadata it reported. -/
def Event.committed : Event → Option RgbaBatchV2
  | .wrote _ request result => (writtenMetadata result).map fun metadata => {
      metadata
      width := request.width.toNat
      height := request.height.toNat
      pixels := request.pixels }
  | _ => none

/-- The batch a completed operation returned. -/
def Event.returned : Event → Option RgbaBatchV2
  | .read _ result => returnedBatch result
  | _ => none

/-- The events after the last successful reset. -/
def sinceReset (events : List Event) : List Event :=
  events.foldl (fun kept event => if event.startsGeneration then [] else kept ++ [event]) []

theorem sinceReset_concat (events : List Event) (event : Event) :
    sinceReset (events ++ [event]) =
      if event.startsGeneration then [] else sinceReset events ++ [event] := by
  rw [sinceReset, List.foldl_append, List.foldl_cons, List.foldl_nil, sinceReset]

/-- The batches committed since the last successful reset. -/
def committedSince (events : List Event) : List RgbaBatchV2 :=
  (sinceReset events).filterMap Event.committed

/-- The batches returned since the last successful reset. -/
def returnedSince (events : List Event) : List RgbaBatchV2 :=
  (sinceReset events).filterMap Event.returned

theorem filterMap_sinceReset {β : Type} (account : Event → Option β) (events : List Event)
    (event : Event) (continues : event.startsGeneration = false) :
    (sinceReset (events ++ [event])).filterMap account =
      (sinceReset events).filterMap account ++ (account event).toList := by
  rw [sinceReset_concat, continues]
  cases value : account event <;> simp [value]

/-- The queue of two endpoints: the live generation with what was published in it. -/
structure Represents (endpoints : Endpoints) (live : RingV2Descriptor) (history : Published) :
    Prop where
  ring : RingInvariant live { memory := endpoints.memory, history }
  layout : ∀ side, (endpoints.descriptor side).layout = live.layout
  committed : committedSince endpoints.events = publishedBatches live history
  returned : returnedSince endpoints.events =
    (publishedBatches live history).take (consumed endpoints.memory)

variable {endpoints : Endpoints} {live : RingV2Descriptor} {history : Published}

section Events

variable (represents : Represents endpoints live history) (side : Side)

include represents

theorem Represents.descriptor_eq (same : (endpoints.descriptor side).generation = live.generation) :
    endpoints.descriptor side = live := by
  have layout := represents.layout side
  generalize endpoints.descriptor side = held at same layout
  cases held
  cases live
  cases layout
  cases same
  rfl

/-- An event that changes neither the mapping nor the queue keeps the representation. -/
theorem Represents.unchanged (event : Event) (descriptor : Side → RingV2Descriptor)
    (continues : event.startsGeneration = false) (committed : event.committed = none)
    (returned : event.returned = none) (layout : ∀ side, (descriptor side).layout = live.layout) :
    Represents { memory := endpoints.memory, descriptor, events := endpoints.events ++ [event] }
      live history := by
  refine ⟨represents.ring, layout, ?_, ?_⟩
  · simp only [committedSince, filterMap_sinceReset _ _ _ continues, committed,
      Option.toList_none, List.append_nil]
    exact represents.committed
  · simp only [returnedSince, filterMap_sinceReset _ _ _ continues, returned,
      Option.toList_none, List.append_nil]
    exact represents.returned

section

variable (held : endpoints.descriptor side = live)

include held

/-- A write by a live endpoint keeps a queue of the same generation. -/
theorem Represents.write (request : WriteRequest) :
    ∃ history, Represents (endpoints.perform side (.write request)) live history := by
  rcases ran : (writeMappingBatch live request).run endpoints.memory with ⟨result, after⟩
  simp only [Endpoints.perform, held, ran]
  obtain ⟨rfl, counters, ring⟩ | ⟨nothing, rfl⟩ :=
    writeMappingBatch_run live request endpoints.memory after history result represents.ring ran
  · refine ⟨history ++ [request], ring, represents.layout, ?_, ?_⟩
    · rw [committedSince, filterMap_sinceReset _ _ _ rfl, publishedBatches_concat,
        ← represents.committed]
      rfl
    · have ordered := represents.ring.ordered
      rw [returnedSince, filterMap_sinceReset _ _ _ rfl, publishedBatches_concat, counters,
        List.take_append_of_le_length (by simpa using ordered), ← represents.returned]
      simp [Event.returned, returnedSince]
  · exact ⟨history, represents.unchanged _ _ rfl (by simp [Event.committed, nothing]) rfl
      represents.layout⟩

/-- A read by a live endpoint keeps a queue of the same generation. -/
theorem Represents.read : Represents (endpoints.perform side .read) live history := by
  rcases ran : (readMappingBatch live).run endpoints.memory with ⟨result, after⟩
  simp only [Endpoints.perform, held, ran]
  obtain ⟨request, oldest, rfl, advanced, ring⟩ | ⟨nothing, rfl⟩ :=
    readMappingBatch_run live endpoints.memory after history result represents.ring ran
  · refine ⟨ring, represents.layout, ?_, ?_⟩
    · rw [committedSince, filterMap_sinceReset _ _ _ rfl, ← represents.committed]
      simp [Event.committed, committedSince]
    · rw [returnedSince, filterMap_sinceReset _ _ _ rfl, advanced, List.take_add_one,
        publishedBatches_getElem, oldest, ← represents.returned]
      rfl
  · exact represents.unchanged _ _ rfl rfl nothing represents.layout

/-- A reset by a live endpoint keeps the queue or starts an empty one. -/
theorem Represents.reset (newGeneration : UInt64) :
    ∃ next history, Represents (endpoints.perform side (.reset newGeneration)) next history ∧
      next.layout = live.layout := by
  by_cases newer : newGeneration.toNat ≤ live.generation
  · have refused := resetMappingGeneration_refused live newGeneration endpoints.memory
      represents.ring.ready represents.ring.live newer
    simp only [Endpoints.perform, held, refused]
    exact ⟨live, history, represents.unchanged _ _ rfl rfl rfl represents.layout, rfl⟩
  · obtain ⟨renewed, after, ran, layout, -, ring, nothing⟩ :=
      resetMappingGeneration_run live newGeneration endpoints.memory represents.ring.ready
        represents.ring.live newer
    simp only [Endpoints.perform, held, ran]
    refine ⟨renewed, [], ⟨ring, ?_, ?_, ?_⟩, layout⟩
    · intro other
      simp only [Endpoints.hold]
      by_cases own : other = side
      · rw [own, Function.update_self]
      · rw [Function.update_of_ne own, represents.layout, layout]
    · simp [committedSince, sinceReset_concat, Event.startsGeneration, publishedBatches]
    · simp [returnedSince, sinceReset_concat, Event.startsGeneration, publishedBatches]

end

theorem Represents.adopt (newGeneration : UInt64) :
    Represents (endpoints.perform side (.adopt newGeneration)) live history := by
  have unchanged := run_readOnly _ endpoints.memory
    (adoptMappingGeneration_readOnly (endpoints.descriptor side) newGeneration)
  rcases ran : (adoptMappingGeneration (endpoints.descriptor side) newGeneration).run
    endpoints.memory with ⟨result, after⟩
  rw [ran] at unchanged
  subst unchanged
  simp only [Endpoints.perform, ran]
  refine represents.unchanged _ _ rfl rfl rfl fun other => ?_
  cases result with
  | error error => exact represents.layout other
  | ok renewed =>
    have joined := adoptMappingGeneration_run _ _ _ _ _ ran
    simp only [Endpoints.hold]
    by_cases own : other = side
    · rw [own, Function.update_self, joined.1, represents.layout]
    · rw [Function.update_of_ne own, represents.layout]

/-- An operation by an endpoint outside the live generation. -/
theorem Represents.stale
    (stale : (endpoints.descriptor side).generation ≠ live.generation) (operation : Operation) :
    Represents (endpoints.perform side operation) live history := by
  have ready := represents.ring.ready
  have generation : endpoints.memory.word headerGenerationOffset ≠
      (endpoints.descriptor side).generation := by
    rw [represents.ring.live]
    exact stale.symm
  cases operation with
  | write request =>
    simp only [Endpoints.perform,
      writeMappingBatch_stale (endpoints.descriptor side) endpoints.memory ready generation]
    exact represents.unchanged _ _ rfl rfl rfl represents.layout
  | read =>
    simp only [Endpoints.perform,
      readMappingBatch_stale (endpoints.descriptor side) endpoints.memory ready generation]
    exact represents.unchanged _ _ rfl rfl rfl represents.layout
  | reset newGeneration =>
    simp only [Endpoints.perform,
      resetMappingGeneration_stale (endpoints.descriptor side) endpoints.memory ready generation]
    exact represents.unchanged _ _ rfl rfl rfl represents.layout
  | adopt newGeneration => exact represents.adopt side newGeneration

/-- Every whole operation leaves a queue of some live generation. -/
theorem Represents.perform (operation : Operation) :
    ∃ next history, Represents (endpoints.perform side operation) next history ∧
      next.layout = live.layout := by
  by_cases same : (endpoints.descriptor side).generation = live.generation
  · have held := represents.descriptor_eq side same
    cases operation with
    | write request =>
      obtain ⟨history, next⟩ := represents.write side held request
      exact ⟨live, history, next, rfl⟩
    | read => exact ⟨live, history, represents.read side held, rfl⟩
    | reset newGeneration => exact represents.reset side held newGeneration
    | adopt newGeneration => exact ⟨live, history, represents.adopt side newGeneration, rfl⟩
  · exact ⟨live, history, represents.stale side same operation, rfl⟩

end Events

/-- Every run of whole operations on a freshly initialised mapping leaves a queue. -/
theorem represents_run (memory : Memory) (operations : List (Side × Operation)) :
    ∃ live history,
      Represents ((Endpoints.opened descriptor memory).runOperations operations) live history ∧
        live.layout = descriptor.layout := by
  have opened : Represents (Endpoints.opened descriptor memory) descriptor [] := by
    obtain ⟨after, ran, ring, nothing⟩ := initializeMapping_empty descriptor memory
    have initial : initialMemory descriptor memory = after := by rw [initialMemory, ran]
    refine ⟨?_, fun _ => rfl, ?_, ?_⟩
    · simp only [Endpoints.opened, initial]
      exact ring
    · simp [Endpoints.opened, committedSince, sinceReset, publishedBatches]
    · simp [Endpoints.opened, returnedSince, sinceReset, publishedBatches]
  suffices kept : ∀ endpoints live history, Represents endpoints live history →
      ∃ next history, Represents (endpoints.runOperations operations) next history ∧
        next.layout = live.layout from
    kept _ _ _ opened
  induction operations with
  | nil => exact fun _ live history represents => ⟨live, history, represents, rfl⟩
  | cons operation operations ih =>
    intro endpoints live history represents
    obtain ⟨middle, published, next, layout⟩ := represents.perform operation.1 operation.2
    obtain ⟨last, final, represented, same⟩ := ih _ middle published next
    exact ⟨last, final, represented, same.trans layout⟩

/-- What a write that published nothing and a read that returned nothing leave unchanged. -/
theorem Represents.idle (represents : Represents endpoints live history) (side : Side) :
    (∀ request, writtenMetadata ((writeMappingBatch (endpoints.descriptor side) request).run
        endpoints.memory).1 = none →
      (endpoints.perform side (.write request)).memory = endpoints.memory) ∧
    (returnedBatch ((readMappingBatch (endpoints.descriptor side)).run endpoints.memory).1 = none →
      (endpoints.perform side .read).memory = endpoints.memory) := by
  have ready := represents.ring.ready
  by_cases same : (endpoints.descriptor side).generation = live.generation
  · have held := represents.descriptor_eq side same
    simp only [Endpoints.perform, held]
    constructor
    · intro request nothing
      rcases ran : (writeMappingBatch live request).run endpoints.memory with ⟨result, after⟩
      rw [ran] at nothing
      obtain ⟨rfl, -⟩ | ⟨-, unchanged⟩ :=
        writeMappingBatch_run live request _ after history result represents.ring ran
      · cases nothing
      · exact unchanged
    · intro nothing
      rcases ran : (readMappingBatch live).run endpoints.memory with ⟨result, after⟩
      rw [ran] at nothing
      obtain ⟨_, _, returned, _⟩ | ⟨-, unchanged⟩ :=
        readMappingBatch_run live _ after history result represents.ring ran
      · rw [returned] at nothing
        cases nothing
      · exact unchanged
  · have generation : endpoints.memory.word headerGenerationOffset ≠
        (endpoints.descriptor side).generation := by
      rw [represents.ring.live]
      exact fun equal => same equal.symm
    constructor
    · intro request _
      simp only [Endpoints.perform,
        writeMappingBatch_stale (endpoints.descriptor side) endpoints.memory ready generation]
    · intro _
      simp only [Endpoints.perform,
        readMappingBatch_stale (endpoints.descriptor side) endpoints.memory ready generation]

/-- An outstanding slot carries its own sequence and the live generation. -/
theorem outstanding_slot {descriptor : RingV2Descriptor} {world : World Published}
    (ring : RingInvariant descriptor world) (sequence : Nat)
    (lower : consumed world.memory < sequence) (upper : sequence ≤ produced world.memory) :
    let slot := slotAddress descriptor.layout (slotIndex descriptor.layout sequence)
    world.memory.word (slot + slotSequenceOffset) = sequence ∧
      world.memory.word (slot + slotGenerationOffset) = descriptor.generation := by
  intro slot
  rw [ring.produced] at upper
  have word := world.memory.word_bound headerProducerSequenceOffset
  have counter := ring.produced
  simp only [produced] at counter
  obtain ⟨index, rfl⟩ : ∃ index, sequence = index + 1 := ⟨sequence - 1, by omega⟩
  obtain ⟨request, found⟩ : ∃ request, world.history[index]? = some request :=
    ⟨_, List.getElem?_eq_getElem (by omega)⟩
  have image := ring.slots index request found (by omega)
  have sequenceField := Memory.load_flatten_field world.memory _ _ 0
    (slotFields descriptor (index + 1) request) (leBytes 8 (index + 1)) image rfl
  have generationField := Memory.load_flatten_field world.memory _ _ 1
    (slotFields descriptor (index + 1) request) (leBytes 8 descriptor.generation) image rfl
  rw [leBytes_length] at sequenceField generationField
  constructor
  · change leValue (world.memory.load (slot + 0) 8) = index + 1
    refine (congrArg leValue sequenceField).trans (leValue_leBytes_of_lt _ _ ?_)
    norm_num
    omega
  · change leValue (world.memory.load (slot + 8) 8) = descriptor.generation
    refine (congrArg leValue generationField).trans (leValue_leBytes_of_lt _ _ ?_)
    have bound := descriptor.generation_bound.2
    norm_num
    omega

/-- An endpoint outside the live generation leaves the mapping unchanged. -/
theorem Represents.stale_memory (represents : Represents endpoints live history) (side : Side)
    (stale : endpoints.memory.word headerGenerationOffset ≠
      (endpoints.descriptor side).generation) (operation : Operation) :
    (endpoints.perform side operation).memory = endpoints.memory := by
  have ready := represents.ring.ready
  cases operation with
  | write request =>
    simp only [Endpoints.perform,
      writeMappingBatch_stale (endpoints.descriptor side) endpoints.memory ready stale]
  | read =>
    simp only [Endpoints.perform,
      readMappingBatch_stale (endpoints.descriptor side) endpoints.memory ready stale]
  | reset newGeneration =>
    simp only [Endpoints.perform,
      resetMappingGeneration_stale (endpoints.descriptor side) endpoints.memory ready stale]
  | adopt newGeneration => exact run_readOnly _ _ (adoptMappingGeneration_readOnly _ _)

/-- In every run of whole operations by two endpoints with their own descriptors, the counters stay
a bounded queue, outstanding slots belong to the live generation, nothing is returned across a
reset, an endpoint outside the live generation changes nothing, and every generation numbers its
batches from one. -/
theorem generations_exact (memory : Memory) (operations : List (Side × Operation)) :
    let state := (Endpoints.opened descriptor memory).runOperations operations
    let live := state.memory.word headerGenerationOffset
    let committed := committedSince state.events
    let returned := returnedSince state.events
    (consumed state.memory ≤ produced state.memory ∧
      produced state.memory ≤ consumed state.memory + descriptor.layout.slotCount) ∧
    (∀ sequence, consumed state.memory < sequence → sequence ≤ produced state.memory →
      let slot := slotAddress descriptor.layout (slotIndex descriptor.layout sequence)
      state.memory.word (slot + slotSequenceOffset) = sequence ∧
        state.memory.word (slot + slotGenerationOffset) = live) ∧
    (returned <+: committed ∧ ∀ batch ∈ committed, batch.metadata.generation = live) ∧
    (∀ side, (state.descriptor side).generation ≠ live →
      (∀ request, ((writeMappingBatch (state.descriptor side) request).run state.memory).1 =
        .error (.generationChanged (state.descriptor side).generation live)) ∧
      ((readMappingBatch (state.descriptor side)).run state.memory).1 =
        .error (.generationChanged (state.descriptor side).generation live) ∧
      ∀ operation, (state.perform side operation).memory = state.memory) ∧
    (∀ side,
      (∀ request, writtenMetadata ((writeMappingBatch (state.descriptor side) request).run
          state.memory).1 = none →
        (state.perform side (.write request)).memory = state.memory) ∧
      (returnedBatch ((readMappingBatch (state.descriptor side)).run state.memory).1 = none →
        (state.perform side .read).memory = state.memory)) ∧
    committed.map (·.metadata.slotSequence) = List.range' 1 committed.length := by
  intro state live committed returned
  obtain ⟨current, history, represents, layout⟩ := represents_run descriptor memory operations
  change Represents state current history at represents
  have ring := represents.ring
  have ready := ring.ready
  have generation : live = current.generation := ring.live
  have committedExact : committed = publishedBatches current history := represents.committed
  have returnedExact : returned = committed.take (consumed state.memory) := by
    rw [committedExact]
    exact represents.returned
  refine ⟨⟨?_, ?_⟩, ?_, ⟨?_, ?_⟩, ?_, represents.idle, ?_⟩
  · rw [ring.produced]
    exact ring.ordered
  · rw [ring.produced, ← layout]
    exact ring.capacity
  · intro sequence lower upper
    rw [← layout, generation]
    exact outstanding_slot ring sequence lower upper
  · rw [returnedExact]
    exact List.take_prefix _ _
  · intro batch member
    rw [committedExact] at member
    obtain ⟨index, found⟩ := List.mem_iff_getElem?.mp member
    rw [publishedBatches_getElem, Option.map_eq_some_iff] at found
    obtain ⟨request, -, rfl⟩ := found
    exact generation.symm
  · intro side stale
    refine ⟨fun request => ?_, ?_, represents.stale_memory side stale.symm⟩
    · rw [writeMappingBatch_stale _ _ ready stale.symm]
    · rw [readMappingBatch_stale _ _ ready stale.symm]
  · rw [committedExact, publishedBatches_sequences, publishedBatches_length]

end LatentDeck.Ring
