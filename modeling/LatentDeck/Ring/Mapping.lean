import LatentDeck.Ring.Abi

/-!
# Ring ABI 2 operations

The operations on a mapping, access by access. Atomic loads and stores are one access each; plain
field accesses, fills and copies are one access per byte. A failed check returns before the accesses
that follow it. The descriptor that `reset` and `adopt` update in place is their result here, so a
failed call leaves the endpoint's descriptor as it was.
-/

namespace LatentDeck.Ring

open Checked LittleEndian Program

/-- `get_u32` — a plain little-endian field. -/
def getU32 (address : Nat) : Program RingError Nat := do
  let bytes ← loadBytes address 4
  return leValue bytes

/-- `get_u64` — a plain little-endian field. -/
def getU64 (address : Nat) : Program RingError Nat := do
  let bytes ← loadBytes address 8
  return leValue bytes

/-- `put_u32` — a plain little-endian field. -/
def putU32 (address value : Nat) : Program RingError Unit := storeBytes address (leBytes 4 value)

/-- `put_u64` — a plain little-endian field. -/
def putU64 (address value : Nat) : Program RingError Unit := storeBytes address (leBytes 8 value)

/-- `[..].fill(0)` — clears `count` bytes. -/
def fillZero (address count : Nat) : Program RingError Unit :=
  storeBytes address (List.replicate count 0)

/-- `initialize_mapping` — clears the mapping and writes its header. -/
def initializeMapping (length : Nat) (descriptor : RingV2Descriptor) : Program RingError Unit := do
  let layout := descriptor.layout
  ensure (length = layout.mappingBytes) (.invalidMappingLength length)
  fillZero 0 length
  storeBytes headerMagicOffset magic
  putU32 headerAbiOffset abiVersion
  putU32 headerBytesOffset mappingHeaderBytes
  putU64 headerGenerationOffset descriptor.generation
  putU64 headerStateOffset stateReady
  putU32 headerSlotCountOffset layout.slotCount
  putU32 headerSlotHeaderBytesOffset slotHeaderBytes
  putU32 headerWidthOffset layout.width
  putU32 headerHeightOffset layout.height
  putU64 headerFrameStrideOffset layout.frameStrideBytes
  putU64 headerSlotBytesOffset layout.slotBytes
  putU64 headerSlotStrideOffset layout.slotStrideBytes
  putU64 headerMappingBytesOffset layout.mappingBytes
  putU32 headerMaxBatchOffset layout.maximumBatch
  putU32 headerPixelFormatOffset pixelFormatRgba8

/-- `require_ready` — the mapping must not be in a reset. -/
def requireReady : Program RingError Unit := do
  let actual ← atomicLoad headerStateOffset
  ensure (actual = stateReady) (.invalidLifecycleState actual)

/-- `ensure_live` — the mapping must be ready and in the expected generation. -/
def ensureLive (expectedGeneration : Nat) : Program RingError Unit := do
  requireReady
  let actual ← atomicLoad headerGenerationOffset
  ensure (actual = expectedGeneration) (.generationChanged expectedGeneration actual)

/-- The remaining attempts of `load_consistent_sequences`. -/
def loadConsistentSequencesWithin : Nat → Program RingError (Nat × Nat × Nat)
  | 0 => fail (.corruptHeader "sequence_snapshot")
  | attempts + 1 => do
    let consumedBefore ← atomicLoad headerConsumerSequenceOffset
    let produced ← atomicLoad headerProducerSequenceOffset
    let consumedAfter ← atomicLoad headerConsumerSequenceOffset
    if consumedBefore = consumedAfter then do
      let depth ← orFail (checkedSub produced consumedAfter)
        (.corruptSequences produced consumedAfter)
      return (produced, consumedAfter, depth)
    else
      loadConsistentSequencesWithin attempts

/-- `load_consistent_sequences` — a counter snapshot within eight attempts. -/
def loadConsistentSequences : Program RingError (Nat × Nat × Nat) :=
  loadConsistentSequencesWithin 8

/-- `u32::try_from` — a value that fits 32 bits. -/
def tryU32 (value : Nat) : Option Nat := if value < 2 ^ 32 then some value else none

/-- `mapping_state` — the counters of a live mapping. -/
def mappingState (descriptor : RingV2Descriptor) : Program RingError RingV2State := do
  ensureLive descriptor.generation
  let (producerSequence, consumerSequence, depth) ← loadConsistentSequences
  ensureLive descriptor.generation
  ensure (depth ≤ descriptor.layout.slotCount)
    (.corruptSequences producerSequence consumerSequence)
  let occupancy ← orFail (tryU32 depth) .layoutOverflow
  return {
    producerSequence
    consumerSequence
    occupancy
    availableCapacity := descriptor.layout.slotCount - occupancy }

/-- `require_header` — a header field must be usable. -/
def requireHeader (condition : Prop) [Decidable condition] (field : String) :
    Program RingError Unit :=
  ensure condition (.corruptHeader field)

/-- The checks of `validate_mapping_header` against the layout it recomputed. -/
def validateHeaderLayout (length mappingBytes : Nat) (layout : RingV2Layout) :
    Program RingError Unit := do
  let slotHeader ← getU32 headerSlotHeaderBytesOffset
  requireHeader (slotHeader = slotHeaderBytes) "slot_header_bytes"
  let frameStride ← getU64 headerFrameStrideOffset
  requireHeader (frameStride = layout.frameStrideBytes) "frame_stride_bytes"
  let slotBytes ← getU64 headerSlotBytesOffset
  requireHeader (slotBytes = layout.slotBytes) "slot_bytes"
  let slotStride ← getU64 headerSlotStrideOffset
  requireHeader (slotStride = layout.slotStrideBytes) "slot_stride_bytes"
  let mapping ← getU64 headerMappingBytesOffset
  requireHeader (mapping = layout.mappingBytes) "mapping_bytes"
  requireHeader (mappingBytes = layout.mappingBytes) "mapped_length"
  requireHeader (mappingBytes = length) "view_length"
  let pixelFormat ← getU32 headerPixelFormatOffset
  requireHeader (pixelFormat = pixelFormatRgba8) "pixel_format"
  let reserved ← anyNonzero headerReservedOffset (mappingHeaderBytes - headerReservedOffset)
  requireHeader (reserved = false) "reserved"
  let producerClaim ← atomicLoad headerProducerClaimOffset
  requireHeader (producerClaim ≤ 1) "producer_claim"
  let consumerClaim ← atomicLoad headerConsumerClaimOffset
  requireHeader (consumerClaim ≤ 1) "consumer_claim"

/-- `validate_mapping_header` — the descriptor that a mapping of a given view length declares. -/
def validateMappingHeader (length mappingBytes : Nat) : Program RingError RingV2Descriptor := do
  ensure (mappingHeaderBytes ≤ length) (.invalidMappingLength length)
  let signature ← loadBytes headerMagicOffset magic.length
  ensure (signature = magic) .invalidMagic
  let abi ← getU32 headerAbiOffset
  ensure (abi = abiVersion) (.unsupportedAbi abi)
  let headerBytes ← getU32 headerBytesOffset
  requireHeader (headerBytes = mappingHeaderBytes) "header_bytes"
  requireReady
  let generation ← atomicLoad headerGenerationOffset
  -- A loaded word is always a 64-bit value.
  if live : 0 < generation ∧ generation < 2 ^ 64 then do
    let width ← getU32 headerWidthOffset
    let height ← getU32 headerHeightOffset
    let maximumBatch ← getU32 headerMaxBatchOffset
    let slotCount ← getU32 headerSlotCountOffset
    let layout ← ofExcept (RingV2Layout.new (.ofNat width) (.ofNat height) (.ofNat maximumBatch)
      (.ofNat slotCount))
    validateHeaderLayout length mappingBytes layout
    let descriptor : RingV2Descriptor := { layout, generation, generation_bound := live }
    let _ ← mappingState descriptor
    return descriptor
  else
    fail (.corruptHeader "generation")

/-- The slot stores and the publication of `write_mapping_batch`. -/
def publishBatch (descriptor : RingV2Descriptor) (request : WriteRequest)
    (slotSequence base expected : Nat) : Program RingError Unit := do
  atomicStore (base + slotSequenceOffset) 0
  fillZero (base + 8) (descriptor.layout.slotStrideBytes - 8)
  putU64 (base + slotGenerationOffset) descriptor.generation
  putU64 (base + slotLogicalSequenceOffset) request.logicalSequence.toNat
  storeBytes (base + slotSessionIdOffset) request.sessionId.bytes
  putU32 (base + slotBatchOffset) request.batch.toNat
  putU32 (base + slotWidthOffset) request.width.toNat
  putU32 (base + slotHeightOffset) request.height.toNat
  putU64 (base + slotFrameStrideOffset) descriptor.layout.frameStrideBytes
  putU64 (base + slotPayloadBytesOffset) expected
  storeBytes (base + slotHeaderBytes) request.pixels
  atomicStore (base + slotSequenceOffset) slotSequence
  atomicStore headerProducerSequenceOffset slotSequence

/-- `write_mapping_batch` — publishes one batch or reports a full queue. -/
def writeMappingBatch (descriptor : RingV2Descriptor) (request : WriteRequest) :
    Program RingError WriteV2Status := do
  let layout := descriptor.layout
  ensureLive descriptor.generation
  ensure (¬ request.sessionId.bytes.all (· == 0)) .invalidSessionId
  ensure (request.logicalSequence ≠ 0) .invalidLogicalSequence
  ensure (1 ≤ request.batch.toNat ∧ request.batch.toNat ≤ layout.maximumBatch)
    (.invalidBatchCount request.batch.toNat)
  ensure (request.width.toNat = layout.width ∧ request.height.toNat = layout.height)
    (.invalidDimensions request.width.toNat request.height.toNat)
  let expected ← orFail (checkedMul layout.frameStrideBytes request.batch.toNat) .layoutOverflow
  ensure (request.pixels.length = expected)
    (.batchLengthMismatch expected request.pixels.length)
  let state ← mappingState descriptor
  if state.occupancy = layout.slotCount then
    return .backpressure state.occupancy layout.slotCount
  else do
    let slotSequence ← orFail (checkedAdd state.producerSequence 1) .sequenceExhausted
    let base ← orFail (slotBase layout slotSequence) .layoutOverflow
    publishBatch descriptor request slotSequence base expected
    return .written {
      generation := descriptor.generation
      slotSequence
      logicalSequence := request.logicalSequence.toNat
      sessionId := request.sessionId.bytes
      batch := request.batch.toNat }

/-- The header check of `read_mapping_batch`, with its loads in order. -/
def slotHeaderValid (descriptor : RingV2Descriptor) (base batch logicalSequence payloadBytes
    expectedPayload : Nat) (sessionId : List UInt8) : Program RingError Bool :=
  let layout := descriptor.layout
  allOf [
    (do return (← getU64 (base + slotGenerationOffset)) = descriptor.generation),
    done (logicalSequence ≠ 0),
    done (sessionId.any (· != 0)),
    done (1 ≤ batch ∧ batch ≤ layout.maximumBatch),
    (do return (← getU32 (base + slotWidthOffset)) = layout.width),
    (do return (← getU32 (base + slotHeightOffset)) = layout.height),
    (do return (← getU64 (base + slotFrameStrideOffset)) = layout.frameStrideBytes),
    done (payloadBytes = expectedPayload),
    done (payloadBytes ≤ layout.slotBytes),
    (do return !(← anyNonzero (base + slotReservedOffset) (slotHeaderBytes - slotReservedOffset)))]

/-- The slot checks, the copy and the consumption of `read_mapping_batch`. -/
def consumeSlot (descriptor : RingV2Descriptor) (slotSequence base : Nat) :
    Program RingError ReadV2Status := do
  let layout := descriptor.layout
  let committed ← atomicLoad (base + slotSequenceOffset)
  if committed ≠ slotSequence then do
    ensureLive descriptor.generation
    fail (.corruptSlot slotSequence)
  else do
    let batch ← getU32 (base + slotBatchOffset)
    let logicalSequence ← getU64 (base + slotLogicalSequenceOffset)
    let payloadBytes ← getU64 (base + slotPayloadBytesOffset)
    let expectedPayload ← orFail (checkedMul layout.frameStrideBytes batch) .layoutOverflow
    let sessionId ← loadBytes (base + slotSessionIdOffset) 16
    let valid ← slotHeaderValid descriptor base batch logicalSequence payloadBytes
      expectedPayload sessionId
    ensure valid (.corruptSlot slotSequence)
    let payloadStart := base + slotHeaderBytes
    let payloadEnd ← orFail (checkedAdd payloadStart payloadBytes) .layoutOverflow
    let slotEnd := base + layout.slotStrideBytes
    ensure (payloadEnd ≤ slotEnd) (.corruptSlot slotSequence)
    let padded ← anyNonzero payloadEnd (slotEnd - payloadEnd)
    ensure (padded = false) (.corruptSlot slotSequence)
    let pixels ← loadBytes payloadStart payloadBytes
    ensureLive descriptor.generation
    atomicStore headerConsumerSequenceOffset slotSequence
    return .batch {
      metadata := {
        generation := descriptor.generation
        slotSequence
        logicalSequence
        sessionId
        batch }
      width := layout.width
      height := layout.height
      pixels }

/-- `read_mapping_batch` — consumes the oldest batch or reports an empty queue. -/
def readMappingBatch (descriptor : RingV2Descriptor) : Program RingError ReadV2Status := do
  let state ← mappingState descriptor
  if state.occupancy = 0 then
    return .empty
  else do
    let slotSequence ← orFail (checkedAdd state.consumerSequence 1) .sequenceExhausted
    let base ← orFail (slotBase descriptor.layout slotSequence) .layoutOverflow
    consumeSlot descriptor slotSequence base

/-- One iteration of the slot loop of `reset_mapping_generation`. -/
def clearSlot (layout : RingV2Layout) (index : Nat) : Program RingError Unit := do
  let base ← orFail (slotBaseForIndex layout index) .layoutOverflow
  atomicStore (base + slotSequenceOffset) 0
  fillZero (base + 8) (layout.slotStrideBytes - 8)

/-- `reset_mapping_generation` — starts a new generation; returns the endpoint's new
descriptor. -/
def resetMappingGeneration (descriptor : RingV2Descriptor) (newGeneration : UInt64) :
    Program RingError RingV2Descriptor := do
  ensureLive descriptor.generation
  if newer : newGeneration.toNat ≤ descriptor.generation then
    fail (.generationNotIncreasing descriptor.generation newGeneration.toNat)
  else do
    let found ← compareExchange headerStateOffset stateReady stateResetting
    ensure (found = stateReady) (.invalidLifecycleState found)
    atomicStore headerGenerationOffset 0
    forEach (List.range descriptor.layout.slotCount) (clearSlot descriptor.layout)
    atomicStore headerProducerSequenceOffset 0
    atomicStore headerConsumerSequenceOffset 0
    atomicStore headerGenerationOffset newGeneration.toNat
    atomicStore headerStateOffset stateReady
    return {
      descriptor with
      generation := newGeneration.toNat
      generation_bound := ⟨by omega, newGeneration.toNat_lt⟩ }

/-- One iteration of the slot loop of `adopt_mapping_generation`. -/
def requireClearSlot (layout : RingV2Layout) (index : Nat) : Program RingError Unit := do
  let base ← orFail (slotBaseForIndex layout index) .layoutOverflow
  let sequence ← atomicLoad (base + slotSequenceOffset)
  ensure (sequence = 0) (.corruptSlot (index + 1))

/-- `adopt_mapping_generation` — joins a generation that another endpoint started; returns the
endpoint's new descriptor. -/
def adoptMappingGeneration (descriptor : RingV2Descriptor) (newGeneration : UInt64) :
    Program RingError RingV2Descriptor :=
  if newer : newGeneration.toNat ≤ descriptor.generation then
    fail (.generationNotIncreasing descriptor.generation newGeneration.toNat)
  else do
    requireReady
    let actual ← atomicLoad headerGenerationOffset
    ensure (actual = newGeneration.toNat) (.generationMismatch newGeneration.toNat actual)
    let (produced, consumed, depth) ← loadConsistentSequences
    ensure (produced = 0 ∧ consumed = 0 ∧ depth = 0) (.corruptSequences produced consumed)
    forEach (List.range descriptor.layout.slotCount) (requireClearSlot descriptor.layout)
    return {
      descriptor with
      generation := newGeneration.toNat
      generation_bound := ⟨by omega, newGeneration.toNat_lt⟩ }

end LatentDeck.Ring
