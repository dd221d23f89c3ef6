import LatentDeck.Library.Checked
import LatentDeck.Library.Program

/-!
# Ring ABI 2 layout and vocabulary

The constants, byte offsets, layout, descriptor and result types of the decoded-RGBA ring. A
`RingV2Layout` carries the arithmetic facts its constructor checks, so later proofs never recompute
the geometry. Fields are natural numbers bounded by the values they come from; the `usize` of the
supported targets holds every mapping size.
-/

namespace LatentDeck.Ring

open Checked

def abiVersion : Nat := 2
/-- `MAPPING_HEADER_BYTES` — bytes reserved for the mapping-wide header. -/
def mappingHeaderBytes : Nat := 4096
/-- `SLOT_HEADER_BYTES` — bytes reserved before each decoded batch payload. -/
def slotHeaderBytes : Nat := 128
def minSlotCount : Nat := 2
def maxSlotCount : Nat := 24
def maxBatchFrames : Nat := 24
def slotStrideAlignment : Nat := 4096
def bytesPerPixel : Nat := 4
/-- `MAX_MAPPING_BYTES` — the shared-memory cap. -/
def maxMappingBytes : Nat := 256 * 1024 * 1024
def stateReady : Nat := 1
def stateResetting : Nat := 2

/-- `MAGIC` — the bytes of `LDRGBR02`. -/
def magic : List UInt8 := [0x4c, 0x44, 0x52, 0x47, 0x42, 0x52, 0x30, 0x32]
def headerMagicOffset : Nat := 0
def headerAbiOffset : Nat := 8
def headerBytesOffset : Nat := 12
def headerGenerationOffset : Nat := 16
def headerStateOffset : Nat := 24
def headerSlotCountOffset : Nat := 32
def headerSlotHeaderBytesOffset : Nat := 36
def headerWidthOffset : Nat := 40
def headerHeightOffset : Nat := 44
def headerFrameStrideOffset : Nat := 48
def headerSlotBytesOffset : Nat := 56
def headerSlotStrideOffset : Nat := 64
def headerMappingBytesOffset : Nat := 72
def headerMaxBatchOffset : Nat := 80
def headerPixelFormatOffset : Nat := 84
def headerProducerSequenceOffset : Nat := 88
def headerConsumerSequenceOffset : Nat := 96
def headerProducerClaimOffset : Nat := 104
def headerConsumerClaimOffset : Nat := 112
def headerReservedOffset : Nat := 120
def pixelFormatRgba8 : Nat := 1

def slotSequenceOffset : Nat := 0
def slotGenerationOffset : Nat := 8
def slotLogicalSequenceOffset : Nat := 16
def slotSessionIdOffset : Nat := 24
def slotBatchOffset : Nat := 40
def slotWidthOffset : Nat := 44
def slotHeightOffset : Nat := 48
def slotFrameStrideOffset : Nat := 56
def slotPayloadBytesOffset : Nat := 64
def slotReservedOffset : Nat := 72

/-- `RingError` — the errors the operations of ABI 2 can return. -/
inductive RingError where
  | invalidDimensions (width height : Nat)
  | invalidSlotCount (actual : Nat)
  | invalidBatchCount (actual : Nat)
  | layoutOverflow
  | mappingTooLarge (requested maximum : Nat)
  | invalidGeneration
  | invalidLifecycleState (actual : Nat)
  | invalidSessionId
  | invalidLogicalSequence
  | invalidMappingLength (actual : Nat)
  | invalidMagic
  | unsupportedAbi (actual : Nat)
  | corruptHeader (field : String)
  | generationMismatch (expected actual : Nat)
  | generationChanged (expected actual : Nat)
  | generationNotIncreasing (current requested : Nat)
  | batchLengthMismatch (expected actual : Nat)
  | corruptSequences (produced consumed : Nat)
  | sequenceExhausted
  | corruptSlot (sequence : Nat)

/-- `RingV2Layout` — the fixed geometry of a ring, with what its constructor has checked. -/
structure RingV2Layout where
  /-- `width` in pixels. -/
  width : Nat
  /-- `height` in pixels. -/
  height : Nat
  /-- `maximum_batch` in frames. -/
  maximumBatch : Nat
  slotCount : Nat
  /-- `frame_stride_bytes` — the tight bytes of one frame. -/
  frameStrideBytes : Nat
  /-- `slot_bytes` — the payload capacity of a slot. -/
  slotBytes : Nat
  /-- `slot_stride_bytes` — header, payload capacity and padding of a slot. -/
  slotStrideBytes : Nat
  /-- `mapping_bytes` — the length of the whole mapping. -/
  mappingBytes : Nat
  width_bound : 0 < width ∧ width < 2 ^ 32
  height_bound : 0 < height ∧ height < 2 ^ 32
  batch_bound : 1 ≤ maximumBatch ∧ maximumBatch ≤ maxBatchFrames
  slot_bound : minSlotCount ≤ slotCount ∧ slotCount ≤ maxSlotCount
  frame_exact : frameStrideBytes = width * height * bytesPerPixel
  slot_exact : slotBytes = frameStrideBytes * maximumBatch
  stride_fits : slotHeaderBytes + slotBytes ≤ slotStrideBytes
  mapping_exact : mappingBytes = mappingHeaderBytes + slotStrideBytes * slotCount
  mapping_cap : mappingBytes ≤ maxMappingBytes

/-- `RingV2Layout::new` — computes an exact layout under the shared-memory cap. -/
def RingV2Layout.new (width height maximumBatch slotCount : UInt32) :
    Except RingError RingV2Layout :=
  if zero : width.toNat = 0 ∨ height.toNat = 0 then
    .error (.invalidDimensions width.toNat height.toNat)
  else if batch : ¬ (1 ≤ maximumBatch.toNat ∧ maximumBatch.toNat ≤ maxBatchFrames) then
    .error (.invalidBatchCount maximumBatch.toNat)
  else if slots : ¬ (minSlotCount ≤ slotCount.toNat ∧ slotCount.toNat ≤ maxSlotCount) then
    .error (.invalidSlotCount slotCount.toNat)
  else
    match frame : (checkedMul width.toNat height.toNat).bind (checkedMul · bytesPerPixel) with
    | none => .error .layoutOverflow
    | some frameStrideBytes =>
    match slot : checkedMul frameStrideBytes maximumBatch.toNat with
    | none => .error .layoutOverflow
    | some slotBytes =>
    match stride : (checkedAdd slotHeaderBytes slotBytes).bind
        (alignUp · slotStrideAlignment) with
    | none => .error .layoutOverflow
    | some slotStrideBytes =>
    match mapping : (checkedMul slotStrideBytes slotCount.toNat).bind
        (checkedAdd mappingHeaderBytes) with
    | none => .error .layoutOverflow
    | some mappingBytes =>
      if cap : mappingBytes > maxMappingBytes then
        .error (.mappingTooLarge mappingBytes maxMappingBytes)
      else
        .ok {
          width := width.toNat
          height := height.toNat
          maximumBatch := maximumBatch.toNat
          slotCount := slotCount.toNat
          frameStrideBytes
          slotBytes
          slotStrideBytes
          mappingBytes
          width_bound := ⟨Nat.pos_of_ne_zero (mt Or.inl zero), width.toNat_lt⟩
          height_bound := ⟨Nat.pos_of_ne_zero (mt Or.inr zero), height.toNat_lt⟩
          batch_bound := not_not.mp batch
          slot_bound := not_not.mp slots
          frame_exact := by
            simp only [Option.bind_eq_some_iff, checkedMul_eq_some] at frame
            obtain ⟨pixels, ⟨rfl, -⟩, exact, -⟩ := frame
            exact exact
          slot_exact := by
            rw [checkedMul_eq_some] at slot
            exact slot.1
          stride_fits := by
            simp only [Option.bind_eq_some_iff, checkedAdd_eq_some] at stride
            obtain ⟨used, ⟨rfl, -⟩, aligned⟩ := stride
            exact (alignUp_bounds _ 12 _ (by decide) aligned).1
          mapping_exact := by
            simp only [Option.bind_eq_some_iff, checkedMul_eq_some, checkedAdd_eq_some] at mapping
            obtain ⟨slots, ⟨rfl, -⟩, exact, -⟩ := mapping
            exact exact
          mapping_cap := not_lt.mp cap }

/-- `control_mapping_bytes` — the mapping length from the two fields of a control message. -/
def controlMappingBytes (slotCount : UInt32) (slotBytes : UInt64) : Except RingError Nat :=
  if ¬ (minSlotCount ≤ slotCount.toNat ∧ slotCount.toNat ≤ maxSlotCount) then
    .error (.invalidSlotCount slotCount.toNat)
  else if slotBytes.toNat = 0 then .error (.batchLengthMismatch 1 0)
  else
    match (checkedAdd slotHeaderBytes slotBytes.toNat).bind (alignUp · slotStrideAlignment) with
    | none => .error .layoutOverflow
    | some slotStride =>
    match (checkedMul slotStride slotCount.toNat).bind (checkedAdd mappingHeaderBytes) with
    | none => .error .layoutOverflow
    | some mappingBytes =>
      if mappingBytes > maxMappingBytes then .error (.mappingTooLarge mappingBytes maxMappingBytes)
      else .ok mappingBytes

/-- `RingV2Descriptor` — the layout and live generation an endpoint holds. -/
structure RingV2Descriptor where
  layout : RingV2Layout
  generation : Nat
  generation_bound : 0 < generation ∧ generation < 2 ^ 64

/-- `RingV2Descriptor::new` — a descriptor of a nonzero generation. -/
def RingV2Descriptor.new (width height maximumBatch slotCount : UInt32) (generation : UInt64) :
    Except RingError RingV2Descriptor :=
  if zero : generation.toNat = 0 then .error .invalidGeneration
  else do
    let layout ← RingV2Layout.new width height maximumBatch slotCount
    .ok {
      layout
      generation := generation.toNat
      generation_bound := ⟨by omega, generation.toNat_lt⟩ }

/-- `RingV2State` — consistent bounded-queue counters. -/
structure RingV2State where
  producerSequence : Nat
  consumerSequence : Nat
  /-- `occupancy` — batches published and not consumed. -/
  occupancy : Nat
  availableCapacity : Nat

/-- The sixteen bytes of a decoder session identifier. -/
structure SessionId where
  bytes : List UInt8
  length : bytes.length = 16

/-- `BatchV2Metadata` — what is bound to one decoded batch publication. -/
structure BatchV2Metadata where
  generation : Nat
  slotSequence : Nat
  logicalSequence : Nat
  sessionId : List UInt8
  batch : Nat

/-- `RgbaBatchV2` — one copied contiguous batch. -/
structure RgbaBatchV2 where
  metadata : BatchV2Metadata
  width : Nat
  height : Nat
  pixels : List UInt8

/-- `WriteV2Status` — the result of a non-blocking publish. -/
inductive WriteV2Status where
  | written (metadata : BatchV2Metadata)
  | backpressure (queued capacity : Nat)

/-- `ReadV2Status` — the result of a non-blocking consume. -/
inductive ReadV2Status where
  | batch (batch : RgbaBatchV2)
  | empty

/-- The arguments of one `write_mapping_batch` call. -/
structure WriteRequest where
  sessionId : SessionId
  logicalSequence : UInt64
  batch : UInt32
  width : UInt32
  height : UInt32
  pixels : List UInt8

/-- `slot_base_for_index` — the address of a slot. -/
def slotBaseForIndex (layout : RingV2Layout) (index : Nat) : Option Nat :=
  (checkedMul layout.slotStrideBytes index).bind (checkedAdd mappingHeaderBytes)

/-- `slot_base` — the address of the slot a sequence occupies. -/
def slotBase (layout : RingV2Layout) (sequence : Nat) : Option Nat :=
  slotBaseForIndex layout ((sequence - 1) % layout.slotCount)

def slotIndex (layout : RingV2Layout) (sequence : Nat) : Nat := (sequence - 1) % layout.slotCount

/-- The address of a slot when it is inside the mapping. -/
def slotAddress (layout : RingV2Layout) (index : Nat) : Nat :=
  mappingHeaderBytes + layout.slotStrideBytes * index

section Geometry

variable (layout : RingV2Layout)

theorem slotCount_positive : 0 < layout.slotCount := by
  have bound := layout.slot_bound
  simp only [minSlotCount] at bound
  omega

theorem slotIndex_lt (sequence : Nat) : slotIndex layout sequence < layout.slotCount :=
  Nat.mod_lt _ (slotCount_positive layout)

theorem slotAddress_end (index : Nat) (inside : index < layout.slotCount) :
    slotAddress layout index + layout.slotStrideBytes ≤ layout.mappingBytes := by
  have fits : layout.slotStrideBytes * (index + 1) ≤ layout.slotStrideBytes * layout.slotCount :=
    Nat.mul_le_mul_left _ inside
  have exact := layout.mapping_exact
  rw [Nat.mul_succ] at fits
  simp only [slotAddress]
  omega

theorem slotBaseForIndex_eq (index : Nat) (inside : index < layout.slotCount) :
    slotBaseForIndex layout index = some (slotAddress layout index) := by
  have fits := slotAddress_end layout index inside
  have cap := layout.mapping_cap
  simp only [slotAddress, mappingHeaderBytes, maxMappingBytes] at fits cap
  rw [slotBaseForIndex, Option.bind_eq_some_iff]
  refine ⟨layout.slotStrideBytes * index, ?_, ?_⟩
  · rw [checkedMul_eq_some]
    exact ⟨rfl, by omega⟩
  · rw [checkedAdd_eq_some]
    simp only [slotAddress, mappingHeaderBytes, true_and]
    omega

theorem slotBase_eq (sequence : Nat) :
    slotBase layout sequence = some (slotAddress layout (slotIndex layout sequence)) :=
  slotBaseForIndex_eq layout _ (slotIndex_lt layout sequence)

theorem slots_disjoint (left right : Nat) (different : left ≠ right) :
    slotAddress layout left + layout.slotStrideBytes ≤ slotAddress layout right ∨
      slotAddress layout right + layout.slotStrideBytes ≤ slotAddress layout left := by
  have order (low high : Nat) (below : low < high) :
      slotAddress layout low + layout.slotStrideBytes ≤ slotAddress layout high := by
    have fits : layout.slotStrideBytes * (low + 1) ≤ layout.slotStrideBytes * high :=
      Nat.mul_le_mul_left _ below
    rw [Nat.mul_succ] at fits
    simp only [slotAddress]
    omega
  obtain below | below := Nat.lt_or_gt_of_ne different
  · exact Or.inl (order left right below)
  · exact Or.inr (order right left below)

theorem slotIndex_different (earlier later : Nat) (positive : 0 < earlier)
    (ordered : earlier < later) (lap : later < earlier + layout.slotCount) :
    slotIndex layout earlier ≠ slotIndex layout later := by
  intro same
  have congruent : (earlier - 1) % layout.slotCount = (later - 1) % layout.slotCount := same
  have gap : (later - 1 - (earlier - 1)) % layout.slotCount = 0 :=
    Nat.sub_mod_eq_zero_of_mod_eq congruent.symm
  rw [Nat.mod_eq_of_lt (by omega)] at gap
  omega

end Geometry
end LatentDeck.Ring
