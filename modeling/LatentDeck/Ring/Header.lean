import LatentDeck.Ring.Interleaving
import LatentDeck.Library.Tiling

/-!
# The geometry and the header of a mapping

Every accepted layout is exact: nothing overflows on the way to it, the header and the slots tile the
mapping, and the two fields of a control message give the same length. A header is accepted when it
declares such a layout in all of its fields, as the one that `initialize_mapping` writes does.
-/

namespace LatentDeck.Ring

open Checked LittleEndian Program Tiling

/-- The products and sums on the way to a layout, each of which fits 64 bits. -/
structure RingV2Layout.Exact (layout : RingV2Layout) : Prop where
  pixels : layout.width * layout.height < 2 ^ 64
  frame : layout.width * layout.height * bytesPerPixel < 2 ^ 64
  slot : layout.frameStrideBytes * layout.maximumBatch < 2 ^ 64
  padded : slotHeaderBytes + layout.slotBytes + (slotStrideAlignment - 1) < 2 ^ 64
  aligned : alignUp (slotHeaderBytes + layout.slotBytes) slotStrideAlignment =
    some layout.slotStrideBytes
  slots : layout.slotStrideBytes * layout.slotCount < 2 ^ 64
  mapping : mappingHeaderBytes + layout.slotStrideBytes * layout.slotCount < 2 ^ 64

variable {width height maximumBatch : UInt32} {layout : RingV2Layout} {slotCount : UInt32}

/-- An accepted layout has the arguments as its dimensions, and its arithmetic is exact. -/
theorem new_exact (accepted : RingV2Layout.new width height maximumBatch slotCount = .ok layout) :
    (layout.width = width.toNat ∧ layout.height = height.toNat ∧
        layout.maximumBatch = maximumBatch.toNat ∧ layout.slotCount = slotCount.toNat) ∧
      layout.Exact := by
  unfold RingV2Layout.new at accepted
  by_cases zero : width.toNat = 0 ∨ height.toNat = 0
  · rw [dif_pos zero] at accepted
    cases accepted
  rw [dif_neg zero] at accepted
  by_cases batch : ¬ (1 ≤ maximumBatch.toNat ∧ maximumBatch.toNat ≤ maxBatchFrames)
  · rw [dif_pos batch] at accepted
    cases accepted
  rw [dif_neg batch] at accepted
  by_cases slots : ¬ (minSlotCount ≤ slotCount.toNat ∧ slotCount.toNat ≤ maxSlotCount)
  · rw [dif_pos slots] at accepted
    cases accepted
  rw [dif_neg slots] at accepted
  split at accepted
  · cases accepted
  rename_i frameStrideBytes frame
  split at accepted
  · cases accepted
  rename_i slotBytes slot
  split at accepted
  · cases accepted
  rename_i slotStrideBytes stride
  split at accepted
  · cases accepted
  rename_i mappingBytes mapping
  split at accepted
  · cases accepted
  cases accepted
  obtain ⟨pixels, counted, frame⟩ := Option.bind_eq_some_iff.mp frame
  obtain ⟨rfl, pixelBound⟩ := (checkedMul_eq_some ..).mp counted
  obtain ⟨rfl, frameBound⟩ := (checkedMul_eq_some ..).mp frame
  obtain ⟨rfl, slotBound⟩ := (checkedMul_eq_some ..).mp slot
  obtain ⟨used, headed, aligned⟩ := Option.bind_eq_some_iff.mp stride
  obtain ⟨rfl, usedBound⟩ := (checkedAdd_eq_some ..).mp headed
  obtain ⟨sum, padded, masked⟩ := Option.map_eq_some_iff.mp aligned
  obtain ⟨_, paddedBound⟩ := (checkedAdd_eq_some ..).mp padded
  obtain ⟨total, multiplied, mapped⟩ := Option.bind_eq_some_iff.mp mapping
  obtain ⟨rfl, slotsBound⟩ := (checkedMul_eq_some ..).mp multiplied
  obtain ⟨rfl, mappingBound⟩ := (checkedAdd_eq_some ..).mp mapped
  exact ⟨⟨rfl, rfl, rfl, rfl⟩, {
    pixels := pixelBound
    frame := frameBound
    slot := slotBound
    padded := paddedBound
    aligned := aligned
    slots := slotsBound
    mapping := mappingBound }⟩

/-- The mapping header and the slots, as offsets and lengths. -/
def regions (layout : RingV2Layout) : List (Nat × Nat) :=
  (0, mappingHeaderBytes) ::
    (List.range layout.slotCount).map fun index =>
      (slotAddress layout index, layout.slotStrideBytes)

theorem regions_tile (layout : RingV2Layout) : Tiles 0 (regions layout) layout.mappingBytes := by
  have slots : Tiles mappingHeaderBytes
      ((List.range layout.slotCount).map fun index =>
        (mappingHeaderBytes + index * layout.slotStrideBytes, layout.slotStrideBytes))
      (mappingHeaderBytes + layout.slotCount * layout.slotStrideBytes) :=
    (tiles_progression ..).mpr ⟨fun _ => rfl, fun _ => rfl, rfl⟩
  rw [layout.mapping_exact, Nat.mul_comm]
  refine ⟨rfl, ?_⟩
  rw [Nat.zero_add]
  simpa only [slotAddress, Nat.mul_comm] using slots

theorem slotBase_inside (layout : RingV2Layout) (sequence : Nat) :
    ∃ base, slotBase layout sequence = some base ∧ mappingHeaderBytes ≤ base ∧
      base + layout.slotStrideBytes ≤ layout.mappingBytes :=
  ⟨_, slotBase_eq layout sequence, Nat.le_add_right _ _,
    slotAddress_end layout _ (slotIndex_lt layout sequence)⟩

/-- The control message of a layout gives the length of its mapping. -/
theorem controlMappingBytes_eq (exact' : layout.Exact)
    (slotCount : UInt32) (slotBytes : UInt64) (slots : slotCount.toNat = layout.slotCount)
    (bytes : slotBytes.toNat = layout.slotBytes) :
    controlMappingBytes slotCount slotBytes = .ok layout.mappingBytes := by
  have slotRange := layout.slot_bound
  have cap := layout.mapping_cap
  have padded := exact'.padded
  have used : checkedAdd slotHeaderBytes layout.slotBytes =
      some (slotHeaderBytes + layout.slotBytes) :=
    (checkedAdd_eq_some ..).mpr ⟨rfl, by omega⟩
  have total : checkedMul layout.slotStrideBytes layout.slotCount =
      some (layout.slotStrideBytes * layout.slotCount) :=
    (checkedMul_eq_some ..).mpr ⟨rfl, exact'.slots⟩
  have mapped : checkedAdd mappingHeaderBytes (layout.slotStrideBytes * layout.slotCount) =
      some layout.mappingBytes :=
    (checkedAdd_eq_some ..).mpr ⟨layout.mapping_exact, exact'.mapping⟩
  have nonempty : layout.slotBytes ≠ 0 := by
    have width := layout.width_bound.1
    have height := layout.height_bound.1
    have batch := layout.batch_bound.1
    rw [layout.slot_exact, layout.frame_exact]
    exact Nat.ne_of_gt (Nat.mul_pos (Nat.mul_pos (Nat.mul_pos width height) (by decide)) batch)
  unfold controlMappingBytes
  rw [slots, bytes, if_neg (not_not.mpr slotRange), if_neg nonempty, used, Option.bind_some,
    exact'.aligned]
  dsimp only
  rw [total, Option.bind_some, mapped]
  exact if_neg (Nat.not_lt.mpr cap)

/-- The header fields that a layout recomputes. -/
structure Declares (memory : Memory) (layout : RingV2Layout) : Prop where
  width : leValue (memory.load headerWidthOffset 4) = layout.width
  height : leValue (memory.load headerHeightOffset 4) = layout.height
  maximumBatch : leValue (memory.load headerMaxBatchOffset 4) = layout.maximumBatch
  slotCount : leValue (memory.load headerSlotCountOffset 4) = layout.slotCount
  slotHeader : leValue (memory.load headerSlotHeaderBytesOffset 4) = slotHeaderBytes
  frameStride : leValue (memory.load headerFrameStrideOffset 8) = layout.frameStrideBytes
  slotBytes : leValue (memory.load headerSlotBytesOffset 8) = layout.slotBytes
  slotStride : leValue (memory.load headerSlotStrideOffset 8) = layout.slotStrideBytes
  mapping : leValue (memory.load headerMappingBytesOffset 8) = layout.mappingBytes
  pixelFormat : leValue (memory.load headerPixelFormatOffset 4) = pixelFormatRgba8

/-- The rest of what a validated header says. -/
structure Live (memory : Memory) (descriptor : RingV2Descriptor) : Prop where
  signature : memory.load headerMagicOffset magic.length = magic
  abi : leValue (memory.load headerAbiOffset 4) = abiVersion
  headerBytes : leValue (memory.load headerBytesOffset 4) = mappingHeaderBytes
  ready : memory.word headerStateOffset = stateReady
  generation : memory.word headerGenerationOffset = descriptor.generation
  reserved : memory.load headerReservedOffset (mappingHeaderBytes - headerReservedOffset) =
    List.replicate (mappingHeaderBytes - headerReservedOffset) 0
  producerClaim : memory.word headerProducerClaimOffset ≤ 1
  consumerClaim : memory.word headerConsumerClaimOffset ≤ 1
  counters : ∃ depth, memory.word headerProducerSequenceOffset =
    memory.word headerConsumerSequenceOffset + depth ∧ depth ≤ descriptor.layout.slotCount

variable {β : Type} {memory : Memory} {value : β}

theorem returns_getU32 (address : Nat) (next : Nat → Program RingError β) :
    (getU32 address >>= next).Returns memory value ↔
      (next (leValue (memory.load address 4))).Returns memory value := by
  rw [getU32, bind_bind, returns_loadBytes]
  rfl

theorem returns_getU64 (address : Nat) (next : Nat → Program RingError β) :
    (getU64 address >>= next).Returns memory value ↔
      (next (leValue (memory.load address 8))).Returns memory value := by
  rw [getU64, bind_bind, returns_loadBytes]
  rfl

theorem returns_loadConsistentSequences (next : Nat × Nat × Nat → Program RingError β) :
    (loadConsistentSequences >>= next).Returns memory value ↔
      ∃ depth, memory.word headerProducerSequenceOffset =
          memory.word headerConsumerSequenceOffset + depth ∧
        (next (memory.word headerProducerSequenceOffset,
          memory.word headerConsumerSequenceOffset, depth)).Returns memory value := by
  rw [loadConsistentSequences, loadConsistentSequencesWithin]
  simp only [bind_bind, returns_atomicLoad, if_pos, returns_orFail, checkedSub_eq_some]
  rfl

theorem returns_requireHeader (condition : Prop) [Decidable condition] (field : String)
    (next : Unit → Program RingError β) :
    (requireHeader condition field >>= next).Returns memory value ↔
      condition ∧ (next ()).Returns memory value :=
  returns_ensure condition _ next

theorem returns_ensureLive (generation : Nat) (next : Unit → Program RingError β) :
    (ensureLive generation >>= next).Returns memory value ↔
      (memory.word headerStateOffset = stateReady ∧
        memory.word headerGenerationOffset = generation) ∧ (next ()).Returns memory value := by
  rw [ensureLive, requireReady]
  simp only [bind_bind, returns_atomicLoad, returns_ensure, and_assoc]

/-- The counters of a live mapping are those of a queue. -/
theorem returns_mappingState (descriptor : RingV2Descriptor) (result : β) :
    (mappingState descriptor >>= fun _ => done result).Returns memory value ↔
      (memory.word headerStateOffset = stateReady ∧
          memory.word headerGenerationOffset = descriptor.generation) ∧
      (∃ depth, memory.word headerProducerSequenceOffset =
        memory.word headerConsumerSequenceOffset + depth ∧
          depth ≤ descriptor.layout.slotCount) ∧ result = value := by
  rw [mappingState]
  simp only [bind_bind, returns_ensureLive, returns_loadConsistentSequences, returns_ensure,
    returns_orFail, pure_eq, done_bind, returns_done]
  constructor
  · intro returned
    obtain ⟨live, depth, counted, _, bounded, _, _, same⟩ := returned
    exact ⟨live, ⟨depth, counted, bounded⟩, same⟩
  · intro found
    obtain ⟨live, ⟨depth, counted, bounded⟩, same⟩ := found
    have slots := descriptor.layout.slot_bound.2
    have most : maxSlotCount = 24 := rfl
    have fits : tryU32 depth = some depth := if_pos (by omega)
    exact ⟨live, depth, counted, live, bounded, depth, fits, same⟩

/-- The layout that a header declares by its dimensions. -/
def recomputedLayout (memory : Memory) : Except RingError RingV2Layout :=
  RingV2Layout.new (.ofNat (leValue (memory.load headerWidthOffset 4)))
    (.ofNat (leValue (memory.load headerHeightOffset 4)))
    (.ofNat (leValue (memory.load headerMaxBatchOffset 4)))
    (.ofNat (leValue (memory.load headerSlotCountOffset 4)))

/-- The checks against a layout that has the dimensions of the header. -/
theorem returns_validateHeaderLayout (length mappingBytes : Nat) (layout : RingV2Layout)
    (next : Unit → Program RingError β) :
    (validateHeaderLayout length mappingBytes layout >>= next).Returns memory value ↔
      leValue (memory.load headerSlotHeaderBytesOffset 4) = slotHeaderBytes ∧
      leValue (memory.load headerFrameStrideOffset 8) = layout.frameStrideBytes ∧
      leValue (memory.load headerSlotBytesOffset 8) = layout.slotBytes ∧
      leValue (memory.load headerSlotStrideOffset 8) = layout.slotStrideBytes ∧
      leValue (memory.load headerMappingBytesOffset 8) = layout.mappingBytes ∧
      mappingBytes = layout.mappingBytes ∧ mappingBytes = length ∧
      leValue (memory.load headerPixelFormatOffset 4) = pixelFormatRgba8 ∧
      memory.load headerReservedOffset (mappingHeaderBytes - headerReservedOffset) =
        List.replicate (mappingHeaderBytes - headerReservedOffset) 0 ∧
      memory.word headerProducerClaimOffset ≤ 1 ∧ memory.word headerConsumerClaimOffset ≤ 1 ∧
      (next ()).Returns memory value := by
  rw [validateHeaderLayout]
  simp only [bind_bind, returns_getU32, returns_getU64, returns_requireHeader,
    returns_anyNonzero, returns_atomicLoad, decide_eq_false_iff_not, not_not]

/-- The dimensions of a recomputed layout are those of the header. -/
theorem recomputedLayout_dimensions (recomputed : recomputedLayout memory = .ok layout) :
    leValue (memory.load headerWidthOffset 4) = layout.width ∧
      leValue (memory.load headerHeightOffset 4) = layout.height ∧
      leValue (memory.load headerMaxBatchOffset 4) = layout.maximumBatch ∧
      leValue (memory.load headerSlotCountOffset 4) = layout.slotCount := by
  have word : ∀ address, (UInt32.ofNat (leValue (memory.load address 4))).toNat =
      leValue (memory.load address 4) := by
    intro address
    have bound := leValue_bound (memory.load address 4)
    rw [Memory.load_length] at bound
    exact UInt32.toNat_ofNat_of_lt' bound
  obtain ⟨width, height, maximumBatch, slotCount⟩ := (new_exact recomputed).1
  rw [width, height, maximumBatch, slotCount]
  exact ⟨(word _).symm, (word _).symm, (word _).symm, (word _).symm⟩

/-- A header is accepted when its fields are those of the layout recomputed from its dimensions. -/
theorem validateMappingHeader_returns (memory : Memory) (length mappingBytes : Nat)
    (descriptor : RingV2Descriptor) :
    (validateMappingHeader length mappingBytes).Returns memory descriptor ↔
      (mappingHeaderBytes ≤ length ∧ mappingBytes = length ∧
          mappingBytes = descriptor.layout.mappingBytes) ∧
        recomputedLayout memory = .ok descriptor.layout ∧
        Declares memory descriptor.layout ∧ Live memory descriptor := by
  have word : memory.word headerGenerationOffset < 2 ^ 64 := Memory.word_bound memory _
  rw [validateMappingHeader]
  simp only [requireReady, bind_bind, returns_ensure, returns_loadBytes, returns_getU32,
    returns_requireHeader, returns_atomicLoad]
  by_cases live : 0 < memory.word headerGenerationOffset ∧
      memory.word headerGenerationOffset < 2 ^ 64
  · rw [dif_pos live]
    simp only [returns_getU32, returns_ofExcept, returns_validateHeaderLayout, pure_eq,
      returns_mappingState]
    constructor
    · intro returned
      obtain ⟨long, signature, abi, headerBytes, ready, layout, recomputed, slotHeader,
        frameStride, slotBytes, slotStride, mapping, mapped, viewed, pixelFormat, reserved,
        producerClaim, consumerClaim, _, counters, same⟩ := returned
      subst same
      obtain ⟨width, height, maximumBatch, slotCount⟩ := recomputedLayout_dimensions recomputed
      exact ⟨⟨long, viewed, mapped⟩, recomputed, {
          width, height, maximumBatch, slotCount, slotHeader, frameStride, slotBytes, slotStride,
          mapping, pixelFormat },
        { signature, abi, headerBytes, ready, generation := rfl, reserved, producerClaim,
          consumerClaim, counters }⟩
    · intro accepted
      obtain ⟨⟨long, viewed, mapped⟩, recomputed, declares, alive⟩ := accepted
      have same : descriptor =
          ⟨descriptor.layout, memory.word headerGenerationOffset, live⟩ := by
        cases descriptor
        have generation := alive.generation
        dsimp only at generation
        subst generation
        rfl
      exact ⟨long, alive.signature, alive.abi, alive.headerBytes, alive.ready,
        descriptor.layout, recomputed, declares.slotHeader, declares.frameStride,
        declares.slotBytes, declares.slotStride, declares.mapping, mapped, viewed,
        declares.pixelFormat, alive.reserved, alive.producerClaim, alive.consumerClaim,
        ⟨alive.ready, trivial⟩, alive.counters, same.symm⟩
  · rw [dif_neg live]
    constructor
    · intro returned
      exact absurd returned.2.2.2.2.2 (returns_fail _)
    · intro accepted
      have generation := accepted.2.2.2.generation
      have bound := descriptor.generation_bound
      exact absurd ⟨by omega, word⟩ live

theorem leValue_field {address width value : Nat} (fits : value < 256 ^ width) :
    leValue ((memory.store address (leBytes width value)).load address width) = value := by
  rw [Memory.load_store_leBytes, leValue_leBytes_of_lt _ _ fits]

/-- The fields that `initialize_mapping` writes are those of its descriptor. -/
theorem initialMemory_header (descriptor : RingV2Descriptor) (memory : Memory) :
    Declares (initialMemory descriptor memory) descriptor.layout ∧
      Live (initialMemory descriptor memory) descriptor := by
  have length : mappingHeaderBytes ≤ descriptor.layout.mappingBytes := by
    rw [descriptor.layout.mapping_exact]
    exact Nat.le_add_right _ _
  have cap := descriptor.layout.mapping_cap
  have width := descriptor.layout.width_bound.2
  have height := descriptor.layout.height_bound.2
  have batch := descriptor.layout.batch_bound.2
  have slots := descriptor.layout.slot_bound.2
  have frame : descriptor.layout.frameStrideBytes ≤ descriptor.layout.slotBytes := by
    rw [descriptor.layout.slot_exact]
    exact Nat.le_mul_of_pos_right _ descriptor.layout.batch_bound.1
  have slot := descriptor.layout.stride_fits
  have stride : descriptor.layout.slotStrideBytes ≤ descriptor.layout.mappingBytes := by
    have fits := slotAddress_end descriptor.layout 0 (slotCount_positive descriptor.layout)
    omega
  have generation := descriptor.generation_bound.2
  simp only [mappingHeaderBytes, maxMappingBytes, maxBatchFrames, maxSlotCount, slotHeaderBytes]
    at length cap batch slots slot
  simp only [initialMemory, initializeMapping, fillZero, putU32, putU64, headerMagicOffset,
    headerAbiOffset, headerBytesOffset, headerGenerationOffset, headerStateOffset,
    headerSlotCountOffset, headerSlotHeaderBytesOffset, headerWidthOffset, headerHeightOffset,
    headerFrameStrideOffset, headerSlotBytesOffset, headerSlotStrideOffset,
    headerMappingBytesOffset, headerMaxBatchOffset, headerPixelFormatOffset, run_bind,
    run_ensure_pos, run_storeBytes]
  -- Each field keeps its own store; what no store meets keeps the cleared mapping's zero.
  constructor
  · constructor <;> simp (disch := simp) only [headerWidthOffset, headerHeightOffset,
      headerMaxBatchOffset, headerSlotCountOffset, headerSlotHeaderBytesOffset,
      headerFrameStrideOffset, headerSlotBytesOffset, headerSlotStrideOffset,
      headerMappingBytesOffset, headerPixelFormatOffset, Memory.load_store_disjoint]
    all_goals apply leValue_field
    · omega
    · omega
    · omega
    · omega
    · decide
    · omega
    · omega
    · omega
    · omega
    · decide
  · constructor <;> simp (disch := simp [magic]) only [headerMagicOffset, headerAbiOffset,
      headerBytesOffset, headerStateOffset, headerGenerationOffset, headerReservedOffset,
      headerProducerClaimOffset, headerConsumerClaimOffset, headerProducerSequenceOffset,
      headerConsumerSequenceOffset, mappingHeaderBytes, Memory.load_store_disjoint,
      Memory.word_store_disjoint]
    · exact Memory.load_store_same _ _ magic
    · exact leValue_field (by decide)
    · exact leValue_field (by decide)
    · exact Memory.word_storeWord_same _ 24 stateReady (by decide)
    · exact Memory.word_storeWord_same _ 16 _ generation
    · exact Memory.load_store_zero _ _ _ _ _ (by omega)
    · rw [Memory.word_store_zero _ _ _ _ (by omega)]
      exact Nat.zero_le 1
    · rw [Memory.word_store_zero _ _ _ _ (by omega)]
      exact Nat.zero_le 1
    · refine ⟨0, ?_, Nat.zero_le _⟩
      rw [Memory.word_store_zero _ _ _ _ (by omega), Memory.word_store_zero _ _ _ _ (by omega)]

theorem recomputedLayout_of_declares
    (accepted : RingV2Layout.new width height maximumBatch slotCount = .ok layout)
    (declares : Declares memory layout) : recomputedLayout memory = .ok layout := by
  obtain ⟨widthSame, heightSame, batchSame, slotsSame⟩ := (new_exact accepted).1
  rw [recomputedLayout, declares.width, declares.height, declares.maximumBatch,
    declares.slotCount, widthSame, heightSame, batchSame, slotsSame, UInt32.ofNat_toNat,
    UInt32.ofNat_toNat, UInt32.ofNat_toNat, UInt32.ofNat_toNat]
  exact accepted

/-- The header that `initialize_mapping` writes is accepted. -/
theorem initialized_header_accepted {descriptor : RingV2Descriptor}
    (accepted : RingV2Layout.new width height maximumBatch slotCount = .ok descriptor.layout)
    (memory : Memory) :
    (validateMappingHeader descriptor.layout.mappingBytes descriptor.layout.mappingBytes).Returns
      (initialMemory descriptor memory) descriptor := by
  obtain ⟨declares, live⟩ := initialMemory_header descriptor memory
  rw [validateMappingHeader_returns]
  refine ⟨⟨?_, rfl, rfl⟩, recomputedLayout_of_declares accepted declares, declares, live⟩
  rw [descriptor.layout.mapping_exact]
  exact Nat.le_add_right _ _

/-- What follows from the acceptance of a layout. -/
structure RingV2Layout.Coherent (layout : RingV2Layout) : Prop where
  /-- Nothing overflows on the way to the layout. -/
  exact' : layout.Exact
  disjoint : (regions layout).Pairwise Apart
  inside : ∀ region ∈ regions layout, region.1 + region.2 ≤ layout.mappingBytes
  holds : slotHeaderBytes + layout.width * layout.height * bytesPerPixel * layout.maximumBatch ≤
    layout.slotStrideBytes
  addressed : ∀ sequence, ∃ base, slotBase layout sequence = some base ∧
    mappingHeaderBytes ≤ base ∧ base + layout.slotStrideBytes ≤ layout.mappingBytes
  control : ∀ (slotCount : UInt32) (slotBytes : UInt64), slotCount.toNat = layout.slotCount →
    slotBytes.toNat = layout.slotBytes →
      controlMappingBytes slotCount slotBytes = .ok layout.mappingBytes
  written : ∀ (generation : Nat) (bound : 0 < generation ∧ generation < 2 ^ 64) (memory : Memory),
    (validateMappingHeader layout.mappingBytes layout.mappingBytes).Returns
      (initialMemory ⟨layout, generation, bound⟩ memory) ⟨layout, generation, bound⟩

theorem coherent_of_new
    (accepted : RingV2Layout.new width height maximumBatch slotCount = .ok layout) :
    layout.Coherent where
  exact' := (new_exact accepted).2
  disjoint := (tiles_ordered (regions_tile layout)).2.imp Or.inl
  inside := (tiles_bound (regions_tile layout)).2
  holds := by
    rw [← layout.frame_exact, ← layout.slot_exact]
    exact layout.stride_fits
  addressed := slotBase_inside layout
  control := controlMappingBytes_eq (new_exact accepted).2
  written := fun generation bound memory =>
    @initialized_header_accepted _ _ _ _ ⟨layout, generation, bound⟩ accepted memory

/-- Every accepted layout is coherent, and every header that is accepted declares in all its fields the
layout recomputed from its dimensions. -/
theorem layout_coherent (width height maximumBatch slotCount : UInt32) (layout : RingV2Layout)
    (accepted : RingV2Layout.new width height maximumBatch slotCount = .ok layout) :
    layout.Coherent ∧
      ∀ (memory : Memory) (length mappingBytes : Nat) (descriptor : RingV2Descriptor),
        (validateMappingHeader length mappingBytes).Returns memory descriptor →
          recomputedLayout memory = .ok descriptor.layout ∧
            Declares memory descriptor.layout ∧ length = descriptor.layout.mappingBytes ∧
              mappingBytes = descriptor.layout.mappingBytes := by
  refine ⟨coherent_of_new accepted, fun memory length mappingBytes descriptor returned => ?_⟩
  obtain ⟨⟨_, viewed, mapped⟩, recomputed, declares, _⟩ :=
    (validateMappingHeader_returns ..).mp returned
  exact ⟨recomputed, declares, viewed.symm.trans mapped, mapped⟩

/-- A layout of one-pixel frames is coherent. -/
theorem small_layout_coherent : ∃ layout, RingV2Layout.new 1 1 1 2 = .ok layout ∧
    layout.Coherent := by
  have accepted : (RingV2Layout.new 1 1 1 2).toBool = true := by decide
  cases computed : RingV2Layout.new 1 1 1 2 with
  | ok layout => exact ⟨layout, rfl, (layout_coherent 1 1 1 2 layout computed).1⟩
  | error error =>
    rw [computed] at accepted
    exact absurd accepted Bool.false_ne_true

end LatentDeck.Ring
