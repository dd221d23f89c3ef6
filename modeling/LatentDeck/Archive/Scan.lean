import LatentDeck.Archive.Safetensors
import LatentDeck.Library.Chunks

/-!
# Scanning tensors

The scan for values that are not finite reads a tensor through a buffer, and the reader below hands
out its bytes in pieces of any size. What the scan accepts is said here element by element.
-/

namespace LatentDeck.Archive

open Checked Chunks Fallible LittleEndian Streaming Tiling

/-- The bits of the exponent field of a storage type. -/
def SafetensorDType.exponentBits : SafetensorDType → Nat
  | .f16 => 5
  | .f32 => 8

/-- The bits below the exponent field of a storage type. -/
def SafetensorDType.fractionBits : SafetensorDType → Nat
  | .f16 => 10
  | .f32 => 23

def SafetensorDType.exponent (dtype : SafetensorDType) (element : List UInt8) : Nat :=
  leValue element / 2 ^ dtype.fractionBits % 2 ^ dtype.exponentBits

variable (dtype : SafetensorDType)

theorem nonFinite_iff (element : List UInt8) :
    nonFinite dtype element = true ↔
      dtype.exponent element = 2 ^ dtype.exponentBits - 1 := by
  cases dtype with
  | f16 => exact decide_eq_true_iff.trans (field_all_ones (leValue element) 10 5)
  | f32 => exact decide_eq_true_iff.trans (field_all_ones (leValue element) 23 8)

/-- The bytes at an offset hold a whole number of elements with finite values. -/
structure Scannable (bytes : List UInt8) (dtype : SafetensorDType) (offset length : Nat) : Prop where
  whole : length % dtype.byteWidth = 0
  present : length = 0 ∨ offset + length ≤ bytes.length
  finite : ∀ index < length / dtype.byteWidth,
    dtype.exponent (elementAt dtype.byteWidth (bytes.drop offset) index) ≠
      2 ^ dtype.exponentBits - 1

theorem byteWidth_pos : 0 < dtype.byteWidth := by
  cases dtype with
  | f16 => decide
  | f32 => decide

theorem scanElements_eq_ok (tensor : SafetensorTensorDescriptor) (entryName : String)
    (elements : List (List UInt8)) (start stop : Nat) :
    scanElements tensor entryName elements start = .ok stop ↔
      (∀ element ∈ elements, ¬ nonFinite tensor.dtype element = true) ∧
        start + elements.length = stop := by
  induction elements generalizing start with
  | nil =>
    rw [scanElements, List.length_nil, Nat.add_zero, Except.ok.injEq]
    exact ⟨fun same => ⟨fun _ never => absurd never List.not_mem_nil, same⟩, fun both => both.2⟩
  | cons element elements ih =>
    rw [scanElements, check_eq_ok, refuseWhen_eq_ok, ih, List.forall_mem_cons, List.length_cons,
      and_assoc, Nat.add_assoc, Nat.add_comm 1]

/-- What the buffer loop asks for: a whole number of elements, the rest of the tensor if it fits. -/
def requestedBytes (dtype : SafetensorDType) (remaining : Nat) : Nat :=
  min remaining scanBufferBytes - min remaining scanBufferBytes % dtype.byteWidth

/-- Requests are whole elements, and there is none only for less than one element. -/
theorem requestedBytes_whole (remaining : Nat) :
    requestedBytes dtype remaining =
        min remaining scanBufferBytes / dtype.byteWidth * dtype.byteWidth ∧
      requestedBytes dtype remaining ≤ remaining ∧
      (requestedBytes dtype remaining = 0 ↔ remaining < dtype.byteWidth) := by
  have buffer : scanBufferBytes = 65536 := rfl
  unfold requestedBytes
  cases dtype with
  | f16 =>
    have width : SafetensorDType.f16.byteWidth = 2 := rfl
    rw [width]
    omega
  | f32 =>
    have width : SafetensorDType.f32.byteWidth = 4 := rfl
    rw [width]
    omega

variable (medium : List UInt8)

theorem scanTensorFrom_round (tensor : SafetensorTensorDescriptor) (entryName : String)
    (position remaining elementIndex : Nat) (nonzero : remaining ≠ 0) :
    scanTensorFrom medium tensor entryName position remaining elementIndex =
      if requestedBytes tensor.dtype remaining = 0 then
        .error ((invalidSafetensorsAt entryName
          "tensor byte length is not dtype-aligned").atTensor tensor.name)
      else (do
        let bytes ← readExactPayload medium position (requestedBytes tensor.dtype remaining)
          entryName
        let elementIndex ← scanElements tensor entryName
          (bytes.toChunks tensor.dtype.byteWidth) elementIndex
        scanTensorFrom medium tensor entryName
          (position + requestedBytes tensor.dtype remaining)
          (remaining - requestedBytes tensor.dtype remaining) elementIndex) := by
  rw [scanTensorFrom, if_neg nonzero]
  rfl

/-- Scannable bytes are scannable up to an element and from it on. -/
theorem scannable_split (bytes : List UInt8) (dtype : SafetensorDType) (offset count length : Nat)
    (positive : 0 < count) (inside : count * dtype.byteWidth ≤ length) :
    Scannable bytes dtype offset length ↔
      (offset + count * dtype.byteWidth ≤ bytes.length ∧
          ∀ element ∈ (List.range count).map (elementAt dtype.byteWidth (bytes.drop offset)),
            ¬ nonFinite dtype element = true) ∧
        Scannable bytes dtype (offset + count * dtype.byteWidth)
          (length - count * dtype.byteWidth) := by
  have width := byteWidth_pos dtype
  have front : 0 < count * dtype.byteWidth := Nat.mul_pos positive width
  have remainder : (length - count * dtype.byteWidth) % dtype.byteWidth =
      length % dtype.byteWidth := by
    rw [Nat.mul_comm]
    exact Nat.sub_mul_mod (by rwa [Nat.mul_comm])
  have quotient : (length - count * dtype.byteWidth) / dtype.byteWidth =
      length / dtype.byteWidth - count := by
    rw [Nat.mul_comm]
    exact Nat.sub_mul_div length dtype.byteWidth count
  have enough : count ≤ length / dtype.byteWidth := (Nat.le_div_iff_mul_le width).mpr inside
  have behind : ∀ index,
      elementAt dtype.byteWidth (bytes.drop (offset + count * dtype.byteWidth)) index =
        elementAt dtype.byteWidth (bytes.drop offset) (count + index) := by
    intro index
    rw [← List.drop_drop, elementAt_drop]
  constructor
  · intro scannable
    have present := scannable.present
    refine ⟨⟨by omega, ?_⟩, ?_⟩
    · rw [List.forall_mem_map]
      intro index member
      rw [nonFinite_iff]
      have early := List.mem_range.mp member
      exact scannable.finite index (by omega)
    · refine ⟨by rw [remainder, scannable.whole], by omega, fun index early => ?_⟩
      rw [quotient] at early
      rw [behind]
      exact scannable.finite (count + index) (by omega)
  · intro both
    obtain ⟨⟨there, finite⟩, rest⟩ := both
    have present := rest.present
    refine ⟨by rw [← remainder, rest.whole], by omega, fun index early => ?_⟩
    by_cases first : index < count
    · rw [List.forall_mem_map] at finite
      exact fun ones => finite index (List.mem_range.mpr first) ((nonFinite_iff ..).mpr ones)
    · have later := rest.finite (index - count) (by omega)
      rwa [behind, Nat.add_sub_cancel' (Nat.le_of_not_lt first)] at later

theorem readExactPayload_eq_ok (position count : Nat) (entryName : String) (bytes : List UInt8) :
    readExactPayload medium position count entryName = .ok bytes ↔
      position + count ≤ medium.length ∧ (medium.drop position).take count = bytes := by
  unfold readExactPayload
  by_cases inside : position + count ≤ medium.length
  · rw [if_pos inside, Except.ok.injEq]
    exact ⟨fun same => ⟨inside, same⟩, fun both => both.2⟩
  · rw [if_neg inside]
    exact ⟨nofun, fun both => absurd both.1 inside⟩

theorem scanTensorFrom_eq_ok (tensor : SafetensorTensorDescriptor) (entryName : String)
    (position remaining elementIndex : Nat) :
    scanTensorFrom medium tensor entryName position remaining elementIndex = .ok () ↔
      Scannable medium tensor.dtype position remaining := by
  induction remaining using Nat.strong_induction_on generalizing position elementIndex with
  | _ remaining ih =>
    have width := byteWidth_pos tensor.dtype
    by_cases done : remaining = 0
    · rw [scanTensorFrom, if_pos done, done]
      refine ⟨fun _ => ⟨Nat.zero_mod _, Or.inl rfl, fun index early => ?_⟩, fun _ => rfl⟩
      rw [Nat.zero_div] at early
      exact absurd early (Nat.not_lt_zero index)
    obtain ⟨counted, bound, short⟩ := requestedBytes_whole tensor.dtype remaining
    rw [scanTensorFrom_round _ _ _ _ _ _ done]
    by_cases cut : requestedBytes tensor.dtype remaining = 0
    · rw [if_pos cut]
      refine ⟨nofun, fun scannable => ?_⟩
      have whole := scannable.whole
      rw [Nat.mod_eq_of_lt (short.mp cut)] at whole
      exact absurd whole done
    rw [if_neg cut]
    generalize requestedBytes tensor.dtype remaining = requested at counted bound short cut
    generalize min remaining scanBufferBytes / tensor.dtype.byteWidth = count at counted
    subst counted
    have positive : 0 < count := by
      apply Nat.pos_of_ne_zero
      intro zero
      exact cut (by rw [zero, Nat.zero_mul])
    rw [scannable_split medium tensor.dtype position count remaining positive bound, bind_eq_ok]
    have chunks : position + count * tensor.dtype.byteWidth ≤ medium.length →
        ((medium.drop position).take (count * tensor.dtype.byteWidth)).toChunks
            tensor.dtype.byteWidth =
          (List.range count).map (elementAt tensor.dtype.byteWidth (medium.drop position)) := by
      intro there
      apply toChunks_take tensor.dtype.byteWidth width
      rw [List.length_drop]
      omega
    have smaller : remaining - count * tensor.dtype.byteWidth < remaining := by omega
    constructor
    · intro accepted
      obtain ⟨bytes, read, rest⟩ := accepted
      obtain ⟨there, same⟩ := (readExactPayload_eq_ok ..).mp read
      rw [← same, chunks there, bind_eq_ok] at rest
      obtain ⟨next, scanned, rest⟩ := rest
      exact ⟨⟨there, ((scanElements_eq_ok ..).mp scanned).1⟩, (ih _ smaller _ _).mp rest⟩
    · intro scannable
      obtain ⟨⟨there, finite⟩, rest⟩ := scannable
      refine ⟨_, (readExactPayload_eq_ok ..).mpr ⟨there, rfl⟩, ?_⟩
      rw [chunks there, bind_eq_ok]
      exact ⟨_, (scanElements_eq_ok ..).mpr ⟨finite, rfl⟩, (ih _ smaller _ _).mpr rest⟩

/-- The scan of a tensor accepts scannable bytes at an offset that fits u64. -/
theorem scanTensorAt_eq_ok (dataAbsoluteOffset : Nat) (tensor : SafetensorTensorDescriptor)
    (entryName : String) :
    scanTensorAt medium dataAbsoluteOffset tensor entryName = .ok () ↔
      dataAbsoluteOffset + tensor.dataOffsets.1 < 2 ^ 64 ∧
        Scannable medium tensor.dtype (dataAbsoluteOffset + tensor.dataOffsets.1)
          tensor.byteLength := by
  rw [scanTensorAt, bind_eq_ok]
  constructor
  · intro accepted
    obtain ⟨offset, added, scanned⟩ := accepted
    obtain ⟨rfl, fits⟩ := (checkedAdd_eq_some ..).mp ((orError_eq_ok ..).mp added)
    exact ⟨fits, (scanTensorFrom_eq_ok ..).mp scanned⟩
  · intro accepted
    exact ⟨_, (orError_eq_ok ..).mpr ((checkedAdd_eq_some ..).mpr ⟨rfl, accepted.1⟩),
      (scanTensorFrom_eq_ok ..).mpr accepted.2⟩

/-- The buffer loop of `scan_tensor_at` on a reader: its result, and the ranges of the pieces that the
reader handed out. -/
def scanStreamFrom (stream : ByteStream) (tensor : SafetensorTensorDescriptor) (entryName : String)
    (position remaining elementIndex : Nat) : Except CartridgeError Unit × List (Nat × Nat) :=
  if remaining = 0 then (.ok (), [])
  else
    let requested := min remaining scanBufferBytes
    let requested := requested - requested % tensor.dtype.byteWidth
    if requested = 0 then
      (.error ((invalidSafetensorsAt entryName
        "tensor byte length is not dtype-aligned").atTensor tensor.name), [])
    else
      let buffer := stream.readExact position requested
      match buffer.1 with
      | none =>
          (.error (invalidSafetensorsAt entryName "Safetensors entry is truncated"), buffer.2)
      | some bytes =>
          match scanElements tensor entryName (bytes.toChunks tensor.dtype.byteWidth)
              elementIndex with
          | .error error => (.error error, buffer.2)
          | .ok elementIndex =>
              let rest := scanStreamFrom stream tensor entryName (position + requested)
                (remaining - requested) elementIndex
              (rest.1, buffer.2 ++ rest.2)
  termination_by remaining
  decreasing_by exact Nat.sub_lt (Nat.pos_of_ne_zero ‹_›) (Nat.pos_of_ne_zero ‹_›)

/-- `scan_tensor_at` on a reader. -/
def scanStreamAt (stream : ByteStream) (dataAbsoluteOffset : Nat)
    (tensor : SafetensorTensorDescriptor) (entryName : String) :
    Except CartridgeError Unit × List (Nat × Nat) :=
  match checkedAdd dataAbsoluteOffset tensor.dataOffsets.1 with
  | none => (.error (sizeOverflowAt entryName "tensor absolute offset overflows u64"), [])
  | some tensorOffset => scanStreamFrom stream tensor entryName tensorOffset tensor.byteLength 0

section

variable (stream : ByteStream)

include stream

theorem scanStreamFrom_round (tensor : SafetensorTensorDescriptor)
    (entryName : String) (position remaining elementIndex : Nat) (nonzero : remaining ≠ 0)
    (aligned : requestedBytes tensor.dtype remaining ≠ 0) :
    scanStreamFrom stream tensor entryName position remaining elementIndex =
      match (stream.readExact position (requestedBytes tensor.dtype remaining)).1 with
      | none =>
          (.error (invalidSafetensorsAt entryName "Safetensors entry is truncated"),
            (stream.readExact position (requestedBytes tensor.dtype remaining)).2)
      | some bytes =>
          match scanElements tensor entryName (bytes.toChunks tensor.dtype.byteWidth)
              elementIndex with
          | .error error =>
              (.error error, (stream.readExact position (requestedBytes tensor.dtype remaining)).2)
          | .ok elementIndex =>
              let rest := scanStreamFrom stream tensor entryName
                (position + requestedBytes tensor.dtype remaining)
                (remaining - requestedBytes tensor.dtype remaining) elementIndex
              (rest.1,
                (stream.readExact position (requestedBytes tensor.dtype remaining)).2 ++ rest.2) := by
  rw [scanStreamFrom, if_neg nonzero]
  exact if_neg aligned

/-- The pieces of the reader do not change the result of the buffer loop. -/
theorem scanStreamFrom_result (tensor : SafetensorTensorDescriptor)
    (entryName : String) (position remaining elementIndex : Nat) :
    (scanStreamFrom stream tensor entryName position remaining elementIndex).1 =
      scanTensorFrom stream.bytes tensor entryName position remaining elementIndex := by
  induction remaining using Nat.strong_induction_on generalizing position elementIndex with
  | _ remaining ih =>
    by_cases done : remaining = 0
    · rw [scanStreamFrom, scanTensorFrom, if_pos done, if_pos done]
    rw [scanTensorFrom_round _ _ _ _ _ _ done]
    obtain ⟨counted, bound, short⟩ := requestedBytes_whole tensor.dtype remaining
    by_cases cut : requestedBytes tensor.dtype remaining = 0
    · rw [scanStreamFrom, if_neg done, if_pos cut]
      exact congrArg Prod.fst (if_pos cut)
    rw [scanStreamFrom_round _ _ _ _ _ _ done cut, if_neg cut, readExact_eq, readExactPayload,
      List.length_drop]
    generalize requestedBytes tensor.dtype remaining = requested at bound cut ⊢
    by_cases inside : position + requested ≤ stream.bytes.length
    · rw [if_pos (by omega : requested ≤ stream.bytes.length - position), if_pos inside]
      show _ = scanElements tensor entryName _ elementIndex >>= _
      dsimp only
      cases scanElements tensor entryName (((stream.bytes.drop position).take requested).toChunks
          tensor.dtype.byteWidth) elementIndex with
      | error error => rfl
      | ok next => exact ih (remaining - requested) (by omega) _ _
    · rw [if_neg (by omega : ¬ requested ≤ stream.bytes.length - position), if_neg inside]
      rfl

/-- The buffer loop reads forwards from its position, no further than the tensor goes, and up to the
tensor's end when it accepts. -/
theorem scanStreamFrom_reads (tensor : SafetensorTensorDescriptor)
    (entryName : String) (position remaining elementIndex : Nat) :
    ∃ stop, Tiles position
        (scanStreamFrom stream tensor entryName position remaining elementIndex).2 stop ∧
      stop ≤ position + remaining ∧
      ((scanStreamFrom stream tensor entryName position remaining elementIndex).1 = .ok () →
        stop = position + remaining) := by
  induction remaining using Nat.strong_induction_on generalizing position elementIndex with
  | _ remaining ih =>
    by_cases done : remaining = 0
    · rw [scanStreamFrom, if_pos done, done]
      exact ⟨position, rfl, Nat.le_refl _, fun _ => rfl⟩
    obtain ⟨counted, bound, short⟩ := requestedBytes_whole tensor.dtype remaining
    by_cases cut : requestedBytes tensor.dtype remaining = 0
    · have refused : ∃ error,
          scanStreamFrom stream tensor entryName position remaining elementIndex =
            (.error error, []) := by
        rw [scanStreamFrom, if_neg done]
        exact ⟨_, if_pos cut⟩
      obtain ⟨error, refused⟩ := refused
      rw [refused]
      exact ⟨position, rfl, Nat.le_add_right _ _, nofun⟩
    rw [scanStreamFrom_round _ _ _ _ _ _ done cut]
    generalize requestedBytes tensor.dtype remaining = requested at bound cut ⊢
    obtain ⟨reached, tiles, inside, filled⟩ := readExact_tiles stream position requested
    generalize stream.readExact position requested = buffer at tiles filled ⊢
    obtain ⟨content, pieces⟩ := buffer
    dsimp only at tiles filled ⊢
    cases content with
    | none => exact ⟨reached, tiles, by omega, nofun⟩
    | some bytes =>
      dsimp only
      cases scanElements tensor entryName (bytes.toChunks tensor.dtype.byteWidth) elementIndex with
      | error error => exact ⟨reached, tiles, by omega, nofun⟩
      | ok next =>
        have whole := filled (Option.some_ne_none bytes)
        obtain ⟨stop, later, limit, accepted⟩ :=
          ih (remaining - requested) (by omega) (position + requested) next
        have total : position + requested + (remaining - requested) = position + remaining := by
          omega
        rw [total] at limit accepted
        refine ⟨stop, ?_, limit, accepted⟩
        rw [tiles_append]
        exact ⟨reached, tiles, by rwa [whole]⟩

theorem scanStreamAt_result (dataAbsoluteOffset : Nat)
    (tensor : SafetensorTensorDescriptor) (entryName : String) :
    (scanStreamAt stream dataAbsoluteOffset tensor entryName).1 =
      scanTensorAt stream.bytes dataAbsoluteOffset tensor entryName := by
  unfold scanStreamAt scanTensorAt
  cases checkedAdd dataAbsoluteOffset tensor.dataOffsets.1 with
  | none => rfl
  | some offset => exact scanStreamFrom_result stream tensor entryName offset tensor.byteLength 0

/-- Whatever the pieces of the reader are, the scan accepts exactly a whole number of finite
elements that are there, and reads bytes of the tensor only, none twice, and all when it accepts. -/
theorem scan_accepts_finite (dataAbsoluteOffset : Nat)
    (tensor : SafetensorTensorDescriptor) (entryName : String) :
    ((scanStreamAt stream dataAbsoluteOffset tensor entryName).1 = .ok () ↔
        dataAbsoluteOffset + tensor.dataOffsets.1 < 2 ^ 64 ∧
          Scannable stream.bytes tensor.dtype (dataAbsoluteOffset + tensor.dataOffsets.1)
            tensor.byteLength) ∧
      ∃ stop, Tiles (dataAbsoluteOffset + tensor.dataOffsets.1)
          (scanStreamAt stream dataAbsoluteOffset tensor entryName).2 stop ∧
        stop ≤ dataAbsoluteOffset + tensor.dataOffsets.1 + tensor.byteLength ∧
        ((scanStreamAt stream dataAbsoluteOffset tensor entryName).1 = .ok () →
          stop = dataAbsoluteOffset + tensor.dataOffsets.1 + tensor.byteLength) := by
  constructor
  · rw [scanStreamAt_result, scanTensorAt_eq_ok]
  · unfold scanStreamAt
    cases added : checkedAdd dataAbsoluteOffset tensor.dataOffsets.1 with
    | none => exact ⟨_, rfl, Nat.le_add_right _ _, nofun⟩
    | some offset =>
      obtain ⟨rfl, _⟩ := (checkedAdd_eq_some ..).mp added
      exact scanStreamFrom_reads stream tensor entryName _ tensor.byteLength 0

end

def cutTensor : SafetensorTensorDescriptor where
  name := "video"
  dtype := .f16
  shape := [1]
  dataOffsets := (0, 3)
  byteLength := 3

/-- A tensor whose elements are finite is refused when its last byte is no element. -/
theorem cut_tensor_refused :
    ¬ ((scanStreamAt ⟨[0, 0, 0], fun _ => 1⟩ 0 cutTensor h3EntryName).1 = .ok () ↔
      ∀ index < cutTensor.byteLength / SafetensorDType.f16.byteWidth,
        ¬ nonFinite .f16 (elementAt SafetensorDType.f16.byteWidth [0, 0, 0] index) = true) := by
  intro exactly
  have finite : ∀ index < 3 / 2, ¬ nonFinite .f16 (elementAt 2 [0, 0, 0] index) = true := by decide
  have accepted := exactly.mpr finite
  rw [scanStreamAt_result, scanTensorAt_eq_ok] at accepted
  exact absurd accepted.2.whole (by decide)

end LatentDeck.Archive
