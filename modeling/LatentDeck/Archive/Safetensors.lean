import LatentDeck.Archive.Limits
import LatentDeck.Library.Json
import LatentDeck.Library.SortedMap
import Mathlib.Data.String.Basic

/-!
# Safetensors payloads

The two structural preflights of a Safetensors payload, the codec-neutral one and the one of the
H3 profile, and their scans for values that are not finite. The payload is a range of a medium.
The header text is read by a JSON parser; which of its members are tensors, and that no key occurs
twice, is decided here.
-/

namespace LatentDeck.Archive

open Checked Fallible LittleEndian Tiling

def h3EntryName : String := "payloads/h3.safetensors"
def headerLengthBytes : Nat := 8
def scanBufferBytes : Nat := 64 * 1024

/-- `EntryRange` — the byte range of one payload. -/
structure EntryRange where
  offset : Nat
  length : Nat

inductive SafetensorDType where
  | f16
  | f32
  deriving DecidableEq

def SafetensorDType.byteWidth : SafetensorDType → Nat
  | .f16 => 2
  | .f32 => 4

/-- `RawTensorDescriptor` — a descriptor as the header has it. -/
structure RawTensorDescriptor where
  dtype : String
  shape : List Nat
  dataOffsets : Nat × Nat
  deriving DecidableEq

/-- `SafetensorTensorDescriptor` — a checked descriptor; its offsets are relative to the data. -/
structure SafetensorTensorDescriptor where
  name : String
  dtype : SafetensorDType
  shape : List Nat
  dataOffsets : Nat × Nat
  byteLength : Nat
  deriving DecidableEq

/-- `SafetensorsPreflight` — the structure of a payload, codec-neutral. -/
structure SafetensorsPreflight where
  payloadBytes : Nat
  headerBytes : Nat
  dataOffset : Nat
  dataBytes : Nat
  tensors : SortedMap String SafetensorTensorDescriptor
  deriving DecidableEq

/-- `H3SafetensorsPreflight` — the structure of an H3 payload. -/
structure H3SafetensorsPreflight where
  payloadBytes : Nat
  headerBytes : Nat
  dataOffset : Nat
  dataBytes : Nat
  video : SafetensorTensorDescriptor
  audio : Option SafetensorTensorDescriptor
  deriving DecidableEq

/-- The parts of a JSON reader that a header needs. -/
structure HeaderDecoder where
  document : Json.Parser
  tensorDescriptor : Json.Document → Option RawTensorDescriptor

def invalidSafetensorsAt (entryName detail : String) : CartridgeError :=
  (CartridgeError.new .safetensorsInvalid detail).atEntry entryName

def invalidSafetensors (detail : String) : CartridgeError := invalidSafetensorsAt h3EntryName detail

def sizeOverflowAt (entryName detail : String) : CartridgeError :=
  (CartridgeError.new .tensorSizeOverflow detail).atEntry entryName

def sizeOverflow (detail : String) : CartridgeError := sizeOverflowAt h3EntryName detail

/-- `UniqueMetadata` — strings under keys that occur once. -/
def uniqueMetadataFrom : List (String × Json.Document) → List String → Bool
  | [], _ => true
  | (key, .string _) :: members, seen =>
      !seen.contains key && uniqueMetadataFrom members (key :: seen)
  | _ :: _, _ => false

/-- `UniqueMetadata::deserialize`. -/
def uniqueMetadata : Json.Document → Bool
  | .object members none => uniqueMetadataFrom members []
  | _ => false

/-- The members loop of `RawHeaderVisitor::visit_map`. -/
def visitHeader (decoder : HeaderDecoder) : List (String × Json.Document) → List String →
    SortedMap String RawTensorDescriptor → Option (SortedMap String RawTensorDescriptor)
  | [], _, tensors => some tensors
  | (name, value) :: members, seen, tensors =>
      if seen.contains name then none
      else if name = "__metadata__" then
        if uniqueMetadata value then visitHeader decoder members (name :: seen) tensors else none
      else
        match decoder.tensorDescriptor value with
        | none => none
        | some descriptor =>
            visitHeader decoder members (name :: seen) (tensors.insert name descriptor)

/-- `RawHeader::deserialize`. -/
def rawHeader (decoder : HeaderDecoder) :
    Json.Document → Option (SortedMap String RawTensorDescriptor)
  | .object members none => visitHeader decoder members [] .empty
  | _ => none

/-- `parse_header`, with the entry that its caller puts into the error. -/
def parseHeader (decoder : HeaderDecoder) (entryName : String) (header : List UInt8) :
    Except CartridgeError (SortedMap String RawTensorDescriptor) := do
  let tensors ← orError (rawHeader decoder (decoder.document header).1)
    (invalidSafetensorsAt entryName "Safetensors header JSON or descriptor is invalid")
  refuseWhen ((decoder.document header).2 ≠ none)
    (invalidSafetensorsAt entryName "Safetensors header has trailing non-whitespace data")
  return tensors

/-- `read_exact_payload_entry` from a position. -/
def readExactPayload (medium : List UInt8) (position count : Nat) (entryName : String) :
    Except CartridgeError (List UInt8) :=
  if position + count ≤ medium.length then .ok ((medium.drop position).take count)
  else .error (invalidSafetensorsAt entryName "Safetensors entry is truncated")

structure HeaderRead where
  headerBytes : Nat
  dataOffset : Nat
  tensors : SortedMap String RawTensorDescriptor

/-- The common start of both preflights: the length prefix and the header after it. -/
def readHeader (decoder : HeaderDecoder) (medium : List UInt8) (entry : EntryRange)
    (entryName tooLarge : String) (limits : ValidationLimits) :
    Except CartridgeError HeaderRead := do
  refuseWhen (entry.length > limits.h3PayloadBytes.val)
    ((CartridgeError.new .entryTooLarge tooLarge).atEntry entryName)
  refuseWhen (entry.length < headerLengthBytes)
    (invalidSafetensorsAt entryName "Safetensors payload is shorter than its header-length prefix")
  let entryEnd ← orError (checkedAdd entry.offset entry.length)
    (sizeOverflowAt entryName "Safetensors entry range overflows u64")
  refuseWhen (entryEnd > medium.length)
    (invalidSafetensorsAt entryName "Safetensors entry range extends beyond the readable stream")
  let encodedHeaderLength ← readExactPayload medium entry.offset headerLengthBytes entryName
  let headerBytes := leValue encodedHeaderLength
  refuseWhen (headerBytes > maxSafetensorsHeaderBytes)
    ((CartridgeError.new .safetensorsHeaderTooLarge
      "Safetensors header exceeds the LC 0.1 ceiling").atEntry entryName)
  refuseWhen (headerBytes = 0 ∨ headerBytes % 8 ≠ 0)
    (invalidSafetensorsAt entryName
      "Safetensors header length must be non-zero and 8-byte aligned")
  let dataOffset ← orError (checkedAdd headerLengthBytes headerBytes)
    (sizeOverflowAt entryName "Safetensors data offset overflows u64")
  refuseWhen (dataOffset > entry.length)
    (invalidSafetensorsAt entryName "Safetensors header extends beyond the entry range")
  let header ← readExactPayload medium (entry.offset + headerLengthBytes) headerBytes entryName
  refuseWhen (header.head? ≠ some 0x7B)
    (invalidSafetensorsAt entryName "Safetensors header must begin with a JSON object")
  let tensors ← parseHeader decoder entryName header
  return { headerBytes, dataOffset, tensors }

def storageDType : String → Option SafetensorDType
  | "F16" => some .f16
  | "F32" => some .f32
  | _ => none

def validateCommon (name : String) (raw : RawTensorDescriptor) (limits : ValidationLimits) :
    Except CartridgeError SafetensorTensorDescriptor := do
  refuseWhen (raw.shape = [] ∨ raw.shape.length > limits.tensorRank.val)
    ((CartridgeError.new .tensorShapeInvalid
      "tensor rank is outside the LC 0.1 limits").atTensor name)
  let dtype ← orError (storageDType raw.dtype)
    ((CartridgeError.new .tensorDtypeForbidden
      "H3 Safetensors accepts only F16 or F32 storage").atTensor name)
  let elements ← orError (checkedProduct raw.shape)
    ((sizeOverflow "tensor element count overflows u64").atTensor name)
  let byteLength ← orError (checkedMul elements dtype.byteWidth)
    ((sizeOverflow "tensor byte length overflows u64").atTensor name)
  refuseWhen (raw.dataOffsets.2 < raw.dataOffsets.1)
    ((invalidSafetensors "tensor data offsets are reversed").atTensor name)
  refuseWhen (raw.dataOffsets.2 - raw.dataOffsets.1 ≠ byteLength)
    ((CartridgeError.new .tensorDescriptorMismatch
      "tensor shape/dtype byte size disagrees with data_offsets").atTensor name)
  return { name, dtype, shape := raw.shape, dataOffsets := raw.dataOffsets, byteLength }

/-- The decoded axes of `validate_h3_axes`. -/
def validateDecodedAxis (limits : ValidationLimits) (axis : Nat) : Except CartridgeError Unit := do
  let decoded ← orError (checkedMul axis 16)
    ((sizeOverflow "decoded H3 geometry overflows u64").atTensor "video")
  refuseWhen (decoded > limits.h3DecodedAxis.val)
    ((CartridgeError.new .runtimeLimitExceeded
      "decoded H3 geometry exceeds the profile ceiling").atTensor "video")

def validateH3Axes (descriptor : SafetensorTensorDescriptor) (limits : ValidationLimits)
    (temporalIndex : Nat) : Except CartridgeError Unit := do
  refuseWhen (descriptor.shape.getD temporalIndex 0 > limits.h3TemporalAxis.val)
    ((CartridgeError.new .runtimeLimitExceeded
      "H3 temporal axis exceeds the profile ceiling").atTensor descriptor.name)
  if descriptor.name = "video" then
    checkEach (validateDecodedAxis limits) ((descriptor.shape.drop 3).take 2)
  else
    .ok ()

def validateVideo (raw : RawTensorDescriptor) (limits : ValidationLimits) :
    Except CartridgeError SafetensorTensorDescriptor := do
  let descriptor ← validateCommon "video" raw limits
  refuseWhen (descriptor.shape.length ≠ 5 ∨ descriptor.shape.getD 0 0 ≠ 1 ∨
      descriptor.shape.getD 1 0 ≠ 24 ∨ 0 ∈ descriptor.shape.drop 2)
    ((CartridgeError.new .tensorShapeInvalid
      "H3 video shape must be [1,24,T,H,W] with non-zero axes").atTensor "video")
  validateH3Axes descriptor limits 2
  return descriptor

def validateAudio (raw : RawTensorDescriptor) (limits : ValidationLimits) :
    Except CartridgeError SafetensorTensorDescriptor := do
  let descriptor ← validateCommon "audio" raw limits
  refuseWhen (descriptor.shape.length ≠ 4 ∨ descriptor.shape.getD 0 0 ≠ 1 ∨
      descriptor.shape.getD 1 0 ≠ 32 ∨ descriptor.shape.getD 2 0 ≠ 2 ∨
      descriptor.shape.getD 3 0 = 0)
    ((CartridgeError.new .tensorShapeInvalid
      "H3 audio shape must be [1,32,2,T_audio] with non-zero T_audio").atTensor "audio")
  validateH3Axes descriptor limits 3
  return descriptor

/-- Tensors in the order of their offsets; tensors with one offset keep their order. -/
def sortByOffset (tensors : List SafetensorTensorDescriptor) : List SafetensorTensorDescriptor :=
  tensors.insertionSort fun first second => first.dataOffsets.1 ≤ second.dataOffsets.1

/-- The tensor loop of the offset checks from an expected start; the result is the last end. -/
def checkOffsetsFrom (dataBytes : Nat) (entryName : String) :
    List SafetensorTensorDescriptor → Nat → Except CartridgeError Nat
  | [], expectedStart => .ok expectedStart
  | tensor :: tensors, expectedStart => do
      refuseWhen (tensor.dataOffsets.2 > dataBytes)
        ((invalidSafetensorsAt entryName
          "tensor data offset is outside the entry").atTensor tensor.name)
      refuseWhen (tensor.dataOffsets.1 ≠ expectedStart)
        ((invalidSafetensorsAt entryName
          (if tensor.dataOffsets.1 < expectedStart then "Safetensors tensor ranges overlap"
          else "Safetensors tensor ranges contain a gap")).atTensor tensor.name)
      checkOffsetsFrom dataBytes entryName tensors tensor.dataOffsets.2

def validateGenericOffsets (tensors : List SafetensorTensorDescriptor) (dataBytes : Nat)
    (entryName : String) : Except CartridgeError Unit := do
  let lastEnd ← checkOffsetsFrom dataBytes entryName (sortByOffset tensors) 0
  refuseWhen (lastEnd ≠ dataBytes)
    (invalidSafetensorsAt entryName
      "Safetensors tensor ranges do not cover the complete data area")

def validateOffsets (video : SafetensorTensorDescriptor)
    (audio : Option SafetensorTensorDescriptor) (dataBytes : Nat) : Except CartridgeError Unit :=
  validateGenericOffsets (video :: audio.toList) dataBytes h3EntryName

def preflightSafetensors (decoder : HeaderDecoder) (medium : List UInt8) (entry : EntryRange)
    (entryName : String) (limits : ValidationLimits) :
    Except CartridgeError SafetensorsPreflight := do
  let header ← readHeader decoder medium entry entryName
    "Safetensors payload exceeds the LC 0.1 ceiling" limits
  refuseWhen (header.tensors.length = 0 ∨ header.tensors.length > limits.tensors.val)
    ((CartridgeError.new .tensorUnexpected
      "Safetensors tensor count is outside the LC 0.1 limits").atEntry entryName)
  let tensors ← header.tensors.traverse fun name raw => validateCommon name raw limits
  let dataBytes := entry.length - header.dataOffset
  validateGenericOffsets tensors.values dataBytes entryName
  return {
    payloadBytes := entry.length
    headerBytes := header.headerBytes
    dataOffset := header.dataOffset
    dataBytes
    tensors }

/-- The audio tensor of an H3 header, if there is one. -/
def validateOptionalAudio (raw : Option RawTensorDescriptor) (limits : ValidationLimits) :
    Except CartridgeError (Option SafetensorTensorDescriptor) :=
  match raw with
  | none => .ok none
  | some raw => do
      let descriptor ← validateAudio raw limits
      return some descriptor

def preflightH3Safetensors (decoder : HeaderDecoder) (medium : List UInt8) (entry : EntryRange)
    (limits : ValidationLimits) : Except CartridgeError H3SafetensorsPreflight := do
  let header ← readHeader decoder medium entry h3EntryName
    "H3 Safetensors payload exceeds the configured limit" limits
  refuseWhen (header.tensors.length > limits.tensors.val)
    ((CartridgeError.new .tensorUnexpected
      "H3 Safetensors contains too many tensors").atEntry h3EntryName)
  let rawVideo ← orError (header.tensors.lookup "video")
    ((CartridgeError.new .tensorMissing "missing H3 video tensor").atTensor "video")
  let video ← validateVideo rawVideo limits
  let audio ← validateOptionalAudio ((header.tensors.erase "video").lookup "audio") limits
  match ((header.tensors.erase "video").erase "audio").entries.head? with
  | some (name, _) =>
      .error ((CartridgeError.new .tensorUnexpected
        "H3 Safetensors contains an unexpected tensor").atTensor name)
  | none => do
      let dataBytes := entry.length - header.dataOffset
      validateOffsets video audio dataBytes
      return {
        payloadBytes := entry.length
        headerBytes := header.headerBytes
        dataOffset := header.dataOffset
        dataBytes
        video
        audio }

/-- Whether an element's exponent field is all ones. -/
def nonFinite (dtype : SafetensorDType) (element : List UInt8) : Bool :=
  match dtype with
  | .f16 => leValue element &&& 0x7c00 = 0x7c00
  | .f32 => leValue element &&& 0x7f800000 = 0x7f800000

/-- The element loop over one buffer; the result is the index after it. -/
def scanElements (tensor : SafetensorTensorDescriptor) (entryName : String) :
    List (List UInt8) → Nat → Except CartridgeError Nat
  | [], elementIndex => .ok elementIndex
  | element :: elements, elementIndex => do
      refuseWhen (nonFinite tensor.dtype element)
        (((CartridgeError.new .tensorNonFinite
          ("tensor contains NaN or infinity at element " ++ toString elementIndex)).atEntry
            entryName).atTensor tensor.name)
      scanElements tensor entryName elements (elementIndex + 1)

/-- The buffer loop of `scan_tensor_at` from a position. -/
def scanTensorFrom (medium : List UInt8) (tensor : SafetensorTensorDescriptor)
    (entryName : String) (position remaining elementIndex : Nat) : Except CartridgeError Unit :=
  if remaining = 0 then .ok ()
  else
    let requested := min remaining scanBufferBytes
    let requested := requested - requested % tensor.dtype.byteWidth
    if requested = 0 then
      .error ((invalidSafetensorsAt entryName
        "tensor byte length is not dtype-aligned").atTensor tensor.name)
    else do
      let bytes ← readExactPayload medium position requested entryName
      let elementIndex ← scanElements tensor entryName
        (bytes.toChunks tensor.dtype.byteWidth) elementIndex
      scanTensorFrom medium tensor entryName (position + requested) (remaining - requested)
        elementIndex
  termination_by remaining
  decreasing_by exact Nat.sub_lt (Nat.pos_of_ne_zero ‹_›) (Nat.pos_of_ne_zero ‹_›)

def scanTensorAt (medium : List UInt8) (dataAbsoluteOffset : Nat)
    (tensor : SafetensorTensorDescriptor) (entryName : String) : Except CartridgeError Unit := do
  let tensorOffset ← orError (checkedAdd dataAbsoluteOffset tensor.dataOffsets.1)
    (sizeOverflowAt entryName "tensor absolute offset overflows u64")
  scanTensorFrom medium tensor entryName tensorOffset tensor.byteLength 0

/-- The receipt check at the start of both scans. -/
def checkReceipt (entry : EntryRange) (entryName : String)
    (payloadBytes headerBytes dataOffset dataBytes : Nat) : Except CartridgeError Unit := do
  let mismatch := (CartridgeError.new .tensorDescriptorMismatch
    "Safetensors preflight receipt does not match the entry range").atEntry entryName
  refuseWhen (payloadBytes ≠ entry.length) mismatch
  let headerEnd ← orError (checkedAdd headerLengthBytes headerBytes)
    (sizeOverflowAt entryName "Safetensors data offset overflows u64")
  refuseWhen (dataOffset ≠ headerEnd) mismatch
  let dataEnd ← orError (checkedAdd dataOffset dataBytes)
    (sizeOverflowAt entryName "Safetensors data range overflows u64")
  refuseWhen (dataEnd ≠ entry.length) mismatch

def scanSafetensorsFinite (medium : List UInt8) (entry : EntryRange) (entryName : String)
    (preflight : SafetensorsPreflight) : Except CartridgeError Unit := do
  checkReceipt entry entryName preflight.payloadBytes preflight.headerBytes preflight.dataOffset
    preflight.dataBytes
  validateGenericOffsets preflight.tensors.values preflight.dataBytes entryName
  let dataAbsoluteOffset ← orError (checkedAdd entry.offset preflight.dataOffset)
    (sizeOverflowAt entryName "Safetensors absolute data offset overflows u64")
  checkEach (fun tensor => scanTensorAt medium dataAbsoluteOffset tensor entryName)
    preflight.tensors.values

def scanH3SafetensorsFinite (medium : List UInt8) (entry : EntryRange)
    (preflight : H3SafetensorsPreflight) : Except CartridgeError Unit := do
  checkReceipt entry h3EntryName preflight.payloadBytes preflight.headerBytes preflight.dataOffset
    preflight.dataBytes
  let entryEnd ← orError (checkedAdd entry.offset entry.length)
    (sizeOverflowAt h3EntryName "Safetensors entry range overflows u64")
  refuseWhen (entryEnd > medium.length)
    (invalidSafetensors "Safetensors entry range extends beyond the readable stream")
  validateOffsets preflight.video preflight.audio preflight.dataBytes
  let dataAbsoluteOffset ← orError (checkedAdd entry.offset preflight.dataOffset)
    (sizeOverflow "Safetensors absolute data offset overflows u64")
  checkEach (fun tensor => scanTensorAt medium dataAbsoluteOffset tensor h3EntryName)
    (preflight.video :: preflight.audio.toList)

/-- The range of a tensor in the data area, as an offset and a length. -/
def SafetensorTensorDescriptor.range (tensor : SafetensorTensorDescriptor) : Nat × Nat :=
  (tensor.dataOffsets.1, tensor.byteLength)

/-- A tensor that the common check of descriptors can return. -/
structure SafetensorTensorDescriptor.Admitted (tensor : SafetensorTensorDescriptor)
    (limits : ValidationLimits) : Prop where
  shaped : tensor.shape ≠ []
  rank : tensor.shape.length ≤ limits.tensorRank.val
  exact : tensor.byteLength = tensor.shape.prod * tensor.dtype.byteWidth
  stop : tensor.dataOffsets.2 = tensor.dataOffsets.1 + tensor.byteLength

/-- What a header that was read says of its payload. -/
structure HeaderRead.Fits (header : HeaderRead) (entry : EntryRange) : Prop where
  nonempty : 0 < header.headerBytes
  bounded : header.headerBytes ≤ maxSafetensorsHeaderBytes
  data : header.dataOffset = headerLengthBytes + header.headerBytes
  inside : header.dataOffset ≤ entry.length

/-- The common check keeps the name, the shape and the offsets. -/
theorem validateCommon_ok (name : String) (raw : RawTensorDescriptor) (limits : ValidationLimits)
    (tensor : SafetensorTensorDescriptor) (accepted : validateCommon name raw limits = .ok tensor) :
    tensor.name = name ∧ tensor.Admitted limits := by
  unfold validateCommon at accepted
  rw [check_eq_ok, refuseWhen_eq_ok, not_or, bind_eq_ok] at accepted
  obtain ⟨⟨shaped, rank⟩, dtype, -, rest⟩ := accepted
  obtain ⟨elements, counted, rest⟩ := ok_of_bind rest
  obtain ⟨rfl, -⟩ := (checkedProduct_eq_some ..).mp ((orError_eq_ok ..).mp counted)
  obtain ⟨byteLength, multiplied, rest⟩ := ok_of_bind rest
  obtain ⟨rfl, -⟩ := (checkedMul_eq_some ..).mp ((orError_eq_ok ..).mp multiplied)
  rw [check_eq_ok, refuseWhen_eq_ok, check_eq_ok, refuseWhen_eq_ok] at rest
  obtain ⟨ordered, described, same⟩ := rest
  cases same
  refine ⟨rfl, shaped, Nat.le_of_not_lt rank, rfl, ?_⟩
  dsimp only at *
  omega

/-- A header is read inside its entry, and its prefix says how long it is. -/
theorem readHeader_ok (decoder : HeaderDecoder) (medium : List UInt8) (entry : EntryRange)
    (entryName tooLarge : String) (limits : ValidationLimits) (header : HeaderRead)
    (read : readHeader decoder medium entry entryName tooLarge limits = .ok header) :
    header.Fits entry ∧
      header.headerBytes = leValue ((medium.drop entry.offset).take headerLengthBytes) := by
  unfold readHeader at read
  rw [check_eq_ok, check_eq_ok, bind_eq_ok] at read
  obtain ⟨-, -, stop, -, read⟩ := read
  rw [check_eq_ok, bind_eq_ok] at read
  obtain ⟨-, encoded, took, read⟩ := read
  rw [check_eq_ok, check_eq_ok, refuseWhen_eq_ok, refuseWhen_eq_ok, bind_eq_ok] at read
  obtain ⟨bounded, aligned, dataOffset, added, read⟩ := read
  rw [not_or] at aligned
  obtain ⟨rfl, -⟩ := (checkedAdd_eq_some ..).mp ((orError_eq_ok ..).mp added)
  rw [check_eq_ok, refuseWhen_eq_ok, bind_eq_ok] at read
  obtain ⟨inside, text, -, read⟩ := read
  rw [check_eq_ok, bind_eq_ok] at read
  obtain ⟨-, tensors, -, same⟩ := read
  cases same
  have prefixBytes : encoded = (medium.drop entry.offset).take headerLengthBytes := by
    unfold readExactPayload at took
    split at took
    · exact (Except.ok.inj took).symm
    · exact nomatch took
  exact ⟨⟨Nat.pos_of_ne_zero aligned.1, Nat.le_of_not_lt bounded, rfl, Nat.le_of_not_lt inside⟩,
    congrArg leValue prefixBytes⟩

/-- The tensor loop of the offset checks accepts tilings inside the data area. -/
theorem checkOffsetsFrom_eq_ok (dataBytes : Nat) (entryName : String)
    (tensors : List SafetensorTensorDescriptor) (start stop : Nat) (described : ∀ tensor ∈ tensors,
      tensor.dataOffsets.2 = tensor.dataOffsets.1 + tensor.byteLength) :
    checkOffsetsFrom dataBytes entryName tensors start = .ok stop ↔
      (∀ tensor ∈ tensors, tensor.dataOffsets.2 ≤ dataBytes) ∧
      Tiles start (tensors.map SafetensorTensorDescriptor.range) stop := by
  induction tensors generalizing start with
  | nil =>
    exact ⟨fun same => ⟨nofun, Except.ok.inj same⟩,
      fun accepted => congrArg _ accepted.2⟩
  | cons tensor tensors ih =>
    rw [List.forall_mem_cons] at described
    rw [checkOffsetsFrom, check_eq_ok, check_eq_ok, refuseWhen_eq_ok, refuseWhen_eq_ok,
      ih _ described.2, List.forall_mem_cons, List.map_cons, described.1, not_not, Nat.not_lt]
    constructor
    · rintro ⟨inside, starts, insides, tiles⟩
      exact ⟨⟨inside, insides⟩, starts, tiles⟩
    · rintro ⟨⟨inside, insides⟩, starts, tiles⟩
      exact ⟨inside, starts, insides, tiles⟩

/-- The offset checks accept the tensors that cover the data area. -/
theorem validateGenericOffsets_eq_ok (tensors : List SafetensorTensorDescriptor) (dataBytes : Nat)
    (entryName : String) (described : ∀ tensor ∈ tensors,
      tensor.dataOffsets.2 = tensor.dataOffsets.1 + tensor.byteLength) :
    validateGenericOffsets tensors dataBytes entryName = .ok () ↔
      Covers 0 (tensors.map SafetensorTensorDescriptor.range) dataBytes := by
  have sorting : (sortByOffset tensors).map SafetensorTensorDescriptor.range =
      sortRanges (tensors.map SafetensorTensorDescriptor.range) :=
    map_sortedBy tensors SafetensorTensorDescriptor.range
  have sortedDescribed : ∀ tensor ∈ sortByOffset tensors,
      tensor.dataOffsets.2 = tensor.dataOffsets.1 + tensor.byteLength :=
    fun tensor member => described tensor ((List.mem_insertionSort _).mp member)
  rw [validateGenericOffsets, bind_eq_ok, Covers, ← sorting]
  simp only [checkOffsetsFrom_eq_ok _ _ _ _ _ sortedDescribed, refuseWhen_eq_ok, not_not]
  constructor
  · rintro ⟨stop, ⟨-, tiles⟩, rfl⟩
    exact tiles
  · intro tiles
    refine ⟨dataBytes, ⟨fun tensor member => ?_, tiles⟩, rfl⟩
    rw [sortedDescribed tensor member]
    exact (tiles_bound tiles).2 _ (List.mem_map_of_mem member)

structure SafetensorsPreflight.Consistent (preflight : SafetensorsPreflight) (entry : EntryRange)
    (limits : ValidationLimits) : Prop where
  payload : preflight.payloadBytes = entry.length
  header : 0 < preflight.headerBytes ∧ preflight.headerBytes ≤ maxSafetensorsHeaderBytes
  start : preflight.dataOffset = headerLengthBytes + preflight.headerBytes
  data : preflight.dataOffset + preflight.dataBytes = entry.length
  counted : 0 < preflight.tensors.length ∧ preflight.tensors.length ≤ limits.tensors.val
  named : ∀ tensor ∈ preflight.tensors.entries, tensor.2.name = tensor.1
  tensors : ∀ tensor ∈ preflight.tensors.values, tensor.Admitted limits
  covered : Covers 0 (preflight.tensors.values.map SafetensorTensorDescriptor.range)
    preflight.dataBytes

theorem traverse_validateCommon (raw : SortedMap String RawTensorDescriptor)
    (limits : ValidationLimits) (tensors : SortedMap String SafetensorTensorDescriptor)
    (traversed : (raw.traverse fun name raw => validateCommon name raw limits) = .ok tensors) :
    tensors.length = raw.length ∧ ∀ entry ∈ tensors.entries,
      entry.2.name = entry.1 ∧ entry.2.Admitted limits := by
  refine ⟨SortedMap.traverse_length _ _ _ traversed, fun entry member => ?_⟩
  obtain ⟨original, -, accepted⟩ := SortedMap.mem_of_traverse _ _ _ traversed entry member
  exact validateCommon_ok _ _ _ _ accepted

/-- An accepted preflight is consistent, and its header length is that of the prefix. -/
theorem preflightSafetensors_ok (decoder : HeaderDecoder) (medium : List UInt8) (entry : EntryRange)
    (entryName : String) (limits : ValidationLimits) (preflight : SafetensorsPreflight)
    (accepted : preflightSafetensors decoder medium entry entryName limits = .ok preflight) :
    preflight.Consistent entry limits ∧
      preflight.headerBytes = leValue ((medium.drop entry.offset).take headerLengthBytes) := by
  unfold preflightSafetensors at accepted
  obtain ⟨header, read, accepted⟩ := ok_of_bind accepted
  obtain ⟨fits, prefixed⟩ := readHeader_ok _ _ _ _ _ _ _ read
  rw [check_eq_ok, refuseWhen_eq_ok, bind_eq_ok] at accepted
  obtain ⟨counted, tensors, traversed, accepted⟩ := accepted
  obtain ⟨length, each⟩ := traverse_validateCommon _ _ _ traversed
  have admitted : ∀ tensor ∈ tensors.values, tensor.Admitted limits := by
    rw [SortedMap.values, List.forall_mem_map]
    exact fun entry member => (each entry member).2
  rw [check_eq_ok, validateGenericOffsets_eq_ok _ _ _ fun tensor member =>
    (admitted tensor member).stop] at accepted
  obtain ⟨covered, same⟩ := accepted
  cases same
  have inside := fits.inside
  exact ⟨{
    payload := rfl
    header := ⟨fits.nonempty, fits.bounded⟩
    start := fits.data
    data := Nat.add_sub_cancel' inside
    counted := by
      change 0 < tensors.length ∧ tensors.length ≤ _
      omega
    named := fun entry member => (each entry member).1
    tensors := admitted
    covered }, prefixed⟩

end LatentDeck.Archive
