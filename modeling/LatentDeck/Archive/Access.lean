import LatentDeck.Archive.Reader
import LatentDeck.Archive.Safetensors

/-!
# Access receipts

The receipt that goes with a duplicated handle of a validated cartridge: the byte ranges of the
manifest, the payload and each tensor. Receipts come from a validated cartridge or from canonical
JSON text, and both ways end in the same checks, which accept a receipt exactly when it is
`Sound` for the length of the archive.
-/

namespace LatentDeck.Archive

open Checked Fallible Tiling

def integrityAccessAbiVersion : Nat := 1
def maxIntegrityAccessReceiptBytes : Nat := 64 * 1024

/-- `ValidationLevel` (`Structure`, `Full`). -/
inductive ValidationLevel where
  | structureOnly
  | full
  deriving DecidableEq

structure IntegrityValidationReceipt where
  validationLevel : ValidationLevel
  archiveBytes : Nat
  archiveSha256 : Sha256Hash
  payloadPath : String
  payloadBytes : Nat
  payloadSha256 : Sha256Hash
  tensorStorageBytes : Nat
  deriving DecidableEq

structure IntegrityByteRange where
  offset : Nat
  byteLength : Nat
  sha256 : Sha256Hash
  deriving DecidableEq

structure IntegrityTensorAccess where
  dtype : SafetensorDType
  shape : List Nat
  offset : Nat
  byteLength : Nat
  deriving DecidableEq

structure IntegrityAccessReceipt where
  accessAbiVersion : Nat
  validation : IntegrityValidationReceipt
  manifest : IntegrityByteRange
  payload : IntegrityByteRange
  safetensorsDataOffset : Nat
  tensors : SortedMap String IntegrityTensorAccess
  deriving DecidableEq

/-- The parts of other crates that receipts rest on. -/
structure ReceiptDecoder where
  document : Json.Parser
  receipt : Json.Document → Option IntegrityAccessReceipt
  canonicalReceipt : IntegrityAccessReceipt → Option (List UInt8)

def invalidReceipt (detail : String) : CartridgeError :=
  (CartridgeError.new .manifestInvalid detail).atJson "/integrity_access_receipt"

def receiptOverflow : CartridgeError :=
  invalidReceipt "integrity access receipt arithmetic overflow"

def checkedEnd (offset byteLength : Nat) : Except CartridgeError Nat :=
  orError (checkedAdd offset byteLength) receiptOverflow

def validateRange (range : IntegrityByteRange) (archiveLength maximum : Nat) (detail : String) :
    Except CartridgeError Unit := do
  refuseWhen (range.byteLength = 0 ∨ range.byteLength > maximum) (invalidReceipt detail)
  let rangeEnd ← checkedEnd range.offset range.byteLength
  refuseWhen (rangeEnd > archiveLength) (invalidReceipt detail)

def rangesOverlap (left right : IntegrityByteRange) : Except CartridgeError Bool := do
  let leftEnd ← checkedEnd left.offset left.byteLength
  let rightEnd ← checkedEnd right.offset right.byteLength
  return left.offset < rightEnd && right.offset < leftEnd

/-- Whether `validate_header_layout` refuses a payload path. -/
def invalidPayloadPath (path : String) : Bool :=
  let characters := path.toList
  characters.isEmpty
    || path.utf8ByteSize > maxIdentifierBytes
    || characters.head? == some '/'
    || characters.any (fun character => character == '\\' || character == ':')
    || (characters.splitOn '/').any
      (fun segment => segment.isEmpty || segment == ['.'] || segment == ['.', '.'])

def tensorNameByte (byte : UInt8) : Bool :=
  Text.isAsciiAlphanumeric byte || byte == 0x2E || byte == 0x5F || byte == 0x2D

def IntegrityAccessReceipt.validateHeaderLayout (receipt : IntegrityAccessReceipt)
    (archiveLength : Nat) : Except CartridgeError Unit := do
  refuseWhen (receipt.accessAbiVersion ≠ integrityAccessAbiVersion ∨
      receipt.validation.validationLevel ≠ .full ∨ archiveLength = 0 ∨
      archiveLength > maxArchiveBytes ∨ receipt.validation.archiveBytes ≠ archiveLength ∨
      invalidPayloadPath receipt.validation.payloadPath)
    (invalidReceipt "integrity access receipt identity is inconsistent")
  validateRange receipt.manifest archiveLength maxManifestBytes
    "integrity access receipt manifest range is invalid"
  validateRange receipt.payload archiveLength maxH3PayloadBytes
    "integrity access receipt payload range is invalid"
  let inconsistent := invalidReceipt "integrity access receipt payload layout is inconsistent"
  refuseWhen (receipt.payload.byteLength ≠ receipt.validation.payloadBytes ∨
      receipt.payload.sha256 ≠ receipt.validation.payloadSha256) inconsistent
  let overlap ← rangesOverlap receipt.manifest receipt.payload
  refuseWhen (overlap ∨ receipt.safetensorsDataOffset = 0 ∨
      receipt.safetensorsDataOffset ≥ receipt.payload.byteLength ∨
      receipt.tensors.length = 0 ∨ receipt.tensors.length > maxTensors) inconsistent

/-- One tensor of `validate_tensor_layout`; the result is the end of its range. -/
def validateTensorAccess (dataStart payloadEnd : Nat) (name : String)
    (tensor : IntegrityTensorAccess) : Except CartridgeError Nat := do
  refuseWhen (nameBytes name = [] ∨ (nameBytes name).length > maxIdentifierBytes ∨
      ¬ (nameBytes name).all tensorNameByte ∨ tensor.shape = [] ∨
      tensor.shape.length > maxTensorRank ∨ 0 ∈ tensor.shape)
    (invalidReceipt "integrity access receipt tensor descriptor is invalid")
  let elementCount ← orError (checkedProduct tensor.shape) receiptOverflow
  let expectedBytes ← orError (checkedMul elementCount tensor.dtype.byteWidth) receiptOverflow
  let tensorEnd ← checkedEnd tensor.offset tensor.byteLength
  refuseWhen (tensor.byteLength = 0 ∨ expectedBytes ≠ tensor.byteLength ∨
      tensor.offset < dataStart ∨ tensorEnd > payloadEnd)
    (invalidReceipt "integrity access receipt tensor range is invalid")
  return tensorEnd

/-- The tensor loop of `validate_tensor_layout`: the ranges, and the sum of their lengths. -/
def collectTensorRanges (dataStart payloadEnd : Nat) :
    List (String × IntegrityTensorAccess) → Nat →
      Except CartridgeError (List (Nat × Nat) × Nat)
  | [], storageBytes => .ok ([], storageBytes)
  | (name, tensor) :: tensors, storageBytes => do
      let tensorEnd ← validateTensorAccess dataStart payloadEnd name tensor
      let storageBytes ← orError (checkedAdd storageBytes tensor.byteLength) receiptOverflow
      let rest ← collectTensorRanges dataStart payloadEnd tensors storageBytes
      return ((tensor.offset, tensorEnd) :: rest.1, rest.2)

/-- The range loop of `validate_tensor_layout`; the result is the last end. -/
def checkContiguous : List (Nat × Nat) → Nat → Except CartridgeError Nat
  | [], cursor => .ok cursor
  | (start, stop) :: ranges, cursor => do
      refuseWhen (start ≠ cursor)
        (invalidReceipt "integrity access receipt tensor ranges are not contiguous")
      checkContiguous ranges stop

def IntegrityAccessReceipt.validateTensorLayout (receipt : IntegrityAccessReceipt) :
    Except CartridgeError Unit := do
  let payloadEnd ← checkedEnd receipt.payload.offset receipt.payload.byteLength
  let dataStart ← orError (checkedAdd receipt.payload.offset receipt.safetensorsDataOffset)
    receiptOverflow
  let collected ← collectTensorRanges dataStart payloadEnd receipt.tensors.entries 0
  let cursor ← checkContiguous
    (collected.1.insertionSort fun first second => first.1 ≤ second.1) dataStart
  refuseWhen (cursor ≠ payloadEnd ∨ collected.2 ≠ receipt.validation.tensorStorageBytes)
    (invalidReceipt "integrity access receipt does not cover the tensor data area")

def IntegrityAccessReceipt.validateForArchiveLength (receipt : IntegrityAccessReceipt)
    (archiveLength : Nat) : Except CartridgeError Unit := do
  receipt.validateHeaderLayout archiveLength
  receipt.validateTensorLayout

/-- The access of one tensor in `from_validated_parts`. -/
def tensorAccess (dataStart : Nat) (tensor : SafetensorTensorDescriptor) :
    Except CartridgeError IntegrityTensorAccess := do
  let offset ← orError (checkedAdd dataStart tensor.dataOffsets.1) receiptOverflow
  return {
    dtype := tensor.dtype
    shape := tensor.shape
    offset
    byteLength := tensor.byteLength }

/-- The receipt that `from_validated_parts` validates. -/
def receiptOfParts (validation : IntegrityValidationReceipt) (manifestEntry : ArchiveEntry)
    (manifestSha256 : Sha256Hash) (payloadEntry : ArchiveEntry) (dataOffset : Nat)
    (tensors : SortedMap String IntegrityTensorAccess) : IntegrityAccessReceipt where
  accessAbiVersion := integrityAccessAbiVersion
  manifest := {
    offset := manifestEntry.dataOffset
    byteLength := manifestEntry.size
    sha256 := manifestSha256 }
  payload := {
    offset := payloadEntry.dataOffset
    byteLength := payloadEntry.size
    sha256 := validation.payloadSha256 }
  safetensorsDataOffset := dataOffset
  tensors
  validation

def fromValidatedParts (validation : IntegrityValidationReceipt) (manifestEntry : ArchiveEntry)
    (manifestSha256 : Sha256Hash) (payloadEntry : ArchiveEntry)
    (preflight : SafetensorsPreflight) : Except CartridgeError IntegrityAccessReceipt := do
  let dataStart ← orError (checkedAdd payloadEntry.dataOffset preflight.dataOffset)
    receiptOverflow
  let tensors ← preflight.tensors.traverse fun _ tensor => tensorAccess dataStart tensor
  let receipt := receiptOfParts validation manifestEntry manifestSha256 payloadEntry
    preflight.dataOffset tensors
  receipt.validateForArchiveLength receipt.validation.archiveBytes
  return receipt

/-- `canonical_json_bytes` of a receipt. -/
def canonicalReceiptBytes (decoder : ReceiptDecoder) (receipt : IntegrityAccessReceipt) :
    Except CartridgeError (List UInt8) :=
  orError (decoder.canonicalReceipt receipt)
    (.new .manifestInvalid "manifest cannot be represented as RFC 8785 canonical JSON")

def checkReceiptBytes (encoded : List UInt8) : Except CartridgeError Unit :=
  refuseWhen (encoded = [] ∨ encoded.length > maxIntegrityAccessReceiptBytes)
    (invalidReceipt "integrity access receipt is outside its byte bound")

/-- `parse_json`. -/
def parseReceiptJson (decoder : ReceiptDecoder) (encoded : List UInt8) (archiveLength : Nat) :
    Except CartridgeError IntegrityAccessReceipt := do
  checkReceiptBytes encoded
  let receipt ← orError (decoder.receipt (decoder.document encoded).1)
    (invalidReceipt "integrity access receipt is not strict JSON")
  refuseWhen ((decoder.document encoded).2 ≠ none)
    (invalidReceipt "integrity access receipt contains trailing data")
  let canonical ← canonicalReceiptBytes decoder receipt
  refuseWhen (canonical ≠ encoded)
    (invalidReceipt "integrity access receipt is not canonical JSON")
  receipt.validateForArchiveLength archiveLength
  return receipt

def IntegrityAccessReceipt.canonicalJson (receipt : IntegrityAccessReceipt)
    (decoder : ReceiptDecoder) : Except CartridgeError (List UInt8) := do
  let encoded ← canonicalReceiptBytes decoder receipt
  checkReceiptBytes encoded
  return encoded

/-- A range of an archive: it is not empty, within its limit and inside the archive. -/
structure IntegrityByteRange.Inside (range : IntegrityByteRange) (archiveLength maximum : Nat) :
    Prop where
  nonempty : 0 < range.byteLength
  bounded : range.byteLength ≤ maximum
  ends : range.offset + range.byteLength ≤ archiveLength

def IntegrityByteRange.range (range : IntegrityByteRange) : Nat × Nat :=
  (range.offset, range.byteLength)

/-- The range of a tensor as an offset and a length. -/
def IntegrityTensorAccess.range (tensor : IntegrityTensorAccess) : Nat × Nat :=
  (tensor.offset, tensor.byteLength)

/-- A tensor of a receipt: its shape is within the limits and without a zero, its length is that
of its elements, and its range is inside the data area. -/
structure IntegrityTensorAccess.Sound (tensor : IntegrityTensorAccess)
    (dataStart payloadEnd : Nat) : Prop where
  shaped : tensor.shape ≠ []
  rank : tensor.shape.length ≤ maxTensorRank
  positive : 0 ∉ tensor.shape
  exact : tensor.byteLength = tensor.shape.prod * tensor.dtype.byteWidth
  starts : dataStart ≤ tensor.offset
  ends : tensor.offset + tensor.byteLength ≤ payloadEnd

/-- The names of tensors that receipts admit. -/
def AdmittedTensorName (name : String) : Prop :=
  nameBytes name ≠ [] ∧ (nameBytes name).length ≤ maxIdentifierBytes ∧
    (nameBytes name).all tensorNameByte = true

def IntegrityAccessReceipt.dataStart (receipt : IntegrityAccessReceipt) : Nat :=
  receipt.payload.offset + receipt.safetensorsDataOffset

def IntegrityAccessReceipt.payloadEnd (receipt : IntegrityAccessReceipt) : Nat :=
  receipt.payload.offset + receipt.payload.byteLength

def IntegrityAccessReceipt.tensorRanges (receipt : IntegrityAccessReceipt) : List (Nat × Nat) :=
  receipt.tensors.values.map IntegrityTensorAccess.range

/-- What a receipt says of an archive of a length is sound. -/
structure IntegrityAccessReceipt.Sound (receipt : IntegrityAccessReceipt) (archiveLength : Nat) :
    Prop where
  version : receipt.accessAbiVersion = integrityAccessAbiVersion
  level : receipt.validation.validationLevel = .full
  nonempty : 0 < archiveLength
  bounded : archiveLength ≤ maxArchiveBytes
  archive : receipt.validation.archiveBytes = archiveLength
  path : invalidPayloadPath receipt.validation.payloadPath = false
  manifest : receipt.manifest.Inside archiveLength maxManifestBytes
  payload : receipt.payload.Inside archiveLength maxH3PayloadBytes
  payloadBytes : receipt.payload.byteLength = receipt.validation.payloadBytes
  payloadSha256 : receipt.payload.sha256 = receipt.validation.payloadSha256
  apart : Apart receipt.manifest.range receipt.payload.range
  header : 0 < receipt.safetensorsDataOffset
  data : receipt.safetensorsDataOffset < receipt.payload.byteLength
  counted : 0 < receipt.tensors.length ∧ receipt.tensors.length ≤ maxTensors
  names : ∀ name ∈ receipt.tensors.keys, AdmittedTensorName name
  tensors : ∀ tensor ∈ receipt.tensors.values,
    tensor.Sound receipt.dataStart receipt.payloadEnd
  covered : Covers receipt.dataStart receipt.tensorRanges receipt.payloadEnd
  storage : (receipt.tensors.values.map IntegrityTensorAccess.byteLength).sum =
    receipt.validation.tensorStorageBytes

theorem checkedEnd_eq_ok (offset byteLength stop : Nat) :
    checkedEnd offset byteLength = .ok stop ↔
      stop = offset + byteLength ∧ offset + byteLength < 2 ^ 64 := by
  rw [checkedEnd, orError_eq_ok, checkedAdd_eq_some]

theorem validateRange_eq_ok (range : IntegrityByteRange) (archiveLength maximum : Nat)
    (detail : String) (small : archiveLength < 2 ^ 64) :
    validateRange range archiveLength maximum detail = .ok () ↔
      range.Inside archiveLength maximum := by
  rw [validateRange, check_eq_ok, refuseWhen_eq_ok, bind_eq_ok]
  simp only [checkedEnd_eq_ok, refuseWhen_eq_ok]
  constructor
  · rintro ⟨bounds, stop, ⟨rfl, -⟩, ends⟩
    exact ⟨by omega, by omega, by omega⟩
  · rintro ⟨nonempty, bounded, ends⟩
    exact ⟨by omega, _, ⟨rfl, by omega⟩, by omega⟩

/-- `ranges_overlap` tells whether ranges inside the word are apart. -/
theorem rangesOverlap_eq (left right : IntegrityByteRange)
    (leftEnd : left.offset + left.byteLength < 2 ^ 64)
    (rightEnd : right.offset + right.byteLength < 2 ^ 64) :
    rangesOverlap left right = .ok (decide (¬ Apart left.range right.range)) := by
  unfold rangesOverlap
  rw [bind_eq_ok]
  refine ⟨_, (checkedEnd_eq_ok ..).mpr ⟨rfl, leftEnd⟩, ?_⟩
  rw [bind_eq_ok]
  refine ⟨_, (checkedEnd_eq_ok ..).mpr ⟨rfl, rightEnd⟩, ?_⟩
  rw [← Bool.decide_and]
  apply congrArg Except.ok
  rw [decide_eq_decide]
  simp only [Apart, IntegrityByteRange.range]
  omega

variable (receipt : IntegrityAccessReceipt)

theorem validateHeaderLayout_eq_ok (archiveLength : Nat) :
    receipt.validateHeaderLayout archiveLength = .ok () ↔
      receipt.accessAbiVersion = integrityAccessAbiVersion ∧
      receipt.validation.validationLevel = .full ∧ 0 < archiveLength ∧
      archiveLength ≤ maxArchiveBytes ∧ receipt.validation.archiveBytes = archiveLength ∧
      invalidPayloadPath receipt.validation.payloadPath = false ∧
      receipt.manifest.Inside archiveLength maxManifestBytes ∧
      receipt.payload.Inside archiveLength maxH3PayloadBytes ∧
      receipt.payload.byteLength = receipt.validation.payloadBytes ∧
      receipt.payload.sha256 = receipt.validation.payloadSha256 ∧
      Apart receipt.manifest.range receipt.payload.range ∧
      0 < receipt.safetensorsDataOffset ∧
      receipt.safetensorsDataOffset < receipt.payload.byteLength ∧
      0 < receipt.tensors.length ∧ receipt.tensors.length ≤ maxTensors := by
  by_cases bounded : archiveLength ≤ maxArchiveBytes
  · have small : archiveLength < 2 ^ 64 := bounded.trans_lt (by decide)
    rw [IntegrityAccessReceipt.validateHeaderLayout, check_eq_ok, check_eq_ok, check_eq_ok,
      check_eq_ok, refuseWhen_eq_ok, refuseWhen_eq_ok, validateRange_eq_ok _ _ _ _ small,
      validateRange_eq_ok _ _ _ _ small]
    constructor
    · rintro ⟨identity, manifest, payload, layout, rest⟩
      rw [rangesOverlap_eq _ _ (manifest.ends.trans_lt small) (payload.ends.trans_lt small)] at rest
      have last := (refuseWhen_eq_ok _ _).mp rest
      simp only [not_or, not_not, decide_eq_true_eq, Bool.not_eq_true] at identity layout last
      exact ⟨identity.1, identity.2.1, Nat.pos_of_ne_zero identity.2.2.1, bounded,
        identity.2.2.2.2.1, identity.2.2.2.2.2, manifest, payload, layout.1, layout.2,
        last.1, by omega, by omega, by omega, by omega⟩
    · rintro ⟨version, level, nonempty, -, archive, path, manifest, payload, payloadBytes,
        payloadSha256, apart, header, data, some, few⟩
      rw [rangesOverlap_eq _ _ (manifest.ends.trans_lt small) (payload.ends.trans_lt small)]
      refine ⟨?_, manifest, payload, ?_, (refuseWhen_eq_ok _ _).mpr ?_⟩
      · simp only [version, level, archive, path, ne_eq, not_true_eq_false, false_or]
        simp only [Bool.false_eq_true, or_false]
        omega
      · simp only [payloadBytes, payloadSha256, ne_eq, not_true_eq_false, or_self,
          not_false_eq_true]
      · simp only [apart, not_true_eq_false, decide_false, Bool.false_eq_true, false_or]
        omega
  · rw [IntegrityAccessReceipt.validateHeaderLayout, check_eq_ok, refuseWhen_eq_ok]
    constructor
    · exact fun accepted => absurd (Nat.lt_of_not_le bounded) fun above =>
        accepted.1 (.inr (.inr (.inr (.inl above))))
    · exact fun accepted => absurd accepted.2.2.2.1 bounded

theorem validateTensorAccess_eq_ok (dataStart payloadEnd : Nat) (name : String)
    (tensor : IntegrityTensorAccess) (stop : Nat) (small : payloadEnd < 2 ^ 64) :
    validateTensorAccess dataStart payloadEnd name tensor = .ok stop ↔
      AdmittedTensorName name ∧ tensor.Sound dataStart payloadEnd ∧
      stop = tensor.offset + tensor.byteLength := by
  rw [validateTensorAccess, check_eq_ok, refuseWhen_eq_ok, bind_eq_ok]
  have width : 0 < tensor.dtype.byteWidth := by cases tensor.dtype <;> decide
  constructor
  · rintro ⟨described, count, counted, rest⟩
    simp only [not_or, not_not, Nat.not_lt] at described
    obtain ⟨named, short, alphabet, shaped, rank, positive⟩ := described
    rw [orError_eq_ok, checkedProduct_of_positive _ positive] at counted
    obtain ⟨rfl, -⟩ := counted
    obtain ⟨expected, multiplied, rest⟩ := ok_of_bind rest
    rw [orError_eq_ok, checkedMul_eq_some] at multiplied
    obtain ⟨rfl, -⟩ := multiplied
    obtain ⟨last, ended, rest⟩ := ok_of_bind rest
    rw [checkedEnd_eq_ok] at ended
    obtain ⟨rfl, -⟩ := ended
    rw [check_eq_ok, refuseWhen_eq_ok] at rest
    obtain ⟨ranged, same⟩ := rest
    simp only [not_or, not_not, Nat.not_lt] at ranged
    exact ⟨⟨named, short, alphabet⟩,
      ⟨shaped, rank, positive, ranged.2.1.symm, ranged.2.2.1, ranged.2.2.2⟩,
      (Except.ok.inj same).symm⟩
  · rintro ⟨⟨named, short, alphabet⟩, ⟨shaped, rank, positive, exact, starts, ends⟩, rfl⟩
    have product : 0 < tensor.shape.prod := Nat.pos_of_ne_zero (List.prod_ne_zero positive)
    have nonempty : 0 < tensor.byteLength := exact ▸ Nat.mul_pos product width
    have bytes : tensor.shape.prod * tensor.dtype.byteWidth < 2 ^ 64 := by omega
    have elements : tensor.shape.prod < 2 ^ 64 :=
      (Nat.le_mul_of_pos_right _ width).trans_lt bytes
    refine ⟨?_, _, (orError_eq_ok ..).mpr
      ((checkedProduct_of_positive _ positive _).mpr ⟨rfl, elements⟩), ?_⟩
    · simp only [named, alphabet, shaped, positive, not_true_eq_false, false_or, or_false]
      omega
    · rw [bind_eq_ok]
      refine ⟨_, (orError_eq_ok ..).mpr ((checkedMul_eq_some ..).mpr ⟨rfl, bytes⟩), ?_⟩
      rw [bind_eq_ok]
      refine ⟨_, (checkedEnd_eq_ok ..).mpr ⟨rfl, by omega⟩, ?_⟩
      rw [check_eq_ok, refuseWhen_eq_ok]
      exact ⟨by omega, rfl⟩

theorem collectTensorRanges_eq_ok (dataStart payloadEnd : Nat)
    (entries : List (String × IntegrityTensorAccess)) (storageBytes : Nat)
    (ranges : List (Nat × Nat)) (total : Nat) (small : payloadEnd < 2 ^ 64)
    (fits : storageBytes < 2 ^ 64) :
    collectTensorRanges dataStart payloadEnd entries storageBytes = .ok (ranges, total) ↔
      (∀ entry ∈ entries, AdmittedTensorName entry.1 ∧ entry.2.Sound dataStart payloadEnd) ∧
      ranges = entries.map (fun entry => (entry.2.offset, entry.2.offset + entry.2.byteLength)) ∧
      total = storageBytes + (entries.map fun entry => entry.2.byteLength).sum ∧
      storageBytes + (entries.map fun entry => entry.2.byteLength).sum < 2 ^ 64 := by
  induction entries generalizing storageBytes ranges total with
  | nil =>
    simp only [collectTensorRanges, Except.ok.injEq, Prod.mk.injEq, List.not_mem_nil,
      false_implies, implies_true, true_and, List.map_nil, List.sum_nil, Nat.add_zero]
    constructor
    · rintro ⟨rfl, rfl⟩
      exact ⟨rfl, rfl, fits⟩
    · rintro ⟨rfl, rfl, -⟩
      exact ⟨rfl, rfl⟩
  | cons entry entries ih =>
    obtain ⟨name, tensor⟩ := entry
    rw [collectTensorRanges, bind_eq_ok, List.forall_mem_cons, List.map_cons, List.map_cons,
      List.sum_cons, ← Nat.add_assoc]
    constructor
    · rintro ⟨stop, checked, rest⟩
      rw [validateTensorAccess_eq_ok _ _ _ _ _ small] at checked
      obtain ⟨admitted, sound, rfl⟩ := checked
      obtain ⟨storage, added, rest⟩ := ok_of_bind rest
      rw [orError_eq_ok, checkedAdd_eq_some] at added
      obtain ⟨rfl, bound⟩ := added
      obtain ⟨⟨others, sum⟩, collected, same⟩ := ok_of_bind rest
      obtain ⟨sounds, rfl, rfl, below⟩ := (ih _ _ _ bound).mp collected
      obtain ⟨rfl, rfl⟩ := Prod.mk.inj (Except.ok.inj same)
      exact ⟨⟨⟨admitted, sound⟩, sounds⟩, rfl, rfl, below⟩
    · rintro ⟨⟨⟨admitted, sound⟩, sounds⟩, rfl, rfl, below⟩
      have bound : storageBytes + tensor.byteLength < 2 ^ 64 := by
        dsimp only at below
        omega
      refine ⟨_, (validateTensorAccess_eq_ok _ _ _ _ _ small).mpr ⟨admitted, sound, rfl⟩, ?_⟩
      rw [bind_eq_ok]
      refine ⟨_, (orError_eq_ok ..).mpr ((checkedAdd_eq_some ..).mpr ⟨rfl, bound⟩), ?_⟩
      rw [bind_eq_ok]
      exact ⟨_, (ih _ _ _ bound).mpr ⟨sounds, rfl, rfl, below⟩, rfl⟩

theorem checkContiguous_eq_ok (ranges : List (Nat × Nat)) (cursor stop : Nat) :
    checkContiguous (ranges.map bounds) cursor = .ok stop ↔
      Tiles cursor ranges stop := by
  induction ranges generalizing cursor with
  | nil => exact ⟨fun same => Except.ok.inj same, fun same => congrArg _ same⟩
  | cons range ranges ih =>
    rw [List.map_cons, bounds, checkContiguous, check_eq_ok, refuseWhen_eq_ok, ih, not_not]
    rfl

theorem validateTensorLayout_eq_ok (small : receipt.payloadEnd < 2 ^ 64)
    (data : receipt.safetensorsDataOffset < receipt.payload.byteLength) :
    receipt.validateTensorLayout = .ok () ↔
      (∀ entry ∈ receipt.tensors.entries, AdmittedTensorName entry.1 ∧
        entry.2.Sound receipt.dataStart receipt.payloadEnd) ∧
      Covers receipt.dataStart receipt.tensorRanges receipt.payloadEnd ∧
      (receipt.tensors.values.map IntegrityTensorAccess.byteLength).sum =
        receipt.validation.tensorStorageBytes ∧
      receipt.validation.tensorStorageBytes < 2 ^ 64 := by
  have start : receipt.payload.offset + receipt.safetensorsDataOffset < 2 ^ 64 := by
    unfold IntegrityAccessReceipt.payloadEnd at small
    omega
  have values : receipt.tensors.values.map IntegrityTensorAccess.byteLength =
      receipt.tensors.entries.map fun entry => entry.2.byteLength := List.map_map
  have ranges : (receipt.tensors.entries.map fun entry =>
      (entry.2.offset, entry.2.offset + entry.2.byteLength)) =
        receipt.tensorRanges.map bounds := by
    rw [IntegrityAccessReceipt.tensorRanges, SortedMap.values, List.map_map, List.map_map]
    rfl
  rw [IntegrityAccessReceipt.validateTensorLayout, bind_eq_ok, values]
  constructor
  · rintro ⟨stop, ended, rest⟩
    obtain ⟨rfl, -⟩ := (checkedEnd_eq_ok ..).mp ended
    obtain ⟨first, added, rest⟩ := ok_of_bind rest
    obtain ⟨rfl, -⟩ := (checkedAdd_eq_some ..).mp ((orError_eq_ok ..).mp added)
    obtain ⟨⟨collectedRanges, total⟩, collected, rest⟩ := ok_of_bind rest
    obtain ⟨sounds, rfl, rfl, below⟩ :=
      (collectTensorRanges_eq_ok _ _ _ _ _ _ small (by decide)).mp collected
    rw [bind_eq_ok, ranges, insertionSort_bounds] at rest
    obtain ⟨cursor, contiguous, last⟩ := rest
    rw [refuseWhen_eq_ok, not_or, not_not, not_not] at last
    obtain ⟨rfl, storage⟩ := last
    rw [Nat.zero_add] at storage below
    exact ⟨sounds, (checkContiguous_eq_ok ..).mp contiguous, storage, storage ▸ below⟩
  · rintro ⟨sounds, covered, storage, below⟩
    refine ⟨_, (checkedEnd_eq_ok ..).mpr ⟨rfl, small⟩, ?_⟩
    rw [bind_eq_ok]
    refine ⟨_, (orError_eq_ok ..).mpr ((checkedAdd_eq_some ..).mpr ⟨rfl, start⟩), ?_⟩
    rw [bind_eq_ok]
    refine ⟨_, (collectTensorRanges_eq_ok _ _ _ _ _ _ small (by decide)).mpr
      ⟨sounds, rfl, rfl, by rw [Nat.zero_add, storage]; exact below⟩, ?_⟩
    rw [bind_eq_ok, ranges, insertionSort_bounds]
    refine ⟨_, (checkContiguous_eq_ok ..).mpr covered, ?_⟩
    rw [refuseWhen_eq_ok, not_or, not_not, not_not, Nat.zero_add]
    exact ⟨rfl, storage⟩

theorem IntegrityAccessReceipt.Sound.storage_exact {receipt : IntegrityAccessReceipt}
    {archiveLength : Nat} (sound : receipt.Sound archiveLength) :
    receipt.dataStart + receipt.validation.tensorStorageBytes = receipt.payloadEnd := by
  have total := covers_sum sound.covered
  have lengths : receipt.tensorRanges.map Prod.snd =
      receipt.tensors.values.map IntegrityTensorAccess.byteLength := List.map_map
  rwa [lengths, sound.storage] at total

/-- A receipt is accepted for a length of an archive exactly when it is sound for it. -/
theorem validateForArchiveLength_eq_ok (archiveLength : Nat) :
    receipt.validateForArchiveLength archiveLength = .ok () ↔ receipt.Sound archiveLength := by
  rw [IntegrityAccessReceipt.validateForArchiveLength, check_eq_ok, validateHeaderLayout_eq_ok]
  have names : ∀ property : String → Prop, (∀ name ∈ receipt.tensors.keys, property name) ↔
      ∀ entry ∈ receipt.tensors.entries, property entry.1 := fun property => List.forall_mem_map
  have values : ∀ property : IntegrityTensorAccess → Prop,
      (∀ tensor ∈ receipt.tensors.values, property tensor) ↔
        ∀ entry ∈ receipt.tensors.entries, property entry.2 := fun property => List.forall_mem_map
  constructor
  · rintro ⟨⟨version, level, nonempty, bounded, archive, path, manifest, payload, payloadBytes,
      payloadSha256, apart, header, data, some, few⟩, layout⟩
    have small : receipt.payloadEnd < 2 ^ 64 :=
      payload.ends.trans_lt (bounded.trans_lt (by decide))
    obtain ⟨sounds, covered, storage, -⟩ := (validateTensorLayout_eq_ok _ small data).mp layout
    exact {
      version, level, nonempty, bounded, archive, path, manifest, payload, payloadBytes,
      payloadSha256, apart, header, data
      counted := ⟨some, few⟩
      names := (names _).mpr fun entry member => (sounds entry member).1
      tensors := (values _).mpr fun entry member => (sounds entry member).2
      covered, storage }
  · intro sound
    have small : receipt.payloadEnd < 2 ^ 64 :=
      sound.payload.ends.trans_lt (sound.bounded.trans_lt (by decide))
    refine ⟨⟨sound.version, sound.level, sound.nonempty, sound.bounded, sound.archive, sound.path,
      sound.manifest, sound.payload, sound.payloadBytes, sound.payloadSha256, sound.apart,
      sound.header, sound.data, sound.counted⟩, ?_⟩
    rw [validateTensorLayout_eq_ok _ small sound.data]
    exact ⟨fun entry member => ⟨(names _).mp sound.names entry member,
      (values _).mp sound.tensors entry member⟩, sound.covered, sound.storage,
      (Nat.le_of_add_left_le (Nat.le_of_eq sound.storage_exact)).trans_lt small⟩

end LatentDeck.Archive
