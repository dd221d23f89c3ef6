import LatentDeck.Archive.Receipts
import LatentDeck.Library.BoundedReads

/-!
# Reading tensors

The two ways to a tensor's bytes: the limited reader of a validated cartridge, and the positioned
reads of a handle that was duplicated into another process together with its access receipt. What
either of them requests lies inside the range that the receipt states for the tensor.
-/

namespace LatentDeck.Archive

open BoundedReads Checked Fallible LittleEndian Streaming Tiling

/-- `TensorReader` — a limited reader on the cartridge's file. -/
abbrev TensorReader : Type := Take

/-- The seek that both `tensor_reader` functions make before they limit the file. -/
def seekTensor (payload : ArchiveEntry) (dataOffset : Nat)
    (descriptor : SafetensorTensorDescriptor) (name : String) :
    Except CartridgeError TensorReader := do
  let dataArea ← orError (checkedAdd payload.dataOffset dataOffset)
    (tensorError .tensorSizeOverflow "tensor data area offset overflows u64" name)
  let offset ← orError (checkedAdd dataArea descriptor.dataOffsets.1)
    (tensorError .tensorSizeOverflow "tensor data offset overflows u64" name)
  return { position := offset, limit := descriptor.byteLength }

/-- `unexpected_tensor`, also the error of `tensor_reader`. -/
def unexpectedTensor (name : String) : CartridgeError :=
  tensorError .tensorUnexpected "tensor is not part of the validated LC envelope" name

def IntegrityValidatedCartridge.tensorReader (cartridge : IntegrityValidatedCartridge)
    (name : String) : Except CartridgeError TensorReader := do
  let descriptor ← orError (cartridge.safetensors.tensors.lookup name) (unexpectedTensor name)
  let payload ← findEntry cartridge.archive cartridge.receipt.payloadPath
  seekTensor payload cartridge.safetensors.dataOffset descriptor name

def H3SafetensorsPreflight.tensor (preflight : H3SafetensorsPreflight) (name : String) :
    Except CartridgeError SafetensorTensorDescriptor :=
  if name = "video" then .ok preflight.video
  else if name = "audio" then
    orError preflight.audio (tensorError .tensorMissing "cartridge has no audio tensor" "audio")
  else .error (tensorError .tensorUnexpected "tensor is not part of the H3 profile" name)

def ValidatedCartridge.tensorReader (cartridge : ValidatedCartridge) (name : String) :
    Except CartridgeError TensorReader := do
  let descriptor ← cartridge.safetensors.tensor name
  let payload ← findEntry cartridge.archive h3EntryName
  seekTensor payload cartridge.safetensors.dataOffset descriptor name

/-- A file of the operating system; its errors are messages. -/
abbrev PositionedFile : Type 1 := Device String

def readPositionedRange (file : PositionedFile) (range : Nat × Nat) (state : file.State) :
    Reading file (Except CartridgeError (List UInt8)) :=
  let reading := file.readExactAt "failed to fill whole buffer" "positioned read offset overflow"
    range.2 range.1 state
  { reading with
    result := reading.result.mapError fun _ =>
      .new .ioRead "cannot read duplicated LC byte range" }

/-- `DuplicatedIntegrityHandle`, without its file. -/
structure DuplicatedIntegrityHandle where
  receipt : IntegrityAccessReceipt
  manifestJson : String

def admitTensorAllocation (name : String) (byteLength : Nat) (maximum : Option Nat) :
    Except CartridgeError Unit :=
  refuseWhen (maximum.any fun maximum => byteLength > maximum)
    (tensorError .runtimeLimitExceeded "validated tensor exceeds the adapter admission bound" name)

def validateTensorSubrange (name : String) (tensorBytes offset byteLength : Nat) :
    Except CartridgeError Unit :=
  refuseWhen (byteLength = 0 ∨ (checkedAdd offset byteLength).all fun stop => stop > tensorBytes)
    (tensorError .tensorDescriptorMismatch "requested range is outside the validated tensor" name)

inductive TensorRead where
  /-- `read_tensor`. -/
  | tensor (name : String) (maxTensorBytes : Option Nat)
  /-- `read_tensor_range`. -/
  | range (name : String) (offset byteLength : Nat) (maxReadBytes : Option Nat)

def TensorRead.name : TensorRead → String
  | .tensor name _ => name
  | .range name _ _ _ => name

/-- The range of the file that `read_tensor` and `read_tensor_range` read. -/
def DuplicatedIntegrityHandle.locate (handle : DuplicatedIntegrityHandle) :
    TensorRead → Except CartridgeError (Nat × Nat)
  | .tensor name maxTensorBytes => do
      let tensor ← orError (handle.receipt.tensors.lookup name) (unexpectedTensor name)
      admitTensorAllocation name tensor.byteLength maxTensorBytes
      return (tensor.offset, tensor.byteLength)
  | .range name offset byteLength maxReadBytes => do
      let tensor ← orError (handle.receipt.tensors.lookup name) (unexpectedTensor name)
      validateTensorSubrange name tensor.byteLength offset byteLength
      admitTensorAllocation name byteLength maxReadBytes
      let absoluteOffset ← orError (checkedAdd tensor.offset offset)
        (tensorError .tensorSizeOverflow "validated tensor range offset overflowed" name)
      return (absoluteOffset, byteLength)

/-- `read_tensor` and `read_tensor_range`. -/
def DuplicatedIntegrityHandle.read (handle : DuplicatedIntegrityHandle) (file : PositionedFile)
    (request : TensorRead) (state : file.State) :
    Reading file (Except CartridgeError (List UInt8)) :=
  match handle.locate request with
  | .error error => ⟨.error error, [], state⟩
  | .ok range =>
      let reading := readPositionedRange file range state
      { reading with result := reading.result.mapError (·.atTensor request.name) }

/-- The requests of a sequence of reads, each with the tensor it is for. -/
def DuplicatedIntegrityHandle.requests (handle : DuplicatedIntegrityHandle)
    (file : PositionedFile) : List TensorRead → file.State → List (String × (Nat × Nat))
  | [], _ => []
  | read :: reads, state =>
      let reading := handle.read file read state
      reading.requests.map (read.name, ·) ++ handle.requests file reads reading.state

variable (handle : DuplicatedIntegrityHandle)

/-- A located read is inside the range of the tensor it names. -/
theorem locate_inside (read : TensorRead) (range : Nat × Nat)
    (located : handle.locate read = .ok range) :
    ∃ tensor, handle.receipt.tensors.lookup read.name = some tensor ∧
      Inside tensor.range range := by
  cases read with
  | tensor name maxTensorBytes =>
    rw [DuplicatedIntegrityHandle.locate, bind_eq_ok] at located
    obtain ⟨tensor, found, located⟩ := located
    rw [check_eq_ok] at located
    obtain ⟨-, same⟩ := located
    cases same
    exact ⟨tensor, (orError_eq_ok ..).mp found, Nat.le_refl _, Nat.le_refl _⟩
  | range name offset byteLength maxReadBytes =>
    rw [DuplicatedIntegrityHandle.locate, bind_eq_ok] at located
    obtain ⟨tensor, found, located⟩ := located
    rw [check_eq_ok, check_eq_ok, bind_eq_ok] at located
    obtain ⟨subrange, -, absoluteOffset, added, same⟩ := located
    cases same
    obtain ⟨rfl, -⟩ := (checkedAdd_eq_some ..).mp ((orError_eq_ok ..).mp added)
    rw [validateTensorSubrange, refuseWhen_eq_ok, not_or] at subrange
    have stop : offset + byteLength ≤ tensor.byteLength := by
      cases sum : checkedAdd offset byteLength with
      | none =>
        rw [sum] at subrange
        exact absurd rfl subrange.2
      | some stop =>
        rw [sum, Option.all_some, decide_eq_true_eq, Nat.not_lt] at subrange
        obtain ⟨rfl, -⟩ := (checkedAdd_eq_some ..).mp sum
        exact subrange.2
    refine ⟨tensor, (orError_eq_ok ..).mp found, Nat.le_add_right _ _, ?_⟩
    simp only [IntegrityTensorAccess.range]
    omega

/-- A read requests nothing outside the tensor it names. -/
theorem read_inside (file : PositionedFile) (read : TensorRead) (state : file.State)
    (request : Nat × Nat) (member : request ∈ (handle.read file read state).requests) :
    ∃ tensor, handle.receipt.tensors.lookup read.name = some tensor ∧
      Inside tensor.range request := by
  unfold DuplicatedIntegrityHandle.read at member
  cases located : handle.locate read with
  | error error =>
    rw [located] at member
    exact nomatch member
  | ok range =>
    rw [located] at member
    obtain ⟨tensor, found, inside⟩ := locate_inside handle read range located
    exact ⟨tensor, found,
      inside_trans inside (readExactAt_inside file _ _ range.2 range.1 state request member)⟩

theorem requests_inside (file : PositionedFile) (reads : List TensorRead) (state : file.State) :
    ∀ performed ∈ handle.requests file reads state,
      ∃ tensor, handle.receipt.tensors.lookup performed.1 = some tensor ∧
        Inside tensor.range performed.2 := by
  induction reads generalizing state with
  | nil => exact nofun
  | cons read reads ih =>
    rw [DuplicatedIntegrityHandle.requests, List.forall_mem_append, List.forall_mem_map]
    exact ⟨read_inside handle file read state, ih _⟩

/-- The reader of a validated cartridge has exactly the range that its receipt states. -/
theorem tensorReader_range (decoder : CartridgeDecoder) (file : ByteStream)
    (limits : ValidationLimits) (cartridge : IntegrityValidatedCartridge)
    (opened : openIntegrityValidated decoder file limits = .ok cartridge) (name : String)
    (reader : TensorReader) (built : cartridge.tensorReader name = .ok reader) :
    ∃ tensor, cartridge.accessReceipt.tensors.lookup name = some tensor ∧
      reader.range = tensor.range := by
  obtain ⟨evidence, receipt, collected, accessed, rfl⟩ :=
    (openIntegrityValidated_eq_ok ..).mp opened
  obtain ⟨-, payload, found⟩ := collectIntegrityEvidence_ok decoder file limits evidence collected
  rw [IntegrityValidatedCartridge.tensorReader, bind_eq_ok] at built
  obtain ⟨descriptor, described, built⟩ := built
  have payloadFound : findEntry evidence.inspection.archive evidence.receipt.payloadPath =
      .ok evidence.payloadEntry := found.path.symm ▸ found.payloadFound
  obtain ⟨payloadEntry, again, built⟩ := ok_of_bind built
  obtain rfl := Except.ok.inj (payloadFound.symm.trans again)
  rw [seekTensor, bind_eq_ok] at built
  obtain ⟨dataArea, first, built⟩ := built
  obtain ⟨offset, second, same⟩ := ok_of_bind built
  cases same
  rw [IntegrityEvidence.accessReceipt, fromValidatedParts, bind_eq_ok] at accessed
  obtain ⟨dataStart, third, accessed⟩ := accessed
  obtain ⟨tensors, traversed, accessed⟩ := ok_of_bind accessed
  rw [check_eq_ok] at accessed
  cases accessed.2
  obtain ⟨tensor, stated, computed⟩ := SortedMap.lookup_of_traverse _ _ _ traversed name descriptor
    ((orError_eq_ok ..).mp described)
  rw [tensorAccess, bind_eq_ok] at computed
  obtain ⟨start, fourth, same⟩ := computed
  cases same
  obtain ⟨rfl, -⟩ := (checkedAdd_eq_some ..).mp ((orError_eq_ok ..).mp first)
  obtain ⟨rfl, -⟩ := (checkedAdd_eq_some ..).mp ((orError_eq_ok ..).mp second)
  obtain ⟨rfl, -⟩ := (checkedAdd_eq_some ..).mp ((orError_eq_ok ..).mp third)
  obtain ⟨rfl, -⟩ := (checkedAdd_eq_some ..).mp ((orError_eq_ok ..).mp fourth)
  exact ⟨_, stated, rfl⟩

/-- The exact layout of a receipt for an archive of a length. -/
structure IntegrityAccessReceipt.Exact (receipt : IntegrityAccessReceipt) (archiveLength : Nat) :
    Prop where
  area : receipt.dataStart ≤ receipt.payloadEnd ∧ receipt.payloadEnd ≤ archiveLength
  inside : ∀ name tensor, receipt.tensors.lookup name = some tensor →
    receipt.dataStart ≤ tensor.offset ∧ tensor.offset + tensor.byteLength ≤ receipt.payloadEnd
  apart : ∀ first second tensor other, first ≠ second →
    receipt.tensors.lookup first = some tensor → receipt.tensors.lookup second = some other →
      Apart tensor.range other.range
  /-- The length of a tensor is that of its elements, without an overflow on the way. -/
  lengths : ∀ name tensor, receipt.tensors.lookup name = some tensor →
    tensor.byteLength = tensor.shape.prod * tensor.dtype.byteWidth ∧
      tensor.shape.prod * tensor.dtype.byteWidth < 2 ^ 64 ∧
      ∀ count, (tensor.shape.take count).prod < 2 ^ 64
  ends : receipt.manifest.offset + receipt.manifest.byteLength < 2 ^ 64 ∧
    receipt.payloadEnd < 2 ^ 64 ∧ receipt.dataStart < 2 ^ 64 ∧
    ∀ name tensor, receipt.tensors.lookup name = some tensor →
      tensor.offset + tensor.byteLength < 2 ^ 64
  sums : ∀ count,
    ((receipt.tensors.values.map IntegrityTensorAccess.byteLength).take count).sum < 2 ^ 64

/-- A receipt that passes the checks has an exact layout. -/
theorem IntegrityAccessReceipt.Sound.layout {receipt : IntegrityAccessReceipt}
    {archiveLength : Nat} (sound : receipt.Sound archiveLength) : receipt.Exact archiveLength := by
  have bounded := sound.bounded.trans_lt (show maxArchiveBytes < 2 ^ 64 by decide)
  have ended : receipt.payloadEnd ≤ archiveLength := sound.payload.ends
  have started : receipt.dataStart ≤ receipt.payloadEnd :=
    Nat.add_le_add_left (Nat.le_of_lt sound.data) _
  have tensors : ∀ name tensor, receipt.tensors.lookup name = some tensor →
      tensor.Sound receipt.dataStart receipt.payloadEnd := fun name tensor found =>
    sound.tensors tensor (List.mem_map_of_mem ((SortedMap.lookup_eq_some ..).mp found))
  refine {
    area := ⟨started, ended⟩
    inside := fun name tensor found => ⟨(tensors name tensor found).starts,
      (tensors name tensor found).ends⟩
    apart := fun first second tensor other different found again => ?_
    lengths := fun name tensor found => ?_
    ends := ⟨sound.manifest.ends.trans_lt bounded, ended.trans_lt bounded,
      started.trans_lt (ended.trans_lt bounded), fun name tensor found =>
        ((tensors name tensor found).ends.trans ended).trans_lt bounded⟩
    sums := fun count => ?_ }
  · have pairwise : receipt.tensors.entries.Pairwise fun first second =>
        Apart first.2.range second.2.range := by
      have separate := covers_apart sound.covered
      rwa [IntegrityAccessReceipt.tensorRanges, SortedMap.values, List.map_map,
        List.pairwise_map] at separate
    have symmetric : Std.Symm fun first second : String × IntegrityTensorAccess =>
        Apart first.2.range second.2.range := ⟨fun _ _ apart => Or.symm apart⟩
    exact pairwise.forall ((SortedMap.lookup_eq_some ..).mp found)
      ((SortedMap.lookup_eq_some ..).mp again) fun same => different (congrArg Prod.fst same)
  · have checked := tensors name tensor found
    have width : 0 < tensor.dtype.byteWidth := by cases tensor.dtype <;> decide
    have total : tensor.shape.prod * tensor.dtype.byteWidth < 2 ^ 64 := by
      have stop := checked.ends
      rw [← checked.exact]
      omega
    refine ⟨checked.exact, total, fun count => ?_⟩
    exact (prod_take_le tensor.shape checked.positive count).trans_lt
      ((Nat.le_mul_of_pos_right _ width).trans_lt total)
  · have total := sound.storage_exact
    rw [← sound.storage] at total
    have split := List.sum_take_add_sum_drop
      (receipt.tensors.values.map IntegrityTensorAccess.byteLength) count
    omega

/-- Parsed receipts are sound, and their canonical text is the text they were parsed from. -/
theorem parseReceiptJson_ok (receipts : ReceiptDecoder) (encoded : List UInt8)
    (archiveLength : Nat) (receipt : IntegrityAccessReceipt)
    (parsed : parseReceiptJson receipts encoded archiveLength = .ok receipt) :
    receipt.Sound archiveLength ∧ receipt.canonicalJson receipts = .ok encoded := by
  rw [parseReceiptJson, check_eq_ok, bind_eq_ok] at parsed
  obtain ⟨bounded, decoded, -, parsed⟩ := parsed
  rw [check_eq_ok, bind_eq_ok] at parsed
  obtain ⟨-, canonical, encodes, parsed⟩ := parsed
  rw [check_eq_ok, check_eq_ok, refuseWhen_eq_ok, not_not, validateForArchiveLength_eq_ok] at parsed
  obtain ⟨rfl, sound, same⟩ := parsed
  cases same
  refine ⟨sound, ?_⟩
  rw [IntegrityAccessReceipt.canonicalJson, bind_eq_ok]
  refine ⟨canonical, encodes, ?_⟩
  rw [check_eq_ok]
  exact ⟨bounded, rfl⟩

/-- An accepted receipt has an exact layout for the length of the archive, survives its canonical
text, and confines every read of a handle opened with it and of a reader of its cartridge. -/
theorem accepted_receipt_confines_reads (receipts : ReceiptDecoder) (encoded : List UInt8)
    (archiveLength : Nat) (receipt : IntegrityAccessReceipt)
    (parsed : parseReceiptJson receipts encoded archiveLength = .ok receipt) :
    receipt.Exact archiveLength ∧
      (∃ canonical, receipt.canonicalJson receipts = .ok canonical ∧
        parseReceiptJson receipts canonical archiveLength = .ok receipt) ∧
      (∀ handle : DuplicatedIntegrityHandle, handle.receipt = receipt →
        ∀ (file : PositionedFile) (reads : List TensorRead) (state : file.State),
          ∀ performed ∈ handle.requests file reads state,
            ∃ tensor, receipt.tensors.lookup performed.1 = some tensor ∧
              Inside tensor.range performed.2) ∧
      ∀ (decoder : CartridgeDecoder) (archive : ByteStream) (limits : ValidationLimits)
        (cartridge : IntegrityValidatedCartridge),
        openIntegrityValidated decoder archive limits = .ok cartridge →
        cartridge.accessReceipt = receipt →
        ∀ name reader, cartridge.tensorReader name = .ok reader →
          ∃ tensor, receipt.tensors.lookup name = some tensor ∧
            ∀ (file : PositionedFile) (buffers : List Nat) (state : file.State),
              ∀ request ∈ reader.requests file buffers state, Inside tensor.range request := by
  obtain ⟨sound, canonical⟩ := parseReceiptJson_ok receipts encoded archiveLength receipt parsed
  refine ⟨sound.layout, ⟨encoded, canonical, parsed⟩, ?_, ?_⟩
  · rintro handle rfl file reads state
    exact requests_inside handle file reads state
  · rintro decoder archive limits cartridge opened rfl name reader built
    obtain ⟨tensor, stated, range⟩ :=
      tensorReader_range decoder archive limits cartridge opened name reader built
    refine ⟨tensor, stated, fun file buffers state => ?_⟩
    rw [← range]
    exact reader.requests_inside file buffers state

def sampleReceipt : IntegrityAccessReceipt where
  accessAbiVersion := 1
  validation := ⟨.full, 1476, digestOf h3Sample.archiveSha256, h3EntryName, 176,
    digestOf samplePayloadSha256, 96⟩
  manifest := ⟨63, 882, digestOf h3Sample.manifestSha256⟩
  payload := ⟨1018, 176, digestOf samplePayloadSha256⟩
  safetensorsDataOffset := 80
  tensors := SortedMap.empty.insert "video" ⟨.f16, sampleShape, 1098, 96⟩

def sampleReceiptText : List String :=
  ["\x7b\"access_abi_version\":1,", "\"manifest\":\x7b\"byte_length\":882,", "\"offset\":63,",
    "\"sha256\":\"", h3Sample.manifestSha256, "\"\x7d,", "\"payload\":\x7b\"byte_length\":176,",
    "\"offset\":1018,", "\"sha256\":\"", samplePayloadSha256, "\"\x7d,",
    "\"safetensors_data_offset\":80,", "\"tensors\":\x7b\"video\":\x7b\"byte_length\":96,",
    "\"dtype\":\"F16\",", "\"offset\":1098,", "\"shape\":[1,24,2,1,1]\x7d\x7d,",
    "\"validation\":\x7b\"archive_bytes\":1476,", "\"archive_sha256\":\"", h3Sample.archiveSha256,
    "\",\"payload_bytes\":176,", "\"payload_path\":\"payloads/h3.safetensors\",",
    "\"payload_sha256\":\"", samplePayloadSha256, "\",\"tensor_storage_bytes\":96,",
    "\"validation_level\":\"full\"\x7d\x7d"]

def sampleReceiptDocument : Json.Document :=
  .object [
    ("access_abi_version", integer 1),
    ("manifest", .object [("byte_length", integer 882), ("offset", integer 63),
      ("sha256", .string h3Sample.manifestSha256)] none),
    ("payload", .object [("byte_length", integer 176), ("offset", integer 1018),
      ("sha256", .string samplePayloadSha256)] none),
    ("safetensors_data_offset", integer 80),
    ("tensors", .object [("video", .object [("byte_length", integer 96),
      ("dtype", .string "F16"), ("offset", integer 1098),
      ("shape", .array ([1, 24, 2, 1, 1].map integer) none)] none)] none),
    ("validation", .object [("archive_bytes", integer 1476),
      ("archive_sha256", .string h3Sample.archiveSha256), ("payload_bytes", integer 176),
      ("payload_path", .string h3EntryName), ("payload_sha256", .string samplePayloadSha256),
      ("tensor_storage_bytes", integer 96), ("validation_level", .string "full")] none)] none

/-- The other crates on the text of the sample receipt. -/
def sampleReceipts : ReceiptDecoder where
  document text :=
    if text = textBytes sampleReceiptText then (sampleReceiptDocument, none)
    else (.malformed "expected value", none)
  receipt _ := some sampleReceipt
  canonicalReceipt _ := some (textBytes sampleReceiptText)

/-- The receipt of the H3 sample has an exact layout, and reading its first slot in two parts stays
inside its tensor. -/
theorem sample_receipt_confines_reads : sampleReceipt.Exact 1476 ∧
    ∀ (file : PositionedFile) (state : file.State), ∀ performed ∈
      (DuplicatedIntegrityHandle.mk sampleReceipt "").requests file
        [.range "video" 0 32 none, .range "video" 32 64 (some 64)] state,
      ∃ tensor, sampleReceipt.tensors.lookup performed.1 = some tensor ∧
        Inside tensor.range performed.2 := by
  have confined := accepted_receipt_confines_reads sampleReceipts (textBytes sampleReceiptText)
    1476 sampleReceipt (by decide +kernel)
  exact ⟨confined.1, fun file state =>
    confined.2.2.1 (DuplicatedIntegrityHandle.mk sampleReceipt "") rfl file _ state⟩

end LatentDeck.Archive
