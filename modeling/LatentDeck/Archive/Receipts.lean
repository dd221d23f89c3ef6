import LatentDeck.Archive.Canonical
import LatentDeck.Archive.Validation
import Mathlib.Data.List.Perm.Subperm

/-!
# Receipts of validated archives

What the integrity reader has established when it issues the access receipt, and for which
archives the receipt's own checks then accept. The receipt bounds the whole payload path by the
limit of an identifier and refuses tensors without elements, which no check before it does.
-/

namespace LatentDeck.Archive

open Checked Fallible LittleEndian Streaming Tiling

/-- Canonical JSON is not empty and has no zero byte. -/
def PlainCanonicalJson (decoder : CartridgeDecoder) : Prop :=
  ∀ manifest text, decoder.canonicalManifest manifest = some text → text ≠ [] ∧ 0 ∉ text

theorem findEntry_ok (archive : ArchiveIndex) (name : String) (entry : ArchiveEntry)
    (found : findEntry archive name = .ok entry) : entry ∈ archive.entries ∧ entry.name = name := by
  rw [findEntry, orError_eq_ok] at found
  have same := List.find?_some found
  exact ⟨List.mem_of_find?_eq_some found, of_decide_eq_true same⟩

theorem readEntryBytes_eq_ok (medium : List UInt8) (entry : ArchiveEntry) (bytes : List UInt8) :
    readEntryBytes medium entry = .ok bytes ↔
      entry.dataOffset + entry.size ≤ medium.length ∧ bytes = entry.extract medium := by
  rw [readEntryBytes, check_eq_ok, refuseWhen_eq_ok, Nat.not_lt]
  exact ⟨fun read => ⟨read.1, (Except.ok.inj read.2).symm⟩,
    fun read => ⟨read.1, congrArg _ read.2.symm⟩⟩

theorem extract_take (entry : ArchiveEntry) (medium : List UInt8) (count : Nat)
    (enough : count ≤ entry.size) :
    (entry.extract medium).take count = (medium.drop entry.dataOffset).take count := by
  rw [ArchiveEntry.extract, List.take_take, Nat.min_eq_left enough]

/-- An entry of a well-formed archive has a name of one of the three kinds. -/
theorem ArchiveIndex.WellFormed.kinds {index : ArchiveIndex} (formed : index.WellFormed)
    (entry : ArchiveEntry) (member : entry ∈ index.entries) :
    entry.name = manifestName ∨ isPayloadName entry.name = true ∨
      entry.name = optionalPreviewName := by
  have sized := formed.sized entry member
  by_cases manifest : entry.name = manifestName
  · exact .inl manifest
  by_cases preview : entry.name = optionalPreviewName
  · exact .inr (.inr preview)
  by_cases payload : isPayloadName entry.name = true
  · exact .inr (.inl payload)
  · unfold validateEntrySize at sized
    simp only [manifest, preview, payload, if_false, reduceCtorEq] at sized

theorem ArchiveIndex.WellFormed.apart {index : ArchiveIndex} (formed : index.WellFormed)
    (first second : ArchiveEntry) (member : first ∈ index.entries)
    (other : second ∈ index.entries) (different : first.name ≠ second.name) :
    Apart (first.dataOffset, first.size) (second.dataOffset, second.size) := by
  have pairwise : index.entries.Pairwise fun first second =>
      Apart (first.dataOffset, first.size) (second.dataOffset, second.size) :=
    formed.ordered.imp Or.inl
  have symmetric : Std.Symm fun first second : ArchiveEntry =>
      Apart (first.dataOffset, first.size) (second.dataOffset, second.size) :=
    ⟨fun _ _ apart => Or.symm apart⟩
  exact pairwise.forall member other fun same => different (same ▸ rfl)

/-- A manifest descriptor that agrees with a header. -/
def TensorDescriptor.Matches (descriptor : TensorDescriptor) (payloadPath : String)
    (tensors : SortedMap String SafetensorTensorDescriptor) : Prop :=
  ∃ header, tensors.lookup descriptor.name = some header ∧ descriptor.payload = payloadPath ∧
    descriptor.storageDtype = header.dtype.manifestDType ∧ descriptor.shape = header.shape

/-- The descriptor loop accepts new names that all match the header. -/
theorem crosscheckIntegrityTensors_eq_ok (payloadPath : String)
    (tensors : SortedMap String SafetensorTensorDescriptor) (descriptors : List TensorDescriptor)
    (names : List String) :
    crosscheckIntegrityTensors payloadPath tensors descriptors names = .ok () ↔
      (descriptors.map TensorDescriptor.name).Nodup ∧
      (∀ descriptor ∈ descriptors, descriptor.name ∉ names) ∧
      ∀ descriptor ∈ descriptors, descriptor.Matches payloadPath tensors := by
  induction descriptors generalizing names with
  | nil => simp [crosscheckIntegrityTensors]
  | cons descriptor descriptors ih =>
    rw [crosscheckIntegrityTensors, check_eq_ok, refuseWhen_eq_ok, bind_eq_ok, List.map_cons,
      List.nodup_cons, List.forall_mem_cons, List.forall_mem_cons]
    simp only [orError_eq_ok, check_eq_ok, refuseWhen_eq_ok, ih, not_or, not_not,
      List.contains_iff_mem, List.mem_cons, List.mem_map, not_exists, not_and]
    constructor
    · rintro ⟨fresh, header, found, matching, distinct, others, rest⟩
      exact ⟨⟨fun other member same => (others other member).1 same, distinct⟩,
        ⟨fresh, fun other member => (others other member).2⟩, ⟨header, found, matching⟩, rest⟩
    · rintro ⟨⟨alone, distinct⟩, ⟨fresh, others⟩, ⟨header, found, matching⟩, rest⟩
      exact ⟨fresh, header, found, matching, distinct,
        fun other member => ⟨alone other member, others other member⟩, rest⟩

/-- A crosschecked header has no tensors but those of the manifest. -/
theorem crosschecked_keys (manifest : List TensorDescriptor) (payloadPath : String)
    (payload : SafetensorsPreflight)
    (accepted : crosscheckIntegrityTensorDescriptors manifest payloadPath payload = .ok ()) :
    ∀ name ∈ payload.tensors.keys, ∃ descriptor ∈ manifest, descriptor.name = name := by
  rw [crosscheckIntegrityTensorDescriptors, check_eq_ok, refuseWhen_eq_ok, not_not,
    crosscheckIntegrityTensors_eq_ok] at accepted
  obtain ⟨counted, distinct, -, matched⟩ := accepted
  have known : manifest.map TensorDescriptor.name ⊆ payload.tensors.keys := by
    intro name member
    obtain ⟨descriptor, inside, rfl⟩ := List.mem_map.mp member
    obtain ⟨header, found, -⟩ := matched descriptor inside
    exact List.mem_map_of_mem ((payload.tensors.lookup_eq_some ..).mp found)
  have lengths : payload.tensors.keys.length ≤ (manifest.map TensorDescriptor.name).length := by
    rw [SortedMap.keys, List.length_map, List.length_map, counted]
    exact Nat.le_refl _
  have rearranged := (List.subperm_of_subset distinct known).perm_of_length_le lengths
  intro name member
  exact List.mem_map.mp (rearranged.mem_iff.mpr member)

/-- An admitted identifier is a name that receipts admit. -/
theorem admittedTensorName (name : String) (limits : ValidationLimits)
    (admitted : AdmittedIdentifier name limits) : AdmittedTensorName name := by
  obtain ⟨nonempty, short, -, alphabet⟩ := admitted
  refine ⟨nonempty, short.trans limits.identifierBytes.property, ?_⟩
  rw [List.all_eq_true] at alphabet ⊢
  intro byte member
  have letter := alphabet byte member
  simp only [identifierByte, identifierStart, Bool.or_eq_true, Bool.and_eq_true] at letter
  simp only [tensorNameByte, Text.isAsciiAlphanumeric, Text.isAsciiAlphabetic, Bool.or_eq_true,
    Bool.and_eq_true]
  rcases letter with (((lower | digit) | underscore) | dot) | hyphen
  · exact .inl (.inl (.inl (.inl (.inr lower))))
  · exact .inl (.inl (.inl (.inr digit)))
  · exact .inl (.inr underscore)
  · exact .inl (.inl (.inr dot))
  · exact .inr hyphen

theorem onlyPayload_eq_ok (manifest : ManifestV0_1) (payload : PayloadDescriptor) :
    onlyPayload manifest = .ok payload ↔ manifest.payloads = [payload] := by
  unfold onlyPayload
  split
  · rename_i only payloads
    rw [payloads, Except.ok.injEq, List.cons.injEq, and_iff_left rfl]
  · rename_i several
    exact ⟨nofun, fun payloads => absurd payloads (several payload)⟩

theorem leValue_large (bytes : List UInt8) (length : bytes.length = 8) (nonzero : 0 ∉ bytes) :
    maxSafetensorsHeaderBytes < leValue bytes := by
  have split : bytes = bytes.take 7 ++ bytes.drop 7 := (List.take_append_drop 7 bytes).symm
  have front : (bytes.take 7).length = 7 := by rw [List.length_take, length]; rfl
  have back : (bytes.drop 7).length = 1 := by rw [List.length_drop, length]
  obtain ⟨last, single⟩ := List.length_eq_one_iff.mp back
  have member : last ∈ bytes := List.mem_of_mem_drop (single ▸ List.mem_singleton_self last)
  have positive : last.toNat ≠ 0 := fun zero =>
    nonzero ((UInt8.toNat_inj.mp (zero.trans UInt8.toNat_zero.symm)) ▸ member)
  rw [split, leValue_append, front, single, leValue_cons, leValue_nil]
  simp only [maxSafetensorsHeaderBytes, mib]
  omega

theorem leValue_riff (bytes : List UInt8) (riff : bytes.take 4 = [0x52, 0x49, 0x46, 0x46]) :
    maxSafetensorsHeaderBytes < leValue bytes := by
  have split : bytes = bytes.take 4 ++ bytes.drop 4 := (List.take_append_drop 4 bytes).symm
  have large : maxSafetensorsHeaderBytes < leValue [0x52, 0x49, 0x46, 0x46] := by decide
  rw [split, leValue_append, riff]
  omega

theorem inspectWebp_riff (bytes : List UInt8) (info : WebpInfo)
    (accepted : inspectWebp bytes = .ok info) : bytes.take 4 = [0x52, 0x49, 0x46, 0x46] := by
  rw [inspectWebp, check_eq_ok, check_eq_ok, refuseWhen_eq_ok, refuseWhen_eq_ok] at accepted
  by_contra other
  exact accepted.2.1 (.inr (.inl other))

/-- A manifest that was read is the canonical text of its entry. -/
theorem readManifest_ok (decoder : CartridgeDecoder) (medium : List UInt8)
    (archive : ArchiveIndex) (limits : ValidationLimits) (manifest : ManifestV0_1)
    (read : readManifest decoder medium archive limits = .ok manifest) :
    manifest.validateCommon decoder.toManifestDecoder limits = .ok () ∧
      ∃ entry, findEntry archive manifestName = .ok entry ∧
        decoder.canonicalManifest manifest = some (entry.extract medium) := by
  rw [readManifest, bind_eq_ok] at read
  obtain ⟨entry, found, read⟩ := read
  obtain ⟨bytes, content, read⟩ := ok_of_bind read
  obtain ⟨-, rfl⟩ := (readEntryBytes_eq_ok ..).mp content
  obtain ⟨parsed, accepted, read⟩ := ok_of_bind read
  obtain ⟨canonical, encoded, read⟩ := ok_of_bind read
  rw [canonicalManifestBytes, orError_eq_ok] at encoded
  rw [check_eq_ok, refuseWhen_eq_ok, not_not] at read
  obtain ⟨rfl, same⟩ := read
  cases same
  exact ⟨parseManifestJson_ok _ _ _ _ accepted, entry, found, encoded⟩

/-- A preview entry that passes the preview checks starts like a RIFF form. -/
theorem preview_riff (medium : List UInt8) (archive : ArchiveIndex) (manifest : ManifestV0_1)
    (entry : ArchiveEntry) (found : findEntry archive optionalPreviewName = .ok entry)
    (matched : validatePreviewEntry archive manifest = .ok ())
    (previewed : inspectPreview medium archive manifest = .ok ()) :
    (entry.extract medium).take 4 = [0x52, 0x49, 0x46, 0x46] := by
  have present := (orError_eq_ok ..).mp found
  unfold validatePreviewEntry at matched
  rw [present] at matched
  unfold inspectPreview at previewed
  cases described : manifest.preview with
  | none =>
    rw [described] at matched
    exact nomatch matched
  | some preview =>
    rw [described] at previewed
    dsimp only at previewed
    rw [found, bind_eq_ok] at previewed
    obtain ⟨previewEntry, same, previewed⟩ := previewed
    obtain rfl := Except.ok.inj same
    obtain ⟨bytes, read, previewed⟩ := ok_of_bind previewed
    obtain ⟨-, rfl⟩ := (readEntryBytes_eq_ok ..).mp read
    obtain ⟨info, accepted, -⟩ := ok_of_bind previewed
    exact inspectWebp_riff _ info accepted

section

variable (decoder : CartridgeDecoder)

include decoder

/-- The payload of an inspected archive is neither its manifest nor its preview: neither starts
like a header of an admitted length. -/
theorem payload_entry_named (medium : List UInt8)
    (archive : ArchiveIndex) (manifest : ManifestV0_1) (path : String)
    (entry manifestEntry : ArchiveEntry) (headerBytes : Nat) (plain : PlainCanonicalJson decoder)
    (formed : archive.WellFormed) (size : archive.archiveSize = medium.length)
    (found : findEntry archive path = .ok entry)
    (manifestFound : findEntry archive manifestName = .ok manifestEntry)
    (text : decoder.canonicalManifest manifest = some (manifestEntry.extract medium))
    (matched : validatePreviewEntry archive manifest = .ok ())
    (previewed : inspectPreview medium archive manifest = .ok ())
    (small : headerBytes ≤ maxSafetensorsHeaderBytes) (long : headerLengthBytes ≤ entry.size)
    (prefixed : headerBytes = leValue ((medium.drop entry.dataOffset).take headerLengthBytes)) :
    isPayloadName path = true := by
  rw [← extract_take entry medium _ long] at prefixed
  obtain ⟨member, named⟩ := findEntry_ok archive path entry found
  have inside := formed.inside entry member
  have length : ((entry.extract medium).take headerLengthBytes).length = 8 := by
    rw [List.length_take, ArchiveEntry.extract, List.length_take, List.length_drop]
    simp only [headerLengthBytes] at long ⊢
    omega
  rcases formed.kinds entry member with manifestNamed | payloadNamed | previewNamed
  · -- The manifest is canonical JSON, without a zero byte.
    rw [← named, manifestNamed, manifestFound] at found
    obtain rfl := Except.ok.inj found
    have nonzero := (plain _ _ text).2
    have large := leValue_large _ length fun zero => nonzero (List.mem_of_mem_take zero)
    omega
  · exact named ▸ payloadNamed
  · -- The preview is a RIFF form.
    rw [← named, previewNamed] at found
    have riff := preview_riff medium archive manifest entry found matched previewed
    have large := leValue_riff ((entry.extract medium).take headerLengthBytes) (by
      rw [List.take_take]
      exact riff)
    omega

/-- What an integrity inspection establishes. -/
structure IntegrityInspection.Established (inspection : IntegrityInspection)
    (medium : List UInt8) (limits : ValidationLimits) (payload : PayloadDescriptor)
    (payloadEntry manifestEntry : ArchiveEntry) : Prop where
  archive : inspection.archive.WellFormed
  size : inspection.archive.archiveSize = medium.length
  described : inspection.manifest.payloads = [payload]
  payloadFound : findEntry inspection.archive payload.path = .ok payloadEntry
  payloadNamed : isPayloadName payload.path = true
  manifestFound : findEntry inspection.archive manifestName = .ok manifestEntry
  manifestNonempty : 0 < manifestEntry.size
  consistent : inspection.safetensors.Consistent payloadEntry.range limits
  names : ∀ name ∈ inspection.safetensors.tensors.keys, AdmittedTensorName name

/-- An accepted inspection establishes what the receipt rests on. -/
theorem inspectIntegrityFile_established (medium : List UInt8)
    (limits : ValidationLimits) (inspection : IntegrityInspection)
    (plain : PlainCanonicalJson decoder)
    (accepted : inspectIntegrityFile decoder medium limits = .ok inspection) :
    ∃ payload payloadEntry manifestEntry,
      inspection.Established medium limits payload payloadEntry manifestEntry := by
  rw [inspectIntegrityFile, bind_eq_ok] at accepted
  obtain ⟨archive, indexed, accepted⟩ := accepted
  obtain ⟨formed, size⟩ := inspectCanonical_wellFormed medium archive indexed
  obtain ⟨manifest, read, accepted⟩ := ok_of_bind accepted
  obtain ⟨common, manifestEntry, manifestFound, text⟩ := readManifest_ok _ _ _ _ _ read
  rw [check_eq_ok, bind_eq_ok] at accepted
  obtain ⟨described, payload, only, accepted⟩ := accepted
  obtain ⟨payloadEntry, payloadFound, accepted⟩ := ok_of_bind accepted
  obtain ⟨preflight, preflighted, accepted⟩ := ok_of_bind accepted
  rw [check_eq_ok, check_eq_ok] at accepted
  obtain ⟨crosschecked, previewed, same⟩ := accepted
  cases same
  obtain ⟨consistent, prefixed⟩ := preflightSafetensors_ok _ _ _ _ _ _ preflighted
  have matched : validatePreviewEntry archive manifest = .ok () := by
    rw [validateIntegrityArchiveDescriptors, bind_eq_ok] at described
    obtain ⟨_, -, described⟩ := described
    obtain ⟨_, -, described⟩ := ok_of_bind described
    rw [check_eq_ok] at described
    exact described.2
  have long : headerLengthBytes ≤ payloadEntry.size := by
    have start := consistent.start
    have data := consistent.data
    change _ = payloadEntry.size at data
    omega
  refine ⟨payload, payloadEntry, manifestEntry, {
    archive := formed
    size
    described := (onlyPayload_eq_ok ..).mp only
    payloadFound
    payloadNamed := payload_entry_named decoder medium archive manifest payload.path payloadEntry
      manifestEntry preflight.headerBytes plain formed size payloadFound manifestFound text matched
      previewed consistent.header.2 long prefixed
    manifestFound
    manifestNonempty := ?_
    consistent
    names := fun name member => ?_ }⟩
  · by_contra empty
    apply (plain _ _ text).1
    rw [ArchiveEntry.extract, Nat.le_zero.mp (Nat.le_of_not_lt empty), List.take_zero]
  · obtain ⟨descriptor, inside, rfl⟩ := crosschecked_keys _ _ _ crosschecked name member
    exact admittedTensorName _ limits
      ((validateCommon_tensors manifest _ limits common).each descriptor inside).name

/-- A measured entry has the length of the entry. -/
theorem verifyPayloadHash_length (medium : List UInt8)
    (entry : ArchiveEntry) (payload : PayloadDescriptor) (entryName detail : String)
    (measured : MeasuredHash)
    (verified : verifyPayloadHash decoder medium entry payload entryName detail = .ok measured) :
    measured.byteLength = entry.size := by
  rw [verifyPayloadHash, bind_eq_ok] at verified
  obtain ⟨hashed, hash, verified⟩ := verified
  obtain ⟨_, -, verified⟩ := ok_of_bind verified
  rw [check_eq_ok] at verified
  cases verified.2
  rw [hashEntry, check_eq_ok, refuseWhen_eq_ok, not_not] at hash
  cases hash.2
  exact hash.1

/-- What the integrity reader has looked up and measured for its evidence. -/
structure IntegrityEvidence.Collected (evidence : IntegrityEvidence) (medium : List UInt8)
    (payload : PayloadDescriptor) : Prop where
  only : onlyPayload evidence.inspection.manifest = .ok payload
  payloadFound : findEntry evidence.inspection.archive payload.path = .ok evidence.payloadEntry
  manifestFound : findEntry evidence.inspection.archive manifestName = .ok evidence.manifestEntry
  level : evidence.receipt.validationLevel = .full
  archiveBytes : evidence.receipt.archiveBytes = medium.length
  path : evidence.receipt.payloadPath = payload.path
  payloadBytes : evidence.receipt.payloadBytes = evidence.payloadEntry.size
  storage : evidence.receipt.tensorStorageBytes =
    (evidence.inspection.safetensors.tensors.values.map (·.byteLength)).sum

/-- Evidence is collected from an accepted inspection. -/
theorem collectIntegrityEvidence_ok (file : ByteStream)
    (limits : ValidationLimits) (evidence : IntegrityEvidence)
    (collected : collectIntegrityEvidence decoder file limits = .ok evidence) :
    inspectIntegrityFile decoder file.bytes limits = .ok evidence.inspection ∧
      ∃ payload, evidence.Collected file.bytes payload := by
  rw [collectIntegrityEvidence, bind_eq_ok] at collected
  obtain ⟨inspection, inspected, collected⟩ := collected
  rw [check_eq_ok, bind_eq_ok] at collected
  obtain ⟨-, payload, only, collected⟩ := collected
  obtain ⟨payloadEntry, payloadFound, collected⟩ := ok_of_bind collected
  rw [check_eq_ok, bind_eq_ok] at collected
  obtain ⟨-, measured, verified, collected⟩ := collected
  rw [check_eq_ok, bind_eq_ok] at collected
  obtain ⟨-, storage, summed, collected⟩ := collected
  obtain ⟨total, -⟩ := (checkedSum_eq_some ..).mp ((orError_eq_ok ..).mp summed)
  obtain ⟨manifestEntry, manifestFound, collected⟩ := ok_of_bind collected
  obtain ⟨_, -, same⟩ := ok_of_bind collected
  cases same
  exact ⟨inspected, payload, {
    only
    payloadFound
    manifestFound
    level := rfl
    archiveBytes := rfl
    path := rfl
    payloadBytes := verifyPayloadHash_length _ _ _ _ _ _ _ verified
    storage := total }⟩

/-- What the evidence for a receipt establishes. -/
structure IntegrityEvidence.Established (evidence : IntegrityEvidence) (medium : List UInt8)
    (limits : ValidationLimits) (payload : PayloadDescriptor) : Prop where
  inspection : evidence.inspection.Established medium limits payload evidence.payloadEntry
    evidence.manifestEntry
  collected : evidence.Collected medium payload

/-- Collected evidence establishes what the receipt rests on. -/
theorem collectIntegrityEvidence_established (file : ByteStream)
    (limits : ValidationLimits) (evidence : IntegrityEvidence) (plain : PlainCanonicalJson decoder)
    (collected : collectIntegrityEvidence decoder file limits = .ok evidence) :
    ∃ payload, evidence.Established file.bytes limits payload := by
  obtain ⟨inspected, payload, found⟩ :=
    collectIntegrityEvidence_ok decoder file limits evidence collected
  obtain ⟨described, payloadEntry, manifestEntry, established⟩ :=
    inspectIntegrityFile_established decoder file.bytes limits _ plain inspected
  obtain rfl : described = payload := by
    have same := established.described.symm.trans ((onlyPayload_eq_ok ..).mp found.only)
    exact (List.cons.inj same).1
  obtain rfl := Except.ok.inj (established.payloadFound.symm.trans found.payloadFound)
  obtain rfl := Except.ok.inj (established.manifestFound.symm.trans found.manifestFound)
  exact ⟨described, established, found⟩

/-- The cartridge of the evidence and its receipt. -/
def IntegrityEvidence.cartridge (evidence : IntegrityEvidence) (medium : List UInt8)
    (receipt : IntegrityAccessReceipt) : IntegrityValidatedCartridge where
  file := medium
  archive := evidence.inspection.archive
  manifest := evidence.inspection.manifest
  safetensors := evidence.inspection.safetensors
  receipt := evidence.receipt
  accessReceipt := receipt

theorem openIntegrityValidated_eq_ok (file : ByteStream)
    (limits : ValidationLimits) (cartridge : IntegrityValidatedCartridge) :
    openIntegrityValidated decoder file limits = .ok cartridge ↔ ∃ evidence receipt,
      collectIntegrityEvidence decoder file limits = .ok evidence ∧
      evidence.accessReceipt = .ok receipt ∧ cartridge = evidence.cartridge file.bytes receipt := by
  rw [openIntegrityValidated, bind_eq_ok]
  constructor
  · rintro ⟨evidence, collected, opened⟩
    obtain ⟨receipt, accessed, same⟩ := (bind_eq_ok ..).mp opened
    exact ⟨evidence, receipt, collected, accessed, (Except.ok.inj same).symm⟩
  · rintro ⟨evidence, receipt, collected, accessed, rfl⟩
    exact ⟨evidence, collected, (bind_eq_ok ..).mpr ⟨receipt, accessed, rfl⟩⟩

end

/-- The access of a tensor whose data area starts at an offset. -/
def SafetensorTensorDescriptor.access (tensor : SafetensorTensorDescriptor) (dataStart : Nat) :
    IntegrityTensorAccess where
  dtype := tensor.dtype
  shape := tensor.shape
  offset := dataStart + tensor.dataOffsets.1
  byteLength := tensor.byteLength

def IntegrityEvidence.described (evidence : IntegrityEvidence) : IntegrityAccessReceipt :=
  receiptOfParts evidence.receipt evidence.manifestEntry evidence.manifestSha256
    evidence.payloadEntry evidence.inspection.safetensors.dataOffset
    (evidence.inspection.safetensors.tensors.mapValues fun tensor =>
      tensor.access (evidence.payloadEntry.dataOffset + evidence.inspection.safetensors.dataOffset))

/-- A receipt is issued when the one that the evidence describes passes its checks. -/
theorem accessReceipt_eq_ok (evidence : IntegrityEvidence) (medium : List UInt8)
    (limits : ValidationLimits) (payload : PayloadDescriptor) (receipt : IntegrityAccessReceipt)
    (established : evidence.Established medium limits payload) :
    evidence.accessReceipt = .ok receipt ↔
      receipt = evidence.described ∧ evidence.described.Sound medium.length := by
  have inspection := established.inspection
  have consistent := inspection.consistent
  have bounded := inspection.archive.bounded.trans_lt (show maxArchiveBytes < 2 ^ 64 by decide)
  have inside := inspection.archive.inside _ (findEntry_ok _ _ _ inspection.payloadFound).1
  have data := consistent.data
  change _ = evidence.payloadEntry.size at data
  have start : evidence.payloadEntry.dataOffset +
      evidence.inspection.safetensors.dataOffset < 2 ^ 64 := by omega
  have accesses : (evidence.inspection.safetensors.tensors.traverse fun _ tensor =>
      tensorAccess (evidence.payloadEntry.dataOffset +
        evidence.inspection.safetensors.dataOffset) tensor) =
      .ok (evidence.inspection.safetensors.tensors.mapValues fun tensor => tensor.access
        (evidence.payloadEntry.dataOffset + evidence.inspection.safetensors.dataOffset)) := by
    apply SortedMap.traverse_of_ok
    intro entry member
    have range := covers_bound consistent.covered entry.2.range
      (List.mem_map_of_mem (List.mem_map_of_mem member))
    simp only [SafetensorTensorDescriptor.range] at range
    unfold tensorAccess
    rw [bind_eq_ok]
    exact ⟨_, (orError_eq_ok ..).mpr ((checkedAdd_eq_some ..).mpr ⟨rfl, by omega⟩), rfl⟩
  unfold IntegrityEvidence.accessReceipt fromValidatedParts
  rw [bind_eq_ok]
  constructor
  · rintro ⟨first, added, rest⟩
    obtain ⟨rfl, -⟩ := (checkedAdd_eq_some ..).mp ((orError_eq_ok ..).mp added)
    rw [accesses, bind_eq_ok] at rest
    obtain ⟨tensors, same, rest⟩ := rest
    obtain rfl := Except.ok.inj same
    rw [check_eq_ok, validateForArchiveLength_eq_ok] at rest
    obtain ⟨sound, same⟩ := rest
    rw [show (receiptOfParts _ _ _ _ _ _).validation.archiveBytes = medium.length from
      established.collected.archiveBytes] at sound
    exact ⟨(Except.ok.inj same).symm, sound⟩
  · rintro ⟨rfl, sound⟩
    refine ⟨_, (orError_eq_ok ..).mpr ((checkedAdd_eq_some ..).mpr ⟨rfl, start⟩), ?_⟩
    rw [accesses, bind_eq_ok]
    refine ⟨_, rfl, ?_⟩
    rw [check_eq_ok, validateForArchiveLength_eq_ok,
      show (receiptOfParts _ _ _ _ _ _).validation.archiveBytes = medium.length from
        established.collected.archiveBytes]
    exact ⟨sound, rfl⟩

/-- What a receipt asks of the evidence beyond the checks before it: a payload path within the
limit of an identifier, and tensors that have elements. -/
structure IntegrityEvidence.Addressable (evidence : IntegrityEvidence) : Prop where
  path : evidence.receipt.payloadPath.utf8ByteSize ≤ maxIdentifierBytes
  elements : ∀ tensor ∈ evidence.inspection.safetensors.tensors.values, 0 ∉ tensor.shape

/-- A receipt admits a safe path exactly when it is short. -/
theorem invalidPayloadPath_of_safe (path : String) (safe : validateSafeName path = .ok ()) :
    invalidPayloadPath path = false ↔ path.utf8ByteSize ≤ maxIdentifierBytes := by
  unfold validateSafeName at safe
  dsimp only at safe
  split at safe
  · exact nomatch safe
  · rename_i admitted
    simp only [Bool.or_eq_true, not_or, Bool.not_eq_true] at admitted
    obtain ⟨⟨⟨⟨⟨⟨⟨⟨nonempty, -⟩, root⟩, -⟩, -⟩, backslash⟩, colon⟩, -⟩, components⟩ := admitted
    have separators : (path.toList.any fun character =>
        character == '\\' || character == ':') = false := by
      rw [List.any_eq_false]
      intro character member
      simp only [Bool.or_eq_true, beq_iff_eq, not_or]
      constructor
      · rintro rfl
        exact Bool.false_ne_true (backslash.symm.trans (List.contains_iff_mem.mpr member))
      · rintro rfl
        exact Bool.false_ne_true (colon.symm.trans (List.contains_iff_mem.mpr member))
    simp only [invalidPayloadPath, nonempty, root, separators, components, Bool.false_or,
      Bool.or_false, decide_eq_false_iff_not, Nat.not_lt]

theorem validateEntrySize_manifest (size : Nat)
    (sized : validateEntrySize manifestName size = .ok ()) : size ≤ maxManifestBytes := by
  unfold validateEntrySize at sized
  dsimp only at sized
  rw [if_pos rfl] at sized
  by_contra large
  dsimp only at sized
  rw [if_pos (Nat.lt_of_not_le large)] at sized
  exact nomatch sized

section

variable (evidence : IntegrityEvidence)

include evidence

theorem described_area (medium : List UInt8)
    (limits : ValidationLimits) (payload : PayloadDescriptor)
    (established : evidence.Established medium limits payload) :
    evidence.described.payloadEnd =
      evidence.described.dataStart + evidence.inspection.safetensors.dataBytes := by
  have data : _ = evidence.payloadEntry.size := established.inspection.consistent.data
  change evidence.payloadEntry.dataOffset + evidence.payloadEntry.size =
    evidence.payloadEntry.dataOffset + evidence.inspection.safetensors.dataOffset + _
  omega

theorem described_tensors :
    evidence.described.tensors.values =
      evidence.inspection.safetensors.tensors.values.map
        (SafetensorTensorDescriptor.access · evidence.described.dataStart) :=
  SortedMap.values_mapValues ..

theorem described_ranges :
    evidence.described.tensorRanges =
      (evidence.inspection.safetensors.tensors.values.map
        SafetensorTensorDescriptor.range).map (shift evidence.described.dataStart) := by
  rw [IntegrityAccessReceipt.tensorRanges, described_tensors, List.map_map, List.map_map]
  rfl

/-- A tensor of the described receipt is sound when it has elements. -/
theorem described_tensor_sound (medium : List UInt8)
    (limits : ValidationLimits) (payload : PayloadDescriptor)
    (established : evidence.Established medium limits payload) (tensor : SafetensorTensorDescriptor)
    (member : tensor ∈ evidence.inspection.safetensors.tensors.values)
    (elements : 0 ∉ tensor.shape) :
    (tensor.access evidence.described.dataStart).Sound evidence.described.dataStart
      evidence.described.payloadEnd := by
  have consistent := established.inspection.consistent
  have admitted := consistent.tensors tensor member
  have inside := (covers_bound consistent.covered tensor.range (List.mem_map_of_mem member)).2
  have area := described_area evidence medium limits payload established
  exact {
    shaped := admitted.shaped
    rank := admitted.rank.trans limits.tensorRank.property
    positive := elements
    exact := admitted.exact
    starts := Nat.le_add_right _ _
    ends := by
      rw [area]
      change _ + tensor.dataOffsets.1 + tensor.byteLength ≤ _
      change tensor.dataOffsets.1 + tensor.byteLength ≤ _ at inside
      omega }

end

/-- A header whose tensors have elements is followed by data. -/
theorem header_followed_by_data (preflight : SafetensorsPreflight) (entry : EntryRange)
    (limits : ValidationLimits) (consistent : preflight.Consistent entry limits)
    (elements : ∀ tensor ∈ preflight.tensors.values, 0 ∉ tensor.shape) :
    0 < preflight.dataBytes := by
  obtain ⟨tensor, member⟩ : ∃ tensor, tensor ∈ preflight.tensors.values := by
    apply List.exists_mem_of_length_pos
    rw [SortedMap.values, List.length_map]
    exact consistent.counted.1
  have inside := (covers_bound consistent.covered tensor.range (List.mem_map_of_mem member)).2
  have product := Nat.pos_of_ne_zero (List.prod_ne_zero (elements tensor member))
  have width : 0 < tensor.dtype.byteWidth := by cases tensor.dtype <;> decide
  have length : 0 < tensor.byteLength := by
    rw [(consistent.tensors tensor member).exact]
    exact Nat.mul_pos product width
  change tensor.dataOffsets.1 + tensor.byteLength ≤ _ at inside
  omega

/-- The receipt that the evidence describes is sound exactly when the evidence is addressable. -/
theorem described_sound (evidence : IntegrityEvidence) (medium : List UInt8)
    (limits : ValidationLimits) (payload : PayloadDescriptor)
    (established : evidence.Established medium limits payload) :
    evidence.described.Sound medium.length ↔ evidence.Addressable := by
  have inspection := established.inspection
  have formed := inspection.archive
  have consistent := inspection.consistent
  obtain ⟨payloadMember, payloadName⟩ := findEntry_ok _ _ _ inspection.payloadFound
  obtain ⟨manifestMember, manifestNamed⟩ := findEntry_ok _ _ _ inspection.manifestFound
  have safe : validateSafeName evidence.receipt.payloadPath = .ok () := by
    rw [established.collected.path, ← payloadName]
    exact formed.safe _ payloadMember
  have path := invalidPayloadPath_of_safe _ safe
  constructor
  · intro sound
    refine ⟨path.mp sound.path, fun tensor member => ?_⟩
    have accessed := sound.tensors (tensor.access evidence.described.dataStart) (by
      rw [described_tensors]
      exact List.mem_map_of_mem member)
    exact accessed.positive
  · rintro ⟨short, elements⟩
    have data := header_followed_by_data _ _ _ consistent elements
    have total : _ = evidence.payloadEntry.size := consistent.data
    have start := consistent.start
    have size := inspection.size
    have different : evidence.manifestEntry.name ≠ evidence.payloadEntry.name := by
      rw [manifestNamed, payloadName]
      intro same
      have named := inspection.payloadNamed
      rw [← same] at named
      exact absurd named (by decide)
    have manifestSized := formed.sized _ manifestMember
    rw [manifestNamed] at manifestSized
    have fewest : evidence.described.tensors.length =
        evidence.inspection.safetensors.tensors.length := List.length_map ..
    exact {
      version := rfl
      level := established.collected.level
      nonempty := size ▸ formed.nonempty
      bounded := size ▸ formed.bounded
      archive := established.collected.archiveBytes
      path := path.mpr short
      manifest := {
        nonempty := inspection.manifestNonempty
        bounded := validateEntrySize_manifest _ manifestSized
        ends := size ▸ formed.inside _ manifestMember }
      payload := {
        nonempty := by
          change 0 < evidence.payloadEntry.size
          omega
        bounded := validateEntrySize_bound _ _ (formed.sized _ payloadMember)
        ends := size ▸ formed.inside _ payloadMember }
      payloadBytes := established.collected.payloadBytes.symm
      payloadSha256 := rfl
      apart := formed.apart _ _ manifestMember payloadMember different
      header := by
        change 0 < evidence.inspection.safetensors.dataOffset
        simp only [headerLengthBytes] at start
        omega
      data := by
        change evidence.inspection.safetensors.dataOffset < evidence.payloadEntry.size
        omega
      counted := by
        rw [fewest]
        exact ⟨consistent.counted.1,
          consistent.counted.2.trans limits.tensors.property⟩
      names := fun name member => inspection.names name (by
        rwa [IntegrityEvidence.described, receiptOfParts, SortedMap.keys_mapValues] at member)
      tensors := by
        rw [described_tensors, List.forall_mem_map]
        exact fun tensor member => described_tensor_sound _ _ _ _ established tensor member
          (elements tensor member)
      covered := by
        rw [described_ranges, described_area _ _ _ _ established]
        exact (covers_shift _ 0 _ _).mpr consistent.covered
      storage := by
        rw [described_tensors, List.map_map]
        exact established.collected.storage.symm }

def integer (value : UInt64) : Json.Document := .number (.posInt value)

/-- The shape of the sample tensor: two slots of one latent pixel. -/
def sampleShape : List Nat := [1, 24, 2, 1, 1]

def sampleHeader : List UInt8 :=
  nameBytes "\x7b\"video\":\x7b\"dtype\":\"F16\",\"shape\":[1,24,2,1,1],\"data_offsets\":[0,96]\x7d\x7d    "

def sampleHeaderDocument : Json.Document :=
  .object [("video", .object [("dtype", .string "F16"),
    ("shape", .array ([1, 24, 2, 1, 1].map integer) none),
    ("data_offsets", .array [integer 0, integer 96] none)] none)] none

/-- The sample payload: one tensor of zeros behind its header. -/
def samplePayload : List UInt8 := leBytes 8 72 ++ (sampleHeader ++ List.replicate 96 0)

def samplePayloadSha256 : String :=
  "c28394cbf791375802c5e96fee722276c034f6068f0e533376b16dd0b7b88613"

def sampleManifest (path : String) : ManifestV0_1 where
  specVersion := lcSpecVersion
  cartridgeId := "550e8400-e29b-41d4-a716-446655440000"
  codec := ⟨codecFamily, h3Profile, profileVersion⟩
  payloads := [⟨path, payloadMediaType, 176, samplePayloadSha256⟩]
  tensors := [⟨.visual, "video", path, .f16, .f16, sampleShape⟩]
  timing := ⟨timingContract, timingContractVersion, ⟨16, 16, 5, ⟨24, 1⟩, ⟨5, 24⟩⟩⟩
  audio := .sourceAbsent
  preview := none
  provenance := ⟨⟨"latentdeck-cartridge", "0.1.0"⟩, none, []⟩
  parentCartridges := []
  operationHistory := []

def sampleText (path : String) : List String :=
  ["\x7b\"audio\":\x7b\"policy\":\"source_absent\"\x7d,",
    "\"cartridge_id\":\"550e8400-e29b-41d4-a716-446655440000\",",
    "\"codec\":\x7b\"family\":\"minimax_h3\",", "\"profile\":\"h3_av_latent\",",
    "\"profile_version\":\"0.1.0\"\x7d,", "\"operation_history\":[],",
    "\"parent_cartridges\":[],", "\"payloads\":[\x7b\"byte_length\":176,",
    "\"media_type\":\"application/vnd.safetensors\",", "\"path\":\"", path, "\",\"sha256\":\"",
    samplePayloadSha256, "\"\x7d],", "\"provenance\":\x7b\"created_by\":\x7b",
    "\"name\":\"latentdeck-cartridge\",", "\"version\":\"0.1.0\"\x7d,", "\"sources\":[]\x7d,",
    "\"spec_version\":\"0.1.0\",", "\"tensors\":[\x7b\"name\":\"video\",", "\"payload\":\"", path,
    "\",\"runtime_dtype\":\"F16\",", "\"shape\":[1,24,2,1,1],", "\"storage_dtype\":\"F16\",",
    "\"stream\":\"visual\"\x7d],", "\"timing\":\x7b\"contract\":\"minimax_h3_causal\",",
    "\"contract_version\":\"0.1.0\",", "\"decoded_video\":\x7b\"duration\":\x7b",
    "\"denominator\":24,\"numerator\":5\x7d,", "\"frame_count\":5,\"frame_rate\":\x7b",
    "\"denominator\":1,\"numerator\":24\x7d,", "\"height\":16,\"width\":16\x7d\x7d\x7d"]

def textBytes (pieces : List String) : List UInt8 := pieces.flatMap nameBytes

def sampleDocument (path : String) : Json.Document :=
  .object [
    ("audio", .object [("policy", .string "source_absent")] none),
    ("cartridge_id", .string "550e8400-e29b-41d4-a716-446655440000"),
    ("codec", .object [("family", .string "minimax_h3"), ("profile", .string "h3_av_latent"),
      ("profile_version", .string "0.1.0")] none),
    ("operation_history", .array [] none),
    ("parent_cartridges", .array [] none),
    ("payloads", .array [.object [("byte_length", integer 176),
      ("media_type", .string "application/vnd.safetensors"), ("path", .string path),
      ("sha256", .string samplePayloadSha256)] none] none),
    ("provenance", .object [("created_by", .object [("name", .string "latentdeck-cartridge"),
      ("version", .string "0.1.0")] none), ("sources", .array [] none)] none),
    ("spec_version", .string "0.1.0"),
    ("tensors", .array [.object [("name", .string "video"), ("payload", .string path),
      ("runtime_dtype", .string "F16"), ("shape", .array ([1, 24, 2, 1, 1].map integer) none),
      ("storage_dtype", .string "F16"), ("stream", .string "visual")] none] none),
    ("timing", .object [("contract", .string "minimax_h3_causal"),
      ("contract_version", .string "0.1.0"),
      ("decoded_video", .object [
        ("duration", .object [("denominator", integer 24), ("numerator", integer 5)] none),
        ("frame_count", integer 5),
        ("frame_rate", .object [("denominator", integer 1), ("numerator", integer 24)] none),
        ("height", integer 16), ("width", integer 16)] none)] none)] none

def samplePreflight : SafetensorsPreflight where
  payloadBytes := 176
  headerBytes := 72
  dataOffset := 80
  dataBytes := 96
  tensors := SortedMap.empty.insert "video" ⟨"video", .f16, sampleShape, (0, 96), 96⟩

theorem textBytes_isText (pieces : List String) : ∃ text, textBytes pieces = nameBytes text := by
  induction pieces with
  | nil => exact ⟨"", by decide⟩
  | cons piece pieces ih =>
    obtain ⟨text, same⟩ := ih
    refine ⟨piece ++ text, ?_⟩
    rw [textBytes, List.flatMap_cons, ← textBytes, same]
    simp only [nameBytes, Text.utf8Bytes, String.toUTF8_eq_toByteArray, String.toByteArray_append,
      ByteArray.data_append, Array.toList_append]

def digestOf (text : String) : Sha256Hash :=
  ⟨(decodeHex (nameBytes text)).takeD 32 0, List.takeD_length ..⟩

/-- A sample cartridge: a payload path that archives admit, and the digests of its texts. -/
structure Sample where
  path : String
  manifestSha256 : String
  archiveSha256 : String
  different : manifestName ≠ path
  safe : validateSafeName path = .ok ()
  distinct : validateDistinct [manifestName, path] [] = .ok ()
  ordered : validateEntryOrder [manifestName, path] = .ok ()
  manifestSized : validateEntrySize manifestName (textBytes (sampleText path)).length = .ok ()
  payloadSized : validateEntrySize path samplePayload.length = .ok ()

namespace Sample

/-- The other crates on the texts of a sample. -/
def decoder (sample : Sample) : CartridgeDecoder where
  document text :=
    if text = textBytes (sampleText sample.path) then (sampleDocument sample.path, none)
    else if text = sampleHeader then (sampleHeaderDocument, none)
    else (.malformed "expected value", none)
  tensorDescriptor _ := some ⟨"F16", sampleShape, (0, 96)⟩
  manifest _ := .ok (sampleManifest sample.path)
  canonicalManifest _ := some (textBytes (sampleText sample.path))
  uuid _ := some 0x550e8400e29b41d4a716446655440000
  hyphenated _ := "550e8400-e29b-41d4-a716-446655440000"
  timestampOffset _ := none
  sha256 bytes :=
    if bytes = samplePayload then digestOf samplePayloadSha256
    else if bytes = textBytes (sampleText sample.path) then digestOf sample.manifestSha256
    else digestOf sample.archiveSha256
  checksum := crc32

def storedManifest (sample : Sample) : StoredEntry where
  name := manifestName
  crc32 := crc32.hash (textBytes (sampleText sample.path))
  content := textBytes (sampleText sample.path)

def storedPayload (sample : Sample) : StoredEntry where
  name := sample.path
  crc32 := crc32.hash samplePayload
  content := samplePayload

def archive (sample : Sample) : StoredArchive where
  entries := [sample.storedManifest, sample.storedPayload]
  safe := List.forall_mem_cons.mpr
    ⟨(show validateSafeName manifestName = .ok () by decide),
      List.forall_mem_singleton.mpr sample.safe⟩
  distinct := sample.distinct
  ordered := sample.ordered
  sized := List.forall_mem_cons.mpr
    ⟨sample.manifestSized, List.forall_mem_singleton.mpr sample.payloadSized⟩

def manifestEntry (sample : Sample) : ArchiveEntry := sample.storedManifest.indexed 0

def payloadEntry (sample : Sample) : ArchiveEntry :=
  sample.storedPayload.indexed
    (0 + sample.storedManifest.header.length + sample.storedManifest.content.length)

/-- The sample as a file that is read in pieces of a size. -/
def file (sample : Sample) (piece : Nat) : ByteStream where
  bytes := sample.archive.bytes
  chunk _ := piece

theorem indexed (sample : Sample) :
    sample.archive.index.entries = [sample.manifestEntry, sample.payloadEntry] := rfl

theorem findManifest (sample : Sample) :
    findEntry sample.archive.index manifestName = .ok sample.manifestEntry := by
  have named : sample.manifestEntry.name = manifestName := rfl
  rw [findEntry, orError_eq_ok, indexed]
  exact List.find?_cons_of_pos (decide_eq_true named)

theorem findPayload (sample : Sample) :
    findEntry sample.archive.index sample.path = .ok sample.payloadEntry := by
  have named : sample.payloadEntry.name = sample.path := rfl
  have other : ¬ decide (sample.manifestEntry.name = sample.path) = true :=
    fun same => sample.different (of_decide_eq_true same)
  have later := List.find?_cons_of_pos (l := [])
    (p := fun entry : ArchiveEntry => decide (entry.name = sample.path)) (decide_eq_true named)
  rw [findEntry, orError_eq_ok, indexed]
  exact (List.find?_cons_of_neg (p := fun entry : ArchiveEntry =>
    decide (entry.name = sample.path)) other).trans later

theorem extracted (sample : Sample) :
    sample.manifestEntry.extract sample.archive.bytes = textBytes (sampleText sample.path) ∧
      sample.payloadEntry.extract sample.archive.bytes = samplePayload := by
  have contents : sample.archive.index.contents sample.archive.bytes =
      [(manifestName, textBytes (sampleText sample.path)), (sample.path, samplePayload)] :=
    index_contents sample.archive
  rw [ArchiveIndex.contents, indexed] at contents
  simp only [List.map_cons, List.map_nil, List.cons.injEq, Prod.mk.injEq] at contents
  exact ⟨contents.1.2, contents.2.1.2⟩

/-- What the integrity reader establishes of a sample. -/
def evidence (sample : Sample) : IntegrityEvidence where
  inspection := {
    archive := sample.archive.index
    validationLevel := .structureOnly
    archiveSize := sample.archive.bytes.length
    manifest := sampleManifest sample.path
    safetensors := samplePreflight }
  receipt := {
    validationLevel := .full
    archiveBytes := sample.archive.bytes.length
    archiveSha256 := sample.decoder.sha256 sample.archive.bytes
    payloadPath := sample.path
    payloadBytes := 176
    payloadSha256 := digestOf samplePayloadSha256
    tensorStorageBytes := 96 }
  manifestEntry := sample.manifestEntry
  manifestSha256 := sample.decoder.sha256 (textBytes (sampleText sample.path))
  payloadEntry := sample.payloadEntry

/-- What the opening of a sample rests on beyond its layout. -/
structure Evaluated (sample : Sample) : Prop where
  fits : sample.archive.bytes.length ≤ maxArchiveBytes
  unique : rejectDuplicates maxJsonDepth (sampleDocument sample.path) "" 0 = .ok ()
  common : (sampleManifest sample.path).validateCommon sample.decoder.toManifestDecoder
    .specification = .ok ()
  preview : validatePreviewEntry sample.archive.index (sampleManifest sample.path) = .ok ()
  preflight : preflightSafetensors sample.decoder.toHeaderDecoder sample.archive.bytes
    sample.payloadEntry.range sample.path .specification = .ok samplePreflight
  crosschecked : crosscheckIntegrityTensorDescriptors (sampleManifest sample.path).tensors
    sample.path samplePreflight = .ok ()
  hashed : hashEntry sample.decoder sample.archive.bytes sample.payloadEntry =
    .ok ⟨176, digestOf samplePayloadSha256⟩
  parsed : Sha256Hash.parse samplePayloadSha256 = .ok (digestOf samplePayloadSha256)
  finite : scanSafetensorsFinite sample.archive.bytes sample.payloadEntry.range sample.path
    samplePreflight = .ok ()

variable {sample : Sample}

theorem Evaluated.inspected (evaluated : sample.Evaluated) :
    inspectCanonical sample.archive.bytes (UInt64.ofNat maxArchiveBytes) =
      .ok sample.archive.index :=
  inspectCanonical_bytes _ _ evaluated.fits

theorem Evaluated.read (evaluated : sample.Evaluated) (entry : ArchiveEntry)
    (member : entry ∈ sample.archive.index.entries) :
    readEntryBytes sample.archive.bytes entry = .ok (entry.extract sample.archive.bytes) := by
  have formed := (inspectCanonical_wellFormed _ _ evaluated.inspected).1
  exact (readEntryBytes_eq_ok ..).mpr ⟨formed.inside _ member, rfl⟩

theorem verified (sample : Sample) (piece : Nat) :
    checkEach (verifyEntry crc32 (sample.file piece)) sample.archive.index.entries = .ok () := by
  have stored : ∀ entry ∈ sample.archive.entries, crc32.hash entry.content = entry.crc32 :=
    List.forall_mem_cons.mpr ⟨rfl, List.forall_mem_singleton.mpr rfl⟩
  rw [checkEach_eq_ok]
  exact (index_verified crc32 sample.archive fun _ _ => piece).mpr stored

theorem Evaluated.manifest (evaluated : sample.Evaluated) :
    readManifest sample.decoder sample.archive.bytes sample.archive.index .specification =
      .ok (sampleManifest sample.path) := by
  have entry : sample.manifestEntry ∈ sample.archive.index.entries := List.mem_cons_self
  have sized : (textBytes (sampleText sample.path)).length ≤ maxManifestBytes :=
    validateEntrySize_manifest _ sample.manifestSized
  have document : sample.decoder.toManifestDecoder.document (textBytes (sampleText sample.path)) =
      (sampleDocument sample.path, none) := by
    simp only [decoder, if_true]
  obtain ⟨text, isText⟩ := textBytes_isText (sampleText sample.path)
  have decoded : fromUtf8 (textBytes (sampleText sample.path)) ≠ none := by
    rw [isText, fromUtf8_nameBytes]
    exact Option.some_ne_none _
  have parsed : parseManifestJson sample.decoder.toManifestDecoder
      (textBytes (sampleText sample.path)) .specification = .ok (sampleManifest sample.path) := by
    rw [parseManifestJson, check_eq_ok, check_eq_ok, check_eq_ok, refuseWhen_eq_ok,
      refuseWhen_eq_ok, rejectDuplicateKeys, document, Nat.not_lt]
    refine ⟨sized, decoded, ?_, ?_⟩
    · rw [check_eq_ok]
      exact ⟨(mapError_eq_ok ..).mpr evaluated.unique, rfl⟩
    · rw [bind_eq_ok]
      refine ⟨_, rfl, ?_⟩
      rw [check_eq_ok, check_eq_ok]
      exact ⟨rfl, evaluated.common, rfl⟩
  rw [readManifest, bind_eq_ok]
  refine ⟨_, sample.findManifest, ?_⟩
  rw [bind_eq_ok]
  refine ⟨_, evaluated.read _ entry, ?_⟩
  rw [sample.extracted.1, bind_eq_ok]
  refine ⟨_, parsed, ?_⟩
  rw [bind_eq_ok]
  refine ⟨textBytes (sampleText sample.path), ?_, ?_⟩
  · rw [canonicalManifestBytes, orError_eq_ok]
    rfl
  · rw [check_eq_ok, refuseWhen_eq_ok]
    exact ⟨fun different => different rfl, rfl⟩

theorem Evaluated.inspection (evaluated : sample.Evaluated) :
    inspectIntegrityFile sample.decoder sample.archive.bytes .specification =
      .ok sample.evidence.inspection := by
  have descriptors : validateIntegrityArchiveDescriptors sample.archive.index
      (sampleManifest sample.path) = .ok () := by
    rw [validateIntegrityArchiveDescriptors, bind_eq_ok]
    refine ⟨_, rfl, ?_⟩
    rw [bind_eq_ok]
    refine ⟨_, sample.findPayload, ?_⟩
    rw [check_eq_ok, refuseWhen_eq_ok]
    exact ⟨fun different => different.elim (fun media => media rfl) fun size => size rfl,
      evaluated.preview⟩
  rw [inspectIntegrityFile, bind_eq_ok]
  refine ⟨_, evaluated.inspected, ?_⟩
  rw [bind_eq_ok]
  refine ⟨_, evaluated.manifest, ?_⟩
  rw [check_eq_ok, bind_eq_ok]
  refine ⟨descriptors, _, rfl, ?_⟩
  rw [bind_eq_ok]
  refine ⟨_, sample.findPayload, ?_⟩
  rw [bind_eq_ok]
  refine ⟨_, evaluated.preflight, ?_⟩
  rw [check_eq_ok, check_eq_ok]
  exact ⟨evaluated.crosschecked, rfl, rfl⟩

/-- The integrity reader collects the evidence of a sample. -/
theorem Evaluated.collected (evaluated : sample.Evaluated) (piece : Nat) :
    collectIntegrityEvidence sample.decoder (sample.file piece) .specification =
      .ok sample.evidence := by
  rw [collectIntegrityEvidence, bind_eq_ok]
  refine ⟨_, evaluated.inspection, ?_⟩
  rw [check_eq_ok, bind_eq_ok]
  refine ⟨sample.verified piece, _, rfl, ?_⟩
  rw [bind_eq_ok]
  refine ⟨_, sample.findPayload, ?_⟩
  rw [check_eq_ok, bind_eq_ok]
  refine ⟨evaluated.finite, ⟨176, digestOf samplePayloadSha256⟩, ?_, ?_⟩
  · rw [verifyPayloadHash, bind_eq_ok]
    refine ⟨_, evaluated.hashed, ?_⟩
    rw [bind_eq_ok]
    refine ⟨_, (mapError_eq_ok ..).mpr evaluated.parsed, ?_⟩
    rw [check_eq_ok, refuseWhen_eq_ok]
    exact ⟨fun different => different.elim (fun size => size rfl) fun digest => digest rfl, rfl⟩
  · rw [check_eq_ok, bind_eq_ok]
    refine ⟨rfl, 96, rfl, ?_⟩
    rw [bind_eq_ok]
    refine ⟨_, sample.findManifest, ?_⟩
    rw [bind_eq_ok]
    refine ⟨textBytes (sampleText sample.path), (orError_eq_ok ..).mpr ?_, ?_⟩
    · rfl
    · simp only [evidence, hashReader, file]
      rfl

end Sample

def h3Sample : Sample where
  path := h3EntryName
  manifestSha256 := "d0b762bf8c6d8785347e0eeff560b0a1938513275a96e2723914fdae03398bef"
  archiveSha256 := "1ae65354040837c4d07f6427e4d88bb5db4e9a0712c0c45678dbcf70dcf705a1"
  different := by decide
  safe := by decide
  distinct := by decide
  ordered := by decide
  manifestSized := by decide +kernel
  payloadSized := by decide +kernel

/-- The path of a payload with an identifier of 128 bytes. -/
def longPath : String :=
  "payloads/" ++ String.ofList (List.replicate 128 'a') ++ ".safetensors"

def longSample : Sample where
  path := longPath
  manifestSha256 := "f0addd7434eedcbc153d20704ad6262e48470fd7fb5e9aac0e9ead6a00d6b65f"
  archiveSha256 := "b931ce21130053609c2c62cffa084efc89500c07a056dc8c014d1057f345ed5e"
  different := by decide +kernel
  safe := by decide +kernel
  distinct := by decide +kernel
  ordered := by decide +kernel
  manifestSized := by decide +kernel
  payloadSized := by decide +kernel

theorem h3_evaluated : h3Sample.Evaluated where
  fits := by decide +kernel
  unique := by decide +kernel
  common := by decide +kernel
  preview := by decide +kernel
  preflight := by decide +kernel
  crosschecked := by decide +kernel
  hashed := by decide +kernel
  parsed := by decide +kernel
  finite := by decide +kernel

theorem long_evaluated : longSample.Evaluated where
  fits := by decide +kernel
  unique := by decide +kernel
  common := by decide +kernel
  preview := by decide +kernel
  preflight := by decide +kernel
  crosschecked := by decide +kernel
  hashed := by decide +kernel
  parsed := by decide +kernel
  finite := by decide +kernel

theorem Sample.plain (sample : Sample) (text : 0 ∉ textBytes (sampleText sample.path)) :
    PlainCanonicalJson sample.decoder := by
  intro manifest bytes encoded
  obtain rfl := Option.some.inj encoded
  refine ⟨fun empty => ?_, text⟩
  have first : (textBytes (sampleText sample.path)).head? = some 0x7B := rfl
  rw [empty] at first
  exact nomatch first

/-- An archive that passes the integrity checks is issued a receipt, and opened, exactly when it is
addressable. -/
theorem receipt_covers_iff (decoder : CartridgeDecoder) (file : ByteStream)
    (limits : ValidationLimits) (evidence : IntegrityEvidence) (plain : PlainCanonicalJson decoder)
    (collected : collectIntegrityEvidence decoder file limits = .ok evidence) :
    ((∃ receipt, fromValidatedParts evidence.receipt evidence.manifestEntry
        evidence.manifestSha256 evidence.payloadEntry evidence.inspection.safetensors =
          .ok receipt) ↔ evidence.Addressable) ∧
      ((∃ cartridge, openIntegrityValidated decoder file limits = .ok cartridge) ↔
        evidence.Addressable) := by
  obtain ⟨payload, established⟩ :=
    collectIntegrityEvidence_established decoder file limits evidence plain collected
  have sound := described_sound evidence file.bytes limits payload established
  have issued : (∃ receipt, evidence.accessReceipt = .ok receipt) ↔ evidence.Addressable := by
    rw [← sound]
    constructor
    · rintro ⟨receipt, issued⟩
      exact ((accessReceipt_eq_ok _ _ _ _ _ established).mp issued).2
    · intro described
      exact ⟨_, (accessReceipt_eq_ok _ _ _ _ _ established).mpr ⟨rfl, described⟩⟩
  refine ⟨issued, ?_⟩
  rw [← issued]
  constructor
  · rintro ⟨cartridge, opened⟩
    obtain ⟨found, receipt, again, accessed, -⟩ := (openIntegrityValidated_eq_ok ..).mp opened
    obtain rfl := Except.ok.inj (collected.symm.trans again)
    exact ⟨receipt, accessed⟩
  · rintro ⟨receipt, accessed⟩
    exact ⟨_, (openIntegrityValidated_eq_ok ..).mpr ⟨evidence, receipt, collected, accessed, rfl⟩⟩

/-- The H3 sample is issued a receipt. -/
theorem h3_receipt_issued : ∃ receipt, fromValidatedParts h3Sample.evidence.receipt
    h3Sample.evidence.manifestEntry h3Sample.evidence.manifestSha256
    h3Sample.evidence.payloadEntry h3Sample.evidence.inspection.safetensors = .ok receipt :=
  (receipt_covers_iff h3Sample.decoder (h3Sample.file 4096) .specification h3Sample.evidence
    (h3Sample.plain (by decide +kernel)) (h3_evaluated.collected 4096)).1.mpr
    ⟨by decide, by decide +kernel⟩

/-- Not every archive that passes the integrity checks is issued a receipt: the sample with the
long path is not. -/
theorem long_path_refused : ¬ ∀ (decoder : CartridgeDecoder) (file : ByteStream)
    (limits : ValidationLimits) (evidence : IntegrityEvidence), PlainCanonicalJson decoder →
    collectIntegrityEvidence decoder file limits = .ok evidence →
    ∃ receipt, fromValidatedParts evidence.receipt evidence.manifestEntry
      evidence.manifestSha256 evidence.payloadEntry evidence.inspection.safetensors =
        .ok receipt := by
  intro issues
  have plain := longSample.plain (by decide +kernel)
  have collected := long_evaluated.collected 4096
  obtain ⟨payload, established⟩ :=
    collectIntegrityEvidence_established _ _ _ _ plain collected
  obtain ⟨receipt, issued⟩ := issues _ _ _ _ plain collected
  have sound := ((accessReceipt_eq_ok _ _ _ _ _ established).mp issued).2
  have short := ((described_sound _ _ _ _ established).mp sound).path
  exact absurd short (by decide +kernel)

end LatentDeck.Archive
