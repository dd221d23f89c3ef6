import LatentDeck.Archive.Agreement

/-!
# Resampling

A resampled cartridge is built around a spool that the operators of a deck have written: the
manifest takes its tensors and timing from the spool and its genealogy from the request. What is
built passes the checks that the writer makes of it.
-/

namespace LatentDeck.Archive

open Checked Fallible Json

def resampleProducer : String := "latentdeck-resample"
def resampleProducerVersion : String := "0.1.0"
def captureModeControl : String := "capture_mode"

inductive CaptureMode where
  | snapshot
  | liveCapture
  deriving DecidableEq

def CaptureMode.asStr : CaptureMode → String
  | .snapshot => "snapshot"
  | .liveCapture => "live_capture"

/-- `PayloadExpectation` — what the worker reported of its spool. -/
structure PayloadExpectation where
  byteLength : Nat
  sha256 : Sha256Digest

structure ResampleManifestRequest where
  cartridgeId : CartridgeId
  expectedPayload : PayloadExpectation
  captureMode : CaptureMode
  audio : AudioDisposition
  parentCartridges : List ParentCartridge
  operatorId : Identifier
  operatorVersion : String
  seed : Nat
  controls : SortedMap String Value

/-- `audio_source`, which is `audio_source_cartridge` once more. -/
def audioSource (audio : AudioDisposition) : Option SourceCartridgeRef := audioSourceCartridge audio

/-- Whether a parent is the source of the audio. -/
def isSource (source : SourceCartridgeRef) (parent : ParentCartridge) : Bool :=
  parent.cartridgeId = source.cartridgeId ∧ parent.archiveSha256 = source.archiveSha256

def validateRequest (request : ResampleManifestRequest) : Except CartridgeError Unit := do
  refuseWhen ((request.controls.lookup captureModeControl).isSome)
    (manifestError .manifestInvalid "capture_mode is reserved resample provenance"
      "/operation_history/0/controls/capture_mode")
  refuseWhen (request.parentCartridges = [])
    (manifestError .manifestInvalid "resampled cartridge requires at least one parent"
      "/parent_cartridges")
  refuseWhen (request.audio = .preservedSource)
    (manifestError .manifestInvalid
      "resampling must record copied, omitted, or absent audio explicitly" "/audio/policy")
  refuseWhen (request.captureMode = .snapshot ∧
      request.audio matches .omittedTimingMismatch _ _)
    (manifestError .timingMismatch "snapshot audio cannot be omitted for a timing mismatch"
      "/audio/policy")
  checkOptional (fun source =>
    refuseWhen (¬ request.parentCartridges.any (isSource source))
      (manifestError .manifestInvalid
        "audio source cartridge must be one of the declared parents" "/audio/source_cartridge"))
    (audioSource request.audio)

def bindPayloadExpectationAt (expected : PayloadExpectation) (measured : MeasuredHash)
    (entry : String) : Except CartridgeError Unit := do
  let _ ← Sha256Hash.parse expected.sha256
  refuseWhen (expected.byteLength ≠ measured.byteLength ∨
      expected.sha256 ≠ measured.sha256.display)
    ((CartridgeError.new .payloadHashMismatch
      "resample spool changed after worker finalization").atEntry entry)

def bindPayloadExpectation (expected : PayloadExpectation) (measured : MeasuredHash) :
    Except CartridgeError Unit :=
  bindPayloadExpectationAt expected measured payloadPath

def inspectPayload (decoder : CartridgeDecoder) (spool : List UInt8) (byteLength : Nat) :
    Except CartridgeError H3SafetensorsPreflight := do
  let preflight ← preflightH3Safetensors decoder.toHeaderDecoder spool ⟨0, byteLength⟩
    .specification
  scanH3SafetensorsFinite spool ⟨0, byteLength⟩ preflight
  return preflight

def validateAudioPolicy (request : ResampleManifestRequest) (preflight : H3SafetensorsPreflight) :
    Except CartridgeError Unit :=
  refuseWhen (request.audio.requiresAudioTensor ≠ preflight.audio.isSome)
    (manifestError .tensorDescriptorMismatch
      "resample audio policy contradicts the spool tensor set" "/audio/policy")

def decodedAxis (latentAxis : Nat) : Except CartridgeError Nat :=
  orError ((checkedMul latentAxis 16).filter fun value => value ≤ u32Max ∧ value > 0)
    (tensorError .decodedGeometryMismatch "resample decoded geometry is invalid" "video")

def provenanceSources (parents : List ParentCartridge) : List ProvenanceSource :=
  parents.map fun parent => {
    kind := "latent_cartridge"
    sha256 := some parent.archiveSha256
    uri := none
    license := none
    metadata := some ((SortedMap.empty.insert "cartridge_id" (.string parent.cartridgeId)).insert
      "role" (.string parent.role)) }

/-- The descriptor of a tensor of the spool; its runtime type is its storage type. -/
def spoolTensor (stream : TensorStream) (name : Identifier) (dtype : DType) (shape : List Nat) :
    TensorDescriptor where
  stream
  name
  payload := payloadPath
  storageDtype := dtype
  runtimeDtype := dtype
  shape

/-- The tensors of `manifest_from_preflight`. -/
def spoolTensors (preflight : H3SafetensorsPreflight) : List TensorDescriptor :=
  spoolTensor .visual "video" .f16 preflight.video.shape ::
    preflight.audio.toList.map fun audio =>
      spoolTensor .audio "audio" audio.dtype.manifestDType audio.shape

def manifestFromPreflight (request : ResampleManifestRequest) (preflight : H3SafetensorsPreflight)
    (measured : MeasuredHash) : Except CartridgeError ManifestV0_1 := do
  let decodedFrames ← decodedFrameCount (preflight.video.shape.getD 2 0)
  let decodedHeight ← decodedAxis (preflight.video.shape.getD 3 0)
  let decodedWidth ← decodedAxis (preflight.video.shape.getD 4 0)
  let duration ← orError (Rational.reduced decodedFrames 24)
    (.new .timingMismatch "resample duration is invalid")
  return {
    specVersion := lcSpecVersion
    cartridgeId := request.cartridgeId
    codec := ⟨codecFamily, h3Profile, profileVersion⟩
    payloads := [⟨payloadPath, payloadMediaType, measured.byteLength, measured.sha256.display⟩]
    tensors := spoolTensors preflight
    timing := ⟨timingContract, timingContractVersion,
      ⟨decodedWidth, decodedHeight, decodedFrames, ⟨24, 1⟩, duration⟩⟩
    audio := request.audio
    preview := none
    provenance := ⟨⟨resampleProducer, resampleProducerVersion⟩, none,
      provenanceSources request.parentCartridges⟩
    parentCartridges := request.parentCartridges
    operationHistory := [⟨request.operatorId, request.operatorVersion, request.seed,
      request.controls.insert captureModeControl (.string request.captureMode.asStr)⟩] }

/-- `build_resample_manifest`, of a spool that does not change meanwhile. -/
def buildResampleManifest (decoder : CartridgeDecoder) (request : ResampleManifestRequest)
    (spool : List UInt8) : Except CartridgeError ManifestV0_1 := do
  validateRequest request
  let measured := hashReader decoder.sha256 spool
  bindPayloadExpectation request.expectedPayload measured
  let preflight ← inspectPayload decoder spool measured.byteLength
  refuseWhen (preflight.video.dtype ≠ .f16)
    (tensorError .tensorDtypeForbidden
      "resampled post-operator visual storage dtype must be F16" "video")
  validateAudioPolicy request preflight
  let manifest ← manifestFromPreflight request preflight measured
  manifest.validateCommon decoder.toManifestDecoder .specification
  let _ ← validateProfile decoder.toManifestDecoder manifest .specification
  return manifest

structure SourceMeasurement where
  byteLength : Nat
  sha256 : Sha256Hash
  crc32 : UInt32

/-- `measure_source` — a source is measured to its end. -/
def measureSource (decoder : CartridgeDecoder) (source : List UInt8) : SourceMeasurement where
  byteLength := source.length
  sha256 := decoder.sha256 source
  crc32 := decoder.checksum.hash source

def verifyDeclaredSource (declaredLength : Nat) (declaredSha256 : Sha256Digest)
    (measured : SourceMeasurement) (entry pointer : String) : Except CartridgeError Unit := do
  let expected ← (Sha256Hash.parse declaredSha256).mapError fun error =>
    error.atJson (pointer ++ "/sha256")
  refuseWhen (measured.byteLength ≠ declaredLength ∨ measured.sha256 ≠ expected)
    (((CartridgeError.new .payloadHashMismatch
      "source bytes do not match their manifest descriptor").atEntry entry).atJson pointer)

/-- `PackRequest`, with the bytes of its sources. -/
structure PackRequest where
  manifest : ManifestV0_1
  payload : List UInt8
  preview : Option (List UInt8)

def preparePreview (decoder : CartridgeDecoder) (request : PackRequest) :
    Except CartridgeError (Option SourceMeasurement) :=
  match request.manifest.preview, request.preview with
  | none, none => .ok none
  | some _, none => .error ((CartridgeError.new .entryMissing
      "manifest preview has no source file").atEntry optionalPreviewName)
  | none, some _ => .error ((CartridgeError.new .entryUnexpected
      "preview source has no manifest descriptor").atEntry optionalPreviewName)
  | some descriptor, some source => do
      let measurement := measureSource decoder source
      verifyDeclaredSource descriptor.byteLength descriptor.sha256 measurement optionalPreviewName
        "/preview"
      refuseWhen (descriptor.path ≠ optionalPreviewName ∨ descriptor.mediaType ≠ "image/webp")
        (manifestError .manifestInvalid "preview descriptor path or media type is invalid"
          "/preview")
      let info ← inspectWebp source
      refuseWhen (info.width ≠ descriptor.width ∨ info.height ≠ descriptor.height)
        (manifestError .manifestInvalid "preview source dimensions differ from the manifest"
          "/preview")
      return some measurement

structure PreparedSources where
  payloadMeasurement : SourceMeasurement
  previewMeasurement : Option SourceMeasurement
  payloadEntry : String
  manifestBytes : List UInt8

def prepareSources (decoder : CartridgeDecoder) (request : PackRequest) :
    Except CartridgeError PreparedSources := do
  request.manifest.validateCommon decoder.toManifestDecoder .specification
  let payloadDescriptor ← orError request.manifest.payloads.head?
    (manifestError .manifestInvalid "manifest has no payload descriptor" "/payloads")
  refuseWhen (request.manifest.payloads.length ≠ 1 ∨
      payloadDescriptor.mediaType ≠ "application/vnd.safetensors")
    (manifestError .manifestInvalid "manifest must describe exactly one Safetensors payload"
      "/payloads")
  let payloadRange : EntryRange := ⟨0, request.payload.length⟩
  let preflight ← preflightSafetensors decoder.toHeaderDecoder request.payload payloadRange
    payloadDescriptor.path .specification
  scanSafetensorsFinite request.payload payloadRange payloadDescriptor.path preflight
  crosscheckIntegrityTensorDescriptors request.manifest.tensors payloadDescriptor.path preflight
  let payloadMeasurement := measureSource decoder request.payload
  verifyDeclaredSource payloadDescriptor.byteLength payloadDescriptor.sha256 payloadMeasurement
    payloadDescriptor.path "/payloads/0"
  let previewMeasurement ← preparePreview decoder request
  let manifestBytes ← canonicalManifestBytes decoder.toManifestDecoder request.manifest
  return { payloadMeasurement, previewMeasurement, payloadEntry := payloadDescriptor.path,
           manifestBytes }

/-- What `pack_atomic` checks before it writes. -/
def packAtomicSources (decoder : CartridgeDecoder) (request : PackRequest) :
    Except CartridgeError PreparedSources := do
  let _ ← validateProfile decoder.toManifestDecoder request.manifest .specification
  prepareSources decoder request

theorem validateRequest_source (request : ResampleManifestRequest)
    (accepted : validateRequest request = .ok ()) :
    request.parentCartridges ≠ [] ∧
      ∀ source, audioSource request.audio = some source →
        ∃ parent ∈ request.parentCartridges,
          parent.cartridgeId = source.cartridgeId ∧
            parent.archiveSha256 = source.archiveSha256 := by
  rw [validateRequest, check_eq_ok, check_eq_ok, check_eq_ok, check_eq_ok] at accepted
  have parents := (refuseWhen_eq_ok ..).mp accepted.2.1
  have last := accepted.2.2.2.2
  constructor
  · exact parents
  · intro source found
    rw [found, checkOptional, refuseWhen_eq_ok, not_not, List.any_eq_true] at last
    obtain ⟨parent, member, same⟩ := last
    exact ⟨parent, member, of_decide_eq_true same⟩

variable {decoder : CartridgeDecoder} {request : ResampleManifestRequest} {spool : List UInt8}
  {manifest : ManifestV0_1}

structure ResampleManifestRequest.Builds (request : ResampleManifestRequest)
    (decoder : CartridgeDecoder) (spool : List UInt8) (manifest : ManifestV0_1)
    (preflight : H3SafetensorsPreflight) : Prop where
  accepted : validateRequest request = .ok ()
  expected : bindPayloadExpectation request.expectedPayload (hashReader decoder.sha256 spool) =
    .ok ()
  preflighted : preflightH3Safetensors decoder.toHeaderDecoder spool ⟨0, spool.length⟩
    .specification = .ok preflight
  finite : scanH3SafetensorsFinite spool ⟨0, spool.length⟩ preflight = .ok ()
  dtype : preflight.video.dtype = .f16
  audio : request.audio.requiresAudioTensor = preflight.audio.isSome
  assembled : manifestFromPreflight request preflight (hashReader decoder.sha256 spool) =
    .ok manifest
  common : manifest.validateCommon decoder.toManifestDecoder .specification = .ok ()
  profile : ∃ profile, validateProfile decoder.toManifestDecoder manifest .specification =
    .ok profile

/-- A built manifest came about by each of the steps. -/
theorem buildResampleManifest_ok
    (built : buildResampleManifest decoder request spool = .ok manifest) :
    ∃ preflight, request.Builds decoder spool manifest preflight := by
  rw [buildResampleManifest, check_eq_ok, check_eq_ok, bind_eq_ok] at built
  obtain ⟨accepted, expected, preflight, inspected, built⟩ := built
  rw [inspectPayload, bind_eq_ok] at inspected
  obtain ⟨found, preflighted, inspected⟩ := inspected
  rw [check_eq_ok] at inspected
  obtain ⟨finite, same⟩ := inspected
  cases same
  rw [check_eq_ok, refuseWhen_eq_ok, not_not, check_eq_ok, validateAudioPolicy, refuseWhen_eq_ok,
    not_not, bind_eq_ok] at built
  obtain ⟨dtype, audio, result, assembled, built⟩ := built
  rw [check_eq_ok, bind_eq_ok] at built
  obtain ⟨common, profile, profiled, same⟩ := built
  cases same
  exact ⟨preflight, accepted, expected, preflighted, finite, dtype, audio, assembled, common,
    profile, profiled⟩

variable {preflight : H3SafetensorsPreflight}

/-- What the manifest takes from the request and the spool. -/
theorem manifestFromPreflight_ok {measured : MeasuredHash}
    (assembled : manifestFromPreflight request preflight measured = .ok manifest) :
    manifest.payloads =
        [⟨payloadPath, payloadMediaType, measured.byteLength, measured.sha256.display⟩] ∧
      manifest.tensors = spoolTensors preflight ∧ manifest.audio = request.audio ∧
      manifest.preview = none ∧
      manifest.provenance.sources = provenanceSources request.parentCartridges ∧
      manifest.parentCartridges = request.parentCartridges := by
  rw [manifestFromPreflight, bind_eq_ok] at assembled
  obtain ⟨frames, -, assembled⟩ := assembled
  obtain ⟨height, -, assembled⟩ := ok_of_bind assembled
  obtain ⟨width, -, assembled⟩ := ok_of_bind assembled
  obtain ⟨duration, -, same⟩ := ok_of_bind assembled
  cases same
  exact ⟨rfl, rfl, rfl, rfl, rfl, rfl⟩

theorem audioTensor_spool (preflight : H3SafetensorsPreflight) :
    (audioTensor (spoolTensors preflight)).isSome = preflight.audio.isSome := by
  cases audio : preflight.audio <;> simp [audioTensor, spoolTensors, spoolTensor, audio]

/-- The tensors of a spool are those that the profile knows. -/
theorem spoolTensors_known (preflight : H3SafetensorsPreflight) :
    validateTensorSet (spoolTensors preflight) = .ok () ∧
      (spoolTensors preflight).length ≤ maxTensors := by
  have known : ∀ tensor : TensorDescriptor, tensor.payload = payloadPath →
      knownTensor tensor = true → validateKnownTensor tensor = .ok () := by
    intro tensor payload known
    rw [validateKnownTensor, check_eq_ok, refuseWhen_eq_ok, refuseWhen_eq_ok, not_not, not_not]
    exact ⟨payload, known⟩
  constructor
  · rw [validateTensorSet, checkEach_eq_ok]
    intro tensor member
    rcases List.mem_cons.mp member with rfl | later
    · exact known _ rfl rfl
    · obtain ⟨audio, -, same⟩ := List.mem_map.mp later
      rw [← same]
      exact known _ rfl rfl
  · cases audio : preflight.audio <;> simp [spoolTensors, audio, maxTensors]

theorem H3SafetensorsPreflight.Checked.named {header : HeaderRead} {entry : EntryRange}
    {limits : ValidationLimits} (checked : preflight.Checked header entry limits) :
    preflight.video.name = "video" ∧
      ∀ audio, preflight.audio = some audio → audio.name = "audio" := by
  obtain ⟨raw, -, accepted⟩ := checked.video
  have video := (validateCommon_ok _ _ _ _ (validateVideo_ok _ _ _ accepted).1).1
  have audio : ∀ audio, preflight.audio = some audio → audio.name = "audio" := by
    intro audio present
    obtain ⟨raw, -, accepted⟩ := (checked.audio_iff audio).mp present
    exact (validateCommon_ok _ _ _ _ (validateAudio_ok _ _ _ accepted).1).1
  exact ⟨video, audio⟩

/-- They agree with the structure they are taken from. -/
theorem crosscheck_spoolTensors (preflight : H3SafetensorsPreflight)
    (dtype : preflight.video.dtype = .f16) (video : preflight.video.name = "video")
    (named : ∀ audio, preflight.audio = some audio → audio.name = "audio") :
    crosscheckTensorDescriptors (spoolTensors preflight) preflight = .ok () := by
  have only : exactlyOneManifestTensor (spoolTensors preflight) .visual "video" =
      .ok (spoolTensor .visual "video" .f16 preflight.video.shape) := by
    rw [exactlyOneManifestTensor, exactlyOne_eq_ok]
    cases audio : preflight.audio <;> simp [spoolTensors, spoolTensor, audio]
  have matching : crosscheckTensor (spoolTensor .visual "video" .f16 preflight.video.shape)
      preflight.video = .ok () := by
    rw [crosscheckTensor, refuseWhen_eq_ok, video, dtype]
    simp [spoolTensor, SafetensorDType.manifestDType, payloadPath, h3EntryName]
  rw [crosscheckTensorDescriptors, bind_eq_ok]
  refine ⟨_, only, ?_⟩
  rw [check_eq_ok]
  refine ⟨matching, ?_⟩
  cases audio : preflight.audio with
  | none =>
    have absent : audioTensor (spoolTensors preflight) = none := by
      simp [audioTensor, spoolTensors, spoolTensor, audio]
    rw [absent]
  | some header =>
    have present : audioTensor (spoolTensors preflight) =
        some (spoolTensor .audio "audio" header.dtype.manifestDType header.shape) := by
      simp [audioTensor, spoolTensors, spoolTensor, audio]
    rw [present]
    dsimp only
    rw [crosscheckTensor, refuseWhen_eq_ok, named header audio]
    simp [spoolTensor, payloadPath, h3EntryName]

theorem verifyDeclaredSource_spool (decoder : CartridgeDecoder) (spool : List UInt8)
    (entry pointer : String) :
    verifyDeclaredSource spool.length (decoder.sha256 spool).display (measureSource decoder spool)
      entry pointer = .ok () := by
  rw [verifyDeclaredSource, bind_eq_ok]
  refine ⟨decoder.sha256 spool, ?_, ?_⟩
  · rw [mapError_eq_ok]
    exact Sha256Hash.parse_display _
  · rw [refuseWhen_eq_ok]
    simp [measureSource]

/-- The writer prepares the sources of a manifest that was built. -/
theorem prepareSources_of_builds (builds : request.Builds decoder spool manifest preflight)
    (text : List UInt8)
    (encoded : canonicalManifestBytes decoder.toManifestDecoder manifest = .ok text) :
    prepareSources decoder ⟨manifest, spool, none⟩ = .ok {
      payloadMeasurement := measureSource decoder spool
      previewMeasurement := none
      payloadEntry := payloadPath
      manifestBytes := text } := by
  obtain ⟨payloads, tensors, -, preview, -, -⟩ := manifestFromPreflight_ok builds.assembled
  obtain ⟨header, -, checked⟩ := preflightH3Safetensors_ok _ _ _ _ _ builds.preflighted
  obtain ⟨⟨generic, accepted, agrees⟩, admitted⟩ :=
    preflightSafetensors_of_h3 _ _ _ _ _ builds.preflighted
  obtain ⟨known, few⟩ := spoolTensors_known preflight
  have entryName : h3EntryName = payloadPath := rfl
  have crosschecked := crosscheck_of_h3 (spoolTensors preflight) preflight generic agrees few known
    (crosscheck_spoolTensors preflight builds.dtype checked.named.1 checked.named.2)
  have scanned := scanSafetensorsFinite_of_h3 _ _ _ _ _ agrees admitted builds.finite
  rw [entryName] at accepted crosschecked scanned
  rw [prepareSources, check_eq_ok, bind_eq_ok]
  refine ⟨builds.common, _, (orError_eq_ok ..).mpr (by rw [payloads]; rfl), ?_⟩
  rw [check_eq_ok, refuseWhen_eq_ok, payloads]
  refine ⟨by simp [payloadMediaType], ?_⟩
  dsimp only
  rw [bind_eq_ok]
  refine ⟨generic, accepted, ?_⟩
  rw [check_eq_ok, check_eq_ok, check_eq_ok, tensors]
  refine ⟨scanned, crosschecked, verifyDeclaredSource_spool decoder spool _ _, ?_⟩
  rw [bind_eq_ok]
  refine ⟨none, by rw [preparePreview, preview], ?_⟩
  rw [bind_eq_ok]
  exact ⟨text, encoded, rfl⟩

theorem validateCommon_parents (manifest : ManifestV0_1) (decoder : ManifestDecoder)
    (limits : ValidationLimits) (accepted : manifest.validateCommon decoder limits = .ok ()) :
    manifest.parentCartridges.length ≤ limits.parentCartridges.val ∧
      manifest.provenance.sources.length ≤ limits.provenanceSources.val := by
  rw [ManifestV0_1.validateCommon, check_eq_ok, validateManifestShape, check_eq_ok, check_eq_ok,
    check_eq_ok, check_eq_ok, check_eq_ok, check_eq_ok] at accepted
  obtain ⟨⟨-, -, -, -, parents, -, sources⟩, -⟩ := accepted
  rw [ensureMaxCount, refuseWhen_eq_ok, Nat.not_lt] at parents sources
  exact ⟨parents, sources⟩

/-- A manifest that meets what it is packed under, with the genealogy that was asked for. -/
structure ResampleManifestRequest.Closed (request : ResampleManifestRequest)
    (decoder : CartridgeDecoder) (spool : List UInt8) (manifest : ManifestV0_1) : Prop where
  common : manifest.validateCommon decoder.toManifestDecoder .specification = .ok ()
  profile : ∃ profile, validateProfile decoder.toManifestDecoder manifest .specification =
    .ok profile
  /-- Once it has a canonical text, the writer has nothing against the manifest and the spool. -/
  packed : ∀ text, canonicalManifestBytes decoder.toManifestDecoder manifest = .ok text →
    ∃ prepared, packAtomicSources decoder ⟨manifest, spool, none⟩ = .ok prepared ∧
      prepared.manifestBytes = text
  parents : manifest.parentCartridges = request.parentCartridges
  provenance : manifest.provenance.sources = provenanceSources request.parentCartridges
  nonempty : manifest.parentCartridges ≠ []
  few : manifest.parentCartridges.length ≤ min maxParentCartridges maxProvenanceSources
  source : ∀ source, audioSourceCartridge manifest.audio = some source →
    ∃ parent ∈ manifest.parentCartridges,
      parent.cartridgeId = source.cartridgeId ∧ parent.archiveSha256 = source.archiveSha256
  /-- Audio is declared, by the policy and by the tensors, when the spool has the audio tensor. -/
  audio : ∃ preflight, preflightH3Safetensors decoder.toHeaderDecoder spool ⟨0, spool.length⟩
      .specification = .ok preflight ∧
    manifest.audio.requiresAudioTensor = preflight.audio.isSome ∧
    (audioTensor manifest.tensors).isSome = preflight.audio.isSome

/-- A resampled manifest is closed under the rules that it is packed under. -/
theorem resample_manifest_closed (decoder : CartridgeDecoder) (request : ResampleManifestRequest)
    (spool : List UInt8) (manifest : ManifestV0_1)
    (built : buildResampleManifest decoder request spool = .ok manifest) :
    request.Closed decoder spool manifest := by
  obtain ⟨preflight, builds⟩ := buildResampleManifest_ok built
  obtain ⟨-, tensors, audio, -, sources, parents⟩ := manifestFromPreflight_ok builds.assembled
  obtain ⟨nonempty, source⟩ := validateRequest_source request builds.accepted
  have counted := validateCommon_parents _ _ _ builds.common
  exact {
    common := builds.common
    profile := builds.profile
    packed := by
      intro text encoded
      obtain ⟨profile, profiled⟩ := builds.profile
      have prepared := prepareSources_of_builds builds text encoded
      have packed := packAtomicSources.eq_1 decoder ⟨manifest, spool, none⟩
      rw [profiled] at packed
      exact ⟨_, packed.trans prepared, rfl⟩
    parents
    provenance := sources
    nonempty := by rwa [parents]
    few := by
      rw [sources, provenanceSources, List.length_map, ← parents] at counted
      exact Nat.le_min.mpr counted
    source := by rwa [parents, audio]
    audio := by
      refine ⟨preflight, builds.preflighted, ?_, ?_⟩
      · rw [audio, builds.audio]
      · rw [tensors, audioTensor_spool] }

def doubledRequest : ResampleManifestRequest where
  cartridgeId := "550e8400-e29b-41d4-a716-446655440000"
  expectedPayload := ⟨176, samplePayloadSha256⟩
  captureMode := .snapshot
  audio := .sourceAbsent
  parentCartridges := List.replicate 2
    ⟨"550e8400-e29b-41d4-a716-446655440000", h3Sample.archiveSha256, "carrier"⟩
  operatorId := "blend"
  operatorVersion := "0.1.0"
  seed := 7
  controls := .empty

theorem doubledRequest_built : ∃ manifest,
    buildResampleManifest h3Sample.decoder doubledRequest samplePayload = .ok manifest :=
  ok_of_isSome (by decide +kernel)

/-- A built manifest is closed. -/
theorem doubled_manifest_closed : ∃ manifest,
    doubledRequest.Closed h3Sample.decoder samplePayload manifest := by
  obtain ⟨manifest, built⟩ := doubledRequest_built
  exact ⟨manifest, resample_manifest_closed _ _ _ _ built⟩

/-- Its genealogy has the source twice. -/
theorem doubled_source_repeated : ∃ manifest,
    buildResampleManifest h3Sample.decoder doubledRequest samplePayload = .ok manifest ∧
      ¬ (manifest.parentCartridges.map ParentCartridge.archiveSha256).Nodup := by
  obtain ⟨manifest, built⟩ := doubledRequest_built
  obtain ⟨preflight, builds⟩ := buildResampleManifest_ok built
  obtain ⟨-, -, -, -, -, parents⟩ := manifestFromPreflight_ok builds.assembled
  refine ⟨manifest, built, ?_⟩
  rw [parents]
  decide

end LatentDeck.Archive
