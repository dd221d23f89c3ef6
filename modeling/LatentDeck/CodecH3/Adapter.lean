import LatentDeck.Archive.Cadence
import LatentDeck.CodecHost.Contracts
import Mathlib.Algebra.Order.BigOperators.Group.List

/-!
# The H3 adapter

The adapter of the H3 codec pack reads the manifest of a retained cartridge again before it opens
its tensors, in another language than the reader that admitted the archive. Its profile and the
reader's are the same one up to the reader's ceilings, of which the adapter misses that of the audio
axis.
-/

namespace LatentDeck.CodecH3

open Archive Checked Fallible
open CodecHost (SignalGeometry isIdentifier isSha256)

structure CodecSdkError where
  code : String
  detail : String

def maxDecodedPixels : Nat := 16777216

structure TensorAccessDescriptor where
  name : String
  dtype : DType
  shape : List Nat
  byteLength : Nat

/-- `CartridgeAccess` — what the host retains of an archive after it checked its integrity. -/
structure CartridgeAccess where
  cartridgeId : BitVec 128
  archiveSha256 : String
  manifest : ManifestV0_1
  tensorDescriptor : String → Except CodecSdkError TensorAccessDescriptor

structure H3Profile where
  cartridgeId : BitVec 128
  archiveSha256 : String
  payloadSha256 : String
  geometry : SignalGeometry
  video : TensorAccessDescriptor
  audio : Option TensorAccessDescriptor

/-- `_uuid_value`. Other texts of a UUID than the canonical one are refused, so the parser and the
printer are those of the manifest. -/
def uuidValue (decoder : ManifestDecoder) (value label : String) :
    Except CodecSdkError (BitVec 128) := do
  let parsed ← orError (decoder.uuid value) ⟨"profile.schema", label ++ " is not a UUID"⟩
  refuseWhen (parsed = 0 ∨ decoder.hyphenated parsed ≠ value)
    ⟨"profile.schema", label ++ " is not canonical"⟩
  return parsed

def canonicalSha256 (value label : String) : Except CodecSdkError Unit :=
  refuseWhen (¬ isSha256 value) ⟨"profile.hash", label ++ " is not a canonical SHA-256"⟩

def positiveInt (label : String) (value : Nat) : Except CodecSdkError Unit :=
  refuseWhen (value = 0) ⟨"profile.schema", label ++ " must be a positive integer"⟩

/-- `_shape`. -/
def checkShape (value : List Nat) (rank : Nat) (label : String) : Except CodecSdkError Unit := do
  refuseWhen (value.length ≠ rank) ⟨"profile.tensor", label ++ " rank is invalid"⟩
  checkEach (positiveInt label) value

def reduced (numerator denominator : Nat) : Rational :=
  let divisor := Nat.gcd numerator denominator
  ⟨numerator / divisor, denominator / divisor⟩

def TensorAccessDescriptor.validate (descriptor : TensorAccessDescriptor) :
    Except CodecSdkError Unit := do
  refuseWhen (¬ isIdentifier descriptor.name)
    ⟨"identity.invalid", "tensor name is not a bounded identifier"⟩
  let byteWidth ← orError descriptor.dtype.byteWidth
    ⟨"tensor.storage_dtype", "storage dtype must be F16 or F32"⟩
  refuseWhen (¬ (1 ≤ descriptor.shape.length ∧ descriptor.shape.length ≤ 8) ∨
      0 ∈ descriptor.shape)
    ⟨"tensor.storage_shape", "storage shape must have 1..8 axes"⟩
  refuseWhen (descriptor.byteLength = 0 ∨ descriptor.byteLength ≠ descriptor.shape.prod * byteWidth)
    ⟨"tensor.storage_length", "storage byte length does not match dtype and shape"⟩

/-- The identity of the cartridge and of its codec. -/
def inspectIdentity (decoder : ManifestDecoder) (access : CartridgeAccess) :
    Except CodecSdkError Unit := do
  refuseWhen (access.cartridgeId = 0)
    ⟨"profile.cartridge_id", "retained cartridge identity is invalid"⟩
  canonicalSha256 access.archiveSha256 "archive_sha256"
  let manifestId ← uuidValue decoder access.manifest.cartridgeId "manifest cartridge_id"
  refuseWhen (manifestId ≠ access.cartridgeId)
    ⟨"profile.cartridge_id", "manifest and retained identity disagree"⟩
  refuseWhen (access.manifest.codec ≠ ⟨codecFamily, h3Profile, profileVersion⟩)
    ⟨"profile.unsupported", "cartridge is not MiniMax H3 Profile 0.1"⟩

def inspectPayload : List PayloadDescriptor → Except CodecSdkError PayloadDescriptor
  | [payload] => do
      refuseWhen (payload.path ≠ payloadPath ∨ payload.mediaType ≠ payloadMediaType)
        ⟨"profile.payload", "H3 payload identity is invalid"⟩
      canonicalSha256 payload.sha256 "payload sha256"
      positiveInt "payload byte_length" payload.byteLength
      return payload
  | _ => .error ⟨"profile.payload", "H3 requires exactly one payload"⟩

/-- `by_name.get`. -/
def byName (tensors : List TensorDescriptor) (name : String) : Option TensorDescriptor :=
  tensors.find? fun tensor => tensor.name = name

/-- The names of the tensors, of which it returns the video. -/
def inspectTensors (tensors : List TensorDescriptor) : Except CodecSdkError TensorDescriptor := do
  refuseWhen (¬ (tensors.map TensorDescriptor.name).Nodup)
    ⟨"profile.tensor", "H3 tensor names must be unique"⟩
  refuseWhen (∃ tensor ∈ tensors, tensor.name ≠ "video" ∧ tensor.name ≠ "audio")
    ⟨"profile.tensor", "H3 permits only video and optional audio"⟩
  orError (byName tensors "video") ⟨"profile.tensor", "H3 permits only video and optional audio"⟩

def inspectVideo (video : TensorDescriptor) : Except CodecSdkError Unit := do
  checkShape video.shape 5 "video shape"
  refuseWhen (video.stream ≠ .visual ∨ video.payload ≠ payloadPath ∨
      ¬ video.storageDtype.isSupported ∨ video.runtimeDtype ≠ .f16 ∨
      video.shape.take 2 ≠ [1, 24] ∨
      ¬ (2 ≤ video.shape.getD 2 0 ∧ video.shape.getD 2 0 ≤ maxH3TemporalAxis) ∨
      (video.shape.getD 2 0 - 2) % 5 ≠ 0)
    ⟨"profile.video_invalid", "H3 video descriptor is invalid"⟩

def frameCount (latentSlots : Nat) : Nat := 5 + 17 * ((latentSlots - 2) / 5)

/-- The timing, against the shape of the video. -/
def inspectTiming (timing : Archive.TimingDescriptor) (shape : List Nat) :
    Except CodecSdkError Unit := do
  refuseWhen (timing.contract ≠ timingContract ∨ timing.contractVersion ≠ timingContractVersion)
    ⟨"profile.timing", "H3 causal timing identity is invalid"⟩
  let decoded := timing.decodedVideo
  let decodedHeight := shape.getD 3 0 * 16
  let decodedWidth := shape.getD 4 0 * 16
  refuseWhen (decodedHeight > maxH3DecodedAxis ∨ decodedWidth > maxH3DecodedAxis ∨
      decodedHeight * decodedWidth > maxDecodedPixels ∨
      decoded.height ≠ decodedHeight ∨ decoded.width ≠ decodedWidth)
    ⟨"profile.geometry", "H3 decoded geometry is invalid"⟩
  let frames := frameCount (shape.getD 2 0)
  refuseWhen (decoded.frameCount ≠ frames ∨ decoded.frameRate.numerator ≠ 24 ∨
      decoded.frameRate.denominator ≠ 1 ∨
      decoded.duration.numerator ≠ (reduced frames 24).numerator ∨
      decoded.duration.denominator ≠ (reduced frames 24).denominator)
    ⟨"profile.timing", "H3 frame cadence or duration is invalid"⟩

def inspectAudio (audio : TensorDescriptor) (frames : Nat) : Except CodecSdkError Unit := do
  checkShape audio.shape 4 "audio shape"
  refuseWhen (audio.stream ≠ .audio ∨ audio.payload ≠ payloadPath ∨
      ¬ audio.storageDtype.isSupported ∨ audio.runtimeDtype ≠ audio.storageDtype ∨
      audio.shape.take 3 ≠ [1, 32, 2] ∨ audio.shape.getD 3 0 ≠ (frames * 5 + 1) / 3)
    ⟨"profile.audio_invalid", "H3 audio descriptor is invalid"⟩

/-- The policies that `_validate_audio_disposition` allows with an audio tensor and without one. -/
def policyPermits : AudioDisposition → Bool → Bool
  | .preservedSource, present | .copiedFromCarrierExact _, present => present
  | .sourceAbsent, present | .omittedTimingMismatch _ _, present => !present

def validateAudioDisposition (audio : AudioDisposition) (present : Bool) :
    Except CodecSdkError Unit :=
  refuseWhen (¬ policyPermits audio present) ⟨"profile.audio_policy",
    if present then "audio tensor contradicts audio policy"
    else "missing audio contradicts audio policy"⟩

def retainedVideo (access : CartridgeAccess) (manifest : TensorDescriptor) :
    Except CodecSdkError TensorAccessDescriptor := do
  let video ← access.tensorDescriptor "video"
  video.validate
  refuseWhen (video.name ≠ "video")
    ⟨"profile.tensor", "validated video tensor identity disagrees"⟩
  refuseWhen (video.dtype ≠ manifest.storageDtype ∨ video.shape ≠ manifest.shape)
    ⟨"profile.tensor", "validated video tensor descriptor disagrees"⟩
  return video

def retainedAudio (access : CartridgeAccess) (manifest : TensorDescriptor) :
    Except CodecSdkError TensorAccessDescriptor := do
  let audio ← access.tensorDescriptor "audio"
  audio.validate
  refuseWhen (audio.name ≠ "audio" ∨ audio.dtype ≠ manifest.storageDtype ∨
      audio.shape ≠ manifest.shape)
    ⟨"profile.tensor", "validated audio tensor descriptor disagrees"⟩
  return audio

def optionally {α β : Type} (inspect : α → Except CodecSdkError β) :
    Option α → Except CodecSdkError (Option β)
  | none => .ok none
  | some value => do return some (← inspect value)

def h3Geometry (shape : List Nat) : SignalGeometry where
  channels := 24
  latentHeight := shape.getD 3 0
  latentWidth := shape.getD 4 0
  decodedHeight := shape.getD 3 0 * 16
  decodedWidth := shape.getD 4 0 * 16
  frameRateNumerator := 24
  frameRateDenominator := 1
  timingContract := timingContract
  timingContractVersion := timingContractVersion

def inspectH3Cartridge (decoder : ManifestDecoder) (access : CartridgeAccess) :
    Except CodecSdkError H3Profile := do
  inspectIdentity decoder access
  let payload ← inspectPayload access.manifest.payloads
  let visual ← inspectTensors access.manifest.tensors
  inspectVideo visual
  inspectTiming access.manifest.timing visual.shape
  let audioManifest := byName access.manifest.tensors "audio"
  let _ ← optionally (inspectAudio · (frameCount (visual.shape.getD 2 0))) audioManifest
  validateAudioDisposition access.manifest.audio audioManifest.isSome
  let video ← retainedVideo access visual
  let audio ← optionally (retainedAudio access) audioManifest
  return {
    cartridgeId := access.cartridgeId
    archiveSha256 := access.archiveSha256
    payloadSha256 := payload.sha256
    geometry := h3Geometry visual.shape
    video
    audio }

variable {decoder : ManifestDecoder} {access : CartridgeAccess} {limits : ValidationLimits}
  {manifest : ManifestV0_1} {payload : PayloadDescriptor} {tensors : List TensorDescriptor}
  {video : TensorDescriptor} {audio : Option TensorDescriptor} {visual : ValidatedVisual}
  {cycles : Nat}

theorem uuidValue_eq_ok (decoder : ManifestDecoder) (value label : String) (parsed : BitVec 128) :
    uuidValue decoder value label = .ok parsed ↔
      decoder.uuid value = some parsed ∧ parsed ≠ 0 ∧ decoder.hyphenated parsed = value := by
  rw [uuidValue, bind_eq_ok]
  simp only [orError_eq_ok, ↓check_eq_ok, refuseWhen_eq_ok, not_or, not_not, pure, Except.pure,
    Except.ok.injEq]
  constructor
  · intro accepted
    obtain ⟨found, there, exact, same⟩ := accepted
    cases same
    exact ⟨there, exact⟩
  · exact fun canonical => ⟨parsed, canonical.1, canonical.2, rfl⟩

/-- The identities are canonical and the same, and the codec is that of the profile. -/
theorem inspectIdentity_eq_ok (decoder : ManifestDecoder) (access : CartridgeAccess) :
    inspectIdentity decoder access = .ok () ↔
      (access.cartridgeId ≠ 0 ∧ isSha256 access.archiveSha256 = true ∧
        decoder.uuid access.manifest.cartridgeId = some access.cartridgeId ∧
        decoder.hyphenated access.cartridgeId = access.manifest.cartridgeId) ∧
      access.manifest.codec = ⟨codecFamily, h3Profile, profileVersion⟩ := by
  rw [inspectIdentity, check_eq_ok, check_eq_ok, bind_eq_ok]
  simp only [canonicalSha256, ↓check_eq_ok, refuseWhen_eq_ok, not_not, uuidValue_eq_ok]
  constructor
  · intro accepted
    obtain ⟨some, sha256, parsed, ⟨found, _, text⟩, same, codec⟩ := accepted
    cases same
    exact ⟨⟨some, sha256, found, text⟩, codec⟩
  · intro described
    obtain ⟨⟨some, sha256, found, text⟩, codec⟩ := described
    exact ⟨some, sha256, _, ⟨found, some, text⟩, rfl, codec⟩

structure H3Payload (payload : PayloadDescriptor) : Prop where
  path : payload.path = payloadPath
  mediaType : payload.mediaType = payloadMediaType
  sha256 : isSha256 payload.sha256 = true
  some : payload.byteLength ≠ 0

theorem inspectPayload_eq_ok (payloads : List PayloadDescriptor) (payload : PayloadDescriptor) :
    inspectPayload payloads = .ok payload ↔ payloads = [payload] ∧ H3Payload payload := by
  unfold inspectPayload
  split
  · rename_i only
    simp only [canonicalSha256, positiveInt, ↓check_eq_ok, refuseWhen_eq_ok, not_or, not_not, pure,
      Except.pure, Except.ok.injEq, List.cons.injEq, and_true]
    constructor
    · intro accepted
      obtain ⟨⟨path, mediaType⟩, sha256, some, same⟩ := accepted
      cases same
      exact ⟨rfl, path, mediaType, sha256, some⟩
    · intro described
      obtain ⟨same, exact⟩ := described
      cases same
      exact ⟨⟨exact.path, exact.mediaType⟩, exact.sha256, exact.some, rfl⟩
  · rename_i several
    exact ⟨nofun, fun described => absurd described.1 (several payload)⟩

/-- The tensors are a video and at most one audio tensor. -/
structure Streams (tensors : List TensorDescriptor) (video : TensorDescriptor)
    (audio : Option TensorDescriptor) : Prop where
  all : tensors.Perm (video :: audio.toList)
  video : video.name = "video"
  audio : ∀ tensor ∈ audio, tensor.name = "audio"

/-- Among distinct names a tensor is found by its name. -/
theorem byName_eq_some (distinct : (tensors.map TensorDescriptor.name).Nodup) (name : String)
    (tensor : TensorDescriptor) :
    byName tensors name = some tensor ↔ tensor ∈ tensors ∧ tensor.name = name := by
  constructor
  · intro found
    rw [byName] at found
    have tested := List.find?_some found
    exact ⟨List.mem_of_find?_eq_some found, of_decide_eq_true tested⟩
  · intro named
    cases found : byName tensors name with
    | none =>
      have absent := List.find?_eq_none.mp found tensor named.1
      exact absurd (decide_eq_true named.2) absent
    | some other =>
      rw [byName] at found
      have member := List.mem_of_find?_eq_some found
      have tested := List.find?_some found
      have same : other.name = name := of_decide_eq_true tested
      rw [List.inj_on_of_nodup_map distinct member named.1 (same.trans named.2.symm)]

theorem Streams.distinct (streams : Streams tensors video audio) :
    (tensors.map TensorDescriptor.name).Nodup := by
  have names := streams.all.map TensorDescriptor.name
  rw [names.nodup_iff]
  cases audio with
  | none => exact List.nodup_singleton _
  | some tensor => simp [streams.video, streams.audio tensor rfl]

theorem Streams.audio_byName (streams : Streams tensors video audio) :
    byName tensors "audio" = audio := by
  ext tensor
  rw [byName_eq_some streams.distinct, streams.all.mem_iff, List.mem_cons,
    Option.mem_toList]
  constructor
  · intro named
    rcases named.1 with same | heard
    · rw [same, streams.video] at named
      exact absurd named.2 (by decide)
    · exact heard
  · exact fun heard => ⟨.inr heard, streams.audio tensor heard⟩

/-- The check of the names accepts the two streams. -/
theorem inspectTensors_eq_ok (tensors : List TensorDescriptor) (video : TensorDescriptor) :
    inspectTensors tensors = .ok video ↔ Streams tensors video (byName tensors "audio") := by
  rw [inspectTensors, check_eq_ok, check_eq_ok, refuseWhen_eq_ok, refuseWhen_eq_ok, not_not,
    orError_eq_ok]
  constructor
  · intro accepted
    obtain ⟨distinct, known, found⟩ := accepted
    obtain ⟨member, named⟩ := (byName_eq_some distinct _ _).mp found
    have heard : ∀ tensor ∈ byName tensors "audio", tensor.name = "audio" :=
      fun tensor there => ((byName_eq_some distinct _ _).mp there).2
    refine ⟨(List.perm_ext_iff_of_nodup (List.Nodup.of_map _ distinct) ?_).mpr fun tensor => ?_,
      named, heard⟩
    · rw [List.nodup_cons, Option.mem_toList]
      constructor
      · intro same
        rw [heard video same] at named
        exact absurd named (by decide)
      · cases byName tensors "audio" <;> simp
    · rw [List.mem_cons, Option.mem_toList, byName_eq_some distinct]
      constructor
      · intro inside
        by_cases audio : tensor.name = "audio"
        · exact .inr ⟨inside, audio⟩
        · left
          have name : tensor.name = "video" := by
            by_contra other
            exact known ⟨tensor, inside, other, audio⟩
          exact List.inj_on_of_nodup_map distinct inside member (name.trans named.symm)
      · intro either
        rcases either with same | audio
        · exact same ▸ member
        · exact audio.1
  · intro streams
    have distinct := streams.distinct
    refine ⟨distinct, fun other => ?_, (byName_eq_some distinct _ _).mpr
      ⟨streams.all.mem_iff.mpr List.mem_cons_self, streams.video⟩⟩
    obtain ⟨tensor, inside, silent, unheard⟩ := other
    rw [streams.all.mem_iff, List.mem_cons, Option.mem_toList] at inside
    rcases inside with same | heard
    · exact silent (same ▸ streams.video)
    · exact unheard (streams.audio tensor heard)

theorem checkShape_eq_ok (value : List Nat) (rank : Nat) (label : String) :
    checkShape value rank label = .ok () ↔ value.length = rank ∧ ∀ axis ∈ value, axis ≠ 0 := by
  rw [checkShape, check_eq_ok, refuseWhen_eq_ok, not_not, checkEach_eq_ok]
  simp only [positiveInt, refuseWhen_eq_ok, ne_eq]

theorem reduced_eq (numerator denominator : Nat) (some : numerator ≠ 0) (others : denominator ≠ 0) :
    Rational.reduced numerator denominator = .some (reduced numerator denominator) := by
  rw [Rational.reduced, if_neg (by omega)]
  rfl

/-- A tensor of a stream in the profile's payload. -/
structure InPayload (tensor : TensorDescriptor) (stream : TensorStream) : Prop where
  stream : tensor.stream = stream
  payload : tensor.payload = payloadPath
  storage : tensor.storageDtype.isSupported = true

/-- The visual clip of a manifest, with its timing. -/
structure Visual (manifest : ManifestV0_1) (video : TensorDescriptor) (visual : ValidatedVisual)
    (cycles : Nat) : Prop where
  stored : InPayload video .visual
  clip : VisualClip video manifest.timing.decodedVideo visual cycles .specification
  contract : manifest.timing.contract = timingContract ∧
    manifest.timing.contractVersion = timingContractVersion
  rate : manifest.timing.decodedVideo.frameRate = ⟨24, 1⟩
  duration : Rational.reduced visual.decodedFrameCount 24 =
    some manifest.timing.decodedVideo.duration

theorem frameCount_of_cycles (cycles : Nat) : frameCount (2 + 5 * cycles) = 5 + 17 * cycles := by
  unfold frameCount
  omega

/-- The checks of the video and its timing accept visual clips. -/
theorem inspectVisual_eq_ok (manifest : ManifestV0_1) (video : TensorDescriptor) :
    (inspectVideo video = .ok () ∧ inspectTiming manifest.timing video.shape = .ok ()) ↔
      ∃ visual cycles, Visual manifest video visual cycles := by
  rw [inspectVideo, check_eq_ok, checkShape_eq_ok, refuseWhen_eq_ok]
  dsimp only [inspectTiming]
  simp only [↓check_eq_ok, refuseWhen_eq_ok, not_or, not_not, Nat.not_lt]
  simp only [maxH3DecodedAxis, maxDecodedPixels, maxH3TemporalAxis]
  constructor
  · intro accepted
    obtain ⟨batch, channels, slots, tallness, broadness, shape⟩ :
        ∃ batch channels slots height width,
          video.shape = [batch, channels, slots, height, width] :=
      ⟨_, _, _, _, _, eq_five accepted.1.1.1⟩
    rw [shape] at accepted
    simp only [List.take_succ_cons, List.take_zero, List.cons.injEq, and_true, List.getD_cons_succ,
      List.getD_cons_zero, List.mem_cons, List.not_mem_nil, or_false, forall_eq_or_imp,
      forall_eq] at accepted
    obtain ⟨⟨⟨_, positive⟩, stream, payload, storage, runtime, front, ⟨two, bounded⟩, complete⟩,
      contract, ⟨tall, wide, _, height, width⟩, frames, rate, second, numerator, denominator⟩ :=
      accepted
    obtain ⟨cycles, exact⟩ : ∃ cycles, slots = 2 + 5 * cycles := ⟨(slots - 2) / 5, by omega⟩
    rw [exact, frameCount_of_cycles] at frames numerator denominator
    refine ⟨⟨slots, tallness, broadness, 5 + 17 * cycles, tallness * 16, broadness * 16⟩, cycles,
      ⟨stream, payload, storage⟩, ?_, contract, ?_, ?_⟩
    · exact {
        shape := by rw [shape, front.1, front.2]
        runtime
        slots := exact
        bounded
        frames := rfl
        declared := frames
        height := ⟨by dsimp only; omega, height.symm⟩
        width := ⟨by dsimp only; omega, width.symm⟩
        raster := ⟨⟨by omega, height.le.trans tall⟩, by omega, width.le.trans wide⟩ }
    · cases rated : manifest.timing.decodedVideo.frameRate
      rw [rated] at rate second
      exact congrArg₂ Rational.mk rate second
    · show Rational.reduced (5 + 17 * cycles) 24 = _
      rw [reduced_eq _ _ (by omega) (by decide)]
      cases lasting : manifest.timing.decodedVideo.duration
      rw [lasting] at numerator denominator
      exact congrArg some (congrArg₂ Rational.mk numerator denominator).symm
  · intro described
    obtain ⟨visual, cycles, seen⟩ := described
    have clip := seen.clip
    have bounded := clip.bounded
    have slots := clip.slots
    have frames := clip.frames
    have raster := clip.raster
    have heights := clip.height
    have widths := clip.width
    have ceiling : ValidationLimits.specification.h3DecodedAxis.val = 4096 := rfl
    have longest : ValidationLimits.specification.h3TemporalAxis.val = 1048576 := rfl
    have lasting := seen.duration
    rw [reduced_eq _ _ (by omega) (by decide), Option.some.injEq] at lasting
    rw [clip.shape, slots]
    simp only [List.getD_cons_succ, List.getD_cons_zero, frameCount_of_cycles, List.length_cons,
      List.length_nil, List.mem_cons, List.not_mem_nil, or_false, forall_eq_or_imp, forall_eq,
      ← frames, ← lasting, seen.rate, clip.declared]
    refine ⟨⟨⟨trivial, by omega⟩, seen.stored.stream, seen.stored.payload, seen.stored.storage,
      clip.runtime, rfl, by omega, by omega⟩, seen.contract, ⟨by omega, by omega, ?_, by omega,
      by omega⟩, trivial, trivial, trivial, trivial, trivial⟩
    exact Nat.mul_le_mul (by omega : _ ≤ 4096) (by omega : _ ≤ 4096)

/-- The audio clip of a manifest, of as many slots as go with the frames. -/
structure Audible (audio : TensorDescriptor) (frames slots : Nat) : Prop where
  stored : InPayload audio .audio
  runtime : audio.runtimeDtype = audio.storageDtype
  shape : audio.shape = [1, 32, 2, slots]
  slots : 0 < slots ∧ 3 * slots ≤ 5 * frames + 1 ∧ 5 * frames ≤ 3 * slots + 1

theorem inspectAudio_eq_ok (audio : TensorDescriptor) (frames : Nat) :
    inspectAudio audio frames = .ok () ↔ ∃ slots, Audible audio frames slots := by
  rw [inspectAudio, check_eq_ok, checkShape_eq_ok, refuseWhen_eq_ok]
  simp only [not_or, not_not]
  constructor
  · intro accepted
    have shape := eq_four accepted.1.1
    obtain ⟨⟨_, positive⟩, stream, payload, storage, runtime, front, counted⟩ := accepted
    rw [shape] at front positive
    simp only [List.take_succ_cons, List.take_zero, List.cons.injEq, and_true, List.mem_cons,
      List.not_mem_nil, or_false, forall_eq_or_imp, forall_eq] at front positive
    rw [front.1, front.2.1, front.2.2] at shape
    exact ⟨_, ⟨stream, payload, storage⟩, runtime, shape, by omega⟩
  · intro described
    obtain ⟨slots, heard⟩ := described
    have counted := heard.slots
    rw [heard.shape]
    refine ⟨⟨rfl, ?_⟩, heard.stored.stream, heard.stored.payload, heard.stored.storage,
      heard.runtime, rfl, ?_⟩
    · simp only [List.mem_cons, List.not_mem_nil, or_false, forall_eq_or_imp, forall_eq]
      omega
    · simp only [List.getD_cons_succ, List.getD_cons_zero]
      omega

theorem validateAudioDisposition_eq_ok (audio : AudioDisposition) (present : Bool) :
    validateAudioDisposition audio present = .ok () ↔ audio.requiresAudioTensor = present := by
  rw [validateAudioDisposition, refuseWhen_eq_ok, not_not]
  cases audio <;> cases present <;> simp [policyPermits, AudioDisposition.requiresAudioTensor]

structure Inspected (manifest : ManifestV0_1) (payload : PayloadDescriptor)
    (video : TensorDescriptor) (visual : ValidatedVisual) (cycles : Nat) : Prop where
  codec : manifest.codec = ⟨codecFamily, h3Profile, profileVersion⟩
  only : manifest.payloads = [payload]
  payload : H3Payload payload
  streams : Streams manifest.tensors video (byName manifest.tensors "audio")
  seen : Visual manifest video visual cycles
  heard : ∀ audio ∈ byName manifest.tensors "audio",
    ∃ slots, Audible audio visual.decodedFrameCount slots
  policy : manifest.audio.requiresAudioTensor = (byName manifest.tensors "audio").isSome

/-- The access to a tensor that the manifest describes. -/
def retain (tensor : TensorDescriptor) : TensorAccessDescriptor :=
  ⟨tensor.name, tensor.storageDtype, tensor.shape, tensor.bytes⟩

/-- The tensors of a manifest are the data of its payload, behind the length and the header. -/
def Tiled (manifest : ManifestV0_1) : Prop :=
  ∃ payload header, manifest.payloads = [payload] ∧ 0 < header ∧
    payload.byteLength = headerLengthBytes + header +
      (manifest.tensors.map TensorDescriptor.bytes).sum ∧ payload.byteLength ≤ maxArchiveBytes

/-- What the host retains after it checked the integrity of an archive: the identity of a manifest
that keeps the rules of all codecs, a digest, of each tensor what the manifest says, and that the
tensors are all of the payload. -/
structure CartridgeAccess.Retained (access : CartridgeAccess) (decoder : ManifestDecoder)
    (limits : ValidationLimits) : Prop where
  identity : ∀ parsed, decoder.uuid access.manifest.cartridgeId = some parsed →
    parsed = access.cartridgeId
  archive : isSha256 access.archiveSha256 = true
  tensors : ∀ tensor ∈ access.manifest.tensors,
    access.tensorDescriptor tensor.name = .ok (retain tensor)
  common : access.manifest.validateCommon decoder limits = .ok ()
  tiled : Tiled access.manifest

/-- A tensor of positive axes is retained as a valid one. -/
theorem retain_valid (tensor : TensorDescriptor) (named : isIdentifier tensor.name = true)
    (storage : tensor.storageDtype.isSupported = true)
    (rank : 1 ≤ tensor.shape.length ∧ tensor.shape.length ≤ 8) (positive : 0 ∉ tensor.shape) :
    (retain tensor).validate = .ok () := by
  have elements : tensor.shape.prod ≠ 0 := by
    rw [ne_eq, List.prod_eq_zero_iff]
    exact positive
  obtain ⟨width, wide, some⟩ : ∃ width, tensor.storageDtype.byteWidth = some width ∧ width ≠ 0 := by
    cases dtype : tensor.storageDtype with
    | f16 => exact ⟨2, rfl, by decide⟩
    | f32 => exact ⟨4, rfl, by decide⟩
    | unsupported =>
      rw [dtype] at storage
      exact nomatch storage
  have size : (retain tensor).byteLength = tensor.shape.prod * width := by
    rw [retain, TensorDescriptor.bytes, wide, Option.getD_some]
  rw [TensorAccessDescriptor.validate, check_eq_ok, refuseWhen_eq_ok, not_not, bind_eq_ok]
  simp only [orError_eq_ok, ↓check_eq_ok, refuseWhen_eq_ok, not_or, not_not, size]
  exact ⟨named, width, wide, ⟨rank, positive⟩, Nat.mul_ne_zero elements some, rfl⟩

/-- The tensors of an inspected manifest are retained as valid ones. -/
theorem Inspected.valid (inspected : Inspected manifest payload video visual cycles) :
    (retain video).validate = .ok () ∧
      ∀ audio ∈ byName manifest.tensors "audio", (retain audio).validate = .ok () := by
  constructor
  · have clip := inspected.seen.clip
    have raster := clip.raster
    have heights := clip.height.1
    have widths := clip.width.1
    have slots := clip.slots
    refine retain_valid _ ?_ inspected.seen.stored.storage ?_ ?_
    · rw [inspected.streams.video]
      decide
    · rw [clip.shape]
      simp
    · rw [clip.shape]
      simp only [List.mem_cons, List.not_mem_nil, or_false]
      omega
  · intro audio there
    obtain ⟨slots, heard⟩ := inspected.heard audio there
    refine retain_valid _ ?_ heard.stored.storage ?_ ?_
    · rw [inspected.streams.audio audio there]
      decide
    · rw [heard.shape]
      simp
    · have some := heard.slots.1
      rw [heard.shape]
      simp only [List.mem_cons, List.not_mem_nil, or_false]
      omega

section Retained

variable (retained : access.Retained decoder limits)
  (inspected : Inspected access.manifest payload video visual cycles)

include retained inspected

theorem retainedVideo_of_inspected : retainedVideo access video = .ok (retain video) := by
  have inside := inspected.streams.all.mem_iff.mpr List.mem_cons_self
  have found := retained.tensors video inside
  rw [inspected.streams.video] at found
  rw [retainedVideo, found, ok_bind]
  simp only [↓check_eq_ok, refuseWhen_eq_ok, not_or, not_not]
  exact ⟨inspected.valid.1, inspected.streams.video, ⟨rfl, rfl⟩, rfl⟩

theorem retainedAudio_of_inspected (audio : TensorDescriptor)
    (there : audio ∈ byName access.manifest.tensors "audio") :
    retainedAudio access audio = .ok (retain audio) := by
  have inside := inspected.streams.all.mem_iff.mpr
    (List.mem_cons_of_mem _ (Option.mem_toList.mpr there))
  have found := retained.tensors audio inside
  rw [inspected.streams.audio audio there] at found
  rw [retainedAudio, found, ok_bind]
  simp only [↓check_eq_ok, refuseWhen_eq_ok, not_or, not_not]
  exact ⟨inspected.valid.2 audio there, ⟨inspected.streams.audio audio there, rfl, rfl⟩, rfl⟩

end Retained

theorem optionally_eq_ok {α β : Type} (inspect : α → Except CodecSdkError β) (value : Option α)
    (result : Option β) :
    optionally inspect value = .ok result ↔
      (∀ there ∈ value, ∃ found, inspect there = .ok found ∧ result = some found) ∧
        (value = none → result = none) := by
  cases value with
  | none => simp [optionally, eq_comm]
  | some there =>
    rw [optionally, bind_eq_ok]
    simp [pure, Except.pure, eq_comm]

theorem Visual.frames (seen : Visual manifest video visual cycles) :
    frameCount (video.shape.getD 2 0) = visual.decodedFrameCount := by
  rw [seen.clip.shape, seen.clip.frames, seen.clip.slots]
  exact frameCount_of_cycles cycles

/-- What the adapter accepts of a retained cartridge, and as what. -/
theorem inspectH3Cartridge_eq_ok (decoder : ManifestDecoder) (access : CartridgeAccess)
    (retained : access.Retained decoder limits) (h3 : H3Profile) :
    inspectH3Cartridge decoder access = .ok h3 ↔
      (access.cartridgeId ≠ 0 ∧
        decoder.uuid access.manifest.cartridgeId = some access.cartridgeId ∧
        decoder.hyphenated access.cartridgeId = access.manifest.cartridgeId) ∧
      ∃ payload video visual cycles, Inspected access.manifest payload video visual cycles ∧
        h3 = ⟨access.cartridgeId, access.archiveSha256, payload.sha256, h3Geometry video.shape,
          retain video, (byName access.manifest.tensors "audio").map retain⟩ := by
  rw [inspectH3Cartridge]
  simp only [↓check_eq_ok, bind_eq_ok, inspectIdentity_eq_ok, inspectPayload_eq_ok,
    inspectTensors_eq_ok, validateAudioDisposition_eq_ok, pure, Except.pure, Except.ok.injEq]
  have audible : ∀ payload video visual cycles,
      Inspected access.manifest payload video visual cycles →
        optionally (retainedAudio access) (byName access.manifest.tensors "audio") =
          .ok ((byName access.manifest.tensors "audio").map retain) := by
    intro payload video visual cycles inspected
    refine (optionally_eq_ok ..).mpr ⟨fun audio there => ⟨retain audio, ?_, ?_⟩, fun none => ?_⟩
    · exact retainedAudio_of_inspected retained inspected audio there
    · rw [Option.mem_def.mp there, Option.map_some]
    · rw [none, Option.map_none]
  constructor
  · intro accepted
    obtain ⟨⟨⟨some, _, found, text⟩, codec⟩, payload, ⟨only, exact⟩, video, streams, first, second,
      unit, heard, policy, kept, keeps, sound, sounds, same⟩ := accepted
    obtain ⟨visual, cycles, seen⟩ := (inspectVisual_eq_ok _ _).mp ⟨first, second⟩
    have inspected : Inspected access.manifest payload video visual cycles := {
      codec, only, payload := exact, streams, seen, policy
      heard := by
        intro audio there
        obtain ⟨_, checked, _⟩ := ((optionally_eq_ok ..).mp heard).1 audio there
        rw [seen.frames] at checked
        exact (inspectAudio_eq_ok ..).mp checked }
    rw [retainedVideo_of_inspected retained inspected, Except.ok.injEq] at keeps
    rw [audible _ _ _ _ inspected, Except.ok.injEq] at sounds
    rw [← keeps, ← sounds] at same
    exact ⟨⟨some, found, text⟩, payload, video, visual, cycles, inspected, same.symm⟩
  · intro described
    obtain ⟨⟨some, found, text⟩, payload, video, visual, cycles, inspected, same⟩ := described
    obtain ⟨first, second⟩ := (inspectVisual_eq_ok _ _).mpr ⟨visual, cycles, inspected.seen⟩
    refine ⟨⟨⟨some, retained.archive, found, text⟩, inspected.codec⟩, payload,
      ⟨inspected.only, inspected.payload⟩, video, inspected.streams, first, second,
      (byName access.manifest.tensors "audio").map fun _ => (), ?_, inspected.policy, _,
      retainedVideo_of_inspected retained inspected, _, audible _ _ _ _ inspected, same.symm⟩
    refine (optionally_eq_ok ..).mpr ⟨fun audio there => ⟨(), ?_, ?_⟩, fun none => ?_⟩
    · rw [inspected.seen.frames]
      exact (inspectAudio_eq_ok ..).mpr (inspected.heard audio there)
    · rw [Option.mem_def.mp there, Option.map_some]
    · rw [none, Option.map_none]

/-- A manifest stays within the ceilings of a reader. -/
structure Within (manifest : ManifestV0_1) (limits : ValidationLimits) : Prop where
  payload : ∀ payload ∈ manifest.payloads, payload.byteLength ≤ limits.h3PayloadBytes.val
  slots : ∀ video ∈ byName manifest.tensors "video",
    video.shape.getD 2 0 ≤ limits.h3TemporalAxis.val
  raster : manifest.timing.decodedVideo.height ≤ limits.h3DecodedAxis.val ∧
    manifest.timing.decodedVideo.width ≤ limits.h3DecodedAxis.val
  audio : ∀ audio ∈ byName manifest.tensors "audio",
    audio.shape.getD 3 0 ≤ limits.h3TemporalAxis.val

/-- What the reader checks of a manifest beside what the adapter does. -/
structure ReaderOnly (decoder : ManifestDecoder) (manifest : ManifestV0_1)
    (limits : ValidationLimits) : Prop where
  common : manifest.validateCommon decoder limits = .ok ()
  declared : validateDeclaredTensorBytes manifest = .ok ()
  within : Within manifest limits

structure SameClip (h3 : H3Profile) (profile : ValidatedH3Profile) : Prop where
  raster : h3.geometry.decodedHeight = profile.visual.decodedHeight ∧
    h3.geometry.decodedWidth = profile.visual.decodedWidth
  grid : h3.geometry.latentHeight = profile.visual.latentHeight ∧
    h3.geometry.latentWidth = profile.visual.latentWidth
  slots : h3.video.shape.getD 2 0 = profile.visual.latentSlots
  frames : frameCount (h3.video.shape.getD 2 0) = profile.visual.decodedFrameCount
  audio : h3.audio.isSome = profile.audio.isSome

/-- The codec-neutral checks accept a canonical identity and canonical digests. -/
theorem validateCommon_identity (decoder : ManifestDecoder) (manifest : ManifestV0_1)
    (limits : ValidationLimits) (accepted : manifest.validateCommon decoder limits = .ok ()) :
    (∃ parsed, decoder.uuid manifest.cartridgeId = some parsed ∧ parsed ≠ 0 ∧
        decoder.hyphenated parsed = manifest.cartridgeId) ∧
      ∀ payload ∈ manifest.payloads, isSha256 payload.sha256 = true := by
  rw [ManifestV0_1.validateCommon, check_eq_ok, check_eq_ok, validateManifestIdentity, check_eq_ok,
    check_eq_ok, validateCartridgeId, bind_eq_ok] at accepted
  obtain ⟨_, ⟨⟨parsed, found, canonical⟩, digests, _⟩, _⟩ := accepted
  rw [refuseWhen_eq_ok, not_or, not_not] at canonical
  refine ⟨⟨parsed, (orError_eq_ok ..).mp found, canonical⟩, fun payload member => ?_⟩
  obtain ⟨pointer, checked⟩ := checkIndexed_ok _ _ _ _ digests payload member
  rw [validateSha256, refuseWhen_eq_ok, not_not, nameBytes, Text.utf8Bytes_length] at checked
  rw [isSha256, Bool.and_eq_true, beq_iff_eq]
  exact checked

theorem validateKnownTensor_eq_ok (tensor : TensorDescriptor) :
    validateKnownTensor tensor = .ok () ↔ tensor.payload = payloadPath ∧
      ((tensor.stream = .visual ∧ tensor.name = "video") ∨
        (tensor.stream = .audio ∧ tensor.name = "audio")) := by
  rw [validateKnownTensor, check_eq_ok, refuseWhen_eq_ok, refuseWhen_eq_ok, not_not, not_not]
  simp only [knownTensor, Bool.or_eq_true, Bool.and_eq_true, beq_iff_eq]

/-- A clip within the limits of a reader is one within the ceilings. -/
theorem VisualClip.limited (video : TensorDescriptor) (decoded : DecodedVideoDescriptor)
    (visual : ValidatedVisual) (cycles : Nat) (limits : ValidationLimits) :
    VisualClip video decoded visual cycles limits ↔
      VisualClip video decoded visual cycles .specification ∧
        visual.latentSlots ≤ limits.h3TemporalAxis.val ∧
        decoded.height ≤ limits.h3DecodedAxis.val ∧ decoded.width ≤ limits.h3DecodedAxis.val := by
  have longest := limits.h3TemporalAxis.property
  have largest := limits.h3DecodedAxis.property
  constructor
  · intro clip
    obtain ⟨⟨tall, highest⟩, wide, widest⟩ := clip.raster
    exact ⟨{ clip with
      bounded := clip.bounded.trans longest
      raster := ⟨⟨tall, highest.trans largest⟩, wide, widest.trans largest⟩ },
      clip.bounded, highest, widest⟩
  · intro limited
    obtain ⟨clip, bounded, highest, widest⟩ := limited
    exact { clip with
      bounded
      raster := ⟨⟨clip.raster.1.1, highest⟩, clip.raster.2.1, widest⟩ }

/-- The reader accepts what the adapter accepts and its own checks admit. -/
theorem validateProfile_accepts (decoder : ManifestDecoder) (manifest : ManifestV0_1)
    (limits : ValidationLimits) :
    (∃ profile, validateProfile decoder manifest limits = .ok profile) ↔
      (∃ payload video visual cycles, Inspected manifest payload video visual cycles) ∧
        ReaderOnly decoder manifest limits := by
  constructor
  · intro accepted
    obtain ⟨profile, accepted⟩ := accepted
    rw [validateProfile, check_eq_ok, check_eq_ok, check_eq_ok, check_eq_ok, bind_eq_ok] at accepted
    obtain ⟨common, identity, known, sizes, video, only, accepted⟩ := accepted
    simp only [bind_eq_ok, ↓check_eq_ok, refuseWhen_eq_ok, not_not, validateVisual_eq_ok,
      validateTiming_eq_ok] at accepted
    obtain ⟨visual, ⟨cycles, clip⟩, rate, ⟨rated, _, lasting⟩, policy, audio, heard, _⟩ := accepted
    obtain ⟨codec, contract, payload, payloads, path, mediaType, some, largest⟩ :=
      (validateProfileIdentity_eq_ok ..).mp identity
    have tensors := validateCommon_tensors manifest decoder limits common
    obtain ⟨name, all, audible⟩ := profile_descriptors manifest.tensors video _ _
      (tensors.few.trans limits.tensors.property) known only
    have streams : Streams manifest.tensors video (audioTensor manifest.tensors) :=
      ⟨all, name, audible⟩
    have named := streams.audio_byName
    have stored : ∀ tensor ∈ manifest.tensors, ∀ stream,
        tensor.name = (if stream = .visual then "video" else "audio") →
        InPayload tensor stream := by
      intro tensor inside stream called
      obtain ⟨path, either⟩ :=
        (validateKnownTensor_eq_ok tensor).mp ((checkEach_eq_ok ..).mp known tensor inside)
      refine ⟨?_, path, (tensors.each tensor inside).storage⟩
      cases stream <;> simp_all
    have seen : video ∈ manifest.tensors := all.mem_iff.mpr List.mem_cons_self
    obtain ⟨clip, bounded, highest, widest⟩ := (VisualClip.limited ..).mp clip
    have sounds : ∀ tensor ∈ byName manifest.tensors "audio", ∃ slots,
        Audible tensor visual.decodedFrameCount slots ∧ slots ≤ limits.h3TemporalAxis.val := by
      intro tensor there
      rw [named] at there
      rw [Option.mem_def.mp there, validateProfileOptionalAudio, bind_eq_ok] at heard
      obtain ⟨validated, checked, _⟩ := heard
      obtain ⟨_, fits⟩ := (validateProfileAudio_eq_ok ..).mp checked
      have inside := all.mem_iff.mpr (List.mem_cons_of_mem _ (Option.mem_toList.mpr there))
      exact ⟨validated.latentSlots, ⟨stored tensor inside .audio (audible tensor there),
        fits.runtime.1, fits.shape, fits.bounded.1, fits.slots⟩, fits.bounded.2⟩
    refine ⟨⟨payload, video, visual, cycles, {
      codec, only := payloads, streams := named ▸ streams
      payload := ⟨path, mediaType, ?_, some⟩
      seen := ⟨stored video seen .visual name, clip, contract, rated, lasting⟩
      heard := fun tensor there => (sounds tensor there).imp fun _ both => both.1
      policy := named ▸ policy }⟩, ?_⟩
    · exact (validateCommon_identity decoder manifest limits common).2 payload
        (payloads ▸ List.mem_singleton_self payload)
    · refine ⟨common, sizes, ?_, ?_, ⟨highest, widest⟩, ?_⟩
      · rw [payloads]
        exact fun other member => List.mem_singleton.mp member ▸ largest
      · intro other found
        have same : other = video := by
          obtain ⟨inside, called⟩ := (byName_eq_some streams.distinct _ _).mp found
          exact List.inj_on_of_nodup_map streams.distinct inside seen (called.trans name.symm)
        rw [same, clip.shape]
        exact bounded
      · intro tensor there
        obtain ⟨slots, sound, few⟩ := sounds tensor there
        rw [sound.shape]
        exact few
  · intro described
    obtain ⟨⟨payload, video, visual, cycles, inspected⟩, reader⟩ := described
    have streams := inspected.streams
    have seen := inspected.seen
    -- The adapter finds the tensors by name and the reader finds them by stream.
    have known : ∀ tensor ∈ manifest.tensors, validateKnownTensor tensor = .ok () ∧
        (tensor.stream = .audio ↔ tensor.name = "audio") := by
      intro tensor inside
      rw [streams.all.mem_iff, List.mem_cons, Option.mem_toList] at inside
      rw [validateKnownTensor_eq_ok]
      rcases inside with same | there
      · rw [same, seen.stored.stream, streams.video]
        exact ⟨⟨seen.stored.payload, .inl ⟨rfl, rfl⟩⟩, by decide⟩
      · obtain ⟨slots, sound⟩ := inspected.heard tensor there
        rw [sound.stored.stream, streams.audio tensor there]
        exact ⟨⟨sound.stored.payload, .inr ⟨rfl, rfl⟩⟩, by decide⟩
    have named : audioTensor manifest.tensors = byName manifest.tensors "audio" := by
      rw [audioTensor, byName, ← List.head?_filter, ← List.head?_filter]
      exact congrArg List.head? (List.filter_congr fun tensor inside =>
        decide_eq_decide.mpr (known tensor inside).2)
    have only : exactlyOneTensor manifest.tensors .visual "video" = .ok video := by
      rw [exactlyOneTensor, exactlyOne_eq_ok]
      apply List.perm_singleton.mp
      refine (streams.all.filter _).trans (List.Perm.of_eq ?_)
      have others : ∀ tensor ∈ (byName manifest.tensors "audio").toList,
          ¬ decide (tensor.stream = .visual ∧ tensor.name = "video") = true := by
        intro tensor there visual
        rw [streams.audio tensor (Option.mem_toList.mp there)] at visual
        exact absurd (of_decide_eq_true visual).2 (by decide)
      rw [List.filter_cons, if_pos (decide_eq_true ⟨seen.stored.stream, streams.video⟩),
        List.filter_eq_nil_iff.mpr others]
    have found : byName manifest.tensors "video" = some video :=
      (byName_eq_some streams.distinct _ _).mpr
        ⟨streams.all.mem_iff.mpr List.mem_cons_self, streams.video⟩
    have slots := reader.within.slots video found
    rw [seen.clip.shape] at slots
    have clip := (VisualClip.limited video _ visual cycles limits).mpr
      ⟨seen.clip, slots, reader.within.raster⟩
    obtain ⟨audio, heard⟩ : ∃ audio, validateProfileOptionalAudio
        (byName manifest.tensors "audio") visual.decodedFrameCount limits = .ok audio := by
      cases there : byName manifest.tensors "audio" with
      | none => exact ⟨none, rfl⟩
      | some tensor =>
        obtain ⟨count, sound⟩ := inspected.heard tensor there
        have few := reader.within.audio tensor there
        rw [sound.shape] at few
        have fits : AudioClip tensor ⟨count, tensor.storageDtype, tensor.storageDtype⟩
            visual.decodedFrameCount limits :=
          ⟨sound.shape, ⟨sound.runtime, rfl, rfl⟩, sound.slots.2, sound.slots.1, few⟩
        have checked := (validateProfileAudio_eq_ok ..).mpr ⟨streams.audio tensor there, fits⟩
        exact ⟨_, (bind_eq_ok ..).mpr ⟨_, checked, rfl⟩⟩
    have largest := reader.within.payload payload (inspected.only ▸ List.mem_singleton_self payload)
    have exact := inspected.payload
    rw [← named] at heard
    apply Exists.intro
    rw [validateProfile, check_eq_ok, check_eq_ok, check_eq_ok, check_eq_ok, only, ok_bind]
    simp only [bind_eq_ok, ↓check_eq_ok, refuseWhen_eq_ok, not_not, validateVisual_eq_ok,
      validateTiming_eq_ok]
    exact ⟨reader.common, (validateProfileIdentity_eq_ok ..).mpr ⟨inspected.codec, seen.contract,
        payload, inspected.only, exact.path, exact.mediaType, exact.some, largest⟩,
      (checkEach_eq_ok ..).mpr fun tensor inside => (known tensor inside).1, reader.declared,
      visual, ⟨cycles, clip⟩, _, ⟨seen.rate, rfl, seen.duration⟩, named ▸ inspected.policy, audio,
      heard, rfl⟩

/-- A valid access is one of positive axes and a supported type. -/
theorem sized_of_valid {tensor : TensorDescriptor} (valid : (retain tensor).validate = .ok ())
    (bounded : tensor.bytes < 2 ^ 64) : tensor.Sized := by
  rw [TensorAccessDescriptor.validate, check_eq_ok, bind_eq_ok] at valid
  simp only [orError_eq_ok, ↓check_eq_ok, refuseWhen_eq_ok, not_or, not_not] at valid
  obtain ⟨_, width, found, ⟨rank, positive⟩, _⟩ := valid
  refine ⟨fun empty => ?_, positive, Option.isSome_iff_exists.mpr ⟨width, found⟩, bounded⟩
  have long : 1 ≤ tensor.shape.length := rank.1
  rw [empty] at long
  exact nomatch long

section

variable (retained : access.Retained decoder limits)

include retained

/-- The tensors of a retained clip fit its payload. -/
theorem CartridgeAccess.Retained.declared
    (inspected : Inspected access.manifest payload video visual cycles) :
    validateDeclaredTensorBytes access.manifest = .ok () := by
  obtain ⟨other, header, only, some, length, small⟩ := retained.tiled
  have prefixed : headerLengthBytes = 8 := rfl
  have archived : maxArchiveBytes < 2 ^ 64 - 8 := by decide
  have sized : ∀ tensor ∈ access.manifest.tensors, tensor.Sized := by
    intro tensor inside
    have valid : (retain tensor).validate = .ok () := by
      rw [inspected.streams.all.mem_iff, List.mem_cons, Option.mem_toList] at inside
      rcases inside with same | there
      · rw [same]
        exact inspected.valid.1
      · exact inspected.valid.2 tensor there
    have part : tensor.bytes ≤ (access.manifest.tensors.map TensorDescriptor.bytes).sum :=
      List.le_sum_of_mem (List.mem_map_of_mem inside)
    exact sized_of_valid valid (by omega)
  rw [validateDeclaredTensorBytes, bind_eq_ok]
  refine ⟨_, (declaredTensorBytesFrom_eq_ok _ 0 _ (by decide)).mpr ⟨sized, rfl, by omega⟩, ?_⟩
  rw [bind_eq_ok]
  refine ⟨_, (orError_eq_ok ..).mpr ((checkedAdd_eq_some ..).mpr ⟨rfl, by omega⟩), ?_⟩
  rw [bind_eq_ok]
  refine ⟨other, (onlyPayload_eq_ok ..).mpr only, ?_⟩
  rw [refuseWhen_eq_ok]
  omega

/-- What the adapter accepts of a retained cartridge are its clips. -/
theorem CartridgeAccess.Retained.inspected_iff :
    (∃ h3, inspectH3Cartridge decoder access = .ok h3) ↔
      ∃ payload video visual cycles, Inspected access.manifest payload video visual cycles := by
  simp only [inspectH3Cartridge_eq_ok decoder access retained]
  constructor
  · intro accepted
    obtain ⟨h3, _, payload, video, visual, cycles, inspected, _⟩ := accepted
    exact ⟨payload, video, visual, cycles, inspected⟩
  · intro clip
    obtain ⟨payload, video, visual, cycles, inspected⟩ := clip
    obtain ⟨parsed, found, some, text⟩ :=
      (validateCommon_identity decoder _ limits retained.common).1
    have same := retained.identity parsed found
    rw [same] at found some text
    exact ⟨_, ⟨some, found, text⟩, payload, video, visual, cycles, inspected, rfl⟩

/-- Where the adapter and the reader accept a cartridge, they see the same clip. -/
theorem CartridgeAccess.Retained.sameClip :
    ∀ profile h3, validateProfile decoder access.manifest limits = .ok profile →
      inspectH3Cartridge decoder access = .ok h3 → SameClip h3 profile := by
  intro profile h3 validated accepted
  obtain ⟨_, payload, video, visual, cycles, inspected, same⟩ :=
    (inspectH3Cartridge_eq_ok decoder access retained h3).mp accepted
  obtain ⟨other, rounds, _, clip⟩ := validateProfile_ok validated
  have found : other = video := by
    have inside := clip.tensors.mem_iff.mpr List.mem_cons_self
    have member := inspected.streams.all.mem_iff.mpr List.mem_cons_self
    exact List.inj_on_of_nodup_map inspected.streams.distinct inside member
      (clip.named.2.trans inspected.streams.video.symm)
  have shape := clip.visual.shape
  have heights := clip.visual.height
  have widths := clip.visual.width
  have presence : profile.audio.isSome = (byName access.manifest.tensors "audio").isSome := by
    rw [← inspected.policy, clip.policy]
    cases there : audioTensor access.manifest.tensors with
    | none => rw [clip.silent there]; rfl
    | some tensor =>
      obtain ⟨audio, heard, _⟩ := clip.audio tensor there
      rw [heard]
      rfl
  rw [found] at shape
  have frames := clip.visual.frames
  have slots := clip.visual.slots
  rw [same]
  refine ⟨?_, ?_, ?_, ?_, ?_⟩
  · dsimp only [h3Geometry]
    rw [shape]
    simp only [List.getD_cons_succ, List.getD_cons_zero]
    omega
  · dsimp only [h3Geometry]
    rw [shape]
    exact ⟨rfl, rfl⟩
  · dsimp only [retain]
    rw [shape]
    rfl
  · dsimp only [retain]
    rw [shape, frames, slots]
    exact frameCount_of_cycles rounds
  · rw [Option.isSome_map, presence]

end

/-- The profiles agree on a retained cartridge: both accept it or none does, and they see the same
clip. -/
structure Agree (decoder : ManifestDecoder) (access : CartridgeAccess) (limits : ValidationLimits) :
    Prop where
  both : (∃ h3, inspectH3Cartridge decoder access = .ok h3) ↔
    ∃ profile, validateProfile decoder access.manifest limits = .ok profile
  same : ∀ profile h3, validateProfile decoder access.manifest limits = .ok profile →
    inspectH3Cartridge decoder access = .ok h3 → SameClip h3 profile

/-- The adapter and the reader agree on a retained cartridge exactly when it is no clip that goes
beyond a ceiling of the reader. -/
theorem adapter_agrees_iff (decoder : ManifestDecoder) (access : CartridgeAccess)
    (limits : ValidationLimits) (retained : access.Retained decoder limits) :
    Agree decoder access limits ↔
      ∀ payload video visual cycles, Inspected access.manifest payload video visual cycles →
        Within access.manifest limits := by
  constructor
  · intro agree payload video visual cycles inspected
    have accepted := agree.both.mp (retained.inspected_iff.mpr
      ⟨payload, video, visual, cycles, inspected⟩)
    exact ((validateProfile_accepts ..).mp accepted).2.within
  · intro within
    refine ⟨?_, retained.sameClip⟩
    rw [retained.inspected_iff, validateProfile_accepts]
    constructor
    · intro clip
      obtain ⟨payload, video, visual, cycles, inspected⟩ := clip
      exact ⟨⟨payload, video, visual, cycles, inspected⟩, retained.common,
        retained.declared inspected, within payload video visual cycles inspected⟩
    · exact fun accepted => accepted.1

/-- What a host retains of the archive of a clip. -/
def clipAccess (cycles : Nat) : CartridgeAccess where
  cartridgeId := 0x550e8400e29b41d4a716446655440000
  archiveSha256 := samplePayloadSha256
  manifest := clipManifest cycles
  tensorDescriptor name :=
    .ok (if name = "video" then retain (clipVideo cycles) else retain (clipAudio cycles))

theorem clipAccess_retained (cycles : Nat)
    (common : (clipAccess cycles).manifest.validateCommon h3Sample.decoder.toManifestDecoder
      .specification = .ok ())
    (small : ∀ payload ∈ (clipAccess cycles).manifest.payloads,
      payload.byteLength ≤ maxArchiveBytes) :
    (clipAccess cycles).Retained h3Sample.decoder.toManifestDecoder .specification where
  identity := fun parsed found => (Option.some.inj found).symm
  archive := (by decide +kernel : isSha256 samplePayloadSha256 = true)
  tensors := by
    intro tensor member
    rcases List.mem_cons.mp member with same | member
    · rw [same]
      rfl
    · rw [List.mem_singleton.mp member]
      rfl
  common
  tiled := by
    refine ⟨_, 160, rfl, by decide, ?_, small _ List.mem_cons_self⟩
    show 8 + 160 + _ + _ = 8 + 160 + (_ + (_ + 0))
    omega

/-- The profiles agree on a clip of three cycles with audio. -/
theorem sample_adapter_agrees :
    (∃ h3, inspectH3Cartridge h3Sample.decoder.toManifestDecoder (clipAccess 3) = .ok h3) ∧
      Agree h3Sample.decoder.toManifestDecoder (clipAccess 3) .specification := by
  have retained := clipAccess_retained 3 (by decide +kernel) (by decide +kernel)
  have accepted : (inspectH3Cartridge h3Sample.decoder.toManifestDecoder
      (clipAccess 3)).toOption.isSome = true := by decide +kernel
  refine ⟨ok_of_isSome accepted, (adapter_agrees_iff h3Sample.decoder.toManifestDecoder
    (clipAccess 3) .specification retained).mpr fun _ _ _ _ _ => ?_⟩
  constructor <;> decide +kernel

/-- The adapter accepts a clip whose audio has more slots than the ceiling, and the reader refuses
it. -/
theorem long_audio_inspected :
    (clipAccess 37009).Retained h3Sample.decoder.toManifestDecoder .specification ∧
      (∃ h3, inspectH3Cartridge h3Sample.decoder.toManifestDecoder (clipAccess 37009) =
        .ok h3) ∧
      ¬ ∃ profile, validateProfile h3Sample.decoder.toManifestDecoder (clipAccess 37009).manifest
        .specification = .ok profile := by
  have inspected : (inspectH3Cartridge h3Sample.decoder.toManifestDecoder
      (clipAccess 37009)).toOption.isSome = true := by decide +kernel
  have refused : (validateProfile h3Sample.decoder.toManifestDecoder (clipAccess 37009).manifest
      .specification).toOption.isSome = false := by decide +kernel
  refine ⟨clipAccess_retained _ (by decide +kernel) (by decide +kernel), ok_of_isSome inspected,
    fun accepted => ?_⟩
  obtain ⟨profile, accepted⟩ := accepted
  rw [accepted] at refused
  exact nomatch refused

end LatentDeck.CodecH3
