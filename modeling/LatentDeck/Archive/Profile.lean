import LatentDeck.Archive.Manifest

/-!
# The H3 profile

The semantic checks of the one profile that LC 0.1 readers validate in full: its identity, the set
of its tensors, their sizes, and the cadence that ties latent slots, decoded frames and audio.
-/

namespace LatentDeck.Archive

open Checked Fallible

def codecFamily : String := "minimax_h3"
/-- `PROFILE`. -/
def h3Profile : String := "h3_av_latent"
def profileVersion : String := "0.1.0"
def timingContract : String := "minimax_h3_causal"
def timingContractVersion : String := "0.1.0"
def payloadPath : String := "payloads/h3.safetensors"
def payloadMediaType : String := "application/vnd.safetensors"
def streamingNewSlots : Nat := 5
/-- `STREAMING_USABLE_FRAMES`. -/
def streamingFrames : Nat := 17

structure ValidatedVisual where
  latentSlots : Nat
  latentHeight : Nat
  latentWidth : Nat
  decodedFrameCount : Nat
  decodedHeight : Nat
  decodedWidth : Nat

structure ValidatedAudio where
  latentSlots : Nat
  storageDtype : DType
  runtimeDtype : DType

structure H3CompatibilityKey where
  codecFamily : String
  profile : String
  profileVersion : String
  runtimeDtype : DType
  batch : Nat
  latentChannels : Nat
  latentHeight : Nat
  latentWidth : Nat
  timingContract : String
  timingContractVersion : String
  frameRate : Rational

structure ValidatedH3Profile where
  visual : ValidatedVisual
  audio : Option ValidatedAudio
  compatibilityKey : H3CompatibilityKey

def tensorError (code : ErrorCode) (detail tensor : String) : CartridgeError :=
  (CartridgeError.new code detail).atTensor tensor

def decodedFrameCount (latentSlots : Nat) : Except CartridgeError Nat := do
  let tail ← orError (checkedSub latentSlots 2)
    (tensorError .tensorShapeInvalid "H3 visual T must be 2 + 5n" "video")
  refuseWhen (tail % 5 ≠ 0)
    (tensorError .tensorShapeInvalid "H3 visual T must be 2 + 5n" "video")
  orError ((checkedMul (tail / 5) 17).bind fun frames => checkedAdd frames 5)
    (tensorError .tensorSizeOverflow "H3 frame-count arithmetic overflow" "video")

def audioLatentSlotCount (decodedFrames : Nat) : Except CartridgeError Nat :=
  orError (((checkedMul decodedFrames 5).bind fun slots => checkedAdd slots 1).map (· / 3))
    (tensorError .tensorSizeOverflow "H3 audio cadence arithmetic overflow" "audio")

def streamingUsableFrames (newSlots : Nat) : Except CartridgeError Nat := do
  refuseWhen (newSlots = 0 ∨ newSlots % streamingNewSlots ≠ 0)
    (.new .timingMismatch "H3 streaming input must contain complete five-slot blocks")
  orError (checkedMul (newSlots / streamingNewSlots) streamingFrames)
    (.new .tensorSizeOverflow "H3 streaming cadence arithmetic overflow")

def validateProfileIdentity (manifest : ManifestV0_1) (limits : ValidationLimits) :
    Except CartridgeError Unit := do
  refuseWhen (manifest.codec.family ≠ codecFamily)
    (manifestError .unsupportedCodec "unsupported codec family" "/codec/family")
  refuseWhen (manifest.codec.profile ≠ h3Profile ∨
      manifest.codec.profileVersion ≠ profileVersion)
    (manifestError .unsupportedProfileVersion "unsupported H3 profile or profile version"
      "/codec/profile_version")
  refuseWhen (manifest.timing.contract ≠ timingContract ∨
      manifest.timing.contractVersion ≠ timingContractVersion)
    (manifestError .unsupportedProfileVersion "unsupported H3 timing contract"
      "/timing/contract_version")
  let payload ← onlyPayload manifest
  refuseWhen (payload.path ≠ payloadPath)
    (manifestError .tensorDescriptorMismatch "H3 payload path must be payloads/h3.safetensors"
      "/payloads/0/path")
  refuseWhen (payload.mediaType ≠ payloadMediaType)
    (manifestError .tensorDescriptorMismatch
      "H3 payload media type must be application/vnd.safetensors" "/payloads/0/media_type")
  refuseWhen (payload.byteLength = 0 ∨ payload.byteLength > limits.h3PayloadBytes.val)
    (manifestError .runtimeLimitExceeded
      "H3 payload byte length is outside the profile limit" "/payloads/0/byte_length")

/-- Whether a descriptor is one of the two that the profile knows. -/
def knownTensor (tensor : TensorDescriptor) : Bool :=
  (tensor.stream == .visual && tensor.name == "video") ||
    (tensor.stream == .audio && tensor.name == "audio")

/-- One descriptor of `validate_tensor_set`. -/
def validateKnownTensor (tensor : TensorDescriptor) : Except CartridgeError Unit := do
  refuseWhen (tensor.payload ≠ payloadPath)
    (tensorError .tensorDescriptorMismatch
      "H3 tensors must reference payloads/h3.safetensors" tensor.name)
  refuseWhen (¬ knownTensor tensor)
    (tensorError .tensorUnexpected ("unexpected H3 tensor descriptor " ++ tensor.name) tensor.name)

def validateTensorSet (tensors : List TensorDescriptor) : Except CartridgeError Unit :=
  checkEach validateKnownTensor tensors

/-- The descriptor loop of `validate_declared_tensor_bytes` from a running sum. -/
def declaredTensorBytesFrom : List TensorDescriptor → Nat → Except CartridgeError Nat
  | [], tensorBytes => .ok tensorBytes
  | descriptor :: descriptors, tensorBytes => do
      refuseWhen (descriptor.shape = [] ∨ 0 ∈ descriptor.shape)
        (tensorError .tensorShapeInvalid "tensor axes must be positive" descriptor.name)
      let elements ← orError (checkedProduct descriptor.shape)
        (tensorError .tensorSizeOverflow "tensor element-count arithmetic overflow"
          descriptor.name)
      let width ← orError descriptor.storageDtype.byteWidth
        (tensorError .tensorDtypeForbidden "tensor storage dtype has no LC 0.1 byte width"
          descriptor.name)
      let bytes ← orError (checkedMul elements width)
        (tensorError .tensorSizeOverflow "tensor byte-count arithmetic overflow" descriptor.name)
      let tensorBytes ← orError (checkedAdd tensorBytes bytes)
        (tensorError .tensorSizeOverflow "combined tensor byte-count arithmetic overflow"
          descriptor.name)
      declaredTensorBytesFrom descriptors tensorBytes

def validateDeclaredTensorBytes (manifest : ManifestV0_1) : Except CartridgeError Unit := do
  let tensorBytes ← declaredTensorBytesFrom manifest.tensors 0
  let minimumPayloadBytes ← orError (checkedAdd tensorBytes 8)
    (.new .tensorSizeOverflow "Safetensors envelope size arithmetic overflow")
  let payload ← onlyPayload manifest
  refuseWhen (payload.byteLength < minimumPayloadBytes)
    (manifestError .tensorDescriptorMismatch
      "payload is shorter than its declared tensor data" "/payloads/0/byte_length")

/-- The only descriptor of a stream and a name; none and several have an error each. -/
def exactlyOne (tensors : List TensorDescriptor) (stream : TensorStream) (name : String)
    (missing duplicated : CartridgeError) : Except CartridgeError TensorDescriptor :=
  match tensors.filter fun tensor => tensor.stream = stream ∧ tensor.name = name with
  | [] => .error missing
  | [tensor] => .ok tensor
  | _ :: _ :: _ => .error duplicated

def exactlyOneTensor (tensors : List TensorDescriptor) (stream : TensorStream) (name : String) :
    Except CartridgeError TensorDescriptor :=
  exactlyOne tensors stream name
    (tensorError .tensorMissing ("missing " ++ name ++ " tensor") name)
    (tensorError .tensorUnexpected ("duplicate " ++ name ++ " tensor descriptor") name)

def checkedDecodedAxis (axis : Nat) (limits : ValidationLimits) (label : String) :
    Except CartridgeError Nat := do
  let decoded ← orError (checkedMul axis 16)
    (tensorError .tensorSizeOverflow "decoded geometry overflow" "video")
  refuseWhen (decoded > u32Max)
    (tensorError .runtimeLimitExceeded "decoded geometry exceeds u32" "video")
  refuseWhen (decoded = 0 ∨ decoded > limits.h3DecodedAxis.val)
    (tensorError .runtimeLimitExceeded ("decoded " ++ label ++ " exceeds the H3 profile limit")
      "video")
  return decoded

def validateVisual (descriptor : TensorDescriptor) (manifest : ManifestV0_1)
    (limits : ValidationLimits) : Except CartridgeError ValidatedVisual := do
  refuseWhen (descriptor.shape.length ≠ 5 ∨ descriptor.shape.getD 0 0 ≠ 1 ∨
      descriptor.shape.getD 1 0 ≠ 24)
    (tensorError .tensorShapeInvalid "H3 video shape must be [1,24,T,H,W]" "video")
  refuseWhen (descriptor.runtimeDtype ≠ .f16)
    (tensorError .tensorDtypeForbidden "H3 video runtime dtype must be F16" "video")
  let latentSlots := descriptor.shape.getD 2 0
  refuseWhen (latentSlots > limits.h3TemporalAxis.val)
    (tensorError .runtimeLimitExceeded "H3 visual temporal axis exceeds the profile limit" "video")
  let expectedFrames ← decodedFrameCount latentSlots
  refuseWhen (manifest.timing.decodedVideo.frameCount ≠ expectedFrames)
    (manifestError .timingMismatch ("H3 T=" ++ toString latentSlots ++ " requires " ++
      toString expectedFrames ++ " decoded frames") "/timing/decoded_video/frame_count")
  let latentHeight := descriptor.shape.getD 3 0
  let latentWidth := descriptor.shape.getD 4 0
  let decodedHeight ← checkedDecodedAxis latentHeight limits "height"
  let decodedWidth ← checkedDecodedAxis latentWidth limits "width"
  refuseWhen (manifest.timing.decodedVideo.height ≠ decodedHeight ∨
      manifest.timing.decodedVideo.width ≠ decodedWidth)
    (manifestError .decodedGeometryMismatch
      "decoded geometry must equal the H3 latent grid multiplied by 16" "/timing/decoded_video")
  return {
    latentSlots
    latentHeight
    latentWidth
    decodedFrameCount := expectedFrames
    decodedHeight
    decodedWidth }

def validateTiming (manifest : ManifestV0_1) (expectedFrames : Nat) :
    Except CartridgeError Rational := do
  refuseWhen (manifest.timing.decodedVideo.frameRate ≠ ⟨24, 1⟩)
    (manifestError .timingMismatch "H3 frame rate must be 24/1"
      "/timing/decoded_video/frame_rate")
  let expectedDuration ← orError (Rational.reduced expectedFrames 24)
    (manifestError .timingMismatch "invalid zero duration" "/timing/decoded_video/duration")
  refuseWhen (manifest.timing.decodedVideo.duration ≠ expectedDuration)
    (manifestError .timingMismatch "duration must exactly equal frame_count / frame_rate"
      "/timing/decoded_video/duration")
  return manifest.timing.decodedVideo.frameRate

/-- `validate_audio` of the profile. -/
def validateProfileAudio (descriptor : TensorDescriptor) (expectedFrames : Nat)
    (limits : ValidationLimits) : Except CartridgeError ValidatedAudio := do
  refuseWhen (descriptor.name ≠ "audio" ∨ descriptor.shape.length ≠ 4 ∨
      descriptor.shape.getD 0 0 ≠ 1 ∨ descriptor.shape.getD 1 0 ≠ 32 ∨
      descriptor.shape.getD 2 0 ≠ 2)
    (tensorError .tensorShapeInvalid "H3 audio shape must be [1,32,2,T_audio]" "audio")
  refuseWhen (descriptor.runtimeDtype ≠ descriptor.storageDtype)
    (tensorError .tensorDtypeForbidden
      "H3 audio runtime dtype must preserve its storage dtype" "audio")
  let expectedAudioSlots ← audioLatentSlotCount expectedFrames
  let latentSlots := descriptor.shape.getD 3 0
  refuseWhen (latentSlots ≠ expectedAudioSlots ∨ latentSlots = 0 ∨
      latentSlots > limits.h3TemporalAxis.val)
    (tensorError .tensorShapeInvalid ("H3 audio T must be " ++ toString expectedAudioSlots)
      "audio")
  return {
    latentSlots
    storageDtype := descriptor.storageDtype
    runtimeDtype := descriptor.runtimeDtype }

/-- The profile's audio descriptor, if the manifest has one. -/
def validateProfileOptionalAudio (descriptor : Option TensorDescriptor) (expectedFrames : Nat)
    (limits : ValidationLimits) : Except CartridgeError (Option ValidatedAudio) :=
  match descriptor with
  | none => .ok none
  | some descriptor => do
      let audio ← validateProfileAudio descriptor expectedFrames limits
      return some audio

def audioTensor (tensors : List TensorDescriptor) : Option TensorDescriptor :=
  tensors.find? fun tensor => tensor.stream = .audio

/-- `h3::validate`. -/
def validateProfile (decoder : ManifestDecoder) (manifest : ManifestV0_1)
    (limits : ValidationLimits) : Except CartridgeError ValidatedH3Profile := do
  manifest.validateCommon decoder limits
  validateProfileIdentity manifest limits
  validateTensorSet manifest.tensors
  validateDeclaredTensorBytes manifest
  let visualDescriptor ← exactlyOneTensor manifest.tensors .visual "video"
  let visual ← validateVisual visualDescriptor manifest limits
  let frameRate ← validateTiming manifest visual.decodedFrameCount
  refuseWhen (manifest.audio.requiresAudioTensor ≠ (audioTensor manifest.tensors).isSome)
    (manifestError .tensorDescriptorMismatch
      "audio policy contradicts audio tensor presence" "/audio/policy")
  let audio ← validateProfileOptionalAudio (audioTensor manifest.tensors)
    visual.decodedFrameCount limits
  return {
    visual
    audio
    compatibilityKey := {
      codecFamily := codecFamily
      profile := h3Profile
      profileVersion := profileVersion
      runtimeDtype := visualDescriptor.runtimeDtype
      batch := visualDescriptor.shape.getD 0 0
      latentChannels := visualDescriptor.shape.getD 1 0
      latentHeight := visual.latentHeight
      latentWidth := visual.latentWidth
      timingContract := timingContract
      timingContractVersion := timingContractVersion
      frameRate } }

end LatentDeck.Archive
