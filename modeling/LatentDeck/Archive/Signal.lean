import LatentDeck.Archive.Cadence

/-!
# Codec-neutral signal geometry

The geometry of a clip as it is derived without knowing its codec, from the one visual tensor and the
declared timing. A manifest that the H3 profile accepts under some limits has one, and it is that of
the profile.
-/

namespace LatentDeck.Archive

open Checked Fallible Json

structure CodecNeutralSignalGeometry where
  runtimeDtype : DType
  batch : Nat
  latentChannels : Nat
  latentSlots : Nat
  latentHeight : Nat
  latentWidth : Nat
  decodedFrameCount : Nat
  decodedHeight : Nat
  decodedWidth : Nat
  frameRate : Rational

/-- The only visual tensor of a manifest, with its place. -/
def onlyVisual (tensors : List TensorDescriptor) :
    Except CartridgeError (TensorDescriptor × Nat) :=
  match tensors.zipIdx.filter fun entry => entry.1.stream = .visual with
  | [] => .error (manifestError .tensorMissing
      "LC signal geometry requires exactly one visual tensor" "/tensors")
  | [visual] => .ok visual
  | _ :: _ :: _ => .error (manifestError .tensorUnexpected
      "LC signal geometry requires exactly one visual tensor" "/tensors")

def firstPayload (manifest : ManifestV0_1) : Except CartridgeError PayloadDescriptor :=
  orError manifest.payloads.head?
    (manifestError .manifestInvalid "LC signal payload is missing" "/payloads")

/-- The duration check of `validate_codec_neutral_signal_geometry`. -/
def checkDecodedDuration (decoded : DecodedVideoDescriptor) : Except CartridgeError Unit := do
  let durationNumerator ← orError (checkedMul decoded.frameCount decoded.frameRate.denominator)
    (manifestError .timingMismatch "decoded signal duration arithmetic overflowed"
      "/timing/decoded_video/duration")
  let exactDuration ← orError (Rational.reduced durationNumerator decoded.frameRate.numerator)
    (manifestError .timingMismatch "decoded signal timing is invalid"
      "/timing/decoded_video/duration")
  refuseWhen (decoded.duration ≠ exactDuration)
    (manifestError .timingMismatch
      "decoded duration must exactly equal frame_count divided by frame_rate"
      "/timing/decoded_video/duration")

def validateCodecNeutralSignalGeometry (decoder : ManifestDecoder) (manifest : ManifestV0_1) :
    Except CartridgeError CodecNeutralSignalGeometry := do
  manifest.validateCommon decoder .specification
  let (visual, visualIndex) ← onlyVisual manifest.tensors
  refuseWhen (visual.shape.length ≠ 5 ∨ visual.shape.getD 0 0 ≠ 1 ∨ 0 ∈ visual.shape ∨
      ¬ visual.runtimeDtype.isSupported)
    (manifestError .tensorShapeInvalid
      "visual signal geometry must be finite-runtime [1,C,T,H,W] with positive extents"
      ("/tensors/" ++ toString visualIndex ++ "/shape"))
  let payload ← firstPayload manifest
  refuseWhen (visual.payload ≠ payload.path)
    (manifestError .tensorDescriptorMismatch
      "visual signal tensor does not reference the exact LC payload"
      ("/tensors/" ++ toString visualIndex ++ "/payload"))
  let decoded := manifest.timing.decodedVideo
  refuseWhen (decoded.width = 0 ∨ decoded.height = 0 ∨ decoded.frameCount = 0)
    (manifestError .decodedGeometryMismatch
      "decoded signal geometry must have positive width, height, and frame count"
      "/timing/decoded_video")
  checkDecodedDuration decoded
  return {
    runtimeDtype := visual.runtimeDtype
    batch := visual.shape.getD 0 0
    latentChannels := visual.shape.getD 1 0
    latentSlots := visual.shape.getD 2 0
    latentHeight := visual.shape.getD 3 0
    latentWidth := visual.shape.getD 4 0
    decodedFrameCount := decoded.frameCount
    decodedHeight := decoded.height
    decodedWidth := decoded.width
    frameRate := decoded.frameRate }

/-! ## Raised limits

Limits can only be lowered below those of the specification, so what passes the codec-neutral checks
under any limits passes them under those.
-/

section Raised

variable {limits : ValidationLimits} {pointer : String}

theorem ensureMaxCount_raised {ceiling actual : Nat} {limit : Limit ceiling} {resource : String}
    (accepted : ensureMaxCount actual limit.val pointer resource = .ok ()) :
    ensureMaxCount actual (Limit.specification ceiling).val pointer resource = .ok () := by
  rw [ensureMaxCount, refuseWhen_eq_ok] at *
  have below := limit.property
  show ¬ actual > ceiling
  omega

theorem validateBoundedString_raised {ceiling : Nat} {limit : Limit ceiling} {value label : String}
    (accepted : validateBoundedString value limit.val pointer label = .ok ()) :
    validateBoundedString value (Limit.specification ceiling).val pointer label = .ok () := by
  rw [validateBoundedString, refuseWhen_eq_ok] at *
  have below := limit.property
  show ¬ value.utf8ByteSize > ceiling
  omega

theorem validateIdentifier_raised {identifier : Identifier}
    (accepted : validateIdentifier identifier pointer limits = .ok ()) :
    validateIdentifier identifier pointer .specification = .ok () := by
  rw [validateIdentifier_eq_ok] at *
  obtain ⟨some, bounded, start, bytes⟩ := accepted
  exact ⟨some, bounded.trans limits.identifierBytes.property, start, bytes⟩

theorem checkIndexed_mono {α : Type} {check weaker : α → String → Except CartridgeError Unit}
    (implies : ∀ record pointer, check record pointer = .ok () → weaker record pointer = .ok ())
    {records : List α} {index : Nat}
    (accepted : checkIndexed check pointer records index = .ok ()) :
    checkIndexed weaker pointer records index = .ok () := by
  induction records generalizing index with
  | nil => rfl
  | cons record records ih =>
    rw [checkIndexed, check_eq_ok] at *
    exact ⟨implies _ _ accepted.1, ih accepted.2⟩

theorem checkOptional_mono {α : Type} {check weaker : α → Except CartridgeError Unit}
    (implies : ∀ value, check value = .ok () → weaker value = .ok ()) {value : Option α}
    (accepted : checkOptional check value = .ok ()) : checkOptional weaker value = .ok () := by
  cases value with
  | none => rfl
  | some value => exact implies value accepted

mutual

theorem validateJsonValue_raised : ∀ (value : Value) (pointer : String),
    validateJsonValue limits value pointer = .ok () →
      validateJsonValue .specification value pointer = .ok ()
  | .null, _, _ => rfl
  | .bool _, _, _ => rfl
  | .number _, _, accepted => accepted
  | .string _, _, accepted => validateBoundedString_raised accepted
  | .array items, pointer, accepted => validateJsonItems_raised items pointer 0 accepted
  | .object members, pointer, accepted => validateJsonMembers_raised members pointer accepted

theorem validateJsonItems_raised : ∀ (items : List Value) (pointer : String) (index : Nat),
    validateJsonItems limits items pointer index = .ok () →
      validateJsonItems .specification items pointer index = .ok ()
  | [], _, _, _ => rfl
  | item :: items, pointer, index, accepted => by
    rw [validateJsonItems, check_eq_ok] at *
    exact ⟨validateJsonValue_raised item _ accepted.1,
      validateJsonItems_raised items pointer _ accepted.2⟩

theorem validateJsonMembers_raised : ∀ (members : List (String × Value)) (pointer : String),
    validateJsonMembers limits members pointer = .ok () →
      validateJsonMembers .specification members pointer = .ok ()
  | [], _, _ => rfl
  | (key, value) :: members, pointer, accepted => by
    rw [validateJsonMembers, check_eq_ok, check_eq_ok] at *
    exact ⟨validateBoundedString_raised accepted.1, validateJsonValue_raised value _ accepted.2.1,
      validateJsonMembers_raised members pointer accepted.2.2⟩

end

variable {decoder : ManifestDecoder} {manifest : ManifestV0_1}

theorem validateManifestShape_raised (accepted : validateManifestShape manifest limits = .ok ()) :
    validateManifestShape manifest .specification = .ok () := by
  rw [validateManifestShape, check_eq_ok, check_eq_ok, check_eq_ok, check_eq_ok, check_eq_ok,
    check_eq_ok] at *
  obtain ⟨version, payload, tensors, some, parents, operations, sources⟩ := accepted
  exact ⟨version, payload, ensureMaxCount_raised tensors, some, ensureMaxCount_raised parents,
    ensureMaxCount_raised operations, ensureMaxCount_raised sources⟩

theorem validatePreview_raised {preview : PreviewDescriptor}
    (accepted : validatePreview preview limits = .ok ()) :
    validatePreview preview .specification = .ok () := by
  rw [validatePreview, check_eq_ok, check_eq_ok] at *
  obtain ⟨named, sized, rest⟩ := accepted
  refine ⟨named, ?_, rest⟩
  rw [refuseWhen_eq_ok, not_or] at *
  have below := limits.previewBytes.property
  refine ⟨sized.1, ?_⟩
  show ¬ preview.byteLength > maxPreviewBytes
  omega

theorem validateManifestIdentity_raised
    (accepted : validateManifestIdentity decoder manifest limits = .ok ()) :
    validateManifestIdentity decoder manifest .specification = .ok () := by
  rw [validateManifestIdentity, check_eq_ok, check_eq_ok, check_eq_ok, check_eq_ok, check_eq_ok,
    check_eq_ok, check_eq_ok, check_eq_ok] at *
  obtain ⟨cartridge, payloads, preview, rate, duration, family, profile, contract, creator⟩ :=
    accepted
  exact ⟨cartridge, payloads, checkOptional_mono (fun _ => validatePreview_raised) preview, rate,
    duration, validateIdentifier_raised family, validateIdentifier_raised profile,
    validateIdentifier_raised contract, validateIdentifier_raised creator⟩

theorem validateTensorDescriptor_raised {tensor : TensorDescriptor}
    (accepted : validateTensorDescriptor limits tensor pointer = .ok ()) :
    validateTensorDescriptor .specification tensor pointer = .ok () := by
  rw [validateTensorDescriptor, check_eq_ok, check_eq_ok, check_eq_ok] at *
  obtain ⟨rank, name, storage, runtime⟩ := accepted
  exact ⟨ensureMaxCount_raised rank, validateIdentifier_raised name, storage, runtime⟩

theorem validateProvenanceSource_raised {source : ProvenanceSource}
    (accepted : validateProvenanceSource limits source pointer = .ok ()) :
    validateProvenanceSource .specification source pointer = .ok () := by
  rw [validateProvenanceSource, check_eq_ok, check_eq_ok, check_eq_ok, check_eq_ok] at *
  obtain ⟨kind, digest, uri, license, metadata⟩ := accepted
  exact ⟨validateIdentifier_raised kind, digest,
    checkOptional_mono (fun _ => validateBoundedString_raised) uri,
    checkOptional_mono (fun _ => validateBoundedString_raised) license,
    checkOptional_mono (fun _ => validateJsonMembers_raised _ _) metadata⟩

theorem validateProvenance_raised (accepted : validateProvenance decoder manifest limits = .ok ()) :
    validateProvenance decoder manifest .specification = .ok () := by
  rw [validateProvenance, check_eq_ok, check_eq_ok] at *
  obtain ⟨version, created, sources⟩ := accepted
  exact ⟨validateBoundedString_raised version, created,
    checkIndexed_mono (fun _ _ => validateProvenanceSource_raised) sources⟩

theorem validateParent_raised {parent : ParentCartridge}
    (accepted : validateParent decoder limits parent pointer = .ok ()) :
    validateParent decoder .specification parent pointer = .ok () := by
  rw [validateParent, check_eq_ok, check_eq_ok] at *
  obtain ⟨cartridge, digest, role⟩ := accepted
  exact ⟨cartridge, digest, validateIdentifier_raised role⟩

theorem validateOperation_raised {operation : OperationRecord}
    (accepted : validateOperation limits operation pointer = .ok ()) :
    validateOperation .specification operation pointer = .ok () := by
  rw [validateOperation, check_eq_ok, check_eq_ok, check_eq_ok, check_eq_ok] at *
  obtain ⟨controls, seed, operator, version, values⟩ := accepted
  exact ⟨ensureMaxCount_raised controls, seed, validateIdentifier_raised operator,
    validateBoundedString_raised version, validateJsonMembers_raised _ _ values⟩

theorem validateCommon_raised (accepted : manifest.validateCommon decoder limits = .ok ()) :
    manifest.validateCommon decoder .specification = .ok () := by
  rw [ManifestV0_1.validateCommon, check_eq_ok, check_eq_ok, check_eq_ok, check_eq_ok] at *
  obtain ⟨shape, identity, tensors, provenance, genealogy⟩ := accepted
  rw [validateGenealogy, check_eq_ok, check_eq_ok] at *
  obtain ⟨parents, operations, source⟩ := genealogy
  exact ⟨validateManifestShape_raised shape, validateManifestIdentity_raised identity,
    checkIndexed_mono (fun _ _ => validateTensorDescriptor_raised) tensors,
    validateProvenance_raised provenance,
    checkIndexed_mono (fun _ _ => validateParent_raised) parents,
    checkIndexed_mono (fun _ _ => validateOperation_raised) operations, source⟩

end Raised

/-- The signal geometry of a clip that the profile accepted. -/
def ValidatedH3Profile.geometry (profile : ValidatedH3Profile) : CodecNeutralSignalGeometry where
  runtimeDtype := profile.compatibilityKey.runtimeDtype
  batch := profile.compatibilityKey.batch
  latentChannels := profile.compatibilityKey.latentChannels
  latentSlots := profile.visual.latentSlots
  latentHeight := profile.visual.latentHeight
  latentWidth := profile.visual.latentWidth
  decodedFrameCount := profile.visual.decodedFrameCount
  decodedHeight := profile.visual.decodedHeight
  decodedWidth := profile.visual.decodedWidth
  frameRate := profile.compatibilityKey.frameRate

theorem onlyVisual_ok {tensors : List TensorDescriptor} {visual : TensorDescriptor}
    (only : (tensors.filter fun tensor => decide (tensor.stream = .visual)) = [visual]) :
    ∃ index, onlyVisual tensors = .ok (visual, index) := by
  have places : (tensors.zipIdx.filter fun entry =>
      decide (entry.1.stream = .visual)).map Prod.fst = [visual] := by
    rw [← only, ← List.zipIdx_map_fst 0 tensors, List.filter_map, List.zipIdx_map_fst]
    rfl
  obtain ⟨entry, alone, same⟩ := List.map_eq_singleton_iff.mp places
  refine ⟨entry.2, ?_⟩
  rw [onlyVisual, alone, ← same]

theorem H3Clip.only_visual {manifest : ManifestV0_1} {profile : ValidatedH3Profile}
    {limits : ValidationLimits} {video : TensorDescriptor} {cycles : Nat}
    {payload : PayloadDescriptor} (clip : H3Clip manifest profile limits video cycles payload) :
    (manifest.tensors.filter fun tensor => decide (tensor.stream = .visual)) = [video] := by
  have filtered := clip.tensors.filter fun tensor => decide (tensor.stream = .visual)
  have heard : (audioTensor manifest.tensors).toList.filter
      (fun tensor => decide (tensor.stream = .visual)) = [] := by
    rw [List.filter_eq_nil_iff]
    intro tensor member
    have found := List.find?_some (Option.mem_toList.mp member)
    have stream : tensor.stream = .audio := of_decide_eq_true found
    rw [stream]
    decide
  rw [List.filter_cons, if_pos (decide_eq_true clip.named.1), heard] at filtered
  exact List.perm_singleton.mp filtered

theorem checkDecodedDuration_ok {decoded : DecodedVideoDescriptor} {frames : Nat}
    (counted : decoded.frameCount = frames) (bound : frames < 2 ^ 64)
    (rate : decoded.frameRate = ⟨24, 1⟩)
    (reduced : Rational.reduced frames 24 = some decoded.duration) :
    checkDecodedDuration decoded = .ok () := by
  rw [checkDecodedDuration, bind_eq_ok, counted, rate]
  have multiplied : checkedMul frames 1 = some frames :=
    (checkedMul_eq_some ..).mpr ⟨by omega, by omega⟩
  refine ⟨frames, (orError_eq_ok ..).mpr multiplied, ?_⟩
  rw [bind_eq_ok]
  refine ⟨decoded.duration, (orError_eq_ok ..).mpr reduced, ?_⟩
  rw [refuseWhen_eq_ok, not_not]

/-- Every manifest that the profile accepts, under any limits, has a codec-neutral signal geometry,
and it is that of the profile. -/
theorem geometry_agrees_with_profile (decoder : ManifestDecoder) (manifest : ManifestV0_1)
    (limits : ValidationLimits) (profile : ValidatedH3Profile)
    (accepted : validateProfile decoder manifest limits = .ok profile) :
    validateCodecNeutralSignalGeometry decoder manifest = .ok profile.geometry := by
  obtain ⟨video, cycles, payload, clip⟩ := validateProfile_ok accepted
  rw [validateProfile, check_eq_ok] at accepted
  have common := validateCommon_raised accepted.1
  obtain ⟨index, found⟩ := onlyVisual_ok clip.only_visual
  have among : video ∈ manifest.tensors := clip.tensors.mem_iff.mpr List.mem_cons_self
  have frames := clip.visual.frames
  have bounded := clip.visual.bounded.trans limits.h3TemporalAxis.property
  simp only [maxH3TemporalAxis] at bounded
  have slots := clip.visual.slots
  have declared := clip.visual.declared
  have raster := clip.visual.raster
  have shape := clip.visual.shape
  rw [validateCodecNeutralSignalGeometry, check_eq_ok, bind_eq_ok]
  refine ⟨common, (video, index), found, ?_⟩
  rw [check_eq_ok, refuseWhen_eq_ok, bind_eq_ok]
  refine ⟨?_, payload, ?_, ?_⟩
  · have positive := (clip.sized video among).positive
    have runtime : video.runtimeDtype.isSupported = true := by
      rw [clip.visual.runtime]
      rfl
    rw [not_or, not_or, not_or, not_not, not_not, not_not]
    exact ⟨by rw [shape]; rfl, by rw [shape]; rfl, positive, runtime⟩
  · rw [firstPayload, orError_eq_ok, clip.carried.1]
    rfl
  · rw [check_eq_ok, check_eq_ok, refuseWhen_eq_ok, refuseWhen_eq_ok, not_not]
    refine ⟨clip.carried.2 video among, by omega, ?_⟩
    rw [check_eq_ok]
    refine ⟨checkDecodedDuration_ok declared (by omega) clip.rate clip.reduced, ?_⟩
    rw [ValidatedH3Profile.geometry, clip.key, shape, declared, clip.visual.height.2,
      clip.visual.width.2, clip.rate]
    rfl

/-- The clip has the geometry of its profile. -/
theorem sample_geometry_agrees : ∃ profile,
    validateProfile h3Sample.decoder.toManifestDecoder (clipManifest 2) .specification =
        .ok profile ∧
      validateCodecNeutralSignalGeometry h3Sample.decoder.toManifestDecoder (clipManifest 2) =
        .ok profile.geometry := by
  obtain ⟨profile, accepted⟩ := clip_profiled
  exact ⟨profile, accepted, geometry_agrees_with_profile _ _ _ profile accepted⟩

end LatentDeck.Archive
