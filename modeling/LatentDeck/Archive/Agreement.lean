import LatentDeck.Archive.TensorReads

/-!
# The two levels of validation agree

The full reader checks the H3 profile; the integrity reader checks what every cartridge has in
common. A cartridge that passes the first passes the second, with the same identity, the same
digests and, for every tensor name, the same shape and the same bytes.
-/

namespace LatentDeck.Archive

open Checked Fallible LittleEndian Streaming Tiling

theorem readHeader_tooLarge (decoder : HeaderDecoder) (medium : List UInt8) (entry : EntryRange)
    (entryName first second : String) (limits : ValidationLimits) (header : HeaderRead)
    (read : readHeader decoder medium entry entryName first limits = .ok header) :
    readHeader decoder medium entry entryName second limits = .ok header := by
  unfold readHeader at read ⊢
  rw [check_eq_ok, refuseWhen_eq_ok] at read ⊢
  exact read

/-- What an H3 preflight has read and checked. -/
structure H3SafetensorsPreflight.Checked (preflight : H3SafetensorsPreflight)
    (header : HeaderRead) (entry : EntryRange) (limits : ValidationLimits) : Prop where
  payload : preflight.payloadBytes = entry.length
  headerBytes : preflight.headerBytes = header.headerBytes
  start : preflight.dataOffset = header.dataOffset
  data : preflight.dataBytes = entry.length - header.dataOffset
  few : header.tensors.length ≤ limits.tensors.val
  video : ∃ raw, header.tensors.lookup "video" = some raw ∧
    validateVideo raw limits = .ok preflight.video
  audio : validateOptionalAudio (header.tensors.lookup "audio") limits = .ok preflight.audio
  closed : ∀ entry ∈ header.tensors.entries, entry.1 = "video" ∨ entry.1 = "audio"
  offsets : validateOffsets preflight.video preflight.audio preflight.dataBytes = .ok ()

theorem preflightH3Safetensors_ok (decoder : HeaderDecoder) (medium : List UInt8)
    (entry : EntryRange) (limits : ValidationLimits) (preflight : H3SafetensorsPreflight)
    (accepted : preflightH3Safetensors decoder medium entry limits = .ok preflight) :
    ∃ header, readHeader decoder medium entry h3EntryName
        "H3 Safetensors payload exceeds the configured limit" limits = .ok header ∧
      preflight.Checked header entry limits := by
  rw [preflightH3Safetensors, bind_eq_ok] at accepted
  obtain ⟨header, read, accepted⟩ := accepted
  rw [check_eq_ok, refuseWhen_eq_ok, Nat.not_lt, bind_eq_ok] at accepted
  obtain ⟨few, rawVideo, found, accepted⟩ := accepted
  obtain ⟨video, videoChecked, accepted⟩ := ok_of_bind accepted
  rw [bind_eq_ok, SortedMap.lookup_erase_of_ne _ _ _ (by decide)] at accepted
  obtain ⟨audio, audioChecked, accepted⟩ := accepted
  split at accepted
  · exact nomatch accepted
  · rename_i rest
    rw [check_eq_ok] at accepted
    obtain ⟨offsets, same⟩ := accepted
    cases same
    refine ⟨header, read, {
      payload := rfl
      headerBytes := rfl
      start := rfl
      data := rfl
      few
      video := ⟨rawVideo, (orError_eq_ok ..).mp found, videoChecked⟩
      audio := audioChecked
      closed := fun entry member => ?_
      offsets }⟩
    by_contra other
    rw [not_or] at other
    have left : entry ∈ ((header.tensors.erase "video").erase "audio").entries :=
      (SortedMap.mem_erase ..).mpr ⟨(SortedMap.mem_erase ..).mpr ⟨member, other.1⟩, other.2⟩
    rw [List.head?_eq_none_iff.mp rest] at left
    exact nomatch left

/-- A tensor of the profile passes the common check and has elements. -/
theorem validateVideo_ok (raw : RawTensorDescriptor) (limits : ValidationLimits)
    (tensor : SafetensorTensorDescriptor) (accepted : validateVideo raw limits = .ok tensor) :
    validateCommon "video" raw limits = .ok tensor ∧ 0 ∉ tensor.shape := by
  rw [validateVideo, bind_eq_ok] at accepted
  obtain ⟨descriptor, common, accepted⟩ := accepted
  rw [check_eq_ok, refuseWhen_eq_ok, check_eq_ok] at accepted
  obtain ⟨shaped, -, same⟩ := accepted
  cases same
  refine ⟨common, ?_⟩
  simp only [not_or, not_not] at shaped
  obtain ⟨rank, batch, channels, axes⟩ := shaped
  match shape : tensor.shape, rank with
  | [first, second, third, fourth, fifth], _ =>
    rw [shape] at batch channels axes
    simp only [List.getD_cons_zero, List.getD_cons_succ, List.drop_succ_cons, List.drop_zero]
      at batch channels axes
    rw [List.mem_cons, List.mem_cons, batch, channels]
    simp only [axes, or_false]
    decide

theorem validateAudio_ok (raw : RawTensorDescriptor) (limits : ValidationLimits)
    (tensor : SafetensorTensorDescriptor) (accepted : validateAudio raw limits = .ok tensor) :
    validateCommon "audio" raw limits = .ok tensor ∧ 0 ∉ tensor.shape := by
  rw [validateAudio, bind_eq_ok] at accepted
  obtain ⟨descriptor, common, accepted⟩ := accepted
  rw [check_eq_ok, refuseWhen_eq_ok, check_eq_ok] at accepted
  obtain ⟨shaped, -, same⟩ := accepted
  cases same
  refine ⟨common, ?_⟩
  simp only [not_or, not_not] at shaped
  obtain ⟨rank, batch, channels, stereo, slots⟩ := shaped
  match shape : tensor.shape, rank with
  | [first, second, third, fourth], _ =>
    rw [shape] at batch channels stereo slots
    simp only [List.getD_cons_zero, List.getD_cons_succ] at batch channels stereo slots
    simp only [List.mem_cons, List.not_mem_nil, or_false, batch, channels, stereo]
    omega

def H3SafetensorsPreflight.entries (preflight : H3SafetensorsPreflight) :
    List (String × SafetensorTensorDescriptor) :=
  ("video", preflight.video) :: (preflight.audio.map fun audio => ("audio", audio)).toList

/-- The tensors of an H3 preflight, video first. -/
def H3SafetensorsPreflight.tensors (preflight : H3SafetensorsPreflight) :
    List SafetensorTensorDescriptor :=
  preflight.video :: preflight.audio.toList

theorem H3SafetensorsPreflight.entries_values (preflight : H3SafetensorsPreflight) :
    preflight.entries.map Prod.snd = preflight.tensors := by
  cases audio : preflight.audio <;> simp [entries, tensors, audio]

theorem H3SafetensorsPreflight.entries_nodup (preflight : H3SafetensorsPreflight) :
    preflight.entries.Nodup := by
  cases audio : preflight.audio <;> simp [entries, audio]

section Headers

variable {preflight : H3SafetensorsPreflight} {header : HeaderRead} {entry : EntryRange}
  {limits : ValidationLimits}

section

variable (checked : preflight.Checked header entry limits)

include checked

/-- The audio tensor of an H3 preflight is the one of the header. -/
theorem H3SafetensorsPreflight.Checked.audio_iff (tensor : SafetensorTensorDescriptor) :
    preflight.audio = some tensor ↔ ∃ raw, header.tensors.lookup "audio" = some raw ∧
      validateAudio raw limits = .ok tensor := by
  have audio := checked.audio
  cases found : header.tensors.lookup "audio" with
  | none =>
    rw [found] at audio
    rw [← Except.ok.inj audio]
    exact ⟨nofun, fun ⟨_, same, _⟩ => (nomatch same)⟩
  | some raw =>
    rw [found, validateOptionalAudio, bind_eq_ok] at audio
    obtain ⟨descriptor, accepted, same⟩ := audio
    rw [← Except.ok.inj same, Option.some.injEq]
    constructor
    · rintro rfl
      exact ⟨raw, rfl, accepted⟩
    · rintro ⟨again, same, validated⟩
      rw [← Option.some.inj same, accepted] at validated
      exact Except.ok.inj validated

/-- The common check of every tensor succeeds on the header of an H3 preflight, with the same
tensors. -/
theorem H3SafetensorsPreflight.Checked.traversed :
    ∃ tensors, (header.tensors.traverse fun name raw => validateCommon name raw limits) =
        .ok tensors ∧
      ∀ entry, entry ∈ tensors.entries ↔ entry ∈ preflight.entries := by
  obtain ⟨rawVideo, foundVideo, video⟩ := checked.video
  have common := (validateVideo_ok _ _ _ video).1
  have each : ∀ entry ∈ header.tensors.entries,
      ∃ tensor, validateCommon entry.1 entry.2 limits = .ok tensor ∧
        (entry.1, tensor) ∈ preflight.entries := by
    rintro ⟨name, raw⟩ member
    have found := (SortedMap.lookup_eq_some ..).mpr member
    rcases checked.closed _ member with rfl | rfl
    · obtain rfl := Option.some.inj (foundVideo.symm.trans found)
      exact ⟨_, common, List.mem_cons_self⟩
    · have audio := checked.audio
      rw [found, validateOptionalAudio, bind_eq_ok] at audio
      obtain ⟨descriptor, accepted, same⟩ := audio
      refine ⟨descriptor, (validateAudio_ok _ _ _ accepted).1, List.mem_cons_of_mem _ ?_⟩
      rw [← Except.ok.inj same]
      exact List.mem_singleton_self _
  obtain ⟨tensors, traversed⟩ := SortedMap.traverse_succeeds header.tensors
    (fun name raw => validateCommon name raw limits) fun entry member => by
      obtain ⟨tensor, accepted, -⟩ := each entry member
      exact ⟨tensor, accepted⟩
  refine ⟨tensors, traversed, ?_⟩
  rintro ⟨name, tensor⟩
  constructor
  · intro member
    obtain ⟨raw, inside, accepted⟩ := SortedMap.mem_of_traverse _ _ _ traversed _ member
    obtain ⟨other, again, listed⟩ := each _ inside
    obtain rfl := Except.ok.inj (accepted.symm.trans again)
    exact listed
  · intro member
    have looked : ∃ raw, header.tensors.lookup name = some raw ∧
        validateCommon name raw limits = .ok tensor := by
      rcases List.mem_cons.mp member with same | later
      · cases same
        exact ⟨rawVideo, foundVideo, common⟩
      · obtain ⟨audio, present, same⟩ := Option.map_eq_some_iff.mp (Option.mem_toList.mp later)
        cases same
        obtain ⟨raw, found, accepted⟩ := (checked.audio_iff _).mp present
        exact ⟨raw, found, (validateAudio_ok _ _ _ accepted).1⟩
    obtain ⟨raw, found, accepted⟩ := looked
    obtain ⟨computed, stated, same⟩ :=
      SortedMap.lookup_of_traverse _ _ _ traversed name raw found
    obtain rfl := Except.ok.inj (accepted.symm.trans same)
    exact (SortedMap.lookup_eq_some ..).mp stated

theorem H3SafetensorsPreflight.Checked.admitted
    (tensor : SafetensorTensorDescriptor) (member : tensor ∈ preflight.tensors) :
    tensor.Admitted limits ∧ 0 ∉ tensor.shape := by
  rcases List.mem_cons.mp member with rfl | later
  · obtain ⟨raw, -, accepted⟩ := checked.video
    obtain ⟨common, elements⟩ := validateVideo_ok _ _ _ accepted
    exact ⟨(validateCommon_ok _ _ _ _ common).2, elements⟩
  · obtain ⟨raw, -, accepted⟩ := (checked.audio_iff _).mp (Option.mem_toList.mp later)
    obtain ⟨common, elements⟩ := validateAudio_ok _ _ _ accepted
    exact ⟨(validateCommon_ok _ _ _ _ common).2, elements⟩

end

end Headers

/-- The two preflights of one payload state the same layout. -/
structure SafetensorsPreflight.Agrees (preflight : SafetensorsPreflight)
    (profile : H3SafetensorsPreflight) : Prop where
  payload : preflight.payloadBytes = profile.payloadBytes
  header : preflight.headerBytes = profile.headerBytes
  start : preflight.dataOffset = profile.dataOffset
  data : preflight.dataBytes = profile.dataBytes
  tensors : ∀ entry, entry ∈ preflight.tensors.entries ↔ entry ∈ profile.entries

variable {preflight : SafetensorsPreflight} {profile : H3SafetensorsPreflight}

theorem SafetensorsPreflight.Agrees.values_perm (agrees : preflight.Agrees profile) :
    preflight.tensors.values.Perm profile.tensors := by
  rw [← profile.entries_values]
  exact preflight.tensors.values_perm profile.entries profile.entries_nodup agrees.tensors

/-- Preflights that agree state the same tensor under a name. -/
theorem SafetensorsPreflight.Agrees.lookup (agrees : preflight.Agrees profile) (name : String)
    (tensor : SafetensorTensorDescriptor) :
    preflight.tensors.lookup name = some tensor ↔ profile.tensor name = .ok tensor := by
  rw [SortedMap.lookup_eq_some, agrees.tensors, H3SafetensorsPreflight.entries, List.mem_cons,
    Option.mem_toList, Option.map_eq_some_iff, H3SafetensorsPreflight.tensor, Prod.mk.injEq]
  by_cases video : name = "video"
  · rw [if_pos video, Except.ok.injEq]
    constructor
    · rintro (⟨-, rfl⟩ | ⟨audio, -, same⟩)
      · rfl
      · have other : "audio" = "video" := (congrArg Prod.fst same).trans video
        exact absurd other (by decide)
    · exact fun same => .inl ⟨video, same.symm⟩
  · rw [if_neg video]
    by_cases audio : name = "audio"
    · rw [if_pos audio, orError_eq_ok]
      constructor
      · rintro (⟨same, -⟩ | ⟨found, present, same⟩)
        · exact absurd same video
        · obtain ⟨-, rfl⟩ := Prod.mk.inj same
          exact present
      · exact fun present => .inr ⟨tensor, present, by rw [audio]⟩
    · rw [if_neg audio]
      constructor
      · rintro (⟨same, -⟩ | ⟨found, -, same⟩)
        · exact absurd same video
        · exact absurd (congrArg Prod.fst same).symm audio
      · exact nofun

variable {limits : ValidationLimits}

theorem SafetensorTensorDescriptor.Admitted.nonempty {tensor : SafetensorTensorDescriptor}
    (admitted : tensor.Admitted limits) (elements : 0 ∉ tensor.shape) : 0 < tensor.byteLength := by
  have width : 0 < tensor.dtype.byteWidth := by cases tensor.dtype <;> decide
  rw [admitted.exact]
  exact Nat.mul_pos (Nat.pos_of_ne_zero (List.prod_ne_zero elements)) width

/-- The offset check does not depend on the order of tensors that have elements. -/
theorem validateGenericOffsets_perm {first second : List SafetensorTensorDescriptor}
    (rearranged : first.Perm second)
    (admitted : ∀ tensor ∈ first, tensor.Admitted limits ∧ 0 ∉ tensor.shape) (dataBytes : Nat)
    (entryName : String) (accepted : validateGenericOffsets first dataBytes entryName = .ok ()) :
    validateGenericOffsets second dataBytes entryName = .ok () := by
  have described : ∀ tensor ∈ first,
      tensor.dataOffsets.2 = tensor.dataOffsets.1 + tensor.byteLength :=
    fun tensor member => (admitted tensor member).1.stop
  rw [validateGenericOffsets_eq_ok _ _ _ described] at accepted
  rw [validateGenericOffsets_eq_ok _ _ _ fun tensor member =>
    described tensor (rearranged.mem_iff.mpr member)]
  apply covers_perm (rearranged.map SafetensorTensorDescriptor.range) _ accepted
  rw [List.forall_mem_map]
  exact fun tensor member => (admitted tensor member).1.nonempty (admitted tensor member).2

/-- A payload that passes the H3 preflight passes the codec-neutral one, with the same layout. -/
theorem preflightSafetensors_of_h3 (decoder : HeaderDecoder) (medium : List UInt8)
    (entry : EntryRange) (limits : ValidationLimits) (profile : H3SafetensorsPreflight)
    (accepted : preflightH3Safetensors decoder medium entry limits = .ok profile) :
    (∃ preflight, preflightSafetensors decoder medium entry h3EntryName limits = .ok preflight ∧
      preflight.Agrees profile) ∧
      ∀ tensor ∈ profile.tensors, tensor.Admitted limits ∧ 0 ∉ tensor.shape := by
  obtain ⟨header, read, checked⟩ := preflightH3Safetensors_ok _ _ _ _ _ accepted
  obtain ⟨tensors, traversed, same⟩ := checked.traversed
  obtain ⟨rawVideo, found, -⟩ := checked.video
  have counted : header.tensors.length ≠ 0 := by
    intro none
    have empty := List.length_eq_zero_iff.mp none
    have member := (SortedMap.lookup_eq_some ..).mp found
    rw [empty] at member
    exact nomatch member
  have rearranged : tensors.values.Perm profile.tensors := by
    rw [← profile.entries_values]
    exact tensors.values_perm profile.entries profile.entries_nodup same
  have offsets := validateGenericOffsets_perm rearranged.symm checked.admitted _ _ checked.offsets
  rw [checked.data] at offsets
  let preflight : SafetensorsPreflight := {
    payloadBytes := entry.length
    headerBytes := header.headerBytes
    dataOffset := header.dataOffset
    dataBytes := entry.length - header.dataOffset
    tensors }
  refine ⟨⟨preflight, ?_, ?_⟩, checked.admitted⟩
  · rw [preflightSafetensors, bind_eq_ok]
    refine ⟨header, readHeader_tooLarge _ _ _ _ _ _ _ _ read, ?_⟩
    rw [check_eq_ok, refuseWhen_eq_ok, not_or, bind_eq_ok]
    refine ⟨⟨counted, Nat.not_lt.mpr checked.few⟩, tensors, traversed, ?_⟩
    rw [check_eq_ok]
    exact ⟨offsets, rfl⟩
  · exact {
      payload := checked.payload.symm
      header := checked.headerBytes.symm
      start := checked.start.symm
      data := checked.data.symm
      tensors := same }

/-- The only descriptor of a stream and a name is the only one that the filter leaves. -/
theorem exactlyOne_eq_ok (tensors : List TensorDescriptor) (stream : TensorStream) (name : String)
    (missing duplicated : CartridgeError) (tensor : TensorDescriptor) :
    exactlyOne tensors stream name missing duplicated = .ok tensor ↔
      (tensors.filter fun tensor => tensor.stream = stream ∧ tensor.name = name) = [tensor] := by
  unfold exactlyOne
  split
  · rename_i none
    rw [none]
    exact ⟨nofun, nofun⟩
  · rename_i found only
    rw [only, Except.ok.injEq, List.cons.injEq, and_iff_left rfl]
  · rename_i first second rest several
    rw [several]
    exact ⟨nofun, nofun⟩

/-- The descriptors of an H3 manifest are one of the video and at most one of the audio. -/
theorem profile_descriptors (tensors : List TensorDescriptor) (visual : TensorDescriptor)
    (missing duplicated : CartridgeError) (few : tensors.length ≤ maxTensors)
    (known : validateTensorSet tensors = .ok ())
    (only : exactlyOne tensors .visual "video" missing duplicated = .ok visual) :
    visual.name = "video" ∧ tensors.Perm (visual :: (audioTensor tensors).toList) ∧
      ∀ audio, audioTensor tensors = some audio → audio.name = "audio" := by
  let isVideo := fun tensor : TensorDescriptor =>
    decide (tensor.stream = .visual ∧ tensor.name = "video")
  have single : tensors.filter isVideo = [visual] := (exactlyOne_eq_ok ..).mp only
  have among : visual ∈ tensors.filter isVideo := single ▸ List.mem_singleton_self visual
  obtain ⟨-, isVisual⟩ := List.mem_filter.mp among
  obtain ⟨stream, name⟩ := of_decide_eq_true isVisual
  have parts : (visual :: tensors.filter fun tensor => !isVideo tensor).Perm tensors := by
    have split := List.filter_append_perm isVideo tensors
    rwa [single] at split
  -- What is not the video is known, so it is the audio.
  have others : ∀ tensor ∈ tensors.filter fun tensor => !isVideo tensor,
      tensor.stream = .audio ∧ tensor.name = "audio" := by
    intro tensor member
    obtain ⟨inside, other⟩ := List.mem_filter.mp member
    have checked := (checkEach_eq_ok ..).mp known tensor inside
    rw [validateKnownTensor, check_eq_ok, refuseWhen_eq_ok, refuseWhen_eq_ok, not_not,
      knownTensor, Bool.or_eq_true, Bool.and_eq_true, Bool.and_eq_true, beq_iff_eq, beq_iff_eq,
      beq_iff_eq, beq_iff_eq] at checked
    rcases not_not.mp checked.2 with video | audio
    · rw [Bool.not_eq_true', decide_eq_false_iff_not] at other
      exact absurd video other
    · exact audio
  have found : (audioTensor tensors).toList = tensors.filter fun tensor => !isVideo tensor := by
    have counted := parts.length_eq
    rw [List.length_cons] at counted
    simp only [maxTensors] at few
    match rest : tensors.filter fun tensor => !isVideo tensor with
    | [] =>
      rw [rest] at parts
      have absent : audioTensor tensors = none := by
        rw [audioTensor, List.find?_eq_none]
        intro tensor member
        rw [← parts.mem_iff, List.mem_singleton] at member
        rw [member, stream]
        decide
      rw [absent]
      rfl
    | [audio] =>
      rw [rest] at parts others
      have isAudio := others audio (List.mem_singleton_self audio)
      cases searched : audioTensor tensors with
      | none =>
        rw [audioTensor, List.find?_eq_none] at searched
        have member : audio ∈ tensors :=
          parts.mem_iff.mp (List.mem_cons_of_mem _ (List.mem_singleton_self audio))
        exact absurd (decide_eq_true isAudio.1) (searched audio member)
      | some tensor =>
        rw [audioTensor] at searched
        have tested := List.find?_some searched
        have same := of_decide_eq_true tested
        have member := parts.mem_iff.mpr (List.mem_of_find?_eq_some searched)
        rcases List.mem_cons.mp member with rfl | later
        · rw [stream] at same
          exact nomatch same
        · rw [List.mem_singleton.mp later]
          rfl
    | first :: second :: others =>
      rw [rest, List.length_cons, List.length_cons] at counted
      omega
  refine ⟨name, found ▸ parts.symm, fun audio present => ?_⟩
  have member : audio ∈ (audioTensor tensors).toList := Option.mem_toList.mpr present
  rw [found] at member
  exact (others audio member).2

/-- Descriptors that pass the profile's cross-check pass the codec-neutral one. -/
theorem crosscheck_of_h3 (tensors : List TensorDescriptor) (profile : H3SafetensorsPreflight)
    (preflight : SafetensorsPreflight) (agrees : preflight.Agrees profile)
    (few : tensors.length ≤ maxTensors) (known : validateTensorSet tensors = .ok ())
    (accepted : crosscheckTensorDescriptors tensors profile = .ok ()) :
    crosscheckIntegrityTensorDescriptors tensors h3EntryName preflight = .ok () := by
  rw [crosscheckTensorDescriptors, bind_eq_ok] at accepted
  obtain ⟨visual, only, accepted⟩ := accepted
  rw [check_eq_ok, crosscheckTensor, refuseWhen_eq_ok, not_or, not_or, not_or] at accepted
  obtain ⟨⟨-, payload, dtype, shape⟩, accepted⟩ := accepted
  obtain ⟨visualName, rearranged, audioName⟩ :=
    profile_descriptors tensors visual _ _ few known only
  have matchesVideo : visual.Matches h3EntryName preflight.tensors :=
    ⟨profile.video, (agrees.lookup ..).mpr (by rw [visualName]; rfl), not_not.mp payload,
      not_not.mp dtype, not_not.mp shape⟩
  have lengths := agrees.values_perm.length_eq
  have counted := rearranged.length_eq
  rw [SortedMap.values, List.length_map, H3SafetensorsPreflight.tensors, List.length_cons]
    at lengths
  rw [List.length_cons] at counted
  have distinct : ∀ names : List TensorDescriptor, tensors.Perm names →
      (names.map TensorDescriptor.name).Nodup → (tensors.map TensorDescriptor.name).Nodup :=
    fun names perm nodup => (perm.map TensorDescriptor.name).nodup_iff.mpr nodup
  rw [crosscheckIntegrityTensorDescriptors, check_eq_ok, refuseWhen_eq_ok, not_not,
    crosscheckIntegrityTensors_eq_ok]
  cases described : audioTensor tensors with
  | none =>
    rw [described] at accepted rearranged counted
    cases audio : profile.audio with
    | some header =>
      rw [audio] at accepted
      cases accepted
    | none =>
      rw [audio] at lengths
      refine ⟨?_, distinct _ rearranged (List.nodup_singleton _),
        fun _ _ => List.not_mem_nil, fun descriptor member => ?_⟩
      · exact counted.trans lengths.symm
      · rw [rearranged.mem_iff] at member
        rw [List.mem_singleton.mp member]
        exact matchesVideo
  | some audioDescriptor =>
    rw [described] at accepted rearranged counted
    cases audio : profile.audio with
    | none =>
      rw [audio] at accepted
      cases accepted
    | some header =>
      rw [audio] at accepted lengths
      have named := audioName audioDescriptor described
      dsimp only at accepted
      rw [crosscheckTensor, refuseWhen_eq_ok, not_or, not_or, not_or] at accepted
      obtain ⟨-, audioPayload, audioDtype, audioShape⟩ := accepted
      have matchesAudio : audioDescriptor.Matches h3EntryName preflight.tensors :=
        ⟨header, (agrees.lookup ..).mpr (by
            rw [named, H3SafetensorsPreflight.tensor, if_neg (by decide), if_pos rfl, audio]
            rfl), not_not.mp audioPayload, not_not.mp audioDtype, not_not.mp audioShape⟩
      refine ⟨?_, distinct _ rearranged ?_, fun _ _ => List.not_mem_nil,
        fun descriptor member => ?_⟩
      · exact counted.trans lengths.symm
      · simp only [Option.toList_some, List.map_cons, List.map_nil, visualName, named]
        decide
      · rw [rearranged.mem_iff] at member
        rcases List.mem_cons.mp member with rfl | later
        · exact matchesVideo
        · rw [List.mem_singleton.mp later]
          exact matchesAudio

/-- What both inspections of one archive have in common. -/
structure CartridgeInspection.Refines (profile : CartridgeInspection)
    (inspection : IntegrityInspection) (payload : PayloadDescriptor) (limits : ValidationLimits) :
    Prop where
  archive : inspection.archive = profile.archive
  manifest : inspection.manifest = profile.manifest
  only : onlyPayload profile.manifest = .ok payload
  path : payload.path = h3EntryName
  agrees : inspection.safetensors.Agrees profile.safetensors
  admitted : ∀ tensor ∈ profile.safetensors.tensors, tensor.Admitted limits ∧ 0 ∉ tensor.shape

/-- The payload entry of both descriptor checks is the same. -/
theorem validateIntegrityArchiveDescriptors_of_h3 (archive : ArchiveIndex)
    (manifest : ManifestV0_1) (accepted : validateArchiveDescriptors archive manifest = .ok ()) :
    validateIntegrityArchiveDescriptors archive manifest = .ok () ∧
      ∃ payload, onlyPayload manifest = .ok payload ∧ payload.path = h3EntryName := by
  rw [validateArchiveDescriptors, bind_eq_ok] at accepted
  obtain ⟨payload, only, accepted⟩ := accepted
  dsimp only at accepted
  rw [check_eq_ok, refuseWhen_eq_ok, not_or, not_not, not_not, bind_eq_ok] at accepted
  obtain ⟨⟨path, mediaType⟩, entry, found, accepted⟩ := accepted
  rw [check_eq_ok, refuseWhen_eq_ok] at accepted
  obtain ⟨size, preview⟩ := accepted
  refine ⟨?_, payload, only, path⟩
  rw [validateIntegrityArchiveDescriptors, bind_eq_ok]
  refine ⟨payload, only, ?_⟩
  rw [bind_eq_ok, path]
  refine ⟨entry, found, ?_⟩
  rw [check_eq_ok, refuseWhen_eq_ok, not_or, not_not]
  exact ⟨⟨mediaType, size⟩, preview⟩

variable (decoder : CartridgeDecoder)

/-- An archive that passes the full inspection passes the integrity inspection. -/
theorem inspectIntegrityFile_of_h3 (medium : List UInt8)
    (limits : ValidationLimits) (profile : CartridgeInspection)
    (accepted : inspectFile decoder medium limits = .ok profile) :
    ∃ inspection payload, inspectIntegrityFile decoder medium limits = .ok inspection ∧
      profile.Refines inspection payload limits := by
  rw [inspectFile, bind_eq_ok] at accepted
  obtain ⟨archive, indexed, accepted⟩ := accepted
  obtain ⟨manifest, read, accepted⟩ := ok_of_bind accepted
  rw [check_eq_ok, bind_eq_ok] at accepted
  obtain ⟨described, validated, profiled, accepted⟩ := accepted
  obtain ⟨payloadEntry, found, accepted⟩ := ok_of_bind accepted
  obtain ⟨h3, preflighted, accepted⟩ := ok_of_bind accepted
  rw [check_eq_ok, check_eq_ok] at accepted
  obtain ⟨crosschecked, previewed, same⟩ := accepted
  cases same
  obtain ⟨descriptors, payload, only, path⟩ :=
    validateIntegrityArchiveDescriptors_of_h3 archive manifest described
  obtain ⟨⟨preflight, generic, agrees⟩, admitted⟩ :=
    preflightSafetensors_of_h3 _ _ _ _ _ preflighted
  have few := (validateCommon_tensors manifest _ limits (readManifest_ok _ _ _ _ _ read).1).few
  rw [validateProfile, check_eq_ok, check_eq_ok, check_eq_ok] at profiled
  have known := profiled.2.2.1
  have matching := crosscheck_of_h3 manifest.tensors h3 preflight agrees
    (few.trans limits.tensors.property) known crosschecked
  let inspection : IntegrityInspection := {
    archive
    validationLevel := .structureOnly
    archiveSize := archive.archiveSize
    manifest
    safetensors := preflight }
  refine ⟨inspection, payload, ?_, ?_⟩
  · rw [inspectIntegrityFile, bind_eq_ok]
    refine ⟨archive, indexed, ?_⟩
    rw [bind_eq_ok]
    refine ⟨manifest, read, ?_⟩
    rw [check_eq_ok, bind_eq_ok]
    refine ⟨descriptors, payload, only, ?_⟩
    rw [bind_eq_ok, path]
    refine ⟨payloadEntry, found, ?_⟩
    rw [bind_eq_ok]
    refine ⟨preflight, generic, ?_⟩
    rw [check_eq_ok, check_eq_ok]
    exact ⟨matching, previewed, rfl⟩
  · exact { archive := rfl, manifest := rfl, only, path, agrees, admitted }

/-- A payload that passes the scan of its H3 tensors passes the codec-neutral scan. -/
theorem scanSafetensorsFinite_of_h3 (medium : List UInt8) (entry : EntryRange)
    (profile : H3SafetensorsPreflight) (preflight : SafetensorsPreflight)
    (limits : ValidationLimits) (agrees : preflight.Agrees profile)
    (admitted : ∀ tensor ∈ profile.tensors, tensor.Admitted limits ∧ 0 ∉ tensor.shape)
    (accepted : scanH3SafetensorsFinite medium entry profile = .ok ()) :
    scanSafetensorsFinite medium entry h3EntryName preflight = .ok () := by
  rw [scanH3SafetensorsFinite, check_eq_ok, bind_eq_ok] at accepted
  obtain ⟨receipt, stop, -, accepted⟩ := accepted
  rw [check_eq_ok, check_eq_ok, bind_eq_ok] at accepted
  obtain ⟨-, offsets, start, added, scanned⟩ := accepted
  have rearranged := agrees.values_perm
  rw [scanSafetensorsFinite, check_eq_ok, check_eq_ok, bind_eq_ok, agrees.payload, agrees.header,
    agrees.start, agrees.data]
  refine ⟨receipt, validateGenericOffsets_perm rearranged.symm admitted _ _ offsets, start,
    added, ?_⟩
  rw [checkEach_eq_ok] at scanned ⊢
  exact fun tensor member => scanned tensor (rearranged.mem_iff.mp member)

/-- The texts of an error do not matter to a digest that is verified. -/
theorem verifyPayloadHash_texts (medium : List UInt8)
    (entry : ArchiveEntry) (payload : PayloadDescriptor) (firstName first secondName second : String)
    (measured : MeasuredHash)
    (verified : verifyPayloadHash decoder medium entry payload firstName first = .ok measured) :
    verifyPayloadHash decoder medium entry payload secondName second = .ok measured := by
  rw [verifyPayloadHash, bind_eq_ok] at verified ⊢
  obtain ⟨hashed, hash, verified⟩ := verified
  refine ⟨hashed, hash, ?_⟩
  rw [bind_eq_ok] at verified ⊢
  obtain ⟨expected, parsed, verified⟩ := verified
  refine ⟨expected, parsed, ?_⟩
  rw [check_eq_ok, refuseWhen_eq_ok] at verified ⊢
  exact verified

/-- What two validated cartridges of one file have in common. -/
structure ValidatedCartridge.AgreesWith (profile : ValidatedCartridge)
    (cartridge : IntegrityValidatedCartridge) : Prop where
  file : cartridge.file = profile.file
  archive : cartridge.archive = profile.archive
  manifest : cartridge.manifest = profile.manifest
  archiveBytes : cartridge.receipt.archiveBytes = profile.receipt.archiveBytes
  archiveSha256 : cartridge.receipt.archiveSha256 = profile.receipt.archiveSha256
  payloadBytes : cartridge.receipt.payloadBytes = profile.receipt.payloadBytes
  payloadSha256 : cartridge.receipt.payloadSha256 = profile.receipt.payloadSha256
  payloadPath : cartridge.receipt.payloadPath = h3EntryName
  dataOffset : cartridge.safetensors.dataOffset = profile.safetensors.dataOffset
  dataBytes : cartridge.safetensors.dataBytes = profile.safetensors.dataBytes
  tensors : ∀ name tensor, cartridge.safetensors.tensors.lookup name = some tensor ↔
    profile.safetensors.tensor name = .ok tensor
  readers : ∀ name reader, cartridge.tensorReader name = .ok reader ↔
    profile.tensorReader name = .ok reader

theorem tensorReader_agrees (profile : ValidatedCartridge)
    (cartridge : IntegrityValidatedCartridge) (archive : cartridge.archive = profile.archive)
    (path : cartridge.receipt.payloadPath = h3EntryName)
    (agrees : cartridge.safetensors.Agrees profile.safetensors) (name : String)
    (reader : TensorReader) :
    cartridge.tensorReader name = .ok reader ↔ profile.tensorReader name = .ok reader := by
  rw [IntegrityValidatedCartridge.tensorReader, ValidatedCartridge.tensorReader, bind_eq_ok,
    bind_eq_ok, archive, path, agrees.start]
  simp only [orError_eq_ok, agrees.lookup]

theorem inspectIntegrityFile_canonical (medium : List UInt8)
    (limits : ValidationLimits) (inspection : IntegrityInspection)
    (accepted : inspectIntegrityFile decoder medium limits = .ok inspection) :
    ∃ text, canonicalManifestBytes decoder.toManifestDecoder inspection.manifest = .ok text := by
  rw [inspectIntegrityFile, bind_eq_ok] at accepted
  obtain ⟨archive, -, accepted⟩ := accepted
  obtain ⟨manifest, read, accepted⟩ := ok_of_bind accepted
  rw [check_eq_ok, bind_eq_ok] at accepted
  obtain ⟨-, payload, -, accepted⟩ := accepted
  obtain ⟨payloadEntry, -, accepted⟩ := ok_of_bind accepted
  obtain ⟨preflight, -, accepted⟩ := ok_of_bind accepted
  rw [check_eq_ok, check_eq_ok] at accepted
  cases accepted.2.2
  obtain ⟨-, entry, -, text⟩ := readManifest_ok _ _ _ _ _ read
  exact ⟨_, (orError_eq_ok ..).mpr text⟩

/-- The lengths of inspected tensors can be added up. -/
theorem IntegrityInspection.Established.summed {inspection : IntegrityInspection}
    {medium : List UInt8} {payload : PayloadDescriptor} {payloadEntry manifestEntry : ArchiveEntry}
    (established : inspection.Established medium limits payload payloadEntry manifestEntry) :
    ∃ total, checkedSum (inspection.safetensors.tensors.values.map (·.byteLength)) =
      some total := by
  have total := covers_sum established.consistent.covered
  have lengths : (inspection.safetensors.tensors.values.map
      SafetensorTensorDescriptor.range).map Prod.snd =
      inspection.safetensors.tensors.values.map (·.byteLength) := List.map_map
  rw [lengths, Nat.zero_add] at total
  have data : _ = payloadEntry.size := established.consistent.data
  have inside := established.archive.inside _ (findEntry_ok _ _ _ established.payloadFound).1
  have bounded := established.archive.bounded.trans_lt (show maxArchiveBytes < 2 ^ 64 by decide)
  exact ⟨_, (checkedSum_eq_some ..).mpr ⟨rfl, by omega⟩⟩

/-- What the full reader has checked of a cartridge. -/
structure ValidatedCartridge.Opened (profile : ValidatedCartridge) (decoder : CartridgeDecoder)
    (file : ByteStream) (limits : ValidationLimits) (inspected : CartridgeInspection)
    (payloadEntry : ArchiveEntry) (payload : PayloadDescriptor) (measured : MeasuredHash) :
    Prop where
  inspection : inspectFile decoder file.bytes limits = .ok inspected
  checksums : checkEach (verifyEntry decoder.checksum file) inspected.archive.entries = .ok ()
  payloadFound : findEntry inspected.archive h3EntryName = .ok payloadEntry
  finite : scanH3SafetensorsFinite file.bytes payloadEntry.range inspected.safetensors = .ok ()
  only : onlyPayload inspected.manifest = .ok payload
  payload : verifyPayloadHash decoder file.bytes payloadEntry payload h3EntryName
    "H3 payload bytes do not match the manifest" = .ok measured
  preview : validatePreviewHash decoder file.bytes inspected.archive inspected.manifest = .ok ()
  medium : profile.file = file.bytes
  archive : profile.archive = inspected.archive
  manifest : profile.manifest = inspected.manifest
  safetensors : profile.safetensors = inspected.safetensors
  archiveBytes : profile.receipt.archiveBytes = file.bytes.length
  archiveSha256 : profile.receipt.archiveSha256 = decoder.sha256 file.bytes
  payloadBytes : profile.receipt.payloadBytes = measured.byteLength
  payloadSha256 : profile.receipt.payloadSha256 = measured.sha256

/-- A cartridge is opened by the full reader when its checks pass. -/
theorem openValidated_ok (file : ByteStream)
    (limits : ValidationLimits) (profile : ValidatedCartridge)
    (opened : openValidated decoder file limits = .ok profile) :
    ∃ inspected payloadEntry payload measured,
      profile.Opened decoder file limits inspected payloadEntry payload measured := by
  rw [openValidated, bind_eq_ok] at opened
  obtain ⟨inspected, inspection, opened⟩ := opened
  rw [check_eq_ok, bind_eq_ok] at opened
  obtain ⟨checksums, payloadEntry, payloadFound, opened⟩ := opened
  rw [check_eq_ok, bind_eq_ok] at opened
  obtain ⟨finite, payload, only, opened⟩ := opened
  obtain ⟨measured, verified, opened⟩ := ok_of_bind opened
  rw [check_eq_ok, bind_eq_ok] at opened
  obtain ⟨preview, runtimeElements, -, opened⟩ := opened
  obtain ⟨visualRuntimeBytes, -, same⟩ := ok_of_bind opened
  cases same
  exact ⟨inspected, payloadEntry, payload, measured, {
    inspection, checksums, payloadFound, finite, only
    payload := verified
    preview
    medium := rfl
    archive := rfl
    manifest := rfl
    safetensors := rfl
    archiveBytes := rfl
    archiveSha256 := rfl
    payloadBytes := rfl
    payloadSha256 := rfl }⟩

/-- What the full reader validates the integrity reader does too, with the same manifest, digests,
payload and, for every tensor name, the same bytes. -/
theorem validation_levels_agree (file : ByteStream)
    (limits : ValidationLimits) (profile : ValidatedCartridge) (plain : PlainCanonicalJson decoder)
    (accepted : openValidated decoder file limits = .ok profile) :
    ∃ cartridge, openIntegrityValidated decoder file limits = .ok cartridge ∧
      profile.AgreesWith cartridge := by
  obtain ⟨inspected, payloadEntry, payload, measured, opened⟩ :=
    openValidated_ok decoder file limits profile accepted
  obtain ⟨inspection, described, integrity, refines⟩ :=
    inspectIntegrityFile_of_h3 decoder file.bytes limits inspected opened.inspection
  obtain rfl := Except.ok.inj (refines.only.symm.trans opened.only)
  obtain ⟨only, foundEntry, manifestEntry, established⟩ :=
    inspectIntegrityFile_established decoder file.bytes limits inspection plain integrity
  obtain ⟨text, canonical⟩ := inspectIntegrityFile_canonical _ _ _ _ integrity
  obtain ⟨storage, summed⟩ := established.summed
  have finite := scanSafetensorsFinite_of_h3 file.bytes payloadEntry.range inspected.safetensors
    inspection.safetensors limits refines.agrees refines.admitted opened.finite
  let evidence : IntegrityEvidence := {
    inspection
    receipt := {
      validationLevel := .full
      archiveBytes := file.bytes.length
      archiveSha256 := decoder.sha256 file.bytes
      payloadPath := described.path
      payloadBytes := measured.byteLength
      payloadSha256 := measured.sha256
      tensorStorageBytes := storage }
    manifestEntry
    manifestSha256 := decoder.sha256 text
    payloadEntry }
  have collected : collectIntegrityEvidence decoder file limits = .ok evidence := by
    rw [collectIntegrityEvidence, bind_eq_ok]
    refine ⟨inspection, integrity, ?_⟩
    rw [check_eq_ok, bind_eq_ok, refines.archive, refines.manifest]
    refine ⟨opened.checksums, described, opened.only, ?_⟩
    rw [bind_eq_ok, refines.path]
    refine ⟨payloadEntry, opened.payloadFound, ?_⟩
    rw [check_eq_ok, bind_eq_ok]
    refine ⟨finite, measured, verifyPayloadHash_texts _ _ _ _ _ _ _ _ _ opened.payload, ?_⟩
    rw [check_eq_ok, bind_eq_ok]
    refine ⟨opened.preview, storage, (orError_eq_ok ..).mpr summed, ?_⟩
    rw [bind_eq_ok, ← refines.archive]
    refine ⟨manifestEntry, established.manifestFound, ?_⟩
    rw [bind_eq_ok, ← refines.manifest]
    refine ⟨text, canonical, ?_⟩
    rw [← refines.path]
    rfl
  have addressable : evidence.Addressable := by
    refine ⟨?_, fun tensor member => ?_⟩
    · change described.path.utf8ByteSize ≤ maxIdentifierBytes
      rw [refines.path]
      decide
    · exact (refines.admitted tensor (refines.agrees.values_perm.mem_iff.mp member)).2
  obtain ⟨_, complete⟩ :=
    collectIntegrityEvidence_established decoder file limits evidence plain collected
  have issued := (accessReceipt_eq_ok evidence file.bytes limits _ _ complete).mpr
    ⟨rfl, (described_sound _ _ _ _ complete).mpr addressable⟩
  refine ⟨evidence.cartridge file.bytes evidence.described,
    (openIntegrityValidated_eq_ok ..).mpr ⟨evidence, _, collected, issued, rfl⟩, ?_⟩
  have archive : inspection.archive = profile.archive := refines.archive.trans opened.archive.symm
  have agrees : inspection.safetensors.Agrees profile.safetensors := by
    rw [opened.safetensors]
    exact refines.agrees
  exact {
    file := opened.medium.symm
    archive
    manifest := refines.manifest.trans opened.manifest.symm
    archiveBytes := opened.archiveBytes.symm
    archiveSha256 := opened.archiveSha256.symm
    payloadBytes := opened.payloadBytes.symm
    payloadSha256 := opened.payloadSha256.symm
    payloadPath := refines.path
    dataOffset := agrees.start
    dataBytes := agrees.data
    tensors := fun name tensor => agrees.lookup name tensor
    readers := fun name reader => tensorReader_agrees profile _ archive refines.path agrees name
      reader }

def sampleH3Preflight : H3SafetensorsPreflight where
  payloadBytes := 176
  headerBytes := 72
  dataOffset := 80
  dataBytes := 96
  video := ⟨"video", .f16, sampleShape, (0, 96), 96⟩
  audio := none

theorem h3Sample_profiled : ∃ profile, validateProfile h3Sample.decoder.toManifestDecoder
    (sampleManifest h3EntryName) .specification = .ok profile := ok_of_isSome (by decide +kernel)

theorem h3Sample_inspected : ∃ profile,
    inspectFile h3Sample.decoder h3Sample.archive.bytes .specification = .ok {
      archive := h3Sample.archive.index
      validationLevel := .structureOnly
      archiveSize := h3Sample.archive.bytes.length
      manifest := sampleManifest h3EntryName
      h3Profile := profile
      safetensors := sampleH3Preflight } := by
  obtain ⟨profile, validated⟩ := h3Sample_profiled
  refine ⟨profile, ?_⟩
  rw [inspectFile, bind_eq_ok]
  refine ⟨_, h3_evaluated.inspected, ?_⟩
  rw [bind_eq_ok]
  refine ⟨_, h3_evaluated.manifest, ?_⟩
  rw [check_eq_ok, bind_eq_ok]
  refine ⟨by decide +kernel, profile, validated, ?_⟩
  rw [bind_eq_ok]
  refine ⟨_, h3Sample.findPayload, ?_⟩
  rw [bind_eq_ok]
  refine ⟨sampleH3Preflight, by decide +kernel, ?_⟩
  rw [check_eq_ok, check_eq_ok]
  exact ⟨by decide +kernel, rfl, rfl⟩

/-- Both readers validate the H3 sample, and they agree about it. -/
theorem h3Sample_levels_agree : ∃ profile cartridge,
    openValidated h3Sample.decoder (h3Sample.file 4096) .specification = .ok profile ∧
      openIntegrityValidated h3Sample.decoder (h3Sample.file 4096) .specification =
        .ok cartridge ∧ profile.AgreesWith cartridge := by
  obtain ⟨profile, inspected⟩ := h3Sample_inspected
  have opened : ∃ cartridge,
      openValidated h3Sample.decoder (h3Sample.file 4096) .specification = .ok cartridge := by
    have measured : verifyPayloadHash h3Sample.decoder h3Sample.archive.bytes
        h3Sample.payloadEntry ⟨h3EntryName, payloadMediaType, 176, samplePayloadSha256⟩ h3EntryName
        "H3 payload bytes do not match the manifest" =
        .ok ⟨176, digestOf samplePayloadSha256⟩ := by
      rw [verifyPayloadHash, bind_eq_ok]
      refine ⟨_, h3_evaluated.hashed, ?_⟩
      rw [bind_eq_ok]
      refine ⟨_, (mapError_eq_ok ..).mpr h3_evaluated.parsed, ?_⟩
      rw [check_eq_ok, refuseWhen_eq_ok]
      exact ⟨fun different => different.elim (fun size => size rfl) fun digest => digest rfl, rfl⟩
    have finite : scanH3SafetensorsFinite h3Sample.archive.bytes h3Sample.payloadEntry.range
        sampleH3Preflight = .ok () := by decide +kernel
    apply Exists.intro
    rw [openValidated, bind_eq_ok]
    refine ⟨_, inspected, ?_⟩
    rw [check_eq_ok, bind_eq_ok]
    refine ⟨h3Sample.verified 4096, _, h3Sample.findPayload, ?_⟩
    rw [check_eq_ok, bind_eq_ok]
    refine ⟨finite, _, rfl, ?_⟩
    rw [bind_eq_ok]
    refine ⟨_, measured, ?_⟩
    rw [check_eq_ok, bind_eq_ok]
    refine ⟨rfl, 48, rfl, ?_⟩
    rw [bind_eq_ok]
    exact ⟨96, rfl, rfl⟩
  obtain ⟨cartridge, opened⟩ := opened
  obtain ⟨integrity, again, agrees⟩ := validation_levels_agree h3Sample.decoder
    (h3Sample.file 4096) .specification cartridge (h3Sample.plain (by decide +kernel)) opened
  exact ⟨cartridge, integrity, opened, again, agrees⟩

end LatentDeck.Archive
