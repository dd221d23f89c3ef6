import LatentDeck.Archive.Agreement

/-!
# The cadence of an H3 clip

An H3 clip has `2 + 5n` latent slots and `5 + 17n` frames. The reader derives the frames from the
slots, the audio slots from the frames and the duration from the frame rate; a player decodes the clip
in one initial cycle and `n` steady ones. For a manifest that the profile accepts all of these say the
same.
-/

namespace LatentDeck.Archive

open Checked Fallible Tiling

theorem decodedFrameCount_eq_ok (latentSlots frames : Nat) :
    decodedFrameCount latentSlots = .ok frames ↔
      ∃ cycles, latentSlots = 2 + 5 * cycles ∧ frames = 5 + 17 * cycles ∧ frames < 2 ^ 64 := by
  rw [decodedFrameCount, bind_eq_ok]
  simp only [orError_eq_ok, checkedSub_eq_some, check_eq_ok, refuseWhen_eq_ok, not_not,
    Option.bind_eq_some_iff, checkedMul_eq_some, checkedAdd_eq_some]
  constructor
  · intro computed
    obtain ⟨tail, slots, complete, product, ⟨multiplied, _⟩, added, bound⟩ := computed
    exact ⟨tail / 5, by omega, by omega, by omega⟩
  · intro counted
    obtain ⟨cycles, slots, exact, bound⟩ := counted
    exact ⟨5 * cycles, slots, by omega, 17 * cycles, by omega, by omega, by omega⟩

/-- The slots of whole five-slot blocks give seventeen frames for each block. -/
theorem streamingUsableFrames_eq_ok (newSlots frames : Nat) :
    streamingUsableFrames newSlots = .ok frames ↔
      ∃ blocks, 0 < blocks ∧ newSlots = 5 * blocks ∧ frames = 17 * blocks ∧ frames < 2 ^ 64 := by
  rw [streamingUsableFrames, check_eq_ok, refuseWhen_eq_ok, not_or, not_not, orError_eq_ok,
    checkedMul_eq_some]
  simp only [streamingNewSlots, streamingFrames]
  constructor
  · intro computed
    obtain ⟨⟨some, complete⟩, multiplied, bound⟩ := computed
    exact ⟨newSlots / 5, by omega, by omega, by omega, by omega⟩
  · intro counted
    obtain ⟨blocks, some, slots, exact, bound⟩ := counted
    exact ⟨⟨by omega, by omega⟩, by omega, by omega⟩

theorem audioLatentSlotCount_eq_ok (frames slots : Nat) :
    audioLatentSlotCount frames = .ok slots ↔
      (3 * slots ≤ 5 * frames + 1 ∧ 5 * frames ≤ 3 * slots + 1) ∧ 5 * frames + 1 < 2 ^ 64 := by
  rw [audioLatentSlotCount, orError_eq_ok, Option.map_eq_some_iff]
  simp only [Option.bind_eq_some_iff, checkedMul_eq_some, checkedAdd_eq_some]
  constructor
  · intro computed
    obtain ⟨sum, ⟨product, ⟨multiplied, _⟩, added, bound⟩, divided⟩ := computed
    omega
  · intro nearest
    exact ⟨5 * frames + 1, ⟨5 * frames, by omega, by omega⟩, by omega⟩

/-- A reduced quotient is the exact one in lowest terms. -/
theorem reduced_exact {numerator denominator : Nat} {rational : Rational}
    (reduced : Rational.reduced numerator denominator = some rational) :
    rational.isCanonical = true ∧
      rational.numerator * denominator = numerator * rational.denominator := by
  unfold Rational.reduced at reduced
  by_cases zero : numerator = 0 ∨ denominator = 0
  · rw [if_pos zero] at reduced
    exact nomatch reduced
  rw [if_neg zero] at reduced
  have same := Option.some.inj reduced
  have positive : 0 < Nat.gcd numerator denominator := Nat.gcd_pos_of_pos_left _ (by omega)
  have above : Nat.gcd numerator denominator * (numerator / Nat.gcd numerator denominator) =
      numerator := Nat.mul_div_cancel' (Nat.gcd_dvd_left _ _)
  have below : Nat.gcd numerator denominator * (denominator / Nat.gcd numerator denominator) =
      denominator := Nat.mul_div_cancel' (Nat.gcd_dvd_right _ _)
  have coprime : Nat.gcd (numerator / Nat.gcd numerator denominator)
      (denominator / Nat.gcd numerator denominator) = 1 :=
    Nat.coprime_div_gcd_div_gcd positive
  have some : 0 < numerator / Nat.gcd numerator denominator := by
    by_contra none
    rw [Nat.eq_zero_of_not_pos none, Nat.mul_zero] at above
    omega
  have others : 0 < denominator / Nat.gcd numerator denominator := by
    by_contra none
    rw [Nat.eq_zero_of_not_pos none, Nat.mul_zero] at below
    omega
  rw [← same]
  dsimp only [Rational.isCanonical]
  constructor
  · simp [coprime, some, others]
  · calc
      numerator / Nat.gcd numerator denominator * denominator =
          numerator / Nat.gcd numerator denominator *
            (Nat.gcd numerator denominator *
              (denominator / Nat.gcd numerator denominator)) := by rw [below]
      _ = Nat.gcd numerator denominator * (numerator / Nat.gcd numerator denominator) *
            (denominator / Nat.gcd numerator denominator) := by ring
      _ = numerator * (denominator / Nat.gcd numerator denominator) := by rw [above]

/-- `H3Cycle` — what one decode cycle reads and produces. -/
structure H3Cycle where
  latentStart : Nat
  latentCount : Nat
  decodedStartFrame : Nat
  decodedFrameCount : Nat
  endOfStream : Bool

/-- `H3VideoSource.cycle_count`. -/
def cycleCount (latentSlots : Nat) : Int := 1 + ((latentSlots : Int) - 2) / 5

/-- `H3VideoSource.cycle`; there is no cycle outside the clip. -/
def h3Cycle (latentSlots cycleIndex : Nat) : Option H3Cycle :=
  if (cycleIndex : Int) < cycleCount latentSlots then
    some {
      latentStart := if cycleIndex = 0 then 0 else 2 + 5 * (cycleIndex - 1)
      latentCount := if cycleIndex = 0 then 2 else 5
      decodedStartFrame := if cycleIndex = 0 then 0 else 5 + 17 * (cycleIndex - 1)
      decodedFrameCount := if cycleIndex = 0 then 5 else 17
      endOfStream := decide ((cycleIndex : Int) + 1 = cycleCount latentSlots) }
  else none

variable (cycles : Nat)

theorem cycleCount_of_slots : cycleCount (2 + 5 * cycles) = 1 + cycles := by
  unfold cycleCount
  omega

def declaredCycles (latentSlots : Nat) : List H3Cycle :=
  (List.range (cycleCount latentSlots).toNat).filterMap (h3Cycle latentSlots)

def steadyCycle (cycles index : Nat) : H3Cycle :=
  ⟨2 + index * 5, 5, 5 + index * 17, 17, decide (index + 1 = cycles)⟩

/-- The cycles of a clip are the initial one and the steady ones. -/
theorem declaredCycles_eq :
    declaredCycles (2 + 5 * cycles) =
      ⟨0, 2, 0, 5, decide (cycles = 0)⟩ :: (List.range cycles).map (steadyCycle cycles) := by
  have count : (cycleCount (2 + 5 * cycles)).toNat = cycles + 1 := by
    rw [cycleCount_of_slots]
    omega
  have initial : h3Cycle (2 + 5 * cycles) 0 = some ⟨0, 2, 0, 5, decide (cycles = 0)⟩ := by
    rw [h3Cycle, cycleCount_of_slots, if_pos (by omega)]
    simp
  have steady : ∀ index ∈ List.range cycles,
      h3Cycle (2 + 5 * cycles) (index + 1) = some (steadyCycle cycles index) := by
    intro index member
    have inside := List.mem_range.mp member
    rw [h3Cycle, cycleCount_of_slots, if_pos (by omega), steadyCycle]
    simp only [Nat.add_eq_zero_iff, one_ne_zero, and_false, if_false, Nat.add_sub_cancel,
      Nat.mul_comm index, Option.some.injEq, H3Cycle.mk.injEq, true_and, decide_eq_decide]
    omega
  rw [declaredCycles, count, List.range_succ_eq_map, List.filterMap_cons_some initial,
    List.filterMap_map, ← List.filterMap_eq_map]
  exact congrArg _ (List.filterMap_congr steady)

def H3Cycle.latents (cycle : H3Cycle) : Nat × Nat := (cycle.latentStart, cycle.latentCount)

def H3Cycle.frames (cycle : H3Cycle) : Nat × Nat :=
  (cycle.decodedStartFrame, cycle.decodedFrameCount)

/-- The cycles of a clip read its slots and produce its frames, each once and in order, the initial
cycle its share and a steady one what the streaming cadence says. -/
structure CyclesFit (latentSlots frameCount : Nat) : Prop where
  latents : Tiles 0 ((declaredCycles latentSlots).map H3Cycle.latents) latentSlots
  frames : Tiles 0 ((declaredCycles latentSlots).map H3Cycle.frames) frameCount
  cadence : ∃ initial steady, declaredCycles latentSlots = initial :: steady ∧
    decodedFrameCount initial.latentCount = .ok initial.decodedFrameCount ∧
    (∀ cycle ∈ steady,
      streamingUsableFrames cycle.latentCount = .ok cycle.decodedFrameCount) ∧
    (steady ≠ [] → streamingUsableFrames (steady.map H3Cycle.latentCount).sum =
      .ok (steady.map H3Cycle.decodedFrameCount).sum) ∧
    initial.decodedFrameCount + (steady.map H3Cycle.decodedFrameCount).sum = frameCount

theorem sum_steady (total : Nat) (count : H3Cycle → Nat)
    (shared : ∀ index, count (steadyCycle cycles index) = total) :
    (((List.range cycles).map (steadyCycle cycles)).map count).sum = cycles * total := by
  rw [List.map_map]
  have constant : (count ∘ steadyCycle cycles) = fun _ => total := funext shared
  rw [constant, List.map_const', List.sum_replicate, List.length_range]
  rfl

theorem cycles_fit (bound : 5 + 17 * cycles < 2 ^ 64) :
    CyclesFit (2 + 5 * cycles) (5 + 17 * cycles) where
  latents := by
    rw [declaredCycles_eq, List.map_cons, List.map_map]
    refine ⟨rfl, ?_⟩
    exact (tiles_progression 2 5 5 cycles 2 _).mpr ⟨fun _ => rfl, fun _ => rfl, by omega⟩
  frames := by
    rw [declaredCycles_eq, List.map_cons, List.map_map]
    refine ⟨rfl, ?_⟩
    exact (tiles_progression 5 17 17 cycles 5 _).mpr ⟨fun _ => rfl, fun _ => rfl, by omega⟩
  cadence := by
    have latents := sum_steady cycles 5 H3Cycle.latentCount fun _ => rfl
    have frames := sum_steady cycles 17 H3Cycle.decodedFrameCount fun _ => rfl
    have two : decodedFrameCount 2 = .ok 5 := (decodedFrameCount_eq_ok 2 5).mpr ⟨0, by decide⟩
    have five : streamingUsableFrames 5 = .ok 17 :=
      (streamingUsableFrames_eq_ok 5 17).mpr ⟨1, by decide⟩
    refine ⟨_, _, declaredCycles_eq cycles, two, fun cycle member => ?_, fun some => ?_, ?_⟩
    · obtain ⟨index, _, rfl⟩ := List.mem_map.mp member
      exact five
    · rw [latents, frames]
      have positive : 0 < cycles := by
        apply Nat.pos_of_ne_zero
        intro none
        rw [none] at some
        exact some rfl
      exact (streamingUsableFrames_eq_ok _ _).mpr
        ⟨cycles, positive, by omega, by omega, by omega⟩
    · rw [frames]
      dsimp only
      omega

/-- The bytes of a tensor with a supported storage type. -/
def TensorDescriptor.bytes (tensor : TensorDescriptor) : Nat :=
  tensor.shape.prod * (tensor.storageDtype.byteWidth.getD 0)

/-- A tensor whose size is exact: its axes are positive and its bytes fit a word. -/
structure TensorDescriptor.Sized (tensor : TensorDescriptor) : Prop where
  shaped : tensor.shape ≠ []
  positive : 0 ∉ tensor.shape
  width : tensor.storageDtype.byteWidth.isSome = true
  bounded : tensor.bytes < 2 ^ 64

/-- The descriptor loop sums the bytes of sized tensors. -/
theorem declaredTensorBytesFrom_eq_ok (tensors : List TensorDescriptor) (start total : Nat)
    (fits : start < 2 ^ 64) :
    declaredTensorBytesFrom tensors start = .ok total ↔
      (∀ tensor ∈ tensors, tensor.Sized) ∧
        total = start + (tensors.map TensorDescriptor.bytes).sum ∧ total < 2 ^ 64 := by
  induction tensors generalizing start with
  | nil =>
    rw [declaredTensorBytesFrom, Except.ok.injEq, List.map_nil, List.sum_nil]
    constructor
    · intro same
      exact ⟨nofun, by omega, by omega⟩
    · exact fun counted => by omega
  | cons tensor tensors ih =>
    rw [declaredTensorBytesFrom, check_eq_ok, refuseWhen_eq_ok, not_or, List.forall_mem_cons,
      List.map_cons, List.sum_cons]
    simp only [bind_eq_ok, orError_eq_ok, checkedMul_eq_some, checkedAdd_eq_some]
    constructor
    · intro computed
      obtain ⟨⟨shaped, positive⟩, elements, counted, width, found, bytes, ⟨multiplied, bound⟩, sum,
        ⟨added, below⟩, rest⟩ := computed
      obtain ⟨exact, _⟩ := (checkedProduct_of_positive _ positive _).mp counted
      have size : tensor.bytes = bytes := by
        rw [TensorDescriptor.bytes, found, Option.getD_some, multiplied, exact]
      obtain ⟨others, summed, small⟩ := (ih sum (by omega)).mp rest
      refine ⟨⟨⟨shaped, positive, by rw [found]; rfl, by omega⟩, others⟩, by omega, small⟩
    · intro sized
      obtain ⟨⟨first, others⟩, summed, small⟩ := sized
      obtain ⟨width, found⟩ := Option.isSome_iff_exists.mp first.width
      have size : tensor.bytes = tensor.shape.prod * width := by
        rw [TensorDescriptor.bytes, found, Option.getD_some]
      have bounded := first.bounded
      have some : 0 < width := by
        cases dtype : tensor.storageDtype <;> rw [dtype] at found <;> cases found <;> decide
      have inside : tensor.shape.prod < 2 ^ 64 := by
        rw [size] at bounded
        exact Nat.lt_of_le_of_lt (Nat.le_mul_of_pos_right _ some) bounded
      refine ⟨⟨first.shaped, first.positive⟩, _,
        (checkedProduct_of_positive _ first.positive _).mpr ⟨rfl, inside⟩, width, found, _,
        ⟨rfl, by omega⟩, _, ⟨rfl, by omega⟩, ?_⟩
      exact (ih _ (by omega)).mpr ⟨others, by omega, small⟩

/-- A decoded axis is sixteen times the latent one, inside the limit. -/
theorem checkedDecodedAxis_eq_ok (axis : Nat) (limits : ValidationLimits) (label : String)
    (decoded : Nat) :
    checkedDecodedAxis axis limits label = .ok decoded ↔
      decoded = 16 * axis ∧ 0 < decoded ∧ decoded ≤ limits.h3DecodedAxis.val := by
  have ceiling := limits.h3DecodedAxis.property
  simp only [maxH3DecodedAxis] at ceiling
  have word : u32Max = 2 ^ 32 - 1 := rfl
  rw [checkedDecodedAxis, bind_eq_ok]
  simp only [orError_eq_ok, checkedMul_eq_some, check_eq_ok, refuseWhen_eq_ok, pure, Except.pure,
    Except.ok.injEq]
  constructor
  · intro computed
    obtain ⟨product, ⟨multiplied, _⟩, _, inside, same⟩ := computed
    omega
  · exact fun exact => ⟨16 * axis, by omega, by omega, by omega, by omega⟩

structure VisualClip (video : TensorDescriptor) (decoded : DecodedVideoDescriptor)
    (visual : ValidatedVisual) (cycles : Nat) (limits : ValidationLimits) : Prop where
  shape : video.shape = [1, 24, visual.latentSlots, visual.latentHeight, visual.latentWidth]
  runtime : video.runtimeDtype = .f16
  slots : visual.latentSlots = 2 + 5 * cycles
  bounded : visual.latentSlots ≤ limits.h3TemporalAxis.val
  frames : visual.decodedFrameCount = 5 + 17 * cycles
  declared : decoded.frameCount = visual.decodedFrameCount
  height : decoded.height = 16 * visual.latentHeight ∧ visual.decodedHeight = decoded.height
  width : decoded.width = 16 * visual.latentWidth ∧ visual.decodedWidth = decoded.width
  raster : (0 < decoded.height ∧ decoded.height ≤ limits.h3DecodedAxis.val) ∧
    0 < decoded.width ∧ decoded.width ≤ limits.h3DecodedAxis.val

theorem eq_five {values : List Nat} (five : values.length = 5) :
    values = [values.getD 0 0, values.getD 1 0, values.getD 2 0, values.getD 3 0,
      values.getD 4 0] := by
  match values with
  | [_, _, _, _, _] => rfl

theorem eq_four {values : List Nat} (four : values.length = 4) :
    values = [values.getD 0 0, values.getD 1 0, values.getD 2 0, values.getD 3 0] := by
  match values with
  | [_, _, _, _] => rfl

theorem validateVisual_eq_ok (video : TensorDescriptor) (manifest : ManifestV0_1)
    (limits : ValidationLimits) (visual : ValidatedVisual) :
    validateVisual video manifest limits = .ok visual ↔
      ∃ cycles, VisualClip video manifest.timing.decodedVideo visual cycles limits := by
  rw [validateVisual, check_eq_ok, refuseWhen_eq_ok, not_or, not_or, not_not, not_not, not_not,
    check_eq_ok, refuseWhen_eq_ok, not_not, check_eq_ok, refuseWhen_eq_ok, Nat.not_lt]
  simp only [↓check_eq_ok, bind_eq_ok, refuseWhen_eq_ok, not_or, not_not, decodedFrameCount_eq_ok,
    checkedDecodedAxis_eq_ok, pure, Except.pure, Except.ok.injEq]
  constructor
  · intro accepted
    obtain ⟨⟨five, batch, channels⟩, runtime, bounded, frames, ⟨cycles, slots, exact, _⟩,
      declared, height, ⟨tall, someHeight, highest⟩, width, ⟨wide, someWidth, widest⟩,
      ⟨sameHeight, sameWidth⟩, made⟩ := accepted
    cases made
    have shape := eq_five five
    rw [batch, channels] at shape
    refine ⟨cycles, { shape, runtime, slots, bounded, frames := exact, declared, height := ?_
                      width := ?_, raster := ?_ }⟩
    · exact ⟨sameHeight.trans tall, sameHeight.symm⟩
    · exact ⟨sameWidth.trans wide, sameWidth.symm⟩
    · rw [sameHeight, sameWidth]
      exact ⟨⟨someHeight, highest⟩, someWidth, widest⟩
  · intro described
    obtain ⟨cycles, clip⟩ := described
    have slots := clip.slots
    have frames := clip.frames
    have bounded := clip.bounded.trans limits.h3TemporalAxis.property
    simp only [maxH3TemporalAxis] at bounded
    obtain ⟨⟨tall, sameHeight⟩, wide, sameWidth⟩ := And.intro clip.height clip.width
    obtain ⟨⟨someHeight, highest⟩, someWidth, widest⟩ := clip.raster
    rw [clip.shape]
    exact ⟨⟨rfl, rfl, rfl⟩, clip.runtime, clip.bounded, _, ⟨cycles, slots, frames, by omega⟩,
      clip.declared, _, ⟨by rw [sameHeight]; exact tall, by omega, by omega⟩, _,
      ⟨by rw [sameWidth]; exact wide, by omega, by omega⟩, ⟨sameHeight.symm, sameWidth.symm⟩, rfl⟩

/-- The timing check accepts the rate of the profile and the exact duration. -/
theorem validateTiming_eq_ok (manifest : ManifestV0_1) (frames : Nat) (rate : Rational) :
    validateTiming manifest frames = .ok rate ↔
      manifest.timing.decodedVideo.frameRate = ⟨24, 1⟩ ∧ rate = ⟨24, 1⟩ ∧
        Rational.reduced frames 24 = some manifest.timing.decodedVideo.duration := by
  rw [validateTiming, check_eq_ok, refuseWhen_eq_ok, not_not]
  simp only [↓check_eq_ok, bind_eq_ok, refuseWhen_eq_ok, not_not, orError_eq_ok, pure, Except.pure,
    Except.ok.injEq]
  constructor
  · intro accepted
    obtain ⟨rated, duration, reduced, same, made⟩ := accepted
    exact ⟨rated, made.symm.trans rated, same ▸ reduced⟩
  · intro exact
    obtain ⟨rated, same, reduced⟩ := exact
    exact ⟨rated, _, reduced, rfl, rated.trans same.symm⟩

structure AudioClip (descriptor : TensorDescriptor) (audio : ValidatedAudio) (frames : Nat)
    (limits : ValidationLimits) : Prop where
  shape : descriptor.shape = [1, 32, 2, audio.latentSlots]
  runtime : descriptor.runtimeDtype = descriptor.storageDtype ∧
    audio.storageDtype = descriptor.storageDtype ∧ audio.runtimeDtype = descriptor.storageDtype
  slots : 3 * audio.latentSlots ≤ 5 * frames + 1 ∧ 5 * frames ≤ 3 * audio.latentSlots + 1
  bounded : 0 < audio.latentSlots ∧ audio.latentSlots ≤ limits.h3TemporalAxis.val

/-- The audio check accepts clips of the same length. -/
theorem validateProfileAudio_eq_ok (descriptor : TensorDescriptor) (frames : Nat)
    (limits : ValidationLimits) (audio : ValidatedAudio) :
    validateProfileAudio descriptor frames limits = .ok audio ↔
      descriptor.name = "audio" ∧ AudioClip descriptor audio frames limits := by
  rw [validateProfileAudio, check_eq_ok, refuseWhen_eq_ok, not_or, not_or, not_or, not_or, not_not,
    not_not, not_not, not_not, not_not, check_eq_ok, refuseWhen_eq_ok, not_not]
  simp only [↓check_eq_ok, bind_eq_ok, refuseWhen_eq_ok, not_or, not_not, Nat.not_lt,
    audioLatentSlotCount_eq_ok, pure, Except.pure, Except.ok.injEq]
  constructor
  · intro accepted
    obtain ⟨⟨name, four, batch, channels, pairs⟩, runtime, expected, ⟨nearest, _⟩,
      ⟨same, some, bounded⟩, made⟩ := accepted
    cases made
    have shape := eq_four four
    rw [batch, channels, pairs] at shape
    rw [← same] at nearest
    exact ⟨name, shape, ⟨runtime, rfl, runtime⟩, nearest, Nat.pos_of_ne_zero some, bounded⟩
  · intro described
    obtain ⟨name, clip⟩ := described
    obtain ⟨runtime, storage, running⟩ := clip.runtime
    have ceiling := clip.bounded.2.trans limits.h3TemporalAxis.property
    simp only [maxH3TemporalAxis] at ceiling
    have nearest := clip.slots
    rw [clip.shape]
    refine ⟨⟨name, rfl, rfl, rfl, rfl⟩, runtime, audio.latentSlots, ⟨nearest, by omega⟩,
      ⟨rfl, Nat.ne_of_gt clip.bounded.1, clip.bounded.2⟩, ?_⟩
    rw [runtime, ← storage]
    cases audio
    simp_all

/-- What a manifest that the profile accepts says of its clip. -/
structure H3Clip (manifest : ManifestV0_1) (profile : ValidatedH3Profile)
    (limits : ValidationLimits) (video : TensorDescriptor) (cycles : Nat)
    (payload : PayloadDescriptor) : Prop where
  tensors : manifest.tensors.Perm (video :: (audioTensor manifest.tensors).toList)
  named : video.stream = .visual ∧ video.name = "video"
  visual : VisualClip video manifest.timing.decodedVideo profile.visual cycles limits
  rate : manifest.timing.decodedVideo.frameRate = ⟨24, 1⟩
  canonical : manifest.timing.decodedVideo.duration.isCanonical = true
  duration : manifest.timing.decodedVideo.duration.numerator * 24 =
    profile.visual.decodedFrameCount * manifest.timing.decodedVideo.duration.denominator
  reduced : Rational.reduced profile.visual.decodedFrameCount 24 =
    some manifest.timing.decodedVideo.duration
  policy : manifest.audio.requiresAudioTensor = (audioTensor manifest.tensors).isSome
  silent : audioTensor manifest.tensors = none → profile.audio = none
  audio : ∀ descriptor, audioTensor manifest.tensors = some descriptor → ∃ audio,
    profile.audio = some audio ∧
      AudioClip descriptor audio profile.visual.decodedFrameCount limits
  carried : manifest.payloads = [payload] ∧
    ∀ tensor ∈ manifest.tensors, tensor.payload = payload.path
  sized : ∀ tensor ∈ manifest.tensors, tensor.Sized
  total : (manifest.tensors.map TensorDescriptor.bytes).sum + 8 ≤ payload.byteLength ∧
    payload.byteLength ≤ limits.h3PayloadBytes.val
  key : profile.compatibilityKey = {
    codecFamily := codecFamily
    profile := h3Profile
    profileVersion := profileVersion
    runtimeDtype := video.runtimeDtype
    batch := 1
    latentChannels := 24
    latentHeight := profile.visual.latentHeight
    latentWidth := profile.visual.latentWidth
    timingContract := timingContract
    timingContractVersion := timingContractVersion
    frameRate := ⟨24, 1⟩ }

theorem validateTensorSet_ok {tensors : List TensorDescriptor}
    (known : validateTensorSet tensors = .ok ()) :
    ∀ tensor ∈ tensors, tensor.payload = payloadPath ∧ knownTensor tensor = true := by
  intro tensor member
  have checked := (checkEach_eq_ok ..).mp known tensor member
  rw [validateKnownTensor, check_eq_ok, refuseWhen_eq_ok, refuseWhen_eq_ok, not_not,
    not_not] at checked
  exact checked

theorem validateProfileIdentity_eq_ok (manifest : ManifestV0_1) (limits : ValidationLimits) :
    validateProfileIdentity manifest limits = .ok () ↔
      manifest.codec = ⟨codecFamily, h3Profile, profileVersion⟩ ∧
        (manifest.timing.contract = timingContract ∧
          manifest.timing.contractVersion = timingContractVersion) ∧
        ∃ payload, manifest.payloads = [payload] ∧ payload.path = payloadPath ∧
          payload.mediaType = payloadMediaType ∧ payload.byteLength ≠ 0 ∧
          payload.byteLength ≤ limits.h3PayloadBytes.val := by
  rw [validateProfileIdentity, check_eq_ok, check_eq_ok, check_eq_ok, bind_eq_ok]
  simp only [↓check_eq_ok, refuseWhen_eq_ok, not_or, not_not, Nat.not_lt, onlyPayload_eq_ok]
  cases manifest.codec
  simp only [CodecDescriptor.mk.injEq, and_assoc]

/-- The size check accepts tensors that fit the payload. -/
theorem validateDeclaredTensorBytes_ok {manifest : ManifestV0_1} {payload : PayloadDescriptor}
    (only : manifest.payloads = [payload])
    (accepted : validateDeclaredTensorBytes manifest = .ok ()) :
    (∀ tensor ∈ manifest.tensors, tensor.Sized) ∧
      (manifest.tensors.map TensorDescriptor.bytes).sum + 8 ≤ payload.byteLength := by
  rw [validateDeclaredTensorBytes, bind_eq_ok] at accepted
  obtain ⟨total, summed, accepted⟩ := accepted
  obtain ⟨minimum, added, accepted⟩ := ok_of_bind accepted
  obtain ⟨other, same, accepted⟩ := ok_of_bind accepted
  rw [refuseWhen_eq_ok, Nat.not_lt] at accepted
  have equal : other = payload := by
    have both := ((onlyPayload_eq_ok ..).mp same).symm.trans only
    exact (List.cons.inj both).1
  rw [equal] at accepted
  have counted := (declaredTensorBytesFrom_eq_ok _ 0 _ (by decide)).mp summed
  have exact := ((checkedAdd_eq_some ..).mp ((orError_eq_ok ..).mp added)).1
  exact ⟨counted.1, by omega⟩

/-- A manifest that the profile accepts describes one clip. -/
theorem validateProfile_ok {decoder : ManifestDecoder} {manifest : ManifestV0_1}
    {limits : ValidationLimits} {profile : ValidatedH3Profile}
    (accepted : validateProfile decoder manifest limits = .ok profile) :
    ∃ video cycles payload, H3Clip manifest profile limits video cycles payload := by
  rw [validateProfile, check_eq_ok, check_eq_ok, check_eq_ok, check_eq_ok, bind_eq_ok] at accepted
  obtain ⟨common, identity, known, sizes, video, only, accepted⟩ := accepted
  obtain ⟨visual, clip, accepted⟩ := ok_of_bind accepted
  obtain ⟨rate, timed, accepted⟩ := ok_of_bind accepted
  rw [check_eq_ok, refuseWhen_eq_ok, not_not, bind_eq_ok] at accepted
  obtain ⟨policy, audio, heard, made⟩ := accepted
  obtain ⟨_, _, payload, payloads, path, _, _, largest⟩ :=
    (validateProfileIdentity_eq_ok ..).mp identity
  obtain ⟨cycles, visualClip⟩ := (validateVisual_eq_ok ..).mp clip
  obtain ⟨rated, same, reduced⟩ := (validateTiming_eq_ok ..).mp timed
  obtain ⟨sized, total⟩ := validateDeclaredTensorBytes_ok payloads sizes
  have exact := reduced_exact reduced
  have few := (validateCommon_tensors manifest decoder limits common).few.trans
    limits.tensors.property
  have descriptors := profile_descriptors manifest.tensors video _ _ few known only
  have stream : video.stream = .visual := by
    have single := (exactlyOne_eq_ok ..).mp only
    have among : video ∈ manifest.tensors.filter fun tensor =>
        decide (tensor.stream = .visual ∧ tensor.name = "video") :=
      single ▸ List.mem_singleton_self video
    exact (of_decide_eq_true (List.mem_filter.mp among).2).1
  have shape := visualClip.shape
  cases made
  refine ⟨video, cycles, payload, {
    tensors := descriptors.2.1
    named := ⟨stream, descriptors.1⟩
    visual := visualClip
    rate := rated
    canonical := exact.1
    duration := exact.2
    reduced
    policy
    silent := ?_
    audio := ?_
    carried := ⟨payloads, fun tensor member => ?_⟩
    sized
    total := ⟨total, largest⟩
    key := ?_ }⟩
  · intro none
    rw [none] at heard
    exact (Except.ok.inj heard).symm
  · intro descriptor found
    rw [found, validateProfileOptionalAudio, bind_eq_ok] at heard
    obtain ⟨clip, heard, same⟩ := heard
    exact ⟨clip, (Except.ok.inj same).symm, ((validateProfileAudio_eq_ok ..).mp heard).2⟩
  · exact ((validateTensorSet_ok known tensor member).1).trans path.symm
  · rw [same]
    dsimp only
    rw [shape]
    rfl

/-- A manifest that the profile accepts is consistent: slots, frames, audio slots, duration, rates
and sizes belong to one clip, and its initial and steady cycles add up to its slots and its frames.
-/
theorem accepted_profile_consistent (decoder : ManifestDecoder) (manifest : ManifestV0_1)
    (limits : ValidationLimits) (profile : ValidatedH3Profile)
    (accepted : validateProfile decoder manifest limits = .ok profile) :
    ∃ video cycles payload, H3Clip manifest profile limits video cycles payload ∧
      CyclesFit profile.visual.latentSlots manifest.timing.decodedVideo.frameCount := by
  obtain ⟨video, cycles, payload, clip⟩ := validateProfile_ok accepted
  refine ⟨video, cycles, payload, clip, ?_⟩
  have slots := clip.visual.slots
  have bounded := clip.visual.bounded.trans limits.h3TemporalAxis.property
  simp only [maxH3TemporalAxis] at bounded
  rw [clip.visual.declared, clip.visual.frames, slots]
  exact cycles_fit cycles (by omega)

/-- The video of a clip of some steady cycles. -/
def clipVideo (cycles : Nat) : TensorDescriptor :=
  ⟨.visual, "video", h3EntryName, .f16, .f16, [1, 24, 2 + 5 * cycles, 1, 1]⟩

def clipAudio (cycles : Nat) : TensorDescriptor :=
  ⟨.audio, "audio", h3EntryName, .f16, .f16, [1, 32, 2, ((5 + 17 * cycles) * 5 + 1) / 3]⟩

/-- A clip of some steady cycles with audio. -/
def clipManifest (cycles : Nat) : ManifestV0_1 :=
  let frames := 5 + 17 * cycles
  { sampleManifest h3EntryName with
    payloads := [⟨h3EntryName, payloadMediaType,
      8 + 160 + (clipVideo cycles).bytes + (clipAudio cycles).bytes, samplePayloadSha256⟩]
    tensors := [clipVideo cycles, clipAudio cycles]
    timing := ⟨timingContract, timingContractVersion,
      ⟨16, 16, frames, ⟨24, 1⟩, ⟨frames / frames.gcd 24, 24 / frames.gcd 24⟩⟩⟩
    audio := .preservedSource }

theorem clip_profiled : ∃ profile, validateProfile h3Sample.decoder.toManifestDecoder
    (clipManifest 2) .specification = .ok profile := ok_of_isSome (by decide +kernel)

/-- A clip of two steady cycles with audio is consistent. -/
theorem sample_profile_consistent : ∃ profile video cycles payload,
    H3Clip (clipManifest 2) profile .specification video cycles payload ∧
      CyclesFit profile.visual.latentSlots (clipManifest 2).timing.decodedVideo.frameCount := by
  obtain ⟨profile, accepted⟩ := clip_profiled
  exact ⟨profile, accepted_profile_consistent _ _ _ profile accepted⟩

/-- The streaming cadence says nothing of the initial cycle of an accepted clip, whose two slots are
no complete block. -/
theorem initial_cycle_not_streamed : ∃ profile initial,
    validateProfile h3Sample.decoder.toManifestDecoder (sampleManifest h3EntryName)
        .specification = .ok profile ∧
      (declaredCycles profile.visual.latentSlots).head? = some initial ∧
      ∀ frames, streamingUsableFrames initial.latentCount ≠ .ok frames := by
  obtain ⟨profile, accepted⟩ := h3Sample_profiled
  obtain ⟨video, cycles, payload, clip⟩ := validateProfile_ok accepted
  refine ⟨profile, ⟨0, 2, 0, 5, decide (cycles = 0)⟩, accepted, ?_, fun frames streamed => ?_⟩
  · rw [clip.visual.slots, declaredCycles_eq]
    rfl
  · obtain ⟨blocks, _, slots, _⟩ := (streamingUsableFrames_eq_ok _ _).mp streamed
    dsimp only at slots
    omega

end LatentDeck.Archive
