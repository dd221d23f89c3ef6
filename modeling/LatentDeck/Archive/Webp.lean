import LatentDeck.Archive.Preview
import LatentDeck.Library.Riff

/-!
# What a preview is

A preview is one RIFF form of name `WEBP` whose body is chunks. A simple image has one chunk that
gives a geometry; an extended image names the canvas in a `VP8X` chunk, and the image chunk behind
it repeats it. The inspection admits exactly the files with one geometry chunk, so every extended
image that carries its image chunk is refused.
-/

namespace LatentDeck.Archive

open Checked Fallible LittleEndian Riff

/-- The chunks that give a geometry: the canvas of an extended file and the two image formats. -/
inductive GeometryKind where
  | canvas
  | lossy
  | lossless
  deriving DecidableEq

def GeometryKind.ofFourcc (fourcc : List UInt8) : Option GeometryKind :=
  if fourcc = [0x56, 0x50, 0x38, 0x58] then some .canvas
  else if fourcc = [0x56, 0x50, 0x38, 0x20] then some .lossy
  else if fourcc = [0x56, 0x50, 0x38, 0x4C] then some .lossless
  else none

/-- The geometry in the payload of a chunk: 24-bit words less one behind the flags, 14-bit words
behind the start code of a key frame, or 14-bit fields less one behind a signature. -/
def GeometryKind.geometry : GeometryKind → List UInt8 → Option WebpInfo
  | .canvas, payload =>
    if payload.length = 10 then
      some ⟨leValue (slice payload 4 7) + 1, leValue (slice payload 7 10) + 1⟩
    else none
  | .lossy, payload =>
    if 10 ≤ payload.length ∧ slice payload 3 6 = [0x9d, 0x01, 0x2a] then
      some ⟨leValue (slice payload 6 8) % 2 ^ 14, leValue (slice payload 8 10) % 2 ^ 14⟩
    else none
  | .lossless, payload =>
    if 5 ≤ payload.length ∧ payload.take 1 = [0x2f] then
      some ⟨leValue (slice payload 1 5) % 2 ^ 14 + 1,
        leValue (slice payload 1 5) / 2 ^ 14 % 2 ^ 14 + 1⟩
    else none

/-- The chunks that give a geometry, in order. -/
def geometryChunks (chunks : List Chunk) : List (GeometryKind × List UInt8) :=
  chunks.filterMap fun chunk => (GeometryKind.ofFourcc chunk.fourcc).map (·, chunk.payload)

/-- One chunk gives the geometry: an image chunk, or a canvas whose images stand in chunks of other
names. -/
def SimpleGeometry (chunks : List Chunk) (info : WebpInfo) : Prop :=
  ∃ kind payload, geometryChunks chunks = [(kind, payload)] ∧ kind.geometry payload = some info

/-- A canvas and the image chunk behind it give the same geometry. -/
def ExtendedGeometry (chunks : List Chunk) (info : WebpInfo) : Prop :=
  ∃ canvas kind payload, geometryChunks chunks = [(.canvas, canvas), (kind, payload)] ∧
    kind ≠ .canvas ∧ GeometryKind.canvas.geometry canvas = some info ∧
    kind.geometry payload = some info

/-- A geometry within the limits of a preview. -/
def WebpInfo.Within (info : WebpInfo) : Prop :=
  (0 < info.width ∧ info.width ≤ maxPreviewAxis) ∧
    (0 < info.height ∧ info.height ≤ maxPreviewAxis) ∧
    info.width * info.height ≤ maxPreviewPixels

/-- The bytes are one form of the declared length with these chunks as its body. -/
def IsForm (bytes : List UInt8) (chunks : List Chunk) : Prop :=
  ∃ size, size < 256 ^ 4 ∧ size + 8 = bytes.length ∧
    bytes = [0x52, 0x49, 0x46, 0x46] ++
      (leBytes 4 size ++ ([0x57, 0x45, 0x42, 0x50] ++ body chunks))

/-- A preview whose geometry chunks read as `geometry` says: one form of the declared length, tiled
by its chunks, with length and geometry within the limits. -/
def IsPreview (geometry : List Chunk → WebpInfo → Prop) (bytes : List UInt8)
    (info : WebpInfo) : Prop :=
  bytes.length ≤ maxPreviewBytes ∧
    ∃ chunks, IsForm bytes chunks ∧ geometry chunks info ∧ info.Within

/-- A well-formed still image with its canvas: a simple one or an extended one. -/
def StillImage (bytes : List UInt8) (info : WebpInfo) : Prop :=
  IsPreview SimpleGeometry bytes info ∨ IsPreview ExtendedGeometry bytes info

theorem slice_length (bytes : List UInt8) (first last : Nat) (inside : last ≤ bytes.length) :
    (slice bytes first last).length = last - first := by
  rw [slice, List.length_take, List.length_drop]
  omega

theorem readU24At_eq_ok (bytes : List UInt8) (offset value : Nat) :
    readU24At bytes offset = .ok value ↔
      offset + 3 ≤ bytes.length ∧ leValue (slice bytes offset (offset + 3)) = value := by
  rw [readU24At, check_eq_ok, refuseWhen_eq_ok, Nat.not_lt]
  exact and_congr_right fun _ => ⟨Except.ok.inj, congrArg Except.ok⟩

theorem readU32At_eq_ok (bytes : List UInt8) (offset value : Nat) :
    readU32At bytes offset = .ok value ↔
      offset + 4 ≤ bytes.length ∧ leValue (slice bytes offset (offset + 4)) = value := by
  rw [readU32At, check_eq_ok, refuseWhen_eq_ok, Nat.not_lt]
  exact and_congr_right fun _ => ⟨Except.ok.inj, congrArg Except.ok⟩

theorem leValue_slice_one_five (first second third fourth fifth : UInt8) (rest : List UInt8) :
    leValue (slice (first :: second :: third :: fourth :: fifth :: rest) 1 5) =
      second.toNat + 256 * (third.toNat + 256 * (fourth.toNat + 256 * fifth.toNat)) := by
  show leValue [second, third, fourth, fifth] = _
  simp only [leValue_cons, leValue_nil, Nat.mul_zero, Nat.add_zero]

theorem losslessWidth_eq (low next : Nat) (rest : Nat) (bound : low < 256) :
    low ||| ((next &&& 0x3f) <<< 8) = (low + 256 * (next + 256 * rest)) % 2 ^ 14 := by
  have mask : next &&& 0x3f = next % 64 := Nat.and_two_pow_sub_one_eq_mod next 6
  have joined : (next % 64) <<< 8 ||| low = (next % 64) <<< 8 + low :=
    (Nat.shiftLeft_add_eq_or_of_lt bound (next % 64)).symm
  rw [mask, Nat.or_comm, joined, Nat.shiftLeft_eq]
  omega

/-- The packed height of a lossless image is the high field of its word. -/
theorem losslessHeight_eq (low next third fourth : Nat) (bound : low < 256) (following : next < 256)
    (middle : third < 256) :
    (next >>> 6) ||| (third <<< 2) ||| ((fourth &&& 0x0f) <<< 10) =
      (low + 256 * (next + 256 * (third + 256 * fourth))) / 2 ^ 14 % 2 ^ 14 := by
  have mask : fourth &&& 0x0f = fourth % 16 := Nat.and_two_pow_sub_one_eq_mod fourth 4
  have shifted : next >>> 6 = next / 64 := Nat.shiftRight_eq_div_pow next 6
  have small : next / 64 < 2 ^ 2 := by omega
  have inner : third <<< 2 ||| next / 64 = third <<< 2 + next / 64 :=
    (Nat.shiftLeft_add_eq_or_of_lt small third).symm
  have below : third <<< 2 + next / 64 < 2 ^ 10 := by
    rw [Nat.shiftLeft_eq]
    omega
  have outer : (fourth % 16) <<< 10 ||| (third <<< 2 + next / 64) =
      (fourth % 16) <<< 10 + (third <<< 2 + next / 64) :=
    (Nat.shiftLeft_add_eq_or_of_lt below (fourth % 16)).symm
  rw [mask, shifted, Nat.or_comm (next / 64), inner, Nat.or_comm, outer, Nat.shiftLeft_eq,
    Nat.shiftLeft_eq]
  omega

variable (payload : List UInt8)

/-- The dimensions of a canvas chunk are its geometry. -/
theorem canvasDimensions_eq_ok (found : Option WebpInfo) :
    dimensionsForChunk [0x56, 0x50, 0x38, 0x58] payload = .ok found ↔
      ∃ info, found = some info ∧ GeometryKind.canvas.geometry payload = some info := by
  rw [dimensionsForChunk, if_pos rfl, check_eq_ok, refuseWhen_eq_ok, bind_eq_ok,
    GeometryKind.geometry, not_not]
  by_cases exactly : payload.length = 10
  · rw [if_pos exactly]
    constructor
    · intro accepted
      obtain ⟨-, width, widthRead, accepted⟩ := accepted
      obtain ⟨height, heightRead, result⟩ := ok_of_bind accepted
      rw [readU24At_eq_ok] at widthRead heightRead
      refine ⟨⟨width + 1, height + 1⟩, (Except.ok.inj result).symm, ?_⟩
      rw [widthRead.2, heightRead.2]
    · intro valid
      obtain ⟨info, rfl, same⟩ := valid
      have width : readU24At payload 4 = .ok (leValue (slice payload 4 7)) := by
        rw [readU24At_eq_ok]
        exact ⟨by omega, rfl⟩
      have height : readU24At payload 7 = .ok (leValue (slice payload 7 10)) := by
        rw [readU24At_eq_ok]
        exact ⟨by omega, rfl⟩
      refine ⟨exactly, _, width, ?_⟩
      rw [height, ← Option.some.inj same]
      rfl
  · rw [if_neg exactly]
    constructor
    · exact fun accepted => absurd accepted.1 exactly
    · exact fun valid => nomatch valid.choose_spec.2

/-- The dimensions of a lossy image are its geometry. -/
theorem lossyDimensions_eq_ok (found : Option WebpInfo) :
    dimensionsForChunk [0x56, 0x50, 0x38, 0x20] payload = .ok found ↔
      ∃ info, found = some info ∧ GeometryKind.lossy.geometry payload = some info := by
  have masked (value : Nat) : value &&& 0x3fff = value % 2 ^ 14 :=
    Nat.and_two_pow_sub_one_eq_mod value 14
  rw [dimensionsForChunk, if_neg (by decide), if_pos rfl, check_eq_ok, refuseWhen_eq_ok,
    GeometryKind.geometry, not_or, Nat.not_lt, ne_eq, not_not, masked, masked]
  by_cases header : 10 ≤ payload.length ∧ slice payload 3 6 = [0x9d, 0x01, 0x2a]
  · rw [if_pos header]
    constructor
    · exact fun accepted => ⟨_, (Except.ok.inj accepted.2).symm, rfl⟩
    · intro valid
      obtain ⟨info, rfl, same⟩ := valid
      rw [← Option.some.inj same]
      exact ⟨header, rfl⟩
  · rw [if_neg header]
    constructor
    · exact fun accepted => absurd accepted.1 header
    · exact fun valid => nomatch valid.choose_spec.2

/-- The packed fields of a lossless image are its geometry. -/
theorem losslessGeometry_packed (long : 5 ≤ payload.length) :
    (1 + (byteAt payload 1 ||| ((byteAt payload 2 &&& 0x3f) <<< 8)) =
        leValue (slice payload 1 5) % 2 ^ 14 + 1) ∧
      1 + ((byteAt payload 2 >>> 6) ||| (byteAt payload 3 <<< 2) |||
          ((byteAt payload 4 &&& 0x0f) <<< 10)) =
        leValue (slice payload 1 5) / 2 ^ 14 % 2 ^ 14 + 1 := by
  match payload, long with
  | signature :: second :: third :: fourth :: fifth :: rest, _ =>
    have width := losslessWidth_eq second.toNat third.toNat (fourth.toNat + 256 * fifth.toNat)
      second.toNat_lt
    have height := losslessHeight_eq second.toNat third.toNat fourth.toNat fifth.toNat
      second.toNat_lt third.toNat_lt fourth.toNat_lt
    rw [leValue_slice_one_five, ← width, ← height]
    exact ⟨Nat.add_comm _ _, Nat.add_comm _ _⟩

theorem byteAt_zero_eq (long : 5 ≤ payload.length) :
    byteAt payload 0 = 0x2f ↔ payload.take 1 = [0x2f] := by
  match payload, long with
  | signature :: rest, _ =>
    show signature.toNat = 0x2f ↔ [signature] = [0x2f]
    rw [List.cons.injEq, and_iff_left rfl, ← UInt8.toNat_inj]
    rfl

/-- The dimensions of a lossless image are its geometry. -/
theorem losslessDimensions_eq_ok (found : Option WebpInfo) :
    dimensionsForChunk [0x56, 0x50, 0x38, 0x4C] payload = .ok found ↔
      ∃ info, found = some info ∧ GeometryKind.lossless.geometry payload = some info := by
  rw [dimensionsForChunk, if_neg (by decide), if_neg (by decide), if_pos rfl, check_eq_ok,
    refuseWhen_eq_ok, GeometryKind.geometry, not_or, Nat.not_lt, ne_eq, not_not]
  by_cases long : 5 ≤ payload.length
  · have packed := losslessGeometry_packed payload long
    rw [byteAt_zero_eq payload long, packed.1, packed.2]
    by_cases header : 5 ≤ payload.length ∧ payload.take 1 = [0x2f]
    · rw [if_pos header]
      constructor
      · exact fun accepted => ⟨_, (Except.ok.inj accepted.2).symm, rfl⟩
      · intro valid
        obtain ⟨info, rfl, same⟩ := valid
        rw [← Option.some.inj same]
        exact ⟨header, rfl⟩
    · rw [if_neg header]
      constructor
      · exact fun accepted => absurd accepted.1 header
      · exact fun valid => nomatch valid.choose_spec.2
  · rw [if_neg fun header => long header.1]
    constructor
    · exact fun accepted => absurd accepted.1.1 long
    · exact fun valid => nomatch valid.choose_spec.2

/-- The dimensions of a chunk that gives a geometry are that geometry. -/
theorem dimensionsForChunk_of_kind {fourcc : List UInt8} {kind : GeometryKind}
    (named : GeometryKind.ofFourcc fourcc = some kind) (payload : List UInt8)
    (found : Option WebpInfo) :
    dimensionsForChunk fourcc payload = .ok found ↔
      ∃ info, found = some info ∧ kind.geometry payload = some info := by
  unfold GeometryKind.ofFourcc at named
  by_cases canvas : fourcc = [0x56, 0x50, 0x38, 0x58]
  · rw [if_pos canvas] at named
    cases named
    rw [canvas]
    exact canvasDimensions_eq_ok payload found
  by_cases lossy : fourcc = [0x56, 0x50, 0x38, 0x20]
  · rw [if_neg canvas, if_pos lossy] at named
    cases named
    rw [lossy]
    exact lossyDimensions_eq_ok payload found
  by_cases lossless : fourcc = [0x56, 0x50, 0x38, 0x4C]
  · rw [if_neg canvas, if_neg lossy, if_pos lossless] at named
    cases named
    rw [lossless]
    exact losslessDimensions_eq_ok payload found
  · rw [if_neg canvas, if_neg lossy, if_neg lossless] at named
    exact nomatch named

theorem dimensionsForChunk_of_none {fourcc : List UInt8}
    (named : GeometryKind.ofFourcc fourcc = none) (payload : List UInt8) :
    dimensionsForChunk fourcc payload = .ok none := by
  unfold GeometryKind.ofFourcc at named
  by_cases canvas : fourcc = [0x56, 0x50, 0x38, 0x58]
  · rw [if_pos canvas] at named
    exact nomatch named
  by_cases lossy : fourcc = [0x56, 0x50, 0x38, 0x20]
  · rw [if_neg canvas, if_pos lossy] at named
    exact nomatch named
  by_cases lossless : fourcc = [0x56, 0x50, 0x38, 0x4C]
  · rw [if_neg canvas, if_neg lossy, if_pos lossless] at named
    exact nomatch named
  · rw [dimensionsForChunk, if_neg canvas, if_neg lossy, if_neg lossless]

/-- What a chunk adds to what the chunks before it say of the geometry. -/
def judgeChunk (dimensions : Option WebpInfo) (chunk : Chunk) :
    Except CartridgeError (Option WebpInfo) := do
  let found ← dimensionsForChunk chunk.fourcc chunk.payload
  replaceDimensions dimensions found

theorem inspectChunks_end (bytes : List UInt8) (cursor : Nat) (dimensions : Option WebpInfo)
    (ended : bytes.length ≤ cursor) : inspectChunks bytes cursor dimensions = .ok dimensions := by
  rw [inspectChunks, if_neg (Nat.not_lt.mpr ended)]

/-- A round of the loop reads the chunk at the cursor and goes on behind it. -/
theorem inspectChunks_round (bytes : List UInt8) (cursor : Nat)
    (dimensions result : Option WebpInfo) (inside : cursor < bytes.length) :
    inspectChunks bytes cursor dimensions = .ok result ↔
      ∃ (complete : Complete (bytes.drop cursor)) (next : Option WebpInfo),
        judgeChunk dimensions (front (bytes.drop cursor) complete) = .ok next ∧
        inspectChunks bytes (cursor + (8 + declared (bytes.drop cursor) +
          declared (bytes.drop cursor) % 2)) next = .ok result := by
  have length : (bytes.drop cursor).length = bytes.length - cursor := List.length_drop
  have word : leValue (slice bytes (cursor + 4) (cursor + 4 + 4)) =
      declared (bytes.drop cursor) := by
    rw [slice, declared, List.drop_drop, Nat.add_sub_cancel_left]
  have name : slice bytes cursor (cursor + 4) = (bytes.drop cursor).take 4 := by
    rw [slice, Nat.add_sub_cancel_left]
  have payload (size : Nat) : slice bytes (cursor + 8) (cursor + 8 + size) =
      ((bytes.drop cursor).drop 8).take size := by
    rw [slice, List.drop_drop, Nat.add_sub_cancel_left]
  rw [inspectChunks, if_pos inside, check_eq_ok, refuseWhen_eq_ok, Nat.not_lt]
  have chunkHeader : chunkHeaderBytes = 8 := rfl
  rw [chunkHeader]
  constructor
  · intro accepted
    obtain ⟨header, accepted⟩ := accepted
    obtain ⟨size, read, accepted⟩ := ok_of_bind accepted
    rw [readU32At_eq_ok, word] at read
    obtain ⟨-, rfl⟩ := read
    rw [check_eq_ok, refuseWhen_eq_ok, Nat.not_lt, name, payload, bind_eq_ok] at accepted
    obtain ⟨whole, found, dimensionsFound, accepted⟩ := accepted
    obtain ⟨next, replaced, rest⟩ := ok_of_bind accepted
    have complete : Complete (bytes.drop cursor) := by
      rw [Complete, length]
      omega
    have step : cursor + (8 + declared (bytes.drop cursor) + declared (bytes.drop cursor) % 2) =
        cursor + 8 + declared (bytes.drop cursor) + declared (bytes.drop cursor) % 2 := by omega
    refine ⟨complete, next, ?_, ?_⟩
    · rw [judgeChunk, bind_eq_ok]
      exact ⟨found, dimensionsFound, replaced⟩
    · rw [step]
      exact rest
  · intro round
    obtain ⟨complete, next, judged, rest⟩ := round
    have header := complete.1
    have whole := complete.2
    rw [length] at header whole
    have read : readU32At bytes (cursor + 4) = .ok (declared (bytes.drop cursor)) := by
      rw [readU32At_eq_ok]
      exact ⟨by omega, word⟩
    have step : cursor + (8 + declared (bytes.drop cursor) + declared (bytes.drop cursor) % 2) =
        cursor + 8 + declared (bytes.drop cursor) + declared (bytes.drop cursor) % 2 := by omega
    rw [judgeChunk, bind_eq_ok] at judged
    obtain ⟨found, dimensionsFound, replaced⟩ := judged
    refine ⟨by omega, ?_⟩
    rw [bind_eq_ok]
    refine ⟨_, read, ?_⟩
    rw [check_eq_ok, refuseWhen_eq_ok, Nat.not_lt, name, payload, bind_eq_ok]
    refine ⟨by omega, found, dimensionsFound, ?_⟩
    rw [bind_eq_ok]
    refine ⟨next, replaced, ?_⟩
    rw [step] at rest
    exact rest

/-- The loop admits the bytes behind a cursor when they are chunks that can be judged one after the
other. The induction is on what is left of the bytes. -/
theorem inspectChunks_eq_ok (bytes : List UInt8) (cursor : Nat)
    (dimensions result : Option WebpInfo) :
    inspectChunks bytes cursor dimensions = .ok result ↔
      ∃ chunks, bytes.drop cursor = body chunks ∧
        chunks.foldlM judgeChunk dimensions = .ok result := by
  by_cases inside : cursor < bytes.length
  · have length : (bytes.drop cursor).length = bytes.length - cursor := List.length_drop
    have onward (distance : Nat) :
        bytes.drop (cursor + distance) = (bytes.drop cursor).drop distance :=
      List.drop_drop.symm
    rw [inspectChunks_round bytes cursor dimensions result inside]
    constructor
    · intro round
      obtain ⟨complete, next, judged, rest⟩ := round
      rw [inspectChunks_eq_ok, onward] at rest
      obtain ⟨chunks, tiled, folded⟩ := rest
      refine ⟨front (bytes.drop cursor) complete :: chunks, ?_, ?_⟩
      · rw [body_cons, ← tiled, front_append]
      · rw [List.foldlM_cons, judged]
        exact folded
    · intro tiled
      obtain ⟨chunks, tiled, folded⟩ := tiled
      cases chunks with
      | nil =>
        rw [body_nil] at tiled
        rw [tiled, List.length_nil] at length
        omega
      | cons chunk chunks =>
        rw [body_cons] at tiled
        rw [List.foldlM_cons, bind_eq_ok] at folded
        obtain ⟨next, judged, folded⟩ := folded
        have complete : Complete (bytes.drop cursor) := by
          rw [tiled]
          exact complete_append chunk _
        have first : front (bytes.drop cursor) complete = chunk := by
          rw [← front_of_append chunk (body chunks)]
          congr 1
        have behind : (bytes.drop cursor).drop (8 + declared (bytes.drop cursor) +
            declared (bytes.drop cursor) % 2) = body chunks := by
          rw [tiled, declared_append, ← chunk.bytes_length, List.drop_left]
        refine ⟨complete, next, ?_, ?_⟩
        · rw [first]
          exact judged
        · rw [inspectChunks_eq_ok, onward, behind]
          exact ⟨chunks, rfl, folded⟩
  · have empty : bytes.drop cursor = [] := List.drop_eq_nil_of_le (Nat.not_lt.mp inside)
    rw [inspectChunks_end bytes cursor dimensions (Nat.not_lt.mp inside), empty]
    constructor
    · intro same
      exact ⟨[], rfl, same⟩
    · intro tiled
      obtain ⟨chunks, tiled, folded⟩ := tiled
      have none : chunks = [] := body_injective tiled.symm
      rw [none] at folded
      exact folded
  termination_by bytes.length - cursor

/-- Chunks behind a geometry leave it when they give none. -/
theorem judgeChunks_some (chunks : List Chunk) (info : WebpInfo) (result : Option WebpInfo) :
    chunks.foldlM judgeChunk (some info) = .ok result ↔
      geometryChunks chunks = [] ∧ result = some info := by
  induction chunks with
  | nil =>
    constructor
    · exact fun same => ⟨rfl, (Except.ok.inj same).symm⟩
    · exact fun both => congrArg Except.ok both.2.symm
  | cons chunk chunks ih =>
    rw [List.foldlM_cons, geometryChunks, List.filterMap_cons]
    cases named : GeometryKind.ofFourcc chunk.fourcc with
    | none =>
      have judged : judgeChunk (some info) chunk = .ok (some info) := by
        rw [judgeChunk, dimensionsForChunk_of_none named]
        rfl
      rw [judged]
      exact ih
    | some kind =>
      constructor
      · intro accepted
        obtain ⟨next, judged, -⟩ := ok_of_bind accepted
        rw [judgeChunk, bind_eq_ok] at judged
        obtain ⟨found, read, replaced⟩ := judged
        rw [dimensionsForChunk_of_kind named] at read
        obtain ⟨other, rfl, -⟩ := read
        exact nomatch replaced
      · exact fun both => nomatch both.1

/-- Chunks give a geometry together when exactly one of them gives it. -/
theorem judgeChunks_none (chunks : List Chunk) (info : WebpInfo) :
    chunks.foldlM judgeChunk none = .ok (some info) ↔ SimpleGeometry chunks info := by
  induction chunks with
  | nil =>
    constructor
    · exact nofun
    · intro simple
      obtain ⟨kind, payload, one, -⟩ := simple
      exact nomatch one
  | cons chunk chunks ih =>
    rw [List.foldlM_cons]
    cases named : GeometryKind.ofFourcc chunk.fourcc with
    | none =>
      have judged : judgeChunk none chunk = .ok none := by
        rw [judgeChunk, dimensionsForChunk_of_none named]
        rfl
      have geometries : geometryChunks (chunk :: chunks) = geometryChunks chunks := by
        rw [geometryChunks, List.filterMap_cons, named]
        rfl
      rw [judged, SimpleGeometry, geometries]
      exact ih
    | some kind =>
      have geometries : geometryChunks (chunk :: chunks) =
          (kind, chunk.payload) :: geometryChunks chunks := by
        rw [geometryChunks, List.filterMap_cons, named]
        rfl
      rw [bind_eq_ok, SimpleGeometry, geometries]
      constructor
      · intro accepted
        obtain ⟨next, judged, folded⟩ := accepted
        rw [judgeChunk, bind_eq_ok] at judged
        obtain ⟨found, read, replaced⟩ := judged
        rw [dimensionsForChunk_of_kind named] at read
        obtain ⟨other, rfl, given⟩ := read
        cases replaced
        rw [judgeChunks_some] at folded
        cases folded.2
        refine ⟨kind, chunk.payload, ?_, given⟩
        rw [folded.1]
      · intro simple
        obtain ⟨only, payload, one, given⟩ := simple
        rw [List.cons.injEq, Prod.mk.injEq] at one
        obtain ⟨⟨rfl, rfl⟩, rest⟩ := one
        refine ⟨some info, ?_, (judgeChunks_some chunks info _).mpr ⟨rest, rfl⟩⟩
        rw [judgeChunk, (dimensionsForChunk_of_kind named _ _).mpr ⟨info, rfl, given⟩]
        rfl

/-- A geometry is valid exactly within the limits. -/
theorem validateGeometry_eq_ok (info : WebpInfo) :
    validateGeometry info = .ok () ↔ info.Within := by
  have small : maxPreviewPixels < 2 ^ 64 := by decide
  rw [validateGeometry, bind_eq_ok, WebpInfo.Within]
  constructor
  · intro accepted
    obtain ⟨pixels, counted, accepted⟩ := accepted
    rw [orError_eq_ok, checkedMul_eq_some] at counted
    rw [refuseWhen_eq_ok] at accepted
    omega
  · intro within
    have fits : info.width * info.height < 2 ^ 64 := Nat.lt_of_le_of_lt within.2.2 small
    refine ⟨info.width * info.height, ?_, ?_⟩
    · rw [orError_eq_ok, checkedMul_eq_some]
      exact ⟨rfl, fits⟩
    · rw [refuseWhen_eq_ok]
      omega

/-- The envelope of a form: its two names around the declared length, and its body. -/
theorem isForm_iff (bytes : List UInt8) (chunks : List Chunk) :
    IsForm bytes chunks ↔
      (riffHeaderBytes ≤ bytes.length ∧ bytes.take 4 = [0x52, 0x49, 0x46, 0x46] ∧
        slice bytes 8 12 = [0x57, 0x45, 0x42, 0x50]) ∧
      leValue (slice bytes 4 8) + 8 = bytes.length ∧
      bytes.drop riffHeaderBytes = body chunks := by
  have twelve : riffHeaderBytes = 12 := rfl
  rw [twelve]
  constructor
  · intro form
    obtain ⟨size, fits, length, rfl⟩ := form
    have word : (leBytes 4 size).length = 4 := leBytes_length 4 size
    have declares : slice ([0x52, 0x49, 0x46, 0x46] ++
        (leBytes 4 size ++ ([0x57, 0x45, 0x42, 0x50] ++ body chunks))) 4 8 = leBytes 4 size := by
      show (leBytes 4 size ++ ([0x57, 0x45, 0x42, 0x50] ++ body chunks)).take 4 = _
      exact List.take_left' word
    have header : ([0x52, 0x49, 0x46, 0x46] ++ leBytes 4 size).length = 8 := by
      rw [List.length_append, word]
      rfl
    have behind : ([0x52, 0x49, 0x46, 0x46] ++
        (leBytes 4 size ++ ([0x57, 0x45, 0x42, 0x50] ++ body chunks))).drop 8 =
          [0x57, 0x45, 0x42, 0x50] ++ body chunks := by
      rw [← List.append_assoc]
      exact List.drop_left' header
    refine ⟨⟨?_, rfl, ?_⟩, ?_, ?_⟩
    · simp only [List.length_append, word, List.length_cons, List.length_nil]
      omega
    · rw [slice, behind]
      rfl
    · rw [declares, leValue_leBytes_of_lt 4 size fits]
      exact length
    · rw [show 12 = 8 + 4 from rfl, ← List.drop_drop, behind]
      rfl
  · intro envelope
    obtain ⟨⟨long, riff, webp⟩, length, tiled⟩ := envelope
    have word : (slice bytes 4 8).length = 4 := slice_length bytes 4 8 (by omega)
    have bound := leValue_bound (slice bytes 4 8)
    have read := leBytes_leValue (slice bytes 4 8)
    rw [word] at bound read
    have further (first second : Nat) :
        bytes.drop (first + second) = (bytes.drop first).drop second := List.drop_drop.symm
    refine ⟨leValue (slice bytes 4 8), bound, length, ?_⟩
    rw [read, ← riff, ← webp, ← tiled, slice, slice, further 8 4, List.take_append_drop,
      further 4 4, List.take_append_drop, List.take_append_drop]

/-- An inspection admits the forms with one geometry chunk, and returns what that chunk says. -/
theorem inspectWebp_eq_ok (bytes : List UInt8) (info : WebpInfo) :
    inspectWebp bytes = .ok info ↔ IsPreview SimpleGeometry bytes info := by
  rw [inspectWebp, check_eq_ok, refuseWhen_eq_ok, Nat.not_lt, IsPreview]
  refine and_congr_right fun _ => ?_
  rw [check_eq_ok, refuseWhen_eq_ok, not_or, not_or, Nat.not_lt, ne_eq, ne_eq,
    not_not, not_not]
  constructor
  · intro accepted
    obtain ⟨names, accepted⟩ := accepted
    obtain ⟨size, read, accepted⟩ := ok_of_bind accepted
    rw [readU32At_eq_ok] at read
    rw [check_eq_ok, refuseWhen_eq_ok, not_not, bind_eq_ok] at accepted
    obtain ⟨length, dimensions, looped, accepted⟩ := accepted
    obtain ⟨found, present, accepted⟩ := ok_of_bind accepted
    rw [check_eq_ok, validateGeometry_eq_ok] at accepted
    obtain ⟨within, result⟩ := accepted
    cases result
    rw [orError_eq_ok] at present
    rw [present, inspectChunks_eq_ok] at looped
    obtain ⟨chunks, tiled, folded⟩ := looped
    refine ⟨chunks, ?_, (judgeChunks_none chunks info).mp folded, within⟩
    rw [isForm_iff, read.2]
    exact ⟨names, length, tiled⟩
  · intro preview
    obtain ⟨chunks, form, simple, within⟩ := preview
    rw [isForm_iff] at form
    obtain ⟨names, length, tiled⟩ := form
    have twelve : riffHeaderBytes = 12 := rfl
    have long := names.1
    rw [twelve] at long
    have read : readU32At bytes 4 = .ok (leValue (slice bytes 4 8)) := by
      rw [readU32At_eq_ok]
      exact ⟨by omega, rfl⟩
    have looped : inspectChunks bytes riffHeaderBytes none = .ok (some info) := by
      rw [inspectChunks_eq_ok]
      exact ⟨chunks, tiled, (judgeChunks_none chunks info).mpr simple⟩
    refine ⟨names, ?_⟩
    rw [read, bind_eq_ok]
    refine ⟨_, rfl, ?_⟩
    rw [check_eq_ok, refuseWhen_eq_ok, not_not, looped]
    refine ⟨length, ?_⟩
    show (validateGeometry info >>= fun _ => _) = _
    rw [(validateGeometry_eq_ok info).mpr within]
    rfl

variable {bytes : List UInt8}

theorem isForm_chunks {first second : List Chunk}
    (one : IsForm bytes first) (other : IsForm bytes second) : first = second := by
  rw [isForm_iff] at one other
  exact body_injective (one.2.2.symm.trans other.2.2)

theorem not_simple_of_extended {info other : WebpInfo}
    (extended : IsPreview ExtendedGeometry bytes info) :
    ¬ IsPreview SimpleGeometry bytes other := by
  intro simple
  obtain ⟨-, chunks, form, ⟨canvas, kind, payload, two, -⟩, -⟩ := extended
  obtain ⟨-, others, otherForm, ⟨only, single, one, -⟩, -⟩ := simple
  rw [isForm_chunks otherForm form, two] at one
  exact nomatch one

/-! ## The indices of an inspection

The same functions with every index and every range as the code takes it: out of range, the program
stops. Behind the length checks none of them is out of range. -/

/-- Why a function returns nothing: it refuses its input, or an index is out of range. -/
inductive Stop where
  | refused (error : CartridgeError)
  | outOfBounds

namespace Indexed

def refuse {α : Type} (code : ErrorCode) (detail : String) : Except Stop α :=
  .error (.refused (previewError code detail))

def refuseIf (condition : Prop) [Decidable condition] (code : ErrorCode) (detail : String) :
    Except Stop Unit :=
  if condition then refuse code detail else .ok ()

/-- `bytes[index]`. -/
def byte (bytes : List UInt8) (index : Nat) : Except Stop Nat :=
  match bytes[index]? with
  | some byte => .ok byte.toNat
  | none => .error .outOfBounds

/-- `&bytes[first..last]`. -/
def range (bytes : List UInt8) (first last : Nat) : Except Stop (List UInt8) :=
  if first ≤ last ∧ last ≤ bytes.length then .ok (slice bytes first last)
  else .error .outOfBounds

/-- `bytes.get(first..last)`. -/
def get (bytes : List UInt8) (first last : Nat) (detail : String) : Except Stop (List UInt8) :=
  if first ≤ last ∧ last ≤ bytes.length then .ok (slice bytes first last)
  else refuse .manifestInvalid detail

def readU24 (bytes : List UInt8) (offset : Nat) : Except Stop Nat := do
  let part ← get bytes offset (offset + 3) "WebP u24 field is truncated"
  let low ← byte part 0
  let middle ← byte part 1
  let high ← byte part 2
  return low ||| (middle <<< 8) ||| (high <<< 16)

def readU32 (bytes : List UInt8) (offset : Nat) : Except Stop Nat := do
  let part ← get bytes offset (offset + 4) "WebP u32 field is truncated"
  let first ← byte part 0
  let second ← byte part 1
  let third ← byte part 2
  let fourth ← byte part 3
  return first ||| (second <<< 8) ||| (third <<< 16) ||| (fourth <<< 24)

def dimensionsForChunk (fourcc payload : List UInt8) : Except Stop (Option WebpInfo) :=
  if fourcc = [0x56, 0x50, 0x38, 0x58] then do
    refuseIf (payload.length ≠ 10) .manifestInvalid "VP8X chunk must contain exactly ten bytes"
    let width ← readU24 payload 4
    let height ← readU24 payload 7
    return some ⟨width + 1, height + 1⟩
  else if fourcc = [0x56, 0x50, 0x38, 0x20] then do
    refuseIf (payload.length < 10) .manifestInvalid "VP8 frame header is invalid"
    let startCode ← range payload 3 6
    refuseIf (startCode ≠ [0x9d, 0x01, 0x2a]) .manifestInvalid "VP8 frame header is invalid"
    let widthLow ← byte payload 6
    let widthHigh ← byte payload 7
    let heightLow ← byte payload 8
    let heightHigh ← byte payload 9
    return some ⟨(widthLow ||| (widthHigh <<< 8)) &&& 0x3fff,
      (heightLow ||| (heightHigh <<< 8)) &&& 0x3fff⟩
  else if fourcc = [0x56, 0x50, 0x38, 0x4C] then do
    refuseIf (payload.length < 5) .manifestInvalid "VP8L frame header is invalid"
    let signature ← byte payload 0
    refuseIf (signature ≠ 0x2f) .manifestInvalid "VP8L frame header is invalid"
    let first ← byte payload 1
    let second ← byte payload 2
    let third ← byte payload 3
    let fourth ← byte payload 4
    return some {
      width := 1 + (first ||| ((second &&& 0x3f) <<< 8))
      height := 1 + ((second >>> 6) ||| (third <<< 2) ||| ((fourth &&& 0x0f) <<< 10)) }
  else .ok none

/-- The chunk loop of `inspect_webp` from a cursor. -/
def inspectChunks (bytes : List UInt8) (cursor : Nat) (dimensions : Option WebpInfo) :
    Except Stop (Option WebpInfo) :=
  if cursor < bytes.length then do
    let headerEnd := cursor + chunkHeaderBytes
    refuseIf (headerEnd > bytes.length) .manifestInvalid "WebP chunk header is truncated"
    let fourcc ← range bytes cursor (cursor + 4)
    let payloadLength ← readU32 bytes (cursor + 4)
    let payloadEnd := headerEnd + payloadLength
    let paddedEnd := payloadEnd + (payloadLength &&& 1)
    refuseIf (paddedEnd > bytes.length) .manifestInvalid
      "WebP chunk extends beyond the RIFF envelope"
    let payload ← range bytes headerEnd payloadEnd
    let found ← dimensionsForChunk fourcc payload
    refuseIf (found.isSome ∧ dimensions.isSome) .manifestInvalid
      "WebP contains more than one authoritative image geometry"
    inspectChunks bytes paddedEnd (found <|> dimensions)
  else .ok dimensions
  termination_by bytes.length - cursor
  decreasing_by
    simp only [chunkHeaderBytes]
    omega

def inspectWebp (bytes : List UInt8) : Except Stop WebpInfo := do
  refuseIf (bytes.length > maxPreviewBytes) .entryTooLarge "preview exceeds the LC byte ceiling"
  refuseIf (bytes.length < riffHeaderBytes) .manifestInvalid "preview is not a WebP RIFF envelope"
  let riff ← range bytes 0 4
  refuseIf (riff ≠ [0x52, 0x49, 0x46, 0x46]) .manifestInvalid "preview is not a WebP RIFF envelope"
  let webp ← range bytes 8 12
  refuseIf (webp ≠ [0x57, 0x45, 0x42, 0x50]) .manifestInvalid "preview is not a WebP RIFF envelope"
  let declaredRiffSize ← readU32 bytes 4
  refuseIf (declaredRiffSize + 8 ≠ bytes.length) .manifestInvalid
    "WebP RIFF length does not match the entry"
  let dimensions ← inspectChunks bytes riffHeaderBytes none
  match dimensions with
  | none => refuse .manifestInvalid "WebP does not contain a supported image geometry chunk"
  | some info => do
    (validateGeometry info).mapError .refused
    return info

theorem or_shiftLeft (low high width : Nat) (bound : low < 2 ^ width) :
    low ||| (high <<< width) = low + 2 ^ width * high := by
  rw [Nat.or_comm, ← Nat.shiftLeft_add_eq_or_of_lt bound high, Nat.shiftLeft_eq, Nat.mul_comm,
    Nat.add_comm]

theorem word_two (first second : UInt8) :
    first.toNat ||| (second.toNat <<< 8) = leValue [first, second] := by
  rw [or_shiftLeft _ _ 8 first.toNat_lt]
  simp only [leValue_cons, leValue_nil]
  omega

theorem word_three (first second third : UInt8) :
    first.toNat ||| (second.toNat <<< 8) ||| (third.toNat <<< 16) =
      leValue [first, second, third] := by
  have bound : leValue [first, second] < 2 ^ 16 := by
    simpa using leValue_bound [first, second]
  rw [word_two, or_shiftLeft _ _ 16 bound]
  simp only [leValue_cons, leValue_nil]
  omega

theorem word_four (first second third fourth : UInt8) :
    first.toNat ||| (second.toNat <<< 8) ||| (third.toNat <<< 16) ||| (fourth.toNat <<< 24) =
      leValue [first, second, third, fourth] := by
  have bound : leValue [first, second, third] < 2 ^ 24 := by
    simpa using leValue_bound [first, second, third]
  rw [word_three, or_shiftLeft _ _ 24 bound]
  simp only [leValue_cons, leValue_nil]
  omega

theorem range_eq_ok {first last : Nat} (ordered : first ≤ last)
    (inside : last ≤ bytes.length) : range bytes first last = .ok (slice bytes first last) :=
  if_pos ⟨ordered, inside⟩

theorem byte_eq_ok {index : Nat} (inside : index < bytes.length) :
    byte bytes index = .ok (byteAt bytes index) := by
  rw [byte, byteAt, List.getElem?_eq_getElem inside, List.getD_eq_getElem _ _ inside]

theorem refuseIf_eq (condition : Prop) [Decidable condition] (code : ErrorCode) (detail : String) :
    refuseIf condition code detail =
      (refuseWhen condition (previewError code detail)).mapError .refused := by
  by_cases met : condition
  · rw [refuseIf, refuseWhen, if_pos met, if_pos met]
    rfl
  · rw [refuseIf, refuseWhen, if_neg met, if_neg met]
    rfl

theorem mapError_bind {α β : Type} (first : Except CartridgeError α)
    (rest : α → Except CartridgeError β) :
    (first >>= rest).mapError Stop.refused =
      first.mapError Stop.refused >>= fun value => (rest value).mapError Stop.refused := by
  cases first with
  | error error => rfl
  | ok value => rfl

theorem readU24_eq (bytes : List UInt8) (offset : Nat) :
    readU24 bytes offset = (readU24At bytes offset).mapError .refused := by
  by_cases inside : offset + 3 ≤ bytes.length
  · have width : (slice bytes offset (offset + 3)).length = 3 := by
      rw [slice_length bytes offset (offset + 3) inside]
      omega
    have read : readU24At bytes offset = .ok (leValue (slice bytes offset (offset + 3))) := by
      rw [readU24At_eq_ok]
      exact ⟨inside, rfl⟩
    rw [read, readU24, get, if_pos ⟨by omega, inside⟩]
    match slice bytes offset (offset + 3), width with
    | [first, second, third], _ =>
      show Except.ok (first.toNat ||| (second.toNat <<< 8) ||| (third.toNat <<< 16)) = _
      rw [word_three]
      rfl
  · rw [readU24, get, if_neg fun both => inside both.2, readU24At, refuseWhen,
      if_pos (Nat.not_le.mp inside)]
    rfl

theorem readU32_eq (bytes : List UInt8) (offset : Nat) :
    readU32 bytes offset = (readU32At bytes offset).mapError .refused := by
  by_cases inside : offset + 4 ≤ bytes.length
  · have width : (slice bytes offset (offset + 4)).length = 4 := by
      rw [slice_length bytes offset (offset + 4) inside]
      omega
    have read : readU32At bytes offset = .ok (leValue (slice bytes offset (offset + 4))) := by
      rw [readU32At_eq_ok]
      exact ⟨inside, rfl⟩
    rw [read, readU32, get, if_pos ⟨by omega, inside⟩]
    match slice bytes offset (offset + 4), width with
    | [first, second, third, fourth], _ =>
      show Except.ok (first.toNat ||| (second.toNat <<< 8) ||| (third.toNat <<< 16) |||
        (fourth.toNat <<< 24)) = _
      rw [word_four]
      rfl
  · rw [readU32, get, if_neg fun both => inside both.2, readU32At, refuseWhen,
      if_pos (Nat.not_le.mp inside)]
    rfl

theorem word_at (index : Nat) (inside : index + 2 ≤ payload.length) :
    byteAt payload index ||| (byteAt payload (index + 1) <<< 8) =
      leValue (slice payload index (index + 2)) := by
  have first : index < payload.length := by omega
  have second : index + 1 < payload.length := by omega
  have pair : slice payload index (index + 2) = [payload[index], payload[index + 1]] := by
    rw [slice, Nat.add_sub_cancel_left, List.drop_eq_getElem_cons first,
      List.drop_eq_getElem_cons second]
    rfl
  rw [byteAt, byteAt, List.getD_eq_getElem _ _ first, List.getD_eq_getElem _ _ second, word_two,
    pair]

/-- The dimensions of a chunk are read inside its payload. -/
theorem dimensionsForChunk_eq (fourcc payload : List UInt8) :
    dimensionsForChunk fourcc payload =
      (Archive.dimensionsForChunk fourcc payload).mapError .refused := by
  rw [dimensionsForChunk, Archive.dimensionsForChunk]
  by_cases canvas : fourcc = [0x56, 0x50, 0x38, 0x58]
  · rw [if_pos canvas, if_pos canvas, mapError_bind, refuseIf_eq]
    congr 1
    funext _
    rw [mapError_bind, readU24_eq]
    congr 1
    funext width
    rw [mapError_bind, readU24_eq]
    rfl
  rw [if_neg canvas, if_neg canvas]
  by_cases lossy : fourcc = [0x56, 0x50, 0x38, 0x20]
  · rw [if_pos lossy, if_pos lossy]
    by_cases short : payload.length < 10
    · rw [refuseIf, refuseWhen, if_pos short, if_pos (.inl short)]
      rfl
    · have startCode : range payload 3 6 = .ok (slice payload 3 6) :=
        range_eq_ok (by decide) (by omega)
      have widthWord := word_at payload 6 (by omega)
      have heightWord := word_at payload 8 (by omega)
      rw [refuseIf, if_neg short, startCode]
      by_cases other : slice payload 3 6 ≠ [0x9d, 0x01, 0x2a]
      · rw [refuseWhen, if_pos (.inr other)]
        show (refuseIf _ _ _ >>= fun _ => _) = _
        rw [refuseIf, if_pos other]
        rfl
      · rw [refuseWhen, if_neg (not_or.mpr ⟨short, other⟩)]
        show (refuseIf _ _ _ >>= fun _ => _) = _
        rw [refuseIf, if_neg other, byte_eq_ok (by omega : 6 < payload.length),
          byte_eq_ok (by omega : 7 < payload.length), byte_eq_ok (by omega : 8 < payload.length),
          byte_eq_ok (by omega : 9 < payload.length)]
        show Except.ok (some (WebpInfo.mk
          ((byteAt payload 6 ||| (byteAt payload 7 <<< 8)) &&& 0x3fff)
          ((byteAt payload 8 ||| (byteAt payload 9 <<< 8)) &&& 0x3fff))) = _
        rw [widthWord, heightWord]
        rfl
  rw [if_neg lossy, if_neg lossy]
  by_cases lossless : fourcc = [0x56, 0x50, 0x38, 0x4C]
  · rw [if_pos lossless, if_pos lossless]
    by_cases short : payload.length < 5
    · rw [refuseIf, refuseWhen, if_pos short, if_pos (.inl short)]
      rfl
    · rw [refuseIf, if_neg short, byte_eq_ok (by omega : 0 < payload.length)]
      by_cases other : byteAt payload 0 ≠ 0x2f
      · rw [refuseWhen, if_pos (.inr other)]
        show (refuseIf _ _ _ >>= fun _ => _) = _
        rw [refuseIf, if_pos other]
        rfl
      · rw [refuseWhen, if_neg (not_or.mpr ⟨short, other⟩)]
        show (refuseIf _ _ _ >>= fun _ => _) = _
        rw [refuseIf, if_neg other, byte_eq_ok (by omega : 1 < payload.length),
          byte_eq_ok (by omega : 2 < payload.length), byte_eq_ok (by omega : 3 < payload.length),
          byte_eq_ok (by omega : 4 < payload.length)]
        rfl
  · rw [if_neg lossless, if_neg lossless]
    rfl

theorem replaceDimensions_eq {β : Type} (dimensions found : Option WebpInfo)
    (rest : Option WebpInfo → Except CartridgeError β) :
    (refuseIf (found.isSome ∧ dimensions.isSome) .manifestInvalid
        "WebP contains more than one authoritative image geometry" >>= fun _ =>
      (rest (found <|> dimensions)).mapError Stop.refused) =
      (replaceDimensions dimensions found >>= rest).mapError .refused := by
  cases found with
  | none => cases dimensions <;> rfl
  | some info => cases dimensions <;> rfl

/-- The chunk loop stays inside the bytes. The induction is on what is left of them. -/
theorem inspectChunks_eq (bytes : List UInt8) (cursor : Nat) (dimensions : Option WebpInfo) :
    inspectChunks bytes cursor dimensions =
      (Archive.inspectChunks bytes cursor dimensions).mapError .refused := by
  rw [inspectChunks, Archive.inspectChunks]
  by_cases inside : cursor < bytes.length
  · rw [if_pos inside, if_pos inside, mapError_bind]
    show (refuseIf _ _ _ >>= fun _ => _) = _
    by_cases truncated : cursor + chunkHeaderBytes > bytes.length
    · rw [refuseIf, refuseWhen, if_pos truncated, if_pos truncated]
      rfl
    have eight : chunkHeaderBytes = 8 := rfl
    have name : range bytes cursor (cursor + 4) = .ok (slice bytes cursor (cursor + 4)) :=
      range_eq_ok (by omega) (by omega)
    rw [refuseIf, refuseWhen, if_neg truncated, if_neg truncated, ok_bind, name, ok_bind,
      readU32_eq]
    show _ = (.ok () >>= fun _ => (_ : Except CartridgeError _).mapError Stop.refused)
    rw [ok_bind, mapError_bind]
    congr 1
    funext payloadLength
    have parity : payloadLength &&& 1 = payloadLength % 2 :=
      Nat.and_two_pow_sub_one_eq_mod payloadLength 1
    rw [parity, mapError_bind]
    show (refuseIf _ _ _ >>= fun _ => _) = _
    by_cases long : cursor + chunkHeaderBytes + payloadLength + payloadLength % 2 > bytes.length
    · rw [refuseIf, refuseWhen, if_pos long, if_pos long]
      rfl
    have payload : range bytes (cursor + chunkHeaderBytes)
        (cursor + chunkHeaderBytes + payloadLength) =
          .ok (slice bytes (cursor + chunkHeaderBytes)
            (cursor + chunkHeaderBytes + payloadLength)) :=
      range_eq_ok (by omega) (by omega)
    rw [refuseIf, refuseWhen, if_neg long, if_neg long, ok_bind, payload, ok_bind,
      dimensionsForChunk_eq]
    show _ = (.ok () >>= fun _ => (_ : Except CartridgeError _).mapError Stop.refused)
    rw [ok_bind, mapError_bind]
    congr 1
    funext found
    rw [← replaceDimensions_eq]
    congr 1
    funext _
    exact inspectChunks_eq bytes _ _
  · rw [if_neg inside, if_neg inside]
    rfl
  termination_by bytes.length - cursor
  decreasing_by
    simp only [chunkHeaderBytes]
    omega

theorem inspectWebp_eq (bytes : List UInt8) :
    inspectWebp bytes = (Archive.inspectWebp bytes).mapError .refused := by
  rw [inspectWebp, Archive.inspectWebp, mapError_bind, refuseIf_eq]
  congr 1
  funext _
  by_cases short : bytes.length < riffHeaderBytes
  · rw [refuseIf, refuseWhen, if_pos short, if_pos (.inl short)]
    rfl
  have twelve : riffHeaderBytes = 12 := rfl
  have riffRange : range bytes 0 4 = .ok (bytes.take 4) := range_eq_ok (by decide) (by omega)
  have webpRange : range bytes 8 12 = .ok (slice bytes 8 12) :=
    range_eq_ok (by decide) (by omega)
  rw [refuseIf, if_neg short, riffRange]
  show (refuseIf _ _ _ >>= fun _ => _) = _
  by_cases riff : bytes.take 4 ≠ [0x52, 0x49, 0x46, 0x46]
  · rw [refuseIf, refuseWhen, if_pos riff, if_pos (.inr (.inl riff))]
    rfl
  rw [refuseIf, if_neg riff, webpRange]
  show (refuseIf _ _ _ >>= fun _ => _) = _
  by_cases webp : slice bytes 8 12 ≠ [0x57, 0x45, 0x42, 0x50]
  · rw [refuseIf, refuseWhen, if_pos webp, if_pos (.inr (.inr webp))]
    rfl
  rw [refuseIf, if_neg webp, refuseWhen, if_neg (not_or.mpr ⟨short, not_or.mpr ⟨riff, webp⟩⟩),
    ok_bind, ok_bind, mapError_bind, readU32_eq]
  congr 1
  funext size
  rw [mapError_bind]
  show (refuseIf _ _ _ >>= fun _ => _) = _
  rw [refuseIf_eq]
  congr 1
  funext _
  rw [mapError_bind, inspectChunks_eq]
  congr 1
  funext dimensions
  cases dimensions with
  | none => rfl
  | some info =>
    show ((validateGeometry info).mapError Stop.refused >>= fun _ => _) =
      (validateGeometry info >>= fun _ => _ : Except CartridgeError _).mapError Stop.refused
    rw [mapError_bind]
    rfl

end Indexed

theorem indexed_eq_ok (bytes : List UInt8) (info : WebpInfo) :
    Indexed.inspectWebp bytes = .ok info ↔ IsPreview SimpleGeometry bytes info := by
  rw [Indexed.inspectWebp_eq, mapError_eq_ok, inspectWebp_eq_ok]

theorem indexed_inside (bytes : List UInt8) : Indexed.inspectWebp bytes ≠ .error .outOfBounds := by
  rw [Indexed.inspectWebp_eq]
  cases inspectWebp bytes with
  | error error => exact fun same => nomatch Except.error.inj same
  | ok info => exact nofun

/-- An inspection stays inside the bytes and returns exactly the canvas of every well-formed still
image, if and only if the file is not an extended image with its image chunk. -/
theorem inspection_exact_iff (bytes : List UInt8) :
    (Indexed.inspectWebp bytes ≠ .error .outOfBounds ∧
      ∀ info, Indexed.inspectWebp bytes = .ok info ↔ StillImage bytes info) ↔
      ∀ info, ¬ IsPreview ExtendedGeometry bytes info := by
  constructor
  · intro meets info extended
    have admitted := (meets.2 info).mpr (.inr extended)
    rw [indexed_eq_ok] at admitted
    exact not_simple_of_extended extended admitted
  · intro plain
    refine ⟨indexed_inside bytes, fun info => ?_⟩
    rw [indexed_eq_ok, StillImage]
    constructor
    · exact Or.inl
    · intro still
      cases still with
      | inl simple => exact simple
      | inr extended => exact absurd extended (plain info)

/-- The canvas chunk of an extended image of one pixel. -/
def pixelCanvas : Chunk where
  fourcc := [0x56, 0x50, 0x38, 0x58]
  payload := [0, 0, 0, 0, 0, 0, 0, 0, 0, 0]
  padding := []
  named := rfl
  fits := by decide
  padded := rfl

def pixelImage : Chunk where
  fourcc := [0x56, 0x50, 0x38, 0x4C]
  payload := [0x2f, 0, 0, 0, 0, 0x88, 0x88, 0x08]
  padding := []
  named := rfl
  fits := by decide
  padded := rfl

/-- An extended image of one pixel with its lossless image chunk. -/
def extendedPixel : List UInt8 :=
  [0x52, 0x49, 0x46, 0x46] ++
    (leBytes 4 38 ++ ([0x57, 0x45, 0x42, 0x50] ++ body [pixelCanvas, pixelImage]))

theorem extendedPixel_extended : IsPreview ExtendedGeometry extendedPixel ⟨1, 1⟩ := by
  have form : IsForm extendedPixel [pixelCanvas, pixelImage] :=
    ⟨38, by decide, by decide, rfl⟩
  have geometry : ExtendedGeometry [pixelCanvas, pixelImage] ⟨1, 1⟩ :=
    ⟨pixelCanvas.payload, .lossless, pixelImage.payload, by decide, by decide, by decide,
      by decide⟩
  exact ⟨by decide, _, form, geometry, by decide, by decide, by decide⟩

/-- The inspection of the extended image of one pixel refuses it. -/
theorem extendedPixel_refused :
    ¬ (Indexed.inspectWebp extendedPixel ≠ .error .outOfBounds ∧
      ∀ info, Indexed.inspectWebp extendedPixel = .ok info ↔ StillImage extendedPixel info) := by
  intro meets
  have admitted := (meets.2 ⟨1, 1⟩).mpr (.inr extendedPixel_extended)
  rw [indexed_eq_ok] at admitted
  exact not_simple_of_extended extendedPixel_extended admitted

end LatentDeck.Archive
