import LatentDeck.Archive.Format

/-!
# Limits and digests

The specification ceilings of LC 0.1 and the limits of one reader, which are never above them, and
SHA-256 digests with their text.
-/

namespace LatentDeck.Archive

def maxSafetensorsHeaderBytes : Nat := mib
def maxPreviewAxis : Nat := 4096
def maxPreviewPixels : Nat := 16777216
def maxTensors : Nat := 2
def maxTensorRank : Nat := 5
def maxParentCartridges : Nat := 256
def maxOperationRecords : Nat := 1024
def maxControlsPerOperation : Nat := 128
def maxProvenanceSources : Nat := 64
def maxJsonDepth : Nat := 32
def maxIdentifierBytes : Nat := 128
def maxHumanStringBytes : Nat := 4096
def maxUriBytes : Nat := 8192
def maxJcsSafeInteger : Nat := 9007199254740991
def maxH3DecodedAxis : Nat := 4096
def maxH3TemporalAxis : Nat := 1048576

/-- A limit that is never above the ceiling of the specification. -/
abbrev Limit (ceiling : Nat) : Type := { limit : Nat // limit ≤ ceiling }

def Limit.specification (ceiling : Nat) : Limit ceiling := ⟨ceiling, Nat.le_refl ceiling⟩

structure ValidationLimits where
  manifestBytes : Limit maxManifestBytes
  h3PayloadBytes : Limit maxH3PayloadBytes
  previewBytes : Limit maxPreviewBytes
  tensors : Limit maxTensors
  tensorRank : Limit maxTensorRank
  parentCartridges : Limit maxParentCartridges
  operationRecords : Limit maxOperationRecords
  controlsPerOperation : Limit maxControlsPerOperation
  provenanceSources : Limit maxProvenanceSources
  jsonDepth : Limit maxJsonDepth
  identifierBytes : Limit maxIdentifierBytes
  humanStringBytes : Limit maxHumanStringBytes
  uriBytes : Limit maxUriBytes
  h3DecodedAxis : Limit maxH3DecodedAxis
  h3TemporalAxis : Limit maxH3TemporalAxis

namespace ValidationLimits

/-- `ValidationLimits::specification`. -/
def specification : ValidationLimits where
  manifestBytes := .specification maxManifestBytes
  h3PayloadBytes := .specification maxH3PayloadBytes
  previewBytes := .specification maxPreviewBytes
  tensors := .specification maxTensors
  tensorRank := .specification maxTensorRank
  parentCartridges := .specification maxParentCartridges
  operationRecords := .specification maxOperationRecords
  controlsPerOperation := .specification maxControlsPerOperation
  provenanceSources := .specification maxProvenanceSources
  jsonDepth := .specification maxJsonDepth
  identifierBytes := .specification maxIdentifierBytes
  humanStringBytes := .specification maxHumanStringBytes
  uriBytes := .specification maxUriBytes
  h3DecodedAxis := .specification maxH3DecodedAxis
  h3TemporalAxis := .specification maxH3TemporalAxis

end ValidationLimits

/-- `Sha256Hash` — 32 bytes. -/
structure Sha256Hash where
  bytes : List UInt8
  exact : bytes.length = 32
  deriving DecidableEq

/-- The value of a lowercase hexadecimal digit. -/
def hexValue (digit : UInt8) : UInt8 :=
  if Text.isAsciiDigit digit then digit - 0x30 else digit - 0x61 + 10

/-- `hex::decode_to_slice`. -/
def decodeHex : List UInt8 → List UInt8
  | high :: low :: digits => (hexValue high * 16 + hexValue low) :: decodeHex digits
  | _ => []

theorem decodeHex_length (digits : List UInt8) : (decodeHex digits).length = digits.length / 2 := by
  induction digits using decodeHex.induct with
  | case1 high low digits ih =>
    rw [decodeHex, List.length_cons, ih, List.length_cons, List.length_cons]
    omega
  | case2 digits short =>
    match digits, short with
    | [], _ => rfl
    | [high], _ => simp [decodeHex]
    | high :: low :: digits, short => exact absurd rfl (short high low digits)

def hexDigit (value : UInt8) : UInt8 :=
  if value < 10 then value + 0x30 else value - 10 + 0x61

/-- `hex::encode`. -/
def encodeHex (bytes : List UInt8) : List UInt8 :=
  bytes.flatMap fun byte => [hexDigit (byte / 16), hexDigit (byte % 16)]

theorem hexDigits_byte (byte : UInt8) :
    hexValue (hexDigit (byte / 16)) * 16 + hexValue (hexDigit (byte % 16)) = byte ∧
      Text.isLowerHex (hexDigit (byte / 16)) = true ∧
      Text.isLowerHex (hexDigit (byte % 16)) = true := by
  have every : ∀ code : Fin 256, let byte := UInt8.ofNat code.val
      hexValue (hexDigit (byte / 16)) * 16 + hexValue (hexDigit (byte % 16)) = byte ∧
        Text.isLowerHex (hexDigit (byte / 16)) = true ∧
        Text.isLowerHex (hexDigit (byte % 16)) = true := by
    decide +kernel
  have this := every ⟨byte.toNat, byte.toNat_lt⟩
  rwa [UInt8.ofNat_toNat] at this

theorem decodeHex_encodeHex (bytes : List UInt8) : decodeHex (encodeHex bytes) = bytes := by
  induction bytes with
  | nil => rfl
  | cons byte bytes ih =>
    have digits : encodeHex (byte :: bytes) =
        hexDigit (byte / 16) :: hexDigit (byte % 16) :: encodeHex bytes := rfl
    rw [digits, decodeHex, ih, (hexDigits_byte byte).1]

theorem encodeHex_canonical (bytes : List UInt8) :
    (encodeHex bytes).length = 2 * bytes.length ∧
      (encodeHex bytes).all Text.isLowerHex = true := by
  induction bytes with
  | nil => exact ⟨rfl, rfl⟩
  | cons byte bytes ih =>
    have digits : encodeHex (byte :: bytes) =
        hexDigit (byte / 16) :: hexDigit (byte % 16) :: encodeHex bytes := rfl
    rw [digits, List.all_cons, List.all_cons, List.length_cons, List.length_cons,
      List.length_cons, ih.1, ih.2, (hexDigits_byte byte).2.1, (hexDigits_byte byte).2.2]
    exact ⟨by omega, rfl⟩

theorem isLowerHex_ascii (byte : UInt8) (digit : Text.isLowerHex byte = true) : byte < 128 := by
  simp only [Text.isLowerHex, Text.isAsciiDigit, Bool.or_eq_true, Bool.and_eq_true,
    decide_eq_true_eq, UInt8.le_iff_toNat_le] at digit
  rw [UInt8.lt_iff_toNat_lt]
  simp at digit ⊢
  omega

def Sha256Hash.parse (value : String) : Except CartridgeError Sha256Hash :=
  let digits := nameBytes value
  if canonical : digits.length = 64 ∧ digits.all Text.isLowerHex then
    .ok ⟨decodeHex digits, by rw [decodeHex_length, canonical.1]⟩
  else
    .error (.new .manifestInvalid "SHA-256 must be 64 lowercase hexadecimal characters")

/-- `Sha256Hash::to_string`. -/
def Sha256Hash.text (digest : Sha256Hash) : List UInt8 := encodeHex digest.bytes

/-- `Sha256Hash::to_string`, as a text. -/
def Sha256Hash.display (digest : Sha256Hash) : String :=
  String.ofList (digest.text.map fun byte => Char.ofNat byte.toNat)

theorem Sha256Hash.parse_display (digest : Sha256Hash) :
    Sha256Hash.parse digest.display = .ok digest := by
  have canonical := encodeHex_canonical digest.bytes
  have digits : nameBytes digest.display = encodeHex digest.bytes :=
    Text.utf8Bytes_ascii _ fun byte member =>
      isLowerHex_ascii byte (List.all_eq_true.mp canonical.2 byte member)
  have shaped : (nameBytes digest.display).length = 64 ∧
      (nameBytes digest.display).all Text.isLowerHex = true := by
    rw [digits, canonical.1, digest.exact]
    exact ⟨rfl, canonical.2⟩
  rw [Sha256Hash.parse, dif_pos shaped, Except.ok.injEq]
  cases digest
  simp only [Sha256Hash.mk.injEq]
  rw [digits, decodeHex_encodeHex]

/-- `MeasuredHash` — the length and the digest of a stream. -/
structure MeasuredHash where
  byteLength : Nat
  sha256 : Sha256Hash
  deriving DecidableEq

/-- `hash_reader` — a stream is measured to its end. -/
def hashReader (sha256 : List UInt8 → Sha256Hash) (bytes : List UInt8) : MeasuredHash where
  byteLength := bytes.length
  sha256 := sha256 bytes

end LatentDeck.Archive
