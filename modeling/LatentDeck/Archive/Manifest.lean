import LatentDeck.Archive.Limits
import LatentDeck.Library.Json
import LatentDeck.Library.SortedMap
import Mathlib.Data.String.Basic

/-!
# The manifest

The LC 0.1 manifest and its codec-neutral checks, and the bounded parser around the derived
decoder. UUIDs, timestamps, the derived JSON decoder and the canonical JSON encoder are those of
other crates.
-/

namespace LatentDeck.Archive

open Fallible Json

abbrev SpecVersion : Type := String
abbrev CartridgeId : Type := String
abbrev Sha256Digest : Type := String
abbrev Identifier : Type := String

def lcSpecVersion : SpecVersion := "0.1.0"

structure Rational where
  numerator : Nat
  denominator : Nat
  deriving DecidableEq

def Rational.reduced (numerator denominator : Nat) : Option Rational :=
  if numerator = 0 ∨ denominator = 0 then none
  else
    let divisor := Nat.gcd numerator denominator
    some ⟨numerator / divisor, denominator / divisor⟩

def Rational.isCanonical (rational : Rational) : Bool :=
  rational.numerator > 0 && rational.denominator > 0 &&
    Nat.gcd rational.numerator rational.denominator == 1

structure CodecDescriptor where
  family : Identifier
  profile : Identifier
  profileVersion : SpecVersion
  deriving DecidableEq

structure PayloadDescriptor where
  path : String
  mediaType : String
  byteLength : Nat
  sha256 : Sha256Digest

inductive TensorStream where
  | visual
  | audio
  deriving DecidableEq

inductive DType where
  | f16
  | f32
  | unsupported
  deriving DecidableEq

def DType.byteWidth : DType → Option Nat
  | .f16 => some 2
  | .f32 => some 4
  | .unsupported => none

def DType.isSupported : DType → Bool
  | .f16 | .f32 => true
  | .unsupported => false

structure TensorDescriptor where
  stream : TensorStream
  name : Identifier
  payload : String
  storageDtype : DType
  runtimeDtype : DType
  shape : List Nat
  deriving DecidableEq

structure DecodedVideoDescriptor where
  width : Nat
  height : Nat
  frameCount : Nat
  frameRate : Rational
  duration : Rational

structure TimingDescriptor where
  contract : Identifier
  contractVersion : SpecVersion
  decodedVideo : DecodedVideoDescriptor

structure SourceCartridgeRef where
  cartridgeId : CartridgeId
  archiveSha256 : Sha256Digest
  deriving DecidableEq

inductive AudioOmissionReason where
  | durationMismatch
  | temporalMappingMismatch
  | durationAndMappingMismatch
  deriving DecidableEq

inductive AudioDisposition where
  | sourceAbsent
  | preservedSource
  | copiedFromCarrierExact (sourceCartridge : SourceCartridgeRef)
  | omittedTimingMismatch (sourceCartridge : SourceCartridgeRef) (reason : AudioOmissionReason)
  deriving DecidableEq

def AudioDisposition.requiresAudioTensor : AudioDisposition → Bool
  | .preservedSource | .copiedFromCarrierExact _ => true
  | .sourceAbsent | .omittedTimingMismatch _ _ => false

structure PreviewDescriptor where
  path : String
  mediaType : String
  byteLength : Nat
  sha256 : Sha256Digest
  width : Nat
  height : Nat

structure ProducerDescriptor where
  name : Identifier
  version : String

structure ProvenanceSource where
  kind : Identifier
  sha256 : Option Sha256Digest
  uri : Option String
  license : Option String
  metadata : Option (SortedMap String Value)

structure Provenance where
  createdBy : ProducerDescriptor
  createdAt : Option String
  sources : List ProvenanceSource

structure ParentCartridge where
  cartridgeId : CartridgeId
  archiveSha256 : Sha256Digest
  role : Identifier

structure OperationRecord where
  operatorId : Identifier
  operatorVersion : String
  seed : Nat
  controls : SortedMap String Value

structure ManifestV0_1 where
  specVersion : SpecVersion
  cartridgeId : CartridgeId
  codec : CodecDescriptor
  payloads : List PayloadDescriptor
  tensors : List TensorDescriptor
  timing : TimingDescriptor
  audio : AudioDisposition
  preview : Option PreviewDescriptor
  provenance : Provenance
  parentCartridges : List ParentCartridge
  operationHistory : List OperationRecord

/-- What a derived decoder reports: its message and where it was. -/
structure ManifestJsonError where
  message : String
  pointer : String

/-- The parts of other crates that the manifest rests on. -/
structure ManifestDecoder where
  document : Json.Parser
  manifest : Document → Except ManifestJsonError ManifestV0_1
  canonicalManifest : ManifestV0_1 → Option (List UInt8)
  /-- `Uuid::parse_str`. -/
  uuid : String → Option (BitVec 128)
  /-- `Uuid::hyphenated`, as text. -/
  hyphenated : BitVec 128 → String
  timestampOffset : String → Option Int

def manifestError (code : ErrorCode) (detail pointer : String) : CartridgeError :=
  (CartridgeError.new code detail).atJson pointer

def ensureMaxCount (actual maximum : Nat) (pointer resource : String) :
    Except CartridgeError Unit :=
  refuseWhen (actual > maximum)
    (manifestError .runtimeLimitExceeded
      (resource ++ " count " ++ toString actual ++ " exceeds limit " ++ toString maximum) pointer)

def validateSha256 (digest : Sha256Digest) (pointer : String) : Except CartridgeError Unit :=
  refuseWhen (¬ ((nameBytes digest).length = 64 ∧ (nameBytes digest).all Text.isLowerHex))
    (manifestError .manifestInvalid
      "SHA-256 must be exactly 64 lowercase hexadecimal characters" pointer)

def validateRational (rational : Rational) (pointer : String) : Except CartridgeError Unit :=
  refuseWhen (¬ rational.isCanonical)
    (manifestError .manifestInvalid
      "rational numerator and denominator must be positive and reduced" pointer)

/-- `is_ascii_lowercase`, or an ASCII digit. -/
def identifierStart (byte : UInt8) : Bool :=
  (0x61 ≤ byte && byte ≤ 0x7A) || Text.isAsciiDigit byte

/-- The bytes of `validate_identifier`. -/
def identifierByte (byte : UInt8) : Bool :=
  identifierStart byte || byte == 0x5F || byte == 0x2E || byte == 0x2D

def validateIdentifier (identifier : Identifier) (pointer : String) (limits : ValidationLimits) :
    Except CartridgeError Unit :=
  let bytes := nameBytes identifier
  refuseWhen (¬ (bytes ≠ [] ∧ bytes.length ≤ limits.identifierBytes.val ∧
      bytes.head?.any identifierStart ∧ bytes.all identifierByte))
    (manifestError .manifestInvalid "identifier must be a bounded lowercase ASCII token" pointer)

def validateBoundedString (value : String) (maximumBytes : Nat) (pointer label : String) :
    Except CartridgeError Unit :=
  refuseWhen (value.utf8ByteSize > maximumBytes)
    (manifestError .runtimeLimitExceeded
      (label ++ " exceeds the " ++ toString maximumBytes ++ "-byte ceiling") pointer)

def validateCartridgeId (decoder : ManifestDecoder) (cartridgeId : CartridgeId)
    (pointer : String) : Except CartridgeError Unit := do
  let parsed ← orError (decoder.uuid cartridgeId)
    (manifestError .manifestInvalid "cartridge_id must be a UUID" pointer)
  refuseWhen (parsed = 0 ∨ decoder.hyphenated parsed ≠ cartridgeId)
    (manifestError .manifestInvalid
      "cartridge_id must be a non-nil canonical lowercase UUID" pointer)

def validateCreatedAt (decoder : ManifestDecoder) (createdAt : String) :
    Except CartridgeError Unit := do
  let error := manifestError .manifestInvalid
    "created_at must be a valid RFC 3339 UTC timestamp ending in Z" "/provenance/created_at"
  let offset ← orError (decoder.timestampOffset createdAt) error
  refuseWhen (offset ≠ 0 ∨ createdAt.toList.getLast? ≠ some 'Z') error

/-- Whether `validate_json_number` refuses a number. -/
def numberOutOfRange : Number → Bool
  | .posInt value => value.toNat > maxJcsSafeInteger
  | .negInt value => value < -maxJcsSafeInteger || value > maxJcsSafeInteger
  | .float bits => !isFinite bits

def validateJsonNumber (number : Number) (pointer : String) : Except CartridgeError Unit :=
  refuseWhen (numberOutOfRange number)
    (manifestError .manifestInvalid "JSON number is outside the finite JCS-safe range" pointer)

def validateKey (key pointer : String) (limits : ValidationLimits) : Except CartridgeError Unit :=
  validateBoundedString key limits.identifierBytes.val (memberPointer pointer key)
    "JSON object key"

mutual

def validateJsonValue (limits : ValidationLimits) : Value → String → Except CartridgeError Unit
  | .null, _ => .ok ()
  | .bool _, _ => .ok ()
  | .string text, pointer =>
      validateBoundedString text limits.humanStringBytes.val pointer "JSON string"
  | .number number, pointer => validateJsonNumber number pointer
  | .array items, pointer => validateJsonItems limits items pointer 0
  | .object members, pointer => validateJsonMembers limits members pointer

def validateJsonItems (limits : ValidationLimits) :
    List Value → String → Nat → Except CartridgeError Unit
  | [], _, _ => .ok ()
  | item :: items, pointer, index => do
      validateJsonValue limits item (itemPointer pointer index)
      validateJsonItems limits items pointer (index + 1)

def validateJsonMembers (limits : ValidationLimits) :
    List (String × Value) → String → Except CartridgeError Unit
  | [], _ => .ok ()
  | (key, value) :: members, pointer => do
      validateKey key pointer limits
      validateJsonValue limits value (memberPointer pointer key)
      validateJsonMembers limits members pointer

end

def validateValueMap (values : SortedMap String Value) (pointer : String)
    (limits : ValidationLimits) : Except CartridgeError Unit :=
  validateJsonMembers limits values.entries pointer

def checkIndexed {α : Type} (check : α → String → Except CartridgeError Unit) (pointer : String) :
    List α → Nat → Except CartridgeError Unit
  | [], _ => .ok ()
  | record :: records, index => do
      check record (itemPointer pointer index)
      checkIndexed check pointer records (index + 1)

def checkOptional {α : Type} (check : α → Except CartridgeError Unit) :
    Option α → Except CartridgeError Unit
  | none => .ok ()
  | some value => check value

/-- The one payload descriptor that LC 0.1 admits. -/
def onlyPayload (manifest : ManifestV0_1) : Except CartridgeError PayloadDescriptor :=
  match manifest.payloads with
  | [payload] => .ok payload
  | _ => .error (manifestError .manifestInvalid
      "LC 0.1 requires exactly one payload descriptor" "/payloads")

def validateManifestShape (manifest : ManifestV0_1) (limits : ValidationLimits) :
    Except CartridgeError Unit := do
  refuseWhen (manifest.specVersion ≠ lcSpecVersion)
    (manifestError .unsupportedSpecVersion
      ("unsupported LC specification version " ++ manifest.specVersion) "/spec_version")
  refuseWhen (manifest.payloads.length ≠ 1)
    (manifestError .manifestInvalid "LC 0.1 requires exactly one payload descriptor" "/payloads")
  ensureMaxCount manifest.tensors.length limits.tensors.val "/tensors" "tensor descriptors"
  refuseWhen (manifest.tensors = [])
    (manifestError .tensorMissing "LC 0.1 requires at least one tensor descriptor" "/tensors")
  ensureMaxCount manifest.parentCartridges.length limits.parentCartridges.val
    "/parent_cartridges" "parent cartridges"
  ensureMaxCount manifest.operationHistory.length limits.operationRecords.val
    "/operation_history" "operation records"
  ensureMaxCount manifest.provenance.sources.length limits.provenanceSources.val
    "/provenance/sources" "provenance sources"

def validatePreview (preview : PreviewDescriptor) (limits : ValidationLimits) :
    Except CartridgeError Unit := do
  refuseWhen (preview.path ≠ "preview.webp" ∨ preview.mediaType ≠ "image/webp")
    (manifestError .manifestInvalid "preview must be the image/webp entry preview.webp" "/preview")
  refuseWhen (preview.byteLength = 0 ∨ preview.byteLength > limits.previewBytes.val)
    (manifestError .runtimeLimitExceeded
      "preview byte length is outside the LC 0.1 ceiling" "/preview/byte_length")
  let pixels ← orError (Checked.checkedMul preview.width preview.height)
    (manifestError .runtimeLimitExceeded "preview pixel-count arithmetic overflow" "/preview")
  refuseWhen (preview.width = 0 ∨ preview.height = 0 ∨ preview.width > maxPreviewAxis ∨
      preview.height > maxPreviewAxis ∨ pixels > maxPreviewPixels)
    (manifestError .runtimeLimitExceeded
      "preview dimensions exceed the LC 0.1 ceiling" "/preview")
  validateSha256 preview.sha256 "/preview/sha256"

def validateManifestIdentity (decoder : ManifestDecoder) (manifest : ManifestV0_1)
    (limits : ValidationLimits) : Except CartridgeError Unit := do
  validateCartridgeId decoder manifest.cartridgeId "/cartridge_id"
  checkIndexed (fun payload pointer => validateSha256 payload.sha256 (pointer ++ "/sha256"))
    "/payloads" manifest.payloads 0
  checkOptional (fun preview => validatePreview preview limits) manifest.preview
  validateRational manifest.timing.decodedVideo.frameRate "/timing/decoded_video/frame_rate"
  validateRational manifest.timing.decodedVideo.duration "/timing/decoded_video/duration"
  validateIdentifier manifest.codec.family "/codec/family" limits
  validateIdentifier manifest.codec.profile "/codec/profile" limits
  validateIdentifier manifest.timing.contract "/timing/contract" limits
  validateIdentifier manifest.provenance.createdBy.name "/provenance/created_by/name" limits

/-- One descriptor of `validate_tensor_descriptors`. -/
def validateTensorDescriptor (limits : ValidationLimits) (tensor : TensorDescriptor)
    (pointer : String) : Except CartridgeError Unit := do
  ensureMaxCount tensor.shape.length limits.tensorRank.val (pointer ++ "/shape") "tensor rank"
  validateIdentifier tensor.name (pointer ++ "/name") limits
  refuseWhen (¬ tensor.storageDtype.isSupported)
    (manifestError .tensorDtypeForbidden "LC 0.1 storage dtype must be F16 or F32"
      (pointer ++ "/storage_dtype"))
  refuseWhen (¬ tensor.runtimeDtype.isSupported)
    (manifestError .tensorDtypeForbidden "LC 0.1 runtime dtype must be F16 or F32"
      (pointer ++ "/runtime_dtype"))

def validateTensorDescriptors (manifest : ManifestV0_1) (limits : ValidationLimits) :
    Except CartridgeError Unit :=
  checkIndexed (validateTensorDescriptor limits) "/tensors" manifest.tensors 0

/-- One source of `validate_provenance`. -/
def validateProvenanceSource (limits : ValidationLimits) (source : ProvenanceSource)
    (pointer : String) : Except CartridgeError Unit := do
  validateIdentifier source.kind (pointer ++ "/kind") limits
  checkOptional (fun digest => validateSha256 digest (pointer ++ "/sha256")) source.sha256
  checkOptional (fun uri =>
    validateBoundedString uri limits.uriBytes.val (pointer ++ "/uri") "URI") source.uri
  checkOptional (fun license => validateBoundedString license limits.humanStringBytes.val
    (pointer ++ "/license") "license label") source.license
  checkOptional (fun metadata => validateValueMap metadata (pointer ++ "/metadata") limits)
    source.metadata

def validateProvenance (decoder : ManifestDecoder) (manifest : ManifestV0_1)
    (limits : ValidationLimits) : Except CartridgeError Unit := do
  validateBoundedString manifest.provenance.createdBy.version limits.identifierBytes.val
    "/provenance/created_by/version" "version"
  checkOptional (fun createdAt => do
    validateBoundedString createdAt 64 "/provenance/created_at" "timestamp"
    validateCreatedAt decoder createdAt) manifest.provenance.createdAt
  checkIndexed (validateProvenanceSource limits) "/provenance/sources"
    manifest.provenance.sources 0

/-- One parent of `validate_genealogy`. -/
def validateParent (decoder : ManifestDecoder) (limits : ValidationLimits)
    (parent : ParentCartridge) (pointer : String) : Except CartridgeError Unit := do
  validateCartridgeId decoder parent.cartridgeId (pointer ++ "/cartridge_id")
  validateSha256 parent.archiveSha256 (pointer ++ "/archive_sha256")
  validateIdentifier parent.role (pointer ++ "/role") limits

/-- One operation of `validate_genealogy`. -/
def validateOperation (limits : ValidationLimits) (operation : OperationRecord)
    (pointer : String) : Except CartridgeError Unit := do
  ensureMaxCount operation.controls.length limits.controlsPerOperation.val
    (pointer ++ "/controls") "operation controls"
  refuseWhen (operation.seed > maxJcsSafeInteger)
    (manifestError .manifestInvalid "operation seed exceeds the JCS safe integer range"
      (pointer ++ "/seed"))
  validateIdentifier operation.operatorId (pointer ++ "/operator_id") limits
  validateBoundedString operation.operatorVersion limits.identifierBytes.val
    (pointer ++ "/operator_version") "version"
  validateValueMap operation.controls (pointer ++ "/controls") limits

def audioSourceCartridge : AudioDisposition → Option SourceCartridgeRef
  | .copiedFromCarrierExact sourceCartridge => some sourceCartridge
  | .omittedTimingMismatch sourceCartridge _ => some sourceCartridge
  | .sourceAbsent | .preservedSource => none

def validateSourceCartridge (decoder : ManifestDecoder) (source : SourceCartridgeRef)
    (pointer : String) : Except CartridgeError Unit := do
  validateCartridgeId decoder source.cartridgeId (pointer ++ "/cartridge_id")
  validateSha256 source.archiveSha256 (pointer ++ "/archive_sha256")

def validateGenealogy (decoder : ManifestDecoder) (manifest : ManifestV0_1)
    (limits : ValidationLimits) : Except CartridgeError Unit := do
  checkIndexed (validateParent decoder limits) "/parent_cartridges" manifest.parentCartridges 0
  checkIndexed (validateOperation limits) "/operation_history" manifest.operationHistory 0
  checkOptional (fun source => validateSourceCartridge decoder source "/audio/source_cartridge")
    (audioSourceCartridge manifest.audio)

def ManifestV0_1.validateCommon (manifest : ManifestV0_1) (decoder : ManifestDecoder)
    (limits : ValidationLimits) : Except CartridgeError Unit := do
  validateManifestShape manifest limits
  validateManifestIdentity decoder manifest limits
  validateTensorDescriptors manifest limits
  validateProvenance decoder manifest limits
  validateGenealogy decoder manifest limits

def duplicateKeyMarker : String := "__latentdeck_duplicate_key__:"
def jsonDepthMarker : String := "__latentdeck_json_depth__:"

/-- The depth check of `DuplicateRejectingSeed::deserialize`. -/
def checkDepth (maximumDepth depth : Nat) (pointer : String) : Except String Unit :=
  refuseWhen (depth > maximumDepth) (jsonDepthMarker ++ pointer ++ "|")

def checkEnd : Option String → Except String Unit
  | none => .ok ()
  | some message => .error message

mutual

/-- `DuplicateRejectingSeed` with its visitor; an error is a message. -/
def rejectDuplicates (maximumDepth : Nat) : Document → String → Nat → Except String Unit
  | .null, pointer, depth => checkDepth maximumDepth depth pointer
  | .bool _, pointer, depth => checkDepth maximumDepth depth pointer
  | .number _, pointer, depth => checkDepth maximumDepth depth pointer
  | .string _, pointer, depth => checkDepth maximumDepth depth pointer
  | .array items failure, pointer, depth => do
      checkDepth maximumDepth depth pointer
      rejectDuplicateItems maximumDepth items failure pointer 0 depth
  | .object members failure, pointer, depth => do
      checkDepth maximumDepth depth pointer
      rejectDuplicateMembers maximumDepth members failure [] pointer depth
  | .malformed message, pointer, depth => do
      checkDepth maximumDepth depth pointer
      .error message

/-- `visit_seq`. -/
def rejectDuplicateItems (maximumDepth : Nat) :
    List Document → Option String → String → Nat → Nat → Except String Unit
  | [], failure, _, _, _ => checkEnd failure
  | item :: items, failure, pointer, index, depth => do
      rejectDuplicates maximumDepth item (itemPointer pointer index) (depth + 1)
      rejectDuplicateItems maximumDepth items failure pointer (index + 1) depth

/-- `visit_map`. -/
def rejectDuplicateMembers (maximumDepth : Nat) :
    List (String × Document) → Option String → List String → String → Nat → Except String Unit
  | [], failure, _, _, _ => checkEnd failure
  | (key, value) :: members, failure, keys, pointer, depth => do
      refuseWhen (keys.contains key)
        (duplicateKeyMarker ++ memberPointer pointer key ++ "|")
      rejectDuplicates maximumDepth value (memberPointer pointer key) (depth + 1)
      rejectDuplicateMembers maximumDepth members failure (key :: keys) pointer depth

end

def markerPointer (detail marker : String) : Option String := do
  let pointer ← Text.after marker.toList detail.toList
  if pointer.contains '|' then some (String.ofList (pointer.takeWhile (· ≠ '|'))) else none

def manifestJsonError (message : String) (pointer : Option String) : CartridgeError :=
  let code := if Text.occursIn "unknown field" message then ErrorCode.manifestUnknownField
    else .manifestJsonInvalid
  { (CartridgeError.new code message).atEntry manifestName with jsonPointer := pointer }

def duplicatePreflightError (message : String) : CartridgeError :=
  match markerPointer message duplicateKeyMarker, markerPointer message jsonDepthMarker with
  | some pointer, _ =>
      ((CartridgeError.new .manifestDuplicateKey "duplicate JSON key").atEntry
        manifestName).atJson pointer
  | none, some pointer =>
      ((CartridgeError.new .runtimeLimitExceeded
        "JSON nesting exceeds the LC 0.1 ceiling").atEntry manifestName).atJson pointer
  | none, none => manifestJsonError message none

/-- `Deserializer::end`. -/
def expectEnd (failure : Option String) : Except CartridgeError Unit :=
  match failure with
  | none => .ok ()
  | some message => .error (manifestJsonError message none)

def rejectDuplicateKeys (decoder : ManifestDecoder) (text : List UInt8) (maximumDepth : Nat) :
    Except CartridgeError Unit := do
  (rejectDuplicates maximumDepth (decoder.document text).1 "" 0).mapError duplicatePreflightError
  expectEnd (decoder.document text).2

def parseManifestJson (decoder : ManifestDecoder) (bytes : List UInt8)
    (limits : ValidationLimits) : Except CartridgeError ManifestV0_1 := do
  refuseWhen (bytes.length > limits.manifestBytes.val)
    ((CartridgeError.new .manifestTooLarge ("manifest is " ++ toString bytes.length ++
      " bytes; limit is " ++ toString limits.manifestBytes.val)).atEntry manifestName)
  refuseWhen (fromUtf8 bytes = none)
    ((CartridgeError.new .manifestNotUtf8 "manifest must be UTF-8").atEntry manifestName)
  rejectDuplicateKeys decoder bytes limits.jsonDepth.val
  let manifest ← (decoder.manifest (decoder.document bytes).1).mapError fun error =>
    manifestJsonError error.message (some error.pointer)
  expectEnd (decoder.document bytes).2
  manifest.validateCommon decoder limits
  return manifest

/-- `canonical_json_bytes` of a manifest. -/
def canonicalManifestBytes (decoder : ManifestDecoder) (manifest : ManifestV0_1) :
    Except CartridgeError (List UInt8) :=
  orError (decoder.canonicalManifest manifest)
    (.new .manifestInvalid "manifest cannot be represented as RFC 8785 canonical JSON")

theorem checkIndexed_ok {α : Type} (check : α → String → Except CartridgeError Unit)
    (pointer : String) (records : List α) (index : Nat)
    (accepted : checkIndexed check pointer records index = .ok ()) :
    ∀ record ∈ records, ∃ location, check record location = .ok () := by
  induction records generalizing index with
  | nil => exact nofun
  | cons record records ih =>
    rw [checkIndexed, check_eq_ok] at accepted
    rw [List.forall_mem_cons]
    exact ⟨⟨_, accepted.1⟩, ih _ accepted.2⟩

/-- An admitted identifier: its bytes are not too many and all of the alphabet. -/
def AdmittedIdentifier (identifier : Identifier) (limits : ValidationLimits) : Prop :=
  nameBytes identifier ≠ [] ∧ (nameBytes identifier).length ≤ limits.identifierBytes.val ∧
    (nameBytes identifier).head?.any identifierStart = true ∧
    (nameBytes identifier).all identifierByte = true

theorem validateIdentifier_eq_ok (identifier : Identifier) (pointer : String)
    (limits : ValidationLimits) :
    validateIdentifier identifier pointer limits = .ok () ↔
      AdmittedIdentifier identifier limits := by
  rw [validateIdentifier, refuseWhen_eq_ok, not_not]
  rfl

/-- A tensor descriptor that the codec-neutral checks admit. -/
structure TensorDescriptor.Admitted (tensor : TensorDescriptor) (limits : ValidationLimits) :
    Prop where
  rank : tensor.shape.length ≤ limits.tensorRank.val
  name : AdmittedIdentifier tensor.name limits
  storage : tensor.storageDtype.isSupported = true
  runtime : tensor.runtimeDtype.isSupported = true

theorem validateTensorDescriptor_eq_ok (limits : ValidationLimits) (tensor : TensorDescriptor)
    (pointer : String) :
    validateTensorDescriptor limits tensor pointer = .ok () ↔ tensor.Admitted limits := by
  rw [validateTensorDescriptor, check_eq_ok, check_eq_ok, check_eq_ok, ensureMaxCount,
    validateIdentifier_eq_ok]
  simp only [refuseWhen_eq_ok, not_not, Nat.not_lt]
  exact ⟨fun ⟨rank, name, storage, runtime⟩ => ⟨rank, name, storage, runtime⟩,
    fun admitted => ⟨admitted.rank, admitted.name, admitted.storage, admitted.runtime⟩⟩

/-- What the checks establish of the tensors of a manifest. -/
structure ManifestV0_1.TensorsAdmitted (manifest : ManifestV0_1) (limits : ValidationLimits) :
    Prop where
  payload : ∃ payload, manifest.payloads = [payload]
  few : manifest.tensors.length ≤ limits.tensors.val
  some : manifest.tensors ≠ []
  each : ∀ tensor ∈ manifest.tensors, tensor.Admitted limits

theorem validateCommon_tensors (manifest : ManifestV0_1) (decoder : ManifestDecoder)
    (limits : ValidationLimits) (accepted : manifest.validateCommon decoder limits = .ok ()) :
    manifest.TensorsAdmitted limits := by
  rw [ManifestV0_1.validateCommon, check_eq_ok, check_eq_ok, check_eq_ok,
    validateManifestShape, check_eq_ok, check_eq_ok, check_eq_ok, check_eq_ok] at accepted
  obtain ⟨⟨-, payload, few, some, -⟩, -, tensors, -⟩ := accepted
  rw [refuseWhen_eq_ok, not_not] at payload
  rw [ensureMaxCount, refuseWhen_eq_ok, Nat.not_lt] at few
  rw [refuseWhen_eq_ok] at some
  refine ⟨List.length_eq_one_iff.mp payload, few, some, fun tensor member => ?_⟩
  obtain ⟨location, checked⟩ := checkIndexed_ok _ _ _ _ tensors tensor member
  exact (validateTensorDescriptor_eq_ok ..).mp checked

theorem parseManifestJson_ok (decoder : ManifestDecoder) (bytes : List UInt8)
    (limits : ValidationLimits) (manifest : ManifestV0_1)
    (parsed : parseManifestJson decoder bytes limits = .ok manifest) :
    manifest.validateCommon decoder limits = .ok () := by
  rw [parseManifestJson, check_eq_ok, check_eq_ok, check_eq_ok, bind_eq_ok] at parsed
  obtain ⟨-, -, -, decoded, -, parsed⟩ := parsed
  rw [check_eq_ok, check_eq_ok] at parsed
  obtain ⟨-, validated, same⟩ := parsed
  cases same
  exact validated

end LatentDeck.Archive
