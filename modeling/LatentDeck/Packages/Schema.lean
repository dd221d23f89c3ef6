import LatentDeck.Library.Fallible
import LatentDeck.Packages.Package

/-!
# Closed schemas of extension packages

The checks that manifests, integrity catalogs, receipts and package references pass before anything
else looks at them. Decoding JSON, hashing and the semantic version grammar belong to crates outside
the repository and are parameters.
-/

namespace LatentDeck.Packages

open Fallible

def deckManifestVersion : String := "1.0.0"
def codecManifestVersion : String := "2.0.0"
def integrityManifestVersion : String := "1.0.0"
def trustReceiptVersion : String := "1.0.0"
def maxJsonBytes : Nat := 1024 * 1024
def maxDeckFiles : Nat := 256
def maxDeckArchiveBytes : Nat := 8 * 1024 * 1024
def maxDeckExtractedBytes : Nat := 16 * 1024 * 1024
def maxDeckFileBytes : Nat := 1024 * 1024
def maxCodecFiles : Nat := 32768
def maxCodecArchiveBytes : Nat := 32 * 1024 * 1024 * 1024
def maxCodecExtractedBytes : Nat := 64 * 1024 * 1024 * 1024
def bundledIndexVersion : String := "1.0.0"
def maxExternalAssets : Nat := 16
def maxDeckGeometries : Nat := 64
def maxPackageVersionBytes : Nat := 115
/-- `u64::MAX`. -/
def u64Max : Nat := 2 ^ 64 - 1

def maxFiles : PackageKind → Nat
  | .deckPack => maxDeckFiles
  | .codecPack => maxCodecFiles

def maxArchiveBytes : PackageKind → Nat
  | .deckPack => maxDeckArchiveBytes
  | .codecPack => maxCodecArchiveBytes

def maxExtractedBytes : PackageKind → Nat
  | .deckPack => maxDeckExtractedBytes
  | .codecPack => maxCodecExtractedBytes

/-- Whether a character is an ASCII lowercase letter. -/
def isLower (char : Char) : Bool := 'a' ≤ char && char ≤ 'z'
/-- Whether a character is an ASCII uppercase letter. -/
def isUpper (char : Char) : Bool := 'A' ≤ char && char ≤ 'Z'
def isDigit (char : Char) : Bool := '0' ≤ char && char ≤ '9'
/-- Whether a character is an ASCII letter or digit. -/
def isAlphanumeric (char : Char) : Bool := isLower char || isUpper char || isDigit char
/-- Whether a character is a lowercase hexadecimal digit. -/
def isLowerHex (char : Char) : Bool := isDigit char || ('a' ≤ char && char ≤ 'f')

/-- `to_ascii_lowercase` of a character. -/
def asciiLower (char : Char) : Char :=
  if isUpper char then Char.ofNat (char.toNat + 32) else char

/-- `to_ascii_uppercase` of a character. -/
def asciiUpper (char : Char) : Char :=
  if isLower char then Char.ofNat (char.toNat - 32) else char

def toAsciiLowercase (text : String) : String := String.ofList (text.toList.map asciiLower)

/-- `eq_ignore_ascii_case` with a lowercase text. -/
def isIgnoringCase (text lowercase : String) : Bool := toAsciiLowercase text == lowercase

/-- The parts of a text between separators, as `split` gives them. -/
def partsOf (separator : Char) (text : String) : List (List Char) := text.toList.splitOn separator

def textBytes (chars : List Char) : Nat := (String.ofList chars).utf8ByteSize

/-- A condition that a manifest must not meet. -/
def invalidWhen (condition : Prop) [Decidable condition] : Except ErrorCode Unit :=
  refuseWhen condition .manifestInvalid

/-- `validate_sha256`. -/
def isSha256 (value : String) : Bool :=
  value.utf8ByteSize == 64 && value.toList.all isLowerHex

def validateSha256 (value : String) : Except ErrorCode Unit := invalidWhen (¬ isSha256 value)

def zeroSha256 : String := "0000000000000000000000000000000000000000000000000000000000000000"

theorem isSha256_zeros : isSha256 zeroSha256 = true := by decide +kernel

/-- What the crates that the extension manager builds on compute. -/
structure Crates where
  /-- `semver::Version`. -/
  Version : Type
  /-- `Version::parse`. -/
  parseVersion : String → Option Version
  /-- `Version::to_string`. -/
  renderVersion : Version → String
  before : Version → Version → Bool
  /-- `hex::encode(Sha256::digest(bytes))`. -/
  sha256 : Bytes → String
  /-- A digest is 64 lowercase hexadecimal digits. -/
  sha256_canonical : ∀ bytes, isSha256 (sha256 bytes) = true
  /-- Strict JSON that matches the closed schema of `deck-pack.json`. -/
  decodeDeckManifest : Bytes → Option DeckPackManifest
  /-- Strict JSON that matches the closed schema of `codec-pack.json`. -/
  decodeCodecManifest : Bytes → Option CodecPackManifest
  /-- Strict JSON that matches the closed schema of `integrity.json`. -/
  decodeIntegrityCatalog : Bytes → Option IntegrityCatalog
  isStrictJson : Bytes → Bool
  /-- `OffsetDateTime::parse(text, &Rfc3339)` succeeds. -/
  isRfc3339 : String → Bool

/-- `parse_strict_json`, given what the decoder of a schema makes of the bytes. -/
def parseStrictJson {α : Type} (decode : Bytes → Option α) (bytes : Bytes) :
    Except ErrorCode α := do
  invalidWhen (bytes = [] ∨ maxJsonBytes < bytes.length)
  orError (decode bytes) .manifestInvalid

def validateBoundedText (value : String) (minimum maximum : Nat) : Except ErrorCode Unit :=
  invalidWhen (value.utf8ByteSize < minimum ∨ maximum < value.utf8ByteSize ∨
    value.toList.any fun char => char == '\x00' || char == '\r' || char == '\n')

def validateOptionalHttpsUrl (value : Option String) : Except ErrorCode Unit :=
  match value with
  | none => .ok ()
  | some url => do
      validateBoundedText url 1 500
      invalidWhen (¬ "https://".toList <+: url.toList)

/-- Whether a segment of a reverse-DNS identifier is refused. -/
def badSegment (segment : List Char) : Bool :=
  segment.isEmpty || 63 < textBytes segment || segment.head? == some '-' ||
    segment.getLast? == some '-' ||
    !segment.all fun char => isLower char || isDigit char || char == '-'

def validateReverseDnsId (value : String) : Except ErrorCode Unit := do
  invalidWhen (160 < value.utf8ByteSize ∨ '.' ∉ value.toList)
  invalidWhen ((partsOf '.' value).any badSegment)

def validateLocalId (value : String) : Except ErrorCode Unit :=
  invalidWhen (value = "" ∨ 80 < value.utf8ByteSize ∨
    ¬ value.toList.all fun char => isLower char || isDigit char || char == '_' || char == '-')

def validateContractName (value : String) : Except ErrorCode Unit :=
  invalidWhen (value = "" ∨ 128 < value.utf8ByteSize ∨ value = "*" ∨ isIgnoringCase value "any" ∨
    ¬ value.toList.all fun char =>
      isAlphanumeric char || char == '.' || char == '_' || char == ':' || char == '-')

def validatePythonVersion (value : String) : Except ErrorCode Unit := do
  validateBoundedText value 3 32
  let parts := partsOf '.' value
  invalidWhen (¬ (2 ≤ parts.length ∧ parts.length ≤ 3) ∨
    parts.any fun part => part.isEmpty || !part.all isDigit)

/-- `str::split_once(':')`. -/
def splitEntrypoint (value : String) : Option (List Char × List Char) :=
  if ':' ∈ value.toList then
    some (value.toList.takeWhile (· ≠ ':'), (value.toList.dropWhile (· ≠ ':')).tail)
  else none

def validateEntrypoint (value : String) : Except ErrorCode Unit := do
  invalidWhen (200 < value.utf8ByteSize)
  let (module, callable) ← orError (splitEntrypoint value) .manifestInvalid
  invalidWhen (module = [] ∨ callable = [] ∨ module.head? = some '.' ∨
    module.getLast? = some '.' ∨
    ¬ module.all (fun char => isAlphanumeric char || char == '_' || char == '.') ∨
    ¬ callable.all fun char => isAlphanumeric char || char == '_')

/-- The device names that `validate_windows_component` reserves. -/
def reservedDevices : List String :=
  ["CON", "PRN", "AUX", "NUL", "CLOCK$", "CONIN$", "CONOUT$"]

/-- Whether the stem of a component, in uppercase, is a reserved device name. -/
def isReservedDevice (upper : List Char) : Bool :=
  reservedDevices.contains (String.ofList upper) ||
    (upper.length == 4 && (upper.take 3 == "COM".toList || upper.take 3 == "LPT".toList) &&
      (upper.drop 3).all fun char => isDigit char && char != '0')

/-- The stem of a component: what is before its first dot, without trailing dots and blanks. -/
def stemOf (component : List Char) : List Char :=
  ((component.takeWhile (· ≠ '.')).reverse.dropWhile fun char => char == '.' || char == ' ').reverse

def validateWindowsComponent (component : List Char) : Except ErrorCode Unit := do
  invalidWhen (component = [] ∨ 120 < textBytes component ∨ component = ['.'] ∨
    component = ['.', '.'] ∨ component.getLast? = some '.' ∨ component.getLast? = some ' ' ∨
    component.any fun char => char.toNat < 0x20 || 0x7f ≤ char.toNat ||
      "<>:\"|?*".toList.contains char)
  invalidWhen (isReservedDevice ((stemOf component).map asciiUpper))

def validatePortableRelativePath (value : String) (allowDirectory : Bool) :
    Except ErrorCode Unit := do
  invalidWhen (value = "" ∨ 240 < value.utf8ByteSize ∨ value.toList.head? = some '/' ∨
    value.toList.getLast? = some '/' ∨ value.toList.any fun char => char == '\\' || char == '\x00')
  checkEach validateWindowsComponent (partsOf '/' value)
  invalidWhen (allowDirectory = false ∧ "/.".toList <:+ value.toList)

def fileName (path : String) : List Char := (partsOf '/' path).getLast?.getD []

/-- `Path::extension`, in lowercase: what follows the last dot of the file name, unless that is its
first character. -/
def extensionOf (path : String) : List Char :=
  let name := fileName path
  let stem := (name.reverse.dropWhile (· ≠ '.')).tail
  if '.' ∈ name ∧ stem ≠ [] then (name.reverse.takeWhile (· ≠ '.')).reverse.map asciiLower else []

def validateDeckFileExtension (path : String) : Except ErrorCode Unit := do
  let extension := String.ofList (extensionOf path)
  invalidWhen (extension = "typed" ∧ String.ofList (fileName path) ≠ "py.typed")
  invalidWhen (extension ∉ ["py", "typed", "json", "txt", "md", "png"])

def validateCapabilitySet (capabilities : List CodecCapability) (requireV2 : Bool) :
    Except ErrorCode Unit := do
  invalidWhen (6 < capabilities.length)
  invalidWhen (¬ capabilities.Nodup)
  invalidWhen (requireV2 = true ∧
    ∃ required ∈ [CodecCapability.player, .realtime, .resample, .snapshotCapture, .liveCapture],
      required ∉ capabilities)

def validateGeometry (geometry : SignalGeometry) : Except ErrorCode Unit :=
  invalidWhen (geometry.batch ≠ 1 ∨ geometry.temporal ≠ 1 ∨ geometry.channels = 0 ∨
    16384 < geometry.channels ∨ geometry.height = 0 ∨ geometry.width = 0 ∨
    65535 < geometry.height ∨ 65535 < geometry.width)

def validateTiming (timing : TimingDescriptor) : Except ErrorCode Unit :=
  invalidWhen (timing.framesPerSecondNumerator = 0 ∨ timing.framesPerSecondDenominator = 0 ∨
    1000000 < timing.framesPerSecondNumerator ∨ 1000000 < timing.framesPerSecondDenominator ∨
    timing.samplesPerSlot = 0 ∨ 1000000 < timing.samplesPerSlot)

def validateIntegrityDescriptor (descriptor : IntegrityDescriptor) : Except ErrorCode Unit := do
  invalidWhen (descriptor.catalogPath ≠ integrityName)
  validateSha256 descriptor.catalogSha256

def isReservedPackageId (packageId : String) : Bool :=
  packageId == "org.latentdeck" || "org.latentdeck.".toList.isPrefixOf packageId.toList

def validateCodecWorker (worker : CodecWorkerDescriptor) : Except ErrorCode Unit := do
  validatePortableRelativePath worker.executable false
  validatePortableRelativePath worker.workingDirectory true
  invalidWhen (64 < worker.arguments.length)
  checkEach (fun argument => do
    validateBoundedText argument 0 1024
    invalidWhen (argument.toList.any fun char => char == '\x00' || char == '\r' || char == '\n'))
    worker.arguments
  invalidWhen (¬ (100 ≤ worker.startTimeoutMs ∧ worker.startTimeoutMs ≤ 600000) ∨
    ¬ (100 ≤ worker.heartbeatTimeoutMs ∧ worker.heartbeatTimeoutMs ≤ 600000))

def validateExternalAssets (assets : List ExternalAssetDescriptor) : Except ErrorCode Unit := do
  invalidWhen (maxExternalAssets < assets.length)
  checkEach (fun asset => validateLocalId asset.assetId) assets
  invalidWhen (¬ (assets.map ExternalAssetDescriptor.assetId).Nodup)
  checkEach (fun asset => do
    validateBoundedText asset.displayName 1 120
    invalidWhen (asset.byteLength = 0)
    validateSha256 asset.sha256
    validateOptionalHttpsUrl asset.sourceUrl
    validateBoundedText asset.licenseLabel 1 120
    validateOptionalHttpsUrl asset.licenseUrl) assets

def validateCommonManifestText (displayName summary : String) (publisher : PublisherDescriptor)
    (license : LicenseDescriptor) : Except ErrorCode Unit := do
  validateBoundedText displayName 1 120
  validateBoundedText summary 1 500
  validateBoundedText publisher.name 1 120
  validateOptionalHttpsUrl publisher.url
  validateBoundedText license.spdxOrLabel 1 120
  validatePortableRelativePath license.noticePath false

/-- The loop of `parse_integrity_catalog` over the described files. -/
def checkCatalogFiles (kind : PackageKind) :
    Option String → Nat → List IntegrityFile → Except ErrorCode Nat
  | _, total, [] => .ok total
  | previous, total, file :: files => do
      validatePortableRelativePath file.path false
      invalidWhen (file.path = kind.manifestName ∨ file.path = integrityName)
      invalidWhen (∃ earlier ∈ previous, ¬ earlier < file.path)
      validateSha256 file.sha256
      invalidWhen (kind = .deckPack ∧ maxDeckFileBytes < file.byteLength)
      invalidWhen (u64Max < total + file.byteLength)
      checkCatalogFiles kind (some file.path) (total + file.byteLength) files

namespace Crates

variable (crates : Crates)

def validateSemver (value : String) : Except ErrorCode Unit := do
  let version ← orError (crates.parseVersion value) .manifestInvalid
  invalidWhen (crates.renderVersion version ≠ value)

def validatePackageVersion (value : String) : Except ErrorCode Unit := do
  crates.validateSemver value
  invalidWhen (maxPackageVersionBytes < value.utf8ByteSize)
  invalidWhen (value.toList.any isUpper)

def validateVersionRange (minimum maximum : String) : Except ErrorCode Unit := do
  crates.validateSemver minimum
  crates.validateSemver maximum
  let low ← orError (crates.parseVersion minimum) .manifestInvalid
  let high ← orError (crates.parseVersion maximum) .manifestInvalid
  invalidWhen (crates.before low high = false)

def validatePackageReference (package : PackageReference) : Except ErrorCode Unit := do
  validateReverseDnsId package.packageId
  crates.validatePackageVersion package.packageVersion

def validateProfileKey (profile : ProfileKey) : Except ErrorCode Unit := do
  validateLocalId profile.codecFamily
  validateLocalId profile.profile
  invalidWhen (isIgnoringCase profile.codecFamily "any" ∨ isIgnoringCase profile.profile "any")
  crates.validateSemver profile.profileVersion

def validateRuntimeConstraints (tensorAbi : String) (python : PythonConstraint)
    (torchExactBuild : String) : Except ErrorCode Unit := do
  validateContractName tensorAbi
  validatePythonVersion python.version
  validateLocalId python.platformTag
  invalidWhen (isIgnoringCase python.platformTag "any")
  crates.validateSemver torchExactBuild

def validateDeckSignal (signal : DeckSignalDescriptor) : Except ErrorCode Unit := do
  invalidWhen (¬ (1 ≤ signal.slots ∧ signal.slots ≤ 16) ∨ signal.roles.length ≠ signal.slots ∨
    signal.defaultPermutation.length ≠ signal.slots)
  checkEach (fun role => do
    validateLocalId role.roleId
    validateBoundedText role.displayName 1 80) signal.roles
  let roles := signal.roles.map DeckRoleDescriptor.roleId
  invalidWhen (¬ roles.Nodup)
  invalidWhen (¬ signal.defaultPermutation.Nodup ∨ ∃ role ∈ roles, role ∉ signal.defaultPermutation)
  invalidWhen (∃ role ∈ signal.defaultPermutation, role ∉ roles)
  invalidWhen (signal.structuralCarrierRole ∉ roles)
  invalidWhen (signal.geometryAllowlist = [] ∨ maxDeckGeometries < signal.geometryAllowlist.length)
  checkEach validateGeometry signal.geometryAllowlist
  invalidWhen (¬ signal.geometryAllowlist.Nodup)
  validateTiming signal.timing
  validateCapabilitySet signal.requiredCapabilities false
  invalidWhen (signal.requiredCapabilities = [])
  match signal.profileAllowlist with
  | none => .ok ()
  | some profiles => do
      invalidWhen (profiles = [] ∨ 64 < profiles.length)
      checkEach crates.validateProfileKey profiles
      invalidWhen (¬ profiles.Nodup)

def validateDeckManifest (manifest : DeckPackManifest) : Except ErrorCode Unit := do
  invalidWhen (manifest.manifestVersion ≠ deckManifestVersion ∨ manifest.kind ≠ .deckPack)
  validateReverseDnsId manifest.deckId
  crates.validatePackageVersion manifest.deckVersion
  validateCommonManifestText manifest.displayName manifest.summary manifest.publisher
    manifest.license
  crates.validateVersionRange manifest.compatibility.appMinInclusive
    manifest.compatibility.appMaxExclusive
  invalidWhen (manifest.compatibility.deckHostApi = 0 ∨ manifest.compatibility.workerProtocol = 0 ∨
    manifest.compatibility.deckOperatorApi = 0)
  crates.validateRuntimeConstraints manifest.compatibility.tensorAbi manifest.compatibility.python
    manifest.compatibility.torchExactBuild
  invalidWhen (manifest.runtime.operatorDescriptorPath ≠ "operator.json" ∨
    manifest.faceplatePath ≠ "faceplate.json")
  validatePortableRelativePath manifest.runtime.pythonRoot true
  validateEntrypoint manifest.runtime.entrypoint
  crates.validateDeckSignal manifest.signal
  validateIntegrityDescriptor manifest.integrity

def validateCodecManifest (manifest : CodecPackManifest) : Except ErrorCode Unit := do
  invalidWhen (manifest.manifestVersion ≠ codecManifestVersion ∨ manifest.kind ≠ .codecPack)
  validateReverseDnsId manifest.packId
  crates.validatePackageVersion manifest.packVersion
  validateCommonManifestText manifest.displayName manifest.summary manifest.publisher
    manifest.license
  crates.validateVersionRange manifest.compatibility.appMinInclusive
    manifest.compatibility.appMaxExclusive
  invalidWhen (manifest.compatibility.workerProtocol = 0 ∨
    manifest.compatibility.codecAdapterApi = 0)
  crates.validateRuntimeConstraints manifest.compatibility.tensorAbi manifest.compatibility.python
    manifest.compatibility.torchExactBuild
  let versions := manifest.compatibility.lcSpecVersions
  invalidWhen (versions = [] ∨ 16 < versions.length)
  checkEach crates.validateSemver versions
  invalidWhen (¬ versions.Nodup)
  let profiles := manifest.compatibility.profiles
  invalidWhen (profiles = [] ∨ 64 < profiles.length)
  checkEach crates.validateProfileKey profiles
  invalidWhen (¬ profiles.Nodup)
  validateReverseDnsId manifest.adapter.adapterId
  invalidWhen (isReservedPackageId manifest.adapter.adapterId ∧
    ¬ isReservedPackageId manifest.packId)
  crates.validateSemver manifest.adapter.adapterVersion
  validateEntrypoint manifest.adapter.entrypoint
  validateCodecWorker manifest.worker
  validateCapabilitySet manifest.capabilities true
  validateExternalAssets manifest.externalAssets
  validatePortableRelativePath manifest.runtimeLock.path false
  validateSha256 manifest.runtimeLock.sha256
  validateIntegrityDescriptor manifest.integrity

def parseManifest (kind : PackageKind) (bytes : Bytes) : Except ErrorCode PackageManifest :=
  match kind with
  | .deckPack => do
      let manifest ← parseStrictJson crates.decodeDeckManifest bytes
      crates.validateDeckManifest manifest
      .ok (.deck manifest)
  | .codecPack => do
      let manifest ← parseStrictJson crates.decodeCodecManifest bytes
      crates.validateCodecManifest manifest
      .ok (.codec manifest)

def parseIntegrityCatalog (bytes : Bytes) (kind : PackageKind) :
    Except ErrorCode IntegrityCatalog := do
  let catalog ← parseStrictJson crates.decodeIntegrityCatalog bytes
  invalidWhen (catalog.manifestVersion ≠ integrityManifestVersion)
  invalidWhen (catalog.files = [] ∨ maxFiles kind < catalog.files.length + 2)
  let total ← checkCatalogFiles kind none 0 catalog.files
  invalidWhen (maxExtractedBytes kind - 2 * maxJsonBytes < total)
  .ok catalog

def validateBundledIndex (index : BundledPackageIndex) : Except ErrorCode Unit := do
  invalidWhen (index.indexVersion ≠ bundledIndexVersion)
  invalidWhen (index.packages = [] ∨ 256 < index.packages.length)
  checkEach (fun entry => do
    crates.validatePackageReference entry.package
    invalidWhen (¬ isReservedPackageId entry.package.packageId)
    validateSha256 entry.archiveSha256) index.packages
  invalidWhen (¬ (index.packages.map BundledPackageEntry.package).Nodup)

def validateTrustReceipt (receipt : TrustReceipt) : Except ErrorCode Unit := do
  crates.validatePackageReference receipt.package
  validateSha256 receipt.archiveSha256
  validateSha256 receipt.manifestSha256
  validateSha256 receipt.integrityCatalogSha256
  match receipt.runtimeSealSha256 with
  | none => .ok ()
  | some sealSha256 => validateSha256 sealSha256
  refuseWhen (receipt.archiveByteLength = 0) .packageUntrusted
  refuseWhen (¬ crates.isRfc3339 receipt.installedAtUtc) .packageUntrusted

end Crates

end LatentDeck.Packages
