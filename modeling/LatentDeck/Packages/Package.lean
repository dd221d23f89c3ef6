import LatentDeck.Library.Text

/-!
# Extension packages

The data that the extension manager reads and writes: package identities, the closed manifests of
deck packs and codec packs, the integrity catalog and the trust receipt. Errors carry the stable
code of the source; the texts that explain them are left out.
-/

namespace LatentDeck.Packages

abbrev Bytes : Type := List UInt8

/-- `ErrorCode` of the extension manager. -/
inductive ErrorCode where
  | invalidArguments
  | archiveInvalid
  | manifestInvalid
  | integrityFailed
  | packageExists
  | packageMissing
  | packageActive
  | packageDisabled
  | packageUntrusted
  | lifecycleBusy
  | lifecycleConflict
  | io
  deriving DecidableEq

inductive PackageKind where
  | deckPack
  | codecPack
  deriving DecidableEq

def PackageKind.manifestName : PackageKind → String
  | .deckPack => "deck-pack.json"
  | .codecPack => "codec-pack.json"

/-- The name of the integrity catalog in every package. -/
def integrityName : String := "integrity.json"

/-- `PackageReference`: one exact package version. -/
structure PackageReference where
  kind : PackageKind
  packageId : String
  packageVersion : String
  deriving DecidableEq

inductive PublisherIdentityClaim where
  | selfDeclared
  deriving DecidableEq

structure PublisherDescriptor where
  name : String
  url : Option String
  identityClaim : PublisherIdentityClaim
  deriving DecidableEq

structure LicenseDescriptor where
  spdxOrLabel : String
  noticePath : String
  deriving DecidableEq

structure ProfileKey where
  codecFamily : String
  profile : String
  profileVersion : String
  deriving DecidableEq

inductive PythonImplementation where
  | cpython
  deriving DecidableEq

structure PythonConstraint where
  implementation : PythonImplementation
  version : String
  platformTag : String
  deriving DecidableEq

inductive CodecCapability where
  | player
  | realtime
  | resample
  | snapshotCapture
  | liveCapture
  | rawImport
  deriving DecidableEq

/-- `TensorDtype` of a manifest. -/
inductive TensorDtype where
  | fp16
  | fp32
  deriving DecidableEq

inductive TensorDevice where
  | cpu
  | cuda
  deriving DecidableEq

/-- `SignalGeometry` of a manifest. -/
structure SignalGeometry where
  dtype : TensorDtype
  device : TensorDevice
  batch : Nat
  channels : Nat
  temporal : Nat
  height : Nat
  width : Nat
  deriving DecidableEq

/-- `TimingDescriptor` of a deck pack. -/
structure TimingDescriptor where
  framesPerSecondNumerator : Nat
  framesPerSecondDenominator : Nat
  samplesPerSlot : Nat
  deriving DecidableEq

structure IntegrityDescriptor where
  catalogPath : String
  catalogSha256 : String
  deriving DecidableEq

structure IntegrityFile where
  path : String
  byteLength : Nat
  sha256 : String

structure IntegrityCatalog where
  manifestVersion : String
  files : List IntegrityFile

structure DeckCompatibility where
  appMinInclusive : String
  appMaxExclusive : String
  deckHostApi : Nat
  workerProtocol : Nat
  deckOperatorApi : Nat
  tensorAbi : String
  python : PythonConstraint
  torchExactBuild : String
  deriving DecidableEq

inductive DeckRuntimeKind where
  | pythonOperatorStreamV1
  deriving DecidableEq

structure DeckRuntimeDescriptor where
  kind : DeckRuntimeKind
  operatorDescriptorPath : String
  pythonRoot : String
  entrypoint : String
  deriving DecidableEq

structure DeckRoleDescriptor where
  roleId : String
  displayName : String
  deriving DecidableEq

structure DeckSignalDescriptor where
  slots : Nat
  roles : List DeckRoleDescriptor
  defaultPermutation : List String
  structuralCarrierRole : String
  geometryAllowlist : List SignalGeometry
  timing : TimingDescriptor
  requiredCapabilities : List CodecCapability
  profileAllowlist : Option (List ProfileKey)
  deriving DecidableEq

/-- `DeckPackManifest`: the closed `deck-pack.json`. -/
structure DeckPackManifest where
  manifestVersion : String
  kind : PackageKind
  deckId : String
  deckVersion : String
  displayName : String
  summary : String
  publisher : PublisherDescriptor
  license : LicenseDescriptor
  compatibility : DeckCompatibility
  runtime : DeckRuntimeDescriptor
  signal : DeckSignalDescriptor
  faceplatePath : String
  integrity : IntegrityDescriptor
  deriving DecidableEq

inductive OperatingSystem where
  | windows
  deriving DecidableEq

inductive Architecture where
  | x86_64
  deriving DecidableEq

structure PlatformDescriptor where
  os : OperatingSystem
  arch : Architecture
  deriving DecidableEq

structure CodecCompatibility where
  appMinInclusive : String
  appMaxExclusive : String
  workerProtocol : Nat
  codecAdapterApi : Nat
  tensorAbi : String
  python : PythonConstraint
  torchExactBuild : String
  lcSpecVersions : List String
  profiles : List ProfileKey
  deriving DecidableEq

structure CodecAdapterDescriptor where
  adapterId : String
  adapterVersion : String
  entrypoint : String
  deriving DecidableEq

structure CodecWorkerDescriptor where
  executable : String
  arguments : List String
  workingDirectory : String
  startTimeoutMs : Nat
  heartbeatTimeoutMs : Nat
  deriving DecidableEq

structure ExternalAssetDescriptor where
  assetId : String
  displayName : String
  required : Bool
  byteLength : Nat
  sha256 : String
  sourceUrl : Option String
  licenseLabel : String
  licenseUrl : Option String
  deriving DecidableEq

structure RuntimeLockDescriptor where
  path : String
  sha256 : String
  deriving DecidableEq

/-- `CodecPackManifest`: the closed `codec-pack.json`. -/
structure CodecPackManifest where
  manifestVersion : String
  kind : PackageKind
  packId : String
  packVersion : String
  displayName : String
  summary : String
  publisher : PublisherDescriptor
  license : LicenseDescriptor
  platform : PlatformDescriptor
  compatibility : CodecCompatibility
  adapter : CodecAdapterDescriptor
  worker : CodecWorkerDescriptor
  capabilities : List CodecCapability
  externalAssets : List ExternalAssetDescriptor
  runtimeLock : RuntimeLockDescriptor
  integrity : IntegrityDescriptor
  deriving DecidableEq

inductive PackageManifest where
  | deck (manifest : DeckPackManifest)
  | codec (manifest : CodecPackManifest)
  deriving DecidableEq

namespace PackageManifest

/-- `PackageManifest::kind`. -/
def kind : PackageManifest → PackageKind
  | deck _ => .deckPack
  | codec _ => .codecPack

/-- `PackageManifest::package_id`. -/
def packageId : PackageManifest → String
  | deck manifest => manifest.deckId
  | codec manifest => manifest.packId

/-- `PackageManifest::package_version`. -/
def packageVersion : PackageManifest → String
  | deck manifest => manifest.deckVersion
  | codec manifest => manifest.packVersion

/-- `PackageManifest::display_name`. -/
def displayName : PackageManifest → String
  | deck manifest => manifest.displayName
  | codec manifest => manifest.displayName

/-- `PackageManifest::publisher`. -/
def publisher : PackageManifest → PublisherDescriptor
  | deck manifest => manifest.publisher
  | codec manifest => manifest.publisher

/-- `PackageManifest::license`. -/
def license : PackageManifest → LicenseDescriptor
  | deck manifest => manifest.license
  | codec manifest => manifest.license

/-- `PackageManifest::integrity`. -/
def integrity : PackageManifest → IntegrityDescriptor
  | deck manifest => manifest.integrity
  | codec manifest => manifest.integrity

/-- `PackageManifest::reference`. -/
def reference (manifest : PackageManifest) : PackageReference where
  kind := manifest.kind
  packageId := manifest.packageId
  packageVersion := manifest.packageVersion

end PackageManifest

structure TrustReceipt where
  receiptVersion : String
  package : PackageReference
  archiveSha256 : String
  archiveByteLength : Nat
  manifestSha256 : String
  integrityCatalogSha256 : String
  publisherName : String
  publisherIdentityClaim : PublisherIdentityClaim
  installedAtUtc : String
  enabled : Bool
  runtimeSealSha256 : Option String

structure InspectedPackage where
  package : PackageReference
  displayName : String
  publisherName : String
  publisherIdentityClaim : PublisherIdentityClaim
  archiveSha256 : String
  archiveByteLength : Nat
  manifestSha256 : String
  integrityCatalogSha256 : String
  fileCount : Nat
  extractedByteLength : Nat
  manifest : PackageManifest
  deriving DecidableEq

structure FileMeasurement where
  path : String
  byteLength : Nat
  sha256 : String
  deriving DecidableEq

structure BundledPackageEntry where
  package : PackageReference
  archiveSha256 : String

structure BundledPackageIndex where
  indexVersion : String
  packages : List BundledPackageEntry

end LatentDeck.Packages
