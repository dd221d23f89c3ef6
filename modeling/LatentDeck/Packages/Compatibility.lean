import LatentDeck.Library.SemVer
import LatentDeck.Packages.Schema
import Mathlib.Data.List.Dedup
import Mathlib.Data.List.Sort

/-!
# Compatibility of installed packages

What the manager makes of two accepted manifests when it asks whether a deck can run on a codec
pack: identifiers, versions, ranges and runtime tokens become bounded contract values, and the
resolver compares the two contracts with what the host provides. A value that does not convert makes
the pair `package_invalid`.
-/

namespace LatentDeck.Packages

open Fallible

/-- `semver::Op`. -/
inductive Op where
  | exactly
  | greater
  | greaterEq
  | less
  | lessEq
  | tilde
  | caret
  | wildcard
  deriving DecidableEq

/-- What the crate for semantic versions computes, and what its documentation says of it. -/
structure Semver (crates : Crates) where
  sameVersion : DecidableEq crates.Version
  view : crates.Version → SemVer.Version
  /-- `semver::VersionReq`. -/
  VersionReq : Type
  /-- `VersionReq::parse`. -/
  parseReq : String → Option VersionReq
  comparators : VersionReq → List Op
  /-- `VersionReq::matches`. -/
  matchesReq : VersionReq → crates.Version → Bool
  parse_view : ∀ text, (crates.parseVersion text).map view = SemVer.parse text.toList
  /-- A lower bound that counts and an upper bound that does not are a requirement of two
  comparators, and pre-releases match only where a bound names their release. -/
  parse_range : ∀ minimum maximum low high, SemVer.parse minimum.toList = some low →
    SemVer.parse maximum.toList = some high →
    ∃ requirement, parseReq (">=" ++ minimum ++ ", <" ++ maximum) = some requirement ∧
      comparators requirement = [.greaterEq, .less] ∧
      ∀ version, matchesReq requirement version = SemVer.admits low high (view version)

def maxContractIdBytes : Nat := 128
def maxHostApiRequirementBytes : Nat := 256

inductive ContractValidationError where
  | emptyContractId
  | contractIdTooLong
  | invalidContractIdCharacters
  | anyConstraintForbidden
  | invalidHostApiRequirement
  | invalidHostRuntime

def validateContractId (value : String) : Except ContractValidationError Unit := do
  refuseWhen (value = "") .emptyContractId
  refuseWhen (maxContractIdBytes < value.utf8ByteSize) .contractIdTooLong
  refuseWhen (value = "*" ∨ isIgnoringCase value "any") .anyConstraintForbidden
  refuseWhen (¬ value.toList.all fun char =>
    isAlphanumeric char || char == '.' || char == '_' || char == ':' || char == '-')
    .invalidContractIdCharacters

structure ContractId where
  text : String
  valid : validateContractId text = .ok ()
  deriving DecidableEq

def ContractId.new (value : String) : Except ContractValidationError ContractId :=
  match checked : validateContractId value with
  | .ok () => .ok ⟨value, checked⟩
  | .error error => .error error

structure HostApiRequirement (VersionReq : Type) where
  source : String
  requirement : VersionReq

structure PackageIdentity (Version : Type) where
  packageId : ContractId
  version : Version

inductive TrustState where
  | trusted
  | untrusted
  deriving DecidableEq

inductive AssetState where
  | present
  | missing
  deriving DecidableEq

inductive PackageState where
  | valid
  | invalid
  deriving DecidableEq

structure PackageReadiness where
  trust : TrustState
  assets : AssetState
  package : PackageState

def PackageReadiness.ready : PackageReadiness := ⟨.trusted, .present, .valid⟩

structure ProfileContract (Version : Type) where
  codecFamily : ContractId
  profile : ContractId
  profileVersion : Version
  deriving DecidableEq

structure PackageRuntimeContract (Version : Type) where
  tensorAbi : ContractId
  pythonImplementation : ContractId
  pythonVersion : Version
  pythonPlatform : ContractId
  torchExactBuild : String
  deriving DecidableEq

structure TensorGeometryContract where
  dtype : ContractId
  device : ContractId
  batch : Nat
  channels : Nat
  temporal : Nat
  height : Nat
  width : Nat
  deriving DecidableEq

def TensorGeometryContract.isValid (geometry : TensorGeometryContract) : Bool :=
  geometry.batch != 0 && geometry.channels != 0 && geometry.temporal != 0 &&
    geometry.height != 0 && geometry.width != 0

/-- `DeckTimingContract`, with its `FrameTimingContract`. -/
structure DeckTimingContract where
  frameRateNumerator : Nat
  frameRateDenominator : Nat
  samplesPerSlot : Nat

def DeckTimingContract.isValid (timing : DeckTimingContract) : Bool :=
  (timing.frameRateNumerator != 0 && timing.frameRateDenominator != 0) &&
    timing.samplesPerSlot != 0

structure DeckPackageRequirements (Version VersionReq : Type) where
  slots : Nat
  protocolVersion : Nat
  appHostApi : HostApiRequirement VersionReq
  deckHostApi : Nat
  deckOperatorApi : Nat
  runtime : PackageRuntimeContract Version
  profileAllowlist : Option (List (ProfileContract Version))
  geometries : List TensorGeometryContract
  timing : DeckTimingContract
  capabilities : List ContractId

structure CodecPackageProvides (Version VersionReq : Type) where
  protocolVersion : Nat
  appHostApi : HostApiRequirement VersionReq
  codecAdapterApi : Nat
  runtime : PackageRuntimeContract Version
  lcSpecVersions : List Version
  profiles : List (ProfileContract Version)
  capabilities : List ContractId

structure DeckPackageVersion (Version VersionReq : Type) where
  identity : PackageIdentity Version
  readiness : PackageReadiness
  requires : Option (DeckPackageRequirements Version VersionReq)

structure CodecPackageVersion (Version VersionReq : Type) where
  identity : PackageIdentity Version
  readiness : PackageReadiness
  provides : Option (CodecPackageProvides Version VersionReq)

/-- `PackageHostRuntime`: every set is the list of its members. -/
structure PackageHostRuntime (Version : Type) where
  appVersion : Version
  protocolVersions : List Nat
  deckHostApis : List Nat
  deckOperatorApis : List Nat
  codecAdapterApis : List Nat
  tensorAbis : List ContractId
  pythonImplementations : List ContractId
  pythonVersions : List Version
  pythonPlatforms : List ContractId
  lcSpecVersions : List Version
  tensorDtypes : List ContractId
  tensorDevices : List ContractId
  samplesPerSlot : List Nat
  capabilities : List ContractId

def PackageHostRuntime.validate {Version : Type} (host : PackageHostRuntime Version) :
    Except ContractValidationError Unit :=
  refuseWhen (host.protocolVersions = [] ∨ host.deckHostApis = [] ∨ host.deckOperatorApis = [] ∨
    host.codecAdapterApis = [] ∨ host.tensorAbis = [] ∨ host.pythonImplementations = [] ∨
    host.pythonVersions.isEmpty = true ∨ host.pythonPlatforms = [] ∨
    host.lcSpecVersions.isEmpty = true ∨
    host.tensorDtypes = [] ∨ host.tensorDevices = [] ∨ host.samplesPerSlot = [] ∨
    0 ∈ host.protocolVersions ∨ 0 ∈ host.deckHostApis ∨ 0 ∈ host.deckOperatorApis ∨
    0 ∈ host.codecAdapterApis ∨ 0 ∈ host.samplesPerSlot) .invalidHostRuntime

inductive CompatibilityReason where
  | compatible
  | untrusted
  | missingAsset
  | packageInvalid
  | unsupportedProtocol
  | unsupportedHostApi
  | unsupportedTensorAbi
  | unsupportedProfile
  | unsupportedSignal
  | unsupportedTiming
  | unsupportedCapability
  deriving DecidableEq

structure PackageCompatibilityDecision (Version : Type) where
  deck : PackageIdentity Version
  codec : PackageIdentity Version
  reason : CompatibilityReason
  /-- `compatible_profiles`, in the order of the set. -/
  compatibleProfiles : List (ProfileContract Version)

structure PackageCompatibility where
  reason : CompatibilityReason
  compatibleProfiles : List ProfileKey

def PackageCompatibility.invalid : PackageCompatibility := ⟨.packageInvalid, []⟩

def capabilityName : CodecCapability → String
  | .player => "player"
  | .realtime => "realtime"
  | .resample => "resample"
  | .snapshotCapture => "snapshot_capture"
  | .liveCapture => "live_capture"
  | .rawImport => "raw_import"

/-- `ContractId::new(value).ok()`. -/
def contractId (value : String) : Option ContractId := (ContractId.new value).toOption

def contractSet (values : List String) : Option (List ContractId) := values.mapM contractId

def capabilityContracts (capabilities : List CodecCapability) : Option (List ContractId) :=
  capabilities.mapM fun capability => contractId (capabilityName capability)

def dtypeContract : TensorDtype → Option ContractId
  | .fp16 => contractId "float16"
  | .fp32 => contractId "float32"

def deviceContract : TensorDevice → Option ContractId
  | .cpu => contractId "cpu"
  | .cuda => contractId "cuda"

def geometryContract (geometry : SignalGeometry) : Option TensorGeometryContract := do
  let dtype ← dtypeContract geometry.dtype
  let device ← deviceContract geometry.device
  some {
    dtype := dtype
    device := device
    batch := geometry.batch
    channels := geometry.channels
    temporal := geometry.temporal
    height := geometry.height
    width := geometry.width }

namespace Semver

variable {crates : Crates} (semver : Semver crates)

/-- Whether text is empty, too long or has blanks around it. -/
def malformedRequirement (source : String) : Bool :=
  source == "" || decide (maxHostApiRequirementBytes < source.utf8ByteSize) ||
    Text.trim source.toList != source.toList

/-- `HostApiRequirement::parse`. -/
def parseRequirement (source : String) :
    Except ContractValidationError (HostApiRequirement semver.VersionReq) := do
  refuseWhen (malformedRequirement source = true) .invalidHostApiRequirement
  refuseWhen (isIgnoringCase source "any" = true) .anyConstraintForbidden
  let requirement ← orError (semver.parseReq source) .invalidHostApiRequirement
  refuseWhen (semver.comparators requirement = [] ∨
    Op.wildcard ∈ semver.comparators requirement) .anyConstraintForbidden
  .ok ⟨source, requirement⟩

/-- `PackageRuntimeContract::is_valid`. -/
def validRuntime (runtime : PackageRuntimeContract crates.Version) : Bool :=
  runtime.torchExactBuild != "" && decide (runtime.torchExactBuild.utf8ByteSize ≤ 120) &&
    Text.trim runtime.torchExactBuild.toList == runtime.torchExactBuild.toList &&
    (crates.parseVersion runtime.torchExactBuild).isSome

/-- `DeckPackageRequirements::is_valid`. -/
def validRequirements (deck : DeckPackageRequirements crates.Version semver.VersionReq) : Bool :=
  (decide (1 ≤ deck.slots) && decide (deck.slots ≤ 16)) && deck.protocolVersion != 0 &&
    deck.deckHostApi != 0 && deck.deckOperatorApi != 0 && validRuntime deck.runtime &&
    !deck.geometries.isEmpty && deck.geometries.all TensorGeometryContract.isValid &&
    deck.timing.isValid && deck.profileAllowlist.all fun profiles => !profiles.isEmpty

/-- `CodecPackageProvides::is_valid`. -/
def validProvides (codec : CodecPackageProvides crates.Version semver.VersionReq) : Bool :=
  codec.protocolVersion != 0 && codec.codecAdapterApi != 0 && validRuntime codec.runtime &&
    !codec.lcSpecVersions.isEmpty && !codec.profiles.isEmpty

def supportsRuntime (host : PackageHostRuntime crates.Version)
    (runtime : PackageRuntimeContract crates.Version) : Bool :=
  have := semver.sameVersion
  host.tensorAbis.contains runtime.tensorAbi &&
    host.pythonImplementations.contains runtime.pythonImplementation &&
    host.pythonVersions.contains runtime.pythonVersion &&
    host.pythonPlatforms.contains runtime.pythonPlatform

def supportsGeometryRuntime (host : PackageHostRuntime crates.Version)
    (geometry : TensorGeometryContract) : Bool :=
  host.tensorDtypes.contains geometry.dtype && host.tensorDevices.contains geometry.device

/-- The order of `ProfileContract`: whether the first does not come after the second. -/
def profileOrder (first second : ProfileContract crates.Version) : Bool :=
  if first.codecFamily.text ≠ second.codecFamily.text then
    decide (first.codecFamily.text < second.codecFamily.text)
  else if first.profile.text ≠ second.profile.text then
    decide (first.profile.text < second.profile.text)
  else !crates.before second.profileVersion first.profileVersion

/-- The members of a set of profiles, in its order. -/
def orderedProfiles (profiles : List (ProfileContract crates.Version)) :
    List (ProfileContract crates.Version) :=
  have := semver.sameVersion
  profiles.dedup.insertionSort fun first second => profileOrder first second = true

def resolvePackagePair (host : PackageHostRuntime crates.Version)
    (deck : DeckPackageVersion crates.Version semver.VersionReq)
    (codec : CodecPackageVersion crates.Version semver.VersionReq) :
    Except ContractValidationError (PackageCompatibilityDecision crates.Version) := do
  have := semver.sameVersion
  host.validate
  let decision := fun reason profiles =>
    (⟨deck.identity, codec.identity, reason, profiles⟩ :
      PackageCompatibilityDecision crates.Version)
  if deck.readiness.trust = .untrusted ∨ codec.readiness.trust = .untrusted then
    .ok (decision .untrusted [])
  else
    match deck.requires, codec.provides with
    | some requires, some provides =>
        if deck.readiness.package = .invalid ∨ codec.readiness.package = .invalid ∨
            semver.validRequirements requires = false ∨
            semver.validProvides provides = false then
          .ok (decision .packageInvalid [])
        else if requires.protocolVersion ≠ provides.protocolVersion ∨
            requires.protocolVersion ∉ host.protocolVersions then
          .ok (decision .unsupportedProtocol [])
        else if semver.matchesReq requires.appHostApi.requirement host.appVersion = false ∨
            semver.matchesReq provides.appHostApi.requirement host.appVersion = false ∨
            requires.deckHostApi ∉ host.deckHostApis ∨
            requires.deckOperatorApi ∉ host.deckOperatorApis ∨
            provides.codecAdapterApi ∉ host.codecAdapterApis then
          .ok (decision .unsupportedHostApi [])
        else if requires.runtime ≠ provides.runtime ∨
            semver.supportsRuntime host requires.runtime = false ∨
            requires.geometries.any (supportsGeometryRuntime host) = false then
          .ok (decision .unsupportedTensorAbi [])
        else
          let compatible := semver.orderedProfiles <| provides.profiles.filter fun profile =>
            requires.profileAllowlist.all fun allowlist => decide (profile ∈ allowlist)
          if compatible.isEmpty = true ∨
              provides.lcSpecVersions.any (fun version =>
                decide (version ∈ host.lcSpecVersions)) = false then
            .ok (decision .unsupportedProfile [])
          else if (∃ capability ∈ requires.capabilities, capability ∉ host.capabilities) ∨
              (∃ capability ∈ requires.capabilities, capability ∉ provides.capabilities) then
            .ok (decision .unsupportedCapability [])
          else .ok (decision .compatible compatible)
    | _, _ => .ok (decision .packageInvalid [])

def packageIdentity (id version : String) : Option (PackageIdentity crates.Version) := do
  let packageId ← contractId id
  let parsed ← crates.parseVersion version
  some ⟨packageId, parsed⟩

def appRequirement (minimum maximum : String) :
    Option (HostApiRequirement semver.VersionReq) :=
  (semver.parseRequirement (">=" ++ minimum ++ ", <" ++ maximum)).toOption

/-- What `normalized_python_version` makes of a text that is not a version: two parts of digits get
a third one. -/
def padded (value : String) : Option String :=
  match partsOf '.' value with
  | [major, minor] =>
      if major.all isDigit = true ∧ minor.all isDigit = true then
        some (String.ofList (major ++ '.' :: minor ++ ['.', '0']))
      else none
  | _ => none

def normalizedPythonVersion (value : String) : Option crates.Version :=
  (crates.parseVersion value).orElse fun () => (padded value).bind crates.parseVersion

/-- The name of a Python implementation in a contract. -/
def implementationName : PythonImplementation → String
  | .cpython => "cpython"

def runtimeContract (tensorAbi : String) (python : PythonConstraint) (torch : String) :
    Option (PackageRuntimeContract crates.Version) := do
  let tensorAbi ← contractId tensorAbi
  let pythonImplementation ← contractId (implementationName python.implementation)
  let pythonVersion : crates.Version ← normalizedPythonVersion python.version
  let pythonPlatform ← contractId python.platformTag
  some ⟨tensorAbi, pythonImplementation, pythonVersion, pythonPlatform, torch⟩

def profileContract (profile : ProfileKey) : Option (ProfileContract crates.Version) := do
  let codecFamily ← contractId profile.codecFamily
  let name ← contractId profile.profile
  let version ← crates.parseVersion profile.profileVersion
  some ⟨codecFamily, name, version⟩

def profileKey (profile : ProfileContract crates.Version) : ProfileKey :=
  ⟨profile.codecFamily.text, profile.profile.text, crates.renderVersion profile.profileVersion⟩

/-- `profile_allowlist`. -/
def allowedProfiles : Option (List ProfileKey) →
    Option (Option (List (ProfileContract crates.Version)))
  | some profiles => (profiles.mapM profileContract).map some
  | none => some none

def hostRuntime (appVersion : String) : Option (PackageHostRuntime crates.Version) := do
  let app ← crates.parseVersion appVersion
  let tensorAbis ← contractSet ["latentdeck.tensor.v1"]
  let pythonImplementations ← contractSet ["cpython"]
  let python ← crates.parseVersion "3.13.0"
  let pythonPlatforms ← contractSet ["win_amd64"]
  let lcSpec ← crates.parseVersion "0.1.0"
  let tensorDtypes ← contractSet ["float16", "float32"]
  let tensorDevices ← contractSet ["cpu", "cuda"]
  let capabilities ← capabilityContracts
    [.player, .realtime, .resample, .snapshotCapture, .liveCapture, .rawImport]
  some {
    appVersion := app
    protocolVersions := [2]
    deckHostApis := [1]
    deckOperatorApis := [1]
    codecAdapterApis := [1]
    tensorAbis := tensorAbis
    pythonImplementations := pythonImplementations
    pythonVersions := [python]
    pythonPlatforms := pythonPlatforms
    lcSpecVersions := [lcSpec]
    tensorDtypes := tensorDtypes
    tensorDevices := tensorDevices
    samplesPerSlot := [24]
    capabilities := capabilities }

def deckVersion (manifest : DeckPackManifest) (readiness : PackageReadiness) :
    Option (DeckPackageVersion crates.Version semver.VersionReq) := do
  let identity ← packageIdentity manifest.deckId manifest.deckVersion
  let appHostApi ← semver.appRequirement manifest.compatibility.appMinInclusive
    manifest.compatibility.appMaxExclusive
  let runtime ← runtimeContract manifest.compatibility.tensorAbi manifest.compatibility.python
    manifest.compatibility.torchExactBuild
  let allowlist ← allowedProfiles manifest.signal.profileAllowlist
  let geometries ← manifest.signal.geometryAllowlist.mapM geometryContract
  let capabilities ← capabilityContracts manifest.signal.requiredCapabilities
  some {
    identity := identity
    readiness := readiness
    requires := some {
      slots := manifest.signal.slots
      protocolVersion := manifest.compatibility.workerProtocol
      appHostApi := appHostApi
      deckHostApi := manifest.compatibility.deckHostApi
      deckOperatorApi := manifest.compatibility.deckOperatorApi
      runtime := runtime
      profileAllowlist := allowlist
      geometries := geometries
      timing := ⟨manifest.signal.timing.framesPerSecondNumerator,
        manifest.signal.timing.framesPerSecondDenominator, manifest.signal.timing.samplesPerSlot⟩
      capabilities := capabilities } }

def codecVersion (manifest : CodecPackManifest) (readiness : PackageReadiness) :
    Option (CodecPackageVersion crates.Version semver.VersionReq) := do
  let identity ← packageIdentity manifest.packId manifest.packVersion
  let appHostApi ← semver.appRequirement manifest.compatibility.appMinInclusive
    manifest.compatibility.appMaxExclusive
  let runtime ← runtimeContract manifest.compatibility.tensorAbi manifest.compatibility.python
    manifest.compatibility.torchExactBuild
  let lcSpecVersions ← manifest.compatibility.lcSpecVersions.mapM crates.parseVersion
  let profiles ← manifest.compatibility.profiles.mapM profileContract
  let capabilities ← capabilityContracts manifest.capabilities
  some {
    identity := identity
    readiness := readiness
    provides := some {
      protocolVersion := manifest.compatibility.workerProtocol
      appHostApi := appHostApi
      codecAdapterApi := manifest.compatibility.codecAdapterApi
      runtime := runtime
      lcSpecVersions := lcSpecVersions
      profiles := profiles
      capabilities := capabilities } }

/-- What `resolve_manifests` makes of the three conversions where nothing is selected. -/
def resolveContracts (host : Option (PackageHostRuntime crates.Version))
    (deck : Option (DeckPackageVersion crates.Version semver.VersionReq))
    (codec : Option (CodecPackageVersion crates.Version semver.VersionReq)) :
    PackageCompatibility :=
  match host, deck, codec with
  | some host, some deck, some codec =>
      match semver.resolvePackagePair host deck codec with
      | .ok decision => ⟨decision.reason, decision.compatibleProfiles.map profileKey⟩
      | .error _ => .invalid
  | _, _, _ => .invalid

def resolvePackageCompatibility (deck : DeckPackManifest) (codec : CodecPackManifest)
    (appVersion : String) : PackageCompatibility :=
  semver.resolveContracts (hostRuntime appVersion) (semver.deckVersion deck .ready)
    (semver.codecVersion codec .ready)

end Semver

end LatentDeck.Packages
