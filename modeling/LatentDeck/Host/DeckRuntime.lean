import LatentDeck.Control.Messages
import LatentDeck.DeckUi.Loading
import LatentDeck.Packages.Lifecycle
import LatentDeck.Packages.Resolution

/-!
# Deck runtimes and their load commands

A leased package becomes a runtime when its operator descriptor passes the checks of the host, and a
runtime turns requests into `deck.load` commands. What the host admits and what the protocol admits
are two validators; they differ in the length of versions and in what they ask of sources.
-/

namespace LatentDeck.Host

open Fallible Packages
open DeckUi (DeckOperatorDescriptor DeckOperatorControlDescriptor SameElements)
open Control (Uuid Command ControlBinding DeckLoad DeckRuntimeBinding LimitedVec RoleBinding
  SourceBinding)

inductive DeckRuntimeError where
  | notDeckPackage
  | trustReceiptInvalid
  | packageTreeInvalid
  | descriptor (error : DeckUi.DeckRuntimeError)
  | loadRequestInvalid (part : String)

/-- A check of the descriptor, with its error. -/
def described (check : Except DeckUi.DeckRuntimeError Unit) : Except DeckRuntimeError Unit :=
  check.mapError .descriptor

/-- What the file system and the decoder of `operator.json` answer. -/
structure PackageTree where
  /-- `PathBuf`. -/
  Path : Type
  /-- `Path::join`. -/
  join : Path → String → Path
  /-- `fs::canonicalize`. -/
  canonicalize : Path → Option Path
  /-- `Path::is_absolute`. -/
  isAbsolute : Path → Bool
  /-- `Path::is_dir`. -/
  isDirectory : Path → Bool
  /-- `Path::is_file`. -/
  isFile : Path → Bool
  /-- `Path::starts_with`. -/
  startsWith : Path → Path → Bool
  length : Path → Option Nat
  /-- `fs::read`. -/
  read : Path → Option Bytes
  /-- `serde_json::from_slice` with the closed schema of `operator.json`. -/
  decodeOperator : Bytes → Option DeckOperatorDescriptor
  /-- `Path::to_str`. -/
  toStr : Path → Option String
  /-- `Path::new(text).is_absolute()`. -/
  isAbsoluteText : String → Bool
  canonical_text : ∀ path canonical text, canonicalize path = some canonical →
    toStr canonical = some text → '\x00' ∉ text.toList

/-- A package under a usage lease: its manifest was accepted when it was resolved. -/
structure LeasedPackage (crates : Crates) (Path : Type) where
  active : ActiveInstalledPackage
  root : Path
  accepted : ∀ manifest, active.package.manifest = .deck manifest →
    crates.validateDeckManifest manifest = .ok ()

def maxOperatorDescriptorBytes : Nat := 1024 * 1024
def maxPathBytes : Nat := 32768

namespace PackageTree

variable (tree : PackageTree)

def canonicalDirectory (path : tree.Path) : Except DeckRuntimeError tree.Path := do
  let canonical ← orError (tree.canonicalize path) .packageTreeInvalid
  refuseWhen (¬ tree.isAbsolute canonical ∨ ¬ tree.isDirectory canonical) .packageTreeInvalid
  .ok canonical

def canonicalFile (packageRoot path : tree.Path) : Except DeckRuntimeError tree.Path := do
  let canonical ← orError (tree.canonicalize path) .packageTreeInvalid
  refuseWhen (¬ tree.startsWith canonical packageRoot ∨ ¬ tree.isFile canonical)
    .packageTreeInvalid
  .ok canonical

def boundedAbsolutePath (path : tree.Path) : Except DeckRuntimeError String := do
  let text ← orError (tree.toStr path) .packageTreeInvalid
  refuseWhen (¬ tree.isAbsoluteText text ∨ text = "" ∨ maxPathBytes < text.utf8ByteSize)
    .packageTreeInvalid
  .ok text

end PackageTree

structure ActiveDeckRuntime where
  operator : DeckOperatorDescriptor
  binding : DeckRuntimeBinding

/-- The receipt that `from_active_package` trusts. -/
def receiptTrusted (receipt : TrustReceipt) (manifest : DeckPackManifest) :
    Except DeckRuntimeError Unit :=
  refuseWhen (receipt.enabled = false ∨ receipt.package.kind ≠ .deckPack ∨
    receipt.package.packageId ≠ manifest.deckId ∨
    receipt.package.packageVersion ≠ manifest.deckVersion ∨
    ¬ isSha256 receipt.manifestSha256 ∨ ¬ isSha256 receipt.integrityCatalogSha256)
    .trustReceiptInvalid

/-- The part of `from_active_package` that reads `operator.json`. -/
def readOperator (tree : PackageTree) (packageRoot : tree.Path) (manifest : DeckPackManifest) :
    Except DeckRuntimeError DeckOperatorDescriptor := do
  let path ← tree.canonicalFile packageRoot
    (tree.join packageRoot manifest.runtime.operatorDescriptorPath)
  let length ← orError (tree.length path) .packageTreeInvalid
  refuseWhen (length = 0 ∨ maxOperatorDescriptorBytes < length)
    (.descriptor .operatorDescriptorInvalid)
  let bytes ← orError (tree.read path) (.descriptor .operatorDescriptorInvalid)
  refuseWhen (bytes = [] ∨ maxOperatorDescriptorBytes < bytes.length)
    (.descriptor .operatorDescriptorInvalid)
  orError (tree.decodeOperator bytes) (.descriptor .operatorDescriptorInvalid)

/-- `from_active_package` of a deck pack. -/
def ofDeckPackage (crates : Crates) (tree : PackageTree) (root : tree.Path)
    (manifest : DeckPackManifest) (receipt : TrustReceipt) :
    Except DeckRuntimeError ActiveDeckRuntime := do
  receiptTrusted receipt manifest
  let packageRoot ← tree.canonicalDirectory root
  let operator ← readOperator tree packageRoot manifest
  described (DeckUi.validateRuntimeOperator crates operator)
  described (DeckUi.crosscheckOperator manifest operator)
  let pythonRoot ← tree.canonicalDirectory (tree.join packageRoot manifest.runtime.pythonRoot)
  refuseWhen (¬ tree.startsWith pythonRoot packageRoot) .packageTreeInvalid
  let pythonRoot ← tree.boundedAbsolutePath pythonRoot
  .ok {
    operator := operator
    binding := {
      deckId := manifest.deckId
      deckVersion := manifest.deckVersion
      operatorId := operator.operatorId
      operatorVersion := operator.operatorVersion
      pythonRoot := pythonRoot
      entrypoint := manifest.runtime.entrypoint
      packageManifestSha256 := receipt.manifestSha256
      integrityCatalogSha256 := receipt.integrityCatalogSha256 } }

def fromActivePackage (crates : Crates) (tree : PackageTree)
    (leased : LeasedPackage crates tree.Path) : Except DeckRuntimeError ActiveDeckRuntime :=
  match leased.active.package.manifest with
  | .deck manifest =>
      ofDeckPackage crates tree leased.root manifest leased.active.package.trustReceipt
  | .codec _ => .error .notDeckPackage

structure DeckLoadRequest where
  deckSessionId : Uuid
  sources : List SourceBinding
  roles : List RoleBinding
  controls : List ControlBinding
  seed : UInt64
  streamGeneration : UInt64

/-- The descriptor that `descriptors` maps a name to: of equal names the last one. -/
def descriptorOf (operator : DeckOperatorDescriptor) (name : String) :
    Option DeckOperatorControlDescriptor :=
  operator.controls.reverse.find? fun control => control.controlId == name

/-- The loop of `validate_load_request` over the controls. -/
def checkControls (operator : DeckOperatorDescriptor) :
    List String → List ControlBinding → Except DeckRuntimeError Unit
  | _, [] => .ok ()
  | seen, control :: controls => do
      refuseWhen (control.name ∈ seen) (.loadRequestInvalid "controls")
      let descriptor ← orError (descriptorOf operator control.name) (.loadRequestInvalid "controls")
      described (descriptor.validateControlBinding control.value)
      checkControls operator (control.name :: seen) controls

def validateLoadRequest (operator : DeckOperatorDescriptor) (request : DeckLoadRequest) :
    Except DeckRuntimeError Unit := do
  refuseWhen (request.deckSessionId.isNil ∨ request.streamGeneration = 0 ∨
    request.sources.length ≠ operator.sourceCount ∨
    request.roles.length ≠ operator.roleIds.length ∨
    operator.controls.length < request.controls.length) (.loadRequestInvalid "shape")
  let slots := (request.sources.map fun source => source.physicalSlot.toNat).insertionSort (· ≤ ·)
  refuseWhen (slots ≠ List.range' 1 operator.sourceCount) (.loadRequestInvalid "sources")
  refuseWhen (¬ SameElements (request.roles.map RoleBinding.role) operator.roleIds ∨
    ¬ (request.roles.map RoleBinding.physicalSlot).Nodup ∨
    ∃ role ∈ request.roles, role.physicalSlot = 0 ∨
      request.sources.length < role.physicalSlot.toNat) (.loadRequestInvalid "roles")
  checkControls operator [] request.controls

/-- The payload that `build_load_command` makes. -/
def ActiveDeckRuntime.buildLoad (runtime : ActiveDeckRuntime) (request : DeckLoadRequest) :
    Except DeckRuntimeError DeckLoad := do
  validateLoadRequest runtime.operator request
  let sources ← orError (LimitedVec.tryFromVec request.sources Control.maxSources)
    (.loadRequestInvalid "sources")
  let roles ← orError (LimitedVec.tryFromVec request.roles Control.maxRoles) (.loadRequestInvalid "roles")
  let controls ← orError (LimitedVec.tryFromVec request.controls Control.maxControls)
    (.loadRequestInvalid "controls")
  .ok {
    deckSessionId := request.deckSessionId
    deckId := runtime.binding.deckId
    deckVersion := runtime.binding.deckVersion
    operatorId := runtime.binding.operatorId
    operatorVersion := runtime.binding.operatorVersion
    runtime := some runtime.binding
    sources := sources
    roles := roles
    controls := controls
    seed := request.seed
    streamGeneration := request.streamGeneration }

def ActiveDeckRuntime.buildLoadCommand (runtime : ActiveDeckRuntime) (request : DeckLoadRequest) :
    Except DeckRuntimeError Command :=
  return .deckLoad (← runtime.buildLoad request)

end LatentDeck.Host
