import LatentDeck.Packages.Store

/-!
# The package lifecycle

Install, repair, enable, disable, remove, verify and resolve, as the extension manager performs them
under the lifecycle lock. A call that is refused has undone what its source undoes, and a call that
is interrupted leaves the store as it was at that access.
-/

namespace LatentDeck.Packages

open Effect Fallible

def freeSpaceOverheadBytes : Nat := 64 * 1024 * 1024
def maxPackagesPerKind : Nat := 256
def maxVersionsPerPackage : Nat := 16
/-- `MAX_STALE_STAGING_ENTRIES` and `MAX_STALE_TRASH_ENTRIES`. -/
def maxStaleEntries : Nat := 64

/-- `InstallRequest`, with what is at the archive path. -/
structure InstallRequest where
  /-- `kind_from_path` of the archive path. -/
  kind : Option PackageKind
  archive : ArchiveFile
  expectedSha256 : String

structure InstallReceipt where
  package : PackageReference
  inspection : InspectedPackage

/-- `InstalledPackageSummary` of a healthy package. -/
structure InstalledPackageSummary where
  package : PackageReference
  displayName : String
  publisherName : String
  enabled : Bool

structure ValidatedInstalledPackage where
  package : PackageReference
  manifest : PackageManifest
  trustReceipt : TrustReceipt

structure ActiveInstalledPackage where
  package : ValidatedInstalledPackage
  expectedFiles : MeasuredFiles
  fullHashPasses : Nat

/-- Whether two references name versions of one package. -/
def PackageReference.sameIdentity (first second : PackageReference) : Bool :=
  first.kind == second.kind && first.packageId == second.packageId

def validateExactReceipt (receipt : TrustReceipt) (package : PackageReference) :
    Except ErrorCode Unit :=
  refuseWhen (receipt.receiptVersion ≠ trustReceiptVersion ∨ receipt.package ≠ package)
    .packageUntrusted

def validateHashBoundReceipt (validated : ValidatedDirectory) (receipt : TrustReceipt)
    (package : PackageReference) : Except ErrorCode Unit :=
  refuseWhen (validated.manifest.reference ≠ package ∨
    validated.manifestSha256 ≠ receipt.manifestSha256 ∨
    validated.integrityCatalogSha256 ≠ receipt.integrityCatalogSha256 ∨
    validated.manifest.publisher.name ≠ receipt.publisherName ∨
    validated.manifest.publisher.identityClaim ≠ receipt.publisherIdentityClaim) .integrityFailed

def trustReceiptMatchesPrepared (receipt : TrustReceipt) (prepared : PreparedPackage) : Bool :=
  receipt.receiptVersion == trustReceiptVersion &&
    receipt.package == prepared.manifest.reference &&
    receipt.archiveSha256 == prepared.inspection.archiveSha256 &&
    receipt.archiveByteLength == prepared.inspection.archiveByteLength &&
    receipt.manifestSha256 == prepared.inspection.manifestSha256 &&
    receipt.integrityCatalogSha256 == prepared.inspection.integrityCatalogSha256 &&
    receipt.publisherName == prepared.manifest.publisher.name &&
    receipt.publisherIdentityClaim == prepared.manifest.publisher.identityClaim

/-- The receipt of `trust_from_prepared`. -/
def preparedReceipt (prepared : PreparedPackage) (installedAtUtc : String) (enabled : Bool) :
    TrustReceipt where
  receiptVersion := trustReceiptVersion
  package := prepared.manifest.reference
  archiveSha256 := prepared.inspection.archiveSha256
  archiveByteLength := prepared.inspection.archiveByteLength
  manifestSha256 := prepared.inspection.manifestSha256
  integrityCatalogSha256 := prepared.inspection.integrityCatalogSha256
  publisherName := prepared.manifest.publisher.name
  publisherIdentityClaim := prepared.manifest.publisher.identityClaim
  installedAtUtc
  enabled
  runtimeSealSha256 := none

/-- Whether a name is a prefix with 32 lowercase hexadecimal digits behind it. -/
def isOwnedName (start name : String) : Bool :=
  start.toList.isPrefixOf name.toList && (name.toList.drop start.length).length == 32 &&
    (name.toList.drop start.length).all isLowerHex

/-- `is_exact_staging_name` and `is_exact_trash_name`. -/
def ownsName : Bin → String → Bool
  | .staging, name => isOwnedName ".install-" name
  | .trash, name => isOwnedName ".remove-" name || isOwnedName ".repair-" name

/-- What a receipt path gives to `read_trust_receipt`. -/
def Crates.receiptIn (crates : Crates) : Option ReceiptFile → Except ErrorCode TrustReceipt
  | none => .error .packageUntrusted
  | some (.unreadable code) => .error code
  | some (.holds receipt) => do
      crates.validateTrustReceipt receipt
      .ok receipt

def Crates.prepareAuthorized (crates : Crates) (request : InstallRequest)
    (bundledIndex : Option BundledPackageIndex) : Except ErrorCode PreparedPackage := do
  validateSha256 request.expectedSha256
  match bundledIndex with
  | none => .ok ()
  | some index => crates.validateBundledIndex index
  let kind ← orError request.kind .invalidArguments
  let prepared ← crates.prepareArchive request.archive (some request.expectedSha256) (some kind)
  let package := prepared.manifest.reference
  if isReservedPackageId package.packageId then do
    let index ← orError bundledIndex .packageUntrusted
    refuseWhen (¬ index.packages.any fun entry => entry.package == package &&
      entry.archiveSha256 == prepared.inspection.archiveSha256 &&
      entry.archiveSha256 == request.expectedSha256) .packageUntrusted
  else refuseWhen (bundledIndex.isSome = true) .packageUntrusted
  .ok prepared

section Steps

variable (crates : Crates) (outside : Outside)

def validateRoots : Act Unit := refusing (outside.rootsValid = false) .invalidArguments

def prepareBase : Act Unit := do
  accessAll outside .baseParent
  accessAs outside .baseCreate .lifecycleConflict
  ensureSafeDirectory outside .baseDirectory false

def acquireLock : Act Unit := do
  accessAll outside .lockInspect
  accessAs outside .lockOpen .io
  access outside .lockAcquire fun kind _ =>
    if kind = .contended then .lifecycleBusy else .lifecycleConflict

/-- The loop of `cleanup_stale_staging` and `cleanup_stale_trash`. -/
def cleanupEntries (bin : Bin) : Nat → List String → Act Unit
  | _, [] => pure ()
  | index, name :: names => do
      refusing (maxStaleEntries < index + 1) .lifecycleConflict
      accessAs outside (.binEntry bin index) .io
      whenever (ownsName bin name = true) do
        accessAs outside (.binRemove bin index) .lifecycleConflict
        modify fun store => store.dropBin bin name
      cleanupEntries bin (index + 1) names

/-- `cleanup_stale_staging` and `cleanup_stale_trash`. -/
def cleanupStale (bin : Bin) : Act Unit := do
  accessAll outside (.binInspect bin)
  accessAs outside (.binRead bin) .io
  let names ← reading fun store => .ok (store.bins bin).keys
  cleanupEntries outside bin 0 names

def prepareLockedRoots : Act Unit := do
  cleanupStale outside .staging
  cleanupStale outside .trash
  ensureSafeDirectory outside (.root .decks) true
  ensureSafeDirectory outside (.root .codecPacks) true
  ensureSafeDirectory outside (.root .trust) true
  ensureSafeDirectory outside (.root .usage) true

def openUsageLock : Act Unit := do
  ensureSafeDirectory outside .usageDirectory true
  accessAs outside .usageInspect .lifecycleConflict
  accessAs outside .usageOpen .lifecycleConflict

def ensureNotInUseLocked (package : PackageReference) : Act Unit := do
  openUsageLock outside
  access outside .usageLock fun kind _ =>
    if kind = .contended then .packageActive else .lifecycleConflict
  let leases ← reading fun store => .ok store.leases
  refusing (package ∈ leases) .packageActive
  accessAs outside .usageUnlock .lifecycleConflict

def readTrustReceipt (place : Access) (package : PackageReference) : Act TrustReceipt := do
  accessAll outside place
  reading fun store =>
    (crates.receiptIn (store.receipts.lookup package)).mapError Halt.refused

/-- The code of a failure to publish a receipt. -/
def publicationCode (kind : IoErrorKind) (_ : ErrorCode) : ErrorCode :=
  if kind = .alreadyExists then .packageExists else .lifecycleConflict

/-- The inner block of `write_receipt`. -/
def publishReceipt (package : PackageReference) (receipt : TrustReceipt) (replace : Bool) :
    Act Unit := do
  access outside .partialWrite publicationCode
  modify fun store => store.setPartial (outside.fresh .receiptPartial) package (.holds receipt)
  access outside .partialSync publicationCode
  if replace then do
    access outside .receiptReplace publicationCode
    modify fun store =>
      (store.setReceipt package receipt).dropPartial (outside.fresh .receiptPartial)
  else do
    access outside .receiptLink publicationCode
    let taken ← reading fun store => .ok (store.receipts.contains package)
    refusing (taken = true) .packageExists
    modify fun store => store.setReceipt package receipt
    access outside .partialUnlink publicationCode
    modify fun store => store.dropPartial (outside.fresh .receiptPartial)

def writeReceipt (package : PackageReference) (receipt : TrustReceipt) (replace : Bool) :
    Act Unit := do
  ensureSafeDirectory outside .receiptDirectory true
  accessAs outside .partialCreate .lifecycleConflict
  let taken ← reading fun store =>
    .ok (store.partials.contains (outside.fresh .receiptPartial))
  refusing (taken = true) .lifecycleConflict
  modify fun store => store.setPartial (outside.fresh .receiptPartial) package
    (.unreadable .manifestInvalid)
  onRefusal (publishReceipt outside package receipt replace) fun code => do
    ignoring do
      accessAs outside .partialDiscard .io
      modify fun store => store.dropPartial (outside.fresh .receiptPartial)
    refuse code

def removeRuntimeSeal (package : PackageReference) : Act Unit :=
  ignoring do
    accessAs outside .sealRemove .io
    modify fun store => store.dropSeal package

/-- `prepare_runtime_seal`, which gives the receipt with the hash of the written seal. -/
def prepareRuntimeSeal (package : PackageReference) (receipt : TrustReceipt) :
    Act TrustReceipt := do
  let unsealed := { receipt with runtimeSealSha256 := none }
  if package.kind ≠ .codecPack then pure unsealed
  else
    match outside.sealBuilt with
    | none => do
        removeRuntimeSeal outside package
        pure unsealed
    | some bytes => do
        let written ← attempt do
          accessAs outside .sealWrite .lifecycleConflict
          modify fun store => store.setSeal package bytes
        match written with
        | .ok _ => pure { receipt with runtimeSealSha256 := some (crates.sha256 bytes) }
        | .error _ => do
            removeRuntimeSeal outside package
            pure unsealed

/-- `pin_and_validate_package_tree` of an installed package. -/
def pinInstalledTree (package : PackageReference) : Act ValidatedDirectory := do
  accessAll outside .pinnedTree
  let tree ← reading fun store =>
    orError (store.trees.lookup package) (Halt.refused .integrityFailed)
  lift (crates.pinAndValidatePackageTree tree package.kind)

/-- `validate_directory` of an installed package. -/
def validateInstalledTree (place : Access) (package : PackageReference) :
    Act ValidatedDirectory := do
  accessAll outside place
  let tree ← reading fun store => orError (store.trees.lookup package) (Halt.refused .io)
  lift (crates.validateDirectory tree (some package.kind))

def verifyInstalledTreeLocked (package : PackageReference) :
    Act (TrustReceipt × ValidatedDirectory) := do
  let installed ← pathExists outside .installedTree package
  refusing (installed = false) .packageMissing
  let receipt ← readTrustReceipt crates outside .installedReceipt package
  lift (validateExactReceipt receipt package)
  let validated ← validateInstalledTree crates outside .installedFiles package
  lift (validateHashBoundReceipt validated receipt package)
  pure (receipt, validated)

def enforcePackageIdLimit (kind : PackageKind) : Act Unit := do
  accessAll outside .identityCount
  let identities ← reading fun store => .ok store.identities
  refusing (maxPackagesPerKind ≤ (identities.filter fun identity => identity.1 = kind).length)
    .lifecycleConflict

def Store.versionsOf (store : Store) (package : PackageReference) : List PackageReference :=
  store.trees.keys.filter package.sameIdentity

def enforceVersionLimit (package : PackageReference) : Act Unit := do
  accessAll outside .versionCount
  let versions ← reading fun store => .ok (store.versionsOf package)
  refusing (maxVersionsPerPackage ≤ versions.length) .lifecycleConflict

def trustFromPrepared (prepared : PreparedPackage) (enabled : Bool) : Act TrustReceipt := do
  accessAs outside .clock .lifecycleConflict
  pure (preparedReceipt prepared outside.now enabled)

/-- The part of `publish_new` in which the staging guard is armed: extraction and the rename into
place. -/
def publishTree (prepared : PreparedPackage) : Act Unit := do
  let name := outside.fresh .staging
  accessAs outside .stagingCreate .lifecycleConflict
  let taken ← reading fun store => .ok ((store.bins .staging).contains name)
  refusing (taken = true) .lifecycleConflict
  modify fun store => store.setBin .staging name .remains
  let staged : Act Unit := do
    accessAll outside .extraction
    let tree ← lift (crates.extractPrepared prepared)
    modify fun store => store.setBin .staging name (.tree tree)
    accessAs outside .publish .lifecycleConflict
    modify fun store => (store.setTree prepared.manifest.reference tree).dropBin .staging name
  onRefusal staged fun code => do
    ignoring do
      accessAs outside .stagingDiscard .io
      modify fun store => store.dropBin .staging name
    refuse code

/-- The checks of `publish_new` before anything is written. -/
def preparePublication (prepared : PreparedPackage) : Act Unit := do
  let package := prepared.manifest.reference
  lift (crates.validatePackageReference package)
  ensureSafeDirectory outside .packageRoot true
  accessAs outside .identityInspect .io
  let identities ← reading fun store => .ok store.identities
  whenever ((package.kind, package.packageId) ∉ identities)
    (enforcePackageIdLimit outside package.kind)
  ensureSafeDirectory outside .identityRoot true
  modify fun store => store.addIdentity package
  let installed ← pathExists outside .publishDestination package
  whenever (installed = true) do
    let _ ← verifyInstalledTreeLocked crates outside package
    refuse .packageExists
  enforceVersionLimit outside package
  ensureSafeDirectory outside .stagingRoot true
  let requiredSpace := prepared.inspection.extractedByteLength + freeSpaceOverheadBytes
  refusing (u64Max < requiredSpace) .lifecycleConflict
  accessAs outside .freeSpace .lifecycleConflict
  refusing (outside.availableSpace < requiredSpace) .lifecycleConflict

def publishNew (prepared : PreparedPackage) (replaceReceipt : Bool) : Act InstallReceipt := do
  let package := prepared.manifest.reference
  preparePublication crates outside prepared
  publishTree crates outside prepared
  ensureSafeDirectory outside .receiptRoot true
  let trust ← trustFromPrepared outside prepared false
  onRefusal (writeReceipt outside package trust replaceReceipt) fun code => do
    let name := outside.fresh .rollback
    let rolledBack ← attempt do
      accessAs outside .rollback .io
      let tree ← reading fun store => orError (store.trees.lookup package) (Halt.refused .io)
      modify fun store => (store.dropTree package).setBin .staging name (.tree tree)
    whenever (rolledBack.isOk = true) do
      ignoring do
        accessAs outside .rollbackDiscard .io
        modify fun store => store.dropBin .staging name
    refuse code
  removeRuntimeSeal outside package
  pure { package, inspection := prepared.inspection }

/-- What every call does before it looks at a package. -/
def enterLocked : Act Unit := do
  prepareBase outside
  acquireLock outside
  prepareLockedRoots outside

/-- `install` and `install_from_bundled_index`. -/
def install (request : InstallRequest) (bundledIndex : Option BundledPackageIndex) :
    Act InstallReceipt := do
  validateRoots outside
  let prepared ← lift (crates.prepareAuthorized request bundledIndex)
  enterLocked outside
  publishNew crates outside prepared false

/-- A rename of an installed tree into the trash. -/
def quarantineTree (package : PackageReference) : Act PackageTree := do
  ensureSafeDirectory outside .trashRoot true
  access outside .quarantine fun kind _ =>
    if kind = .inUse then .packageActive else .lifecycleConflict
  let tree ← reading fun store =>
    orError (store.trees.lookup package) (Halt.refused .lifecycleConflict)
  modify fun store =>
    (store.dropTree package).setBin .trash (outside.fresh .quarantine) (.tree tree)
  pure tree

/-- A rename of a quarantined tree back to its destination, when that is possible. -/
def restoreTree (package : PackageReference) (tree : PackageTree) : Act Unit :=
  ignoring do
    accessAs outside .restore .io
    let taken ← reading fun store => .ok (store.trees.contains package)
    refusing (taken = true) .io
    modify fun store =>
      (store.setTree package tree).dropBin .trash (outside.fresh .quarantine)

def discardQuarantine (code : ErrorCode) : Act Unit := do
  accessAs outside .discardQuarantine code
  modify fun store => store.dropBin .trash (outside.fresh .quarantine)

/-- Whether the receipt gate of `repair_prepared` holds the version to be active. -/
def repairGate (prepared : PreparedPackage) : Act Bool := do
  let read ← attempt (readTrustReceipt crates outside .gateReceipt prepared.manifest.reference)
  match read with
  | .ok receipt => pure (receipt.enabled && trustReceiptMatchesPrepared receipt prepared)
  | .error _ => pure false

/-- Whether the installed tree already is the prepared one. -/
def treeMatches (prepared : PreparedPackage) : Act Bool := do
  let read ← attempt (validateInstalledTree crates outside .gateTree prepared.manifest.reference)
  match read with
  | .ok validated =>
      pure (decide (validated.files = prepared.files ∧ validated.manifest = prepared.manifest))
  | .error _ => pure false

/-- The part of `repair_prepared` that replaces an installed tree. -/
def replaceTree (prepared : PreparedPackage) : Act InstallReceipt := do
  let package := prepared.manifest.reference
  let quarantined ← quarantineTree outside package
  let receipt ← onRefusal (publishNew crates outside prepared true) fun code => do
    let inspected ← attempt (pathExists outside .restoreInspect package)
    whenever (inspected ≠ .ok true) (restoreTree outside package quarantined)
    refuse code
  discardQuarantine outside .lifecycleConflict
  pure receipt

def repairPrepared (prepared : PreparedPackage) : Act InstallReceipt := do
  enterLocked outside
  let package := prepared.manifest.reference
  let installed ← pathExists outside .destination package
  if installed = false then publishNew crates outside prepared true
  else do
    ensureNotInUseLocked outside package
    let active ← repairGate crates outside prepared
    refusing (active = true) .packageActive
    let same ← treeMatches crates outside prepared
    if same then do
      let receipt ← trustFromPrepared outside prepared false
      writeReceipt outside package receipt true
      removeRuntimeSeal outside package
      pure { package, inspection := prepared.inspection }
    else replaceTree crates outside prepared

/-- `repair` and `repair_from_bundled_index`. -/
def repair (request : InstallRequest) (bundledIndex : Option BundledPackageIndex) :
    Act InstallReceipt := do
  validateRoots outside
  let prepared ← lift (crates.prepareAuthorized request bundledIndex)
  repairPrepared crates outside prepared

/-- The entries of the receipt root of a package, its own receipt left out. -/
def Store.otherReceiptFiles (store : Store) (package : PackageReference) : List ReceiptFile :=
  (store.receipts.entries.filter fun entry =>
      package.sameIdentity entry.1 && entry.1 != package).map Prod.snd ++
    (store.partials.values.filter fun entry => package.sameIdentity entry.1).map Prod.snd

/-- The loop of `ensure_no_other_enabled_version`. -/
def checkOtherReceipts : Nat → List ReceiptFile → Act Unit
  | _, [] => pure ()
  | index, file :: files => do
      let read ← attempt do
        accessAll outside (.otherReceipt index)
        lift (crates.receiptIn (some file))
      refusing (∃ receipt ∈ read.toOption, receipt.enabled = true) .lifecycleConflict
      checkOtherReceipts (index + 1) files

def ensureNoOtherEnabledVersion (package : PackageReference) : Act Unit := do
  let inspected ← attempt (accessAll outside .otherReceiptRoot)
  whenever (inspected.isOk = true) do
    accessAs outside .otherReceipts .io
    let files ← reading fun store => .ok (store.otherReceiptFiles package)
    checkOtherReceipts crates outside 0 files

/-- The end of every way to enable a version: the tree is validated and the receipt rewritten. -/
def enableValidated (package : PackageReference) (receipt : TrustReceipt) :
    Act (TrustReceipt × ValidatedDirectory) := do
  let validated ← pinInstalledTree crates outside package
  lift (validateHashBoundReceipt validated receipt package)
  let enabled ← prepareRuntimeSeal crates outside package { receipt with enabled := true }
  writeReceipt outside package enabled true
  pure (enabled, validated)

/-- What every call on a package reference does first. -/
def enterFor (package : PackageReference) : Act Unit := do
  lift (crates.validatePackageReference package)
  validateRoots outside
  prepareBase outside
  acquireLock outside

def enable (package : PackageReference) : Act TrustReceipt := do
  enterFor crates outside package
  prepareLockedRoots outside
  let receipt ← readTrustReceipt crates outside .exactReceipt package
  lift (validateExactReceipt receipt package)
  ensureNoOtherEnabledVersion crates outside package
  let (enabled, _) ← enableValidated crates outside package receipt
  pure enabled

def disable (package : PackageReference) : Act TrustReceipt := do
  enterFor crates outside package
  prepareLockedRoots outside
  accessAll outside .disableInspect
  let installed ← reading fun store => .ok (store.trees.contains package)
  refusing (installed = false) .packageMissing
  let receipt ← readTrustReceipt crates outside .exactReceipt package
  lift (validateExactReceipt receipt package)
  let disabled := { receipt with enabled := false, runtimeSealSha256 := none }
  writeReceipt outside package disabled true
  removeRuntimeSeal outside package
  pure disabled

def enableIfOnlyInstalledVersion (package : PackageReference) : Act TrustReceipt := do
  enterFor crates outside package
  prepareLockedRoots outside
  ensureSafeDirectory outside .idRoot false
  let identities ← reading fun store => .ok store.identities
  refusing ((package.kind, package.packageId) ∉ identities) .lifecycleConflict
  accessAs outside .idRootRead .lifecycleConflict
  let versions ← reading fun store => .ok (store.versionsOf package)
  refusing (∃ version ∈ versions, version ≠ package) .lifecycleConflict
  let receipt ← readTrustReceipt crates outside .exactReceipt package
  lift (validateExactReceipt receipt package)
  let (enabled, _) ← enableValidated crates outside package receipt
  pure enabled

def takeLease (package : PackageReference) : Act Unit := do
  openUsageLock outside
  accessAs outside .usageLock .lifecycleConflict
  modify fun store => { store with leases := package :: store.leases }

def Store.dropLease (store : Store) (package : PackageReference) : Store :=
  { store with leases := store.leases.erase package }

/-- Runs an action under a shared usage lease, which is given back when the action is refused. -/
def underLease {α : Type} (package : PackageReference) (action : Act α) : Act α := do
  takeLease outside package
  catching action fun halt => do
    modify fun store => store.dropLease package
    throw halt

/-- `enable_active_counted`. -/
def enableActive (package : PackageReference) : Act ActiveInstalledPackage := do
  enterFor crates outside package
  prepareLockedRoots outside
  let installed ← pathExists outside .destination package
  refusing (installed = false) .packageMissing
  let receipt ← readTrustReceipt crates outside .exactReceipt package
  lift (validateExactReceipt receipt package)
  ensureNoOtherEnabledVersion crates outside package
  underLease outside package do
    let (enabled, validated) ← enableValidated crates outside package receipt
    pure {
      package := { package, manifest := validated.manifest, trustReceipt := enabled }
      expectedFiles := validated.files
      fullHashPasses := 1 }

def remove (package : PackageReference) (allowCorrupt : Bool) : Act PackageReference := do
  enterFor crates outside package
  prepareLockedRoots outside
  let installed ← pathExists outside .destination package
  refusing (installed = false) .packageMissing
  ensureNotInUseLocked outside package
  let verified ← attempt (verifyInstalledTreeLocked crates outside package)
  match verified with
  | .ok (receipt, _) => refusing (receipt.enabled = true) .packageActive
  | .error code => refusing (allowCorrupt = false) code
  let quarantined ← quarantineTree outside package
  accessAs outside .removedReceiptInspect .io
  let recorded ← reading fun store => .ok (store.receipts.contains package)
  whenever (recorded = true) do
    onRefusal (do
      accessAs outside .removedReceipt .lifecycleConflict
      modify fun store => store.dropReceipt package) fun code => do
        restoreTree outside package quarantined
        refuse code
  removeRuntimeSeal outside package
  discardQuarantine outside .packageActive
  modify fun store => store.pruneIdentity package
  pure package

def verify (package : PackageReference) : Act InstalledPackageSummary := do
  enterFor crates outside package
  let installed ← pathExists outside .destination package
  refusing (installed = false) .packageMissing
  let receipt ← readTrustReceipt crates outside .exactReceipt package
  lift (validateExactReceipt receipt package)
  let validated ← pinInstalledTree crates outside package
  lift (validateHashBoundReceipt validated receipt package)
  let refreshed ← prepareRuntimeSeal crates outside package receipt
  writeReceipt outside package refreshed true
  pure {
    package
    displayName := validated.manifest.displayName
    publisherName := validated.manifest.publisher.name
    enabled := refreshed.enabled }

def resolveInstalled (package : PackageReference) : Act ValidatedInstalledPackage := do
  enterFor crates outside package
  let (receipt, validated) ← verifyInstalledTreeLocked crates outside package
  pure { package, manifest := validated.manifest, trustReceipt := receipt }

/-- `try_pin_codec_tree_from_runtime_seal`. -/
def tryPinFromRuntimeSeal (package : PackageReference) (receipt : TrustReceipt) :
    Act (Option ValidatedDirectory) := do
  match receipt.runtimeSealSha256 with
  | none => pure none
  | some expected => do
      let read ← attempt (accessAll outside .sealRead)
      let found ← reading fun store => .ok (store.seals.lookup package)
      match read, found with
      | .ok _, some bytes => do
          accessAll outside .sealedTree
          let tree ← reading fun store =>
            orError (store.trees.lookup package) (Halt.refused .integrityFailed)
          let validated ← lift (crates.pinCodecTreeWithoutPayloadHash tree)
          lift (validateHashBoundReceipt validated receipt package)
          if crates.sha256 bytes ≠ expected then pure none
          else do
            let sealed ← lift outside.sealMatches
            pure (if sealed then some validated else none)
      | _, _ => pure none

/-- `persist_runtime_seal_after_full_validation`. -/
def persistRuntimeSeal (package : PackageReference) (receipt : TrustReceipt) :
    Act TrustReceipt := do
  let updated ← prepareRuntimeSeal crates outside package receipt
  let written ← attempt (writeReceipt outside package updated true)
  pure (if written.isOk then updated else receipt)

/-- The pinned tree of `resolve_active_impl`, with the receipt and the number of full hash
passes. -/
def pinActiveTree (package : PackageReference) (receipt : TrustReceipt) :
    Act (ValidatedDirectory × TrustReceipt × Nat) := do
  let sealedTree ←
    if package.kind = .codecPack then tryPinFromRuntimeSeal crates outside package receipt
    else pure none
  match sealedTree with
  | some validated => pure (validated, receipt, 0)
  | none => do
      let validated ← pinInstalledTree crates outside package
      lift (validateHashBoundReceipt validated receipt package)
      let persisted ← persistRuntimeSeal crates outside package receipt
      pure (validated, persisted, 1)

def resolveActive (package : PackageReference) : Act ActiveInstalledPackage := do
  enterFor crates outside package
  prepareLockedRoots outside
  let installed ← pathExists outside .destination package
  refusing (installed = false) .packageMissing
  let receipt ← readTrustReceipt crates outside .exactReceipt package
  lift (validateExactReceipt receipt package)
  refusing (receipt.enabled = false) .packageDisabled
  underLease outside package do
    let (validated, persisted, passes) ← pinActiveTree crates outside package receipt
    pure {
      package := { package, manifest := validated.manifest, trustReceipt := persisted }
      expectedFiles := validated.files
      fullHashPasses := passes }

end Steps

end LatentDeck.Packages
