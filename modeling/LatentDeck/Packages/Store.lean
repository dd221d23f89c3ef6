import LatentDeck.Library.Dict
import LatentDeck.Library.Effect
import LatentDeck.Packages.Archive

/-!
# The extension package store

The directories below the base root, as far as the lifecycle reads and writes them, and the steps
that touch them. Every access of the file system may fail or be where the process is interrupted, as
the outside says for one call. An access names the place of the source that makes it, and one call
makes each access at most once.
-/

namespace LatentDeck.Packages

open Effect

inductive ReceiptFile where
  | holds (receipt : TrustReceipt)
  | unreadable (code : ErrorCode)

/-- What a staged or discarded directory holds. -/
inductive BinEntry where
  | tree (tree : PackageTree)
  | remains

/-- The roots for directories that are on their way in or out. -/
inductive Bin where
  /-- `staging_root`. -/
  | staging
  /-- `trash_root`. -/
  | trash
  deriving DecidableEq

/-- The store below `base_root`. -/
structure Store where
  /-- The installed trees at their `package_destination`. -/
  trees : Dict PackageReference PackageTree
  /-- The files at the `trust_receipt_path` of a package. -/
  receipts : Dict PackageReference ReceiptFile
  /-- The `.receipt-*.partial` files in the receipt directories. -/
  partials : Dict String (PackageReference × ReceiptFile)
  /-- The files at the `runtime_seal_path` of a package. -/
  seals : Dict PackageReference Bytes
  identities : List (PackageKind × String)
  leases : List PackageReference
  /-- The entries of `staging_root` and of `trash_root`. -/
  bins : Bin → Dict String BinEntry

/-- A store in which nothing was ever installed. -/
def Store.vacant : Store where
  trees := Dict.empty
  receipts := Dict.empty
  partials := Dict.empty
  seals := Dict.empty
  identities := []
  leases := []
  bins _ := Dict.empty

/-- The parts of `ensure_safe_directory`. -/
inductive DirectoryPart where
  | ancestors
  | create
  | inspect
  | ancestorsAgain
  deriving DecidableEq

/-- The directories that `prepare_locked_roots` ensures. -/
inductive LifecycleRoot where
  | decks
  | codecPacks
  | trust
  | usage
  deriving DecidableEq

/-- The places at which the lifecycle accesses the file system, the clock and the volume. -/
inductive Access where
  | baseParent
  | baseCreate
  | baseDirectory (part : DirectoryPart)
  | lockInspect
  | lockOpen
  | lockAcquire
  | binInspect (bin : Bin)
  | binRead (bin : Bin)
  | binEntry (bin : Bin) (index : Nat)
  | binRemove (bin : Bin) (index : Nat)
  | root (root : LifecycleRoot) (part : DirectoryPart)
  | destination
  | usageDirectory (part : DirectoryPart)
  | usageInspect
  | usageOpen
  | usageLock
  | usageUnlock
  | gateReceipt
  | gateTree
  | trashRoot (part : DirectoryPart)
  | quarantine
  | restoreInspect
  | restore
  | discardQuarantine
  | packageRoot (part : DirectoryPart)
  | identityInspect
  | identityCount
  | identityRoot (part : DirectoryPart)
  | publishDestination
  | installedTree
  | installedReceipt
  | installedFiles
  | versionCount
  | stagingRoot (part : DirectoryPart)
  | freeSpace
  | stagingCreate
  | extraction
  | stagingDiscard
  | publish
  | receiptRoot (part : DirectoryPart)
  | clock
  | rollback
  | rollbackDiscard
  | receiptDirectory (part : DirectoryPart)
  | partialCreate
  | partialWrite
  | partialSync
  | receiptReplace
  | receiptLink
  | partialUnlink
  | partialDiscard
  | sealWrite
  | sealRemove
  | sealRead
  | removedReceiptInspect
  | removedReceipt
  | exactReceipt
  | otherReceiptRoot
  | otherReceipts
  | otherReceipt (index : Nat)
  | idRoot (part : DirectoryPart)
  | idRootRead
  | pinnedTree
  | sealedTree
  | disableInspect
  deriving DecidableEq

/-- What the operating system says about a failed access, as far as the source tells errors
apart. -/
inductive IoErrorKind where
  | alreadyExists
  /-- `is_in_use_error`. -/
  | inUse
  /-- `is_lock_contended`. -/
  | contended
  | other
  deriving DecidableEq

inductive Fault where
  /-- The access fails. A place that stands for several accesses reports the code of the one that
  failed. -/
  | failed (kind : IoErrorKind) (code : ErrorCode)
  | interrupted

inductive FreshName where
  | staging
  | rollback
  | quarantine
  | receiptPartial

structure Outside where
  /-- Whether `validate_roots` accepts the configured roots. -/
  rootsValid : Bool
  fault : Access → Option Fault
  /-- `Uuid::new_v4` as a directory or file name. -/
  fresh : FreshName → String
  /-- `OffsetDateTime::now_utc` in RFC 3339. -/
  now : String
  /-- `fs2::available_space`. -/
  availableSpace : Nat
  /-- The bytes of the seal that `runtime_seal::build` makes of the pinned files. -/
  sealBuilt : Option Bytes
  /-- `runtime_seal::matches` on the pinned files. -/
  sealMatches : Except ErrorCode Bool

inductive Halt where
  /-- `Err` with the code. -/
  | refused (code : ErrorCode)
  | interrupted

abbrev Act := EStateM Halt Store

/-- The result of a check that does not touch the store. -/
def lift {α : Type} (result : Except ErrorCode α) : Act α :=
  reading fun _ => result.mapError Halt.refused

def refuse {α : Type} (code : ErrorCode) : Act α := throw (.refused code)

def refusing (condition : Prop) [Decidable condition] (code : ErrorCode) : Act Unit :=
  demand (¬ condition) (.refused code)

/-- Runs an action and recovers when it is refused. -/
def onRefusal {α : Type} (action : Act α) (recover : ErrorCode → Act α) : Act α :=
  catching action fun halt =>
    match halt with
    | .refused code => recover code
    | .interrupted => throw .interrupted

def attempt {α : Type} (action : Act α) : Act (Except ErrorCode α) :=
  onRefusal (Except.ok <$> action) fun code => pure (.error code)

/-- Runs an action whose refusal nobody looks at. -/
def ignoring {α : Type} (action : Act α) : Act Unit := attempt action >>= fun _ => pure ()

section Accesses

variable (outside : Outside)

/-- An access of the file system, with the code that each kind of failure is reported as. -/
def access (place : Access) (report : IoErrorKind → ErrorCode → ErrorCode) : Act Unit :=
  match outside.fault place with
  | none => pure ()
  | some (.failed kind code) => refuse (report kind code)
  | some .interrupted => throw .interrupted

/-- An access whose every failure has one code. -/
def accessAs (place : Access) (code : ErrorCode) : Act Unit := access outside place fun _ _ => code

/-- An access that stands for several with codes of their own. -/
def accessAll (place : Access) : Act Unit := access outside place fun _ code => code

def ensureSafeDirectory (place : DirectoryPart → Access) (create : Bool) : Act Unit := do
  accessAll outside (place .ancestors)
  whenever (create = true) (accessAs outside (place .create) .lifecycleConflict)
  accessAs outside (place .inspect) .lifecycleConflict
  accessAll outside (place .ancestorsAgain)

/-- `path_exists` of an installed tree. -/
def pathExists (place : Access) (package : PackageReference) : Act Bool := do
  accessAs outside place .io
  reading fun store => .ok (store.trees.contains package)

end Accesses

namespace Store

/-- Puts a tree at the destination of a package. -/
def setTree (store : Store) (package : PackageReference) (tree : PackageTree) : Store :=
  { store with trees := store.trees.insert package tree }

def dropTree (store : Store) (package : PackageReference) : Store :=
  { store with trees := store.trees.erase package }

/-- Puts a receipt at the receipt path of a package. -/
def setReceipt (store : Store) (package : PackageReference) (receipt : TrustReceipt) : Store :=
  { store with receipts := store.receipts.insert package (.holds receipt) }

def dropReceipt (store : Store) (package : PackageReference) : Store :=
  { store with receipts := store.receipts.erase package }

def setBin (store : Store) (bin : Bin) (name : String) (entry : BinEntry) : Store :=
  { store with bins := fun other =>
      if other = bin then (store.bins bin).insert name entry else store.bins other }

def dropBin (store : Store) (bin : Bin) (name : String) : Store :=
  { store with bins := fun other =>
      if other = bin then (store.bins bin).erase name else store.bins other }

def setPartial (store : Store) (name : String) (package : PackageReference)
    (file : ReceiptFile) : Store :=
  { store with partials := store.partials.insert name (package, file) }

def dropPartial (store : Store) (name : String) : Store :=
  { store with partials := store.partials.erase name }

/-- Puts a runtime seal at the seal path of a package. -/
def setSeal (store : Store) (package : PackageReference) (bytes : Bytes) : Store :=
  { store with seals := store.seals.insert package bytes }

/-- Takes the runtime seal of a package away. -/
def dropSeal (store : Store) (package : PackageReference) : Store :=
  { store with seals := store.seals.erase package }

def addIdentity (store : Store) (package : PackageReference) : Store :=
  { store with identities := store.identities.insert (package.kind, package.packageId) }

/-- `remove_if_empty` of the identity root of a package. -/
def pruneIdentity (store : Store) (package : PackageReference) : Store :=
  { store with identities :=
      if store.trees.keys.any fun other =>
          other.kind = package.kind ∧ other.packageId = package.packageId then store.identities
      else store.identities.erase (package.kind, package.packageId) }

end Store

end LatentDeck.Packages
