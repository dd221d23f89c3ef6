import LatentDeck.Packages.Contract

/-!
# Package archives

A package archive is a ZIP file whose entries are planned, measured and held to the contract before
anything is written. The ZIP crate is outside the repository: an opened archive is the list of its
entries, each with what the crate says of it and what reading it gives.
-/

namespace LatentDeck.Packages

open Fallible

/-- `CompressionMethod`, as far as the manager tells methods apart. -/
inductive CompressionMethod where
  | stored
  | deflated
  | other
  deriving DecidableEq

structure ZipEntry where
  nameRaw : Bytes
  encrypted : Bool
  compression : CompressionMethod
  unixMode : Option Nat
  /-- `size`: the declared uncompressed length. -/
  size : Nat
  contents : Option Bytes

/-- `is_dir`: the name ends in a separator. -/
def ZipEntry.isDir (entry : ZipEntry) : Bool :=
  entry.nameRaw.getLast? == some 0x2f || entry.nameRaw.getLast? == some 0x5c

/-- `ZipArchive`: the entries of an opened archive. -/
abbrev ZipArchive : Type := List ZipEntry

structure ArchiveEntryPlan where
  index : Nat
  path : String
  normalized : String
  directory : Bool
  byteLength : Nat
  deriving DecidableEq

structure PreparedPackage where
  archive : ZipArchive
  plan : List ArchiveEntryPlan
  inspection : InspectedPackage
  manifest : PackageManifest
  files : MeasuredFiles

/-- An archive that breaks a rule of its structure. -/
def archiveInvalidWhen (condition : Prop) [Decidable condition] : Except ErrorCode Unit :=
  refuseWhen condition .archiveInvalid

/-- The path of an entry: its name, without the trailing slash of a directory. -/
def entryPath (entry : ZipEntry) : Except ErrorCode String := do
  let raw ← orError (String.fromUTF8? ⟨entry.nameRaw.toArray⟩) .archiveInvalid
  if entry.isDir then
    orError (if raw.toList.getLast? = some '/' then some (String.ofList raw.toList.dropLast)
      else none) .archiveInvalid
  else .ok raw

def modeKind (mode : Nat) : Nat := mode &&& 0o170000

/-- One entry of `plan_archive`. -/
def planEntry (index : Nat) (entry : ZipEntry) (normalizedPaths : List String)
    (generalExtracted : Nat) : Except ErrorCode ArchiveEntryPlan := do
  archiveInvalidWhen entry.encrypted
  archiveInvalidWhen (entry.compression = .other)
  let path ← entryPath entry
  (validatePortableRelativePath path entry.isDir).mapError fun _ => .archiveInvalid
  let normalized := toAsciiLowercase path
  archiveInvalidWhen (normalized ∈ normalizedPaths)
  archiveInvalidWhen (∃ mode ∈ entry.unixMode, modeKind mode ≠ 0 ∧
    modeKind mode ≠ if entry.isDir then 0o040000 else 0o100000)
  archiveInvalidWhen (entry.isDir ∧ entry.size ≠ 0)
  archiveInvalidWhen (u64Max < generalExtracted + entry.size)
  archiveInvalidWhen (maxCodecExtractedBytes < generalExtracted + entry.size)
  .ok { index, path, normalized, directory := entry.isDir, byteLength := entry.size }

/-- The loop of `plan_archive`. -/
def planFrom : Nat → List String → Nat → ZipArchive → Except ErrorCode (List ArchiveEntryPlan)
  | _, _, _, [] => .ok []
  | index, normalizedPaths, generalExtracted, entry :: entries => do
      let planned ← planEntry index entry normalizedPaths generalExtracted
      let rest ← planFrom (index + 1) (planned.normalized :: normalizedPaths)
        (generalExtracted + entry.size) entries
      .ok (planned :: rest)

/-- The spellings of the prefixes of a path, the path included. -/
def prefixesOf (path : String) : List String := parentsOf path ++ [path]

def plannedFiles (plan : List ArchiveEntryPlan) : List ArchiveEntryPlan :=
  plan.filter fun entry => !entry.directory

def validateArchiveHierarchy (plan : List ArchiveEntryPlan) : Except ErrorCode Unit := do
  let spellings := plan.flatMap fun entry => prefixesOf entry.path
  archiveInvalidWhen (∃ first ∈ spellings, ∃ second ∈ spellings,
    toAsciiLowercase first = toAsciiLowercase second ∧ first ≠ second)
  let filePaths := (plannedFiles plan).map ArchiveEntryPlan.normalized
  archiveInvalidWhen (∃ path ∈ filePaths, ∃ parent ∈ parentsOf path, parent ∈ filePaths)
  let implied := impliedDirectories ((plannedFiles plan).map ArchiveEntryPlan.path)
  archiveInvalidWhen (∃ entry ∈ plan, entry.directory = true ∧ entry.path ∉ implied)

def planArchive (archive : ZipArchive) : Except ErrorCode (List ArchiveEntryPlan) := do
  archiveInvalidWhen (archive = [] ∨ maxArchiveEntries < archive.length)
  let plan ← planFrom 0 [] 0 archive
  validateArchiveHierarchy plan
  .ok plan

def detectKind (plan : List ArchiveEntryPlan) : Except ErrorCode PackageKind :=
  detectKindFromPaths ((plannedFiles plan).map ArchiveEntryPlan.path)

/-- `read_and_hash` of an entry: its bytes, which must have the declared length. -/
def readEntry (archive : ZipArchive) (planned : ArchiveEntryPlan) : Except ErrorCode Bytes := do
  let entry ← orError archive[planned.index]? .archiveInvalid
  let bytes ← orError entry.contents .archiveInvalid
  archiveInvalidWhen (bytes.length ≠ planned.byteLength)
  .ok bytes

/-- One planned file of `measure_archive`. -/
def measureEntry (archive : ZipArchive) (kind : PackageKind) (planned : ArchiveEntryPlan) :
    Except ErrorCode (String × Bytes) := do
  if kind = .deckPack then validateDeckFileExtension planned.path else .ok ()
  archiveInvalidWhen (kind = .deckPack ∧ maxDeckFileBytes < planned.byteLength)
  invalidWhen (keepsBytes kind planned.path ∧ maxJsonBytes < planned.byteLength ∧
    kind = .codecPack)
  let bytes ← readEntry archive planned
  .ok (planned.path, bytes)

/-- `measure_archive`: the files with their bytes, in the order of the plan. -/
def measureArchive (archive : ZipArchive) (plan : List ArchiveEntryPlan) (kind : PackageKind) :
    Except ErrorCode (List (String × Bytes)) :=
  (plannedFiles plan).mapM (measureEntry archive kind)

def plannedDirectories (plan : List ArchiveEntryPlan) : Finset String :=
  ((plan.filter ArchiveEntryPlan.directory).map ArchiveEntryPlan.path).toFinset

namespace Crates

variable (crates : Crates)

/-- `prepare_archive` from the opened archive on, with the measured length and hash of its bytes. -/
def preparePlanned (archive : ZipArchive) (archiveByteLength : Nat) (archiveSha256 : String)
    (expectedKind : Option PackageKind) : Except ErrorCode PreparedPackage := do
  let plan ← planArchive archive
  let kind ← detectKind plan
  invalidWhen (∃ expected ∈ expectedKind, expected ≠ kind)
  archiveInvalidWhen (maxArchiveBytes kind < archiveByteLength)
  let lengths := (plannedFiles plan).map ArchiveEntryPlan.byteLength
  archiveInvalidWhen (lengths = [] ∨ maxFiles kind < lengths.length)
  archiveInvalidWhen (u64Max < lengths.sum)
  archiveInvalidWhen (maxExtractedBytes kind < lengths.sum)
  let measured ← measureArchive archive plan kind
  let files := crates.measureFiles measured
  let validated ← crates.validateContract kind files (plannedDirectories plan)
    (retainContents kind measured)
  let inspection : InspectedPackage := {
    package := validated.manifest.reference
    displayName := validated.manifest.displayName
    publisherName := validated.manifest.publisher.name
    publisherIdentityClaim := validated.manifest.publisher.identityClaim
    archiveSha256
    archiveByteLength
    manifestSha256 := validated.manifestSha256
    integrityCatalogSha256 := validated.integrityCatalogSha256
    fileCount := files.length
    extractedByteLength := lengths.sum
    manifest := validated.manifest }
  .ok { archive, plan, inspection, manifest := validated.manifest, files }

end Crates

/-- The file at the path of an archive, as `prepare_archive` finds it. -/
structure ArchiveFile where
  byteLength : Nat
  /-- The measured hash of the file. -/
  sha256 : String
  /-- `preflight_zip_metadata`. -/
  preflighted : Except ErrorCode Unit
  /-- `open_archive_with_unique_central_directory`. -/
  opened : Except ErrorCode ZipArchive

def Crates.prepareArchive (crates : Crates) (file : ArchiveFile) (expectedSha256 : Option String)
    (expectedKind : Option PackageKind) : Except ErrorCode PreparedPackage := do
  match expectedSha256 with
  | none => .ok ()
  | some expected => validateSha256 expected
  archiveInvalidWhen (file.byteLength = 0 ∨ maxArchiveBytes .codecPack < file.byteLength)
  file.preflighted
  refuseWhen (∃ expected ∈ expectedSha256, expected ≠ file.sha256) .integrityFailed
  let archive ← file.opened
  crates.preparePlanned archive file.byteLength file.sha256 expectedKind

namespace PackageTree

def empty : PackageTree where
  entries := []
  distinct := List.nodup_nil
  rooted _ member := nomatch member

/-- What the tree holds once an entry stands at a fresh path in an existing directory. -/
def extended (tree : PackageTree) (path : String) (entry : TreeEntry)
    (fresh : path ∉ tree.entries.map Prod.fst)
    (beneath : ∀ parent ∈ parentsOf path, (parent, .directory) ∈ tree.entries) : PackageTree where
  entries := tree.entries ++ [(path, entry)]
  distinct := by
    rw [List.map_append, List.map_cons, List.map_nil]
    exact List.Nodup.append tree.distinct (List.nodup_singleton path)
      (List.disjoint_singleton.mpr fresh)
  rooted := by
    intro other member parent above
    rw [List.mem_append, List.mem_singleton] at member
    cases member with
    | inl old => exact List.mem_append_left _ (tree.rooted other old parent above)
    | inr new =>
      subst new
      exact List.mem_append_left _ (beneath parent above)

/-- Creates an entry, which fails when the path is taken or its directory is missing. -/
def create (tree : PackageTree) (path : String) (entry : TreeEntry) :
    Except ErrorCode PackageTree :=
  if fresh : path ∉ tree.entries.map Prod.fst then
    if beneath : ∀ parent ∈ parentsOf path, (parent, .directory) ∈ tree.entries then
      .ok (tree.extended path entry fresh beneath)
    else .error .io
  else .error .io

/-- `fs::create_dir_all`, given the prefixes of the path. -/
def createDirAll (tree : PackageTree) : List String → Except ErrorCode PackageTree
  | [] => .ok tree
  | path :: paths => do
      let next ← match tree.at path with
        | some .directory => .ok tree
        | some _ => .error .io
        | none => tree.create path .directory
      next.createDirAll paths

end PackageTree

/-- One planned entry of `extract_prepared`. -/
def Crates.extractEntry (crates : Crates) (prepared : PreparedPackage) (tree : PackageTree)
    (planned : ArchiveEntryPlan) : Except ErrorCode PackageTree :=
  if planned.directory then tree.createDirAll (prefixesOf planned.path)
  else do
    let housed ← tree.createDirAll (parentsOf planned.path)
    let entry ← orError prepared.archive[planned.index]? .archiveInvalid
    let bytes ← orError entry.contents .io
    refuseWhen (planned.byteLength < bytes.length) .integrityFailed
    let expected ← orError (prepared.files.lookup planned.path) .integrityFailed
    refuseWhen (bytes.length ≠ expected.byteLength ∨ crates.sha256 bytes ≠ expected.sha256)
      .integrityFailed
    housed.create planned.path (.file bytes)

/-- The loop of `extract_prepared`. -/
def Crates.extractFrom (crates : Crates) (prepared : PreparedPackage) :
    PackageTree → List ArchiveEntryPlan → Except ErrorCode PackageTree
  | tree, [] => .ok tree
  | tree, planned :: plan => do
      let next ← crates.extractEntry prepared tree planned
      crates.extractFrom prepared next plan

/-- `extract_prepared` into an empty directory. -/
def Crates.extractPrepared (crates : Crates) (prepared : PreparedPackage) :
    Except ErrorCode PackageTree := do
  let tree ← crates.extractFrom prepared .empty prepared.plan
  let validated ← crates.validateDirectory tree (some prepared.manifest.kind)
  refuseWhen (validated.files ≠ prepared.files ∨ validated.manifest ≠ prepared.manifest ∨
    validated.manifestSha256 ≠ prepared.inspection.manifestSha256 ∨
    validated.integrityCatalogSha256 ≠ prepared.inspection.integrityCatalogSha256) .integrityFailed
  .ok tree

end LatentDeck.Packages
