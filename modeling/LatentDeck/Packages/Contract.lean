import LatentDeck.Library.SortedMap
import LatentDeck.Packages.Schema
import Mathlib.Data.Finset.Dedup
import Mathlib.Data.Finset.Union
import Mathlib.Data.List.Sort
import Mathlib.Data.String.Basic

/-!
# The contract of a package tree

A package is a closed tree of files: a control manifest, the integrity catalog that it names by
hash, and exactly the files that the catalog describes. The contract is checked on a source
directory, on an archive and on an installed tree. A read that fails is left to the store; here a
tree is what a complete read of it gives.
-/

namespace LatentDeck.Packages

open Fallible

def maxArchiveEntries : Nat := maxCodecFiles
def maxTreeDepth : Nat := 256

/-- What a path below the root of a tree leads to. -/
inductive TreeEntry where
  | file (bytes : Bytes)
  | directory
  | reparse
  | special
  deriving DecidableEq

def joined (components : List (List Char)) : String :=
  String.ofList (List.intercalate ['/'] components)

/-- The proper prefixes of a path at its separators. -/
def parentsOf (path : String) : List String :=
  (List.range' 1 ((partsOf '/' path).length - 1)).map fun count =>
    joined ((partsOf '/' path).take count)

/-- A directory tree: its entries by portable path, in the order in which a walk meets them. -/
structure PackageTree where
  entries : List (String × TreeEntry)
  distinct : (entries.map Prod.fst).Nodup
  rooted : ∀ entry ∈ entries, ∀ parent ∈ parentsOf entry.1, (parent, .directory) ∈ entries

def PackageTree.at (tree : PackageTree) (path : String) : Option TreeEntry :=
  tree.entries.lookup path

def impliedDirectories (paths : List String) : Finset String := (paths.flatMap parentsOf).toFinset

structure ExpectedDirectoryLayout where
  kind : PackageKind
  files : List String
  directories : Finset String

/-- What a walk observed: the files with their bytes, and the directories. -/
structure Observed where
  files : List (String × Bytes)
  directories : Finset String

/-- One entry of `scan_directory`. -/
def scanEntry (expected : ExpectedDirectoryLayout) (observed : Observed)
    (entry : String × TreeEntry) : Except ErrorCode Observed := do
  let (path, found) := entry
  refuseWhen (found = .reparse) .lifecycleConflict
  validatePortableRelativePath path (found = .directory)
  match found with
  | .directory => do
      refuseWhen (path ∉ expected.directories) .integrityFailed
      refuseWhen (maxTreeDepth < (partsOf '/' path).length) .integrityFailed
      .ok { observed with directories := insert path observed.directories }
  | .file bytes => do
      if expected.kind = .deckPack then validateDeckFileExtension path else .ok ()
      refuseWhen (path ∉ expected.files) .integrityFailed
      refuseWhen (maxArchiveEntries < observed.files.length + 1) .integrityFailed
      .ok { observed with files := observed.files ++ [(path, bytes)] }
  | _ => .error .lifecycleConflict

/-- The loop of `scan_directory` from what was observed so far. -/
def scanFrom (expected : ExpectedDirectoryLayout) :
    Observed → List (String × TreeEntry) → Except ErrorCode Observed
  | observed, [] => .ok observed
  | observed, entry :: entries => do
      let next ← scanEntry expected observed entry
      scanFrom expected next entries

/-- `scan_directory` from the root of a tree. -/
def scanDirectory (expected : ExpectedDirectoryLayout) (tree : PackageTree) :
    Except ErrorCode Observed :=
  scanFrom expected { files := [], directories := ∅ } tree.entries

abbrev MeasuredFiles : Type := SortedMap String FileMeasurement

abbrev RetainedContents : Type := SortedMap String Bytes

structure ValidatedDirectory where
  manifest : PackageManifest
  files : MeasuredFiles
  manifestSha256 : String
  integrityCatalogSha256 : String
  extractedByteLength : Nat

/-- Whether the bytes of a file are retained for the contract. -/
def keepsBytes (kind : PackageKind) (path : String) : Bool :=
  kind == .deckPack || path == kind.manifestName || path == integrityName

def Crates.measure (crates : Crates) (file : String × Bytes) : FileMeasurement where
  path := file.1
  byteLength := file.2.length
  sha256 := crates.sha256 file.2

def Crates.measureFiles (crates : Crates) (files : List (String × Bytes)) : MeasuredFiles :=
  files.foldl (fun measured file => measured.insert file.1 (crates.measure file)) SortedMap.empty

def retainContents (kind : PackageKind) (files : List (String × Bytes)) : RetainedContents :=
  files.foldl (fun contents file =>
    if keepsBytes kind file.1 then contents.insert file.1 file.2 else contents) SortedMap.empty

def requireCatalogued (files : MeasuredFiles) (path : String) : Except ErrorCode Unit :=
  refuseWhen (path = integrityName ∨ path.toList.getLast? = some '/' ∨ files.lookup path = none)
    .integrityFailed

def modulePath (entrypoint : String) : String :=
  String.ofList ((entrypoint.toList.takeWhile (· ≠ ':')).map fun char =>
    if char = '.' then '/' else char)

/-- Whether a module or a package stands below a root. -/
def hasModule (files : MeasuredFiles) (beneath module : String) : Bool :=
  (files.lookup (beneath ++ module ++ ".py")).isSome ||
    (files.lookup (beneath ++ module ++ "/__init__.py")).isSome

def requirePythonEntrypoint (files : MeasuredFiles) (pythonRoot entrypoint : String) :
    Except ErrorCode Unit :=
  refuseWhen (¬ hasModule files (if pythonRoot = "." then "" else pythonRoot ++ "/")
    (modulePath entrypoint)) .integrityFailed

/-- `trim_end_matches('/')`. -/
def trimSeparators (path : String) : String :=
  String.ofList (path.toList.reverse.dropWhile (· = '/')).reverse

def requireCodecPythonEntrypoint (files : MeasuredFiles) (workingDirectory entrypoint : String) :
    Except ErrorCode Unit :=
  let packRoot := trimSeparators workingDirectory
  refuseWhen (¬ (hasModule files (packRoot ++ "/") (modulePath entrypoint) ||
    hasModule files (packRoot ++ "/Lib/site-packages/") (modulePath entrypoint))) .integrityFailed

def pngSignature : Bytes := [0x89, 0x50, 0x4e, 0x47, 0x0d, 0x0a, 0x1a, 0x0a]

def isUtf8 (bytes : Bytes) : Bool := (String.fromUTF8? ⟨bytes.toArray⟩).isSome

/-- One file of `validate_deck_contents`. -/
def validateDeckContent (crates : Crates) (file : String × Bytes) : Except ErrorCode Unit :=
  match String.ofList (extensionOf file.1) with
  | "json" =>
      invalidWhen (file.2 = [] ∨ maxJsonBytes < file.2.length ∨ ¬ crates.isStrictJson file.2)
  | "py" | "typed" | "txt" | "md" => invalidWhen (¬ isUtf8 file.2 ∨ 0 ∈ file.2)
  | "png" => invalidWhen (¬ pngSignature <+: file.2)
  -- the extensions of all files were checked before
  | _ => .ok ()

def sumFileLengths (files : MeasuredFiles) : Except ErrorCode Nat :=
  let total := (files.values.map FileMeasurement.byteLength).sum
  if u64Max < total then .error .integrityFailed else .ok total

namespace Crates

variable (crates : Crates)

def validateManifestFiles (manifest : PackageManifest) (files : MeasuredFiles)
    (contents : RetainedContents) : Except ErrorCode Unit :=
  match manifest with
  | .deck deck => do
      requireCatalogued files deck.runtime.operatorDescriptorPath
      requireCatalogued files deck.faceplatePath
      checkEach (validateDeckContent crates) contents.entries
      requirePythonEntrypoint files deck.runtime.pythonRoot deck.runtime.entrypoint
  | .codec codec => do
      requireCatalogued files codec.worker.executable
      let runtimeLock ← orError (files.lookup codec.runtimeLock.path) .integrityFailed
      refuseWhen (runtimeLock.sha256 ≠ codec.runtimeLock.sha256) .integrityFailed
      requireCodecPythonEntrypoint files codec.worker.workingDirectory codec.adapter.entrypoint

/-- The comparison of a described file with the measured one. -/
def checkDescribed (files : MeasuredFiles) (described : IntegrityFile) : Except ErrorCode Unit := do
  let measured ← orError (files.lookup described.path) .integrityFailed
  refuseWhen (measured.byteLength ≠ described.byteLength ∨ measured.sha256 ≠ described.sha256)
    .integrityFailed

def validateContract (kind : PackageKind) (files : MeasuredFiles)
    (explicitDirectories : Finset String) (contents : RetainedContents) :
    Except ErrorCode ValidatedDirectory := do
  let manifestBytes ← orError (contents.lookup kind.manifestName) .manifestInvalid
  let catalogBytes ← orError (contents.lookup integrityName) .manifestInvalid
  let manifest ← crates.parseManifest kind manifestBytes
  let catalogHash := crates.sha256 catalogBytes
  refuseWhen (manifest.integrity.catalogSha256 ≠ catalogHash) .integrityFailed
  let catalog ← crates.parseIntegrityCatalog catalogBytes kind
  refuseWhen (catalog.files.length + 2 ≠ files.length) .integrityFailed
  checkEach (checkDescribed files) catalog.files
  refuseWhen (∃ path ∈ files.keys, path ≠ kind.manifestName ∧ path ≠ integrityName ∧
    path ∉ catalog.files.map IntegrityFile.path) .integrityFailed
  refuseWhen (¬ explicitDirectories ⊆ impliedDirectories files.keys) .integrityFailed
  requireCatalogued files manifest.license.noticePath
  crates.validateManifestFiles manifest files contents
  let extractedByteLength ← sumFileLengths files
  .ok {
    manifest
    files
    manifestSha256 := crates.sha256 manifestBytes
    integrityCatalogSha256 := catalogHash
    extractedByteLength }

end Crates

def detectKindFromPaths (paths : List String) : Except ErrorCode PackageKind :=
  match decide (PackageKind.deckPack.manifestName ∈ paths),
    decide (PackageKind.codecPack.manifestName ∈ paths) with
  | true, false => .ok .deckPack
  | false, true => .ok .codecPack
  | _, _ => .error .manifestInvalid

/-- The control manifests at the root of a tree. -/
def rootControls (tree : PackageTree) : List PackageKind → Except ErrorCode (List String)
  | [] => .ok []
  | kind :: kinds => do
      let rest ← match tree.at kind.manifestName with
        | some (.file _) => .ok [kind.manifestName]
        | some _ => .error .lifecycleConflict
        | none => .ok []
      let others ← rootControls tree kinds
      .ok (rest ++ others)

def readBoundedControlFile (tree : PackageTree) (name : String) : Except ErrorCode Bytes :=
  match tree.at name with
  | none => .error .io
  | some (.file bytes) => do
      invalidWhen (maxJsonBytes < bytes.length)
      .ok bytes
  | some _ => .error .lifecycleConflict

/-- The loop of `validate_directory` over the observed files, in the order of their paths. -/
def checkObserved (kind : PackageKind) :
    Nat → List (String × Bytes) → Except ErrorCode Nat
  | extracted, [] => .ok extracted
  | extracted, file :: files => do
      if kind = .deckPack then validateDeckFileExtension file.1 else .ok ()
      refuseWhen (kind = .deckPack ∧ maxDeckFileBytes < file.2.length) .integrityFailed
      refuseWhen (u64Max < extracted + file.2.length) .integrityFailed
      refuseWhen (maxExtractedBytes kind < extracted + file.2.length) .integrityFailed
      invalidWhen (keepsBytes kind file.1 ∧ maxJsonBytes < file.2.length ∧ kind = .codecPack)
      checkObserved kind (extracted + file.2.length) files

def validateDirectorySnapshot (tree : PackageTree) (kind : PackageKind)
    (expectedFiles : MeasuredFiles) : Except ErrorCode Unit := do
  let directories := impliedDirectories expectedFiles.keys
  let observed ← scanDirectory { kind, files := expectedFiles.keys, directories } tree
  refuseWhen (observed.directories ≠ directories ∨ observed.files.length ≠ expectedFiles.length)
    .integrityFailed
  checkEach (fun file => do
    let expected ← orError (expectedFiles.lookup file.1) .integrityFailed
    refuseWhen (file.2.length ≠ expected.byteLength) .integrityFailed) observed.files

namespace Crates

variable (crates : Crates)

def expectedDirectoryLayout (tree : PackageTree) (expectedKind : Option PackageKind) :
    Except ErrorCode ExpectedDirectoryLayout := do
  let controls ← rootControls tree [.deckPack, .codecPack]
  let kind ← detectKindFromPaths controls
  invalidWhen (∃ expected ∈ expectedKind, expected ≠ kind)
  let manifestBytes ← readBoundedControlFile tree kind.manifestName
  let manifest ← crates.parseManifest kind manifestBytes
  let catalogBytes ← readBoundedControlFile tree integrityName
  refuseWhen (crates.sha256 catalogBytes ≠ manifest.integrity.catalogSha256) .integrityFailed
  let catalog ← crates.parseIntegrityCatalog catalogBytes kind
  let files := kind.manifestName :: integrityName :: catalog.files.map IntegrityFile.path
  .ok { kind, files, directories := impliedDirectories files }

def validateDirectory (tree : PackageTree) (expectedKind : Option PackageKind) :
    Except ErrorCode ValidatedDirectory := do
  let expected ← crates.expectedDirectoryLayout tree expectedKind
  let observed ← scanDirectory expected tree
  let sorted := observed.files.insertionSort fun left right => left.1 ≤ right.1
  let kind := expected.kind
  refuseWhen (sorted = [] ∨ maxFiles kind < sorted.length) .integrityFailed
  let extracted ← checkObserved kind 0 sorted
  let files := crates.measureFiles sorted
  let validated ← crates.validateContract kind files observed.directories
    (retainContents kind sorted)
  validateDirectorySnapshot tree kind validated.files
  .ok { validated with extractedByteLength := extracted }

end Crates

/-- `open_and_measure_control_file`. -/
def openControlFile (tree : PackageTree) (name : String) : Except ErrorCode Bytes :=
  match tree.at name with
  | some (.file bytes) => do
      invalidWhen (maxJsonBytes < bytes.length)
      .ok bytes
  | _ => .error .integrityFailed

/-- The length check that replaces hashing below a runtime seal. -/
def checkSealedLength (tree : PackageTree) (described : IntegrityFile) : Except ErrorCode Unit :=
  match tree.at described.path with
  | some (.file bytes) => refuseWhen (bytes.length ≠ described.byteLength) .integrityFailed
  | _ => .error .integrityFailed

namespace Crates

variable (crates : Crates)

/-- One job of `hash_pinned_jobs`. -/
def hashPinned (tree : PackageTree) (described : IntegrityFile) :
    Except ErrorCode (String × Bytes) :=
  match tree.at described.path with
  | some (.file bytes) => do
      refuseWhen (bytes.length ≠ described.byteLength) .integrityFailed
      refuseWhen (crates.sha256 bytes ≠ described.sha256) .integrityFailed
      .ok (described.path, bytes)
  | _ => .error .integrityFailed

/-- The files that a catalog describes, with the measured control files. -/
def expectedFiles (controls : List (String × Bytes)) (catalog : IntegrityCatalog) : MeasuredFiles :=
  catalog.files.foldl (fun measured described => measured.insert described.path
    { path := described.path, byteLength := described.byteLength, sha256 := described.sha256 })
    (crates.measureFiles controls)

/-- The control files that pinning reads, with the manifest and the catalog in them. -/
def pinControls (tree : PackageTree) (kind : PackageKind) :
    Except ErrorCode (List (String × Bytes) × PackageManifest × IntegrityCatalog) := do
  let manifestBytes ← openControlFile tree kind.manifestName
  let manifest ← crates.parseManifest kind manifestBytes
  let catalogBytes ← openControlFile tree integrityName
  refuseWhen (crates.sha256 catalogBytes ≠ manifest.integrity.catalogSha256) .integrityFailed
  let catalog ← crates.parseIntegrityCatalog catalogBytes kind
  .ok ([(kind.manifestName, manifestBytes), (integrityName, catalogBytes)], manifest, catalog)

def pinAndValidatePackageTree (tree : PackageTree) (kind : PackageKind) :
    Except ErrorCode ValidatedDirectory := do
  let (controls, manifest, catalog) ← crates.pinControls tree kind
  validateDirectorySnapshot tree kind (crates.expectedFiles controls catalog)
  let payloads ← catalog.files.mapM (crates.hashPinned tree)
  let files := crates.measureFiles (controls ++ payloads)
  let validated ← crates.validateContract kind files (impliedDirectories files.keys)
    (retainContents kind (controls ++ payloads))
  refuseWhen (validated.manifest ≠ manifest) .integrityFailed
  validateDirectorySnapshot tree kind validated.files
  .ok validated

def pinCodecTreeWithoutPayloadHash (tree : PackageTree) : Except ErrorCode ValidatedDirectory := do
  let (controls, manifest, catalog) ← crates.pinControls tree .codecPack
  let expected := crates.expectedFiles controls catalog
  validateDirectorySnapshot tree .codecPack expected
  checkEach (checkSealedLength tree) catalog.files
  let validated ← crates.validateContract .codecPack expected (impliedDirectories expected.keys)
    (retainContents .codecPack controls)
  refuseWhen (validated.manifest ≠ manifest) .integrityFailed
  validateDirectorySnapshot tree .codecPack validated.files
  .ok validated

end Crates

/-- The files of a sample deck package besides its control files. -/
def sampleFiles : List (String × Bytes) :=
  [("NOTICE.md", "Sample notice\n".toUTF8.data.toList),
    ("faceplate.json", "\x7b\x7d".toUTF8.data.toList),
    ("operator.json", "\x7b\x7d".toUTF8.data.toList),
    ("python/op.py", "run = None\n".toUTF8.data.toList)]

def noticeSha256 : String := "586980d46e2f8b4b44f6977961b9740c0042154284ced5335847de42184fb5cf"
def objectSha256 : String := "44136fa355b3678a1146ad16f7e8649e94fb4fc21fe77e8310c060f61caaff8a"
def operatorSha256 : String := "eb69efd47fc5d2f3dc372eb7f697d3c9d8fcd1bf0378559bdbe2426003555577"
def catalogSha256 : String := "7d23d9b169aa59d9087b563e6f7ecb4c968f64e98c91a128b4cd69569a6ac0c2"

def sampleCatalog : IntegrityCatalog where
  manifestVersion := "1.0.0"
  files := [⟨"NOTICE.md", 14, noticeSha256⟩, ⟨"faceplate.json", 2, objectSha256⟩,
    ⟨"operator.json", 2, objectSha256⟩, ⟨"python/op.py", 11, operatorSha256⟩]

/-- One described file in the text of the catalog. -/
def describedText (length path sha256 : String) : List String :=
  ["\x7b\"byte_length\":", length, ",\"path\":\"", path, "\",\"sha256\":\"", sha256, "\"\x7d"]

def catalogText : List String :=
  ["\x7b\"files\":["] ++ describedText "14" "NOTICE.md" noticeSha256 ++ [","] ++
    describedText "2" "faceplate.json" objectSha256 ++ [","] ++
    describedText "2" "operator.json" objectSha256 ++ [","] ++
    describedText "11" "python/op.py" operatorSha256 ++ ["],\"manifest_version\":\"1.0.0\"\x7d"]

def sampleManifest (version : String) : DeckPackManifest where
  manifestVersion := "1.0.0"
  kind := .deckPack
  deckId := "com.sample"
  deckVersion := version
  displayName := "S"
  summary := "S"
  publisher := ⟨"P", none, .selfDeclared⟩
  license := ⟨"MIT", "NOTICE.md"⟩
  compatibility := {
    appMinInclusive := "0.1.0"
    appMaxExclusive := "1.0.0"
    deckHostApi := 1
    workerProtocol := 2
    deckOperatorApi := 1
    tensorAbi := "latentdeck.tensor.v1"
    python := ⟨.cpython, "3.13", "win_amd64"⟩
    torchExactBuild := "2.9.0" }
  runtime := ⟨.pythonOperatorStreamV1, "operator.json", "python", "op:run"⟩
  signal := {
    slots := 1
    roles := [⟨"a", "A"⟩]
    defaultPermutation := ["a"]
    structuralCarrierRole := "a"
    geometryAllowlist := [⟨.fp16, .cuda, 1, 24, 1, 8, 8⟩]
    timing := ⟨24, 1, 4⟩
    requiredCapabilities := [.realtime]
    profileAllowlist := none }
  faceplatePath := "faceplate.json"
  integrity := ⟨"integrity.json", catalogSha256⟩

def manifestText (version : String) : List String :=
  ["\x7b\"compatibility\":\x7b\"app_max_exclusive\":\"1.0.0\",\"app_min_inclusive\":\"0.1.0\",",
    "\"deck_host_api\":1,\"deck_operator_api\":1,\"python\":\x7b\"implementation\":\"cpython\",",
    "\"platform_tag\":\"win_amd64\",\"version\":\"3.13\"\x7d,",
    "\"tensor_abi\":\"latentdeck.tensor.v1\",\"torch_exact_build\":\"2.9.0\",",
    "\"worker_protocol\":2\x7d,\"deck_id\":\"com.sample\",\"deck_version\":\"", version,
    "\",\"display_name\":\"S\",\"faceplate_path\":\"faceplate.json\",",
    "\"integrity\":\x7b\"catalog_path\":\"integrity.json\",\"catalog_sha256\":\"", catalogSha256,
    "\"\x7d,\"kind\":\"deck_pack\",\"license\":\x7b\"notice_path\":\"NOTICE.md\",",
    "\"spdx_or_label\":\"MIT\"\x7d,\"manifest_version\":\"1.0.0\",",
    "\"publisher\":\x7b\"identity_claim\":\"self_declared\",\"name\":\"P\",\"url\":null\x7d,",
    "\"runtime\":\x7b\"entrypoint\":\"op:run\",\"kind\":\"python_operator_stream_v1\",",
    "\"operator_descriptor_path\":\"operator.json\",\"python_root\":\"python\"\x7d,",
    "\"signal\":\x7b\"default_permutation\":[\"a\"],\"geometry_allowlist\":[\x7b\"batch\":1,",
    "\"channels\":24,\"device\":\"cuda\",\"dtype\":\"fp16\",\"height\":8,\"temporal\":1,",
    "\"width\":8\x7d],\"profile_allowlist\":null,\"required_capabilities\":[\"realtime\"],",
    "\"roles\":[\x7b\"display_name\":\"A\",\"role_id\":\"a\"\x7d],\"slots\":1,",
    "\"structural_carrier_role\":\"a\",\"timing\":\x7b\"frames_per_second_denominator\":1,",
    "\"frames_per_second_numerator\":24,\"samples_per_slot\":4\x7d\x7d,\"summary\":\"S\"\x7d"]

def piecesBytes (pieces : List String) : Bytes := pieces.flatMap fun piece => piece.toUTF8.data.toList

def manifestSha256Of (version : String) : String :=
  if version = "1.0.0" then "b3a7d37fd7429942923a68c4a157d30222dbaf2f6aaa08876199745eab388b82"
  else "6799068252aa316915d00a0b7f4f9fcb5bd79998ae2b884d649b366ed72c4d9a"

def sampleSha256 (bytes : Bytes) : String :=
  if bytes = "Sample notice\n".toUTF8.data.toList then noticeSha256
  else if bytes = "\x7b\x7d".toUTF8.data.toList then objectSha256
  else if bytes = "run = None\n".toUTF8.data.toList then operatorSha256
  else if bytes = piecesBytes catalogText then catalogSha256
  else if bytes = piecesBytes (manifestText "1.0.0") then manifestSha256Of "1.0.0"
  else if bytes = piecesBytes (manifestText "2.0.0") then manifestSha256Of "2.0.0"
  else zeroSha256

theorem isSha256_ite (condition : Prop) [Decidable condition] (first second : String)
    (left : isSha256 first = true) (right : isSha256 second = true) :
    isSha256 (if condition then first else second) = true := by
  by_cases met : condition
  · rw [if_pos met]
    exact left
  · rw [if_neg met]
    exact right

/-- The crates on the contents of the sample. -/
def sampleCrates : Crates where
  Version := String
  parseVersion text :=
    if text ∈ ["0.1.0", "1.0.0", "2.0.0", "2.9.0"] then some text else none
  renderVersion version := version
  before first second := decide (first < second)
  sha256 := sampleSha256
  sha256_canonical bytes :=
    isSha256_ite _ _ _ (by decide +kernel) (isSha256_ite _ _ _ (by decide +kernel)
      (isSha256_ite _ _ _ (by decide +kernel) (isSha256_ite _ _ _ (by decide +kernel)
        (isSha256_ite _ _ _ (by decide +kernel) (isSha256_ite _ _ _ (by decide +kernel)
          isSha256_zeros)))))
  decodeDeckManifest bytes :=
    if bytes = piecesBytes (manifestText "1.0.0") then some (sampleManifest "1.0.0")
    else if bytes = piecesBytes (manifestText "2.0.0") then some (sampleManifest "2.0.0") else none
  decodeCodecManifest _ := none
  decodeIntegrityCatalog bytes :=
    if bytes = piecesBytes catalogText then some sampleCatalog else none
  isStrictJson bytes :=
    bytes == piecesBytes catalogText || bytes == "\x7b\x7d".toUTF8.data.toList ||
      bytes == piecesBytes (manifestText "1.0.0") || bytes == piecesBytes (manifestText "2.0.0")
  isRfc3339 text := text == "2025-01-01T00:00:00Z"

end LatentDeck.Packages
