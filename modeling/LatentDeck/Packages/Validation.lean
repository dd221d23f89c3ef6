import LatentDeck.Packages.Lifecycle

/-!
# What a validated package tells

The files of a validated package are measured and retained together, so the hashes that a validation
reports are the recorded hashes of the control files. Two packages with the same files therefore have
the same hashes.
-/

namespace LatentDeck.Packages

open Fallible

section Hashes

variable (crates : Crates)

theorem keepsBytes_manifest (kind : PackageKind) : keepsBytes kind kind.manifestName = true := by
  simp [keepsBytes]

theorem keepsBytes_catalog (kind : PackageKind) : keepsBytes kind integrityName = true := by
  simp [keepsBytes]

/-- Measured files and retained contents agree on a retained path. -/
theorem measured_retained (kind : PackageKind) (name : String) (keeps : keepsBytes kind name = true)
    (files : List (String × Bytes)) (measured : MeasuredFiles) (contents : RetainedContents)
    (agree : measured.lookup name =
      (contents.lookup name).map fun bytes => crates.measure (name, bytes)) :
    (files.foldl (fun measured file => measured.insert file.1 (crates.measure file))
        measured).lookup name =
      ((files.foldl (fun contents file =>
        if keepsBytes kind file.1 then contents.insert file.1 file.2 else contents)
          contents).lookup name).map fun bytes => crates.measure (name, bytes) := by
  induction files generalizing measured contents with
  | nil => exact agree
  | cons file files ih =>
    rw [List.foldl_cons, List.foldl_cons]
    apply ih
    rw [SortedMap.lookup_insert]
    by_cases here : name = file.1
    · have retained : keepsBytes kind file.1 = true := here ▸ keeps
      rw [if_pos here, if_pos retained, SortedMap.lookup_insert, if_pos here, here]
      rfl
    · rw [if_neg here, agree]
      by_cases retained : keepsBytes kind file.1 = true
      · rw [if_pos retained, SortedMap.lookup_insert, if_neg here]
      · rw [if_neg retained]

variable {kind : PackageKind}

theorem measureFiles_lookup {name : String}
    (keeps : keepsBytes kind name = true) (files : List (String × Bytes)) {bytes : Bytes}
    (retained : (retainContents kind files).lookup name = some bytes) :
    (crates.measureFiles files).lookup name = some (crates.measure (name, bytes)) := by
  have agree := measured_retained crates kind name keeps files SortedMap.empty SortedMap.empty rfl
  rw [Crates.measureFiles, agree]
  exact congrArg (Option.map _) retained

/-- What the contract establishes about the control files of a package. -/
structure ControlFiles (kind : PackageKind) (files : MeasuredFiles)
    (contents : RetainedContents) (validated : ValidatedDirectory) : Prop where
  manifest : ∃ bytes, contents.lookup kind.manifestName = some bytes ∧
    crates.parseManifest kind bytes = .ok validated.manifest ∧
    validated.manifestSha256 = crates.sha256 bytes
  /-- The hash of the catalog is that of its bytes and the one that the manifest names. -/
  catalog : ∃ bytes, contents.lookup integrityName = some bytes ∧
    validated.integrityCatalogSha256 = crates.sha256 bytes ∧
    validated.manifest.integrity.catalogSha256 = crates.sha256 bytes
  files : validated.files = files

variable {validated : ValidatedDirectory}

/-- The contract establishes the facts about the control files. -/
theorem validateContract_controls {files : MeasuredFiles}
    {directories : Finset String} {contents : RetainedContents}
    (accepted : crates.validateContract kind files directories contents = .ok validated) :
    ControlFiles crates kind files contents validated := by
  rw [Crates.validateContract, bind_eq_ok] at accepted
  obtain ⟨manifestBytes, manifestFound, rest⟩ := accepted
  obtain ⟨catalogBytes, catalogFound, rest⟩ := ok_of_bind rest
  obtain ⟨manifest, parsed, rest⟩ := ok_of_bind rest
  rw [check_eq_ok, refuseWhen_eq_ok, bind_eq_ok] at rest
  obtain ⟨named, catalog, _, rest⟩ := rest
  iterate 6 rw [check_eq_ok] at rest
  rw [bind_eq_ok] at rest
  obtain ⟨_, _, _, _, _, _, length, _, made⟩ := rest
  cases made
  exact ⟨⟨manifestBytes, (orError_eq_ok ..).mp manifestFound, parsed, rfl⟩,
    ⟨catalogBytes, (orError_eq_ok ..).mp catalogFound, rfl, not_not.mp named⟩, rfl⟩

/-- The two hashes are those recorded for the control files of a package. -/
def Recorded (kind : PackageKind) (files : MeasuredFiles) (manifest catalog : String) : Prop :=
  some manifest = (files.lookup kind.manifestName).map FileMeasurement.sha256 ∧
    some catalog = (files.lookup integrityName).map FileMeasurement.sha256

/-- The hashes that a validation reports are those recorded for its control files. -/
theorem ControlFiles.hashes {measured : List (String × Bytes)}
    (controls : ControlFiles crates kind (crates.measureFiles measured)
      (retainContents kind measured) validated) :
    Recorded kind validated.files validated.manifestSha256 validated.integrityCatalogSha256 := by
  obtain ⟨manifestBytes, manifestFound, _, manifestHash⟩ := controls.manifest
  obtain ⟨catalogBytes, catalogFound, catalogHash, _⟩ := controls.catalog
  rw [Recorded, controls.files, measureFiles_lookup crates (keepsBytes_manifest kind) measured manifestFound,
    measureFiles_lookup crates (keepsBytes_catalog kind) measured catalogFound, manifestHash,
    catalogHash]
  exact ⟨rfl, rfl⟩

/-- A manifest is parsed to the kind it was parsed for. -/
theorem parseManifest_kind {bytes : Bytes} {manifest : PackageManifest}
    (parsed : crates.parseManifest kind bytes = .ok manifest) : manifest.kind = kind := by
  cases kind with
  | deckPack =>
    rw [Crates.parseManifest, bind_eq_ok] at parsed
    obtain ⟨deck, _, rest⟩ := parsed
    rw [check_eq_ok] at rest
    cases rest.2
    rfl
  | codecPack =>
    rw [Crates.parseManifest, bind_eq_ok] at parsed
    obtain ⟨codec, _, rest⟩ := parsed
    rw [check_eq_ok] at rest
    cases rest.2
    rfl

variable {expectedKind : Option PackageKind}

/-- The hashes that a validation of a directory reports are those recorded for its control
files. -/
theorem validateDirectory_hashes {tree : PackageTree}
    (accepted : crates.validateDirectory tree expectedKind = .ok validated) :
    Recorded validated.manifest.kind validated.files validated.manifestSha256
      validated.integrityCatalogSha256 := by
  rw [Crates.validateDirectory, bind_eq_ok] at accepted
  obtain ⟨expected, _, rest⟩ := accepted
  obtain ⟨observed, _, rest⟩ := ok_of_bind rest
  rw [check_eq_ok, bind_eq_ok] at rest
  obtain ⟨_, extracted, _, rest⟩ := rest
  obtain ⟨inner, contract, rest⟩ := ok_of_bind rest
  rw [check_eq_ok] at rest
  cases rest.2
  have controls := validateContract_controls crates contract
  obtain ⟨_, _, parsed, _⟩ := controls.manifest
  rw [parseManifest_kind crates parsed]
  exact controls.hashes crates

variable {prepared : PreparedPackage}

/-- A preparation reports this archive, and the hashes recorded for its control files. -/
def Reports (prepared : PreparedPackage) (sha256 : String) (byteLength : Nat) : Prop :=
  prepared.inspection.archiveSha256 = sha256 ∧
    prepared.inspection.archiveByteLength = byteLength ∧
      Recorded prepared.manifest.kind prepared.files prepared.inspection.manifestSha256
        prepared.inspection.integrityCatalogSha256

theorem preparePlanned_inspection {archive : ZipArchive} {byteLength : Nat} {sha256 : String}
    (made : crates.preparePlanned archive byteLength sha256 expectedKind = .ok prepared) :
    Reports prepared sha256 byteLength := by
  rw [Crates.preparePlanned, bind_eq_ok] at made
  obtain ⟨plan, _, rest⟩ := made
  obtain ⟨kind, _, rest⟩ := ok_of_bind rest
  iterate 5 rw [check_eq_ok] at rest
  rw [bind_eq_ok] at rest
  obtain ⟨_, _, _, _, _, measured, _, rest⟩ := rest
  obtain ⟨validated, contract, made⟩ := ok_of_bind rest
  cases made
  have controls := validateContract_controls crates contract
  obtain ⟨_, _, parsed, _⟩ := controls.manifest
  have hashes := controls.hashes crates
  rw [controls.files] at hashes
  rw [Reports, Recorded, parseManifest_kind crates parsed]
  exact ⟨rfl, rfl, hashes⟩

/-- What a preparation reports of an archive file. -/
theorem prepareArchive_inspection {file : ArchiveFile} {expectedSha256 : Option String}
    (made : crates.prepareArchive file expectedSha256 expectedKind = .ok prepared) :
    Reports prepared file.sha256 file.byteLength := by
  have planned : ∃ archive, crates.preparePlanned archive file.byteLength file.sha256
      expectedKind = .ok prepared := by
    unfold Crates.prepareArchive at made
    cases expectedSha256
    all_goals
      dsimp only at made
      iterate 4 rw [check_eq_ok] at made
      rw [bind_eq_ok] at made
      obtain ⟨_, _, _, _, archive, _, rest⟩ := made
      exact ⟨archive, rest⟩
  obtain ⟨archive, rest⟩ := planned
  exact preparePlanned_inspection crates rest

/-- What a preparation reports of the archive of an authorized request. -/
theorem prepareAuthorized_inspection {request : InstallRequest}
    {bundledIndex : Option BundledPackageIndex}
    (authorized : crates.prepareAuthorized request bundledIndex = .ok prepared) :
    Reports prepared request.archive.sha256 request.archive.byteLength := by
  have prepares : ∃ expectedSha256 kind, crates.prepareArchive request.archive expectedSha256 kind =
      .ok prepared := by
    rw [Crates.prepareAuthorized, check_eq_ok] at authorized
    obtain ⟨_, rest⟩ := authorized
    have opened : ∃ kind, (do
        let prepared ← crates.prepareArchive request.archive (some request.expectedSha256)
          (some kind)
        let package := prepared.manifest.reference
        if isReservedPackageId package.packageId then do
          let index ← orError bundledIndex .packageUntrusted
          refuseWhen (¬ index.packages.any fun entry => entry.package == package &&
            entry.archiveSha256 == prepared.inspection.archiveSha256 &&
            entry.archiveSha256 == request.expectedSha256) .packageUntrusted
        else refuseWhen (bundledIndex.isSome = true) .packageUntrusted
        .ok prepared) = .ok prepared := by
      cases bundledIndex
      all_goals
        dsimp only at rest
        rw [check_eq_ok, bind_eq_ok] at rest
        obtain ⟨_, kind, _, rest⟩ := rest
        exact ⟨kind, rest⟩
    obtain ⟨kind, rest⟩ := opened
    obtain ⟨made, prepares, rest⟩ := ok_of_bind rest
    dsimp only at rest
    by_cases reserved : isReservedPackageId made.manifest.reference.packageId = true
    · rw [if_pos reserved, bind_eq_ok] at rest
      obtain ⟨index, _, rest⟩ := rest
      rw [check_eq_ok] at rest
      cases rest.2
      exact ⟨_, _, prepares⟩
    · rw [if_neg reserved, check_eq_ok] at rest
      cases rest.2
      exact ⟨_, _, prepares⟩
  obtain ⟨_, _, made⟩ := prepares
  exact prepareArchive_inspection crates made

end Hashes

end LatentDeck.Packages
