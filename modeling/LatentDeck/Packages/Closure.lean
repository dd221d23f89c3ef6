import LatentDeck.Library.BinarySearch
import LatentDeck.Packages.Contract

/-!
# Closure of a package contract

An accepted package consists of its control manifest, its integrity catalog and the files that the
catalog describes, which are looked up by binary search. The manifest binds the catalog and the
catalog binds the other files, so that only the bytes of the manifest itself can change without
breaking the contract.
-/

namespace LatentDeck.Packages

open Fallible

/-- Whether `validate_contract` finds a path in the catalog. -/
def isCatalogued (catalog : IntegrityCatalog) (path : String) : Bool :=
  (BinarySearch.search (fun file => compare file.path path) catalog.files).toOption.isSome

variable {kind : PackageKind}

/-- The paths of an accepted catalog increase, and none is that of a control file. -/
theorem checkCatalogFiles_sorted {previous : Option String} {start total : Nat}
    {files : List IntegrityFile}
    (accepted : checkCatalogFiles kind previous start files = .ok total) :
    (∀ earlier ∈ previous, ∀ file ∈ files, earlier < file.path) ∧
      (files.Pairwise fun first second => first.path < second.path) ∧
        ∀ file ∈ files, file.path ≠ kind.manifestName ∧ file.path ≠ integrityName := by
  induction files generalizing previous start with
  | nil =>
    exact ⟨nofun, List.Pairwise.nil, nofun⟩
  | cons file files ih =>
    unfold checkCatalogFiles invalidWhen at accepted
    rw [check_eq_ok, check_eq_ok, refuseWhen_eq_ok, check_eq_ok, refuseWhen_eq_ok, check_eq_ok,
      check_eq_ok, check_eq_ok] at accepted
    obtain ⟨-, payload, later, -, -, -, rest⟩ := accepted
    obtain ⟨above, sorted, payloads⟩ := ih rest
    have first : ∀ other ∈ files, file.path < other.path := above file.path rfl
    refine ⟨?_, List.pairwise_cons.mpr ⟨first, sorted⟩, ?_⟩
    · intro earlier known other among
      have below : earlier < file.path := by
        by_contra late
        exact later ⟨earlier, known, late⟩
      rcases List.mem_cons.mp among with here | after
      · exact here ▸ below
      · exact below.trans (first other after)
    · intro other among
      rcases List.mem_cons.mp among with here | after
      · rw [here]
        exact not_or.mp payload
      · exact payloads other after

variable {catalog : IntegrityCatalog}

theorem parseIntegrityCatalog_sorted {crates : Crates} {bytes : Bytes}
    (parsed : crates.parseIntegrityCatalog bytes kind = .ok catalog) :
    (catalog.files.Pairwise fun first second => first.path < second.path) ∧
      ∀ file ∈ catalog.files, file.path ≠ kind.manifestName ∧ file.path ≠ integrityName := by
  unfold Crates.parseIntegrityCatalog at parsed
  obtain ⟨decoded, -, parsed⟩ := ok_of_bind parsed
  rw [check_eq_ok, check_eq_ok, bind_eq_ok] at parsed
  obtain ⟨-, -, total, checked, parsed⟩ := parsed
  rw [check_eq_ok] at parsed
  rw [← Except.ok.inj parsed.2]
  exact (checkCatalogFiles_sorted checked).2

/-- In an accepted catalog the binary search finds exactly the described paths. -/
theorem isCatalogued_iff
    (sorted : catalog.files.Pairwise fun first second => first.path < second.path) (path : String) :
    isCatalogued catalog path = true ↔ path ∈ catalog.files.map IntegrityFile.path := by
  have fails := BinarySearch.search_fails_iff (BinarySearch.ordered_of_sorted sorted path)
  unfold isCatalogued
  rw [List.mem_map]
  constructor
  · intro found
    by_contra absent
    have different : ∀ file ∈ catalog.files, compare file.path path ≠ .eq := by
      intro file among equal
      exact absent ⟨file, among, compare_eq_iff_eq.mp equal⟩
    obtain ⟨place, failed⟩ := fails.mpr different
    rw [failed] at found
    exact Bool.noConfusion found
  · rintro ⟨file, among, same⟩
    by_contra missed
    have failed : ∃ place, BinarySearch.search (fun file => compare file.path path) catalog.files =
        .error place := by
      cases searched : BinarySearch.search (fun file => compare file.path path) catalog.files with
      | error place => exact ⟨place, rfl⟩
      | ok index =>
        rw [searched] at missed
        exact absurd rfl missed
    exact fails.mp failed file among (compare_eq_iff_eq.mpr same)

namespace Crates

variable (crates : Crates)

/-- `validate_contract` as it stands, with the binary search for the paths of the files. -/
def validateContractSearching (kind : PackageKind) (files : MeasuredFiles)
    (explicitDirectories : Finset String) (contents : RetainedContents) :
    Except ErrorCode ValidatedDirectory := do
  let manifestBytes ← orError (contents.lookup kind.manifestName) .manifestInvalid
  let catalogBytes ← orError (contents.lookup integrityName) .manifestInvalid
  let manifest ← crates.parseManifest kind manifestBytes
  let catalogHash := crates.sha256 catalogBytes
  refuseWhen (manifest.integrity.catalogSha256 ≠ catalogHash) .integrityFailed
  let catalog ← crates.parseIntegrityCatalog catalogBytes kind
  refuseWhen (catalog.files.length + 2 ≠ files.length) .integrityFailed
  checkEach (checkDescribed files) catalog.files
  refuseWhen (∃ path ∈ files.keys, path ≠ kind.manifestName ∧ path ≠ integrityName ∧
    isCatalogued catalog path = false) .integrityFailed
  refuseWhen (¬ explicitDirectories ⊆ impliedDirectories files.keys) .integrityFailed
  requireCatalogued files manifest.license.noticePath
  crates.validateManifestFiles manifest files contents
  let extractedByteLength ← sumFileLengths files
  .ok {
    manifest
    files
    manifestSha256 := crates.sha256 manifestBytes
    integrityCatalogSha256 := catalogHash
    extractedByteLength }

/-- The search makes no difference, since an accepted catalog is sorted. -/
theorem validateContractSearching_eq (kind : PackageKind) (files : MeasuredFiles)
    (directories : Finset String) (contents : RetainedContents) :
    crates.validateContractSearching kind files directories contents =
      crates.validateContract kind files directories contents := by
  unfold validateContractSearching validateContract
  apply bind_congr_ok
  intro manifestBytes _
  apply bind_congr_ok
  intro catalogBytes _
  apply bind_congr_ok
  intro manifest _
  apply bind_congr_ok
  intro _ _
  apply bind_congr_ok
  intro catalog parsed
  have searched := isCatalogued_iff (parseIntegrityCatalog_sorted parsed).1
  simp only [← Bool.not_eq_true, searched]

section Files

variable {crates} {kind : PackageKind} {files : List (String × Bytes)}

section

variable (distinct : (files.map Prod.fst).Nodup)

include distinct

theorem measureFiles_perm :
    (crates.measureFiles files).entries.Perm
      (files.map fun file => (file.1, crates.measure file)) := by
  have all : (crates.measureFiles files).entries.Perm
      ((files.map fun file => (file.1, crates.measure file)) ++ []) :=
    SortedMap.foldl_insert_perm Prod.fst crates.measure distinct
      fun file _ within => List.not_mem_nil within
  rw [List.append_nil] at all
  exact all

theorem measureFiles_lookup_iff (path : String) (measured : FileMeasurement) :
    (crates.measureFiles files).lookup path = some measured ↔
      ∃ bytes, (path, bytes) ∈ files ∧ crates.measure (path, bytes) = measured := by
  rw [SortedMap.lookup_eq_some, (measureFiles_perm distinct).mem_iff, List.mem_map]
  constructor
  · rintro ⟨⟨name, bytes⟩, among, same⟩
    obtain ⟨rfl, rfl⟩ := Prod.mk.inj same
    exact ⟨bytes, among, rfl⟩
  · rintro ⟨bytes, among, rfl⟩
    exact ⟨(path, bytes), among, rfl⟩

theorem measureFiles_keys : (crates.measureFiles files).keys.Perm (files.map Prod.fst) := by
  have entries : (crates.measureFiles files).entries.Perm _ := measureFiles_perm distinct
  have keys := entries.map Prod.fst
  rw [List.map_map] at keys
  exact keys

/-- What is retained at a path is a file of the tree. -/
theorem mem_of_retained {path : String} {bytes : Bytes}
    (retained : (retainContents kind files).lookup path = some bytes) : (path, bytes) ∈ files := by
  have filtered : retainContents kind files =
      (files.filter fun file => keepsBytes kind file.1).foldl
        (fun contents file => contents.insert file.1 file.2) SortedMap.empty := by
    rw [List.foldl_filter]
    rfl
  have apart : ((files.filter fun file => keepsBytes kind file.1).map Prod.fst).Nodup :=
    distinct.sublist (List.filter_sublist.map Prod.fst)
  have all : (retainContents kind files).entries.Perm
      ((files.filter fun file => keepsBytes kind file.1).map (fun file => (file.1, file.2)) ++
        []) := by
    rw [filtered]
    exact SortedMap.foldl_insert_perm Prod.fst Prod.snd apart
      fun file _ within => List.not_mem_nil within
  rw [SortedMap.lookup_eq_some, all.mem_iff, List.append_nil, List.mem_map] at retained
  obtain ⟨file, among, same⟩ := retained
  rw [← same]
  exact List.mem_of_mem_filter among

theorem file_unique {path : String} {first second : Bytes}
    (firstAmong : (path, first) ∈ files) (secondAmong : (path, second) ∈ files) :
    first = second := by
  have same := List.inj_on_of_nodup_map distinct firstAmong secondAmong rfl
  exact (Prod.mk.inj same).2

end

end Files

/-- The files that a manifest names by their paths. -/
def namedFiles : PackageManifest → List String
  | .deck deck =>
      [deck.license.noticePath, deck.runtime.operatorDescriptorPath, deck.faceplatePath]
  | .codec codec => [codec.license.noticePath, codec.worker.executable, codec.runtimeLock.path]

/-- The files of which an entrypoint of a manifest needs one. -/
def entrypointFiles : PackageManifest → List String
  | .deck deck =>
      let beneath :=
        if deck.runtime.pythonRoot = "." then "" else deck.runtime.pythonRoot ++ "/"
      let module := modulePath deck.runtime.entrypoint
      [beneath ++ module ++ ".py", beneath ++ module ++ "/__init__.py"]
  | .codec codec =>
      let packRoot := trimSeparators codec.worker.workingDirectory
      let module := modulePath codec.adapter.entrypoint
      [packRoot ++ "/" ++ module ++ ".py", packRoot ++ "/" ++ module ++ "/__init__.py",
        packRoot ++ "/Lib/site-packages/" ++ module ++ ".py",
        packRoot ++ "/Lib/site-packages/" ++ module ++ "/__init__.py"]

/-- What an accepted contract says of the files of a tree. -/
structure Closes (kind : PackageKind) (files : List (String × Bytes))
    (directories : Finset String) (validated : ValidatedDirectory)
    (manifestBytes catalogBytes : Bytes) (catalog : IntegrityCatalog) : Prop where
  manifestFound : (kind.manifestName, manifestBytes) ∈ files
  catalogFound : (integrityName, catalogBytes) ∈ files
  parsed : crates.parseManifest kind manifestBytes = .ok validated.manifest
  reported : validated.manifestSha256 = crates.sha256 manifestBytes
  bound : validated.manifest.integrity.catalogSha256 = crates.sha256 catalogBytes
  described : crates.parseIntegrityCatalog catalogBytes kind = .ok catalog
  complete : (files.map Prod.fst).Perm
    (kind.manifestName :: integrityName :: catalog.files.map IntegrityFile.path)
  measured : ∀ file ∈ catalog.files, ∃ bytes, (file.path, bytes) ∈ files ∧
    bytes.length = file.byteLength ∧ crates.sha256 bytes = file.sha256
  named : ∀ path ∈ namedFiles validated.manifest, path ∈ files.map Prod.fst
  entered : ∃ path ∈ entrypointFiles validated.manifest, path ∈ files.map Prod.fst
  implied : ∀ directory ∈ directories, ∃ file ∈ files, directory ∈ parentsOf file.1

variable {crates} {path : String}

theorem requireCatalogued_found {files : MeasuredFiles}
    (required : requireCatalogued files path = .ok ()) : path ∈ files.keys := by
  unfold requireCatalogued at required
  rw [refuseWhen_eq_ok, not_or, not_or] at required
  by_contra absent
  exact required.2.2 ((SortedMap.lookup_eq_none files path).mpr absent)

theorem hasModule_found {files : MeasuredFiles} {beneath module : String}
    (present : hasModule files beneath module = true) :
    beneath ++ module ++ ".py" ∈ files.keys ∨ beneath ++ module ++ "/__init__.py" ∈ files.keys := by
  have found : ∀ path, (files.lookup path).isSome = true → path ∈ files.keys := by
    intro path some
    by_contra absent
    rw [(SortedMap.lookup_eq_none files path).mpr absent] at some
    exact Bool.noConfusion some
  unfold hasModule at present
  rw [Bool.or_eq_true] at present
  exact present.imp (found _) (found _)

/-- The files that a manifest names are measured, and one for its entrypoint is. -/
theorem validateManifestFiles_found {manifest : PackageManifest} {files : MeasuredFiles}
    {contents : RetainedContents}
    (notice : requireCatalogued files manifest.license.noticePath = .ok ())
    (accepted : crates.validateManifestFiles manifest files contents = .ok ()) :
    (∀ path ∈ namedFiles manifest, path ∈ files.keys) ∧
      ∃ path ∈ entrypointFiles manifest, path ∈ files.keys := by
  have noticed := requireCatalogued_found notice
  cases manifest with
  | deck deck =>
    unfold validateManifestFiles at accepted
    rw [check_eq_ok, check_eq_ok, check_eq_ok] at accepted
    obtain ⟨operator, faceplate, -, entered⟩ := accepted
    unfold requirePythonEntrypoint at entered
    rw [refuseWhen_eq_ok, not_not] at entered
    constructor
    · intro path among
      rcases List.mem_cons.mp among with first | among
      · exact first ▸ noticed
      rcases List.mem_cons.mp among with second | among
      · exact second ▸ requireCatalogued_found operator
      · exact List.mem_singleton.mp among ▸ requireCatalogued_found faceplate
    · rcases hasModule_found entered with found | found
      · exact ⟨_, List.mem_cons_self, found⟩
      · exact ⟨_, List.mem_cons_of_mem _ List.mem_cons_self, found⟩
  | codec codec =>
    unfold validateManifestFiles at accepted
    rw [check_eq_ok, bind_eq_ok] at accepted
    obtain ⟨worker, lock, locked, accepted⟩ := accepted
    rw [check_eq_ok] at accepted
    have entered := accepted.2
    unfold requireCodecPythonEntrypoint at entered
    dsimp only at entered
    rw [refuseWhen_eq_ok, not_not, Bool.or_eq_true] at entered
    constructor
    · intro path among
      rcases List.mem_cons.mp among with first | among
      · exact first ▸ noticed
      rcases List.mem_cons.mp among with second | among
      · exact second ▸ requireCatalogued_found worker
      · rw [List.mem_singleton.mp among]
        by_contra absent
        rw [(SortedMap.lookup_eq_none files _).mpr absent] at locked
        exact nomatch locked
    · rcases entered with direct | packaged
      · rcases hasModule_found direct with found | found
        · exact ⟨_, List.mem_cons_self, found⟩
        · exact ⟨_, List.mem_cons_of_mem _ List.mem_cons_self, found⟩
      · rcases hasModule_found packaged with found | found
        · exact ⟨_, List.mem_cons_of_mem _ (List.mem_cons_of_mem _ List.mem_cons_self), found⟩
        · exact ⟨_, List.mem_cons_of_mem _ (List.mem_cons_of_mem _
            (List.mem_cons_of_mem _ List.mem_cons_self)), found⟩

variable {files : List (String × Bytes)}

/-- The contract closes the tree that it accepts. -/
theorem closes_of_accepted (distinct : (files.map Prod.fst).Nodup) {directories : Finset String}
    {validated : ValidatedDirectory}
    (accepted : crates.validateContractSearching kind (crates.measureFiles files) directories
      (retainContents kind files) = .ok validated) :
    ∃ manifestBytes catalogBytes catalog,
      Closes crates kind files directories validated manifestBytes catalogBytes catalog := by
  rw [validateContractSearching_eq] at accepted
  unfold validateContract at accepted
  obtain ⟨manifestBytes, manifestFound, rest⟩ := ok_of_bind accepted
  obtain ⟨catalogBytes, catalogFound, rest⟩ := ok_of_bind rest
  obtain ⟨manifest, parsed, rest⟩ := ok_of_bind rest
  rw [check_eq_ok, refuseWhen_eq_ok, bind_eq_ok] at rest
  obtain ⟨bound, catalog, described, rest⟩ := rest
  iterate 6 rw [check_eq_ok] at rest
  rw [bind_eq_ok] at rest
  obtain ⟨_, each, extra, implied, notice, named, length, _, made⟩ := rest
  cases made
  have keys : (crates.measureFiles files).keys.Perm (files.map Prod.fst) :=
    measureFiles_keys distinct
  have manifestAmong := mem_of_retained distinct ((orError_eq_ok ..).mp manifestFound)
  have catalogAmong := mem_of_retained distinct ((orError_eq_ok ..).mp catalogFound)
  have measured : ∀ file ∈ catalog.files, ∃ bytes, (file.path, bytes) ∈ files ∧
      bytes.length = file.byteLength ∧ crates.sha256 bytes = file.sha256 := by
    intro file among
    have check := (checkEach_eq_ok _ _).mp each file among
    unfold checkDescribed at check
    obtain ⟨measurement, found, check⟩ := ok_of_bind check
    rw [refuseWhen_eq_ok, not_or, not_not, not_not] at check
    obtain ⟨bytes, present, measures⟩ :=
      (measureFiles_lookup_iff distinct _ _).mp ((orError_eq_ok ..).mp found)
    rw [← measures] at check
    exact ⟨bytes, present, check⟩
  have complete : (files.map Prod.fst).Perm
      (kind.manifestName :: integrityName :: catalog.files.map IntegrityFile.path) := by
    obtain ⟨sorted, payloads⟩ := parseIntegrityCatalog_sorted described
    have once : (catalog.files.map IntegrityFile.path).Nodup :=
      List.pairwise_map.mpr (sorted.imp ne_of_lt)
    have controls : kind.manifestName ≠ integrityName := by
      cases kind <;> decide
    have apart : (kind.manifestName :: integrityName ::
        catalog.files.map IntegrityFile.path).Nodup := by
      refine List.nodup_cons.mpr ⟨?_, List.nodup_cons.mpr ⟨?_, once⟩⟩
      · intro among
        rcases List.mem_cons.mp among with same | among
        · exact controls same
        · obtain ⟨file, within, same⟩ := List.mem_map.mp among
          exact (payloads file within).1 same
      · intro among
        obtain ⟨file, within, same⟩ := List.mem_map.mp among
        exact (payloads file within).2 same
    rw [List.perm_ext_iff_of_nodup distinct apart]
    intro path
    rw [List.mem_cons, List.mem_cons]
    constructor
    · intro present
      by_contra uncatalogued
      rw [not_or, not_or] at uncatalogued
      exact refuseWhen_eq_ok _ _ |>.mp extra
        ⟨path, keys.mem_iff.mpr present, uncatalogued.1, uncatalogued.2.1, uncatalogued.2.2⟩
    · rintro (manifest | integrity | catalogued)
      · exact manifest ▸ List.mem_map_of_mem manifestAmong
      · exact integrity ▸ List.mem_map_of_mem catalogAmong
      · obtain ⟨file, within, same⟩ := List.mem_map.mp catalogued
        obtain ⟨bytes, present, -⟩ := measured file within
        exact same ▸ List.mem_map_of_mem present
  obtain ⟨namedFound, enteredFound⟩ := validateManifestFiles_found notice named
  refine ⟨manifestBytes, catalogBytes, catalog, {
    manifestFound := manifestAmong
    catalogFound := catalogAmong
    parsed := parsed
    reported := rfl
    bound := not_not.mp bound
    described := described
    complete := complete
    measured := measured
    named := fun path among => keys.mem_iff.mp (namedFound path among)
    entered := ?_
    implied := ?_ }⟩
  · obtain ⟨path, among, found⟩ := enteredFound
    exact ⟨path, among, keys.mem_iff.mp found⟩
  · intro directory among
    rw [refuseWhen_eq_ok, not_not] at implied
    have above := implied among
    unfold impliedDirectories at above
    rw [List.mem_toFinset, List.mem_flatMap] at above
    obtain ⟨path, present, parent⟩ := above
    obtain ⟨file, within, same⟩ := List.mem_map.mp (keys.mem_iff.mp present)
    exact ⟨file, within, same ▸ parent⟩

def replaceFile (files : List (String × Bytes)) (path : String) (bytes : Bytes) :
    List (String × Bytes) :=
  files.map fun file => if file.1 = path then (path, bytes) else file

theorem replaceFile_paths (files : List (String × Bytes)) (path : String) (bytes : Bytes) :
    (replaceFile files path bytes).map Prod.fst = files.map Prod.fst := by
  unfold replaceFile
  rw [List.map_map]
  apply List.map_congr_left
  intro file _
  by_cases here : file.1 = path
  · simp [here]
  · simp [here]

theorem mem_replaceFile_of_ne {other : String} {bytes content : Bytes} (apart : other ≠ path) :
    (other, content) ∈ replaceFile files path bytes ↔ (other, content) ∈ files := by
  unfold replaceFile
  rw [List.mem_map]
  constructor
  · rintro ⟨file, among, same⟩
    by_cases here : file.1 = path
    · rw [if_pos here] at same
      exact absurd (Prod.mk.inj same).1.symm apart
    · rw [if_neg here] at same
      exact same ▸ among
  · intro among
    exact ⟨_, among, if_neg apart⟩

theorem mem_replaceFile_self {old bytes : Bytes}
    (among : (path, old) ∈ files) : (path, bytes) ∈ replaceFile files path bytes :=
  List.mem_map.mpr ⟨_, among, if_pos rfl⟩

variable {others : List (String × Bytes)} {again : ValidatedDirectory}

theorem Closes.same_paths {directories above : Finset String} {validated : ValidatedDirectory}
    {manifestBytes catalogBytes : Bytes} {first second : IntegrityCatalog}
    (closes : Closes crates kind files directories validated manifestBytes catalogBytes first)
    (also : Closes crates kind others above again manifestBytes catalogBytes second) :
    first = second ∧ (files.map Prod.fst).Perm (others.map Prod.fst) := by
  have same : first = second := Except.ok.inj (closes.described.symm.trans also.described)
  rw [← same] at also
  exact ⟨same, closes.complete.trans also.complete.symm⟩

variable (crates)

def Apart (first second : Bytes) : Prop :=
  crates.sha256 first = crates.sha256 second → first = second

/-- The contract of a tree with these files is refused. -/
def Refuses (kind : PackageKind) (files : List (String × Bytes)) : Prop :=
  ∀ directories validated, crates.validateContractSearching kind (crates.measureFiles files)
    directories (retainContents kind files) ≠ .ok validated

variable {crates} {kind : PackageKind} {files : List (String × Bytes)} {directories : Finset String}
  {validated : ValidatedDirectory}

/-- Another catalog, or other bytes of a catalogued file, break the contract. -/
theorem refuses_changed (distinct : (files.map Prod.fst).Nodup)
    (accepted : crates.validateContractSearching kind (crates.measureFiles files) directories
      (retainContents kind files) = .ok validated) {old changed : Bytes}
    (payload : path ≠ kind.manifestName) (among : (path, old) ∈ files) (differs : changed ≠ old)
    (apart : Apart crates changed old) : Refuses crates kind (replaceFile files path changed) := by
  intro above again repeated
  obtain ⟨manifestBytes, catalogBytes, catalog, closes⟩ := closes_of_accepted distinct accepted
  have kept : ((replaceFile files path changed).map Prod.fst).Nodup := by
    rw [replaceFile_paths]
    exact distinct
  obtain ⟨manifestAgain, catalogAgain, catalogued, also⟩ := closes_of_accepted kept repeated
  have sameManifest : manifestAgain = manifestBytes :=
    file_unique distinct ((mem_replaceFile_of_ne payload.symm).mp also.manifestFound)
      closes.manifestFound
  have manifests : again.manifest = validated.manifest := by
    have parsed := also.parsed
    rw [sameManifest, closes.parsed] at parsed
    exact (Except.ok.inj parsed).symm
  have replaced : (path, changed) ∈ replaceFile files path changed := mem_replaceFile_self among
  by_cases control : path = integrityName
  · -- the manifest binds the catalog
    rw [control] at among replaced
    have before : catalogBytes = old := file_unique distinct closes.catalogFound among
    have after : catalogAgain = changed := by
      rw [← control] at replaced
      exact file_unique kept also.catalogFound (control ▸ replaced)
    have hashes : crates.sha256 changed = crates.sha256 old := by
      rw [← after, ← also.bound, manifests, closes.bound, before]
    exact differs (apart hashes)
  · -- the catalog binds the file
    have sameCatalog : catalogAgain = catalogBytes :=
      file_unique distinct ((mem_replaceFile_of_ne fun same => control same.symm).mp
        also.catalogFound) closes.catalogFound
    rw [sameManifest, sameCatalog] at also
    have catalogs := (closes.same_paths also).1
    have listed : path ∈ kind.manifestName :: integrityName ::
        catalog.files.map IntegrityFile.path :=
      closes.complete.mem_iff.mp (List.mem_map_of_mem among)
    rcases List.mem_cons.mp listed with manifest | listed
    · exact payload manifest
    rcases List.mem_cons.mp listed with integrity | listed
    · exact control integrity
    obtain ⟨file, within, here⟩ := List.mem_map.mp listed
    obtain ⟨before, beforeAmong, -, beforeHash⟩ := closes.measured file within
    obtain ⟨after, afterAmong, -, afterHash⟩ := also.measured file (catalogs ▸ within)
    rw [here] at beforeAmong afterAmong
    have oldBytes : before = old := file_unique distinct beforeAmong among
    have newBytes : after = changed := file_unique kept afterAmong replaced
    have hashes : crates.sha256 changed = crates.sha256 old := by
      rw [← newBytes, ← oldBytes, afterHash, beforeHash]
    exact differs (apart hashes)

/-- Of two accepted trees, none has more files than the other. -/
theorem not_larger {above : Finset String} (othersDistinct : (others.map Prod.fst).Nodup)
    (part : files ⊆ others) (fewer : files.length < others.length)
    (accepted : crates.validateContractSearching kind (crates.measureFiles files) directories
      (retainContents kind files) = .ok validated) (distinct : (files.map Prod.fst).Nodup)
    (repeated : crates.validateContractSearching kind (crates.measureFiles others) above
      (retainContents kind others) = .ok again) : False := by
  obtain ⟨manifestBytes, catalogBytes, catalog, closes⟩ := closes_of_accepted distinct accepted
  obtain ⟨manifestAgain, catalogAgain, catalogued, also⟩ :=
    closes_of_accepted othersDistinct repeated
  have sameManifest : manifestAgain = manifestBytes :=
    file_unique othersDistinct also.manifestFound (part closes.manifestFound)
  have sameCatalog : catalogAgain = catalogBytes :=
    file_unique othersDistinct also.catalogFound (part closes.catalogFound)
  rw [sameManifest, sameCatalog] at also
  have sizes := (closes.same_paths also).2.length_eq
  rw [List.length_map, List.length_map] at sizes
  omega

/-- An accepted package is its control manifest, its catalog and exactly the catalogued files.
Another file that changes, a further one and a missing one break the contract, and another control
manifest is reported by its hash. -/
theorem contract_closed (distinct : (files.map Prod.fst).Nodup)
    (accepted : crates.validateContractSearching kind (crates.measureFiles files) directories
      (retainContents kind files) = .ok validated) :
    (∃ manifestBytes catalogBytes catalog,
        Closes crates kind files directories validated manifestBytes catalogBytes catalog) ∧
      (∀ path old changed, path ≠ kind.manifestName → (path, old) ∈ files → changed ≠ old →
        Apart crates changed old → Refuses crates kind (replaceFile files path changed)) ∧
      (∀ old changed above again, (kind.manifestName, old) ∈ files → changed ≠ old →
        Apart crates changed old →
        crates.validateContractSearching kind
          (crates.measureFiles (replaceFile files kind.manifestName changed)) above
          (retainContents kind (replaceFile files kind.manifestName changed)) = .ok again →
        again.manifestSha256 ≠ validated.manifestSha256) ∧
      (∀ file others, file.1 ∉ files.map Prod.fst → others.Perm (file :: files) →
        Refuses crates kind others) ∧
      ∀ file others, files.Perm (file :: others) → Refuses crates kind others := by
  refine ⟨closes_of_accepted distinct accepted, ?_, ?_, ?_, ?_⟩
  · intro path old changed payload among differs apart
    exact refuses_changed distinct accepted payload among differs apart
  · intro old changed above again among differs apart repeated same
    have kept : ((replaceFile files kind.manifestName changed).map Prod.fst).Nodup := by
      rw [replaceFile_paths]
      exact distinct
    obtain ⟨manifestBytes, catalogBytes, catalog, closes⟩ := closes_of_accepted distinct accepted
    obtain ⟨manifestAgain, catalogAgain, catalogued, also⟩ := closes_of_accepted kept repeated
    have before : manifestBytes = old := file_unique distinct closes.manifestFound among
    have after : manifestAgain = changed :=
      file_unique kept also.manifestFound (mem_replaceFile_self among)
    rw [also.reported, closes.reported, before, after] at same
    exact differs (apart same)
  · intro file others fresh permuted above again repeated
    have othersDistinct : (others.map Prod.fst).Nodup :=
      ((permuted.map Prod.fst).nodup_iff).mpr (List.nodup_cons.mpr ⟨fresh, distinct⟩)
    have part : files ⊆ others :=
      fun entry among => permuted.mem_iff.mpr (List.mem_cons_of_mem file among)
    have sizes := permuted.length_eq
    rw [List.length_cons] at sizes
    exact not_larger othersDistinct part (by omega) accepted distinct repeated
  · intro file others permuted above again repeated
    have othersDistinct : (others.map Prod.fst).Nodup :=
      (List.nodup_cons.mp (((permuted.map Prod.fst).nodup_iff).mp distinct)).2
    have part : others ⊆ files :=
      fun entry among => permuted.mem_iff.mpr (List.mem_cons_of_mem file among)
    have sizes := permuted.length_eq
    rw [List.length_cons] at sizes
    exact not_larger distinct part (by omega) repeated othersDistinct accepted

/-- The files of the sample with the control manifest of a version. -/
def closureFiles (version : String) : List (String × Bytes) :=
  [("deck-pack.json", piecesBytes (manifestText version)),
    ("integrity.json", piecesBytes catalogText)] ++ sampleFiles

/-- The contract of the sample deck with these files. -/
def closureContract (files : List (String × Bytes)) : Except ErrorCode ValidatedDirectory :=
  sampleCrates.validateContractSearching .deckPack (sampleCrates.measureFiles files) {"python"}
    (retainContents .deckPack files)

theorem closure_samples :
    (closureContract (closureFiles "1.0.0")).toOption.isSome = true ∧
      (closureContract (closureFiles "2.0.0")).toOption.isSome = true :=
  ⟨by decide +kernel, by decide +kernel⟩

/-- A tree stays accepted when the bytes of its control manifest change. -/
theorem manifest_change_accepted :
    ∃ validated again, closureContract (closureFiles "1.0.0") = .ok validated ∧
      ("deck-pack.json", piecesBytes (manifestText "1.0.0")) ∈ closureFiles "1.0.0" ∧
      piecesBytes (manifestText "2.0.0") ≠ piecesBytes (manifestText "1.0.0") ∧
      Apart sampleCrates (piecesBytes (manifestText "2.0.0"))
        (piecesBytes (manifestText "1.0.0")) ∧
      closureContract (replaceFile (closureFiles "1.0.0") "deck-pack.json"
        (piecesBytes (manifestText "2.0.0"))) = .ok again := by
  obtain ⟨accepted, changed⟩ := closure_samples
  obtain ⟨validated, made⟩ := ok_of_isSome accepted
  obtain ⟨again, remade⟩ := ok_of_isSome changed
  exact ⟨validated, again, made, List.mem_cons_self, by decide +kernel,
    fun same => absurd same (by decide +kernel), remade⟩

/-- The sample deck is closed: with the bytes of another of its files in the descriptor, one more
file or one less it is refused, and with another control manifest it reports another hash. -/
theorem sample_deck_closed :
    ∃ validated again, closureContract (closureFiles "1.0.0") = .ok validated ∧
      closureContract (closureFiles "2.0.0") = .ok again ∧
      again.manifestSha256 ≠ validated.manifestSha256 ∧
      Refuses sampleCrates .deckPack
        (replaceFile (closureFiles "1.0.0") "operator.json" "run = None\n".toUTF8.data.toList) ∧
      Refuses sampleCrates .deckPack (("extra.md", []) :: closureFiles "1.0.0") ∧
      Refuses sampleCrates .deckPack (closureFiles "1.0.0").tail := by
  obtain ⟨accepted, changed⟩ := closure_samples
  obtain ⟨validated, made⟩ := ok_of_isSome accepted
  obtain ⟨again, remade⟩ := ok_of_isSome changed
  have distinct : ((closureFiles "1.0.0").map Prod.fst).Nodup := by decide
  obtain ⟨-, changes, reports, more, fewer⟩ := contract_closed distinct made
  refine ⟨validated, again, made, remade, ?_, ?_, ?_, ?_⟩
  · exact reports _ (piecesBytes (manifestText "2.0.0")) _ again List.mem_cons_self
      (by decide +kernel) (fun same => absurd same (by decide +kernel)) remade
  · exact changes "operator.json" "\x7b\x7d".toUTF8.data.toList _ (by decide +kernel)
      (by decide +kernel) (by decide +kernel) (fun same => absurd same (by decide +kernel))
  · exact more ("extra.md", []) _ (by decide) (List.Perm.refl _)
  · exact fewer ("deck-pack.json", piecesBytes (manifestText "1.0.0")) _ (List.Perm.refl _)

end Crates

end LatentDeck.Packages
