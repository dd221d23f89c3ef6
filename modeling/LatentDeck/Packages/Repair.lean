import LatentDeck.Packages.Publishing

/-!
# Repair and enabled packages

A repair first looks at the receipt of the package that it is to replace. An enabled receipt that
records the very archive stops it before anything is written. A receipt that records something else
does not: its enabled flag is worth nothing, since the archive it was given for is not the one at
hand.
-/

namespace LatentDeck.Packages

open Effect Fallible

def storedEntry (file : String × Bytes) : ZipEntry where
  nameRaw := file.1.toUTF8.data.toList
  encrypted := false
  compression := .stored
  unixMode := some 0o100644
  size := file.2.length
  contents := some file.2

def sampleArchive (version : String) : ArchiveFile where
  byteLength := 2396
  sha256 :=
    if version = "1.0.0" then "2ba46f86acdbfc8f8c05ba77e45b7915e15cb479e3a0948524ec3df160c215ad"
    else "5cee690cc2f5eac772f1a79e987a323b529d49796dd123e19dd035ca31e082db"
  preflighted := .ok ()
  opened := .ok ((sampleFiles ++ [("deck-pack.json", piecesBytes (manifestText version)),
    ("integrity.json", piecesBytes catalogText)]).map storedEntry)

/-- The request to install or repair that version from its archive. -/
def sampleRequest (version : String) : InstallRequest where
  kind := some .deckPack
  archive := sampleArchive version
  expectedSha256 := (sampleArchive version).sha256

/-- The inspection of a version of the sample. -/
def sampleInspection (version : String) : InspectedPackage where
  package := ⟨.deckPack, "com.sample", version⟩
  displayName := "S"
  publisherName := "P"
  publisherIdentityClaim := .selfDeclared
  archiveSha256 := (sampleArchive version).sha256
  archiveByteLength := 2396
  manifestSha256 := manifestSha256Of version
  integrityCatalogSha256 := catalogSha256
  fileCount := 6
  extractedByteLength := 1766
  manifest := .deck (sampleManifest version)

/-- Whether the request for a version is authorized and its package extracted. -/
def samplePublishes (version : String) : Bool :=
  match sampleCrates.prepareAuthorized (sampleRequest version) none with
  | .ok prepared =>
      decide (prepared.inspection = sampleInspection version) &&
        decide (prepared.manifest = .deck (sampleManifest version)) &&
        (sampleCrates.extractPrepared prepared).isOk
  | .error _ => false

/-- A version of the sample that was prepared and extracted. -/
structure SamplePackage (version : String) where
  prepared : PreparedPackage
  tree : PackageTree
  authorized : sampleCrates.prepareAuthorized (sampleRequest version) none = .ok prepared
  inspected : prepared.inspection = sampleInspection version
  described : prepared.manifest = .deck (sampleManifest version)
  extracted : sampleCrates.extractPrepared prepared = .ok tree

/-- A version of the sample whose request is authorized. -/
theorem sample_package {version : String} (publishes : samplePublishes version = true) :
    Nonempty (SamplePackage version) := by
  unfold samplePublishes at publishes
  cases authorized : sampleCrates.prepareAuthorized (sampleRequest version) none with
  | error code =>
    rw [authorized] at publishes
    exact nomatch publishes
  | ok prepared =>
    rw [authorized] at publishes
    simp only [Bool.and_eq_true, decide_eq_true_eq] at publishes
    cases extracted : sampleCrates.extractPrepared prepared with
    | error code =>
      rw [extracted] at publishes
      exact nomatch publishes.2
    | ok tree => exact ⟨⟨prepared, tree, authorized, publishes.1.1, publishes.1.2, extracted⟩⟩

theorem first_sample : Nonempty (SamplePackage "1.0.0") := sample_package (by decide +kernel)

section Gates

variable (crates : Crates) (outside : Outside) (prepared : PreparedPackage)

/-- The receipt of a package is readable, enabled and records the prepared archive. -/
def Store.Active (store : Store) : Prop :=
  ∃ receipt, crates.receiptIn (store.receipts.lookup prepared.manifest.reference) = .ok receipt ∧
    receipt.enabled = true ∧ trustReceiptMatchesPrepared receipt prepared = true

def Store.HoldsPrepared (store : Store) : Prop :=
  ∃ tree validated, store.trees.lookup prepared.manifest.reference = some tree ∧
    crates.validateDirectory tree (some prepared.manifest.reference.kind) = .ok validated ∧
    validated.files = prepared.files ∧ validated.manifest = prepared.manifest

/-- The gate of a repair tells whether the package is active, as far as its receipt can be read. -/
theorem repairGate_leads (start : Store) :
    Leads (repairGate crates outside prepared) start
      (fun active _ => (active = true → start.Active crates prepared) ∧
        (outside.fault .gateReceipt = none → start.Active crates prepared → active = true))
      (fun halt _ => ∃ place, outside.fault place = some .interrupted ∧ halt = .interrupted) := by
  rw [repairGate, leads_bind, leads_attempt, readTrustReceipt, leads_bind, accessAll, leads_access]
  refine ⟨fun clear => ?_, fun kind code failed => ?_, fun failed => ⟨_, failed, rfl⟩⟩
  · rw [leads_reading]
    refine ⟨fun receipt read => ?_, fun halt read => ?_⟩
    · have found := (mapError_eq_ok ..).mp read
      rw [leads_pure, Bool.and_eq_true]
      refine ⟨fun both => ⟨receipt, found, both⟩, fun _ active => ?_⟩
      obtain ⟨other, same, both⟩ := active
      cases same.symm.trans found
      exact both
    · cases found : crates.receiptIn (start.receipts.lookup prepared.manifest.reference) with
      | ok receipt =>
        rw [found] at read
        exact nomatch read
      | error code =>
        rw [found] at read
        cases read
        refine ⟨nofun, fun _ active => ?_⟩
        obtain ⟨other, same, _⟩ := active
        exact nomatch same.symm.trans found
  · refine ⟨nofun, fun clear _ => ?_⟩
    rw [clear] at failed
    exact nomatch failed

/-- The comparison of a repair tells whether the tree is the prepared one, as far as it can be
read. -/
theorem treeMatches_leads (start : Store) :
    Leads (treeMatches crates outside prepared) start
      (fun same _ => (same = true → start.HoldsPrepared crates prepared) ∧
        (outside.fault .gateTree = none → start.HoldsPrepared crates prepared → same = true))
      (fun halt _ => ∃ place, outside.fault place = some .interrupted ∧ halt = .interrupted) := by
  rw [treeMatches, leads_bind, leads_attempt, validateInstalledTree, leads_bind, accessAll,
    leads_access]
  refine ⟨fun clear => ?_, fun kind code failed => ?_, fun failed => ⟨_, failed, rfl⟩⟩
  · refine leads_read (fun tree found => ?_) fun halt missing => ?_
    · have found := (orError_eq_ok ..).mp found
      rw [leads_lift]
      refine ⟨fun validated checked => ?_, fun code refused => ?_⟩
      · rw [leads_pure, decide_eq_true_eq]
        refine ⟨fun both => ⟨tree, validated, found, checked, both⟩, fun _ holds => ?_⟩
        obtain ⟨other, validatedOther, sameTree, again, both⟩ := holds
        cases sameTree.symm.trans found
        cases again.symm.trans checked
        exact both
      · refine ⟨nofun, fun _ holds => ?_⟩
        obtain ⟨other, validatedOther, sameTree, again, _⟩ := holds
        cases sameTree.symm.trans found
        exact nomatch again.symm.trans refused
    · cases there : start.trees.lookup prepared.manifest.reference with
      | some tree =>
        rw [there] at missing
        exact nomatch missing
      | none =>
        rw [there] at missing
        cases missing
        refine ⟨nofun, fun _ holds => ?_⟩
        obtain ⟨other, _, sameTree, _⟩ := holds
        exact nomatch sameTree.symm.trans there
  · refine ⟨nofun, fun clear _ => ?_⟩
    rw [clear] at failed
    exact nomatch failed

end Gates

section Enabled

variable (crates : Crates) (outside : Outside) (request : InstallRequest)
  (bundledIndex : Option BundledPackageIndex) (prepared : PreparedPackage) (store : Store)

section

variable (authorized : crates.prepareAuthorized request bundledIndex = .ok prepared)

include authorized

section

variable (installed : store.trees.contains prepared.manifest.reference = true)

include installed

/-- A repair of an active package is refused and leaves what is installed alone. -/
theorem repair_active
    (active : store.Active crates prepared) (readable : outside.fault .gateReceipt = none) :
    Leads (repair crates outside request bundledIndex) store (fun _ _ => False)
      (fun _ after => after.trees = store.trees ∧ after.receipts = store.receipts) := by
  have same : ∀ after : Store, after = store.recovered →
      after.trees = store.trees ∧ after.receipts = store.receipts := by
    intro after made
    rw [made]
    exact ⟨rfl, rfl⟩
  refine (looks_validateRoots outside).skip (fun _ => ⟨rfl, rfl⟩) fun _ => ?_
  rw [authorized]
  refine leads_lifted (fun value found => ?_) nofun
  cases found
  rw [repairPrepared]
  refine ((enterLocked_leads outside store).and (enterLocked_kept outside store)).bind
    (fun _ middle entered => ?_) (fun _ after kept => ?_)
  swap
  · exact ⟨congrArg Prod.fst kept.2, congrArg Prod.snd kept.2⟩
  rw [entered.1.1]
  refine (looks_pathExists outside _ _).tells (pathExists_leads outside _ _ _)
    (fun _ _ => same _ rfl) fun found is => ?_
  have found : found = true := is.symm.trans installed
  rw [if_neg (by rw [found]; decide)]
  refine (looks_ensureNotInUseLocked outside _).skip (fun _ => same _ rfl) fun _ => ?_
  refine (looks_repairGate crates outside prepared).tells
    (repairGate_leads crates outside prepared _) (fun _ _ => same _ rfl) fun held told => ?_
  exact leads_unless (fun never => absurd (told.2 readable active) never) fun _ => same _ rfl

/-- Where nothing goes wrong, what refuses the repair of an active package is that it is active. -/
theorem repair_active_refused
    (active : store.Active crates prepared) (quiet : ∀ place, outside.fault place = none)
    (roots : outside.rootsValid = true) (recoverable : store.Recoverable) :
    Leads (repair crates outside request bundledIndex) store (fun _ _ => True)
      (fun halt _ => halt = .refused .packageActive) := by
  have clear : ∀ stage, outside.Clear stage := fun _ place _ => quiet place
  rw [repair, validateRoots]
  refine leads_unless (fun _ => ?_) fun invalid => absurd (roots.symm.trans invalid) (by decide)
  rw [authorized]
  refine leads_lifted (fun value found => ?_) nofun
  cases found
  rw [repairPrepared]
  refine ((enterLocked_leads outside store).and
    (enterLocked_returns (clear .entering) store recoverable)).bind
    (fun _ middle entered => ?_) (fun _ _ never => never.2.elim)
  rw [entered.1.1]
  have reads : Leads (pathExists outside .destination prepared.manifest.reference)
      store.recovered (fun found _ => found = true) (fun _ _ => False) := by
    rw [pathExists_clear (clear .finding) rfl, leads_reading]
    refine ⟨fun found read => ?_, nofun⟩
    cases read
    exact installed
  refine (looks_pathExists outside _ _).tells reads (fun _ never => never.elim) fun found is => ?_
  rw [if_neg (by rw [is]; decide)]
  refine (looks_ensureNotInUseLocked outside _).tells
    (ensureNotInUseLocked_clear (clear .leasing) _ _) (fun _ refused => refused.1) fun _ _ => ?_
  refine (looks_repairGate crates outside prepared).tells
    (repairGate_leads crates outside prepared _) (fun _ interrupted => ?_) fun held told => ?_
  · obtain ⟨place, failed, _⟩ := interrupted
    rw [quiet place] at failed
    exact nomatch failed
  exact leads_unless (fun never => absurd (told.2 (quiet _) active) never) fun _ => rfl

/-- A repair never touches an installed package whose receipt is enabled and records the archive,
and where nothing goes wrong it says that the package is active. -/
theorem matching_enabled_package_is_kept
    (active : store.Active crates prepared) (readable : outside.fault .gateReceipt = none) :
    (∀ receipt, (ending (repair crates outside request bundledIndex) store).1 ≠ .ok receipt) ∧
      (ending (repair crates outside request bundledIndex) store).2.trees = store.trees ∧
      (ending (repair crates outside request bundledIndex) store).2.receipts = store.receipts ∧
      ((∀ place, outside.fault place = none) → outside.rootsValid = true → store.Recoverable →
        (ending (repair crates outside request bundledIndex) store).1 =
          .error (.refused .packageActive)) := by
  have kept := repair_active crates outside request bundledIndex prepared store authorized
    installed active readable
  have unchanged := (leads_ending fun result => (∀ receipt, result.1 ≠ .ok receipt) ∧
    result.2.trees = store.trees ∧ result.2.receipts = store.receipts).mp
      (kept.mono (fun _ _ never => never.elim) fun _ _ same => ⟨fun _ => nofun, same⟩)
  refine ⟨unchanged.1, unchanged.2.1, unchanged.2.2, fun quiet roots recoverable => ?_⟩
  have refused := repair_active_refused crates outside request bundledIndex prepared store
    authorized installed active quiet roots recoverable
  exact (leads_ending fun result => result.1 = .error (.refused .packageActive)).mp
    ((kept.and refused).mono (fun _ _ never => never.1.elim)
      fun _ _ both => congrArg Except.error both.2)

end

/-- Where nothing goes wrong, the repair of an idle package that is not active but holds the prepared
tree writes a disabled receipt. -/
theorem repair_rewrites
    (inactive : ¬ store.Active crates prepared) (holds : store.HoldsPrepared crates prepared)
    (idle : prepared.manifest.reference ∉ store.leases)
    (quiet : ∀ place, outside.fault place = none) (roots : outside.rootsValid = true)
    (recoverable : store.Recoverable)
    (recordable : store.Recordable outside prepared.manifest.reference true) :
    ∃ answer, (ending (repair crates outside request bundledIndex) store).1 = .ok answer ∧
      (ending (repair crates outside request bundledIndex) store).2.receipts.lookup
        prepared.manifest.reference =
          some (.holds (preparedReceipt prepared outside.now false)) := by
  refine (leads_ending fun result : Except Halt InstallReceipt × Store =>
    ∃ answer, result.1 = .ok answer ∧
      result.2.receipts.lookup prepared.manifest.reference =
        some (.holds (preparedReceipt prepared outside.now false))).mp ?_
  have clear : ∀ stage, outside.Clear stage := fun _ place _ => quiet place
  have uninterrupted : ∀ place, outside.fault place ≠ some .interrupted := by
    intro place
    rw [quiet place]
    rintro ⟨⟩
  rw [repair, validateRoots]
  refine leads_unless (fun _ => ?_) fun invalid => absurd (roots.symm.trans invalid) (by decide)
  rw [authorized]
  refine leads_lifted (fun value found => ?_) (by rintro _ ⟨⟩)
  cases found
  rw [repairPrepared]
  refine ((enterLocked_leads outside store).and
    (enterLocked_returns (clear .entering) store recoverable)).bind
    (fun _ middle entered => ?_) (fun _ _ never => never.2.elim)
  rw [entered.1.1]
  have reads : Leads (pathExists outside .destination prepared.manifest.reference)
      store.recovered (fun found _ => found = true) (fun _ _ => False) := by
    rw [pathExists_clear (clear .finding) rfl, leads_reading]
    refine ⟨fun found read => ?_, by rintro _ ⟨⟩⟩
    cases read
    obtain ⟨tree, _, standing, _⟩ := holds
    exact Option.isSome_iff_exists.mpr ⟨tree, standing⟩
  refine (looks_pathExists outside _ _).tells reads (fun _ never => never.elim) fun found is => ?_
  rw [if_neg (by rw [is]; decide)]
  refine (looks_ensureNotInUseLocked outside _).tells
    (ensureNotInUseLocked_clear (clear .leasing) _ _) (fun _ refused => absurd refused.2 idle)
    fun _ _ => ?_
  refine (looks_repairGate crates outside prepared).tells
    (repairGate_leads crates outside prepared _) (fun _ interrupted => ?_) fun held gated => ?_
  · obtain ⟨place, failed, _⟩ := interrupted
    exact absurd failed (uninterrupted place)
  refine leads_unless (fun _ => ?_) fun active => absurd (gated.1 active) inactive
  refine (looks_treeMatches crates outside prepared).tells
    (treeMatches_leads crates outside prepared _) (fun _ interrupted => ?_) fun same told => ?_
  · obtain ⟨place, failed, _⟩ := interrupted
    exact absurd failed (uninterrupted place)
  rw [if_pos (told.2 (quiet _) holds), trustFromPrepared, accessAs_clear (clear .binding) rfl]
  show Leads (writeReceipt _ _ _ _ >>= _) _ _ _
  rw [leads_bind]
  refine ((writeReceipt_leads outside _ _ true store.recovered).and
    (writeReceipt_returns _ _ (clear .recording) true (by rintro ⟨⟩)
      store.recovered recordable)).mono (fun _ recorded written => ?_)
      (fun _ _ never => never.2.elim)
  refine (removeRuntimeSeal_leads outside _ recorded).bind (fun _ last sealed => ?_)
    (fun _ _ stopped => ?_)
  · refine ⟨_, rfl, ?_⟩
    rw [sealed, written.1.1]
    exact Dict.lookup_insert_self _ _ _
  · obtain ⟨_, _, place, interrupted⟩ := stopped
    exact absurd interrupted (uninterrupted place)

end

end Enabled

theorem extractPrepared_holds {crates : Crates} {prepared : PreparedPackage} {tree : PackageTree}
    (extracted : crates.extractPrepared prepared = .ok tree) :
    ∃ validated, crates.validateDirectory tree (some prepared.manifest.kind) = .ok validated ∧
      validated.files = prepared.files ∧ validated.manifest = prepared.manifest := by
  rw [Crates.extractPrepared, bind_eq_ok] at extracted
  obtain ⟨written, _, rest⟩ := extracted
  obtain ⟨validated, checked, rest⟩ := ok_of_bind rest
  rw [check_eq_ok, refuseWhen_eq_ok] at rest
  cases rest.2
  have agrees := not_or.mp rest.1
  exact ⟨validated, checked, not_not.mp agrees.1, not_not.mp (not_or.mp agrees.2).1⟩

def quietOutside : Outside where
  rootsValid := true
  fault _ := none
  fresh
    | .staging => ".install-00000000000040008000000000000001"
    | .rollback => ".install-00000000000040008000000000000002"
    | .quarantine => ".repair-00000000000040008000000000000003"
    | .receiptPartial => ".receipt-00000000000040008000000000000004.partial"
  now := "2025-01-01T00:00:00Z"
  availableSpace := 2 ^ 40
  sealBuilt := none
  sealMatches := .ok false

def Store.single (package : PackageReference) (tree : PackageTree) (receipt : TrustReceipt) :
    Store :=
  ((Store.vacant.setTree package tree).setReceipt package receipt).addIdentity package

theorem Store.single_recoverable (package : PackageReference) (tree : PackageTree)
    (receipt : TrustReceipt) : (Store.single package tree receipt).Recoverable :=
  fun _ => Nat.zero_le _

/-- The receipt of a version of the sample that was installed from an archive and then enabled. -/
def sampleReceipt (version archiveSha256 : String) : TrustReceipt where
  receiptVersion := "1.0.0"
  package := ⟨.deckPack, "com.sample", version⟩
  archiveSha256
  archiveByteLength := 2396
  manifestSha256 := manifestSha256Of version
  integrityCatalogSha256 := catalogSha256
  publisherName := "P"
  publisherIdentityClaim := .selfDeclared
  installedAtUtc := "2025-01-01T00:00:00Z"
  enabled := true
  runtimeSealSha256 := none

namespace SamplePackage

variable {version : String} (sample : SamplePackage version)

theorem reference_eq : sample.prepared.manifest.reference = ⟨.deckPack, "com.sample", version⟩ := by
  rw [sample.described]
  rfl

theorem receipt_matches :
    trustReceiptMatchesPrepared (sampleReceipt version (sampleArchive version).sha256)
      sample.prepared = true := by
  unfold trustReceiptMatchesPrepared
  rw [sample.inspected, sample.described]
  simp [sampleReceipt, sampleInspection, sampleManifest, trustReceiptVersion,
    PackageManifest.reference, PackageManifest.kind, PackageManifest.packageId,
    PackageManifest.packageVersion, PackageManifest.publisher]

theorem receipt_differs {other : String} (different : other ≠ (sampleArchive version).sha256) :
    trustReceiptMatchesPrepared (sampleReceipt version other) sample.prepared = false := by
  unfold trustReceiptMatchesPrepared
  rw [sample.inspected]
  simp [sampleReceipt, sampleInspection, different]

/-- The store in which the sample is installed with a receipt. -/
def store (receipt : TrustReceipt) : Store :=
  Store.single sample.prepared.manifest.reference sample.tree receipt

theorem store_contains (receipt : TrustReceipt) :
    (sample.store receipt).trees.contains sample.prepared.manifest.reference = true := by
  show ((Dict.empty.insert _ _).lookup _).isSome = true
  rw [Dict.lookup_insert_self]
  rfl

theorem store_receipt (receipt : TrustReceipt) :
    (sample.store receipt).receipts.lookup sample.prepared.manifest.reference =
      some (.holds receipt) :=
  Dict.lookup_insert_self _ _ _

end SamplePackage

/-- The sample is kept where it is enabled from the archive at hand. -/
theorem sample_enabled_is_kept : ∃ sample : SamplePackage "1.0.0",
    (ending (repair sampleCrates quietOutside (sampleRequest "1.0.0") none)
      (sample.store (sampleReceipt "1.0.0" (sampleArchive "1.0.0").sha256))).1 =
        .error (.refused .packageActive) := by
  obtain ⟨sample⟩ := first_sample
  have valid : sampleCrates.validateTrustReceipt
      (sampleReceipt "1.0.0" (sampleArchive "1.0.0").sha256) = .ok () := by decide +kernel
  have active : (sample.store (sampleReceipt "1.0.0" (sampleArchive "1.0.0").sha256)).Active
      sampleCrates sample.prepared := by
    refine ⟨_, ?_, rfl, sample.receipt_matches⟩
    rw [sample.store_receipt, Crates.receiptIn, valid]
    rfl
  have kept := matching_enabled_package_is_kept sampleCrates quietOutside (sampleRequest "1.0.0")
    none sample.prepared _ sample.authorized (sample.store_contains _) active rfl
  exact ⟨sample, kept.2.2.2 (fun _ => rfl) rfl (Store.single_recoverable _ _ _)⟩

/-- The hash of an archive of the same version that was built differently. -/
def otherArchiveSha256 : String :=
  "1111111111111111111111111111111111111111111111111111111111111111"

/-- An enabled package whose receipt records another archive is disabled by a repair. -/
theorem other_archive_is_disabled : ∃ sample : SamplePackage "1.0.0", ∃ answer disabled,
    sampleCrates.receiptIn ((sample.store (sampleReceipt "1.0.0" otherArchiveSha256)).receipts.lookup
        ⟨.deckPack, "com.sample", "1.0.0"⟩) = .ok (sampleReceipt "1.0.0" otherArchiveSha256) ∧
      (sampleReceipt "1.0.0" otherArchiveSha256).enabled = true ∧
      (ending (repair sampleCrates quietOutside (sampleRequest "1.0.0") none)
        (sample.store (sampleReceipt "1.0.0" otherArchiveSha256))).1 = .ok answer ∧
      (ending (repair sampleCrates quietOutside (sampleRequest "1.0.0") none)
        (sample.store (sampleReceipt "1.0.0" otherArchiveSha256))).2.receipts.lookup
          ⟨.deckPack, "com.sample", "1.0.0"⟩ = some (.holds disabled) ∧
      disabled.enabled = false := by
  obtain ⟨sample⟩ := first_sample
  have valid : sampleCrates.validateTrustReceipt (sampleReceipt "1.0.0" otherArchiveSha256) =
      .ok () := by decide +kernel
  have read : sampleCrates.receiptIn ((sample.store (sampleReceipt "1.0.0"
      otherArchiveSha256)).receipts.lookup sample.prepared.manifest.reference) =
        .ok (sampleReceipt "1.0.0" otherArchiveSha256) := by
    rw [sample.store_receipt, Crates.receiptIn, valid]
    rfl
  have inactive : ¬ (sample.store (sampleReceipt "1.0.0" otherArchiveSha256)).Active sampleCrates
      sample.prepared := by
    rintro ⟨receipt, found, _, agrees⟩
    cases found.symm.trans read
    rw [sample.receipt_differs (by decide +kernel)] at agrees
    exact nomatch agrees
  have holds : (sample.store (sampleReceipt "1.0.0" otherArchiveSha256)).HoldsPrepared sampleCrates
      sample.prepared := by
    obtain ⟨validated, checked, both⟩ := extractPrepared_holds sample.extracted
    exact ⟨sample.tree, validated, Dict.lookup_insert_self _ _ _, checked, both⟩
  have repaired := repair_rewrites sampleCrates quietOutside (sampleRequest "1.0.0") none
    sample.prepared _ sample.authorized inactive holds List.not_mem_nil (fun _ => rfl) rfl
    (Store.single_recoverable _ _ _) ⟨rfl, nofun⟩
  obtain ⟨answer, answered, written⟩ := repaired
  rw [sample.reference_eq] at read written
  exact ⟨sample, answer, _, read, rfl, answered, written, rfl⟩

end LatentDeck.Packages
