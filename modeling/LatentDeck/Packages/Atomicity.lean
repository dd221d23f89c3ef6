import LatentDeck.Packages.Repair
import LatentDeck.Packages.Validation

/-!
# Publications that fail

An install, a repair or a removal whose access fails is to leave the installed packages as they were,
and one that returns is to leave exactly what it was asked for. That holds but for a few accesses,
which stand between two changes and have nothing to undo the first.
-/

namespace LatentDeck.Packages

open Effect Fallible

/-- One access of a call fails, and nothing that is done about it fails as well. -/
structure Outside.FailsOnce (outside : Outside) : Prop where
  uninterrupted : ∀ place, outside.fault place ≠ some .interrupted
  once : ∀ first second, outside.fault first ≠ none → outside.fault second ≠ none →
    first = second
  undone : outside.Clear .undoing

theorem Outside.FailsOnce.clear {outside : Outside} (fails : outside.FailsOnce) {stage : Stage}
    (failed : outside.Fails stage) {other : Stage} (different : other ≠ stage) :
    outside.Clear other := by
  intro place here
  by_contra faulty
  obtain ⟨culprit, there, kind, code, failure⟩ := failed
  have same : place = culprit := fails.once place culprit faulty
    (by rw [failure]; exact Option.some_ne_none _)
  apply different
  rw [← here, same, there]

def OthersKept (package : PackageReference) (before after : Store) : Prop :=
  ∀ other, other ≠ package → after.trees.lookup other = before.trees.lookup other ∧
    after.receipts.lookup other = before.receipts.lookup other

/-- What stands at a package is exactly the prepared tree, with a disabled receipt that binds the
hashes of that tree and of the archive. -/
def Store.Carries (crates : Crates) (prepared : PreparedPackage) (archive : ArchiveFile)
    (store : Store) : Prop :=
  ∃ tree validated receipt,
    store.trees.lookup prepared.manifest.reference = some tree ∧
    crates.validateDirectory tree (some prepared.manifest.kind) = .ok validated ∧
    validated.files = prepared.files ∧ validated.manifest = prepared.manifest ∧
    store.receipts.lookup prepared.manifest.reference = some (.holds receipt) ∧
    receipt.package = prepared.manifest.reference ∧
    receipt.manifestSha256 = validated.manifestSha256 ∧
    receipt.integrityCatalogSha256 = validated.integrityCatalogSha256 ∧
    receipt.archiveSha256 = archive.sha256 ∧ receipt.archiveByteLength = archive.byteLength ∧
    receipt.enabled = false

/-- An installation or a repair kept its promise. -/
def PublicationAtomic (crates : Crates) (prepared : PreparedPackage) (archive : ArchiveFile)
    (before : Store) (ended : Except Halt InstallReceipt × Store) : Prop :=
  (∀ answer, ended.1 = .ok answer → ended.2.Carries crates prepared archive ∧
    OthersKept prepared.manifest.reference before ended.2) ∧
  ∀ code, ended.1 = .error (.refused code) → SameInstalled before ended.2

/-- Nothing of the package is left, and the others are as they were. -/
def Removed (package : PackageReference) (before after : Store) : Prop :=
  after.trees.lookup package = none ∧ after.receipts.lookup package = none ∧
    OthersKept package before after

def RemovalAtomic (package : PackageReference) (before : Store)
    (ended : Except Halt PackageReference × Store) : Prop :=
  (∀ answer, ended.1 = .ok answer → Removed package before ended.2) ∧
  ∀ code, ended.1 = .error (.refused code) → SameInstalled before ended.2

/-- A tree that validates to what was prepared, with the receipt of the preparation, is what was
promised. -/
theorem carries_of_written {crates : Crates} {request : InstallRequest}
    {bundledIndex : Option BundledPackageIndex} {prepared : PreparedPackage}
    (authorized : crates.prepareAuthorized request bundledIndex = .ok prepared) {tree : PackageTree}
    {validated : ValidatedDirectory} {now : String} {store : Store}
    (standing : store.trees.lookup prepared.manifest.reference = some tree)
    (checked : crates.validateDirectory tree (some prepared.manifest.kind) = .ok validated)
    (files : validated.files = prepared.files) (manifest : validated.manifest = prepared.manifest)
    (recorded : store.receipts.lookup prepared.manifest.reference =
      some (.holds (preparedReceipt prepared now false))) :
    store.Carries crates prepared request.archive := by
  obtain ⟨archiveHash, archiveLength, manifestHash, catalogHash⟩ :=
    prepareAuthorized_inspection crates authorized
  have hashes := validateDirectory_hashes crates checked
  rw [files, manifest] at hashes
  refine ⟨tree, validated, _, standing, checked, files, manifest, recorded, rfl, ?_, ?_,
    archiveHash, archiveLength, rfl⟩
  · exact Option.some.inj (manifestHash.trans hashes.1.symm)
  · exact Option.some.inj (catalogHash.trans hashes.2.symm)

section Promises

variable (crates : Crates) (outside : Outside)

section Install

variable (request : InstallRequest) (bundledIndex : Option BundledPackageIndex)
  (prepared : PreparedPackage) (store : Store)

/-- An installation comes to the point behind its rename at which it fails. -/
def InstallTorn : Prop :=
  outside.rootsValid = true ∧ store.Recoverable ∧
    store.recovered.Torn crates outside prepared false

variable {crates outside request bundledIndex prepared} {tree : PackageTree}

theorem publishes_carries
    (authorized : crates.prepareAuthorized request bundledIndex = .ok prepared)
    (extracted : crates.extractPrepared prepared = .ok tree) {start after : Store}
    (published : start.Publishes outside prepared tree after) :
    after.Carries crates prepared request.archive := by
  obtain ⟨validated, checked, files, manifest⟩ := extractPrepared_holds extracted
  have recorded : after.receipts.lookup prepared.manifest.reference =
      some (.holds (preparedReceipt prepared outside.now false)) := by
    rw [published.2, Dict.lookup_insert_self]
  have standing : after.trees.lookup prepared.manifest.reference = some tree := by
    rw [published.1, Dict.lookup_insert_self]
  exact carries_of_written authorized standing checked files manifest recorded

theorem publishes_others {start after : Store}
    (published : start.Publishes outside prepared tree after) :
    OthersKept prepared.manifest.reference start after := by
  intro other different
  rw [published.1, published.2, Dict.lookup_insert, Dict.lookup_insert, if_neg different,
    if_neg different]
  exact ⟨rfl, rfl⟩

variable {before : Store} {action : Act InstallReceipt}

theorem publicationAtomic_of_leads {archive : ArchiveFile} (leads : Leads action before
      (fun _ after => after.Carries crates prepared archive ∧
        OthersKept prepared.manifest.reference before after)
      (fun halt after => ∀ code, halt = .refused code → SameInstalled before after)) :
    PublicationAtomic crates prepared archive before (ending action before) := by
  refine (leads_ending fun ended => PublicationAtomic crates prepared archive before ended).mp
    (leads.mono (fun _ _ held => ⟨fun _ _ => held, fun _ => nofun⟩)
      fun _ _ same => ⟨fun _ => nofun, fun code failed => same code (Except.error.inj failed)⟩)

theorem not_publicationAtomic_of_leads {archive : ArchiveFile}
    (leads : Leads action before (fun _ _ => False)
      (fun halt after => (∃ code, halt = .refused code) ∧ ¬ SameInstalled before after)) :
    ¬ PublicationAtomic crates prepared archive before (ending action before) := by
  intro atomic
  have broken := (leads_ending fun ended : Except Halt InstallReceipt × Store =>
    ∃ code, ended.1 = .error (.refused code) ∧ ¬ SameInstalled before ended.2).mp
      (leads.mono (fun _ _ never => never.elim)
        fun _ _ left => left.1.elim fun code refused => ⟨code, congrArg _ refused, left.2⟩)
  obtain ⟨code, refused, changed⟩ := broken
  exact changed (atomic.2 code refused)

variable {package : PackageReference}

theorem changed_of_tree {after : Store} (absent : before.trees.contains package = false)
    (trees : after.trees = before.trees.insert package tree) : ¬ SameInstalled before after := by
  intro same
  have found := (same package).1
  rw [trees, Dict.lookup_insert_self] at found
  rw [Dict.contains, ← found] at absent
  cases absent

theorem changed_of_receipt {after : Store} {file : ReceiptFile}
    (absent : before.receipts.contains package = false)
    (receipts : after.receipts = before.receipts.insert package file) :
    ¬ SameInstalled before after := by
  intro same
  have found := (same package).2
  rw [receipts, Dict.lookup_insert_self] at found
  rw [Dict.contains, ← found] at absent
  cases absent

theorem validateRoots_leads (start : Store) :
    Leads (validateRoots outside) start (fun _ _ => outside.rootsValid = true)
      (fun _ _ => True) := by
  rw [validateRoots, leads_refusing]
  exact ⟨fun valid => (Bool.not_eq_false _).mp valid, fun _ => trivial⟩

theorem validateRoots_valid (valid : outside.rootsValid = true) :
    validateRoots outside = pure () := by
  funext start
  simp only [validateRoots, refusing, demand, reading, valid, reduceCtorEq, not_false_eq_true,
    if_true]
  rfl

/-- An installation keeps its promise unless it is torn. -/
theorem install_intact (authorized : crates.prepareAuthorized request bundledIndex = .ok prepared)
    (undone : outside.Clear .undoing) (intact : ¬ InstallTorn crates outside prepared store) :
    PublicationAtomic crates prepared request.archive store
      (ending (install crates outside request bundledIndex) store) := by
  apply publicationAtomic_of_leads
  refine (looks_validateRoots outside).tells (validateRoots_leads store)
    (fun _ _ _ _ => .of_eq rfl rfl) fun _ roots => ?_
  rw [authorized]
  refine leads_lifted (fun value found => ?_) nofun
  cases found
  refine ((enterLocked_leads outside store).and (enterLocked_kept outside store)).bind
    (fun _ middle entered => ?_)
    (fun _ _ kept _ _ => .of_eq (congrArg Prod.fst kept.2) (congrArg Prod.snd kept.2))
  rw [entered.1.1]
  refine (publishNew_leads crates prepared undone false store.recovered).mono
    (fun _ after published => ?_) (fun halt after failed code refused => ?_)
  · obtain ⟨_, _, tree, stageable, published⟩ := published
    exact ⟨publishes_carries authorized stageable.2 published, publishes_others published⟩
  · cases failed code refused with
    | inl same => exact same
    | inr torn => exact absurd ⟨roots, entered.1.2, torn⟩ intact

theorem install_torn (authorized : crates.prepareAuthorized request bundledIndex = .ok prepared)
    (fails : outside.FailsOnce) (torn : InstallTorn crates outside prepared store) :
    ¬ PublicationAtomic crates prepared request.archive store
      (ending (install crates outside request bundledIndex) store) := by
  obtain ⟨roots, recoverable, publishable, stop⟩ := torn
  apply not_publicationAtomic_of_leads
  have entering : outside.Clear .entering := by
    cases stop with
    | inl binding => exact fails.clear binding (by decide)
    | inr unlinking => exact fails.clear unlinking.2.1 (by decide)
  rw [install, validateRoots_valid roots, authorized, pure_bind]
  refine leads_lifted (fun value found => ?_) nofun
  cases found
  refine ((enterLocked_leads outside store).and
    (enterLocked_returns entering store recoverable)).bind (fun _ middle entered => ?_)
    (fun _ _ never => never.2.elim)
  rw [entered.1.1]
  have absent : store.trees.contains prepared.manifest.reference = false := publishable.1.absent
  cases stop with
  | inl binding =>
    refine (publishNew_binding crates prepared fails.uninterrupted
      (fails.clear binding (by decide)) (fails.clear binding (by decide)) binding false
      store.recovered publishable).mono (fun _ _ never => never) (fun halt after left => ?_)
    obtain ⟨refused, ⟨tree, _, trees⟩, _⟩ := left
    exact ⟨refused, changed_of_tree absent trees⟩
  | inr unlinking =>
    obtain ⟨_, unlinking, recordable⟩ := unlinking
    refine (publishNew_unlinking crates prepared (fails.clear unlinking (by decide))
      (fails.clear unlinking (by decide)) (fails.clear unlinking (by decide))
      (fails.clear unlinking (by decide)) fails.undone unlinking store.recovered publishable
      recordable).mono (fun _ _ never => never) (fun halt after left => ?_)
    have vacant : store.receipts.contains prepared.manifest.reference = false := recordable.2 rfl
    exact ⟨left.1, changed_of_receipt vacant left.2⟩

end Install

section Repair

variable (request : InstallRequest) (bundledIndex : Option BundledPackageIndex)
  (prepared : PreparedPackage) (store : Store)

structure Store.Replaces (start : Store) : Prop where
  installed : start.trees.contains prepared.manifest.reference = true
  idle : prepared.manifest.reference ∉ start.leases
  inactive : ¬ start.Active crates prepared
  differs : ¬ start.HoldsPrepared crates prepared
  publishable : (start.dropTree prepared.manifest.reference).Publishable crates outside prepared

/-- A repair comes to a point behind a rename at which it fails. -/
def RepairTorn : Prop :=
  outside.rootsValid = true ∧ store.Recoverable ∧
    ((store.trees.contains prepared.manifest.reference = false ∧
        store.recovered.Torn crates outside prepared true) ∨
      (store.recovered.Replaces crates outside prepared ∧
        (outside.Fails .binding ∨ (outside.Fails .discarding ∧
          store.Recordable outside prepared.manifest.reference true))))

variable {crates outside request bundledIndex prepared}

theorem publishable_quarantined (start : Store) (tree : PackageTree) (name : String) :
    ((start.dropTree prepared.manifest.reference).setBin .trash name (.tree tree)).Publishable
        crates outside prepared ↔
      (start.dropTree prepared.manifest.reference).Publishable crates outside prepared := by
  constructor
  · intro publishable
    obtain ⟨⟨valid, identity, absent, versions, small, space⟩, staged⟩ := publishable
    exact ⟨⟨valid, identity, absent, versions, small, space⟩, staged⟩
  · intro publishable
    obtain ⟨⟨valid, identity, absent, versions, small, space⟩, staged⟩ := publishable
    exact ⟨⟨valid, identity, absent, versions, small, space⟩, staged⟩

theorem quarantineTree_leads (package : PackageReference) (start : Store) :
    Leads (quarantineTree outside package) start
      (fun tree after => start.trees.lookup package = some tree ∧
        after = (start.dropTree package).setBin .trash (outside.fresh .quarantine) (.tree tree))
      (fun _ after => after = start) := by
  refine (looks_ensureSafeDirectory outside _ _).skip (fun _ => rfl) fun _ => ?_
  refine (looks_access outside _ _).skip (fun _ => rfl) fun _ => ?_
  refine leads_read (fun tree found => ?_) fun _ _ => rfl
  exact ⟨(orError_eq_ok ..).mp found, rfl⟩

theorem quarantineTree_returns (quarantining : outside.Clear .quarantining)
    (package : PackageReference) (start : Store) (installed : start.trees.contains package = true) :
    Leads (quarantineTree outside package) start (fun _ _ => True) (fun _ _ => False) := by
  obtain ⟨tree, standing⟩ := Option.isSome_iff_exists.mp installed
  have standing : start.trees.lookup package = some tree := standing
  rw [quarantineTree, ensureSafeDirectory_clear quarantining fun _ => rfl,
    access_clear quarantining rfl]
  simp [standing, orError]

theorem restoreTree_leads (undone : outside.Clear .undoing) (package : PackageReference)
    (tree : PackageTree) (start : Store) (absent : start.trees.contains package = false) :
    Leads (restoreTree outside package tree) start
      (fun _ after => after.trees = start.trees.insert package tree ∧
        after.receipts = start.receipts) (fun _ _ => False) := by
  rw [restoreTree, accessAs_clear undone rfl]
  simp only [leads_ignoring, leads_bind, leads_pure, leads_reading, Except.ok.injEq, forall_eq',
    reduceCtorEq, false_imp_iff, implies_true, and_true, leads_refusing, absent,
    Bool.false_eq_true, not_false_eq_true, true_imp_iff, leads_modify]
  exact ⟨rfl, rfl⟩

theorem discardQuarantine_leads (code : ErrorCode) (start : Store) :
    Leads (discardQuarantine outside code) start
      (fun _ after => after.trees = start.trees ∧ after.receipts = start.receipts)
      (fun halt after => after = start ∧ outside.Blames .discarding halt) := by
  rw [discardQuarantine, leads_bind, accessAs, leads_access]
  exact ⟨fun _ => ⟨rfl, rfl⟩, fun kind code failed => ⟨rfl, fun _ _ => ⟨_, rfl, kind, code, failed⟩⟩,
    fun _ => ⟨rfl, by rintro _ ⟨⟩⟩⟩

theorem SameInstalled.restored {before after : Store} {package : PackageReference}
    {tree : PackageTree} (standing : before.trees.lookup package = some tree)
    (trees : ∀ other, after.trees.lookup other =
      ((before.trees.erase package).insert package tree).lookup other)
    (receipts : ∀ other, after.receipts.lookup other = before.receipts.lookup other) :
    SameInstalled before after := by
  intro other
  rw [trees, Dict.lookup_insert, Dict.lookup_erase]
  refine ⟨?_, receipts other⟩
  by_cases same : other = package
  · rw [if_pos same, same, standing]
  · rw [if_neg same, if_neg same]

/-- Replacing a tree puts the prepared one in its place, or it is refused and the old one is back,
unless it fails behind a rename. -/
theorem replaceTree_leads (undone : outside.Clear .undoing) (start : Store) :
    Leads (replaceTree crates outside prepared) start
      (fun _ after => ∃ tree, crates.extractPrepared prepared = .ok tree ∧
        (start.dropTree prepared.manifest.reference).Publishes outside prepared tree after)
      (fun halt after => ∀ code, halt = .refused code → SameInstalled start after ∨
        ((start.dropTree prepared.manifest.reference).Publishable crates outside prepared ∧
          (outside.Fails .binding ∨ (outside.Fails .discarding ∧
            start.Recordable outside prepared.manifest.reference true)))) := by
  rw [replaceTree]
  refine (quarantineTree_leads prepared.manifest.reference start).bind
    (fun old quarantined taken => ?_) (fun _ after same _ _ => Or.inl (same ▸ .of_eq rfl rfl))
  obtain ⟨standing, made⟩ := taken
  have moved := @publishable_quarantined crates outside prepared start old
    (outside.fresh .quarantine)
  rw [leads_bind, leads_onRefusal]
  refine (publishNew_leads crates prepared undone true quarantined).mono
    (fun answer after published => ?_) (fun halt after failed => ?_)
  · obtain ⟨admits, recordable, tree, stageable, published⟩ := published
    have held : (start.dropTree prepared.manifest.reference).Publishes outside prepared tree
        after := by
      rw [made] at published
      exact published
    have publishable : (start.dropTree prepared.manifest.reference).Publishable crates outside
        prepared := by
      apply moved.mp
      rw [← made]
      exact ⟨admits, tree, stageable⟩
    have recordable : start.Recordable outside prepared.manifest.reference true := by
      rw [made] at recordable
      exact recordable
    refine (discardQuarantine_leads _ after).bind (fun _ last same => ?_)
      (fun halt last left code refused => Or.inr ⟨publishable, Or.inr ⟨left.2 code refused,
        recordable⟩⟩)
    exact ⟨tree, stageable.2, same.1.trans held.1, same.2.trans held.2⟩
  cases halt with
  | interrupted => exact nofun
  | refused code =>
    show Leads (attempt _ >>= _) after _ _
    cases failed code rfl with
    | inr torn =>
      have broken : (start.dropTree prepared.manifest.reference).Publishable crates outside
          prepared ∧ (outside.Fails .binding ∨ (outside.Fails .discarding ∧
            start.Recordable outside prepared.manifest.reference true)) := by
        refine ⟨moved.mp ?_, Or.inl (torn.2.resolve_right fun never => nomatch never.1)⟩
        rw [← made]
        exact torn.1
      exact leads_last (fun _ _ _ _ => Or.inr broken) fun _ _ =>
        leads_last (fun _ _ _ _ => Or.inr broken) fun _ _ _ _ => Or.inr broken
    | inl same =>
      have lookups : ∀ other, after.trees.lookup other =
          (start.trees.erase prepared.manifest.reference).lookup other ∧
            after.receipts.lookup other = start.receipts.lookup other := by
        intro other
        rw [made] at same
        exact same other
      have absent : after.trees.contains prepared.manifest.reference = false := by
        rw [Dict.contains, (lookups _).1, Dict.lookup_erase, if_pos rfl]
        rfl
      rw [pathExists_clear undone rfl]
      simp only [leads_bind, leads_attempt, leads_reading, Except.ok.injEq, forall_eq',
        reduceCtorEq, false_imp_iff, implies_true, and_true, leads_whenever, absent,
        Bool.false_eq_true, ne_eq, not_false_eq_true, true_imp_iff]
      refine ⟨?_, fun never => absurd trivial never⟩
      refine (restoreTree_leads undone _ old after absent).mono (fun _ last restored => ?_)
        (fun _ _ never => never.elim)
      intro _ _
      left
      apply SameInstalled.restored standing
      · intro other
        rw [restored.1, Dict.lookup_insert, Dict.lookup_insert, (lookups other).1]
      · intro other
        rw [restored.2]
        exact (lookups other).2

theorem ensureNotInUseLocked_idle (package : PackageReference) (start : Store) :
    Leads (ensureNotInUseLocked outside package) start (fun _ _ => package ∉ start.leases)
      (fun _ _ => True) := by
  refine (looks_openUsageLock outside).skip (fun _ => trivial) fun _ => ?_
  refine (looks_access outside _ _).skip (fun _ => trivial) fun _ => ?_
  refine leads_read (fun leases read => ?_) nofun
  cases read
  refine leads_unless (fun idle => ?_) fun _ => trivial
  exact (looks_access outside _ _ start).mono (fun _ _ _ => idle) (fun _ _ _ => trivial)

theorem repair_intact (authorized : crates.prepareAuthorized request bundledIndex = .ok prepared)
    (fails : outside.FailsOnce) (intact : ¬ RepairTorn crates outside prepared store) :
    PublicationAtomic crates prepared request.archive store
      (ending (repair crates outside request bundledIndex) store) := by
  apply publicationAtomic_of_leads
  have same : ∀ halt : Halt, ∀ code, halt = .refused code → SameInstalled store store.recovered :=
    fun _ _ _ => .of_eq rfl rfl
  refine (looks_validateRoots outside).tells (validateRoots_leads store)
    (fun _ _ _ _ => .of_eq rfl rfl) fun _ roots => ?_
  rw [authorized]
  refine leads_lifted (fun value found => ?_) (by rintro _ ⟨⟩)
  cases found
  rw [repairPrepared]
  refine ((enterLocked_leads outside store).and (enterLocked_kept outside store)).bind
    (fun _ middle entered => ?_)
    (fun _ _ kept _ _ => .of_eq (congrArg Prod.fst kept.2) (congrArg Prod.snd kept.2))
  obtain ⟨made, recoverable⟩ := entered.1
  rw [made]
  refine (looks_pathExists outside _ _).tells (pathExists_leads outside _ _ _)
    (fun halt _ => same halt) fun installed found => ?_
  cases installed with
  | false =>
    rw [if_pos rfl]
    refine (publishNew_leads crates prepared fails.undone true store.recovered).mono
      (fun _ after published => ?_) (fun halt after failed code refused => ?_)
    · obtain ⟨_, _, tree, stageable, published⟩ := published
      exact ⟨publishes_carries authorized stageable.2 published, publishes_others published⟩
    · cases failed code refused with
      | inl same => exact same
      | inr torn => exact absurd ⟨roots, recoverable, Or.inl ⟨found, torn⟩⟩ intact
  | true =>
    rw [if_neg (by decide)]
    refine (looks_ensureNotInUseLocked outside _).tells (ensureNotInUseLocked_idle _ _)
      (fun halt _ => same halt) fun _ idle => ?_
    refine (looks_repairGate crates outside prepared).tells
      (repairGate_leads crates outside prepared _) (fun halt _ => same halt) fun active gated => ?_
    refine leads_unless (fun passed => ?_) fun _ => same _
    refine (looks_treeMatches crates outside prepared).tells
      (treeMatches_leads crates outside prepared _) (fun halt _ => same halt) fun agrees told => ?_
    cases agrees with
    | true =>
      rw [if_pos rfl]
      obtain ⟨tree, validated, standing, checked, files, manifest⟩ := told.1 rfl
      refine (looks_trustFromPrepared outside prepared false).tells
        (trustFromPrepared_leads outside prepared false _) (fun halt _ => same halt)
        fun trust dated => ?_
      rw [dated]
      refine (writeReceipt_leads outside _ _ true store.recovered).bind
        (fun _ recorded written => ?_) (fun halt recorded failed => ?_)
      · refine (removeRuntimeSeal_leads outside _ recorded).bind (fun _ last sealed => ?_)
          (fun halt _ stopped code refused => ?_)
        · have trees : last.trees = store.trees := by
            rw [sealed, written.1]
            rfl
          have receipts : last.receipts = store.receipts.insert prepared.manifest.reference
              (.holds (preparedReceipt prepared outside.now false)) := by
            rw [sealed, written.1]
            rfl
          have written : last.receipts.lookup prepared.manifest.reference =
              some (.holds (preparedReceipt prepared outside.now false)) := by
            rw [receipts, Dict.lookup_insert_self]
          refine ⟨carries_of_written authorized (trees ▸ standing) checked files manifest written,
            fun other different => ?_⟩
          rw [trees, receipts, Dict.lookup_insert, if_neg different]
          exact ⟨rfl, rfl⟩
        · rw [stopped.2.1] at refused
          cases refused
      · cases failed with
        | inl unchanged =>
          rw [unchanged]
          exact same halt
        | inr orphan => cases orphan.2.linked
    | false =>
      rw [if_neg (by decide)]
      refine (replaceTree_leads fails.undone store.recovered).mono (fun _ after replaced => ?_)
        (fun halt after failed code refused => ?_)
      · obtain ⟨tree, extracted, published⟩ := replaced
        refine ⟨publishes_carries authorized extracted published, fun other different => ?_⟩
        have kept := publishes_others published other different
        refine ⟨kept.1.trans ?_, kept.2⟩
        exact (Dict.lookup_erase _ _ _).trans (if_neg different)
      · cases failed code refused with
        | inl same => exact same
        | inr broken =>
          have gating : outside.Clear .gating := by
            cases broken.2 with
            | inl binding => exact fails.clear binding (by decide)
            | inr discarding => exact fails.clear discarding.1 (by decide)
          have inactive : ¬ store.recovered.Active crates prepared := fun active =>
            passed (gated.2 (gating _ rfl) active)
          have differs : ¬ store.recovered.HoldsPrepared crates prepared := by
            intro holds
            cases told.2 (gating _ rfl) holds
          exact absurd ⟨roots, recoverable, Or.inr
            ⟨⟨found, idle, inactive, differs, broken.1⟩, broken.2⟩⟩ intact

theorem changed_of_replaced {before after : Store} {tree : PackageTree}
    (differs : ¬ before.HoldsPrepared crates prepared)
    (extracted : crates.extractPrepared prepared = .ok tree)
    (trees : after.trees.lookup prepared.manifest.reference = some tree) :
    ¬ SameInstalled before after := by
  intro same
  obtain ⟨validated, checked, files, manifest⟩ := extractPrepared_holds extracted
  have standing := (same prepared.manifest.reference).1
  rw [trees] at standing
  exact differs ⟨tree, validated, standing.symm, checked, files, manifest⟩

/-- Replacing a tree that fails behind a rename is refused and leaves another tree behind. -/
theorem replaceTree_torn (fails : outside.FailsOnce) (start : Store)
    (replaces : start.Replaces crates outside prepared)
    (stop : outside.Fails .binding ∨ (outside.Fails .discarding ∧
      start.Recordable outside prepared.manifest.reference true)) :
    Leads (replaceTree crates outside prepared) start (fun _ _ => False)
      (fun halt after => (∃ code, halt = .refused code) ∧ ¬ SameInstalled start after) := by
  have clear : ∀ stage, stage ≠ .binding → stage ≠ .discarding → outside.Clear stage := by
    intro stage first second
    cases stop with
    | inl binding => exact fails.clear binding first
    | inr discarding => exact fails.clear discarding.1 second
  rw [replaceTree]
  refine ((quarantineTree_leads prepared.manifest.reference start).and
    (quarantineTree_returns (clear _ (by decide) (by decide)) _ start replaces.installed)).bind
    (fun old quarantined taken => ?_) (fun _ _ never => never.2.elim)
  obtain ⟨standing, made⟩ := taken.1
  have publishable : quarantined.Publishable crates outside prepared := by
    rw [made]
    exact (publishable_quarantined start old _).mpr replaces.publishable
  rw [leads_bind, leads_onRefusal]
  cases stop with
  | inl binding =>
    refine (publishNew_binding crates prepared fails.uninterrupted
      (fails.clear binding (by decide)) (fails.clear binding (by decide)) binding true
      quarantined publishable).mono (fun _ _ never => never.elim) (fun halt after left => ?_)
    obtain ⟨⟨code, refused⟩, ⟨tree, extracted, trees⟩, _⟩ := left
    rw [refused]
    have there : after.trees.contains prepared.manifest.reference = true := by
      rw [Dict.contains, trees, Dict.lookup_insert_self]
      rfl
    show Leads (attempt _ >>= _) after _ _
    rw [pathExists_clear fails.undone rfl]
    simp only [leads_bind, leads_attempt, leads_reading, Except.ok.injEq, forall_eq',
      reduceCtorEq, false_imp_iff, implies_true, and_true, leads_whenever, there, ne_eq,
      not_true_eq_false, not_false_eq_true, true_imp_iff, leads_refuse, true_and]
    refine ⟨⟨_, rfl⟩, changed_of_replaced replaces.differs extracted ?_⟩
    rw [trees, Dict.lookup_insert_self]
  | inr discarding =>
    obtain ⟨discarding, recordable⟩ := discarding
    have recordable : quarantined.Recordable outside prepared.manifest.reference true := by
      rw [made]
      exact recordable
    refine ((publishNew_leads crates prepared fails.undone true quarantined).and
      (publishNew_returns crates prepared (fails.clear discarding (by decide))
        (fails.clear discarding (by decide)) (fails.clear discarding (by decide))
        (fails.clear discarding (by decide)) true (by rintro ⟨⟩)
        fails.uninterrupted quarantined publishable recordable)).mono
      (fun _ after published => ?_) (fun _ _ never => never.2.elim)
    obtain ⟨_, _, tree, stageable, trees, _⟩ := published.1
    obtain ⟨place, here, kind, code, failed⟩ := discarding
    have discard : outside.fault .discardQuarantine = some (.failed kind code) := by
      cases place <;> cases here
      exact failed
    rw [leads_bind, discardQuarantine, leads_bind, accessAs, leads_access]
    refine ⟨fun clear => ?_, fun _ _ _ => ⟨⟨_, rfl⟩, ?_⟩, fun interrupted =>
      absurd interrupted (fails.uninterrupted _)⟩
    · rw [clear] at discard
      cases discard
    · refine changed_of_replaced replaces.differs stageable.2 ?_
      rw [trees, Dict.lookup_insert_self]

theorem repair_torn (authorized : crates.prepareAuthorized request bundledIndex = .ok prepared)
    (fails : outside.FailsOnce) (torn : RepairTorn crates outside prepared store) :
    ¬ PublicationAtomic crates prepared request.archive store
      (ending (repair crates outside request bundledIndex) store) := by
  obtain ⟨roots, recoverable, stop⟩ := torn
  apply not_publicationAtomic_of_leads
  have clear : ∀ stage, stage ≠ .binding → stage ≠ .discarding → outside.Clear stage := by
    intro stage first second
    rcases stop with ⟨_, _, binding | never⟩ | ⟨_, binding | discarding⟩
    · exact fails.clear binding first
    · cases never.1
    · exact fails.clear binding first
    · exact fails.clear discarding.1 second
  rw [repair, validateRoots_valid roots, authorized, pure_bind]
  refine leads_lifted (fun value found => ?_) (by rintro _ ⟨⟩)
  cases found
  rw [repairPrepared]
  refine ((enterLocked_leads outside store).and
    (enterLocked_returns (clear _ (by decide) (by decide)) store recoverable)).bind
    (fun _ middle entered => ?_) (fun _ _ never => never.2.elim)
  rw [entered.1.1]
  dsimp only
  rw [pathExists_clear (clear .finding (by decide) (by decide)) rfl]
  refine leads_read (fun found read => ?_) (by rintro _ ⟨⟩)
  cases read
  cases stop with
  | inl absent =>
    obtain ⟨absent, publishable, stop⟩ := absent
    have binding := stop.resolve_right fun never => by cases never.1
    have missing : store.recovered.trees.contains prepared.manifest.reference = false := absent
    rw [if_pos missing]
    refine (publishNew_binding crates prepared fails.uninterrupted
      (fails.clear binding (by decide)) (fails.clear binding (by decide)) binding true
      store.recovered publishable).mono (fun _ _ never => never) (fun halt after left => ?_)
    obtain ⟨refused, ⟨tree, _, trees⟩, _⟩ := left
    exact ⟨refused, changed_of_tree absent trees⟩
  | inr replaced =>
    obtain ⟨replaces, stop⟩ := replaced
    rw [if_neg (by rw [replaces.installed]; decide)]
    have gating := clear .gating (by decide) (by decide)
    refine (looks_ensureNotInUseLocked outside _).tells
      (ensureNotInUseLocked_clear (clear .leasing (by decide) (by decide)) _ _)
      (fun _ refused => absurd refused.2 replaces.idle) fun _ _ => ?_
    refine (looks_repairGate crates outside prepared).tells
      (repairGate_leads crates outside prepared _) (fun _ interrupted => ?_) fun active gated => ?_
    · obtain ⟨place, failed, _⟩ := interrupted
      exact absurd failed (fails.uninterrupted place)
    refine leads_unless (fun _ => ?_) fun active => absurd (gated.1 active) replaces.inactive
    refine (looks_treeMatches crates outside prepared).tells
      (treeMatches_leads crates outside prepared _) (fun _ interrupted => ?_) fun agrees told => ?_
    · obtain ⟨place, failed, _⟩ := interrupted
      exact absurd failed (fails.uninterrupted place)
    rw [if_neg fun agrees => replaces.differs (told.1 agrees)]
    exact replaceTree_torn fails store.recovered replaces stop

end Repair

section Removal

variable (package : PackageReference) (allowCorrupt : Bool) (store : Store)

/-- An installed package verifies against a receipt. -/
structure Store.Verifies (store : Store) (receipt : TrustReceipt) : Prop where
  installed : store.trees.contains package = true
  read : crates.receiptIn (store.receipts.lookup package) = .ok receipt
  own : validateExactReceipt receipt package = .ok ()
  bound : ∃ tree validated, store.trees.lookup package = some tree ∧
    crates.validateDirectory tree (some package.kind) = .ok validated ∧
    validateHashBoundReceipt validated receipt package = .ok ()

def Store.Removable (store : Store) : Prop :=
  store.trees.contains package = true ∧ package ∉ store.leases ∧
    ((∃ receipt, store.Verifies crates package receipt ∧ receipt.enabled = false) ∨
      ((∀ receipt, ¬ store.Verifies crates package receipt) ∧ allowCorrupt = true))

/-- A removal comes to a point behind its rename at which it fails. -/
def RemovalTorn : Prop :=
  crates.validatePackageReference package = .ok () ∧ outside.rootsValid = true ∧
    store.Recoverable ∧ store.Removable crates package allowCorrupt ∧
    (outside.Fails .inspecting ∨ outside.Fails .discarding)

variable {crates outside package allowCorrupt}

/-- What verifies is verified against its receipt. -/
theorem verifyInstalledTreeLocked_leads (start : Store) :
    Leads (verifyInstalledTreeLocked crates outside package) start
      (fun result _ => start.Verifies crates package result.1) (fun _ _ => True) := by
  refine (looks_pathExists outside _ _).tells (pathExists_leads outside _ _ _)
    (fun _ _ => trivial) fun installed found => ?_
  refine leads_unless (fun standing => ?_) fun _ => trivial
  have installed : start.trees.contains package = true :=
    found.trans ((Bool.not_eq_false _).mp standing)
  have reads : Leads (readTrustReceipt crates outside .installedReceipt package) start
      (fun receipt _ => crates.receiptIn (start.receipts.lookup package) = .ok receipt)
      (fun _ _ => True) := by
    refine (looks_access outside _ _).skip (fun _ => trivial) fun _ => ?_
    rw [leads_reading]
    exact ⟨fun _ read => (mapError_eq_ok ..).mp read, fun _ _ => trivial⟩
  refine (looks_readTrustReceipt crates outside _ _).tells reads (fun _ _ => trivial)
    fun receipt read => ?_
  refine leads_lifted (fun _ own => ?_) fun _ _ => trivial
  have validates : Leads (validateInstalledTree crates outside .installedFiles package) start
      (fun validated _ => ∃ tree, start.trees.lookup package = some tree ∧
        crates.validateDirectory tree (some package.kind) = .ok validated)
      (fun _ _ => True) := by
    refine (looks_access outside _ _).skip (fun _ => trivial) fun _ => ?_
    refine leads_read (fun tree found => ?_) fun _ _ => trivial
    rw [leads_lift]
    exact ⟨fun _ checked => ⟨tree, (orError_eq_ok ..).mp found, checked⟩, fun _ _ => trivial⟩
  refine (looks_validateInstalledTree crates outside _ _).tells validates (fun _ _ => trivial)
    fun validated told => ?_
  obtain ⟨tree, standing, checked⟩ := told
  exact leads_lifted
    (fun _ bound => ⟨installed, read, own, tree, validated, standing, checked, bound⟩)
    fun _ _ => trivial

/-- What verifies is not refused when no access goes wrong. -/
theorem verifyInstalledTreeLocked_refuses (verifying : outside.Clear .verifying) (start : Store) :
    Leads (verifyInstalledTreeLocked crates outside package) start (fun _ _ => True)
      (fun halt _ => (∃ code, halt = .refused code) ∧
        ∀ receipt, ¬ start.Verifies crates package receipt) := by
  rw [verifyInstalledTreeLocked, pathExists_clear verifying rfl, readTrustReceipt,
    accessAll_clear verifying rfl, validateInstalledTree, accessAll_clear verifying rfl, leads_bind,
    leads_reading]
  refine ⟨fun installed found => ?_, by rintro _ ⟨⟩⟩
  cases found
  refine leads_unless (fun _ => ?_) fun missing => ⟨⟨_, rfl⟩, fun receipt verifies => ?_⟩
  swap
  · rw [verifies.installed] at missing
    cases missing
  rw [pure_bind]
  refine leads_read (fun receipt read => ?_) fun halt unread => ?_
  swap
  · cases found : crates.receiptIn (start.receipts.lookup package) with
    | ok receipt =>
      rw [found] at unread
      cases unread
    | error code =>
      rw [found] at unread
      cases unread
      exact ⟨⟨_, rfl⟩, fun receipt verifies => by cases verifies.read.symm.trans found⟩
  have read := (mapError_eq_ok ..).mp read
  have same : ∀ other, start.Verifies crates package other → other = receipt := fun other verifies =>
    Except.ok.inj (verifies.read.symm.trans read)
  refine leads_lifted (fun _ _ => ?_) fun code foreign => ⟨⟨_, rfl⟩, fun other verifies => ?_⟩
  swap
  · cases same other verifies
    cases verifies.own.symm.trans foreign
  rw [pure_bind, bind_assoc]
  refine leads_read (fun tree found => ?_) fun halt missing => ?_
  swap
  · cases found : start.trees.lookup package with
    | some tree =>
      rw [found] at missing
      cases missing
    | none =>
      rw [found] at missing
      cases missing
      refine ⟨⟨_, rfl⟩, fun other verifies => ?_⟩
      obtain ⟨tree, _, standing, _⟩ := verifies.bound
      cases standing.symm.trans found
  have standing := (orError_eq_ok ..).mp found
  refine leads_lifted (fun validated checked => ?_)
    fun code invalid => ⟨⟨_, rfl⟩, fun other verifies => ?_⟩
  swap
  · obtain ⟨tree, validated, again, checked, _⟩ := verifies.bound
    cases again.symm.trans standing
    cases checked.symm.trans invalid
  refine leads_lifted (fun _ _ => trivial) fun code loose => ⟨⟨_, rfl⟩, fun other verifies => ?_⟩
  cases same other verifies
  obtain ⟨_, _, again, checkedAgain, bound⟩ := verifies.bound
  cases again.symm.trans standing
  cases checkedAgain.symm.trans checked
  cases bound.symm.trans loose

/-! ### The part behind the checks -/

/-- What a removal does once its package may be removed. -/
def removeChecked (outside : Outside) (package : PackageReference) : Act PackageReference := do
  let quarantined ← quarantineTree outside package
  accessAs outside .removedReceiptInspect .io
  let recorded ← reading fun store => .ok (store.receipts.contains package)
  whenever (recorded = true) do
    onRefusal (do
      accessAs outside .removedReceipt .lifecycleConflict
      modify fun store => store.dropReceipt package) fun code => do
        restoreTree outside package quarantined
        refuse code
  removeRuntimeSeal outside package
  discardQuarantine outside .packageActive
  modify fun store => store.pruneIdentity package
  pure package

variable {before : Store}

theorem removed_of_erased {after : Store} (trees : after.trees = before.trees.erase package)
    (receipts : ∀ other, after.receipts.lookup other =
      if other = package then none else before.receipts.lookup other) :
    Removed package before after := by
  refine ⟨?_, ?_, fun other different => ⟨?_, ?_⟩⟩
  · rw [trees, Dict.lookup_erase, if_pos rfl]
  · rw [receipts, if_pos rfl]
  · rw [trees, Dict.lookup_erase, if_neg different]
  · rw [receipts, if_neg different]

/-- A removal behind its checks removes the package or leaves it alone, unless it fails behind its
rename. -/
theorem removeChecked_leads (undone : outside.Clear .undoing) (start : Store) :
    Leads (removeChecked outside package) start (fun _ after => Removed package start after)
      (fun halt after => ∀ code, halt = .refused code → SameInstalled start after ∨
        outside.Fails .inspecting ∨ outside.Fails .discarding) := by
  rw [removeChecked]
  refine (quarantineTree_leads package start).bind (fun old quarantined taken => ?_)
    (fun _ after same _ _ => Or.inl (same ▸ .of_eq rfl rfl))
  obtain ⟨standing, made⟩ := taken
  have trees : quarantined.trees = start.trees.erase package := by
    rw [made]
    rfl
  have receipts : quarantined.receipts = start.receipts := by
    rw [made]
    rfl
  have inspected : Maintains (fun _ => True) (outside.Blames .inspecting)
      (accessAs outside .removedReceiptInspect .io) := access_blames outside rfl _
  refine (looks_access outside _ _).tells (inspected.raises trivial)
    (fun halt blames code refused => Or.inr (Or.inl (blames code refused))) fun _ _ => ?_
  refine leads_read (fun recorded read => ?_) (by rintro _ ⟨⟩)
  cases read
  -- the receipt is gone before the seal and the quarantine are looked at
  have rest : ∀ unrecorded : Store, unrecorded.trees = start.trees.erase package →
      (∀ other, unrecorded.receipts.lookup other =
        if other = package then none else start.receipts.lookup other) →
      Leads (do
        removeRuntimeSeal outside package
        discardQuarantine outside .packageActive
        modify fun store => store.pruneIdentity package
        (pure package : Act PackageReference)) unrecorded
        (fun _ after => Removed package start after)
        (fun halt after => ∀ code, halt = .refused code → SameInstalled start after ∨
          outside.Fails .inspecting ∨ outside.Fails .discarding) := by
    intro unrecorded gone erased
    refine (removeRuntimeSeal_leads outside package unrecorded).bind (fun _ unsealed sealed => ?_)
      (fun halt _ stopped code refused => ?_)
    · refine (discardQuarantine_leads _ unsealed).bind (fun _ last same => ?_)
        (fun _ _ left code refused => Or.inr (Or.inr (left.2 code refused)))
      refine removed_of_erased (same.1.trans ?_) fun other => ?_
      · rw [sealed]
        exact gone
      · show last.receipts.lookup other = _
        rw [same.2, sealed]
        exact erased other
    · rw [stopped.2.1] at refused
      cases refused
  rw [leads_bind, leads_whenever]
  constructor
  · intro _
    rw [leads_onRefusal, leads_bind, accessAs, leads_access]
    refine ⟨fun _ => rest _ trees fun other => ?_, fun kind code _ => ?_, by rintro _ _ ⟨⟩⟩
    · show (quarantined.receipts.erase package).lookup other = _
      rw [Dict.lookup_erase, receipts]
    · have absent : quarantined.trees.contains package = false := by
        rw [trees, Dict.contains, Dict.lookup_erase, if_pos rfl]
        rfl
      show Leads (restoreTree outside package old >>= _) quarantined _ _
      refine (restoreTree_leads undone package old quarantined absent).bind
        (fun _ last restored => ?_) (fun _ _ never => never.elim)
      intro _ _
      left
      apply SameInstalled.restored standing
      · intro other
        rw [restored.1, trees]
      · intro other
        rw [restored.2, receipts]
  · intro unrecorded
    have vacant : start.receipts.lookup package = none := by
      rw [receipts, Dict.contains, Option.isSome_iff_ne_none, not_not] at unrecorded
      exact unrecorded
    refine rest quarantined trees fun other => ?_
    rw [receipts]
    by_cases same : other = package
    · rw [if_pos same, same, vacant]
    · rw [if_neg same]

/-- The gate of a removal: a verified package must be disabled, and one that does not verify may be
removed only as a corrupt one. -/
def removalGate (allowCorrupt : Bool) :
    Except ErrorCode (TrustReceipt × ValidatedDirectory) → Act Unit
  | .ok (receipt, _) => refusing (receipt.enabled = true) .packageActive
  | .error code => refusing (allowCorrupt = false) code

/-- A removal is its checks and what follows them. -/
theorem remove_eq : remove crates outside package allowCorrupt = (do
    enterFor crates outside package
    prepareLockedRoots outside
    let installed ← pathExists outside .destination package
    refusing (installed = false) .packageMissing
    ensureNotInUseLocked outside package
    let verified ← attempt (verifyInstalledTreeLocked crates outside package)
    removalGate allowCorrupt verified
    removeChecked outside package) := by
  unfold remove
  refine bind_congr fun _ => bind_congr fun _ => bind_congr fun _ => bind_congr fun _ =>
    bind_congr fun _ => bind_congr fun verified => ?_
  cases verified with
  | ok result => rfl
  | error code => rfl

theorem enterFor_leads (start : Store) :
    Leads (enterFor crates outside package) start
      (fun _ _ => crates.validatePackageReference package = .ok () ∧ outside.rootsValid = true)
      (fun _ _ => True) := by
  rw [enterFor]
  refine leads_lifted (fun _ valid => ?_) fun _ _ => trivial
  refine (looks_validateRoots outside).tells (validateRoots_leads start) (fun _ _ => trivial)
    fun _ roots => ?_
  refine (looks_prepareBase outside).skip (fun _ => trivial) fun _ => ?_
  exact (looks_acquireLock outside start).mono (fun _ _ _ => ⟨valid, roots⟩)
    (fun _ _ _ => trivial)

theorem enterFor_clear (entering : outside.Clear .entering)
    (valid : crates.validatePackageReference package = .ok ())
    (roots : outside.rootsValid = true) : enterFor crates outside package = pure () := by
  rw [enterFor, valid, validateRoots_valid roots, prepareBase_clear entering,
    acquireLock_clear entering]
  rfl

/-- The checks of a removal tell that the package may be removed. -/
theorem removalGate_leads (start : Store) :
    Leads (do
      let verified ← attempt (verifyInstalledTreeLocked crates outside package)
      removalGate allowCorrupt verified) start
      (fun _ _ => outside.Clear .verifying →
        (∃ receipt, start.Verifies crates package receipt ∧ receipt.enabled = false) ∨
          ((∀ receipt, ¬ start.Verifies crates package receipt) ∧ allowCorrupt = true))
      (fun _ _ => True) := by
  rw [leads_bind, leads_attempt]
  by_cases clear : outside.Clear .verifying
  · refine ((verifyInstalledTreeLocked_leads start).and
      ((verifyInstalledTreeLocked_refuses clear start).and
        (looks_verifyInstalledTreeLocked crates outside package start))).mono
      (fun result after verified => ?_) (fun halt after refused => ?_)
    · rw [removalGate, leads_refusing]
      exact ⟨fun disabled _ => Or.inl ⟨_, verified.1, (Bool.not_eq_true _).mp disabled⟩,
        fun _ => trivial⟩
    · obtain ⟨⟨code, made⟩, corrupt⟩ := refused.2.1
      rw [made]
      show Leads (refusing _ _) after _ _
      rw [leads_refusing]
      exact ⟨fun allowed _ => Or.inr ⟨corrupt, (Bool.not_eq_false _).mp allowed⟩,
        fun _ => trivial⟩
  · refine (verifyInstalledTreeLocked_leads start).mono (fun result after _ => ?_)
      (fun halt after _ => ?_)
    · rw [removalGate, leads_refusing]
      exact ⟨fun _ cleared => absurd cleared clear, fun _ => trivial⟩
    · cases halt with
      | interrupted => exact trivial
      | refused code =>
        show Leads (refusing _ _) after _ _
        rw [leads_refusing]
        exact ⟨fun _ cleared => absurd cleared clear, fun _ => trivial⟩

variable {action : Act PackageReference}

theorem removalAtomic_of_leads
    (leads : Leads action before (fun _ after => Removed package before after)
      (fun halt after => ∀ code, halt = .refused code → SameInstalled before after)) :
    RemovalAtomic package before (ending action before) := by
  refine (leads_ending fun ended => RemovalAtomic package before ended).mp
    (leads.mono (fun _ _ held => ⟨fun _ _ => held, fun _ => nofun⟩)
      fun _ _ same => ⟨fun _ => nofun, fun code failed => same code (Except.error.inj failed)⟩)

theorem remove_intact (fails : outside.FailsOnce)
    (intact : ¬ RemovalTorn crates outside package allowCorrupt store) :
    RemovalAtomic package store (ending (remove crates outside package allowCorrupt) store) := by
  apply removalAtomic_of_leads
  have same : ∀ halt : Halt, ∀ code, halt = .refused code → SameInstalled store store.recovered :=
    fun _ _ _ => .of_eq rfl rfl
  rw [remove_eq]
  refine (looks_enterFor crates outside package).tells (enterFor_leads store)
    (fun _ _ _ _ => .of_eq rfl rfl) fun _ started => ?_
  refine ((prepareLockedRoots_leads outside store).and (prepareLockedRoots_kept outside store)).bind
    (fun _ middle entered => ?_)
    (fun _ _ kept _ _ => .of_eq (congrArg Prod.fst kept.2) (congrArg Prod.snd kept.2))
  rw [entered.1.1]
  refine (looks_pathExists outside _ _).tells (pathExists_leads outside _ _ _)
    (fun halt _ => same halt) fun installed found => ?_
  refine leads_unless (fun standing => ?_) fun _ => same _
  refine (looks_ensureNotInUseLocked outside _).tells (ensureNotInUseLocked_idle _ _)
    (fun halt _ => same halt) fun _ idle => ?_
  rw [← bind_assoc]
  refine Looks.tells ?_ (removalGate_leads store.recovered) (fun halt _ => same halt)
    fun _ gated => ?_
  · refine Within.bind (within_attempt (looks_verifyInstalledTreeLocked crates outside _))
      fun verified => ?_
    cases verified with
    | ok result => exact looks_refusing _ _
    | error code => exact looks_refusing _ _
  refine (removeChecked_leads fails.undone store.recovered).mono (fun _ after removed => ?_)
    (fun halt after failed code refused => ?_)
  · exact removed
  · cases failed code refused with
    | inl same => exact same
    | inr stuck =>
      have verifying : outside.Clear .verifying := by
        cases stuck with
        | inl inspecting => exact fails.clear inspecting (by decide)
        | inr discarding => exact fails.clear discarding (by decide)
      have installed : store.trees.contains package = true :=
        found.trans ((Bool.not_eq_false _).mp standing)
      have removable : store.Removable crates package allowCorrupt := by
        refine ⟨installed, idle, ?_⟩
        cases gated verifying with
        | inl verified =>
          obtain ⟨receipt, verifies, disabled⟩ := verified
          exact Or.inl ⟨receipt, ⟨installed, verifies.read, verifies.own, verifies.bound⟩, disabled⟩
        | inr corrupt =>
          exact Or.inr ⟨fun receipt verifies => corrupt.1 receipt
            ⟨installed, verifies.read, verifies.own, verifies.bound⟩, corrupt.2⟩
      exact absurd ⟨started.1, started.2, entered.1.2, removable, stuck⟩ intact

/-- A call that is refused and leaves the package without its tree breaks its promise. -/
theorem not_removalAtomic_of_leads (installed : before.trees.contains package = true)
    (leads : Leads action before (fun _ _ => False)
      (fun halt after => (∃ code, halt = .refused code) ∧ after.trees.lookup package = none)) :
    ¬ RemovalAtomic package before (ending action before) := by
  intro atomic
  have broken := (leads_ending fun ended : Except Halt PackageReference × Store =>
    ∃ code, ended.1 = .error (.refused code) ∧ ended.2.trees.lookup package = none).mp
      (leads.mono (fun _ _ never => never.elim)
        fun _ _ left => left.1.elim fun code refused => ⟨code, congrArg _ refused, left.2⟩)
  obtain ⟨code, refused, gone⟩ := broken
  have same := (atomic.2 code refused package).1
  rw [gone] at same
  rw [Dict.contains, ← same] at installed
  cases installed

/-- A removal that fails behind its rename is refused and leaves the package without its tree. -/
theorem removeChecked_torn (fails : outside.FailsOnce)
    (stop : outside.Fails .inspecting ∨ outside.Fails .discarding) (start : Store)
    (installed : start.trees.contains package = true) :
    Leads (removeChecked outside package) start (fun _ _ => False)
      (fun halt after => (∃ code, halt = .refused code) ∧
        after.trees.lookup package = none) := by
  have clear : ∀ stage, stage ≠ .inspecting → stage ≠ .discarding → outside.Clear stage := by
    intro stage first second
    cases stop with
    | inl inspecting => exact fails.clear inspecting first
    | inr discarding => exact fails.clear discarding second
  rw [removeChecked]
  refine ((quarantineTree_leads package start).and
    (quarantineTree_returns (clear _ (by decide) (by decide)) package start installed)).bind
    (fun old quarantined taken => ?_) (fun _ _ never => never.2.elim)
  have gone : quarantined.trees.lookup package = none := by
    rw [taken.1.2]
    exact (Dict.lookup_erase _ _ _).trans (if_pos rfl)
  cases stop with
  | inl inspecting =>
    obtain ⟨place, here, kind, code, failed⟩ := inspecting
    have inspect : outside.fault .removedReceiptInspect = some (.failed kind code) := by
      cases place <;> cases here
      exact failed
    rw [leads_bind, accessAs, leads_access]
    refine ⟨fun clear => ?_, fun _ _ _ => ⟨⟨_, rfl⟩, gone⟩, fun interrupted =>
      absurd interrupted (fails.uninterrupted _)⟩
    rw [clear] at inspect
    cases inspect
  | inr discarding =>
    have inspecting : outside.Clear .inspecting := fails.clear discarding (by decide)
    obtain ⟨place, here, kind, code, failed⟩ := discarding
    have discard : outside.fault .discardQuarantine = some (.failed kind code) := by
      cases place <;> cases here
      exact failed
    have rest : ∀ unrecorded : Store, unrecorded.trees.lookup package = none →
        Leads (do
          removeRuntimeSeal outside package
          discardQuarantine outside .packageActive
          modify fun store => store.pruneIdentity package
          (pure package : Act PackageReference)) unrecorded (fun _ _ => False)
          (fun halt after => (∃ code, halt = .refused code) ∧
            after.trees.lookup package = none) := by
      intro unrecorded gone
      refine (removeRuntimeSeal_leads outside package unrecorded).bind
        (fun _ unsealed sealed => ?_) (fun _ _ stopped => ?_)
      · have gone : unsealed.trees.lookup package = none := by
          rw [sealed]
          exact gone
        rw [leads_bind, discardQuarantine, leads_bind, accessAs, leads_access]
        refine ⟨fun clear => ?_, fun _ _ _ => ⟨⟨_, rfl⟩, gone⟩, fun interrupted =>
          absurd interrupted (fails.uninterrupted _)⟩
        rw [clear] at discard
        cases discard
      · obtain ⟨_, _, place, interrupted⟩ := stopped
        exact absurd interrupted (fails.uninterrupted place)
    rw [accessAs_clear inspecting rfl, pure_bind]
    refine leads_read (fun recorded _ => ?_) (by rintro _ ⟨⟩)
    rw [leads_bind, leads_whenever]
    refine ⟨fun _ => ?_, fun _ => rest quarantined gone⟩
    rw [accessAs_clear (clear .forgetting (by decide) (by decide)) rfl, pure_bind, leads_onRefusal]
    exact rest _ gone

theorem remove_torn (fails : outside.FailsOnce)
    (torn : RemovalTorn crates outside package allowCorrupt store) :
    ¬ RemovalAtomic package store
      (ending (remove crates outside package allowCorrupt) store) := by
  obtain ⟨valid, roots, recoverable, removable, stop⟩ := torn
  obtain ⟨installed, idle, gate⟩ := removable
  apply not_removalAtomic_of_leads installed
  have clear : ∀ stage, stage ≠ .inspecting → stage ≠ .discarding → outside.Clear stage := by
    intro stage first second
    cases stop with
    | inl inspecting => exact fails.clear inspecting first
    | inr discarding => exact fails.clear discarding second
  have entering := clear .entering (by decide) (by decide)
  have verifying := clear .verifying (by decide) (by decide)
  rw [remove_eq, enterFor_clear entering valid roots, pure_bind]
  refine ((prepareLockedRoots_leads outside store).and
    (prepareLockedRoots_returns entering store recoverable)).bind (fun _ middle entered => ?_)
    (fun _ _ never => never.2.elim)
  rw [entered.1.1, pathExists_clear (clear .finding (by decide) (by decide)) rfl, leads_bind,
    leads_reading]
  refine ⟨fun found read => ?_, nofun⟩
  cases read
  refine leads_unless (fun _ => ?_) fun missing => absurd (installed.symm.trans missing) (by decide)
  refine (looks_ensureNotInUseLocked outside _).tells
    (ensureNotInUseLocked_clear (clear .leasing (by decide) (by decide)) _ _)
    (fun _ refused => absurd refused.2 idle) fun _ _ => ?_
  have verifies : ∀ receipt, store.recovered.Verifies crates package receipt ↔
      store.Verifies crates package receipt := fun receipt =>
    ⟨fun verified => ⟨installed, verified.read, verified.own, verified.bound⟩,
      fun verified => ⟨installed, verified.read, verified.own, verified.bound⟩⟩
  rw [leads_bind, leads_attempt]
  refine ((verifyInstalledTreeLocked_leads store.recovered).and
    ((verifyInstalledTreeLocked_refuses verifying store.recovered).and
      (looks_verifyInstalledTreeLocked crates outside package store.recovered))).mono
    (fun result after verified => ?_) (fun halt after refused => ?_)
  · obtain ⟨verified, _, same⟩ := verified
    have after_eq : after = store.recovered := same
    have disabled : result.1.enabled = false := by
      cases gate with
      | inl known =>
        obtain ⟨receipt, known, disabled⟩ := known
        have read : crates.receiptIn (store.receipts.lookup package) = .ok result.1 :=
          verified.read
        cases known.read.symm.trans read
        exact disabled
      | inr corrupt => exact absurd ((verifies _).mp verified) (corrupt.1 _)
    rw [leads_bind, removalGate, leads_refusing, after_eq]
    refine ⟨fun _ => ?_, fun enabled => absurd (disabled.symm.trans enabled) (by decide)⟩
    exact removeChecked_torn fails stop store.recovered installed
  · obtain ⟨_, ⟨⟨code, made⟩, corrupt⟩, same⟩ := refused
    have after_eq : after = store.recovered := same
    have allowed : allowCorrupt = true := by
      cases gate with
      | inl known =>
        obtain ⟨receipt, known, _⟩ := known
        exact absurd ((verifies _).mpr known) (corrupt receipt)
      | inr corrupt => exact corrupt.2
    rw [made, after_eq]
    show Leads (removalGate _ _ >>= _) store.recovered _ _
    rw [leads_bind, removalGate, leads_refusing]
    refine ⟨fun _ => ?_, fun forbidden => absurd (allowed.symm.trans forbidden) (by decide)⟩
    exact removeChecked_torn fails stop store.recovered installed

end Removal

end Promises

theorem unauthorized_refused (action : Act InstallReceipt) (store : Store)
    (leads : Leads action store (fun _ _ => False) (fun _ after => after = store)) :
    ∃ halt, ending action store = (.error halt, store) := by
  refine (leads_ending fun ended : Except Halt InstallReceipt × Store =>
    ∃ halt, ended = (.error halt, store)).mp
      (leads.mono (fun _ _ never => never.elim) fun halt after same => ⟨halt, ?_⟩)
  rw [same]

/-- Where one access fails and what is done about it succeeds, an installation, a repair and a
removal keep their promise exactly when they do not fail behind a rename. -/
theorem publication_is_atomic_unless_torn (crates : Crates) (outside : Outside) (store : Store)
    (fails : outside.FailsOnce) :
    (∀ request bundledIndex prepared,
      crates.prepareAuthorized request bundledIndex = .ok prepared →
        ((PublicationAtomic crates prepared request.archive store
            (ending (install crates outside request bundledIndex) store) ↔
          ¬ InstallTorn crates outside prepared store) ∧
        (PublicationAtomic crates prepared request.archive store
            (ending (repair crates outside request bundledIndex) store) ↔
          ¬ RepairTorn crates outside prepared store))) ∧
    (∀ request bundledIndex code,
      crates.prepareAuthorized request bundledIndex = .error code →
        (∃ halt, ending (install crates outside request bundledIndex) store =
          (.error halt, store)) ∧
        ∃ halt, ending (repair crates outside request bundledIndex) store = (.error halt, store)) ∧
    ∀ package allowCorrupt,
      (RemovalAtomic package store (ending (remove crates outside package allowCorrupt) store) ↔
        ¬ RemovalTorn crates outside package allowCorrupt store) := by
  refine ⟨fun request bundledIndex prepared authorized => ⟨?_, ?_⟩,
    fun request bundledIndex code refused => ⟨?_, ?_⟩, fun package allowCorrupt => ?_⟩
  · exact ⟨fun atomic torn => install_torn store authorized fails torn atomic,
      install_intact store authorized fails.undone⟩
  · exact ⟨fun atomic torn => repair_torn store authorized fails torn atomic,
      repair_intact store authorized fails⟩
  · exact unauthorized_refused (install crates outside request bundledIndex) store
      ((looks_validateRoots outside).skip (fun _ => rfl) fun _ => by
        rw [refused, leads_bind, leads_lift]
        exact ⟨fun _ never => (nomatch never), fun _ _ => rfl⟩)
  · exact unauthorized_refused (repair crates outside request bundledIndex) store
      ((looks_validateRoots outside).skip (fun _ => rfl) fun _ => by
        rw [refused, leads_bind, leads_lift]
        exact ⟨fun _ never => (nomatch never), fun _ _ => rfl⟩)
  · exact ⟨fun atomic torn => remove_torn store fails torn atomic, remove_intact store fails⟩

def failingOutside (place : Access) : Outside :=
  { quietOutside with
    fault := fun other => if other = place then some (.failed .other .io) else none }

/-- Such a call fails once, unless the access undoes something. -/
theorem failingOutside_once {place : Access} (forward : place.stage ≠ .undoing) :
    (failingOutside place).FailsOnce where
  uninterrupted other := by
    by_cases same : other = place
    · simp [failingOutside, same]
    · simp [failingOutside, same]
  once first second := by
    by_cases one : first = place
    · by_cases other : second = place
      · exact fun _ _ => one.trans other.symm
      · simp [failingOutside, other]
    · simp [failingOutside, one]
  undone other here := by
    have different : other ≠ place := fun same => forward (same ▸ here)
    simp [failingOutside, different]

/-- An installation of the sample in which an access fails that has nothing to undo is atomic. -/
theorem sample_install_atomic : ∃ sample : SamplePackage "1.0.0",
    PublicationAtomic sampleCrates sample.prepared (sampleArchive "1.0.0") .vacant
      (ending (install sampleCrates (failingOutside .publish) (sampleRequest "1.0.0") none)
        .vacant) := by
  obtain ⟨sample⟩ := first_sample
  have promise := publication_is_atomic_unless_torn sampleCrates (failingOutside .publish) .vacant
    (failingOutside_once (by decide))
  have installs := (promise.1 (sampleRequest "1.0.0") none sample.prepared sample.authorized).1
  have clear : ∀ stage, stage ≠ .publishing → ¬ (failingOutside .publish).Fails stage := by
    rintro stage different ⟨place, here, kind, code, failed⟩
    have publish : place = .publish := by
      by_contra other
      simp [failingOutside, other] at failed
    exact different (here.symm.trans (congrArg Access.stage publish))
  refine ⟨sample, installs.mpr fun torn => ?_⟩
  cases torn.2.2.2 with
  | inl binding => exact clear _ (by decide) binding
  | inr unlinking => exact clear _ (by decide) unlinking.2.1

theorem SamplePackage.publishable (sample : SamplePackage "1.0.0") (place : Access) :
    Store.vacant.recovered.Publishable sampleCrates (failingOutside place) sample.prepared := by
  have none : 0 < maxPackagesPerKind ∧ 0 < maxVersionsPerPackage := by decide
  refine ⟨⟨?_, fun _ => none.1, rfl, none.2, ?_, ?_⟩, sample.tree, rfl, sample.extracted⟩
  · rw [sample.reference_eq]
    decide +kernel
  · rw [sample.inspected]
    decide
  · rw [sample.inspected]
    show 1766 + freeSpaceOverheadBytes ≤ 2 ^ 40
    decide

/-- An installation that cannot remove the partial file behind its linked receipt is refused, takes
its tree back and leaves the receipt behind. -/
theorem unlink_failure_tears : ∃ sample : SamplePackage "1.0.0",
    (failingOutside .partialUnlink).FailsOnce ∧
      ¬ PublicationAtomic sampleCrates sample.prepared (sampleArchive "1.0.0") .vacant
        (ending (install sampleCrates (failingOutside .partialUnlink) (sampleRequest "1.0.0")
          none) .vacant) := by
  obtain ⟨sample⟩ := first_sample
  have fails := @failingOutside_once .partialUnlink (by decide)
  refine ⟨sample, fails, install_torn .vacant sample.authorized fails
    ⟨rfl, fun _ => Nat.zero_le _, sample.publishable .partialUnlink,
      Or.inr ⟨rfl, ?_, rfl, fun _ => rfl⟩⟩⟩
  exact ⟨.partialUnlink, rfl, .other, .io, rfl⟩

end LatentDeck.Packages
