import LatentDeck.Packages.Entering

/-!
# Publication of trees and receipts

What each part of a publication changes when it returns and what it leaves when it does not, and
when a part whose accesses do not go wrong returns. The whole of `publish_new` undoes its tree when
the receipt is not written, except where it stops between the two.
-/

namespace LatentDeck.Packages

open Effect Fallible

/-- An access returns, is refused or is interrupted, and leaves the store alone. -/
theorem leads_access (outside : Outside) (place : Access)
    (report : IoErrorKind → ErrorCode → ErrorCode) {start : Store}
    {returned : Unit → Store → Prop} {raised : Halt → Store → Prop} :
    Leads (access outside place report) start returned raised ↔
      (outside.fault place = none → returned () start) ∧
        (∀ kind code, outside.fault place = some (.failed kind code) →
          raised (.refused (report kind code)) start) ∧
        (outside.fault place = some .interrupted → raised .interrupted start) := by
  unfold access
  cases found : outside.fault place with
  | none => simp
  | some fault =>
    cases fault with
    | failed kind code => simp
    | interrupted => simp

def Outside.Fails (outside : Outside) (stage : Stage) : Prop :=
  ∃ place : Access, place.stage = stage ∧
    ∃ kind code, outside.fault place = some (.failed kind code)

def Outside.Blames (outside : Outside) (stage : Stage) (halt : Halt) : Prop :=
  ∀ code, halt = .refused code → outside.Fails stage

theorem access_blames (outside : Outside) {place : Access} {stage : Stage}
    (here : place.stage = stage) (report : IoErrorKind → ErrorCode → ErrorCode) :
    Maintains (fun _ => True) (outside.Blames stage) (access outside place report) := by
  intro start _
  rw [leads_access]
  exact ⟨fun _ => trivial, fun kind code failed => ⟨trivial,
    fun _ _ => ⟨place, here, kind, code, failed⟩⟩, fun _ => ⟨trivial, fun _ never =>
      nomatch never⟩⟩

theorem ensureSafeDirectory_blames (outside : Outside) {place : DirectoryPart → Access}
    {stage : Stage} (here : ∀ part, (place part).stage = stage) (create : Bool) :
    Maintains (fun _ => True) (outside.Blames stage)
      (ensureSafeDirectory outside place create) :=
  Maintains.bind (access_blames outside (here _) _) fun _ =>
    Maintains.bind (Maintains.whenever (access_blames outside (here _) _)) fun _ =>
      Maintains.bind (access_blames outside (here _) _) fun _ =>
        access_blames outside (here _) _

section Receipts

variable (outside : Outside) (package : PackageReference) (receipt : TrustReceipt)

/-- The store with a receipt that was written, and whatever partial files. -/
def Store.Recorded (start : Store) (after : Store) : Prop :=
  after = { start with
    receipts := start.receipts.insert package (.holds receipt)
    partials := after.partials }

/-- The receipt can be written: the name of its partial file is free, and so is its own path unless
it replaces what is there. -/
def Store.Recordable (replace : Bool) (store : Store) : Prop :=
  store.partials.contains (outside.fresh .receiptPartial) = false ∧
    (replace = false → store.receipts.contains package = false)

/-- A linked receipt stays when its partial file cannot be removed. -/
structure Orphaned (replace : Bool) (start : Store) (halt : Halt) (after : Store) : Prop where
  linked : replace = false
  vacant : start.receipts.contains package = false
  stuck : outside.Blames .unlinking halt
  left : start.Recorded package receipt after

/-- Publishing a receipt writes it or leaves the receipts alone, unless it is orphaned. -/
theorem publishReceipt_leads (replace : Bool) (start : Store) :
    Leads (publishReceipt outside package receipt replace) start
      (fun _ after => start.Recorded package receipt after ∧
        (replace = false → start.receipts.contains package = false))
      (fun halt after => after = { start with partials := after.partials } ∨
        Orphaned outside package receipt replace start halt after) := by
  have kept : ∀ halt partials, (fun (halt : Halt) (after : Store) =>
      after = { start with partials := after.partials } ∨
        Orphaned outside package receipt replace start halt after) halt { start with partials } :=
    fun _ _ => Or.inl rfl
  refine (looks_access outside _ _).skip (fun halt => kept halt start.partials) fun _ => ?_
  rw [leads_bind, leads_modify]
  refine (looks_access outside _ _).skip (fun halt => kept halt _) fun _ => ?_
  cases replace with
  | true =>
    refine (looks_access outside _ _).skip (fun halt => kept halt _) fun _ => ?_
    exact ⟨rfl, nofun⟩
  | false =>
    refine (looks_access outside _ _).skip (fun halt => kept halt _) fun _ => ?_
    refine leads_read (fun taken read => ?_) nofun
    cases read
    refine leads_unless (fun vacant => ?_) fun _ => kept _ _
    have free : start.receipts.contains package = false := Bool.eq_false_iff.mpr vacant
    rw [leads_bind, leads_modify, leads_bind, leads_access]
    refine ⟨fun _ => ⟨rfl, fun _ => free⟩, fun kind code failed => Or.inr ?_,
      fun failed => Or.inr ?_⟩
    · exact ⟨rfl, free, fun _ _ => ⟨_, rfl, kind, code, failed⟩, rfl⟩
    · exact ⟨rfl, free, nofun, rfl⟩

theorem Orphaned.settled {replace : Bool} {start after : Store} {halt other : Halt}
    (orphan : Orphaned outside package receipt replace start halt after)
    (raised : ∀ code, other = .refused code → ∃ code, halt = .refused code)
    (partials : Dict String (PackageReference × ReceiptFile)) :
    Orphaned outside package receipt replace start other { after with partials } where
  linked := orphan.linked
  vacant := orphan.vacant
  stuck code refused := (raised code refused).elim orphan.stuck
  left := by
    have made := orphan.left
    unfold Store.Recorded at made ⊢
    rw [made]

/-- Writing a receipt does the same, with nothing but partial files left behind. -/
theorem writeReceipt_leads (replace : Bool) (start : Store) :
    Leads (writeReceipt outside package receipt replace) start
      (fun _ after => start.Recorded package receipt after ∧
        start.Recordable outside package replace)
      (fun halt after => after = { start with partials := after.partials } ∨
        (start.Recordable outside package replace ∧
          Orphaned outside package receipt replace start halt after)) := by
  refine (looks_ensureSafeDirectory outside _ _).skip (fun _ => Or.inl rfl) fun _ => ?_
  refine (looks_access outside _ _).skip (fun _ => Or.inl rfl) fun _ => ?_
  refine leads_read (fun taken read => ?_) nofun
  cases read
  refine leads_unless (fun untaken => ?_) fun _ => Or.inl rfl
  have free : start.partials.contains (outside.fresh .receiptPartial) = false :=
    Bool.eq_false_iff.mpr untaken
  rw [leads_bind, leads_modify, leads_onRefusal]
  refine (publishReceipt_leads outside package receipt replace _).mono (fun _ after written => ?_)
    (fun halt after failed => ?_)
  · exact ⟨written.1, free, written.2⟩
  · have settled : ∀ (other : Halt) (partials : Dict String (PackageReference × ReceiptFile)),
        (∀ code, other = .refused code → ∃ code, halt = .refused code) →
        { after with partials } = { start with partials := partials } ∨
          (start.Recordable outside package replace ∧
            Orphaned outside package receipt replace start other { after with partials }) := by
      intro other partials raised
      cases failed with
      | inl same =>
        left
        rw [same]
        rfl
      | inr orphan =>
        have vacant : start.receipts.contains package = false := orphan.vacant
        exact Or.inr ⟨⟨free, fun _ => vacant⟩, orphan.linked, vacant,
          (orphan.settled outside package receipt raised partials).stuck,
          (orphan.settled outside package receipt raised partials).left⟩
    cases halt with
    | interrupted => exact settled _ after.partials nofun
    | refused code =>
      have discarded : Leaves (ignoring do
          accessAs outside .partialDiscard .io
          modify fun store => store.dropPartial (outside.fresh .receiptPartial)) after
          (fun last => ∃ partials, last = { after with partials }) := by
        rw [Leaves, leads_ignoring]
        refine (looks_access outside _ _).skip (fun halt => ?_) fun _ => ⟨_, rfl⟩
        cases halt with
        | refused _ => exact ⟨after.partials, rfl⟩
        | interrupted => exact ⟨after.partials, rfl⟩
      show Leads _ after _ _
      rw [leads_bind]
      refine discarded.mono (fun _ last same => ?_) (fun halt last same => ?_)
      · obtain ⟨partials, made⟩ := same
        rw [leads_refuse, made]
        exact settled _ partials fun _ _ => ⟨_, rfl⟩
      · obtain ⟨partials, made⟩ := same
        rw [made]
        exact settled _ partials fun _ _ => ⟨_, rfl⟩

/-- A recordable receipt is written when no access goes wrong. -/
theorem writeReceipt_returns {outside : Outside} (recording : outside.Clear .recording)
    (replace : Bool) (unlinking : replace = false → outside.Clear .unlinking) (start : Store)
    (recordable : start.Recordable outside package replace) :
    Leads (writeReceipt outside package receipt replace) start (fun _ _ => True)
      (fun _ _ => False) := by
  rw [writeReceipt, ensureSafeDirectory_clear recording fun _ => rfl,
    accessAs_clear recording rfl]
  simp only [leads_bind, leads_pure, leads_reading, Except.ok.injEq, forall_eq', reduceCtorEq,
    false_imp_iff, implies_true, and_true, leads_refusing, recordable.1, leads_modify,
    leads_onRefusal, publishReceipt, access_clear recording (show Access.stage .partialWrite = _
      from rfl), access_clear recording (show Access.stage .partialSync = _ from rfl),
    Bool.false_eq_true, not_false_eq_true, true_imp_iff]
  cases replace with
  | true =>
    rw [if_pos rfl, access_clear recording rfl]
    exact trivial
  | false =>
    have free := recordable.2 rfl
    rw [if_neg (by decide), access_clear recording rfl, access_clear (unlinking rfl) rfl]
    simp [Store.setPartial, free]

/-- A linked receipt whose partial file cannot be removed is refused and stays. -/
theorem writeReceipt_unlinking {outside : Outside} (recording : outside.Clear .recording)
    (undone : outside.Clear .undoing) (start : Store)
    (recordable : start.Recordable outside package false) {kind : IoErrorKind} {code : ErrorCode}
    (fails : outside.fault .partialUnlink = some (.failed kind code)) :
    Leads (writeReceipt outside package receipt false) start (fun _ _ => False)
      (fun halt after => (∃ code, halt = .refused code) ∧ start.Recorded package receipt after) := by
  have free := recordable.2 rfl
  rw [writeReceipt, ensureSafeDirectory_clear recording fun _ => rfl,
    accessAs_clear recording rfl, publishReceipt, access_clear recording rfl,
    access_clear recording rfl, if_neg (by decide), access_clear recording rfl,
    accessAs_clear undone rfl]
  simp only [leads_bind, leads_pure, leads_reading, Except.ok.injEq, forall_eq', reduceCtorEq,
    false_imp_iff, implies_true, and_true, leads_refusing, recordable.1, leads_modify,
    leads_onRefusal, leads_access, fails, leads_ignoring, leads_refuse, Store.setPartial, free,
    Bool.false_eq_true, not_false_eq_true, true_imp_iff, Option.some.injEq, Fault.failed.injEq,
    true_and]
  intro _ _ _
  exact ⟨⟨_, rfl⟩, rfl⟩

end Receipts

theorem removeRuntimeSeal_leads (outside : Outside) (package : PackageReference) (start : Store) :
    Leads (removeRuntimeSeal outside package) start
      (fun _ after => after = { start with seals := after.seals })
      (fun halt after => after = start ∧ halt = .interrupted ∧
        ∃ place, outside.fault place = some .interrupted) := by
  rw [removeRuntimeSeal, leads_ignoring, leads_bind, accessAs, leads_access]
  refine ⟨fun _ => rfl, fun kind code _ => rfl, fun failed => ⟨rfl, rfl, _, failed⟩⟩

section Trees

variable (crates : Crates) (outside : Outside) (prepared : PreparedPackage)

/-- The staging directory can be made and filled. -/
def Store.Stageable (store : Store) (tree : PackageTree) : Prop :=
  (store.bins .staging).contains (outside.fresh .staging) = false ∧
    crates.extractPrepared prepared = .ok tree

/-- Publishing a tree puts it at its destination or leaves the installed packages alone. -/
theorem publishTree_leads (start : Store) :
    Leads (publishTree crates outside prepared) start
      (fun _ after => ∃ tree, start.Stageable crates outside prepared tree ∧
        after = { start.setTree prepared.manifest.reference tree with bins := after.bins })
      (fun _ after => after = { start with bins := after.bins }) := by
  refine (looks_access outside _ _).skip (fun _ => rfl) fun _ => ?_
  refine leads_read (fun taken read => ?_) nofun
  cases read
  refine leads_unless (fun vacant => ?_) fun _ => rfl
  have free : (start.bins .staging).contains (outside.fresh .staging) = false :=
    Bool.eq_false_iff.mpr vacant
  rw [leads_bind, leads_modify, leads_onRefusal]
  have staged : Leads (do
      accessAll outside .extraction
      let tree ← lift (crates.extractPrepared prepared)
      modify fun store => store.setBin .staging (outside.fresh .staging) (.tree tree)
      accessAs outside .publish .lifecycleConflict
      modify fun store => (store.setTree prepared.manifest.reference tree).dropBin .staging
        (outside.fresh .staging)) (start.setBin .staging (outside.fresh .staging) .remains)
      (fun _ after => ∃ tree, start.Stageable crates outside prepared tree ∧
        after = { start.setTree prepared.manifest.reference tree with bins := after.bins })
      (fun _ after => ∃ bins, after = { start with bins }) := by
    refine (looks_access outside _ _).skip (fun _ => ⟨_, rfl⟩) fun _ => ?_
    refine leads_lifted (fun tree extracted => ?_) fun _ _ => ⟨_, rfl⟩
    rw [leads_bind, leads_modify]
    refine (looks_access outside _ _).skip (fun _ => ⟨_, rfl⟩) fun _ => ?_
    exact ⟨tree, ⟨free, extracted⟩, rfl⟩
  refine staged.mono (fun _ after ended => ended) (fun halt after failed => ?_)
  obtain ⟨bins, made⟩ := failed
  cases halt with
  | interrupted =>
    rw [made]
  | refused code =>
    show Leads _ after _ _
    rw [leads_bind, leads_ignoring, made]
    refine (looks_access outside _ _).skip (fun halt => ?_) fun _ => rfl
    cases halt with
    | refused _ => rfl
    | interrupted => rfl

theorem publishTree_returns {outside : Outside} (publishing : outside.Clear .publishing)
    {tree : PackageTree} (start : Store)
    (stageable : start.Stageable crates outside prepared tree) :
    Leads (publishTree crates outside prepared) start (fun _ _ => True) (fun _ _ => False) := by
  have free := stageable.1
  have extracted := stageable.2
  rw [publishTree, accessAs_clear publishing rfl, accessAll_clear publishing rfl,
    accessAs_clear publishing rfl]
  simp [free, extracted]

structure Store.Admits (store : Store) : Prop where
  valid : crates.validatePackageReference prepared.manifest.reference = .ok ()
  identity : (prepared.manifest.reference.kind, prepared.manifest.reference.packageId) ∉
      store.identities →
    (store.identities.filter fun identity =>
      identity.1 = prepared.manifest.reference.kind).length < maxPackagesPerKind
  absent : store.trees.contains prepared.manifest.reference = false
  versions : (store.versionsOf prepared.manifest.reference).length < maxVersionsPerPackage
  small : prepared.inspection.extractedByteLength + freeSpaceOverheadBytes ≤ u64Max
  space : prepared.inspection.extractedByteLength + freeSpaceOverheadBytes ≤
    outside.availableSpace

theorem enforcePackageIdLimit_leads (kind : PackageKind) (start : Store) :
    Leads (enforcePackageIdLimit outside kind) start
      (fun _ _ => (start.identities.filter fun identity => identity.1 = kind).length <
        maxPackagesPerKind) (fun _ _ => True) := by
  refine (looks_access outside _ _).skip (fun _ => trivial) fun _ => ?_
  simp

theorem enforceVersionLimit_leads (package : PackageReference) (start : Store) :
    Leads (enforceVersionLimit outside package) start
      (fun _ _ => (start.versionsOf package).length < maxVersionsPerPackage)
      (fun _ _ => True) := by
  refine (looks_access outside _ _).skip (fun _ => trivial) fun _ => ?_
  simp

theorem pathExists_leads (place : Access) (package : PackageReference) (start : Store) :
    Leads (pathExists outside place package) start
      (fun found _ => start.trees.contains package = found) (fun _ _ => True) := by
  refine (looks_access outside _ _).skip (fun _ => trivial) fun _ => ?_
  simp

/-- The checks before a publication change nothing but the known identities, and return when they
pass. -/
theorem preparePublication_leads (start : Store) :
    Leads (preparePublication crates outside prepared) start
      (fun _ after => after = start.addIdentity prepared.manifest.reference ∧
        start.Admits crates outside prepared)
      (fun _ after => ∃ identities, after = { start with identities }) := by
  unfold preparePublication
  dsimp only
  refine leads_lifted (fun _ valid => ?_) fun _ _ => ⟨_, rfl⟩
  refine (looks_ensureSafeDirectory outside _ _).skip (fun _ => ⟨_, rfl⟩) fun _ => ?_
  refine (looks_access outside _ _).skip (fun _ => ⟨_, rfl⟩) fun _ => ?_
  refine leads_read (fun identities read => ?_) nofun
  cases read
  have limited : Leads (whenever ((prepared.manifest.reference.kind,
      prepared.manifest.reference.packageId) ∉ start.identities)
      (enforcePackageIdLimit outside prepared.manifest.reference.kind)) start
      (fun _ _ => (prepared.manifest.reference.kind, prepared.manifest.reference.packageId) ∉
        start.identities → (start.identities.filter fun identity =>
          identity.1 = prepared.manifest.reference.kind).length < maxPackagesPerKind)
      (fun _ _ => True) := by
    rw [leads_whenever]
    refine ⟨fun unknown => ?_, fun known unknown => absurd unknown known⟩
    exact (enforcePackageIdLimit_leads outside _ start).mono (fun _ _ few _ => few)
      (fun _ _ done => done)
  refine Looks.tells (Within.whenever (looks_enforcePackageIdLimit outside _)) limited
    (fun _ _ => ⟨_, rfl⟩) fun _ identity => ?_
  refine (looks_ensureSafeDirectory outside _ _).skip (fun _ => ⟨_, rfl⟩) fun _ => ?_
  rw [leads_bind, leads_modify]
  refine (looks_pathExists outside _ _).tells (pathExists_leads outside _ _ _)
    (fun _ _ => ⟨_, rfl⟩) fun installed found => ?_
  rw [leads_bind, leads_whenever]
  constructor
  · intro _
    refine (looks_verifyInstalledTreeLocked crates outside _).skip (fun _ => ⟨_, rfl⟩)
      fun _ => ?_
    exact ⟨_, rfl⟩
  intro vacant
  have absent : start.trees.contains prepared.manifest.reference = false :=
    found.trans (Bool.eq_false_iff.mpr vacant)
  refine (looks_enforceVersionLimit outside _).tells (enforceVersionLimit_leads outside _ _)
    (fun _ _ => ⟨_, rfl⟩) fun _ versions => ?_
  refine (looks_ensureSafeDirectory outside _ _).skip (fun _ => ⟨_, rfl⟩) fun _ => ?_
  rw [leads_bind, leads_refusing]
  refine ⟨fun small => ?_, fun _ => ⟨_, rfl⟩⟩
  refine (looks_access outside _ _).skip (fun _ => ⟨_, rfl⟩) fun _ => ?_
  rw [leads_refusing]
  refine ⟨fun space => ⟨rfl, ?_⟩, fun _ => ⟨_, rfl⟩⟩
  exact ⟨valid, identity, absent, versions, Nat.le_of_not_lt small, Nat.le_of_not_lt space⟩

/-- A publication that is admitted passes its checks when no access goes wrong. -/
theorem preparePublication_returns {outside : Outside} (preparing : outside.Clear .preparing)
    (start : Store) (admits : start.Admits crates outside prepared) :
    Leads (preparePublication crates outside prepared) start (fun _ _ => True)
      (fun _ _ => False) := by
  have versions : ∀ store : Store, store.trees = start.trees →
      ¬ maxVersionsPerPackage ≤ (store.versionsOf prepared.manifest.reference).length := by
    intro store same
    rw [Store.versionsOf, same]
    exact Nat.not_le_of_lt admits.versions
  have absent := admits.absent
  have small : ¬ u64Max < prepared.inspection.extractedByteLength + freeSpaceOverheadBytes :=
    Nat.not_lt_of_le admits.small
  have space : ¬ outside.availableSpace <
      prepared.inspection.extractedByteLength + freeSpaceOverheadBytes :=
    Nat.not_lt_of_le admits.space
  unfold preparePublication
  dsimp only
  rw [ensureSafeDirectory_clear preparing fun _ => rfl, accessAs_clear preparing rfl,
    ensureSafeDirectory_clear preparing fun _ => rfl, pathExists_clear preparing rfl,
    ensureSafeDirectory_clear preparing fun _ => rfl, accessAs_clear preparing rfl,
    enforcePackageIdLimit, enforceVersionLimit, accessAll_clear preparing rfl,
    accessAll_clear preparing rfl]
  have identity := admits.identity
  simp only [leads_bind, leads_lift, admits.valid, leads_pure, leads_reading, leads_whenever,
    leads_refusing, leads_modify, Except.ok.injEq, forall_eq', reduceCtorEq, false_imp_iff,
    implies_true, and_true, small, space, not_false_eq_true, true_imp_iff, Store.addIdentity,
    absent, Bool.false_eq_true, versions]
  exact fun _ unknown => ⟨trivial, fun many =>
    absurd (identity unknown) (Nat.not_lt_of_le many)⟩

/-- The installed trees and receipts are the same. -/
def SameInstalled (before after : Store) : Prop :=
  ∀ package, after.trees.lookup package = before.trees.lookup package ∧
    after.receipts.lookup package = before.receipts.lookup package

theorem SameInstalled.of_eq {before after : Store} (trees : after.trees = before.trees)
    (receipts : after.receipts = before.receipts) : SameInstalled before after := by
  intro package
  rw [trees, receipts]
  exact ⟨rfl, rfl⟩

theorem SameInstalled.undone {before after : Store} {package : PackageReference}
    {tree : PackageTree} (absent : before.trees.contains package = false)
    (trees : after.trees = (before.trees.insert package tree).erase package)
    (receipts : after.receipts = before.receipts) : SameInstalled before after := by
  intro other
  rw [trees, receipts, Dict.lookup_erase, Dict.lookup_insert]
  refine ⟨?_, rfl⟩
  by_cases same : other = package
  · rw [if_pos same, same]
    exact (Option.not_isSome_iff_eq_none.mp (Bool.eq_false_iff.mp absent)).symm
  · rw [if_neg same, if_neg same]

/-- Nothing stops a publication before its tree stands at the destination. -/
def Store.Publishable (store : Store) : Prop :=
  store.Admits crates outside prepared ∧ ∃ tree, store.Stageable crates outside prepared tree

/-- A publication fails between its tree and its receipt, or between the receipt and its partial
file. -/
def Store.Torn (replace : Bool) (store : Store) : Prop :=
  store.Publishable crates outside prepared ∧
    (outside.Fails .binding ∨ (replace = false ∧ outside.Fails .unlinking ∧
      store.Recordable outside prepared.manifest.reference replace))

/-- The tree and the receipt of a publication that returned. -/
def Store.Publishes (tree : PackageTree) (start after : Store) : Prop :=
  after.trees = start.trees.insert prepared.manifest.reference tree ∧
    after.receipts = start.receipts.insert prepared.manifest.reference
      (.holds (preparedReceipt prepared outside.now false))

/-- The rollback of a publication takes its tree back. -/
theorem rollback_leads {outside : Outside} (undone : outside.Clear .undoing)
    (package : PackageReference) (code : ErrorCode) (start : Store)
    (there : start.trees.contains package = true) :
    Leads (do
      let rolledBack ← attempt do
        accessAs outside .rollback .io
        let tree ← reading fun store => orError (store.trees.lookup package) (Halt.refused .io)
        modify fun store =>
          (store.dropTree package).setBin .staging (outside.fresh .rollback) (.tree tree)
      whenever (rolledBack.isOk = true) do
        ignoring do
          accessAs outside .rollbackDiscard .io
          modify fun store => store.dropBin .staging (outside.fresh .rollback)
      (refuse code : Act Unit)) start (fun _ _ => False)
      (fun halt after => halt = .refused code ∧ after.trees = start.trees.erase package ∧
        after.receipts = start.receipts) := by
  have found := Option.isSome_iff_exists.mp there
  obtain ⟨tree, standing⟩ := found
  have standing : start.trees.lookup package = some tree := standing
  rw [accessAs_clear undone rfl, accessAs_clear undone rfl]
  simp only [leads_bind, leads_attempt, leads_pure, leads_reading, standing, orError,
    Except.ok.injEq, forall_eq', reduceCtorEq, false_imp_iff, implies_true, and_true,
    leads_modify, leads_whenever, leads_ignoring, leads_refuse]
  exact ⟨fun _ => ⟨trivial, rfl, rfl⟩, fun never => absurd rfl never⟩

theorem trustFromPrepared_leads (enabled : Bool) (start : Store) :
    Leads (trustFromPrepared outside prepared enabled) start
      (fun trust _ => trust = preparedReceipt prepared outside.now enabled)
      (fun halt _ => outside.Blames .binding halt) := by
  rw [trustFromPrepared, leads_bind, accessAs, leads_access]
  exact ⟨fun _ => rfl, fun kind code failed _ _ => ⟨_, rfl, kind, code, failed⟩, nofun⟩

/-- A publication puts its tree and its receipt in place, or it is refused and leaves the installed
packages alone, unless it is torn. -/
theorem publishNew_leads {outside : Outside} (undone : outside.Clear .undoing) (replace : Bool)
    (start : Store) :
    Leads (publishNew crates outside prepared replace) start
      (fun _ after => start.Admits crates outside prepared ∧
        start.Recordable outside prepared.manifest.reference replace ∧
        ∃ tree, start.Stageable crates outside prepared tree ∧
          start.Publishes outside prepared tree after)
      (fun halt after => ∀ code, halt = .refused code →
        SameInstalled start after ∨ start.Torn crates outside prepared replace) := by
  unfold publishNew
  dsimp only
  refine (preparePublication_leads crates outside prepared start).bind (fun _ checked ready => ?_)
    (fun halt after failed code _ => Or.inl ?_)
  swap
  · obtain ⟨identities, made⟩ := failed
    rw [made]
    exact .of_eq rfl rfl
  obtain ⟨made, admits⟩ := ready
  rw [made]
  refine (publishTree_leads crates outside prepared _).bind (fun _ published ready => ?_)
    (fun halt after failed code _ => Or.inl ?_)
  swap
  · rw [failed]
    exact .of_eq rfl rfl
  obtain ⟨tree, stageable, standing⟩ := ready
  have stageable : start.Stageable crates outside prepared tree := stageable
  have trees : published.trees = start.trees.insert prepared.manifest.reference tree := by
    rw [standing]
    rfl
  have receipts : published.receipts = start.receipts := by
    rw [standing]
    rfl
  have partials : published.partials = start.partials := by
    rw [standing]
    rfl
  have torn : ∀ halt : Halt, outside.Blames .binding halt → ∀ code, halt = .refused code →
      SameInstalled start published ∨ start.Torn crates outside prepared replace :=
    fun halt blames code refused => Or.inr ⟨⟨admits, tree, stageable⟩, Or.inl (blames code refused)⟩
  have housed : Maintains (fun _ => True) (outside.Blames .binding)
      (ensureSafeDirectory outside .receiptRoot true) :=
    ensureSafeDirectory_blames outside
      (fun part => show (Access.receiptRoot part).stage = .binding from rfl) true
  refine (looks_ensureSafeDirectory outside _ _).tells (housed.raises trivial) torn
    fun _ _ => ?_
  refine (looks_trustFromPrepared outside prepared false).tells
    (trustFromPrepared_leads outside prepared false published) torn fun trust dated => ?_
  rw [leads_bind, leads_onRefusal]
  refine (writeReceipt_leads outside _ trust replace published).mono (fun _ recorded written => ?_)
    (fun halt recorded failed => ?_)
  · have held : start.Publishes outside prepared tree recorded := by
      rw [written.1, dated]
      exact ⟨trees, by rw [receipts]⟩
    refine (removeRuntimeSeal_leads outside _ recorded).bind (fun _ last same => ?_)
      (fun halt last stopped code refused => ?_)
    · have recordable : start.Recordable outside prepared.manifest.reference replace := by
        rw [Store.Recordable, ← receipts, ← partials]
        exact written.2
      rw [leads_pure, same]
      exact ⟨admits, recordable, tree, stageable, held⟩
    · rw [stopped.2.1] at refused
      exact nomatch refused
  cases halt with
  | interrupted => exact nofun
  | refused code =>
    have there : ∀ store : Store, store.trees = published.trees →
        store.trees.contains prepared.manifest.reference = true := by
      intro store same
      rw [same, trees, Dict.contains, Dict.lookup_insert_self]
      rfl
    have recordedTrees : recorded.trees = published.trees := by
      cases failed with
      | inl same => rw [same]
      | inr orphan => rw [orphan.2.left]
    show Leads _ recorded _ _
    refine (rollback_leads undone _ code recorded (there _ recordedTrees)).mono
      (fun _ _ never => never.elim) (fun _ last taken _ _ => ?_)
    cases failed with
    | inl same =>
      left
      apply SameInstalled.undone admits.absent
      · rw [taken.2.1, recordedTrees, trees]
      · rw [taken.2.2, same]
        exact receipts
    | inr orphan =>
      refine Or.inr ⟨⟨admits, tree, stageable⟩, Or.inr ⟨orphan.2.linked,
        orphan.2.stuck code rfl, ?_, ?_⟩⟩
      · rw [← partials]
        exact orphan.1.1
      · rw [← receipts]
        exact orphan.1.2

theorem access_returned (uninterrupted : ∀ place, outside.fault place ≠ some .interrupted)
    (place : Access) (report : IoErrorKind → ErrorCode → ErrorCode) (start : Store) :
    Leads (access outside place report) start (fun _ _ => outside.fault place = none)
      (fun halt _ => ∃ code, halt = .refused code) := by
  rw [leads_access]
  exact ⟨fun clear => clear, fun _ _ _ => ⟨_, rfl⟩,
    fun interrupted => absurd interrupted (uninterrupted place)⟩

/-- Ensuring a directory returns only when none of its accesses goes wrong. -/
theorem ensureSafeDirectory_returned
    (uninterrupted : ∀ place, outside.fault place ≠ some .interrupted)
    (place : DirectoryPart → Access) (start : Store) :
    Leads (ensureSafeDirectory outside place true) start
      (fun _ _ => ∀ part, outside.fault (place part) = none)
      (fun halt _ => ∃ code, halt = .refused code) := by
  have told := fun part report => access_returned outside uninterrupted (place part) report start
  refine (looks_access outside _ _).tells (told .ancestors _) (fun _ failed => failed)
    fun _ ancestors => ?_
  refine Looks.tells (Within.whenever (looks_access outside _ _)) (told .create _)
    (fun _ failed => failed) fun _ create => ?_
  refine (looks_access outside _ _).tells (told .inspect _) (fun _ failed => failed)
    fun _ inspect => ?_
  refine (told .ancestorsAgain _).mono (fun _ _ again part => ?_) (fun _ _ failed => failed)
  cases part with
  | ancestors => exact ancestors
  | create => exact create
  | inspect => exact inspect
  | ancestorsAgain => exact again

section Between

variable {outside}

/-- A tree that can be published is published when no access goes wrong. -/
theorem tree_published (preparing : outside.Clear .preparing)
    (publishing : outside.Clear .publishing) (start : Store)
    (publishable : start.Publishable crates outside prepared) {rest : Act InstallReceipt}
    {returned : InstallReceipt → Store → Prop} {raised : Halt → Store → Prop}
    (goesOn : ∀ tree published, start.Stageable crates outside prepared tree →
      published.trees = start.trees.insert prepared.manifest.reference tree →
      published.receipts = start.receipts → published.partials = start.partials →
      Leads rest published returned raised) :
    Leads (do
      preparePublication crates outside prepared
      publishTree crates outside prepared
      rest) start returned raised := by
  obtain ⟨admits, tree, stageable⟩ := publishable
  refine ((preparePublication_leads crates outside prepared start).and
    (preparePublication_returns crates prepared preparing start admits)).bind
    (fun _ checked ready => ?_) (fun _ _ never => never.2.elim)
  rw [ready.1.1]
  refine ((publishTree_leads crates outside prepared (start.addIdentity _)).and
    (publishTree_returns crates prepared publishing (start.addIdentity _) stageable)).bind
    (fun _ published ready => ?_) (fun _ _ never => never.2.elim)
  obtain ⟨other, staged, standing⟩ := ready.1
  apply goesOn other published staged
  · rw [standing]
    rfl
  · rw [standing]
    rfl
  · rw [standing]
    rfl

/-- A publication that fails between its tree and its receipt leaves the tree behind. -/
theorem publishNew_binding (uninterrupted : ∀ place, outside.fault place ≠ some .interrupted)
    (preparing : outside.Clear .preparing) (publishing : outside.Clear .publishing)
    (fails : outside.Fails .binding) (replace : Bool) (start : Store)
    (publishable : start.Publishable crates outside prepared) :
    Leads (publishNew crates outside prepared replace) start (fun _ _ => False)
      (fun halt after => (∃ code, halt = .refused code) ∧
        (∃ tree, crates.extractPrepared prepared = .ok tree ∧
          after.trees = start.trees.insert prepared.manifest.reference tree) ∧
        after.receipts = start.receipts) := by
  refine tree_published crates prepared preparing publishing start publishable
    fun tree published staged trees receipts _ => ?_
  refine (looks_ensureSafeDirectory outside _ _).tells
    (ensureSafeDirectory_returned outside uninterrupted _ published)
    (fun _ refused => ⟨refused, ⟨tree, staged.2, trees⟩, receipts⟩) fun _ housed => ?_
  rw [trustFromPrepared, bind_assoc]
  refine (looks_access outside _ _).tells
    (access_returned outside uninterrupted _ _ published)
    (fun _ refused => ⟨refused, ⟨tree, staged.2, trees⟩, receipts⟩) fun _ dated => ?_
  obtain ⟨place, here, kind, code, failed⟩ := fails
  have clear : outside.fault place = none := by
    cases place <;> cases here
    · exact housed _
    · exact dated
  rw [clear] at failed
  exact nomatch failed

/-- A publication whose linked receipt keeps its partial file takes the tree back and leaves the
receipt behind. -/
theorem publishNew_unlinking (preparing : outside.Clear .preparing)
    (publishing : outside.Clear .publishing) (binding : outside.Clear .binding)
    (recording : outside.Clear .recording) (undone : outside.Clear .undoing)
    (fails : outside.Fails .unlinking) (start : Store)
    (publishable : start.Publishable crates outside prepared)
    (recordable : start.Recordable outside prepared.manifest.reference false) :
    Leads (publishNew crates outside prepared false) start (fun _ _ => False)
      (fun halt after => (∃ code, halt = .refused code) ∧
        after.receipts = start.receipts.insert prepared.manifest.reference
          (.holds (preparedReceipt prepared outside.now false))) := by
  refine tree_published crates prepared preparing publishing start publishable
    fun tree published _ trees receipts partials => ?_
  rw [ensureSafeDirectory_clear binding fun _ => rfl, trustFromPrepared,
    accessAs_clear binding rfl]
  have recordable : published.Recordable outside prepared.manifest.reference false := by
    rw [Store.Recordable, receipts, partials]
    exact recordable
  obtain ⟨place, here, kind, code, failed⟩ := fails
  have unlink : outside.fault .partialUnlink = some (.failed kind code) := by
    cases place <;> cases here
    exact failed
  show Leads (onRefusal _ _ >>= _) published _ _
  rw [leads_bind, leads_onRefusal]
  refine (writeReceipt_unlinking _ (preparedReceipt prepared outside.now false) recording undone
    published recordable unlink).mono (fun _ _ never => never.elim) (fun halt recorded left => ?_)
  obtain ⟨⟨refusal, refused⟩, written⟩ := left
  rw [refused]
  have there : recorded.trees.contains prepared.manifest.reference = true := by
    rw [written]
    show published.trees.contains prepared.manifest.reference = true
    rw [trees, Dict.contains, Dict.lookup_insert_self]
    rfl
  show Leads _ recorded _ _
  refine (rollback_leads undone _ refusal recorded there).mono (fun _ _ never => never.elim)
    (fun _ last taken => ⟨⟨refusal, taken.1⟩, ?_⟩)
  rw [taken.2.2, written]
  exact congrArg (Dict.insert · _ _) receipts

/-- A publication returns when no access goes wrong. -/
theorem publishNew_returns (preparing : outside.Clear .preparing)
    (publishing : outside.Clear .publishing) (binding : outside.Clear .binding)
    (recording : outside.Clear .recording) (replace : Bool)
    (unlinking : replace = false → outside.Clear .unlinking)
    (uninterrupted : ∀ place, outside.fault place ≠ some .interrupted) (start : Store)
    (publishable : start.Publishable crates outside prepared)
    (recordable : start.Recordable outside prepared.manifest.reference replace) :
    Leads (publishNew crates outside prepared replace) start (fun _ _ => True)
      (fun _ _ => False) := by
  refine tree_published crates prepared preparing publishing start publishable
    fun tree published _ trees receipts partials => ?_
  rw [ensureSafeDirectory_clear binding fun _ => rfl, trustFromPrepared,
    accessAs_clear binding rfl]
  have recordable : published.Recordable outside prepared.manifest.reference replace := by
    rw [Store.Recordable, receipts, partials]
    exact recordable
  show Leads (onRefusal _ _ >>= _) published _ _
  rw [leads_bind, leads_onRefusal]
  refine (writeReceipt_returns _ (preparedReceipt prepared outside.now false) recording replace
    unlinking published recordable).mono (fun _ recorded _ => ?_) (fun _ _ never => never.elim)
  refine (removeRuntimeSeal_leads outside _ recorded).bind (fun _ _ _ => trivial)
    (fun _ _ stopped => ?_)
  obtain ⟨_, _, place, interrupted⟩ := stopped
  exact uninterrupted place interrupted

end Between

end Trees

end LatentDeck.Packages
