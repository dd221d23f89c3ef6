import LatentDeck.Library.Run
import LatentDeck.Packages.Atomicity

/-!
# Which versions are enabled

A receipt says whether its version is enabled. At most one version of a package is to be enabled,
whatever the calls on the store and wherever they are interrupted. Two of the ways to enable a
version look at the other receipts and one looks at the other trees, which is not the same where an
interrupted call left a receipt without its tree.
-/

namespace LatentDeck.Packages

open Effect Fallible

abbrev Receipts : Type := Dict PackageReference ReceiptFile

def EnabledBy (receipts : Receipts) (package : PackageReference) (receipt : TrustReceipt) : Prop :=
  receipts.lookup package = some (.holds receipt) ∧ receipt.enabled = true

/-- At most one version of each package is enabled, and its receipt is readable. -/
structure SoundReceipts (crates : Crates) (receipts : Receipts) : Prop where
  single : ∀ first second firstReceipt secondReceipt, EnabledBy receipts first firstReceipt →
    EnabledBy receipts second secondReceipt → first.sameIdentity second = true → first = second
  valid : ∀ package receipt, EnabledBy receipts package receipt →
    crates.validateTrustReceipt receipt = .ok ()

/-- Every version that is enabled was enabled before, with a receipt as good as the one it has. -/
def EnabledKept (crates : Crates) (before after : Receipts) : Prop :=
  ∀ package receipt, EnabledBy after package receipt → ∃ earlier, EnabledBy before package earlier ∧
    (crates.validateTrustReceipt earlier = .ok () → crates.validateTrustReceipt receipt = .ok ())

def enabledKept (crates : Crates) : Frame Store where
  allows before after := EnabledKept crates before.receipts after.receipts
  refl _ _ receipt enabled := ⟨receipt, enabled, id⟩
  trans earlier later package receipt enabled := by
    obtain ⟨middle, wasEnabled, valid⟩ := later package receipt enabled
    obtain ⟨first, firstEnabled, firstValid⟩ := earlier package middle wasEnabled
    exact ⟨first, firstEnabled, fun isValid => valid (firstValid isValid)⟩

def receiptsKept : Frame Store := .keeping Store.receipts

section Kept

variable {α : Type} {crates : Crates}

theorem receiptsKept_enables {action : Act α} (kept : Within receiptsKept action) :
    Within (enabledKept crates) action := by
  refine kept.mono fun before after same => ?_
  have same : after.receipts = before.receipts := same
  intro package receipt enabled
  rw [same] at enabled
  exact ⟨receipt, enabled, id⟩

theorem installedKept_receipts {action : Act α} (kept : Within installedKept action) :
    Within receiptsKept action :=
  kept.mono fun _ _ same => congrArg Prod.snd same

variable {receipt : TrustReceipt}

theorem EnabledKept.of_disabled (before : Receipts) (package : PackageReference)
    (disabled : receipt.enabled = false) :
    EnabledKept crates before (before.insert package (.holds receipt)) := by
  intro other found enabled
  have lookup := enabled.1
  rw [Dict.lookup_insert] at lookup
  by_cases same : other = package
  · rw [if_pos same] at lookup
    cases lookup
    exact absurd (disabled.symm.trans enabled.2) (by decide)
  · rw [if_neg same] at lookup
    exact ⟨found, ⟨lookup, enabled.2⟩, id⟩

/-- A receipt that takes the place of an enabled one and is as good enables nothing. -/
theorem EnabledKept.of_rewritten {before : Receipts} {package : PackageReference}
    {written : TrustReceipt} (read : before.lookup package = some (.holds receipt))
    (flag : written.enabled = receipt.enabled)
    (valid : crates.validateTrustReceipt receipt = .ok () →
      crates.validateTrustReceipt written = .ok ()) :
    EnabledKept crates before (before.insert package (.holds written)) := by
  intro other found enabled
  have lookup := enabled.1
  rw [Dict.lookup_insert] at lookup
  by_cases same : other = package
  · rw [if_pos same] at lookup
    cases lookup
    exact ⟨receipt, ⟨same ▸ read, flag.symm.trans enabled.2⟩, valid⟩
  · rw [if_neg same] at lookup
    exact ⟨found, ⟨lookup, enabled.2⟩, id⟩

theorem EnabledKept.of_erased (before : Receipts) (package : PackageReference) :
    EnabledKept crates before (before.erase package) := by
  intro other found enabled
  have lookup := enabled.1
  rw [Dict.lookup_erase] at lookup
  by_cases same : other = package
  · rw [if_pos same] at lookup
    exact nomatch lookup
  · rw [if_neg same] at lookup
    exact ⟨found, ⟨lookup, enabled.2⟩, id⟩

/-- Writing a receipt leaves the receipts alone or adds that one. -/
theorem writeReceipt_receipts (outside : Outside) (package : PackageReference)
    (receipt : TrustReceipt) (replace : Bool) (start : Store) :
    Leads (writeReceipt outside package receipt replace) start
      (fun _ after => after.receipts = start.receipts.insert package (.holds receipt))
      (fun _ after => after.receipts = start.receipts ∨
        after.receipts = start.receipts.insert package (.holds receipt)) := by
  refine (writeReceipt_leads outside package receipt replace start).mono
    (fun _ after written => ?_) (fun _ after failed => ?_)
  · rw [written.1]
  · cases failed with
    | inl same =>
      left
      rw [same]
    | inr orphan =>
      right
      rw [orphan.2.left]

theorem writeReceipt_disabled (outside : Outside) (package : PackageReference)
    (disabled : receipt.enabled = false) (replace : Bool) :
    Within (enabledKept crates) (writeReceipt outside package receipt replace) := by
  intro start
  refine (writeReceipt_receipts outside package receipt replace start).mono
    (fun _ after written => ?_) (fun _ after failed => ?_)
  · show EnabledKept crates start.receipts after.receipts
    rw [written]
    exact .of_disabled _ _ disabled
  · show EnabledKept crates start.receipts after.receipts
    cases failed with
    | inl same =>
      rw [same]
      exact (enabledKept crates).refl start
    | inr written =>
      rw [written]
      exact .of_disabled _ _ disabled

end Kept

section Calls

variable (crates : Crates) (outside : Outside) (prepared : PreparedPackage)

theorem publishTree_receipts : Within receiptsKept (publishTree crates outside prepared) := by
  intro start
  refine (publishTree_leads crates outside prepared start).mono (fun _ after published => ?_)
    (fun _ after same => ?_)
  · obtain ⟨tree, _, made⟩ := published
    show after.receipts = start.receipts
    rw [made]
    rfl
  · show after.receipts = start.receipts
    rw [same]

theorem publishNew_enables (replace : Bool) :
    Within (enabledKept crates) (publishNew crates outside prepared replace) := by
  unfold publishNew
  dsimp only
  refine .bind (receiptsKept_enables (installedKept_receipts
    (preparePublication_kept crates outside prepared))) fun _ => ?_
  refine .bind (receiptsKept_enables (publishTree_receipts crates outside prepared)) fun _ => ?_
  refine (looks_ensureSafeDirectory outside _ _).before fun _ => ?_
  refine .bind_told ((looks_trustFromPrepared outside prepared false).within _)
    (fun start => (trustFromPrepared_leads outside prepared false start).mono
      (fun _ _ made => made) fun _ _ _ => trivial) fun trust made => ?_
  refine .bind (within_onRefusal (writeReceipt_disabled outside _ (by rw [made]; rfl) _)
    fun code => receiptsKept_enables ?_) fun _ => ?_
  · refine .bind (within_attempt ((looks_access outside _ _).before fun _ =>
      .reads fun _ => .modify fun _ => rfl)) fun _ => ?_
    refine .bind (.whenever (within_ignoring ((looks_access outside _ _).before fun _ =>
      .modify fun _ => rfl))) fun _ => ?_
    exact (looks_refuse _).within _
  · exact .bind (receiptsKept_enables (installedKept_receipts
      (removeRuntimeSeal_kept outside _))) fun _ => .pure _

theorem install_enables (request : InstallRequest) (bundledIndex : Option BundledPackageIndex) :
    Within (enabledKept crates) (install crates outside request bundledIndex) :=
  (looks_validateRoots outside).before fun _ =>
    (looks_lift _).before fun _ =>
      .bind (receiptsKept_enables (installedKept_receipts (enterLocked_kept outside)))
        fun _ => publishNew_enables crates outside _ _

theorem quarantineTree_receipts (package : PackageReference) :
    Within receiptsKept (quarantineTree outside package) :=
  (looks_ensureSafeDirectory outside _ _).before fun _ =>
    (looks_access outside _ _).before fun _ =>
      .reads fun _ => .bind (.modify fun _ => rfl) fun _ => .pure _

theorem restoreTree_receipts (package : PackageReference) (tree : PackageTree) :
    Within receiptsKept (restoreTree outside package tree) :=
  within_ignoring ((looks_access outside _ _).before fun _ => .reads fun _ =>
      (looks_refusing _ _).before fun _ => .modify fun _ => rfl)

theorem replaceTree_enables :
    Within (enabledKept crates) (replaceTree crates outside prepared) := by
  refine .bind (receiptsKept_enables (quarantineTree_receipts outside _)) fun old => ?_
  refine .bind (within_onRefusal (publishNew_enables crates outside prepared true)
    fun code => receiptsKept_enables ?_) fun _ => ?_
  · refine .bind (within_attempt ((looks_pathExists outside _ _).within _)) fun _ => ?_
    refine .bind (.whenever (restoreTree_receipts outside _ _)) fun _ => ?_
    exact (looks_refuse _).within _
  · exact .bind (receiptsKept_enables (installedKept_receipts
      (discardQuarantine_kept outside _))) fun _ => .pure _

theorem repair_enables (request : InstallRequest) (bundledIndex : Option BundledPackageIndex) :
    Within (enabledKept crates) (repair crates outside request bundledIndex) := by
  refine (looks_validateRoots outside).before fun _ => ?_
  refine (looks_lift _).before fun prepared => ?_
  refine .bind (receiptsKept_enables (installedKept_receipts (enterLocked_kept outside)))
    fun _ => ?_
  refine (looks_pathExists outside _ _).before fun _ => ?_
  refine .ite (publishNew_enables crates outside _ _) ?_
  refine (looks_ensureNotInUseLocked outside _).before fun _ => ?_
  refine (looks_repairGate crates outside _).before fun _ => ?_
  refine (looks_refusing _ _).before fun _ => ?_
  refine (looks_treeMatches crates outside _).before fun _ => ?_
  refine .ite ?_ (replaceTree_enables crates outside prepared)
  refine .bind_told ((looks_trustFromPrepared outside prepared false).within _)
    (fun start => (trustFromPrepared_leads outside prepared false start).mono
      (fun _ _ made => made) fun _ _ _ => trivial) fun trust made => ?_
  refine .bind (writeReceipt_disabled outside _ (by rw [made]; rfl) _) fun _ => ?_
  exact .bind (receiptsKept_enables (installedKept_receipts
    (removeRuntimeSeal_kept outside _))) fun _ => .pure _

theorem disable_enables (package : PackageReference) :
    Within (enabledKept crates) (disable crates outside package) := by
  refine (looks_enterFor crates outside package).before fun _ => ?_
  refine .bind (receiptsKept_enables (installedKept_receipts
    (prepareLockedRoots_kept outside))) fun _ => ?_
  refine (looks_access outside _ _).before fun _ => ?_
  refine .reads fun _ => ?_
  refine (looks_refusing _ _).before fun _ => ?_
  refine (looks_readTrustReceipt crates outside _ _).before fun _ => ?_
  refine (looks_lift _).before fun _ => ?_
  refine .bind (writeReceipt_disabled outside _ rfl _) fun _ => ?_
  exact .bind (receiptsKept_enables (installedKept_receipts
    (removeRuntimeSeal_kept outside _))) fun _ => .pure _

theorem remove_enables (package : PackageReference) (allowCorrupt : Bool) :
    Within (enabledKept crates) (remove crates outside package allowCorrupt) := by
  rw [remove_eq]
  refine (looks_enterFor crates outside package).before fun _ => ?_
  refine .bind (receiptsKept_enables (installedKept_receipts
    (prepareLockedRoots_kept outside))) fun _ => ?_
  refine (looks_pathExists outside _ _).before fun _ => ?_
  refine (looks_refusing _ _).before fun _ => ?_
  refine (looks_ensureNotInUseLocked outside _).before fun _ => ?_
  refine .bind (within_attempt ((looks_verifyInstalledTreeLocked crates outside _).within _))
    fun verified => ?_
  have gate : Within (enabledKept crates) (removalGate allowCorrupt verified) := by
    cases verified with
    | ok result => exact (looks_refusing _ _).within _
    | error code => exact (looks_refusing _ _).within _
  refine .bind gate fun _ => ?_
  refine .bind (receiptsKept_enables (quarantineTree_receipts outside _)) fun old => ?_
  refine (looks_access outside _ _).before fun _ => ?_
  refine .reads fun _ => ?_
  have forgets : Within (enabledKept crates) (modify fun store => store.dropReceipt package :
      Act PUnit) := .modify fun start => EnabledKept.of_erased start.receipts package
  refine .bind (.whenever (within_onRefusal ((looks_access outside _ _).before fun _ => forgets)
    fun code => ?_)) fun _ => ?_
  · exact .bind (receiptsKept_enables (restoreTree_receipts outside _ _)) fun _ =>
      (looks_refuse _).within _
  refine .bind (receiptsKept_enables (installedKept_receipts
    (removeRuntimeSeal_kept outside _))) fun _ => ?_
  refine .bind (receiptsKept_enables (installedKept_receipts
    (discardQuarantine_kept outside _))) fun _ => ?_
  have prunes : Within receiptsKept (modify fun store => store.pruneIdentity package :
      Act PUnit) := .modify fun _ => rfl
  exact .bind (receiptsKept_enables prunes) fun _ => .pure _

variable {α : Type}

theorem kept_then {β δ : Type} {view : Store → δ} {action : Act β} {next : β → Act α}
    {fact : β → Prop} {returned : α → Store → Prop} {raised : Halt → Store → Prop}
    (kept : Within (.keeping view) action) (start : Store)
    (told : Leads action start (fun value _ => fact value) (fun _ _ => True))
    (failed : ∀ halt after, view after = view start → raised halt after)
    (rest : ∀ value middle, fact value → view middle = view start →
      Leads (next value) middle returned raised) :
    Leads (action >>= next) start returned raised := by
  exact ((kept start).and told).bind (fun value middle both => rest value middle both.2 both.1)
    (fun halt after both => failed halt after both.1)

theorem readTrustReceipt_leads (place : Access) (package : PackageReference) (start : Store) :
    Leads (readTrustReceipt crates outside place package) start
      (fun receipt _ => start.receipts.lookup package = some (.holds receipt) ∧
        crates.validateTrustReceipt receipt = .ok ()) (fun _ _ => True) := by
  refine (looks_access outside _ _).skip (fun _ => trivial) fun _ => ?_
  rw [leads_reading]
  refine ⟨fun receipt read => ?_, fun _ _ => trivial⟩
  have read := (mapError_eq_ok ..).mp read
  cases found : start.receipts.lookup package with
  | none =>
    rw [found] at read
    exact nomatch read
  | some file =>
    rw [found] at read
    cases file with
    | unreadable code => exact nomatch read
    | holds receipt =>
      rw [Crates.receiptIn, check_eq_ok] at read
      cases read.2
      exact ⟨rfl, read.1⟩

theorem validateTrustReceipt_eq_ok (receipt : TrustReceipt) :
    crates.validateTrustReceipt receipt = .ok () ↔
      (crates.validatePackageReference receipt.package = .ok () ∧
        validateSha256 receipt.archiveSha256 = .ok () ∧
        validateSha256 receipt.manifestSha256 = .ok () ∧
        validateSha256 receipt.integrityCatalogSha256 = .ok () ∧
        receipt.archiveByteLength ≠ 0 ∧ crates.isRfc3339 receipt.installedAtUtc = true) ∧
      ∀ sealSha256, receipt.runtimeSealSha256 = some sealSha256 → isSha256 sealSha256 = true := by
  unfold Crates.validateTrustReceipt
  cases receipt.runtimeSealSha256 with
  | none =>
    dsimp only
    iterate 6 rw [check_eq_ok]
    rw [refuseWhen_eq_ok, refuseWhen_eq_ok]
    simp
  | some sealSha256 =>
    dsimp only
    iterate 6 rw [check_eq_ok]
    rw [refuseWhen_eq_ok, refuseWhen_eq_ok]
    simp only [validateSha256, invalidWhen, refuseWhen_eq_ok, not_not, ne_eq, Option.some.injEq,
      forall_eq']
    tauto

variable {receipt : TrustReceipt}

theorem validateTrustReceipt_sealed (valid : crates.validateTrustReceipt receipt = .ok ())
    (enabled : Bool) {runtimeSeal : Option String}
    (digest : ∀ sealSha256, runtimeSeal = some sealSha256 → isSha256 sealSha256 = true) :
    crates.validateTrustReceipt
      { receipt with enabled := enabled, runtimeSealSha256 := runtimeSeal } = .ok () :=
  (validateTrustReceipt_eq_ok crates _).mpr
    ⟨((validateTrustReceipt_eq_ok crates receipt).mp valid).1, digest⟩

/-- A sealed receipt differs from the given one in its seal alone, which is absent or a digest. -/
def Sealed (receipt updated : TrustReceipt) : Prop :=
  ∃ runtimeSeal, updated = { receipt with runtimeSealSha256 := runtimeSeal } ∧
    ∀ sealSha256, runtimeSeal = some sealSha256 → isSha256 sealSha256 = true

/-- Preparing a seal changes a receipt in its seal alone. -/
theorem prepareRuntimeSeal_leads (package : PackageReference) (receipt : TrustReceipt)
    (start : Store) :
    Leads (prepareRuntimeSeal crates outside package receipt) start
      (fun updated _ => Sealed receipt updated) (fun _ _ => True) := by
  have unsealed : Sealed receipt { receipt with runtimeSealSha256 := none } :=
    ⟨none, rfl, nofun⟩
  rw [prepareRuntimeSeal, leads_ite]
  refine ⟨fun _ => unsealed, fun _ => ?_⟩
  cases outside.sealBuilt with
  | none => exact leads_last (fun _ _ => trivial) fun _ _ => unsealed
  | some bytes =>
    refine leads_last (fun _ _ => trivial) fun written _ => ?_
    cases written with
    | ok done =>
      refine ⟨some (crates.sha256 bytes), rfl, fun sealSha256 same => ?_⟩
      cases same
      exact crates.sha256_canonical bytes
    | error code => exact leads_last (fun _ _ => trivial) fun _ _ => unsealed

variable {package : PackageReference}

/-- Writing a sealed form of the receipt that is there enables nothing. -/
theorem writeReceipt_sealed {updated : TrustReceipt} (start : Store)
    (read : start.receipts.lookup package = some (.holds receipt))
    (isSealed : Sealed receipt updated) :
    Leaves (writeReceipt outside package updated true) start
      (EnabledKept crates start.receipts ·.receipts) := by
  obtain ⟨runtimeSeal, made, digest⟩ := isSealed
  have kept : EnabledKept crates start.receipts
      (start.receipts.insert package (.holds updated)) := by
    apply EnabledKept.of_rewritten read
    · rw [made]
    · intro valid
      rw [made]
      exact validateTrustReceipt_sealed crates valid _ digest
  refine (writeReceipt_receipts outside package updated true start).mono
    (fun _ after written => ?_) (fun _ after failed => ?_)
  · rw [written]
    exact kept
  · cases failed with
    | inl same =>
      rw [same]
      exact (enabledKept crates).refl start
    | inr written =>
      rw [written]
      exact kept

theorem verify_enables (package : PackageReference) :
    Within (enabledKept crates) (verify crates outside package) := by
  intro start
  have same : ∀ (after : Store), after.receipts = start.receipts →
      EnabledKept crates start.receipts after.receipts := by
    intro after same
    rw [same]
    exact (enabledKept crates).refl start
  have failed : ∀ (halt : Halt), EnabledKept crates start.receipts start.receipts :=
    fun _ => same start rfl
  refine (looks_enterFor crates outside package).skip failed fun _ => ?_
  refine (looks_pathExists outside _ _).skip failed fun _ => ?_
  refine (looks_refusing _ _).skip failed fun _ => ?_
  refine (looks_readTrustReceipt crates outside _ _).tells
    (readTrustReceipt_leads crates outside _ package start) (fun halt _ => failed halt)
    fun receipt read => ?_
  refine (looks_lift _).skip failed fun _ => ?_
  refine (looks_pinInstalledTree crates outside _).skip failed fun _ => ?_
  refine (looks_lift _).skip failed fun _ => ?_
  refine kept_then (installedKept_receipts (prepareRuntimeSeal_kept crates outside _ _)) start
    (prepareRuntimeSeal_leads crates outside package receipt start) (fun _ after => same after)
    fun updated middle isSealed kept => ?_
  rw [leads_bind]
  have written := writeReceipt_sealed crates outside middle (kept ▸ read.1) isSealed
  rw [kept] at written
  exact written.mono (fun _ _ held => held) (fun _ _ held => held)

/-- A receipt binds the hashes of a pinned tree of a package. -/
structure Binds (package : PackageReference) (receipt : TrustReceipt)
    (validated : ValidatedDirectory) : Prop where
  reference : validated.manifest.reference = package
  manifest : validated.manifestSha256 = receipt.manifestSha256
  catalog : validated.integrityCatalogSha256 = receipt.integrityCatalogSha256

theorem binds_of_hashBound {validated : ValidatedDirectory}
    (bound : validateHashBoundReceipt validated receipt package = .ok ()) :
    Binds package receipt validated := by
  rw [validateHashBoundReceipt, refuseWhen_eq_ok, not_or, not_or] at bound
  exact ⟨not_not.mp bound.1, not_not.mp bound.2.1, not_not.mp (not_or.mp bound.2.2).1⟩

/-- The tree of a package is pinned, with all its payload hashed or, for a codec with a runtime seal,
without. -/
def Pins (store : Store) (package : PackageReference) (validated : ValidatedDirectory) : Prop :=
  ∃ tree, store.trees.lookup package = some tree ∧
    (crates.pinAndValidatePackageTree tree package.kind = .ok validated ∨
      (package.kind = .codecPack ∧
        crates.pinCodecTreeWithoutPayloadHash tree = .ok validated))

theorem pinInstalledTree_leads (package : PackageReference) (start : Store) :
    Leads (pinInstalledTree crates outside package) start
      (fun validated _ => ∃ tree, start.trees.lookup package = some tree ∧
        crates.pinAndValidatePackageTree tree package.kind = .ok validated)
      (fun _ _ => True) := by
  refine (looks_access outside _ _).skip (fun _ => trivial) fun _ => ?_
  refine leads_read (fun tree found => ?_) fun _ _ => trivial
  rw [leads_lift]
  exact ⟨fun _ pinned => ⟨tree, (orError_eq_ok ..).mp found, pinned⟩, fun _ _ => trivial⟩

/-- A tree that is pinned by its runtime seal is bound by the receipt. -/
theorem tryPinFromRuntimeSeal_leads (package : PackageReference) (receipt : TrustReceipt)
    (start : Store) :
    Leads (tryPinFromRuntimeSeal crates outside package receipt) start
      (fun found _ => ∀ validated, found = some validated →
        Binds package receipt validated ∧ ∃ tree, start.trees.lookup package = some tree ∧
          crates.pinCodecTreeWithoutPayloadHash tree = .ok validated)
      (fun _ _ => True) := by
  unfold tryPinFromRuntimeSeal
  cases receipt.runtimeSealSha256 with
  | none => rintro _ ⟨⟩
  | some expected =>
    refine Looks.skip (within_attempt (looks_access outside _ _)) (fun _ => trivial)
      fun read => ?_
    refine leads_read (fun found _ => ?_) fun _ _ => trivial
    cases read with
    | error code => rintro _ ⟨⟩
    | ok done =>
      cases found with
      | none => rintro _ ⟨⟩
      | some bytes =>
        refine (looks_access outside _ _).skip (fun _ => trivial) fun _ => ?_
        refine leads_read (fun tree standing => ?_) fun _ _ => trivial
        refine leads_lifted (fun validated pinned => ?_) fun _ _ => trivial
        refine leads_lifted (fun _ bound => ?_) fun _ _ => trivial
        rw [leads_ite]
        refine ⟨by rintro _ _ ⟨⟩, fun _ => ?_⟩
        refine leads_lifted (fun holds _ => ?_) fun _ _ => trivial
        rw [leads_pure]
        cases holds with
        | false => rintro _ ⟨⟩
        | true =>
          intro other same
          cases same
          exact ⟨binds_of_hashBound bound, tree, (orError_eq_ok ..).mp standing, pinned⟩

theorem persistRuntimeSeal_enables (start : Store)
    (read : start.receipts.lookup package = some (.holds receipt)) :
    Leaves (persistRuntimeSeal crates outside package receipt) start
      (EnabledKept crates start.receipts ·.receipts) := by
  refine kept_then (installedKept_receipts (prepareRuntimeSeal_kept crates outside _ _)) start
    (prepareRuntimeSeal_leads crates outside package receipt start)
    (fun _ after same => by rw [show after.receipts = start.receipts from same]
                            exact (enabledKept crates).refl start)
    fun updated middle isSealed kept => ?_
  have kept : middle.receipts = start.receipts := kept
  have written := writeReceipt_sealed crates outside middle (kept ▸ read) isSealed
  rw [kept] at written
  rw [leads_bind, leads_attempt]
  refine written.mono (fun _ _ held => held) (fun halt after held => ?_)
  cases halt with
  | refused code => exact held
  | interrupted => exact held

/-- Pinning the active tree enables nothing and gives a tree that the receipt binds. -/
theorem pinActiveTree_leads (start : Store)
    (read : start.receipts.lookup package = some (.holds receipt)) :
    Leads (pinActiveTree crates outside package receipt) start
      (fun pinned after => EnabledKept crates start.receipts after.receipts ∧
        Binds package receipt pinned.1 ∧ Pins crates start package pinned.1)
      (fun _ after => EnabledKept crates start.receipts after.receipts) := by
  have refl := (enabledKept crates).refl start
  have sealedLooks : Looks (if package.kind = .codecPack then
      tryPinFromRuntimeSeal crates outside package receipt else pure none) :=
    .ite (looks_tryPinFromRuntimeSeal crates outside package receipt) (.pure none)
  have told : Leads (if package.kind = .codecPack then
      tryPinFromRuntimeSeal crates outside package receipt else pure none) start
      (fun found _ => ∀ validated, found = some validated →
        Binds package receipt validated ∧ Pins crates start package validated)
      (fun _ _ => True) := by
    rw [leads_ite]
    refine ⟨fun codec => ?_, by rintro _ _ ⟨⟩⟩
    refine (tryPinFromRuntimeSeal_leads crates outside package receipt start).mono
      (fun _ _ held validated same => ?_) (fun _ _ done => done)
    obtain ⟨binds, tree, standing, pinned⟩ := held validated same
    exact ⟨binds, tree, standing, Or.inr ⟨codec, pinned⟩⟩
  have split : pinActiveTree crates outside package receipt =
      ((if package.kind = .codecPack then tryPinFromRuntimeSeal crates outside package receipt
        else pure none : Act (Option ValidatedDirectory)) >>= fun sealedTree =>
          sealedTree.elim (do
            let validated ← pinInstalledTree crates outside package
            lift (validateHashBoundReceipt validated receipt package)
            let persisted ← persistRuntimeSeal crates outside package receipt
            pure (validated, persisted, 1)) fun validated => pure (validated, receipt, 0)) := by
    unfold pinActiveTree
    by_cases codec : package.kind = .codecPack
    · simp only [if_pos codec]
      exact bind_congr fun found => by cases found <;> rfl
    · simp only [if_neg codec, pure_bind]
      rfl
  rw [split]
  refine sealedLooks.tells told (fun _ _ => refl) fun found held => ?_
  cases found with
  | some validated => exact ⟨refl, held validated rfl⟩
  | none =>
    refine (looks_pinInstalledTree crates outside _).tells
      (pinInstalledTree_leads crates outside package start) (fun _ _ => refl)
      fun validated pinned => ?_
    refine leads_lifted (fun _ bound => ?_) fun _ _ => refl
    obtain ⟨tree, standing, pinned⟩ := pinned
    exact (persistRuntimeSeal_enables crates outside start read).bind
      (fun _ _ kept => ⟨kept, binds_of_hashBound bound, tree, standing, Or.inl pinned⟩)
      (fun _ _ kept => kept)

/-- Under a lease an action leads where it leads without, as far as the receipts go. -/
theorem underLease_leads {action : Act α} (start : Store) {returned : α → Receipts → Prop}
    {raised : Receipts → Prop} (failed : raised start.receipts)
    (leads : ∀ middle : Store, middle.trees = start.trees → middle.receipts = start.receipts →
      Leads action middle (fun value after => returned value after.receipts)
        (fun _ after => raised after.receipts)) :
    Leads (underLease outside package action) start
      (fun value after => returned value after.receipts) (fun _ after => raised after.receipts) := by
  have taken := takeLease_kept outside package start
  rw [underLease, leads_bind]
  refine taken.mono (fun _ middle same => ?_) (fun _ middle same => ?_)
  · have same : (middle.trees, middle.receipts) = (start.trees, start.receipts) := same
    rw [Prod.mk.injEq] at same
    rw [leads_catching]
    exact (leads middle same.1 same.2).mono (fun _ _ held => held) (fun _ _ held => held)
  · have same : (middle.trees, middle.receipts) = (start.trees, start.receipts) := same
    rw [Prod.mk.injEq] at same
    rw [same.2]
    exact failed

/-- What a resolution of the active version gives: the version is enabled, and its receipt binds the
hashes of the tree. -/
def Resolves (store : Store) (package : PackageReference) (active : ActiveInstalledPackage) :
    Prop :=
  ∃ receipt validated, EnabledBy store.receipts package receipt ∧
    Pins crates store package validated ∧ Binds package receipt validated ∧
    active.package.package = package ∧ active.package.manifest = validated.manifest ∧
    active.expectedFiles = validated.files

/-- The manifest of a pinned deck was accepted. -/
theorem Pins.accepted {store : Store} {validated : ValidatedDirectory} {manifest : DeckPackManifest}
    (pins : Pins crates store package validated) (deck : validated.manifest = .deck manifest) :
    crates.validateDeckManifest manifest = .ok () := by
  obtain ⟨tree, -, pinned⟩ := pins
  have contract : ∃ kind files directories contents,
      crates.validateContract kind files directories contents = .ok validated := by
    rcases pinned with pinned | ⟨-, pinned⟩
    · rw [Crates.pinAndValidatePackageTree, bind_eq_ok] at pinned
      obtain ⟨_, -, rest⟩ := pinned
      rw [check_eq_ok, bind_eq_ok] at rest
      obtain ⟨-, _, -, rest⟩ := rest
      obtain ⟨made, contract, rest⟩ := ok_of_bind rest
      rw [check_eq_ok, check_eq_ok] at rest
      cases rest.2.2
      exact ⟨_, _, _, _, contract⟩
    · rw [Crates.pinCodecTreeWithoutPayloadHash, bind_eq_ok] at pinned
      obtain ⟨_, -, rest⟩ := pinned
      rw [check_eq_ok, check_eq_ok, bind_eq_ok] at rest
      obtain ⟨-, -, made, contract, rest⟩ := rest
      rw [check_eq_ok, check_eq_ok] at rest
      cases rest.2.2
      exact ⟨_, _, _, _, contract⟩
  obtain ⟨kind, _, _, _, contract⟩ := contract
  obtain ⟨_, -, parsed, -⟩ := (validateContract_controls crates contract).manifest
  rw [deck] at parsed
  cases kind with
  | deckPack =>
    rw [Crates.parseManifest, bind_eq_ok] at parsed
    obtain ⟨_, -, rest⟩ := parsed
    rw [check_eq_ok] at rest
    cases rest.2
    exact rest.1
  | codecPack =>
    rw [Crates.parseManifest, bind_eq_ok] at parsed
    obtain ⟨_, -, rest⟩ := parsed
    rw [check_eq_ok] at rest
    cases rest.2

/-- Resolving the active version enables nothing and gives what is enabled. -/
theorem resolveActive_leads (package : PackageReference) (start : Store) :
    Leads (resolveActive crates outside package) start
      (fun active after => EnabledKept crates start.receipts after.receipts ∧
        Resolves crates start package active)
      (fun _ after => EnabledKept crates start.receipts after.receipts) := by
  have refl := (enabledKept crates).refl start
  refine (looks_enterFor crates outside package).skip (fun _ => refl) fun _ => ?_
  refine kept_then (prepareLockedRoots_kept outside) start
    ((prepareLockedRoots_leads outside start).mono (fun _ _ _ => trivial) fun _ _ _ => trivial)
    (fun _ after same => ?_) fun _ middle _ same => ?_
  · have receipts : after.receipts = start.receipts := congrArg Prod.snd same
    rw [receipts]
    exact refl
  have trees : middle.trees = start.trees := congrArg Prod.fst same
  have receipts : middle.receipts = start.receipts := congrArg Prod.snd same
  have failed : EnabledKept crates start.receipts middle.receipts := by
    rw [receipts]
    exact refl
  refine (looks_pathExists outside _ _).skip (fun _ => failed) fun _ => ?_
  refine (looks_refusing _ _).skip (fun _ => failed) fun _ => ?_
  refine (looks_readTrustReceipt crates outside _ _).tells
    (readTrustReceipt_leads crates outside _ package middle) (fun _ _ => failed)
    fun receipt read => ?_
  refine (looks_lift _).skip (fun _ => failed) fun _ => ?_
  refine leads_unless (fun enabled => ?_) fun _ => failed
  have isEnabled : EnabledBy start.receipts package receipt :=
    ⟨receipts ▸ read.1, (Bool.not_eq_false _).mp enabled⟩
  refine @underLease_leads outside _ package _ middle
    (fun active after => EnabledKept crates start.receipts after ∧
      Resolves crates start package active)
    (fun after => EnabledKept crates start.receipts after) failed
    fun leased leasedTrees leasedReceipts => ?_
  have readLeased : leased.receipts.lookup package = some (.holds receipt) := by
    rw [leasedReceipts]
    exact read.1
  rw [leads_bind, ← receipts, ← leasedReceipts]
  refine (pinActiveTree_leads crates outside leased readLeased).mono (fun pinned after held => ?_)
    (fun _ _ kept => kept)
  obtain ⟨kept, binds, tree, standing, how⟩ := held
  rw [leasedTrees, trees] at standing
  exact ⟨kept, receipt, pinned.1, isEnabled, ⟨tree, standing, how⟩, binds, rfl, rfl, rfl⟩

/-- A version of the package of a reference, other than itself, is enabled. -/
def OtherEnabled (store : Store) (package : PackageReference) : Prop :=
  ∃ other receipt, package.sameIdentity other = true ∧ other ≠ package ∧
    EnabledBy store.receipts other receipt

/-- The scan of the other receipts reads none that is valid and enabled. -/
def Overlooked (store : Store) (package : PackageReference) : Prop :=
  (∃ kind code, outside.fault .otherReceiptRoot = some (.failed kind code)) ∨
    ∀ (index : Nat) (receipt : TrustReceipt),
      (store.otherReceiptFiles package)[index]? = some (.holds receipt) → receipt.enabled = true →
        crates.validateTrustReceipt receipt = .ok () →
          ∃ kind code, outside.fault (.otherReceipt index) = some (.failed kind code)

theorem checkOtherReceipts_leads (index : Nat) (files : List ReceiptFile) (start : Store) :
    Leads (checkOtherReceipts crates outside index files) start
      (fun _ _ => ∀ (place : Nat) (receipt : TrustReceipt),
        files[place]? = some (.holds receipt) → receipt.enabled = true →
          crates.validateTrustReceipt receipt = .ok () →
            ∃ kind code, outside.fault (.otherReceipt (index + place)) = some (.failed kind code))
      (fun _ _ => True) := by
  induction files generalizing index with
  | nil =>
    intro place receipt never
    rw [List.getElem?_nil] at never
    exact nomatch never
  | cons file files ih =>
    have told : Leads (attempt do
        accessAll outside (.otherReceipt index)
        lift (crates.receiptIn (some file))) start
        (fun read _ => read = crates.receiptIn (some file) ∨
          ∃ kind code, outside.fault (.otherReceipt index) = some (.failed kind code))
        (fun _ _ => True) := by
      rw [leads_attempt, leads_bind, accessAll, leads_access]
      refine ⟨fun _ => ?_, fun kind code failed => Or.inr ⟨kind, code, failed⟩, fun _ => trivial⟩
      rw [leads_lift]
      exact ⟨fun _ read => Or.inl read.symm, fun _ read => Or.inl read.symm⟩
    have looks : Looks (attempt do
        accessAll outside (.otherReceipt index)
        lift (crates.receiptIn (some file))) :=
      within_attempt (.bind (looks_access outside _ _) fun _ => looks_lift _)
    refine looks.tells told (fun _ _ => trivial) fun read made => ?_
    refine leads_unless (fun unseen => ?_) fun _ => trivial
    refine (ih (index + 1)).mono (fun _ _ later => ?_) (fun _ _ done => done)
    intro place receipt found enabled valid
    cases place with
    | succ place =>
      have shifted := later place receipt found enabled valid
      rw [Nat.add_assoc, Nat.add_comm 1] at shifted
      exact shifted
    | zero =>
      cases made with
      | inr failed => exact failed
      | inl made =>
        have same : file = .holds receipt := Option.some.inj found
        rw [same, Crates.receiptIn, valid] at made
        rw [made] at unseen
        exact absurd ⟨receipt, rfl, enabled⟩ unseen

theorem otherReceiptFiles_lists {store : Store} {other : PackageReference}
    (same : package.sameIdentity other = true) (different : other ≠ package)
    (found : store.receipts.lookup other = some (.holds receipt)) :
    ∃ index : Nat, (store.otherReceiptFiles package)[index]? = some (.holds receipt) := by
  have listed : (other, ReceiptFile.holds receipt) ∈ store.receipts.entries :=
    Dict.mem_entries_of_lookup found
  have member : ReceiptFile.holds receipt ∈ store.otherReceiptFiles package := by
    refine List.mem_append.mpr (Or.inl (List.mem_map.mpr ⟨(other, .holds receipt), ?_, rfl⟩))
    exact List.mem_filter.mpr ⟨listed, by simp [same, different]⟩
  exact List.mem_iff_getElem?.mp member

/-- The check for other enabled versions returns only where there are none, or where the scan
overlooked them. -/
theorem ensureNoOtherEnabledVersion_leads (package : PackageReference) (start : Store) :
    Leads (ensureNoOtherEnabledVersion crates outside package) start
      (fun _ _ => Overlooked crates outside start package) (fun _ _ => True) := by
  have told : Leads (attempt (accessAll outside .otherReceiptRoot)) start
      (fun inspected _ => inspected.isOk = false →
        ∃ kind code, outside.fault .otherReceiptRoot = some (.failed kind code))
      (fun _ _ => True) := by
    rw [leads_attempt, accessAll, leads_access]
    refine ⟨by rintro _ ⟨⟩, fun kind code failed _ => ?_, fun _ => trivial⟩
    exact ⟨kind, code, failed⟩
  refine (Looks.tells (within_attempt (looks_access outside _ _)) told (fun _ _ => trivial)
    fun inspected missed => ?_)
  rw [leads_whenever]
  constructor
  · intro _
    refine (looks_access outside _ _).skip (fun _ => trivial) fun _ => ?_
    refine leads_read (fun files listed => ?_) fun _ _ => trivial
    cases listed
    refine (checkOtherReceipts_leads crates outside 0 _ start).mono (fun _ _ read => ?_)
      (fun _ _ done => done)
    right
    intro index receipt found enabled valid
    have failed := read index receipt found enabled valid
    rw [Nat.zero_add] at failed
    exact failed
  · intro failed
    exact Or.inl (missed ((Bool.not_eq_true _).mp failed))

/-- What a call that enables a version does to the receipts: it enables nothing but that version,
whose receipt is valid then. -/
def Enables (before after : Receipts) (package : PackageReference) : Prop :=
  ∀ other receipt, EnabledBy after other receipt →
    (other = package ∧ crates.validateTrustReceipt receipt = .ok ()) ∨
      ∃ earlier, EnabledBy before other earlier ∧
        (crates.validateTrustReceipt earlier = .ok () → crates.validateTrustReceipt receipt = .ok ())

variable {before : Receipts}

theorem EnabledKept.enables {crates : Crates} {after : Receipts}
    (kept : EnabledKept crates before after) (package : PackageReference) :
    Enables crates before after package :=
  fun other receipt enabled => Or.inr (kept other receipt enabled)

theorem enableValidated_leads (start : Store)
    (valid : crates.validateTrustReceipt receipt = .ok ()) :
    Leaves (enableValidated crates outside package receipt) start
      (Enables crates start.receipts ·.receipts package) := by
  have same : ∀ after : Store, after.receipts = start.receipts →
      Enables crates start.receipts after.receipts package := by
    intro after same
    rw [same]
    exact EnabledKept.enables ((enabledKept crates).refl start) package
  refine (looks_pinInstalledTree crates outside _).skip (fun _ => same start rfl) fun _ => ?_
  refine (looks_lift _).skip (fun _ => same start rfl) fun _ => ?_
  refine kept_then (installedKept_receipts (prepareRuntimeSeal_kept crates outside _ _)) start
    (prepareRuntimeSeal_leads crates outside package { receipt with enabled := true } start)
    (fun _ after => same after) fun updated middle isSealed kept => ?_
  obtain ⟨runtimeSeal, made, digest⟩ := isSealed
  have kept : middle.receipts = start.receipts := kept
  have written : ∀ after : Store,
      after.receipts = middle.receipts.insert package (.holds updated) →
        Enables crates start.receipts after.receipts package := by
    intro after inserted other found enabled
    have lookup := enabled.1
    rw [inserted, kept, Dict.lookup_insert] at lookup
    by_cases this : other = package
    · rw [if_pos this] at lookup
      cases lookup
      left
      rw [made]
      exact ⟨this, validateTrustReceipt_sealed crates valid true digest⟩
    · rw [if_neg this] at lookup
      exact Or.inr ⟨found, ⟨lookup, enabled.2⟩, id⟩
  refine (writeReceipt_receipts outside package updated true middle).bind
    (fun _ after inserted => written after inserted) (fun _ after failed => ?_)
  cases failed with
  | inl unchanged => exact same after (unchanged.trans kept)
  | inr inserted => exact written after inserted

/-- A call that enables a version under a guard either enables nothing, or it passed the guard and
enables that version alone. -/
def Guarded (before after : Receipts) (package : PackageReference) (guard : Prop) : Prop :=
  EnabledKept crates before after ∨ (guard ∧ Enables crates before after package)

theorem Guarded.unchanged {crates : Crates} {after : Receipts} {guard : Prop}
    (same : after = before) : Guarded crates before after package guard := by
  rw [same]
  exact Or.inl fun _ receipt enabled => ⟨receipt, enabled, id⟩

/-- What a call does after the recovery of the bins, which leaves the receipts alone. -/
theorem recovered_then {next : Unit → Act α} (start : Store) {guard : Prop}
    (rest : Leaves (next ()) start.recovered
      (Guarded crates start.receipts ·.receipts package guard)) :
    Leaves (prepareLockedRoots outside >>= next) start
      (Guarded crates start.receipts ·.receipts package guard) := by
  refine ((prepareLockedRoots_leads outside start).and (prepareLockedRoots_kept outside start)).bind
    (fun _ middle entered => ?_) (fun _ after kept => ?_)
  · rw [entered.1.1]
    exact rest
  · exact .unchanged (congrArg Prod.snd kept.2)

/-- What a call does with the receipt of its package once it is read. -/
theorem received_then {next : TrustReceipt → Act α} {start : Store} {guard : Prop} (place : Access)
    (same : start.receipts = before)
    (rest : ∀ receipt, crates.validateTrustReceipt receipt = .ok () → Leaves (next receipt) start
      (Guarded crates before ·.receipts package guard)) :
    Leaves (readTrustReceipt crates outside place package >>= fun receipt =>
        lift (validateExactReceipt receipt package) >>= fun _ => next receipt) start
      (Guarded crates before ·.receipts package guard) := by
  refine (looks_readTrustReceipt crates outside _ _).tells
    (readTrustReceipt_leads crates outside _ package start) (fun _ _ => .unchanged same)
    fun receipt read => ?_
  exact (looks_lift _).skip (fun _ => .unchanged same) fun _ => rest receipt read.2

theorem enableValidated_guarded {next : TrustReceipt × ValidatedDirectory → α} (start : Store)
    {guard : Prop} (passed : guard) (valid : crates.validateTrustReceipt receipt = .ok ()) :
    Leaves (enableValidated crates outside package receipt >>= fun result => pure (next result))
      start (Guarded crates start.receipts ·.receipts package guard) := by
  exact (enableValidated_leads crates outside start valid).bind
    (fun _ _ enables => Or.inr ⟨passed, enables⟩) (fun _ _ enables => Or.inr ⟨passed, enables⟩)

/-- `enable` passes the scan of the other receipts before it enables. -/
theorem enable_leads (package : PackageReference) (start : Store) :
    Leaves (enable crates outside package) start
      (Guarded crates start.receipts ·.receipts package
        (Overlooked crates outside start package)) := by
  refine (looks_enterFor crates outside package).skip (fun _ => .unchanged rfl) fun _ => ?_
  refine recovered_then crates outside start ?_
  refine received_then crates outside .exactReceipt rfl fun receipt valid => ?_
  refine (looks_ensureNoOtherEnabledVersion crates outside package).tells
    (ensureNoOtherEnabledVersion_leads crates outside package start.recovered)
    (fun _ _ => .unchanged rfl) fun _ overlooked => ?_
  exact enableValidated_guarded crates outside start.recovered overlooked valid

/-- `enable_active` passes the scan of the other receipts before it enables. -/
theorem enableActive_leads (package : PackageReference) (start : Store) :
    Leaves (enableActive crates outside package) start
      (Guarded crates start.receipts ·.receipts package
        (Overlooked crates outside start package)) := by
  refine (looks_enterFor crates outside package).skip (fun _ => .unchanged rfl) fun _ => ?_
  refine recovered_then crates outside start ?_
  refine (looks_pathExists outside _ _).skip (fun _ => .unchanged rfl) fun _ => ?_
  refine (looks_refusing _ _).skip (fun _ => .unchanged rfl) fun _ => ?_
  refine received_then crates outside .exactReceipt rfl fun receipt valid => ?_
  refine (looks_ensureNoOtherEnabledVersion crates outside package).tells
    (ensureNoOtherEnabledVersion_leads crates outside package start.recovered)
    (fun _ _ => .unchanged rfl) fun _ overlooked => ?_
  refine @underLease_leads outside _ package _ start.recovered
    (fun _ after => Guarded crates start.receipts after package
      (Overlooked crates outside start package))
    (fun after => Guarded crates start.receipts after package
      (Overlooked crates outside start package)) (.unchanged rfl) fun leased _ same => ?_
  have enables := @enableValidated_guarded crates outside _ receipt package (fun result => {
      package := { package, manifest := result.2.manifest, trustReceipt := result.1 }
      expectedFiles := result.2.files
      fullHashPasses := 1 : ActiveInstalledPackage }) leased _ overlooked valid
  rw [same] at enables
  exact enables

/-- `enable_if_only_installed_version` finds no other installed version before it enables. -/
theorem enableIfOnlyInstalledVersion_leads (package : PackageReference) (start : Store) :
    Leaves (enableIfOnlyInstalledVersion crates outside package) start
      (Guarded crates start.receipts ·.receipts package
        (∀ version ∈ start.versionsOf package, version = package)) := by
  refine (looks_enterFor crates outside package).skip (fun _ => .unchanged rfl) fun _ => ?_
  refine recovered_then crates outside start ?_
  refine (looks_ensureSafeDirectory outside _ _).skip (fun _ => .unchanged rfl) fun _ => ?_
  refine leads_read (fun identities _ => ?_) fun _ _ => .unchanged rfl
  refine (looks_refusing _ _).skip (fun _ => .unchanged rfl) fun _ => ?_
  refine (looks_access outside _ _).skip (fun _ => .unchanged rfl) fun _ => ?_
  refine leads_read (fun versions listed => ?_) fun _ _ => .unchanged rfl
  cases listed
  refine leads_unless (fun alone => ?_) fun _ => .unchanged rfl
  have only : ∀ version ∈ start.versionsOf package, version = package := fun version member =>
    not_not.mp fun different => alone ⟨version, member, different⟩
  refine received_then crates outside .exactReceipt rfl fun receipt valid => ?_
  exact enableValidated_guarded crates outside start.recovered only valid

end Calls

end LatentDeck.Packages
