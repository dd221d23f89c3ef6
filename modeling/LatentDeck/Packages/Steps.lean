import LatentDeck.Packages.Lifecycle

/-!
# What the steps of the lifecycle touch

Most steps only look at the store. The others change one kind of thing each: the bins, the runtime
seals, the usage leases, or the receipt and the tree of one package. Where no access goes wrong, an
access does nothing at all.
-/

namespace LatentDeck.Packages

open Effect Fallible

variable {α β : Type}

section Rules

variable {start : Store} {returned : α → Store → Prop} {raised : Halt → Store → Prop}

@[simp]
theorem leads_lift (result : Except ErrorCode α) :
    Leads (lift result) start returned raised ↔
      (∀ value, result = .ok value → returned value start) ∧
        ∀ code, result = .error code → raised (.refused code) start := by
  rw [lift, leads_reading]
  cases result with
  | ok value => simp [Except.mapError]
  | error code => simp [Except.mapError]

@[simp]
theorem leads_refuse (code : ErrorCode) :
    Leads (refuse code : Act α) start returned raised ↔ raised (.refused code) start := Iff.rfl

@[simp]
theorem leads_refusing (condition : Prop) [Decidable condition] (code : ErrorCode)
    {returned : Unit → Store → Prop} :
    Leads (refusing condition code) start returned raised ↔
      (¬ condition → returned () start) ∧ (condition → raised (.refused code) start) := by
  rw [refusing, leads_demand, not_not]

theorem leads_lifted {result : Except ErrorCode β} {next : β → Act α}
    (rest : ∀ value, result = .ok value → Leads (next value) start returned raised)
    (failed : ∀ code, result = .error code → raised (.refused code) start) :
    Leads (lift result >>= next) start returned raised :=
  (leads_bind _ _).mpr ((leads_lift result).mpr ⟨rest, failed⟩)

theorem leads_unless {condition : Prop} [Decidable condition] {code : ErrorCode}
    {next : Unit → Act α} (rest : ¬ condition → Leads (next ()) start returned raised)
    (refused : condition → raised (.refused code) start) :
    Leads (refusing condition code >>= next) start returned raised :=
  (leads_bind _ _).mpr ((leads_refusing condition code).mpr ⟨rest, refused⟩)

/-- A recovery starts where the action was refused, and an interruption passes it by. -/
@[simp]
theorem leads_onRefusal (action : Act α) (recover : ErrorCode → Act α) :
    Leads (onRefusal action recover) start returned raised ↔
      Leads action start returned fun halt store =>
        match halt with
        | .refused code => Leads (recover code) store returned raised
        | .interrupted => raised .interrupted store := by
  rw [onRefusal, leads_catching]
  refine iff_of_eq (congrArg (Leads action start returned) ?_)
  funext halt store
  cases halt with
  | refused code => rfl
  | interrupted => rfl

@[simp]
theorem leads_attempt (action : Act α) {returned : Except ErrorCode α → Store → Prop} :
    Leads (attempt action) start returned raised ↔
      Leads action start (fun value store => returned (.ok value) store) fun halt store =>
        match halt with
        | .refused code => returned (.error code) store
        | .interrupted => raised .interrupted store := by
  rw [attempt, leads_onRefusal, leads_map]
  rfl

@[simp]
theorem leads_ignoring (action : Act α) {returned : Unit → Store → Prop} :
    Leads (ignoring action) start returned raised ↔
      Leads action start (fun _ store => returned () store) fun halt store =>
        match halt with
        | .refused _ => returned () store
        | .interrupted => raised .interrupted store := by
  rw [ignoring, leads_bind, leads_attempt]
  rfl

end Rules

section Frames

variable {frame : Frame Store} {action : Act α}

theorem within_onRefusal {recover : ErrorCode → Act α} (first : Within frame action)
    (rest : ∀ code, Within frame (recover code)) : Within frame (onRefusal action recover) := by
  refine .catching first fun halt => ?_
  cases halt with
  | refused code => exact rest code
  | interrupted => exact .throw _

theorem within_attempt (first : Within frame action) : Within frame (attempt action) :=
  within_onRefusal (.map _ first) fun _ => .pure _

theorem within_ignoring (first : Within frame action) : Within frame (ignoring action) :=
  .bind (within_attempt first) fun _ => .pure _

end Frames

section Looking

theorem looks_lift (result : Except ErrorCode α) : Looks (lift result) := Within.reading _

theorem looks_refuse (code : ErrorCode) : Looks (refuse code : Act α) := Within.throw _

theorem looks_refusing (condition : Prop) [Decidable condition] (code : ErrorCode) :
    Looks (refusing condition code) := .demand _ _

variable (crates : Crates) (outside : Outside) (place : Access)

theorem looks_access (report : IoErrorKind → ErrorCode → ErrorCode) :
    Looks (access outside place report) := by
  unfold access
  cases outside.fault place with
  | none => exact .pure ()
  | some fault =>
    cases fault with
    | failed kind code => exact looks_refuse _
    | interrupted => exact .throw _

/-- `ensure_safe_directory` only looks at what the store keeps. -/
theorem looks_ensureSafeDirectory (place : DirectoryPart → Access) (create : Bool) :
    Looks (ensureSafeDirectory outside place create) :=
  .bind (looks_access outside _ _) fun _ => .bind (.whenever (looks_access outside _ _)) fun _ =>
      .bind (looks_access outside _ _) fun _ => looks_access outside _ _

theorem looks_pathExists (package : PackageReference) : Looks (pathExists outside place package) :=
  .bind (looks_access outside _ _) fun _ => .reading _

theorem looks_validateRoots : Looks (validateRoots outside) := looks_refusing _ _

theorem looks_prepareBase : Looks (prepareBase outside) :=
  .bind (looks_access outside _ _) fun _ =>
    .bind (looks_access outside _ _) fun _ => looks_ensureSafeDirectory outside _ _

theorem looks_acquireLock : Looks (acquireLock outside) :=
  .bind (looks_access outside _ _) fun _ =>
    .bind (looks_access outside _ _) fun _ => looks_access outside _ _

variable (package : PackageReference)

theorem looks_enterFor : Looks (enterFor crates outside package) :=
  .bind (looks_lift _) fun _ => .bind (looks_validateRoots outside) fun _ =>
      .bind (looks_prepareBase outside) fun _ => looks_acquireLock outside

theorem looks_openUsageLock : Looks (openUsageLock outside) :=
  .bind (looks_ensureSafeDirectory outside _ _) fun _ =>
    .bind (looks_access outside _ _) fun _ => looks_access outside _ _

theorem looks_ensureNotInUseLocked : Looks (ensureNotInUseLocked outside package) :=
  .bind (looks_openUsageLock outside) fun _ => .bind (looks_access outside _ _) fun _ =>
      .reads fun _ => .bind (looks_refusing _ _) fun _ => looks_access outside _ _

theorem looks_readTrustReceipt (package : PackageReference) :
    Looks (readTrustReceipt crates outside place package) :=
  .bind (looks_access outside _ _) fun _ => .reading _

theorem looks_validateInstalledTree (package : PackageReference) :
    Looks (validateInstalledTree crates outside place package) :=
  .bind (looks_access outside _ _) fun _ => .reads fun _ => looks_lift _

theorem looks_pinInstalledTree : Looks (pinInstalledTree crates outside package) :=
  .bind (looks_access outside _ _) fun _ => .reads fun _ => looks_lift _

theorem looks_verifyInstalledTreeLocked :
    Looks (verifyInstalledTreeLocked crates outside package) :=
  .bind (looks_pathExists outside _ _) fun _ => .bind (looks_refusing _ _) fun _ =>
      .bind (looks_readTrustReceipt crates outside _ _) fun _ => .bind (looks_lift _) fun _ =>
          .bind (looks_validateInstalledTree crates outside _ _) fun _ =>
            .bind (looks_lift _) fun _ => .pure _

variable (prepared : PreparedPackage)

theorem looks_repairGate : Looks (repairGate crates outside prepared) := by
  refine .bind (within_attempt (looks_readTrustReceipt crates outside _ _)) fun read => ?_
  cases read with
  | ok receipt => exact .pure _
  | error code => exact .pure _

theorem looks_treeMatches : Looks (treeMatches crates outside prepared) := by
  refine .bind (within_attempt (looks_validateInstalledTree crates outside _ _)) fun read => ?_
  cases read with
  | ok validated => exact .pure _
  | error code => exact .pure _

theorem looks_enforcePackageIdLimit (kind : PackageKind) :
    Looks (enforcePackageIdLimit outside kind) :=
  .bind (looks_access outside _ _) fun _ => .reads fun _ => looks_refusing _ _

theorem looks_enforceVersionLimit : Looks (enforceVersionLimit outside package) :=
  .bind (looks_access outside _ _) fun _ => .reads fun _ => looks_refusing _ _

theorem looks_trustFromPrepared (enabled : Bool) :
    Looks (trustFromPrepared outside prepared enabled) :=
  .bind (looks_access outside _ _) fun _ => .pure _

theorem looks_checkOtherReceipts (index : Nat) (files : List ReceiptFile) :
    Looks (checkOtherReceipts crates outside index files) := by
  induction files generalizing index with
  | nil => exact .pure ()
  | cons file files ih =>
    exact .bind (within_attempt (.bind (looks_access outside _ _) fun _ =>
      looks_lift _)) fun _ => .bind (looks_refusing _ _) fun _ => ih _

theorem looks_ensureNoOtherEnabledVersion :
    Looks (ensureNoOtherEnabledVersion crates outside package) :=
  .bind (within_attempt (looks_access outside _ _)) fun _ =>
    .whenever (.bind (looks_access outside _ _) fun _ =>
      .reads fun _ => looks_checkOtherReceipts crates outside _ _)

theorem looks_tryPinFromRuntimeSeal (receipt : TrustReceipt) :
    Looks (tryPinFromRuntimeSeal crates outside package receipt) := by
  unfold tryPinFromRuntimeSeal
  cases receipt.runtimeSealSha256 with
  | none => exact .pure none
  | some expected =>
    refine .bind (within_attempt (looks_access outside _ _)) fun read => .reads fun found => ?_
    cases read with
    | error code => exact .pure none
    | ok done =>
      cases found with
      | none => exact .pure none
      | some bytes =>
        refine .bind (looks_access outside _ _) fun _ => .reads fun _ =>
          .bind (looks_lift _) fun _ => .bind (looks_lift _) fun _ =>
            .ite (.pure none) (.bind (looks_lift _) fun _ => .pure _)

end Looking

/-- The trees and the receipts stay as they are. -/
def installedKept : Frame Store := .keeping fun store => (store.trees, store.receipts)

section Kept

variable (crates : Crates) (outside : Outside)

theorem cleanupEntries_kept (bin : Bin) (index : Nat) (names : List String) :
    Within installedKept (cleanupEntries outside bin index names) := by
  induction names generalizing index with
  | nil => exact .pure ()
  | cons name names ih =>
    exact (looks_refusing _ _).before fun _ =>
      (looks_access outside _ _).before fun _ =>
        .bind (.whenever ((looks_access outside _ _).before fun _ =>
          .modify fun _ => rfl)) fun _ => ih _

theorem cleanupStale_kept (bin : Bin) : Within installedKept (cleanupStale outside bin) :=
  (looks_access outside _ _).before fun _ =>
    (looks_access outside _ _).before fun _ =>
      .reads fun _ => cleanupEntries_kept outside bin _ _

/-- `prepare_locked_roots` keeps the installed packages. -/
theorem prepareLockedRoots_kept : Within installedKept (prepareLockedRoots outside) :=
  .bind (cleanupStale_kept outside .staging) fun _ =>
    .bind (cleanupStale_kept outside .trash) fun _ =>
      (looks_ensureSafeDirectory outside _ _).before fun _ =>
        (looks_ensureSafeDirectory outside _ _).before fun _ =>
          (looks_ensureSafeDirectory outside _ _).before fun _ =>
            (looks_ensureSafeDirectory outside _ _).within _

theorem enterLocked_kept : Within installedKept (enterLocked outside) :=
  (looks_prepareBase outside).before fun _ =>
    (looks_acquireLock outside).before fun _ => prepareLockedRoots_kept outside

variable (package : PackageReference)

theorem removeRuntimeSeal_kept : Within installedKept (removeRuntimeSeal outside package) :=
  within_ignoring ((looks_access outside _ _).before fun _ => .modify fun _ => rfl)

theorem prepareRuntimeSeal_kept (receipt : TrustReceipt) :
    Within installedKept (prepareRuntimeSeal crates outside package receipt) := by
  refine .ite (.pure _) ?_
  cases outside.sealBuilt with
  | none => exact .bind (removeRuntimeSeal_kept outside package) fun _ => .pure _
  | some bytes =>
    refine .bind (within_attempt ((looks_access outside _ _).before fun _ =>
      .modify fun _ => rfl)) fun written => ?_
    cases written with
    | ok done => exact .pure _
    | error code =>
      exact .bind (removeRuntimeSeal_kept outside package) fun _ => .pure _

theorem discardQuarantine_kept (code : ErrorCode) :
    Within installedKept (discardQuarantine outside code) :=
  (looks_access outside _ _).before fun _ => .modify fun _ => rfl

theorem takeLease_kept : Within installedKept (takeLease outside package) :=
  (looks_openUsageLock outside).before fun _ =>
    (looks_access outside _ _).before fun _ => .modify fun _ => rfl

/-- The checks before a publication keep the installed packages. -/
theorem preparePublication_kept (prepared : PreparedPackage) :
    Within installedKept (preparePublication crates outside prepared) := by
  unfold preparePublication
  dsimp only
  refine (looks_lift _).before fun _ => ?_
  refine (looks_ensureSafeDirectory outside _ _).before fun _ => ?_
  refine (looks_access outside _ _).before fun _ => ?_
  refine .reads fun _ => ?_
  refine .bind (.whenever ((looks_enforcePackageIdLimit outside _).within _)) fun _ => ?_
  refine (looks_ensureSafeDirectory outside _ _).before fun _ => ?_
  refine .bind (.modify fun _ => rfl) fun _ => ?_
  refine (looks_pathExists outside _ _).before fun _ => ?_
  refine .bind (.whenever ((looks_verifyInstalledTreeLocked crates outside _).before fun _ =>
      (looks_refuse _).within _)) fun _ => ?_
  refine (looks_enforceVersionLimit outside _).before fun _ => ?_
  refine (looks_ensureSafeDirectory outside _ _).before fun _ => ?_
  -- the limit is kept abstract, since nothing may compute with it
  generalize u64Max = limit
  refine (looks_refusing _ _).before fun _ => ?_
  refine (looks_access outside _ _).before fun _ => ?_
  exact (looks_refusing _ _).within _

end Kept

end LatentDeck.Packages
