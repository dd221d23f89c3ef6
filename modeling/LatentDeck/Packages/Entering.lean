import LatentDeck.Packages.Steps

/-!
# The start of a call

Every call takes the lifecycle lock and recovers the bins before it looks at a package. The accesses
of a call fall into stages by what they are made for, and a stage without faults does nothing beyond
its changes of the store.
-/

namespace LatentDeck.Packages

open Effect Fallible

/-- What the accesses of a call are made for. -/
inductive Stage where
  | entering
  | finding
  | leasing
  | gating
  | quarantining
  | undoing
  | discarding
  | preparing
  | verifying
  | publishing
  | binding
  | recording
  | unlinking
  | sealing
  | inspecting
  | forgetting
  | resolving
  deriving DecidableEq

def Access.stage : Access → Stage
  | .baseParent | .baseCreate | .baseDirectory _ | .lockInspect | .lockOpen | .lockAcquire
  | .binInspect _ | .binRead _ | .binEntry _ _ | .binRemove _ _ | .root _ _ => .entering
  | .destination => .finding
  | .usageDirectory _ | .usageInspect | .usageOpen | .usageLock | .usageUnlock => .leasing
  | .gateReceipt | .gateTree => .gating
  | .trashRoot _ | .quarantine => .quarantining
  | .restoreInspect | .restore | .stagingDiscard | .rollback | .rollbackDiscard
  | .partialDiscard => .undoing
  | .discardQuarantine => .discarding
  | .packageRoot _ | .identityInspect | .identityCount | .identityRoot _ | .publishDestination
  | .versionCount | .stagingRoot _ | .freeSpace => .preparing
  | .installedTree | .installedReceipt | .installedFiles => .verifying
  | .stagingCreate | .extraction | .publish => .publishing
  | .receiptRoot _ | .clock => .binding
  | .receiptDirectory _ | .partialCreate | .partialWrite | .partialSync | .receiptReplace
  | .receiptLink => .recording
  | .partialUnlink => .unlinking
  | .sealWrite | .sealRemove | .sealRead => .sealing
  | .removedReceiptInspect => .inspecting
  | .removedReceipt => .forgetting
  | .exactReceipt | .otherReceiptRoot | .otherReceipts | .otherReceipt _ | .idRoot _ | .idRootRead
  | .pinnedTree | .sealedTree | .disableInspect => .resolving

def Outside.Clear (outside : Outside) (stage : Stage) : Prop :=
  ∀ place : Access, place.stage = stage → outside.fault place = none

section Clear

variable {outside : Outside} {stage : Stage} (clear : outside.Clear stage)
include clear

variable {place : Access}

theorem access_clear (here : place.stage = stage) (report : IoErrorKind → ErrorCode → ErrorCode) :
    access outside place report = pure () := by
  rw [access, clear place here]

theorem accessAs_clear (here : place.stage = stage) (code : ErrorCode) :
    accessAs outside place code = pure () :=
  access_clear clear here _

theorem accessAll_clear (here : place.stage = stage) : accessAll outside place = pure () :=
  access_clear clear here _

theorem ensureSafeDirectory_clear {place : DirectoryPart → Access}
    (here : ∀ part, (place part).stage = stage) (create : Bool) :
    ensureSafeDirectory outside place create = pure () := by
  rw [ensureSafeDirectory, accessAll_clear clear (here _), accessAs_clear clear (here _),
    accessAs_clear clear (here _), accessAll_clear clear (here _)]
  cases create <;> rfl

theorem pathExists_clear (here : place.stage = stage) (package : PackageReference) :
    pathExists outside place package =
      reading fun store => .ok (store.trees.contains package) := by
  rw [pathExists, accessAs_clear clear here]
  rfl

end Clear

/-- The entries of a bin without the owned ones of some names. -/
def sweptEntries (bin : Bin) (names : List String) (entries : Dict String BinEntry) :
    Dict String BinEntry :=
  names.foldl (fun dict name => if ownsName bin name then dict.erase name else dict) entries

/-- The store without the owned entries of some names in a bin. -/
def Store.swept (store : Store) (bin : Bin) (names : List String) : Store :=
  { store with bins := fun other =>
      if other = bin then sweptEntries bin names (store.bins bin) else store.bins other }

/-- The store without the owned entries of both bins. -/
def Store.recovered (store : Store) : Store :=
  let first := store.swept .staging (store.bins .staging).keys
  first.swept .trash (first.bins .trash).keys

/-- The bins are small enough to be recovered. -/
def Store.Recoverable (store : Store) : Prop :=
  ∀ bin, (store.bins bin).keys.length ≤ maxStaleEntries

@[simp]
theorem swept_nil (store : Store) (bin : Bin) : store.swept bin [] = store := by
  have same : (fun other => if other = bin then store.bins bin else store.bins other) =
      store.bins := by
    funext other
    by_cases here : other = bin
    · rw [if_pos here, here]
    · rw [if_neg here]
  show { store with bins := _ } = store
  rw [sweptEntries, List.foldl_nil, same]

theorem swept_cons (store : Store) (bin : Bin) (name : String) (names : List String) :
    store.swept bin (name :: names) =
      (if ownsName bin name then store.dropBin bin name else store).swept bin names := by
  by_cases owned : ownsName bin name
  · simp only [Store.swept, sweptEntries, List.foldl_cons, owned, if_true, Store.dropBin]
    congr 1
    funext other
    by_cases here : other = bin <;> simp [here]
  · simp [Store.swept, sweptEntries, owned]

section Entering

variable (outside : Outside)

theorem cleanupEntries_leads (bin : Bin) (index : Nat) (names : List String) (start : Store) :
    Leads (cleanupEntries outside bin index names) start
      (fun _ after => after = start.swept bin names ∧
        (names ≠ [] → index + names.length ≤ maxStaleEntries))
      (fun _ _ => True) := by
  induction names generalizing index start with
  | nil => exact ⟨(swept_nil start bin).symm, fun never => absurd rfl never⟩
  | cons name names ih =>
    rw [cleanupEntries]
    refine leads_unless
      (fun few => (looks_access outside _ _).skip (fun _ => trivial) fun _ => ?_)
      fun _ => trivial
    have next : ∀ swept, swept = (if ownsName bin name then start.dropBin bin name else start) →
        Leads (cleanupEntries outside bin (index + 1) names) swept
          (fun _ after => after = start.swept bin (name :: names) ∧
            (name :: names ≠ [] → index + (name :: names).length ≤ maxStaleEntries))
          (fun _ _ => True) := by
      intro swept made
      refine (ih (index + 1) swept).mono (fun _ after ended => ?_) (fun _ _ _ => trivial)
      refine ⟨by rw [swept_cons, ← made]; exact ended.1, fun _ => ?_⟩
      rw [List.length_cons]
      cases names with
      | nil => simpa using Nat.le_of_not_lt few
      | cons other rest =>
        have bound := ended.2 (List.cons_ne_nil _ _)
        omega
    rw [leads_bind, leads_whenever]
    constructor
    · intro owned
      exact (looks_access outside _ _).skip (fun _ => trivial) fun _ =>
        next _ (by rw [if_pos owned])
    · intro foreign
      exact next _ (by rw [if_neg foreign])

/-- Recovering a bin without faults returns when there are few enough entries. -/
theorem cleanupEntries_returns {outside : Outside} (clear : outside.Clear .entering) (bin : Bin)
    (index : Nat) (names : List String) (few : index + names.length ≤ maxStaleEntries)
    (start : Store) :
    Leads (cleanupEntries outside bin index names) start (fun _ _ => True) (fun _ _ => False) := by
  induction names generalizing index start with
  | nil => exact trivial
  | cons name names ih =>
    rw [List.length_cons] at few
    have rest := fun start => ih (index + 1) (by omega) start
    rw [cleanupEntries, leads_bind, leads_refusing, accessAs_clear clear rfl,
      accessAs_clear clear rfl]
    refine ⟨fun _ => ?_, fun many => absurd many (by omega)⟩
    simp only [leads_bind, leads_pure, leads_whenever, leads_modify, rest, implies_true, and_self]

theorem cleanupStale_leads (bin : Bin) (start : Store) :
    Leads (cleanupStale outside bin) start
      (fun _ after => after = start.swept bin (start.bins bin).keys ∧
        (start.bins bin).keys.length ≤ maxStaleEntries) (fun _ _ => True) := by
  refine (looks_access outside _ _).skip (fun _ => trivial) fun _ =>
    (looks_access outside _ _).skip (fun _ => trivial) fun _ => ?_
  refine leads_read (fun names read => ?_) fun _ _ => trivial
  cases read
  refine (cleanupEntries_leads outside bin 0 _ start).mono (fun _ after ended => ⟨ended.1, ?_⟩)
    (fun _ _ _ => trivial)
  by_cases vacant : (start.bins bin).keys = []
  · rw [vacant]
    exact Nat.zero_le _
  · have bound := ended.2 vacant
    omega

theorem cleanupStale_returns {outside : Outside} (clear : outside.Clear .entering) (bin : Bin)
    (start : Store) (few : (start.bins bin).keys.length ≤ maxStaleEntries) :
    Leads (cleanupStale outside bin) start (fun _ _ => True) (fun _ _ => False) := by
  rw [cleanupStale, accessAll_clear clear rfl, accessAs_clear clear rfl]
  simp only [leads_bind, leads_pure, leads_reading, reduceCtorEq, false_imp_iff, implies_true,
    and_true, Except.ok.injEq, forall_eq']
  exact cleanupEntries_returns clear bin 0 _ (by omega) start

/-- `prepare_locked_roots` that returns recovers the store. -/
theorem prepareLockedRoots_leads (start : Store) :
    Leads (prepareLockedRoots outside) start
      (fun _ after => after = start.recovered ∧ start.Recoverable) (fun _ _ => True) := by
  rw [prepareLockedRoots]
  refine (cleanupStale_leads outside .staging start).bind (fun _ first swept => ?_)
    (fun _ _ _ => trivial)
  refine (cleanupStale_leads outside .trash first).bind (fun _ second emptied => ?_)
    (fun _ _ _ => trivial)
  have few : start.Recoverable := by
    intro bin
    cases bin with
    | staging => exact swept.2
    | trash =>
      have bound := emptied.2
      rw [swept.1] at bound
      exact bound
  have made : second = start.recovered := by
    rw [emptied.1, swept.1]
    rfl
  rw [made]
  have ensured := fun place => looks_ensureSafeDirectory outside (Access.root place) true
  exact (ensured _).skip (fun _ => trivial) fun _ => (ensured _).skip (fun _ => trivial)
    fun _ => (ensured _).skip (fun _ => trivial) fun _ =>
      (ensured .usage start.recovered).mono (fun _ _ same => ⟨same, few⟩) (fun _ _ _ => trivial)

/-- `prepare_locked_roots` without faults returns when both bins have few enough entries. -/
theorem prepareLockedRoots_returns {outside : Outside} (clear : outside.Clear .entering)
    (start : Store) (few : start.Recoverable) :
    Leads (prepareLockedRoots outside) start (fun _ _ => True) (fun _ _ => False) := by
  rw [prepareLockedRoots]
  refine ((cleanupStale_leads outside .staging start).and
    (cleanupStale_returns clear .staging start (few .staging))).bind (fun _ first both => ?_)
    (fun _ _ both => both.2)
  have kept : (first.bins .trash).keys.length ≤ maxStaleEntries := by
    rw [both.1.1]
    exact few .trash
  refine (cleanupStale_returns clear .trash first kept).bind (fun _ second _ => ?_)
    (fun _ _ never => never)
  iterate 4 rw [ensureSafeDirectory_clear clear fun _ => rfl]
  exact trivial

theorem prepareBase_clear {outside : Outside} (clear : outside.Clear .entering) :
    prepareBase outside = pure () := by
  rw [prepareBase, accessAll_clear clear rfl, accessAs_clear clear rfl,
    ensureSafeDirectory_clear clear fun _ => rfl]
  rfl

theorem acquireLock_clear {outside : Outside} (clear : outside.Clear .entering) :
    acquireLock outside = pure () := by
  rw [acquireLock, accessAll_clear clear rfl, accessAs_clear clear rfl, access_clear clear rfl]
  rfl

theorem enterLocked_leads (start : Store) :
    Leads (enterLocked outside) start
      (fun _ after => after = start.recovered ∧ start.Recoverable) (fun _ _ => True) :=
  (looks_prepareBase outside).skip (fun _ => trivial) fun _ =>
    (looks_acquireLock outside).skip (fun _ => trivial) fun _ =>
      prepareLockedRoots_leads outside start

theorem enterLocked_returns {outside : Outside} (clear : outside.Clear .entering) (start : Store)
    (few : start.Recoverable) :
    Leads (enterLocked outside) start (fun _ _ => True) (fun _ _ => False) := by
  rw [enterLocked, prepareBase_clear clear, acquireLock_clear clear]
  exact prepareLockedRoots_returns clear start few

/-- `ensure_not_in_use_locked` without faults refuses exactly a package with a lease. -/
theorem ensureNotInUseLocked_clear {outside : Outside} (clear : outside.Clear .leasing)
    (package : PackageReference) (start : Store) :
    Leads (ensureNotInUseLocked outside package) start (fun _ _ => package ∉ start.leases)
      (fun halt _ => halt = .refused .packageActive ∧ package ∈ start.leases) := by
  rw [ensureNotInUseLocked, openUsageLock, ensureSafeDirectory_clear clear fun _ => rfl,
    accessAs_clear clear rfl, accessAs_clear clear rfl, access_clear clear rfl,
    accessAs_clear clear rfl]
  simp

end Entering

end LatentDeck.Packages
