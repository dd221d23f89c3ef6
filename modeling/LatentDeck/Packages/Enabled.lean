import LatentDeck.Packages.Activation

/-!
# Runs of the package store

A run makes any calls on a store, each with whatever it meets outside. As long as no call that enables
a version overlooks an enabled receipt of another one, at most one version of each package is enabled
throughout, and a version that resolves as active is enabled and has the hashes that its receipt
records.
-/

namespace LatentDeck.Packages

open Effect Fallible Run

/-- The calls on a store, and the end of a session that holds a lease. -/
inductive Command where
  | install (request : InstallRequest) (bundledIndex : Option BundledPackageIndex)
  | repair (request : InstallRequest) (bundledIndex : Option BundledPackageIndex)
  | enable (package : PackageReference)
  | enableActive (package : PackageReference)
  | enableIfOnlyInstalledVersion (package : PackageReference)
  | disable (package : PackageReference)
  | remove (package : PackageReference) (allowCorrupt : Bool)
  | verify (package : PackageReference)
  | resolveInstalled (package : PackageReference)
  | resolveActive (package : PackageReference)
  | dropLease (package : PackageReference)

inductive Reply where
  | installed (receipt : InstallReceipt)
  | receipt (receipt : TrustReceipt)
  | removed (package : PackageReference)
  | summary (summary : InstalledPackageSummary)
  | resolved (package : ValidatedInstalledPackage)
  | active (package : ActiveInstalledPackage)
  | dropped

section Calls

variable (crates : Crates)

def carryOut (outside : Outside) : Command → Act Reply
  | .install request bundledIndex => Reply.installed <$> install crates outside request bundledIndex
  | .repair request bundledIndex => Reply.installed <$> repair crates outside request bundledIndex
  | .enable package => Reply.receipt <$> enable crates outside package
  | .enableActive package => Reply.active <$> enableActive crates outside package
  | .enableIfOnlyInstalledVersion package =>
      Reply.receipt <$> enableIfOnlyInstalledVersion crates outside package
  | .disable package => Reply.receipt <$> disable crates outside package
  | .remove package allowCorrupt => Reply.removed <$> remove crates outside package allowCorrupt
  | .verify package => Reply.summary <$> verify crates outside package
  | .resolveInstalled package => Reply.resolved <$> resolveInstalled crates outside package
  | .resolveActive package => Reply.active <$> resolveActive crates outside package
  | .dropLease package => do
      modify fun store => store.dropLease package
      pure .dropped

/-- The machine that performs calls on a store. -/
def perform (store : Store) (input : Command × Outside) : Except Halt Reply × Store :=
  ending (carryOut crates input.2 input.1) store

/-- Whether a call that enables a version sees what else is enabled: the scan of the receipts or the
look at the trees finds it. -/
def Command.SeesOthers (outside : Outside) (store : Store) : Command → Prop
  | .enable package | .enableActive package =>
      OtherEnabled store package → ¬ Overlooked crates outside store package
  | .enableIfOnlyInstalledVersion package =>
      OtherEnabled store package → ∃ version ∈ store.versionsOf package, version ≠ package
  | _ => True

variable {crates}

theorem SoundReceipts.kept {before after : Receipts} (sound : SoundReceipts crates before)
    (kept : EnabledKept crates before after) : SoundReceipts crates after where
  single first second firstReceipt secondReceipt firstEnabled secondEnabled same := by
    obtain ⟨earlier, wasFirst, _⟩ := kept first firstReceipt firstEnabled
    obtain ⟨other, wasSecond, _⟩ := kept second secondReceipt secondEnabled
    exact sound.single first second earlier other wasFirst wasSecond same
  valid package receipt enabled := by
    obtain ⟨earlier, was, valid⟩ := kept package receipt enabled
    exact valid (sound.valid package earlier was)

theorem sameIdentity_comm (first second : PackageReference) :
    first.sameIdentity second = second.sameIdentity first := by
  simp only [PackageReference.sameIdentity, Bool.beq_comm]

variable {package : PackageReference}

/-- Enabling a version where no other is enabled keeps the receipts sound. -/
theorem SoundReceipts.enables {before : Store} {after : Receipts}
    (sound : SoundReceipts crates before.receipts) (alone : ¬ OtherEnabled before package)
    (enables : Enables crates before.receipts after package) : SoundReceipts crates after where
  single first second firstReceipt secondReceipt firstEnabled secondEnabled same := by
    cases enables first firstReceipt firstEnabled with
    | inl new =>
      cases enables second secondReceipt secondEnabled with
      | inl other => exact new.1.trans other.1.symm
      | inr old =>
        obtain ⟨earlier, was, _⟩ := old
        by_contra different
        rw [new.1] at same different
        exact alone ⟨second, earlier, same, Ne.symm different, was⟩
    | inr old =>
      obtain ⟨earlier, was, _⟩ := old
      cases enables second secondReceipt secondEnabled with
      | inl new =>
        by_contra different
        rw [new.1, sameIdentity_comm] at same
        rw [new.1] at different
        exact alone ⟨first, earlier, same, different, was⟩
      | inr other =>
        obtain ⟨another, wasSecond, _⟩ := other
        exact sound.single first second earlier another was wasSecond same
  valid other receipt enabled := by
    cases enables other receipt enabled with
    | inl new => exact new.2
    | inr old =>
      obtain ⟨earlier, was, valid⟩ := old
      exact valid (sound.valid other earlier was)

theorem SoundReceipts.guarded {before : Store} {after : Receipts} {guard : Prop}
    (sound : SoundReceipts crates before.receipts) (sees : OtherEnabled before package → ¬ guard)
    (guarded : Guarded crates before.receipts after package guard) :
    SoundReceipts crates after := by
  cases guarded with
  | inl kept => exact sound.kept kept
  | inr passed => exact sound.enables (fun other => sees other passed.1) passed.2

theorem sound_of_within {α : Type} {action : Act α} {start : Store}
    (sound : SoundReceipts crates start.receipts) (within : Within (enabledKept crates) action) :
    Leaves action start (SoundReceipts crates ·.receipts) :=
  (within start).mono (fun _ _ kept => sound.kept kept) (fun _ _ kept => sound.kept kept)

/-- A call that sees what else is enabled keeps the receipts sound. -/
theorem carryOut_sound (outside : Outside) (command : Command) (start : Store)
    (sound : SoundReceipts crates start.receipts) (sees : command.SeesOthers crates outside start) :
    Leaves (carryOut crates outside command) start (SoundReceipts crates ·.receipts) := by
  unfold Leaves
  cases command with
  | install request bundledIndex =>
    exact sound_of_within sound ((install_enables crates outside request bundledIndex).map _)
  | repair request bundledIndex =>
    exact sound_of_within sound ((repair_enables crates outside request bundledIndex).map _)
  | enable package =>
    rw [carryOut, leads_map]
    exact (enable_leads crates outside package start).mono
      (fun _ _ guarded => sound.guarded sees guarded)
      (fun _ _ guarded => sound.guarded sees guarded)
  | enableActive package =>
    rw [carryOut, leads_map]
    exact (enableActive_leads crates outside package start).mono
      (fun _ _ guarded => sound.guarded sees guarded)
      (fun _ _ guarded => sound.guarded sees guarded)
  | enableIfOnlyInstalledVersion package =>
    have refused : OtherEnabled start package →
        ¬ ∀ version ∈ start.versionsOf package, version = package := by
      intro other alone
      obtain ⟨version, member, different⟩ := sees other
      exact different (alone version member)
    rw [carryOut, leads_map]
    exact (enableIfOnlyInstalledVersion_leads crates outside package start).mono
      (fun _ _ guarded => sound.guarded refused guarded)
      (fun _ _ guarded => sound.guarded refused guarded)
  | disable package =>
    exact sound_of_within sound ((disable_enables crates outside package).map _)
  | remove package allowCorrupt =>
    exact sound_of_within sound ((remove_enables crates outside package allowCorrupt).map _)
  | verify package =>
    exact sound_of_within sound ((verify_enables crates outside package).map _)
  | resolveInstalled package =>
    have looks : Looks (resolveInstalled crates outside package) :=
      Within.bind (looks_enterFor crates outside package) fun _ =>
        Within.bind (looks_verifyInstalledTreeLocked crates outside package) fun _ => Within.pure _
    exact sound_of_within sound ((looks.within _).map _)
  | resolveActive package =>
    rw [carryOut, leads_map]
    exact (resolveActive_leads crates outside package start).mono
      (fun _ _ held => sound.kept held.1) (fun _ _ kept => sound.kept kept)
  | dropLease package => exact sound

end Calls

theorem vacant_sound (crates : Crates) : SoundReceipts crates Store.vacant.receipts where
  single _ _ _ _ enabled := nomatch enabled.1
  valid _ _ enabled := nomatch enabled.1

/-- A step of a run that resolves the active version resolves what is enabled. -/
theorem resolves_of_step (crates : Crates) (store : Store) (outside : Outside)
    (package : PackageReference) (active : ActiveInstalledPackage)
    (returned : (perform crates store (.resolveActive package, outside)).1 =
      .ok (.active active)) : Resolves crates store package active := by
  have leads := resolveActive_leads crates outside package store
  have told : Leads (carryOut crates outside (.resolveActive package)) store
      (fun reply _ => ∀ active, reply = .active active → Resolves crates store package active)
      (fun _ _ => True) := by
    rw [carryOut, leads_map]
    refine leads.mono (fun found _ held active same => ?_) (fun _ _ _ => trivial)
    cases same
    exact held.2
  have ended := (leads_ending fun result : Except Halt Reply × Store =>
    ∀ active, result.1 = .ok (.active active) → Resolves crates store package active).mp
      (told.mono (fun reply _ held active same => held active (Except.ok.inj same))
        (fun _ _ _ _ never => nomatch never))
  exact ended active returned

/-- In a run whose calls see what else is enabled before they enable a version, at most one version
of each package is enabled in every state. In every run, a version that resolves as active is
enabled and has the hashes of its receipt. -/
theorem one_version_enabled (crates : Crates) (inputs : List (Command × Outside))
    (sees : ∀ step ∈ steps (perform crates) Store.vacant inputs,
      step.input.1.SeesOthers crates step.input.2 step.before) :
    SoundReceipts crates (final (perform crates) Store.vacant inputs).receipts ∧
      (∀ step ∈ steps (perform crates) Store.vacant inputs,
        SoundReceipts crates step.before.receipts ∧ SoundReceipts crates step.after.receipts) ∧
      ∀ step ∈ steps (perform crates) Store.vacant inputs, ∀ package active,
        step.input.1 = .resolveActive package → step.output = .ok (.active active) →
          Resolves crates step.before package active := by
  have run := invariant_under
    (fun step : Step Store (Command × Outside) (Except Halt Reply) =>
      step.input.1.SeesOthers crates step.input.2 step.before)
    (fun store => SoundReceipts crates store.receipts)
    (fun before input sound met => (leads_ending fun result : Except Halt Reply × Store =>
      SoundReceipts crates result.2.receipts).mp (carryOut_sound input.2 input.1 before sound met))
    inputs Store.vacant (vacant_sound crates) sees
  refine ⟨run.1, run.2, fun step member package active called returned => ?_⟩
  have made := step_eq Store.vacant inputs step member
  rw [made] at returned
  have input : step.input = (.resolveActive package, step.input.2) := by
    rw [← called]
  rw [stepOf, input] at returned
  exact resolves_of_step crates step.before step.input.2 package active returned

def sampleReference (version : String) : PackageReference := ⟨.deckPack, "com.sample", version⟩

/-- A call that fails to read the installed files and is interrupted before it looks for the receipt
of the tree it took away. -/
def interruptedOutside : Outside :=
  { quietOutside with
    fault := fun place =>
      match place with
      | .installedFiles => some (.failed .other .io)
      | .removedReceiptInspect => some .interrupted
      | _ => none }

variable {package : PackageReference}

/-- A scan that nothing keeps from the receipts overlooks no enabled version. -/
theorem quiet_overlooks_nothing {crates : Crates} {outside : Outside} {store : Store}
    (sound : SoundReceipts crates store.receipts) (quiet : ∀ place, outside.fault place = none)
    (other : OtherEnabled store package) : ¬ Overlooked crates outside store package := by
  intro overlooked
  cases overlooked with
  | inl root =>
    obtain ⟨kind, code, failed⟩ := root
    exact nomatch (quiet _).symm.trans failed
  | inr unread =>
    obtain ⟨version, receipt, same, different, enabled⟩ := other
    obtain ⟨index, listed⟩ := otherReceiptFiles_lists same different enabled.1
    obtain ⟨kind, code, failed⟩ :=
      unread index receipt listed enabled.2 (sound.valid version receipt enabled)
    exact nomatch (quiet _).symm.trans failed

/-- In a run in which nothing fails outside, every call that enables by a scan sees what else is
enabled. The induction is on the calls, and carries that the receipts are sound. -/
theorem quiet_run_sees (crates : Crates) (inputs : List (Command × Outside))
    (quiet : ∀ input ∈ inputs, (∀ place, input.2.fault place = none) ∧
      ∀ package, input.1 ≠ .enableIfOnlyInstalledVersion package) :
    ∀ start : Store, SoundReceipts crates start.receipts →
      ∀ step ∈ steps (perform crates) start inputs,
        step.input.1.SeesOthers crates step.input.2 step.before := by
  induction inputs with
  | nil => exact fun _ _ _ never => absurd never List.not_mem_nil
  | cons input inputs ih =>
    intro start sound
    obtain ⟨⟨calm, scans⟩, rest⟩ := List.forall_mem_cons.mp quiet
    have here : input.1.SeesOthers crates input.2 start := by
      obtain ⟨command, outside⟩ := input
      cases command with
      | enable _ | enableActive _ => exact quiet_overlooks_nothing sound calm
      | enableIfOnlyInstalledVersion package => exact absurd rfl (scans package)
      | _ => exact trivial
    rw [steps, List.forall_mem_cons]
    exact ⟨here, ih rest _ ((leads_ending fun result : Except Halt Reply × Store =>
      SoundReceipts crates result.2.receipts).mp (carryOut_sound input.2 input.1 start sound here))⟩

/-- Whether a version has an enabled receipt. -/
def enablesVersion (receipts : Receipts) (package : PackageReference) : Bool :=
  match receipts.lookup package with
  | some (.holds receipt) => receipt.enabled
  | _ => false

/-- Two versions are installed and enabled in an empty store, and the first is resolved. -/
def activatingRun : List (Command × Outside) :=
  [.install (sampleRequest "1.0.0") none, .enable (sampleReference "1.0.0"),
    .install (sampleRequest "2.0.0") none, .enable (sampleReference "2.0.0"),
    .resolveActive (sampleReference "1.0.0")].map (·, quietOutside)

/-- The second version is refused, so at most one is enabled, which is the first. -/
theorem activating_run_enables_one :
    SoundReceipts sampleCrates
        (final (perform sampleCrates) Store.vacant activatingRun).receipts ∧
      (steps (perform sampleCrates) Store.vacant activatingRun).map (·.output.isOk) =
        [true, true, true, false, true] ∧
      [sampleReference "1.0.0", sampleReference "2.0.0"].map (enablesVersion
        (final (perform sampleCrates) Store.vacant activatingRun).receipts) = [true, false] := by
  refine ⟨(one_version_enabled sampleCrates _ (quiet_run_sees _ _ (fun input member => ?_) _
    (vacant_sound _))).1, by decide +kernel⟩
  obtain ⟨command, listed, rfl⟩ := List.mem_map.mp member
  refine ⟨fun _ => rfl, fun package same => ?_⟩
  simp only [List.mem_cons, List.not_mem_nil, or_false] at listed
  rcases listed with rfl | rfl | rfl | rfl | rfl <;> cases same

/-- The first version is enabled and removed by a call that is interrupted, and the second is
installed and enabled. -/
def orphaningRun : List (Command × Outside) :=
  [(.install (sampleRequest "1.0.0") none, quietOutside),
    (.enable (sampleReference "1.0.0"), quietOutside),
    (.remove (sampleReference "1.0.0") true, interruptedOutside),
    (.install (sampleRequest "2.0.0") none, quietOutside),
    (.enableIfOnlyInstalledVersion (sampleReference "2.0.0"), quietOutside)]

theorem enabledBy_of_enables {receipts : Receipts}
    (enables : enablesVersion receipts package = true) :
    ∃ receipt, EnabledBy receipts package receipt := by
  unfold enablesVersion at enables
  cases found : receipts.lookup package with
  | none =>
    rw [found] at enables
    exact nomatch enables
  | some file =>
    rw [found] at enables
    cases file with
    | holds receipt => exact ⟨receipt, found, enables⟩
    | unreadable code => exact nomatch enables

/-- The receipt that the interrupted removal leaves behind stays enabled when the second version is
enabled as the only installed one. -/
theorem orphan_receipt_enables_two : ∃ first second,
    EnabledBy (final (perform sampleCrates) Store.vacant orphaningRun).receipts
        (sampleReference "1.0.0") first ∧
      EnabledBy (final (perform sampleCrates) Store.vacant orphaningRun).receipts
        (sampleReference "2.0.0") second := by
  have both : (enablesVersion (final (perform sampleCrates) Store.vacant orphaningRun).receipts
      (sampleReference "1.0.0") &&
        enablesVersion (final (perform sampleCrates) Store.vacant orphaningRun).receipts
          (sampleReference "2.0.0")) = true := by decide +kernel
  rw [Bool.and_eq_true] at both
  obtain ⟨first, firstEnabled⟩ := enabledBy_of_enables both.1
  obtain ⟨second, secondEnabled⟩ := enabledBy_of_enables both.2
  exact ⟨first, second, firstEnabled, secondEnabled⟩

end LatentDeck.Packages
