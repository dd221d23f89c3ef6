import LatentDeck.Packages.Resolution
import Mathlib.Data.List.Pairwise

/-!
# Compatibility of a selection

What the resolver makes of an installed pair once a profile, a device and the source cartridges are
chosen. The checks compare every source with the first one, so that the verdict could depend on the
order of the slots. It does not: each check says that the sources fit one by one and agree two by
two.
-/

namespace LatentDeck.Packages

open Fallible

structure FrameTimingContract where
  frameRateNumerator : Nat
  frameRateDenominator : Nat
  deriving DecidableEq

def FrameTimingContract.isValid (timing : FrameTimingContract) : Bool :=
  timing.frameRateNumerator != 0 && timing.frameRateDenominator != 0

def DeckTimingContract.frame (timing : DeckTimingContract) : FrameTimingContract :=
  ⟨timing.frameRateNumerator, timing.frameRateDenominator⟩

def TensorGeometryContract.sameDtypeAndDevice (first second : TensorGeometryContract) : Bool :=
  first.dtype == second.dtype && first.device == second.device

structure SelectedSourceContract (Version : Type) where
  lcSpecVersion : Version
  profile : ProfileContract Version
  geometry : TensorGeometryContract
  decodedHeight : Nat
  decodedWidth : Nat
  timing : FrameTimingContract
  timingContract : ContractId
  timingContractVersion : Version

inductive SourceSelectionScope where
  | candidate
  | completeSet
  deriving DecidableEq

def SelectedSourceContract.signal {Version : Type} (source : SelectedSourceContract Version) :
    TensorGeometryContract × Nat × Nat :=
  (source.geometry, source.decodedHeight, source.decodedWidth)

def SelectedSourceContract.pace {Version : Type} (source : SelectedSourceContract Version) :
    FrameTimingContract × ContractId × Version :=
  (source.timing, source.timingContract, source.timingContractVersion)

/-- Whether the resolver refuses the numbers of a source. -/
def SelectedSourceContract.malformed {Version : Type} (source : SelectedSourceContract Version) :
    Bool :=
  !source.geometry.isValid || source.decodedHeight == 0 || source.decodedWidth == 0 ||
    !source.timing.isValid

def PackageCompatibilityDecision.isCompatible {Version : Type}
    (decision : PackageCompatibilityDecision Version) : Bool :=
  decision.reason == .compatible

/-- A decision for a reason that is not compatible: no profile is left. -/
def PackageCompatibilityDecision.refused {Version : Type}
    (decision : PackageCompatibilityDecision Version) (reason : CompatibilityReason) :
    PackageCompatibilityDecision Version :=
  { decision with
    reason := reason
    compatibleProfiles := [] }

namespace Semver

variable {crates : Crates} (semver : Semver crates)

/-- Whether a source is made for another profile, or for another version of the format. -/
def otherProfile (host : PackageHostRuntime crates.Version)
    (provides : CodecPackageProvides crates.Version semver.VersionReq)
    (profile : ProfileContract crates.Version)
    (source : SelectedSourceContract crates.Version) : Bool :=
  have := semver.sameVersion
  source.profile != profile || !host.lcSpecVersions.contains source.lcSpecVersion ||
    !provides.lcSpecVersions.contains source.lcSpecVersion

/-- Whether the tensors of a source cannot be used beside those of the first one. -/
def otherTensors (host : PackageHostRuntime crates.Version)
    (requires : DeckPackageRequirements crates.Version semver.VersionReq) (device : ContractId)
    (first source : SelectedSourceContract crates.Version) : Bool :=
  source.geometry.device != device ||
    !source.geometry.sameDtypeAndDevice first.geometry ||
    !host.tensorDtypes.contains source.geometry.dtype ||
    !host.tensorDevices.contains source.geometry.device ||
    !requires.geometries.any fun geometry => geometry.sameDtypeAndDevice source.geometry

/-- Whether a source has another geometry or another size than the first one. -/
def otherSignal (first source : SelectedSourceContract crates.Version) : Bool :=
  source.geometry != first.geometry || source.decodedHeight != first.decodedHeight ||
    source.decodedWidth != first.decodedWidth

/-- Whether a source has another timing than the first one. -/
def otherTiming (first source : SelectedSourceContract crates.Version) : Bool :=
  have := semver.sameVersion
  source.timing != first.timing || source.timingContract != first.timingContract ||
    source.timingContractVersion != first.timingContractVersion

/-- What `resolve_selected_pair` makes of the sources, for a selection that fits the packages. -/
def resolveSources (host : PackageHostRuntime crates.Version)
    (requires : DeckPackageRequirements crates.Version semver.VersionReq)
    (codec : CodecPackageVersion crates.Version semver.VersionReq)
    (profile : ProfileContract crates.Version) (device : ContractId)
    (sources : List (SelectedSourceContract crates.Version)) (scope : SourceSelectionScope) :
    CompatibilityReason :=
  match sources with
  | [] => if scope = .candidate then .compatible else .unsupportedSignal
  | first :: rest =>
      if 16 < (first :: rest).length ∨
          (first :: rest).any SelectedSourceContract.malformed = true then .packageInvalid
      else
        match codec.provides with
        | none => .packageInvalid
        | some provides =>
            if (first :: rest).any (semver.otherProfile host provides profile) = true then
              .unsupportedProfile
            else if scope = .completeSet ∧ (first :: rest).length ≠ requires.slots then
              .unsupportedSignal
            else if (first :: rest).any (semver.otherTensors host requires device first) = true then
              .unsupportedTensorAbi
            else if (first :: rest).any (otherSignal first) = true ∨
                first.geometry ∉ requires.geometries then
              .unsupportedSignal
            else if (first :: rest).any (semver.otherTiming first) = true ∨
                requires.timing.frame ≠ first.timing then
              .unsupportedTiming
            else .compatible

def resolveSelectedPair (host : PackageHostRuntime crates.Version)
    (deck : DeckPackageVersion crates.Version semver.VersionReq)
    (codec : CodecPackageVersion crates.Version semver.VersionReq) (assets : AssetState)
    (selectedProfile : Option (ProfileContract crates.Version)) (selectedDevice : Option ContractId)
    (sources : List (SelectedSourceContract crates.Version)) (scope : SourceSelectionScope) :
    Except ContractValidationError (PackageCompatibilityDecision crates.Version) := do
  have := semver.sameVersion
  let decision ← semver.resolvePackagePair host deck codec
  if decision.isCompatible = false then .ok decision
  else if assets = .missing then .ok (decision.refused .missingAsset)
  else
    match selectedProfile, selectedDevice with
    | some profile, some device =>
        if decision.compatibleProfiles.contains profile = false then
          .ok (decision.refused .unsupportedProfile)
        else
          match deck.requires with
          | none => .ok (decision.refused .packageInvalid)
          | some requires =>
              if device ∉ host.tensorDevices ∨
                  requires.geometries.any (fun geometry => geometry.device == device) = false then
                .ok (decision.refused .unsupportedTensorAbi)
              else if requires.timing.samplesPerSlot ∉ host.samplesPerSlot then
                .ok (decision.refused .unsupportedTiming)
              else
                match semver.resolveSources host requires codec profile device sources scope with
                | .compatible => .ok decision
                | reason => .ok (decision.refused reason)
    | _, _ => .ok (decision.refused .packageInvalid)

end Semver

section FirstMember

variable {α β : Type} [BEq β] [LawfulBEq β] (key : α → β) (unfit : α → Bool)

/-- Whether a member has another key than the first one, or is unfit itself. -/
def departs (first : α) (items : List α) : Bool :=
  items.any fun item => key item != key first || unfit item

theorem departs_eq_false (first : α) (items : List α) :
    departs key unfit first items = false ↔
      ∀ item ∈ items, key item = key first ∧ unfit item = false := by
  simp [departs]

variable {first : α} {items : List α}

theorem departs_of_differs {item : α} (within : item ∈ items) (differs : key item ≠ key first) :
    departs key unfit first items = true := by
  apply List.any_eq_true.mpr
  exact ⟨item, within, by simp [differs]⟩

theorem departs_perm {second : α} {others : List α} (permuted : items.Perm others)
    (firstWithin : first ∈ items) (secondWithin : second ∈ others) :
    departs key unfit first items = departs key unfit second others := by
  by_cases same : key first = key second
  · unfold departs
    rw [same]
    exact permuted.any_eq
  · have left : departs key unfit first items = true :=
      departs_of_differs key unfit (permuted.mem_iff.mpr secondWithin) fun equal => same equal.symm
    have right : departs key unfit second others = true :=
      departs_of_differs key unfit (permuted.mem_iff.mp firstWithin) same
    rw [left, right]

/-- Where the key decides whether a member is unfit, looking at the first one is enough. -/
theorem departs_of_first (firstWithin : first ∈ items)
    (decided : ∀ item, key item = key first → unfit item = unfit first) :
    (items.any (fun item => key item != key first) || unfit first) =
      departs key unfit first items := by
  by_cases differs : ∃ item ∈ items, key item ≠ key first
  · obtain ⟨item, within, other⟩ := differs
    have seen : items.any (fun item => key item != key first) = true :=
      List.any_eq_true.mpr ⟨item, within, by simp [other]⟩
    rw [seen, departs_of_differs key unfit within other, Bool.true_or]
  · have alike : ∀ item ∈ items, key item = key first := by
      intro item within
      by_contra other
      exact differs ⟨item, within, other⟩
    have unseen : items.any (fun item => key item != key first) = false := by
      simpa using alike
    rw [unseen, Bool.false_or]
    cases bad : unfit first with
    | true =>
      have seen : departs key unfit first items = true := by
        apply List.any_eq_true.mpr
        exact ⟨first, firstWithin, by simp [bad]⟩
      exact seen.symm
    | false =>
      have none : departs key unfit first items = false := by
        apply (departs_eq_false key unfit first items).mpr
        intro item within
        exact ⟨alike item within, (decided item (alike item within)).trans bad⟩
      exact none.symm

end FirstMember

namespace Semver

variable {crates : Crates} (semver : Semver crates)

/-- The type and the device of the tensors of a source. -/
def tensors (source : SelectedSourceContract crates.Version) : ContractId × ContractId :=
  (source.geometry.dtype, source.geometry.device)

/-- The tensors of a source cannot be used, whatever the first source is. -/
def unusable (host : PackageHostRuntime crates.Version)
    (requires : DeckPackageRequirements crates.Version semver.VersionReq) (device : ContractId)
    (source : SelectedSourceContract crates.Version) : Bool :=
  source.geometry.device != device || !host.tensorDtypes.contains source.geometry.dtype ||
    !host.tensorDevices.contains source.geometry.device ||
    !requires.geometries.any fun geometry => geometry.sameDtypeAndDevice source.geometry

variable (host : PackageHostRuntime crates.Version)

theorem otherTensors_eq
    (requires : DeckPackageRequirements crates.Version semver.VersionReq) (device : ContractId)
    (first source : SelectedSourceContract crates.Version) :
    semver.otherTensors host requires device first source =
      (tensors source != tensors first || semver.unusable host requires device source) := by
  have alike : (!source.geometry.sameDtypeAndDevice first.geometry) =
      (tensors source != tensors first) := by
    rw [Bool.eq_iff_iff]
    simp [TensorGeometryContract.sameDtypeAndDevice, tensors, imp_iff_not_or]
  unfold otherTensors unusable
  rw [alike]
  ac_rfl

theorem otherSignal_eq (first source : SelectedSourceContract crates.Version) :
    otherSignal first source = (source.signal != first.signal) := by
  rw [Bool.eq_iff_iff]
  simp [otherSignal, SelectedSourceContract.signal, imp_iff_not_or, or_assoc]

theorem otherTiming_eq (first source : SelectedSourceContract crates.Version) :
    have := semver.sameVersion
    semver.otherTiming first source = (source.pace != first.pace) := by
  intro versions
  rw [Bool.eq_iff_iff]
  simp [otherTiming, SelectedSourceContract.pace, imp_iff_not_or, or_assoc]

variable {first : SelectedSourceContract crates.Version}
  {sources : List (SelectedSourceContract crates.Version)}

section

variable (requires : DeckPackageRequirements crates.Version semver.VersionReq)

include requires

theorem signal_departs (within : first ∈ sources) :
    (sources.any (otherSignal first) = true ∨ first.geometry ∉ requires.geometries) =
      (departs SelectedSourceContract.signal
        (fun source => !requires.geometries.contains source.geometry) first sources = true) := by
  rw [← departs_of_first, Bool.or_eq_true, funext (otherSignal_eq first)]
  · simp
  · exact within
  · intro item same
    have geometries : item.geometry = first.geometry := congrArg Prod.fst same
    rw [geometries]

/-- The check of the timing, with the frames of the deck, against a member of the set. -/
theorem timing_departs (within : first ∈ sources) :
    have := semver.sameVersion
    (sources.any (semver.otherTiming first) = true ∨ requires.timing.frame ≠ first.timing) =
      (departs SelectedSourceContract.pace
        (fun source => requires.timing.frame != source.timing) first sources = true) := by
  intro versions
  rw [← departs_of_first, Bool.or_eq_true, funext (semver.otherTiming_eq first)]
  · simp
  · exact within
  · intro item same
    have timings : item.timing = first.timing := congrArg Prod.fst same
    rw [timings]

variable {others : List (SelectedSourceContract crates.Version)}

/-- What `resolve_selected_pair` makes of the sources depends on the members of the set only. -/
theorem resolveSources_perm (codec : CodecPackageVersion crates.Version semver.VersionReq)
    (profile : ProfileContract crates.Version) (device : ContractId) (scope : SourceSelectionScope)
    (permuted : sources.Perm others) :
    semver.resolveSources host requires codec profile device sources scope =
      semver.resolveSources host requires codec profile device others scope := by
  cases sources with
  | nil => rw [permuted.nil_eq]
  | cons first rest =>
    cases others with
    | nil => exact absurd permuted.eq_nil (List.cons_ne_nil first rest)
    | cons second more =>
      have firstWithin : first ∈ first :: rest := List.mem_cons_self
      have secondWithin : second ∈ second :: more := List.mem_cons_self
      have sizes : (first :: rest).length = (second :: more).length := permuted.length_eq
      have formed : (first :: rest).any SelectedSourceContract.malformed =
          (second :: more).any SelectedSourceContract.malformed := permuted.any_eq
      have profiled : ∀ provides, (first :: rest).any (semver.otherProfile host provides profile) =
          (second :: more).any (semver.otherProfile host provides profile) :=
        fun provides => permuted.any_eq
      have usable : (first :: rest).any (semver.otherTensors host requires device first) =
          (second :: more).any (semver.otherTensors host requires device second) := by
        rw [funext (semver.otherTensors_eq host requires device first),
          funext (semver.otherTensors_eq host requires device second)]
        exact departs_perm tensors (semver.unusable host requires device) permuted firstWithin
          secondWithin
      have shaped : ((first :: rest).any (otherSignal first) = true ∨
          first.geometry ∉ requires.geometries) = ((second :: more).any (otherSignal second) = true ∨
            second.geometry ∉ requires.geometries) := by
        rw [semver.signal_departs requires firstWithin, semver.signal_departs requires secondWithin,
          departs_perm _ _ permuted firstWithin secondWithin]
      have paced : ((first :: rest).any (semver.otherTiming first) = true ∨
          requires.timing.frame ≠ first.timing) =
            ((second :: more).any (semver.otherTiming second) = true ∨
              requires.timing.frame ≠ second.timing) := by
        let := semver.sameVersion
        rw [semver.timing_departs requires firstWithin, semver.timing_departs requires secondWithin,
          departs_perm _ _ permuted firstWithin secondWithin]
      unfold resolveSources
      simp only [sizes, formed, profiled, usable, shaped, paced]

/-- A source fits the packages, the profile and the device. -/
structure Fits (provides : CodecPackageProvides crates.Version semver.VersionReq)
    (profile : ProfileContract crates.Version) (device : ContractId)
    (source : SelectedSourceContract crates.Version) : Prop where
  formed : source.malformed = false
  /-- It is made for the profile, in a version of the format that both sides know. -/
  profiled : semver.otherProfile host provides profile source = false
  usable : semver.unusable host requires device source = false
  allowed : source.geometry ∈ requires.geometries
  timed : requires.timing.frame = source.timing

/-- Two sources have the same shape and the same timing. -/
def Agree (first second : SelectedSourceContract crates.Version) : Prop :=
  first.signal = second.signal ∧ first.pace = second.pace

/-- The sources of a set fit one by one and agree two by two. -/
structure Suits (codec : CodecPackageVersion crates.Version semver.VersionReq)
    (profile : ProfileContract crates.Version) (device : ContractId)
    (sources : List (SelectedSourceContract crates.Version)) : Prop where
  bounded : sources.length ≤ 16
  fits : ∃ provides, codec.provides = some provides ∧
    ∀ source ∈ sources, semver.Fits host requires provides profile device source
  agree : ∀ first ∈ sources, ∀ second ∈ sources, Agree first second

omit requires in
theorem refusal_eq_compatible {check : Prop} [Decidable check] {refusal rest : CompatibilityReason}
    (refuses : refusal ≠ .compatible) :
    (if check then refusal else rest) = .compatible ↔ ¬ check ∧ rest = .compatible := by
  by_cases failed : check
  · rw [if_pos failed]
    exact ⟨fun equal => absurd equal refuses, fun both => absurd failed both.1⟩
  · rw [if_neg failed]
    exact ⟨fun equal => ⟨failed, equal⟩, fun both => both.2⟩

/-- Exactly the sets whose members fit and agree are compatible, and complete sets only where they
fill the slots. -/
theorem resolveSources_eq_compatible (codec : CodecPackageVersion crates.Version semver.VersionReq)
    (profile : ProfileContract crates.Version) (device : ContractId) (scope : SourceSelectionScope)
    (nonempty : sources ≠ []) :
    semver.resolveSources host requires codec profile device sources scope = .compatible ↔
      semver.Suits host requires codec profile device sources ∧
        (scope = .completeSet → sources.length = requires.slots) := by
  cases sources with
  | nil => exact absurd rfl nonempty
  | cons first rest =>
    have within : first ∈ first :: rest := List.mem_cons_self
    unfold resolveSources
    dsimp only
    rw [refusal_eq_compatible (by decide)]
    cases provided : codec.provides with
    | none =>
      constructor
      · intro both
        exact nomatch both.2
      · intro both
        obtain ⟨provides, found, -⟩ := both.1.fits
        exact nomatch provided.symm.trans found
    | some provides =>
      dsimp only
      rw [refusal_eq_compatible (by decide), refusal_eq_compatible (by decide),
        refusal_eq_compatible (by decide), refusal_eq_compatible (by decide),
        refusal_eq_compatible (by decide), semver.signal_departs requires within,
        semver.timing_departs requires within]
      simp only [Bool.not_eq_true, departs_eq_false]
      constructor
      · rintro ⟨formed, profiled, filled, usable, shaped, paced, -⟩
        have fits : ∀ source ∈ first :: rest,
            semver.Fits host requires provides profile device source := by
          intro source among
          have tensors := List.any_eq_false.mp usable source among
          rw [semver.otherTensors_eq] at tensors
          exact {
            formed := by
              have passed := fun bad => formed (Or.inr (List.any_eq_true.mpr ⟨source, among, bad⟩))
              simpa using passed
            profiled := by simpa using List.any_eq_false.mp profiled source among
            usable := (Bool.or_eq_false_iff.mp (Bool.eq_false_iff.mpr tensors)).2
            allowed := by simpa using (shaped source among).2
            timed := by simpa using (paced source among).2 }
        have agree : ∀ one ∈ first :: rest, ∀ other ∈ first :: rest, Agree one other := by
          intro one oneAmong other otherAmong
          exact ⟨(shaped one oneAmong).1.trans (shaped other otherAmong).1.symm,
            (paced one oneAmong).1.trans (paced other otherAmong).1.symm⟩
        refine ⟨⟨?_, ⟨provides, provided, fits⟩, agree⟩, ?_⟩
        · have within := fun large => formed (Or.inl large)
          omega
        · intro complete
          by_contra other
          exact filled ⟨complete, other⟩
      · rintro ⟨⟨bounded, ⟨known, found, fits⟩, agree⟩, filled⟩
        have same : known = provides := Option.some.inj (found.symm.trans provided)
        rw [same] at fits
        refine ⟨?_, ?_, ?_, ?_, ?_, ?_, trivial⟩
        · rintro (large | bad)
          · omega
          · obtain ⟨source, among, malformed⟩ := List.any_eq_true.mp bad
            rw [(fits source among).formed] at malformed
            exact Bool.noConfusion malformed
        · apply List.any_eq_false.mpr
          intro source among
          rw [(fits source among).profiled]
          exact Bool.false_ne_true
        · rintro ⟨complete, other⟩
          exact other (filled complete)
        · apply List.any_eq_false.mpr
          intro source among
          have shape := (agree source among first within).1
          have kind : tensors source = tensors first :=
            congrArg (fun signal => (signal.1.dtype, signal.1.device)) shape
          rw [semver.otherTensors_eq, (fits source among).usable, kind]
          simp
        · intro source among
          exact ⟨(agree source among first within).1, by simpa using (fits source among).allowed⟩
        · intro source among
          exact ⟨(agree source among first within).2, by simpa using (fits source among).timed⟩

end

/-- A profile and a device that the packages and the host support. -/
structure Supports (host : PackageHostRuntime crates.Version)
    (deck : DeckPackageVersion crates.Version semver.VersionReq) (assets : AssetState)
    (selectedProfile : Option (ProfileContract crates.Version))
    (selectedDevice : Option ContractId) (decision : PackageCompatibilityDecision crates.Version)
    (requires : DeckPackageRequirements crates.Version semver.VersionReq)
    (profile : ProfileContract crates.Version) (device : ContractId) : Prop where
  supplied : assets ≠ .missing
  chosenProfile : selectedProfile = some profile
  chosenDevice : selectedDevice = some device
  shared : profile ∈ decision.compatibleProfiles
  required : deck.requires = some requires
  hosted : device ∈ host.tensorDevices
  placed : requires.geometries.any (fun geometry => geometry.device == device) = true
  sampled : requires.timing.samplesPerSlot ∈ host.samplesPerSlot

variable {package decision : PackageCompatibilityDecision crates.Version}
  {reason : CompatibilityReason}

theorem refused_accepts (refuses : reason ≠ .compatible) :
    ¬ ((.ok (package.refused reason) : Except ContractValidationError _) = .ok decision ∧
      decision.isCompatible = true) := by
  rintro ⟨same, compatible⟩
  rw [← Except.ok.inj same] at compatible
  have kept : reason = .compatible := by
    simpa [PackageCompatibilityDecision.isCompatible, PackageCompatibilityDecision.refused]
      using compatible
  exact refuses kept

theorem refusal_accepts {check : Prop} [Decidable check]
    {rest : Except ContractValidationError (PackageCompatibilityDecision crates.Version)}
    (refuses : reason ≠ .compatible) :
    ((if check then .ok (package.refused reason) else rest) = .ok decision ∧
        decision.isCompatible = true) ↔
      ¬ check ∧ rest = .ok decision ∧ decision.isCompatible = true := by
  by_cases failed : check
  · rw [if_pos failed]
    exact ⟨fun both => absurd both (refused_accepts refuses), fun both => absurd failed both.1⟩
  · rw [if_neg failed]
    exact ⟨fun both => ⟨failed, both⟩, fun both => both.2⟩

/-- A selection is compatible when the packages are, and the sources suit what they support. -/
theorem resolveSelectedPair_compatible (deck : DeckPackageVersion crates.Version semver.VersionReq)
    (codec : CodecPackageVersion crates.Version semver.VersionReq) (assets : AssetState)
    (selectedProfile : Option (ProfileContract crates.Version)) (selectedDevice : Option ContractId)
    (sources : List (SelectedSourceContract crates.Version)) (scope : SourceSelectionScope)
    (decision : PackageCompatibilityDecision crates.Version) :
    semver.resolveSelectedPair host deck codec assets selectedProfile selectedDevice sources scope =
        .ok decision ∧ decision.isCompatible = true ↔
      semver.resolvePackagePair host deck codec = .ok decision ∧ decision.isCompatible = true ∧
        ∃ requires profile device, semver.Supports host deck assets selectedProfile selectedDevice
            decision requires profile device ∧
          semver.resolveSources host requires codec profile device sources scope =
            .compatible := by
  let := semver.sameVersion
  unfold resolveSelectedPair
  dsimp only
  cases semver.resolvePackagePair host deck codec with
  | error error => exact ⟨fun both => (by cases both.1), fun both => (by cases both.1)⟩
  | ok package =>
  dsimp only [Bind.bind, Except.bind]
  by_cases incompatible : package.isCompatible = false
  · rw [if_pos incompatible]
    constructor
    · rintro ⟨same, compatible⟩
      rw [← Except.ok.inj same, incompatible] at compatible
      exact Bool.noConfusion compatible
    · rintro ⟨same, compatible, -⟩
      rw [← Except.ok.inj same, incompatible] at compatible
      exact Bool.noConfusion compatible
  rw [if_neg incompatible, refusal_accepts (by decide)]
  cases selectedProfile with
  | none =>
    constructor
    · rintro ⟨-, refused⟩
      exact absurd refused (refused_accepts (by decide))
    · rintro ⟨-, -, requires, profile, device, supports, -⟩
      cases supports.chosenProfile
  | some profile =>
  cases selectedDevice with
  | none =>
    constructor
    · rintro ⟨-, refused⟩
      exact absurd refused (refused_accepts (by decide))
    · rintro ⟨-, -, requires, profile, device, supports, -⟩
      cases supports.chosenDevice
  | some device =>
  dsimp only
  rw [refusal_accepts (by decide)]
  cases required : deck.requires with
  | none =>
    constructor
    · rintro ⟨-, -, refused⟩
      exact absurd refused (refused_accepts (by decide))
    · rintro ⟨-, -, requires, profile, device, supports, -⟩
      cases required.symm.trans supports.required
  | some requires =>
  dsimp only
  rw [refusal_accepts (by decide), refusal_accepts (by decide)]
  constructor
  · rintro ⟨supplied, shared, unplaced, sampled, resolved, compatible⟩
    cases reason : semver.resolveSources host requires codec profile device sources scope with
    | compatible =>
      rw [reason] at resolved
      have same : package = decision := Except.ok.inj resolved
      rw [← same]
      rw [← same] at compatible
      have supports : semver.Supports host deck assets (some profile) (some device) package requires
          profile device := {
        supplied := supplied
        chosenProfile := rfl
        chosenDevice := rfl
        shared := List.contains_iff_mem.mp (eq_true_of_ne_false shared)
        required := required
        hosted := by
          by_contra absent
          exact unplaced (Or.inl absent)
        placed := by
          by_contra elsewhere
          exact unplaced (Or.inr (Bool.eq_false_iff.mpr elsewhere))
        sampled := not_not.mp sampled }
      exact ⟨rfl, compatible, requires, profile, device, supports, reason⟩
    | _ =>
      rw [reason] at resolved
      exact absurd ⟨resolved, compatible⟩ (refused_accepts (by decide))
  · rintro ⟨same, compatible, known, chosen, place, supports, resolved⟩
    have profiles : profile = chosen := Option.some.inj supports.chosenProfile
    have devices : device = place := Option.some.inj supports.chosenDevice
    have requirements : requires = known := Option.some.inj (required.symm.trans supports.required)
    have decisions : package = decision := Except.ok.inj same
    subst profiles devices requirements decisions
    rw [resolved]
    refine ⟨supports.supplied, ne_false_of_eq_true (List.contains_iff_mem.mpr supports.shared), ?_,
      not_not.mpr supports.sampled, rfl, compatible⟩
    rintro (absent | elsewhere)
    · exact absent supports.hosted
    · rw [supports.placed] at elsewhere
      exact Bool.noConfusion elsewhere

/-- A selection with these sources is compatible. -/
def Accepts (host : PackageHostRuntime crates.Version)
    (deck : DeckPackageVersion crates.Version semver.VersionReq)
    (codec : CodecPackageVersion crates.Version semver.VersionReq) (assets : AssetState)
    (selectedProfile : Option (ProfileContract crates.Version)) (selectedDevice : Option ContractId)
    (sources : List (SelectedSourceContract crates.Version)) (scope : SourceSelectionScope) :
    Prop :=
  ∃ decision, semver.resolveSelectedPair host deck codec assets selectedProfile selectedDevice
    sources scope = .ok decision ∧ decision.isCompatible = true

variable {host : PackageHostRuntime crates.Version}
  {deck : DeckPackageVersion crates.Version semver.VersionReq}
  {codec : CodecPackageVersion crates.Version semver.VersionReq} {assets : AssetState}
  {selectedProfile : Option (ProfileContract crates.Version)} {selectedDevice : Option ContractId}

theorem resolveSelectedPair_perm (scope : SourceSelectionScope) (permuted : sources.Perm others) :
    semver.resolveSelectedPair host deck codec assets selectedProfile selectedDevice sources scope =
      semver.resolveSelectedPair host deck codec assets selectedProfile selectedDevice others
        scope := by
  have same := fun requires profile device =>
    semver.resolveSources_perm host requires codec profile device scope permuted
  unfold resolveSelectedPair
  simp only [same]

variable {semver} {requires : DeckPackageRequirements crates.Version semver.VersionReq}
    {profile : ProfileContract crates.Version} {device : ContractId}

theorem Suits.part {sources part : List (SelectedSourceContract crates.Version)}
    (suits : semver.Suits host requires codec profile device sources)
    (within : part.Sublist sources) : semver.Suits host requires codec profile device part := by
  obtain ⟨provides, provided, fits⟩ := suits.fits
  exact {
    bounded := within.length_le.trans suits.bounded
    fits := ⟨provides, provided, fun source among => fits source (within.subset among)⟩
    agree := fun first firstAmong second secondAmong =>
      suits.agree first (within.subset firstAmong) second (within.subset secondAmong) }

/-- Sources that suit one by one and two by two suit together, where they are not too many. -/
theorem Suits.of_pairs (nonempty : sources ≠ []) (bounded : sources.length ≤ 16)
    (alone : ∀ source ∈ sources, semver.Suits host requires codec profile device [source])
    (pairs : sources.Pairwise fun first second =>
      semver.Suits host requires codec profile device [first, second]) :
    semver.Suits host requires codec profile device sources := by
  have provided : ∃ provides, codec.provides = some provides := by
    obtain ⟨first, among⟩ := List.exists_mem_of_ne_nil sources nonempty
    obtain ⟨provides, provided, -⟩ := (alone first among).fits
    exact ⟨provides, provided⟩
  obtain ⟨provides, provided⟩ := provided
  have fits : ∀ source ∈ sources, semver.Fits host requires provides profile device source := by
    intro source among
    obtain ⟨known, found, fits⟩ := (alone source among).fits
    have same : known = provides := Option.some.inj (found.symm.trans provided)
    rw [← same]
    exact fits source List.mem_cons_self
  have agree : sources.Pairwise Agree := by
    apply pairs.imp
    intro first second suits
    exact suits.agree first List.mem_cons_self second
      (List.mem_cons_of_mem first List.mem_cons_self)
  have symmetric : Std.Symm (α := SelectedSourceContract crates.Version) Agree :=
    ⟨fun first second both => ⟨both.1.symm, both.2.symm⟩⟩
  exact {
    bounded := bounded
    fits := ⟨provides, provided, fits⟩
    agree := fun first firstAmong second secondAmong =>
      agree.forall_of_forall (fun source _ => ⟨rfl, rfl⟩) firstAmong secondAmong }

/-- The requirements of a compatible deck are valid. -/
theorem validRequirements_of_compatible
    (paired : semver.resolvePackagePair host deck codec = .ok decision)
    (compatible : decision.isCompatible = true) (required : deck.requires = some requires) :
    semver.validRequirements requires = true := by
  by_contra invalid
  have other : ∀ reason profiles, reason ≠ .compatible →
      (.ok ⟨deck.identity, codec.identity, reason, profiles⟩ :
        Except ContractValidationError _) ≠ .ok decision := by
    intro reason profiles refuses same
    rw [← Except.ok.inj same] at compatible
    exact refuses (by simpa [PackageCompatibilityDecision.isCompatible] using compatible)
  unfold resolvePackagePair at paired
  dsimp only at paired
  obtain ⟨_, -, paired⟩ := ok_of_bind paired
  by_cases untrusted : deck.readiness.trust = .untrusted ∨ codec.readiness.trust = .untrusted
  · rw [if_pos untrusted] at paired
    exact other _ _ (by decide) paired
  rw [if_neg untrusted, required] at paired
  cases provided : codec.provides with
  | none =>
    rw [provided] at paired
    exact other _ _ (by decide) paired
  | some provides =>
    rw [provided] at paired
    dsimp only at paired
    rw [if_pos (Or.inr (Or.inr (Or.inl (Bool.eq_false_iff.mpr invalid))))] at paired
    exact other _ _ (by decide) paired

theorem slots_of_compatible (paired : semver.resolvePackagePair host deck codec = .ok decision)
    (compatible : decision.isCompatible = true) (required : deck.requires = some requires) :
    1 ≤ requires.slots ∧ requires.slots ≤ 16 := by
  have valid := validRequirements_of_compatible paired compatible required
  simp only [validRequirements, Bool.and_eq_true, decide_eq_true_eq] at valid
  have slots := valid.1.1.1.1.1.1.1.1
  exact slots

/-- The sources of a compatible candidate suit what the packages support. -/
theorem suits_of_accepts {scope : SourceSelectionScope}
    (supports : semver.Supports host deck assets selectedProfile selectedDevice package requires
      profile device) (nonempty : sources ≠ [])
    (accepted : semver.Accepts host deck codec assets selectedProfile selectedDevice sources
      scope) : semver.Suits host requires codec profile device sources := by
  obtain ⟨decision, resolved⟩ := accepted
  obtain ⟨-, -, known, chosen, place, also, suitable⟩ :=
    (semver.resolveSelectedPair_compatible ..).mp resolved
  have profiles : chosen = profile :=
    Option.some.inj (also.chosenProfile.symm.trans supports.chosenProfile)
  have devices : place = device :=
    Option.some.inj (also.chosenDevice.symm.trans supports.chosenDevice)
  have requirements : known = requires :=
    Option.some.inj (also.required.symm.trans supports.required)
  rw [profiles, devices, requirements,
    semver.resolveSources_eq_compatible _ _ _ _ _ _ nonempty] at suitable
  exact suitable.1

variable (semver host deck codec assets selectedProfile selectedDevice)

/-- The verdict on a selection does not depend on the order of its sources, parts of a compatible
set are compatible candidates, candidates that are compatible one by one and two by two are a
compatible set when they fill the slots, and the profile is one of the packages. -/
theorem selected_sources_unordered_and_closed :
    (∀ sources others scope, sources.Perm others →
      semver.resolveSelectedPair host deck codec assets selectedProfile selectedDevice sources
          scope =
        semver.resolveSelectedPair host deck codec assets selectedProfile selectedDevice others
          scope) ∧
      (∀ sources part decision, semver.resolveSelectedPair host deck codec assets selectedProfile
          selectedDevice sources .completeSet = .ok decision → decision.isCompatible = true →
        part.Sublist sources → part ≠ [] →
        semver.resolveSelectedPair host deck codec assets selectedProfile selectedDevice part
          .candidate = .ok decision) ∧
      (∀ package requires sources, semver.resolvePackagePair host deck codec = .ok package →
        package.isCompatible = true → deck.requires = some requires →
        sources.length = requires.slots →
        (∀ source ∈ sources, semver.Accepts host deck codec assets selectedProfile selectedDevice
          [source] .candidate) →
        (sources.Pairwise fun first second => semver.Accepts host deck codec assets selectedProfile
          selectedDevice [first, second] .candidate) →
        semver.Accepts host deck codec assets selectedProfile selectedDevice sources
          .completeSet) ∧
      ∀ sources scope decision, semver.resolveSelectedPair host deck codec assets selectedProfile
          selectedDevice sources scope = .ok decision → decision.isCompatible = true →
        semver.resolvePackagePair host deck codec = .ok decision ∧
          ∃ profile ∈ decision.compatibleProfiles, selectedProfile = some profile := by
  refine ⟨?_, ?_, ?_, ?_⟩
  · intro sources others scope permuted
    exact semver.resolveSelectedPair_perm scope permuted
  · intro sources part decision resolved compatible within nonempty
    have whole : sources ≠ [] := fun empty => nonempty (List.sublist_nil.mp (empty ▸ within))
    obtain ⟨paired, -, requires, profile, device, supports, suitable⟩ :=
      (semver.resolveSelectedPair_compatible ..).mp ⟨resolved, compatible⟩
    rw [semver.resolveSources_eq_compatible _ _ _ _ _ _ whole] at suitable
    have chosen : semver.resolveSources host requires codec profile device part .candidate =
        .compatible := by
      rw [semver.resolveSources_eq_compatible _ _ _ _ _ _ nonempty]
      exact ⟨suitable.1.part within, nofun⟩
    exact ((semver.resolveSelectedPair_compatible ..).mpr
      ⟨paired, compatible, requires, profile, device, supports, chosen⟩).1
  · intro package requires sources paired compatible required filled alone pairs
    have slots := slots_of_compatible paired compatible required
    have nonempty : sources ≠ [] := by
      intro empty
      rw [empty] at filled
      rw [← filled] at slots
      exact absurd slots.1 (by simp)
    obtain ⟨first, among⟩ := List.exists_mem_of_ne_nil sources nonempty
    obtain ⟨decision, resolved⟩ := alone first among
    obtain ⟨same, -, known, profile, device, supports, -⟩ :=
      (semver.resolveSelectedPair_compatible ..).mp resolved
    have decisions : decision = package := Except.ok.inj (same.symm.trans paired)
    have requirements : known = requires := Option.some.inj (supports.required.symm.trans required)
    rw [decisions, requirements] at supports
    have suits : semver.Suits host requires codec profile device sources := by
      apply Suits.of_pairs nonempty
      · omega
      · intro source within
        exact suits_of_accepts supports (List.cons_ne_nil _ _) (alone source within)
      · apply pairs.imp
        intro one other accepted
        exact suits_of_accepts supports (List.cons_ne_nil _ _) accepted
    have complete : semver.resolveSources host requires codec profile device sources .completeSet =
        .compatible := by
      rw [semver.resolveSources_eq_compatible _ _ _ _ _ _ nonempty]
      exact ⟨suits, fun _ => filled⟩
    have both := (semver.resolveSelectedPair_compatible ..).mpr
      ⟨paired, compatible, requires, profile, device, supports, complete⟩
    exact ⟨package, both⟩
  · intro sources scope decision resolved compatible
    obtain ⟨paired, -, requires, profile, device, supports, -⟩ :=
      (semver.resolveSelectedPair_compatible ..).mp ⟨resolved, compatible⟩
    exact ⟨paired, profile, supports.shared, supports.chosenProfile⟩

end Semver

/-- A deck of two slots on the processor, at the rate of the host. -/
def pairDeck : DeckPackManifest :=
  { sampleDeck "3.13" with
    signal := {
      slots := 2
      roles := [⟨"left", "Left"⟩, ⟨"right", "Right"⟩]
      defaultPermutation := ["left", "right"]
      structuralCarrierRole := "left"
      geometryAllowlist := [⟨.fp16, .cpu, 1, 24, 1, 8, 8⟩]
      timing := ⟨24, 1, 24⟩
      requiredCapabilities := [.realtime]
      profileAllowlist := none } }

/-- The crates of the deck of two slots and of the sample codec pack. -/
abbrev pairCrates : Crates := standardCrates pairDeck (sampleCodec "3.13")

abbrev pairSemver : Semver pairCrates := standardSemver pairDeck (sampleCodec "3.13")

structure Chosen {crates : Crates} (semver : Semver crates) where
  host : PackageHostRuntime crates.Version
  deck : DeckPackageVersion crates.Version semver.VersionReq
  codec : CodecPackageVersion crates.Version semver.VersionReq
  profile : ProfileContract crates.Version
  device : ContractId
  source : SelectedSourceContract crates.Version

/-- The sample packages with a source for the deck of two slots. -/
def pairChosen : Option (Chosen pairSemver) := do
  let host : PackageHostRuntime pairCrates.Version ← Semver.hostRuntime "0.1.0"
  let deck ← pairSemver.deckVersion pairDeck .ready
  let codec ← pairSemver.codecVersion (sampleCodec "3.13") .ready
  let profile : ProfileContract pairCrates.Version ←
    Semver.profileContract ⟨"example", "main", "1.0.0"⟩
  let device ← contractId "cpu"
  let geometry ← geometryContract ⟨.fp16, .cpu, 1, 24, 1, 8, 8⟩
  let timing ← contractId "example.timing"
  some ⟨host, deck, codec, profile, device,
    ⟨"0.1.0", profile, geometry, 64, 64, ⟨24, 1⟩, timing, "1.0.0"⟩⟩

def pairSelection : Chosen pairSemver := pairChosen.get (by decide +kernel)

/-- What the resolver says of the sample selection, with the source in some slots. -/
def pairVerdict (count : Nat) (scope : SourceSelectionScope) :
    Except ContractValidationError (PackageCompatibilityDecision pairCrates.Version) :=
  pairSemver.resolveSelectedPair pairSelection.host pairSelection.deck pairSelection.codec .present
    (some pairSelection.profile) (some pairSelection.device)
    (List.replicate count pairSelection.source) scope

theorem pair_compatible :
    (pairVerdict 1 .candidate).toOption.any PackageCompatibilityDecision.isCompatible = true ∧
      (pairVerdict 2 .candidate).toOption.any PackageCompatibilityDecision.isCompatible = true ∧
      (pairSemver.resolvePackagePair pairSelection.host pairSelection.deck
        pairSelection.codec).toOption.any PackageCompatibilityDecision.isCompatible = true ∧
      pairSelection.deck.requires.any (fun requires => requires.slots == 2) = true := by
  decide +kernel

theorem compatible_of_check {Version : Type}
    {verdict : Except ContractValidationError (PackageCompatibilityDecision Version)}
    (check : verdict.toOption.any PackageCompatibilityDecision.isCompatible = true) :
    ∃ decision, verdict = .ok decision ∧ decision.isCompatible = true := by
  cases verdict with
  | error error => exact Bool.noConfusion check
  | ok decision => exact ⟨decision, rfl, check⟩

/-- Two slots that are compatible candidates are a compatible set in either order, and each of them
is a compatible candidate for the same profile. Their descriptors are equal, as they are in every
compatible set where the host knows one version of the format. -/
theorem pair_selected :
    ∃ decision profile,
      pairSemver.resolveSelectedPair pairSelection.host pairSelection.deck pairSelection.codec
        .present (some pairSelection.profile) (some pairSelection.device)
        [pairSelection.source, pairSelection.source] .completeSet = .ok decision ∧
      pairSemver.resolveSelectedPair pairSelection.host pairSelection.deck pairSelection.codec
        .present (some pairSelection.profile) (some pairSelection.device)
        [pairSelection.source] .candidate = .ok decision ∧
      pairSemver.resolvePackagePair pairSelection.host pairSelection.deck pairSelection.codec =
        .ok decision ∧
      profile ∈ decision.compatibleProfiles := by
  obtain ⟨unordered, closed, filled, packaged⟩ :=
    pairSemver.selected_sources_unordered_and_closed pairSelection.host pairSelection.deck
      pairSelection.codec .present (some pairSelection.profile) (some pairSelection.device)
  obtain ⟨alone, together, packages, slots⟩ := pair_compatible
  obtain ⟨package, paired, compatible⟩ := compatible_of_check packages
  obtain ⟨requires, required, two⟩ := (Option.any_eq_true _ _).mp slots
  obtain ⟨decision, resolved, accepted⟩ := filled package requires
    [pairSelection.source, pairSelection.source] paired compatible required
    (beq_iff_eq.mp two).symm
    (fun source among => by
      have same : source = pairSelection.source := by simpa using among
      rw [same]
      exact compatible_of_check alone)
    (List.pairwise_pair.mpr (compatible_of_check together))
  have part := closed _ [pairSelection.source] decision resolved accepted
    (List.sublist_cons_self _ _) (List.cons_ne_nil _ _)
  obtain ⟨same, profile, shared, -⟩ := packaged _ _ decision resolved accepted
  have swapped := unordered _ _ .completeSet
    (List.Perm.swap pairSelection.source pairSelection.source [])
  exact ⟨decision, profile, swapped.trans resolved, part, same, shared⟩

end LatentDeck.Packages
