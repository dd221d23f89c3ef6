import LatentDeck.DeckUi.Contract

/-!
# What acceptance tells

The checks of the manifest and of the contract as facts, for the validators that look at the same
package again.
-/

namespace LatentDeck.DeckUi

open Fallible Packages

variable {crates : Crates} {manifest : DeckPackManifest} {operator : OperatorDescriptor}

/-- What the contract tells about an operator. -/
structure Contracted (crates : Crates) (manifest : DeckPackManifest)
    (operator : OperatorDescriptor) : Prop where
  schemaVersion : operator.schemaVersion = "0.2.0"
  deckOperatorApi : operator.deckOperatorApi = "0.2.0"
  deckId : operator.deckId = manifest.deckId
  deckVersion : operator.deckVersion = manifest.deckVersion
  sourceCount : operator.sourceCount = manifest.signal.slots
  roleIds : operator.roleIds = manifest.signal.roles.map DeckRoleDescriptor.roleId
  entrypoint : operator.entrypoint = manifest.runtime.entrypoint
  version : crates.validateSemver operator.operatorVersion = .ok ()
  operatorId : validIdentifier operator.operatorId = true
  nonempty : operator.controls ≠ []
  bounded : operator.controls.length ≤ maxControls
  valid : ∀ control ∈ operator.controls,
    validIdentifier control.controlId = true ∧ validControl control.valueType = true
  distinct : (operator.controls.map ControlDescriptor.controlId).Nodup

theorem contracted_of_validateOperator
    (accepted : validateOperator crates manifest operator = .ok ()) :
    Contracted crates manifest operator := by
  unfold validateOperator invalidWhen at accepted
  iterate 4 rw [check_eq_ok] at accepted
  rw [checkEach_eq_ok] at accepted
  simp only [refuseWhen_eq_ok, not_or, not_not, Nat.not_lt] at accepted
  obtain ⟨⟨schema, api, deckId, deckVersion, sources, roles, entrypoint⟩, semver,
    ⟨operatorId, nonempty, bounded⟩, valid, distinct⟩ := accepted
  exact ⟨schema, api, deckId, deckVersion, sources, roles, entrypoint, semver, operatorId, nonempty,
    bounded, valid, distinct⟩

/-- What the manifest checks tell about the parts that the runtime looks at. -/
structure Described (crates : Crates) (manifest : DeckPackManifest) : Prop where
  deckId : validateReverseDnsId manifest.deckId = .ok ()
  deckVersion : crates.validatePackageVersion manifest.deckVersion = .ok ()
  texts : validateCommonManifestText manifest.displayName manifest.summary manifest.publisher
    manifest.license = .ok ()
  entrypoint : validateEntrypoint manifest.runtime.entrypoint = .ok ()
  signal : crates.validateDeckSignal manifest.signal = .ok ()

theorem described_of_validateDeckManifest
    (accepted : crates.validateDeckManifest manifest = .ok ()) : Described crates manifest := by
  unfold Crates.validateDeckManifest at accepted
  simp only [check_eq_ok] at accepted
  obtain ⟨-, deckId, deckVersion, texts, -, -, -, -, -, entrypoint, signal, -⟩ := accepted
  exact ⟨deckId, deckVersion, texts, entrypoint, signal⟩

/-- What the checks of the signal tell about the roles. -/
structure Cast (signal : DeckSignalDescriptor) : Prop where
  populated : 1 ≤ signal.slots
  bounded : signal.slots ≤ 16
  roles : signal.roles.length = signal.slots
  permutation : signal.defaultPermutation.length = signal.slots
  each : ∀ role ∈ signal.roles, validateLocalId role.roleId = .ok () ∧
    validateBoundedText role.displayName 1 80 = .ok ()
  distinct : (signal.roles.map DeckRoleDescriptor.roleId).Nodup
  permuted : signal.defaultPermutation.Nodup
  same : SameElements (signal.roles.map DeckRoleDescriptor.roleId) signal.defaultPermutation
  carrier : signal.structuralCarrierRole ∈ signal.roles.map DeckRoleDescriptor.roleId
  capabilities : signal.requiredCapabilities ≠ [] ∧ signal.requiredCapabilities.length ≤ 6 ∧
    signal.requiredCapabilities.Nodup

theorem cast_of_validateDeckSignal {signal : DeckSignalDescriptor}
    (accepted : crates.validateDeckSignal signal = .ok ()) : Cast signal := by
  unfold Crates.validateDeckSignal invalidWhen validateCapabilitySet invalidWhen at accepted
  simp only [check_eq_ok, checkEach_eq_ok, refuseWhen_eq_ok] at accepted
  simp only [not_or, not_not, not_exists, not_and, Nat.not_lt] at accepted
  obtain ⟨⟨slots, roles, permutation⟩, each, distinct, ⟨permuted, forth⟩, back, carrier, -,
    -, -, -, ⟨few, unique, -⟩, needed, -⟩ := accepted
  exact ⟨by omega, by omega, roles, permutation, each, distinct, permuted, ⟨forth, back⟩, carrier,
    needed, few, unique⟩

def exampleCrates : Crates where
  Version := String
  parseVersion text := if text ∈ ["0.1.0", "1.0.0", "2.9.0"] then some text else none
  renderVersion version := version
  before first second := decide (first < second)
  sha256 _ := zeroSha256
  sha256_canonical _ := isSha256_zeros
  decodeDeckManifest _ := none
  decodeCodecManifest _ := none
  decodeIntegrityCatalog _ := none
  isStrictJson _ := false
  isRfc3339 _ := false

def exampleManifest (deckId roleId : String) : DeckPackManifest where
  manifestVersion := "1.0.0"
  kind := .deckPack
  deckId := deckId
  deckVersion := "1.0.0"
  displayName := "Example"
  summary := "Example"
  publisher := ⟨"Example", none, .selfDeclared⟩
  license := ⟨"MIT", "NOTICE.md"⟩
  compatibility := {
    appMinInclusive := "0.1.0"
    appMaxExclusive := "1.0.0"
    deckHostApi := 1
    workerProtocol := 2
    deckOperatorApi := 1
    tensorAbi := "latentdeck.tensor.v1"
    python := ⟨.cpython, "3.13", "win_amd64"⟩
    torchExactBuild := "2.9.0" }
  runtime := ⟨.pythonOperatorStreamV1, "operator.json", "python", "example.main:create"⟩
  signal := {
    slots := 1
    roles := [⟨roleId, "Source"⟩]
    defaultPermutation := [roleId]
    structuralCarrierRole := roleId
    geometryAllowlist := [⟨.fp16, .cuda, 1, 24, 1, 8, 8⟩]
    timing := ⟨24, 1, 4⟩
    requiredCapabilities := [.realtime]
    profileAllowlist := none }
  faceplatePath := "faceplate.json"
  integrity := ⟨"integrity.json", exampleCrates.sha256 []⟩

def exampleOperator (deckId roleId : String) : OperatorDescriptor where
  schemaVersion := "0.2.0"
  deckOperatorApi := "0.2.0"
  deckId := deckId
  deckVersion := "1.0.0"
  operatorId := "example.main"
  operatorVersion := "1.0.0"
  entrypoint := "example.main:create"
  sourceCount := 1
  roleIds := [roleId]
  controls := [⟨"bypass", .boolean false⟩]

def exampleFaceplate (roleId : String) : FaceplateDescriptor where
  schemaVersion := 1
  title := "Example"
  sections := [{
    sectionId := "main"
    title := "Main"
    region := none
    columns := none
    widgets := [⟨"source", "Source", none, .sourcePicker 0⟩,
      ⟨"bypass", "Bypass", none, .toggle "bypass"⟩,
      ⟨"roles", "Roles", none, .roleEditor [roleId]⟩,
      ⟨"transport", "Transport", none, .transport [0]⟩, ⟨"seed", "Seed", none, .seed⟩,
      ⟨"monitor", "Monitor", none, .monitor⟩] }]

end LatentDeck.DeckUi
