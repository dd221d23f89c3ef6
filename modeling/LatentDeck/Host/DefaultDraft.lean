import LatentDeck.Host.DeckLoads

/-!
# The session of a default draft

What the interface fills in for a deck before anything is chosen, and the packages of which a
session with it starts: the runtime checks the operator again, builds `deck.load` and the protocol
checks that.
-/

namespace LatentDeck.Host

open Fallible Packages
open DeckUi (OperatorDescriptor FaceplateDescriptor DeckOperatorDescriptor
  DeckOperatorControlDescriptor Cast Taken)
open Control (Uuid ControlBinding LimitedVec RoleBinding SourceBinding)

/-- The roles of `createDeckUiDraft`: each in the slot of its place in the default permutation. -/
def defaultRoles (signal : DeckSignalDescriptor) : List RoleBinding :=
  signal.roles.map fun role =>
    ⟨role.roleId, UInt8.ofNat (signal.defaultPermutation.idxOf role.roleId + 1)⟩

/-- The controls of `createDeckUiDraft`: each at its declared default. -/
def defaultControls (controls : List DeckOperatorControlDescriptor) : List ControlBinding :=
  controls.filterMap fun control => control.defaultValue.map (⟨control.controlId, ·⟩)

/-- The request of `buildGenericDeckOpenDraft` for the default draft and chosen sources. -/
def defaultRequest (deckSessionId : Uuid) (sources : List SourceBinding)
    (signal : DeckSignalDescriptor) (operator : DeckOperatorDescriptor)
    (streamGeneration : UInt64) : DeckLoadRequest where
  deckSessionId := deckSessionId
  sources := sources
  roles := defaultRoles signal
  controls := defaultControls operator.controls
  seed := 0
  streamGeneration := streamGeneration

/-- An installed package where its receipt and its lease say: `operator.json` is read and the Python
root lies inside. -/
structure Placed (tree : PackageTree) (root : tree.Path) (manifest : DeckPackManifest)
    (receipt : TrustReceipt) (read : DeckOperatorDescriptor) : Prop where
  trusted : receiptTrusted receipt manifest = .ok ()
  found : ∃ packageRoot pythonRoot text, tree.canonicalDirectory root = .ok packageRoot ∧
    readOperator tree packageRoot manifest = .ok read ∧
    tree.canonicalDirectory (tree.join packageRoot manifest.runtime.pythonRoot) = .ok pythonRoot ∧
    tree.startsWith pythonRoot packageRoot = true ∧ tree.boundedAbsolutePath pythonRoot = .ok text

/-- The sources of a session: one for each slot, in order, each identified. -/
structure Sourced (signal : DeckSignalDescriptor) (sources : List SourceBinding) : Prop where
  slots : sources.map (fun source => source.physicalSlot.toNat) = List.range' 1 signal.slots
  identified : ∀ source ∈ sources, Identified source

section Draft

variable {operator : DeckOperatorDescriptor} {controls : List DeckOperatorControlDescriptor}

theorem descriptorOf_mem
    (distinct : (operator.controls.map DeckOperatorControlDescriptor.controlId).Nodup)
    {control : DeckOperatorControlDescriptor} (within : control ∈ operator.controls) :
    descriptorOf operator control.controlId = some control := by
  have present : (descriptorOf operator control.controlId).isSome = true := by
    unfold descriptorOf
    rw [List.find?_isSome]
    exact ⟨control, List.mem_reverse.mpr within, beq_self_eq_true _⟩
  obtain ⟨other, found⟩ := Option.isSome_iff_exists.mp present
  obtain ⟨among, named⟩ := descriptorOf_eq_some found
  rw [found, List.inj_on_of_nodup_map distinct among within named]

theorem defaultControls_length (taken : ∀ control ∈ controls, Taken control) :
    (defaultControls controls).length = controls.length := by
  induction controls with
  | nil => rfl
  | cons control controls ih =>
    rw [List.forall_mem_cons] at taken
    obtain ⟨value, declared, -⟩ := taken.1.binding
    unfold defaultControls at ih ⊢
    rw [List.filterMap_cons_some (by rw [declared]; rfl), List.length_cons, List.length_cons,
      ih taken.2]

/-- The defaults of controls with distinct names pass the loop over the controls. -/
theorem checkControls_default {seen : List String}
    (described : ∀ control ∈ controls, descriptorOf operator control.controlId = some control)
    (taken : ∀ control ∈ controls, Taken control)
    (distinct : (controls.map DeckOperatorControlDescriptor.controlId).Nodup)
    (fresh : ∀ control ∈ controls, control.controlId ∉ seen) :
    checkControls operator seen (defaultControls controls) = .ok () := by
  induction controls generalizing seen with
  | nil => rfl
  | cons control controls ih =>
    rw [List.forall_mem_cons] at described taken fresh
    rw [List.map_cons, List.nodup_cons] at distinct
    obtain ⟨value, declared, bound⟩ := taken.1.binding
    have others : ∀ other ∈ controls, other.controlId ∉ control.controlId :: seen := by
      intro other within old
      rcases List.mem_cons.mp old with same | before
      · exact distinct.1 (same ▸ List.mem_map_of_mem within)
      · exact fresh.2 other within before
    have rest := ih described.2 taken.2 distinct.2 others
    unfold defaultControls at rest ⊢
    rw [List.filterMap_cons_some (by rw [declared]; rfl)]
    unfold checkControls
    rw [check_eq_ok, refuseWhen_eq_ok, described.1]
    refine ⟨fresh.1, ?_⟩
    show (Host.described (control.validateControlBinding value) >>= fun _ => _) = _
    rw [check_eq_ok, bound]
    exact ⟨rfl, rest⟩

variable {signal : DeckSignalDescriptor} {sources : List SourceBinding}

/-- The slots of the default roles are distinct and among those of the sources. -/
theorem defaultRoles_slots (cast : Cast signal) :
    ((defaultRoles signal).map RoleBinding.physicalSlot).Nodup ∧
      ∀ role ∈ defaultRoles signal,
        role.physicalSlot ≠ 0 ∧ role.physicalSlot.toNat ≤ signal.slots := by
  have placed : ∀ role ∈ signal.roles, role.roleId ∈ signal.defaultPermutation := fun role within =>
    cast.same.1 _ (List.mem_map_of_mem within)
  have slot : ∀ role ∈ signal.roles,
      (UInt8.ofNat (signal.defaultPermutation.idxOf role.roleId + 1)).toNat =
        signal.defaultPermutation.idxOf role.roleId + 1 ∧
      signal.defaultPermutation.idxOf role.roleId + 1 ≤ signal.slots := by
    intro role within
    have inside := List.idxOf_lt_length_of_mem (placed role within)
    have few := cast.bounded
    rw [cast.permutation] at inside
    exact ⟨UInt8.toNat_ofNat_of_lt' (by unfold UInt8.size; omega), by omega⟩
  unfold defaultRoles
  rw [List.map_map]
  constructor
  · refine (List.Nodup.of_map _ cast.distinct).map_on fun role within other among same => ?_
    have slots := congrArg UInt8.toNat same
    dsimp only [Function.comp_apply] at slots
    rw [(slot role within).1, (slot other among).1, Nat.add_right_cancel_iff,
      List.idxOf_inj (placed role within)] at slots
    exact List.inj_on_of_nodup_map cast.distinct within among slots
  · rw [List.forall_mem_map]
    intro role within
    refine ⟨fun zero => ?_, (slot role within).1.symm ▸ (slot role within).2⟩
    have number := (slot role within).1
    dsimp only at zero
    rw [zero] at number
    exact absurd number.symm (Nat.succ_ne_zero _)

end Draft

variable {crates : Crates} {tree : PackageTree} {root : tree.Path} {manifest : DeckPackManifest}
  {receipt : TrustReceipt} {read : DeckOperatorDescriptor} {runtime : ActiveDeckRuntime}

/-- A placed package becomes a runtime when its operator passes the two checks. -/
theorem Placed.made (placed : Placed tree root manifest receipt read)
    (valid : DeckUi.validateRuntimeOperator crates read = .ok ())
    (crosschecked : DeckUi.crosscheckOperator manifest read = .ok ()) :
    ∃ runtime, ofDeckPackage crates tree root manifest receipt = .ok runtime ∧
      runtime.operator = read := by
  obtain ⟨packageRoot, pythonRoot, text, rooted, opened, directory, inside, named⟩ := placed.found
  have within : refuseWhen (¬ tree.startsWith pythonRoot packageRoot)
      DeckRuntimeError.packageTreeInvalid = .ok () := by
    rw [refuseWhen_eq_ok, inside]
    exact not_not_intro rfl
  refine ⟨⟨read, ?_⟩, ?_, rfl⟩
  rotate_left
  · unfold ofDeckPackage described
    rw [placed.trusted]
    show (tree.canonicalDirectory root >>= fun packageRoot => _) = _
    rw [rooted]
    show (readOperator tree packageRoot manifest >>= fun operator => _) = _
    rw [opened]
    show ((DeckUi.validateRuntimeOperator crates read).mapError _ >>= fun _ =>
      (DeckUi.crosscheckOperator manifest read).mapError _ >>= fun _ =>
        tree.canonicalDirectory (tree.join packageRoot manifest.runtime.pythonRoot) >>=
          fun pythonRoot => _) = _
    rw [valid, crosschecked, directory]
    show (refuseWhen _ _ >>= fun _ => tree.boundedAbsolutePath pythonRoot >>= fun text => _) = _
    rw [within, named]
    rfl

theorem buildLoad_of {request : DeckLoadRequest}
    (valid : validateLoadRequest runtime.operator request = .ok ())
    (sources : request.sources.length ≤ Control.maxSources)
    (roles : request.roles.length ≤ Control.maxRoles)
    (controls : request.controls.length ≤ Control.maxControls) :
    ∃ load, runtime.buildLoad request = .ok load := by
  unfold ActiveDeckRuntime.buildLoad LimitedVec.tryFromVec
  rw [valid, dif_pos sources, dif_pos roles, dif_pos controls]
  exact ⟨_, rfl⟩

/-- The default draft of an admitted package makes a request that the host takes and builds. -/
theorem defaultRequest_built {operator : OperatorDescriptor} {deckSessionId : Uuid}
    {sources : List SourceBinding} {streamGeneration : UInt64} (cast : Cast manifest.signal)
    (contracted : DeckUi.Contracted crates manifest operator) (same : operator.SameFile read)
    (few : operator.controls.length ≤ 64) (sourced : Sourced manifest.signal sources)
    (identity : deckSessionId.isNil = false) (started : streamGeneration ≠ 0)
    (loaded : runtime.operator = read) :
    ∃ load, runtime.buildLoad
      (defaultRequest deckSessionId sources manifest.signal read streamGeneration) = .ok load := by
  have taken := DeckUi.taken_of_sameFiles same.controls contracted.valid
  have count : read.controls.length ≤ 64 := same.controls.length_eq ▸ few
  have distinct : (read.controls.map DeckOperatorControlDescriptor.controlId).Nodup := by
    rw [DeckUi.controlIds_of_sameFiles same.controls]
    exact contracted.distinct
  have slots : sources.length = manifest.signal.slots := by
    rw [← List.length_map (f := fun source : SourceBinding => source.physicalSlot.toNat),
      sourced.slots, List.length_range']
  have sourceCount := same.sourceCount.trans contracted.sourceCount
  have roleIds := same.roleIds.trans contracted.roleIds
  have roleNames : (defaultRoles manifest.signal).map RoleBinding.role = read.roleIds := by
    rw [roleIds]
    unfold defaultRoles
    rw [List.map_map]
    rfl
  have roleCount : (defaultRoles manifest.signal).length = manifest.signal.slots := by
    unfold defaultRoles
    rw [List.length_map, cast.roles]
  have controlCount := defaultControls_length taken
  have controlsPass := checkControls_default (fun control => descriptorOf_mem distinct) taken
    distinct fun control within => List.not_mem_nil
  obtain ⟨rolesDistinct, rolesInside⟩ := defaultRoles_slots cast
  have bounded := cast.bounded
  have sorted : (List.range' 1 manifest.signal.slots).insertionSort (· ≤ ·) =
      List.range' 1 manifest.signal.slots := (List.pairwise_le_range' 1).insertionSort_eq
  have request : validateLoadRequest runtime.operator
      (defaultRequest deckSessionId sources manifest.signal read streamGeneration) = .ok () := by
    unfold validateLoadRequest defaultRequest
    rw [loaded]
    dsimp only
    rw [check_eq_ok, check_eq_ok, check_eq_ok, refuseWhen_eq_ok, refuseWhen_eq_ok,
      refuseWhen_eq_ok, sourced.slots, sorted, roleNames, sourceCount, slots, roleCount,
      controlCount, identity]
    have names : read.roleIds.length = manifest.signal.slots := by
      rw [← roleNames, List.length_map, roleCount]
    refine ⟨by simp [started, names], not_not_intro rfl, ?_, controlsPass⟩
    rintro (apart | repeated | ⟨role, within, outside⟩)
    · exact apart ⟨fun role within => within, fun role within => within⟩
    · exact repeated rolesDistinct
    · have inside := rolesInside role within
      exact outside.elim inside.1 (Nat.not_lt.mpr inside.2)
  exact buildLoad_of request (slots.trans_le bounded) (roleCount.trans_le bounded)
    (controlCount.trans_le count)

end LatentDeck.Host
